import NodeFlags.Proofs.Comment

/-!
# Comments are removed, and nothing else

The walk that removes comments can be cut in two at any place: the second part goes on
from where the first one ended (`Json.Comment.stripFrom_append`). Only a slash at the end
of what was kept stands in the way, because a mark may be cut in two there.

From this it follows what becomes of a comment wherever it stands, and that what is left
has no comments any more (`Json.Comment.stripFrom_stripFrom`). A removal brings together
what stood before a comment and what stood behind it, but never two characters that make
a new mark: a slash before a comment would have begun a comment itself.
-/

namespace NodeFlags.Json.Comment

/-! ### A walk in two parts -/

/-- Where the walk stands at the end of a text. -/
def endFrom : State → List Char → State
  | state, [] => state
  | .outside, '/' :: '/' :: rest => endFrom .inLine rest
  | .outside, '/' :: '*' :: rest => endFrom (.inBlock false) rest
  | .outside, c :: rest => endFrom (if c = '"' then .inText else .outside) rest
  | .inText, c :: rest =>
    endFrom (if c = '\\' then .escaped else if c = '"' then .outside else .inText) rest
  | .escaped, _ :: rest => endFrom .inText rest
  | .inLine, c :: rest => endFrom (if c = '\n' then .outside else .inLine) rest
  | .inBlock star, c :: rest =>
    endFrom (if star && c = '/' then .outside else .inBlock (c = '*')) rest

/-- A text goes on with neither of the characters that make a comment of a slash. -/
def NoMark (cs : List Char) : Prop :=
  cs.head? ≠ some '/' ∧ cs.head? ≠ some '*'

/-- Outside texts and comments a character is kept, unless it is the slash of a comment. -/
theorem stripFrom_outside_cons {c : Char} {cs : List Char} (h : c = '/' → NoMark cs) :
    stripFrom .outside (c :: cs) =
      c :: stripFrom (if c = '"' then .inText else .outside) cs := by
  rw [stripFrom]
  · rintro rest rfl rfl
    exact (h rfl).1 rfl
  · rintro rest rfl rfl
    exact (h rfl).2 rfl

theorem noMark_of_forall_ne {c : Char} {cs : List Char}
    (hline : ∀ rest, c = '/' → cs = '/' :: rest → False)
    (hblock : ∀ rest, c = '/' → cs = '*' :: rest → False) (hc : c = '/') : NoMark cs := by
  constructor
  · intro h
    obtain ⟨rest, hrest⟩ := List.head?_eq_some_iff.1 h
    exact hline rest hc hrest
  · intro h
    obtain ⟨rest, hrest⟩ := List.head?_eq_some_iff.1 h
    exact hblock rest hc hrest

theorem getLast?_ne_of_cons {c x : Char} {cs : List Char} (h : (c :: cs).getLast? ≠ some x) :
    cs.getLast? ≠ some x := by
  intro hcs
  rw [List.getLast?_cons, hcs] at h
  exact h rfl

/-- **The walk over two texts**: it goes on in the second from where it ended in the first. -/
theorem stripFrom_append {state : State} {p : List Char}
    (h : (stripFrom state p).getLast? ≠ some '/') (q : List Char) :
    stripFrom state (p ++ q) = stripFrom state p ++ stripFrom (endFrom state p) q := by
  fun_induction stripFrom state p with
  | case1 state => cases state <;> rfl
  | case2 rest ih => exact ih h
  | case3 rest ih => exact ih h
  | case4 c rest hline hblock ih =>
    -- a slash that is kept is followed by what makes no comment of it, or the last that is kept
    have hmark : c = '/' → NoMark (rest ++ q) := by
      intro hc
      have hrest := noMark_of_forall_ne hline hblock hc
      cases rest with
      | cons d rest => exact hrest
      | nil =>
        subst hc
        exact absurd rfl h
    rw [List.cons_append, stripFrom_outside_cons hmark, ih (getLast?_ne_of_cons h), endFrom]
    · rfl
    · exact hline
    · exact hblock
  | case5 c rest ih =>
    rw [List.cons_append, stripFrom, ih (getLast?_ne_of_cons h), endFrom]
    rfl
  | case6 c rest ih =>
    rw [List.cons_append, stripFrom, ih (getLast?_ne_of_cons h), endFrom]
    rfl
  | case7 rest ih =>
    rw [List.cons_append, stripFrom, if_pos rfl, ih (getLast?_ne_of_cons h), endFrom, if_pos rfl]
    rfl
  | case8 c rest hc ih =>
    rw [List.cons_append, stripFrom, if_neg hc, ih h, endFrom, if_neg hc]
  | case9 star c rest ih =>
    rw [List.cons_append, stripFrom, ih h, endFrom]

/-! ### One comment -/

/-- A block comment ends with the first star and slash. -/
theorem stripFrom_inBlock_append {body : List Char} (hbody : ¬ ['*', '/'] <:+: body) {star : Bool}
    (hstar : star = true → body.head? ≠ some '/') (rest : List Char) :
    stripFrom (.inBlock star) (body ++ '*' :: '/' :: rest) = strip rest := by
  induction body generalizing star with
  | nil => cases star <;> simp [stripFrom, strip]
  | cons c body ih =>
    have hopen : ¬ (star && decide (c = '/')) = true := by
      intro h
      obtain ⟨h, hc⟩ := Bool.and_eq_true_iff.1 h
      exact hstar h (congrArg some (of_decide_eq_true hc))
    have hnext : decide (c = '*') = true → body.head? ≠ some '/' := by
      intro hc hhead
      obtain ⟨body, rfl⟩ := List.head?_eq_some_iff.1 hhead
      exact hbody ⟨[], body, by rw [of_decide_eq_true hc]; rfl⟩
    rw [List.cons_append, stripFrom, if_neg hopen]
    exact ih (fun h => hbody (List.infix_cons h)) hnext

/-- A line comment ends with the line, of which the line feed is kept. -/
theorem stripFrom_inLine_append {line : List Char} (hline : '\n' ∉ line) (rest : List Char) :
    stripFrom .inLine (line ++ '\n' :: rest) = '\n' :: strip rest := by
  induction line with
  | nil => rfl
  | cons c line ih =>
    obtain ⟨hc, hline⟩ := not_or.1 (mt List.mem_cons.2 hline)
    rw [List.cons_append, stripFrom, if_neg (Ne.symm hc), ih hline]

/-! ### What is left -/

/-- Where a walk over what was kept stands: it meets no comments. -/
def State.ofKept : State → State
  | .outside | .inLine | .inBlock _ => .outside
  | .inText => .inText
  | .escaped => .escaped

/-- What is kept outside texts and comments goes on as the text does, up to the next comment. -/
theorem noMark_strip {cs : List Char} (h : NoMark cs) : NoMark (strip cs) := by
  cases cs with
  | nil => exact h
  | cons c cs =>
    have hc : c = '/' → NoMark cs := fun hc => absurd (congrArg some hc) h.1
    rw [strip, stripFrom_outside_cons hc]
    exact h

/-- **What is left has no comments**: a second walk over it keeps all of it. -/
theorem stripFrom_stripFrom (state : State) (cs : List Char) :
    stripFrom state.ofKept (stripFrom state cs) = stripFrom state cs := by
  fun_induction stripFrom state cs with
  | case1 state => cases state <;> rfl
  | case2 rest ih => exact ih
  | case3 rest ih => exact ih
  | case4 c rest hline hblock ih =>
    have hmark : c = '/' → NoMark (stripFrom (if c = '"' then .inText else .outside) rest) := by
      intro hc
      rw [if_neg (by rw [hc]; decide)]
      exact noMark_strip (noMark_of_forall_ne hline hblock hc)
    have hnext : (if c = '"' then State.inText else .outside).ofKept =
        if c = '"' then .inText else .outside := by
      split <;> rfl
    rw [State.ofKept, stripFrom_outside_cons hmark]
    rw [hnext] at ih
    rw [ih]
  | case5 c rest ih =>
    have hnext : (if c = '\\' then State.escaped else if c = '"' then .outside
          else .inText).ofKept =
        if c = '\\' then .escaped else if c = '"' then .outside else .inText := by
      split
      · rfl
      · split <;> rfl
    rw [State.ofKept, stripFrom]
    rw [hnext] at ih
    rw [ih]
  | case6 c rest ih =>
    rw [State.ofKept, stripFrom_escaped]
    exact congrArg _ ih
  | case7 rest ih =>
    rw [State.ofKept, stripFrom_outside_char (by decide) (by decide)]
    exact congrArg _ ih
  | case8 c rest hc ih => exact ih
  | case9 star c rest ih =>
    split at ih
    · rw [if_pos ‹_›]; exact ih
    · rw [if_neg ‹_›]; exact ih

/-! ### On texts -/

theorem toList_stripText (s : String) : (stripText s).toList = strip s.toList :=
  String.toList_ofList

theorem stripText_append {p : String} (hend : endFrom .outside p.toList = .outside)
    (hslash : (stripText p).toList.getLast? ≠ some '/') (s : String) :
    stripText (p ++ s) = stripText p ++ stripText s := by
  rw [toList_stripText] at hslash
  rw [← String.toList_inj, String.toList_append, toList_stripText, toList_stripText,
    toList_stripText, String.toList_append, strip, stripFrom_append hslash, hend]
  rfl

theorem stripText_block {c : String} (hc : ¬ ['*', '/'] <:+: c.toList) (s : String) :
    stripText ("/*" ++ (c ++ "*/" ++ s)) = stripText s := by
  have htext : ("/*" ++ (c ++ "*/" ++ s)).toList =
      '/' :: '*' :: (c.toList ++ '*' :: '/' :: s.toList) := by
    simp
  have hblock : stripFrom (.inBlock false) (c.toList ++ '*' :: '/' :: s.toList) = strip s.toList :=
    stripFrom_inBlock_append hc (fun h => absurd h Bool.false_ne_true) s.toList
  rw [← String.toList_inj, toList_stripText, toList_stripText, htext, ← hblock]
  rfl

theorem stripText_line {d : String} (hd : '\n' ∉ d.toList) (s : String) :
    stripText ("//" ++ (d ++ "\n" ++ s)) = "\n" ++ stripText s := by
  have htext : ("//" ++ (d ++ "\n" ++ s)).toList =
      '/' :: '/' :: (d.toList ++ '\n' :: s.toList) := by
    simp
  have hline : stripFrom .inLine (d.toList ++ '\n' :: s.toList) = '\n' :: strip s.toList :=
    stripFrom_inLine_append hd s.toList
  rw [← String.toList_inj, toList_stripText, htext, String.toList_append, toList_stripText]
  exact hline

/-- **Comments are removed exactly.** After a text that ends outside texts and comments, and of
which no slash is left at the end, a block comment is removed without a trace and a line comment up
to its line feed, whatever they hold and whatever follows. What is left of any text, well formed
or not, has no comments any more. -/
theorem stripText_exact :
    (∀ p s : String, endFrom .outside p.toList = .outside →
      (stripText p).toList.getLast? ≠ some '/' →
        (∀ c : String, ¬ ['*', '/'] <:+: c.toList →
          stripText (p ++ "/*" ++ c ++ "*/" ++ s) = stripText p ++ stripText s) ∧
        ∀ d : String, '\n' ∉ d.toList →
          stripText (p ++ "//" ++ d ++ "\n" ++ s) = stripText p ++ "\n" ++ stripText s) ∧
    ∀ text : String, stripText (stripText text) = stripText text := by
  refine ⟨fun p s hend hslash => ⟨fun c hc => ?_, fun d hd => ?_⟩, fun text => ?_⟩
  · calc stripText (p ++ "/*" ++ c ++ "*/" ++ s)
        = stripText (p ++ ("/*" ++ (c ++ "*/" ++ s))) := by simp only [String.append_assoc]
      _ = stripText p ++ stripText s := by
        rw [stripText_append hend hslash, stripText_block hc]
  · calc stripText (p ++ "//" ++ d ++ "\n" ++ s)
        = stripText (p ++ ("//" ++ (d ++ "\n" ++ s))) := by simp only [String.append_assoc]
      _ = stripText p ++ ("\n" ++ stripText s) := by
        rw [stripText_append hend hslash, stripText_line hd]
      _ = stripText p ++ "\n" ++ stripText s := String.append_assoc.symm
  · rw [← String.toList_inj, toList_stripText, toList_stripText]
    exact stripFrom_stripFrom .outside text.toList

/-- A star and a slash that share a character, quotes in comments, marks in texts, a slash behind a
comment, and a text that breaks off. -/
theorem stripText_exact_marks :
    stripText ("[\"//\\\"/*\", " ++ "/*" ++ "/ \" **" ++ "*/" ++ "1]/") =
      "[\"//\\\"/*\", 1]/" ∧
    stripText ("[\"//\\\"/*\", " ++ "//" ++ "/* \"" ++ "\n" ++ "1]/") =
      "[\"//\\\"/*\", \n1]/" ∧
    stripText (stripText "x/ /**// \"/*\\") = "x/ / \"/*\\" := by
  obtain ⟨hcomment, hagain⟩ := stripText_exact
  obtain ⟨hblock, hline⟩ :=
    hcomment "[\"//\\\"/*\", " "1]/" (by decide +kernel) (by decide +kernel)
  exact ⟨(hblock "/ \" **" (by decide +kernel)).trans (by decide +kernel),
    (hline "/* \"" (by decide +kernel)).trans (by decide +kernel),
    (hagain "x/ /**// \"/*\\").trans (by decide +kernel)⟩

end NodeFlags.Json.Comment
