import NodeFlags.Command.Options
import NodeFlags.Proofs.Outcome

/-!
# Arguments without the role option

What the other arguments ask for does not depend on whether a role is named among
them: without the option and its value they are read as the same options, with no role
(`Options.ofArguments_withoutRole`).

The two readings go side by side. Where the reading with the role looks at what it
holds back, because the role option begins, the other one goes on holding it. So the
drafts are not equal in between; they only come to the same once both have looked at
what they hold back. `Follows` says this, each argument preserves it, and at the end
the drafts are the same but for the role.
-/

namespace NodeFlags.Command

/-- The role option with its value attached. -/
def attachesRole (arg : String) : Bool :=
  "--role=".toList.isPrefixOf arg.toList

/-- Arguments without the role option and its value; `nameDue` tells that the value comes
next. After `--` all arguments are paths. -/
def withoutRole (nameDue : Bool) : List String → List String
  | [] => []
  | arg :: rest =>
    if nameDue then withoutRole false rest
    else if arg = "--" then arg :: rest
    else if arg = "--role" then withoutRole true rest
    else if attachesRole arg then withoutRole false rest
    else arg :: withoutRole false rest

/-- What is held back is not about the role. -/
def Held.NotRole : Held → Prop
  | .awaiting .role => False
  | .value .role _ => False
  | _ => True

theorem notRole_awaiting {option : ValueOption} (h : option ≠ .role) :
    (Held.awaiting option).NotRole := by
  cases option with
  | role => exact h rfl
  | targetVersion | format => trivial

theorem notRole_value {option : ValueOption} (h : option ≠ .role) (text : String) :
    (Held.value option text).NotRole := by
  cases option with
  | role => exact h rfl
  | targetVersion | format => trivial

namespace Draft

/-- A draft without its role. -/
def forget (d : Draft) : Draft :=
  { d with role := none }

/-! ### What is held back -/

/-- Setting an option leaves what is held back, and whether a path was met. -/
theorem held_setValue {d e : Draft} {option : ValueOption} {text : String}
    (h : d.setValue option text = .ok e) : e.held = d.held ∧ e.fileMet = d.fileMet := by
  obtain ⟨_, _, _, _, targetVersion, role, format, _, _⟩ := d
  cases option with
  | targetVersion =>
    cases targetVersion <;> cases h
    exact ⟨rfl, rfl⟩
  | role =>
    cases role <;> cases h
    exact ⟨rfl, rfl⟩
  | format =>
    cases format with
    | some _ => cases h
    | none =>
      simp only [setValue, Option.isSome_none, Bool.false_eq_true, if_false] at h
      split at h
      · cases h
        exact ⟨rfl, rfl⟩
      · cases h

/-- An option other than the role is set alike whether the role is there or not. -/
theorem setValue_forget {option : ValueOption} (hoption : option ≠ .role) (d : Draft)
    (text : String) : d.forget.setValue option text = forget <$> d.setValue option text := by
  obtain ⟨_, _, _, _, targetVersion, _, format, _, _⟩ := d
  cases option with
  | role => exact absurd rfl hoption
  | targetVersion => cases targetVersion <;> rfl
  | format =>
    cases format with
    | some _ => rfl
    | none =>
      simp only [setValue, forget, Option.isSome_none, Bool.false_eq_true, if_false]
      cases OutputFormat.ofName? text <;> rfl

/-- A role that was set is all that its option changes. -/
theorem forget_setValue_role {d e : Draft} {text : String}
    (h : d.setValue .role text = .ok e) : e.forget = d.forget := by
  simp only [setValue] at h
  split at h
  · cases h
  · cases h
    rfl

theorem held_settle {d e : Draft} (h : d.settle = .ok e) :
    e.held = .nothing ∧ e.fileMet = d.fileMet := by
  unfold settle at h
  split at h
  · rename_i hheld
    cases h
    exact ⟨hheld, rfl⟩
  · cases h
  · exact held_setValue h
  · split at h
    · cases h
    · cases h
      exact ⟨rfl, rfl⟩

theorem settle_of_nothing {d : Draft} (h : d.held = .nothing) : d.settle = .ok d := by
  rw [settle, h]

theorem not_settle_awaiting {d e : Draft} {option : ValueOption}
    (h : d.held = .awaiting option) : d.settle ≠ .ok e := by
  rw [settle, h]
  exact nofun

/-- What is not about the role is looked at alike whether the role is there or not. -/
theorem settle_forget {d : Draft} (hheld : d.held.NotRole) :
    d.forget.settle = forget <$> d.settle := by
  obtain ⟨file, verbosity, upgrade, fingerprint, targetVersion, role, format, held, fileMet⟩ := d
  cases held with
  | nothing => rfl
  | awaiting _ => rfl
  | value option text =>
    have hoption : option ≠ .role := by
      rintro rfl
      exact hheld
    exact setValue_forget hoption
      ⟨file, verbosity, upgrade, fingerprint, targetVersion, role, format, .nothing, fileMet⟩ text
  | file path =>
    simp only [settle, forget]
    cases path.isEmpty <;> rfl

/-! ### Side by side -/

/-- How the draft with a role and the one without it stand to each other: `d'` comes to what `d`
comes to, but for the role; `nameDue` tells that the role's name is the next argument. -/
inductive Follows (d : Draft) : Bool → Draft → Prop where
  /-- Neither waits for a value. -/
  | settled {d' : Draft} : (∀ option, d.held ≠ .awaiting option) →
    (∀ e, d.settle = .ok e → d'.settle = .ok e.forget) → Follows d false d'
  /-- Both wait for the value of one option. -/
  | awaiting {option : ValueOption} : option ≠ .role → d.held = .awaiting option →
    Follows d false d.forget
  /-- The one with the role waits for its name, and had looked at what it held back. -/
  | due {d' : Draft} : d.held = .awaiting .role →
    d'.settle = .ok { d with held := .nothing, role := none } → Follows d true d'

/-- A draft is followed by itself without the role, as long as it holds back none. -/
theorem Follows.forget {d : Draft} (hheld : d.held.NotRole) : Follows d false d.forget := by
  by_cases hawaits : ∃ option, d.held = .awaiting option
  · obtain ⟨option, hoption⟩ := hawaits
    refine .awaiting ?_ hoption
    rintro rfl
    rw [hoption] at hheld
    exact hheld
  · refine .settled (fun option h => hawaits ⟨option, h⟩) fun e he => ?_
    rw [settle_forget hheld, he]
    rfl

/-- Where the draft with the role has looked at what it held back, the other one can. -/
theorem Follows.settle {d d' e : Draft} {nameDue : Bool} (h : Follows d nameDue d')
    (he : d.settle = .ok e) : d'.settle = .ok e.forget := by
  cases h with
  | settled _ hsettle => exact hsettle e he
  | awaiting _ hheld => exact absurd he (not_settle_awaiting hheld)
  | due hheld _ => exact absurd he (not_settle_awaiting hheld)

/-- What a draft does after it looked at what it holds back, if the role has no part in it. -/
structure RoleFree (f : Draft → Except Stop Draft) : Prop where
  forget : ∀ e, f e.forget = Draft.forget <$> f e
  held : ∀ {e r}, e.held = .nothing → f e = .ok r → r.held.NotRole

/-- A step in which the role has no part keeps the drafts together. -/
theorem Follows.bind {d d' r : Draft} {nameDue : Bool} (h : Follows d nameDue d')
    {f : Draft → Except Stop Draft} (hf : RoleFree f) (hr : d.settle >>= f = .ok r) :
    ∃ r', d'.settle >>= f = .ok r' ∧ Follows r false r' := by
  cases he : d.settle with
  | error stop =>
    rw [he] at hr
    cases hr
  | ok e =>
    rw [he] at hr
    have hr : f e = .ok r := hr
    refine ⟨r.forget, ?_, .forget (hf.held (held_settle he).1 hr)⟩
    rw [h.settle he]
    show f e.forget = _
    rw [hf.forget, hr]
    rfl

theorem roleFree_setValue {option : ValueOption} (hoption : option ≠ .role) (text : String) :
    RoleFree fun e => e.setValue option text where
  forget e := setValue_forget hoption e text
  held hnothing h := by
    rw [(held_setValue h).1, hnothing]
    trivial

theorem roleFree_await {option : ValueOption} (hoption : option ≠ .role) :
    RoleFree fun e => .ok { e with held := .awaiting option } where
  forget _ := rfl
  held _ h := by
    cases h
    exact notRole_awaiting hoption

/-! ### Arguments one by one -/

theorem Follows.takeSwitch {d d' r : Draft} {nameDue : Bool} (h : Follows d nameDue d')
    {s : Switch} (hr : d.takeSwitch s = .ok r) :
    ∃ r', d'.takeSwitch s = .ok r' ∧ Follows r false r' := by
  refine h.bind ⟨?_, ?_⟩ hr
  · intro e
    obtain ⟨_, _, upgrade, fingerprint, _, _, _, _, _⟩ := e
    cases s with
    | verbose | help | version => rfl
    | upgrade => cases upgrade <;> rfl
    | fingerprint => cases fingerprint <;> rfl
  · intro e r hnothing hr
    have hheld : r.held = e.held := by
      obtain ⟨_, _, upgrade, fingerprint, _, _, _, _, _⟩ := e
      cases s with
      | verbose =>
        cases hr
        rfl
      | help | version => cases hr
      | upgrade =>
        cases upgrade <;> cases hr
        rfl
      | fingerprint =>
        cases fingerprint <;> cases hr
        rfl
    rw [hheld, hnothing]
    trivial

theorem Follows.takeLetters {d d' r : Draft} {cs : List Char} (h : Follows d false d')
    (hr : d.takeLetters cs = .ok r) : ∃ r', d'.takeLetters cs = .ok r' ∧ Follows r false r' := by
  induction cs generalizing d d' with
  | nil =>
    cases hr
    exact ⟨d', rfl, h⟩
  | cons c cs ih =>
    rw [Draft.takeLetters] at hr
    rw [Draft.takeLetters]
    cases hs : Switch.ofLetter? c with
    | none =>
      rw [hs] at hr
      cases hr
    | some s =>
      rw [hs] at hr
      obtain ⟨e, he, hr⟩ := bind_eq_ok_iff.1 hr
      obtain ⟨e', he', hfollows⟩ := h.takeSwitch he
      obtain ⟨r', hr', hfollows⟩ := ih hfollows hr
      refine ⟨r', ?_, hfollows⟩
      simp only [he']
      exact hr'

/-- A path is only taken by a draft that has met none, once it looked at what it holds back. -/
theorem takeFile_eq_ok_iff {d r : Draft} {path : String} :
    d.takeFile path = .ok r ↔ d.fileMet = false ∧
      (d.settle >>= fun e => .ok { e with held := .file path, fileMet := true }) = .ok r := by
  unfold takeFile
  cases d.fileMet with
  | true => exact ⟨nofun, nofun⟩
  | false => exact ⟨fun h => ⟨rfl, h⟩, fun h => h.2⟩

theorem Follows.takeFile {d d' r : Draft} {nameDue : Bool} (h : Follows d nameDue d')
    {path : String} (hr : d.takeFile path = .ok r) :
    ∃ r', d'.takeFile path = .ok r' ∧ Follows r false r' := by
  obtain ⟨hmet, hr⟩ := takeFile_eq_ok_iff.1 hr
  obtain ⟨e, he, -⟩ := bind_eq_ok_iff.1 hr
  -- neither draft loses the mark that it met a path by looking at what it holds back
  have hmet' : d'.fileMet = false := by
    rw [← (held_settle (h.settle he)).2, ← hmet, ← (held_settle he).2]
    rfl
  obtain ⟨r', hr', hfollows⟩ := h.bind ⟨fun _ => rfl, fun _ hf => by cases hf; trivial⟩ hr
  exact ⟨r', takeFile_eq_ok_iff.2 ⟨hmet', hr'⟩, hfollows⟩

theorem Follows.takeFiles {d d' r : Draft} {nameDue : Bool} (h : Follows d nameDue d')
    {paths : List String} (hr : paths.foldlM Draft.takeFile d >>= Draft.settle = .ok r) :
    paths.foldlM Draft.takeFile d' >>= Draft.settle = .ok r.forget := by
  induction paths generalizing d d' nameDue with
  | nil => exact h.settle hr
  | cons path paths ih =>
    rw [List.foldlM_cons, bind_assoc] at hr
    obtain ⟨e, he, hr⟩ := bind_eq_ok_iff.1 hr
    obtain ⟨e', he', hfollows⟩ := h.takeFile he
    rw [List.foldlM_cons, he']
    exact ih hfollows hr

/-- A word is a path unless a value is waited for. -/
theorem takeWord_eq_takeFile {d : Draft} (h : ∀ option, d.held ≠ .awaiting option)
    (word : String) : d.takeWord word = d.takeFile word := by
  unfold takeWord
  split
  · rename_i option hheld
    exact absurd hheld (h option)
  · rfl

theorem takeWord_of_awaiting {d : Draft} {option : ValueOption} (h : d.held = .awaiting option)
    (word : String) : d.takeWord word = .ok { d with held := .value option word } := by
  rw [takeWord, h]

theorem Follows.takeWord {d d' r : Draft} (h : Follows d false d') {word : String}
    (hr : d.takeWord word = .ok r) : ∃ r', d'.takeWord word = .ok r' ∧ Follows r false r' := by
  cases h with
  | @awaiting option hoption hheld =>
    rw [takeWord_of_awaiting hheld] at hr
    cases hr
    exact ⟨_, takeWord_of_awaiting (d := d.forget) hheld word,
      .forget (notRole_value hoption word)⟩
  | settled hwaits hsettle =>
    rw [takeWord_eq_takeFile hwaits] at hr
    obtain ⟨e, he, -⟩ := bind_eq_ok_iff.1 (takeFile_eq_ok_iff.1 hr).2
    have hwaits' : ∀ option, d'.held ≠ .awaiting option :=
      fun option hheld => not_settle_awaiting hheld (hsettle e he)
    rw [takeWord_eq_takeFile hwaits']
    exact (Follows.settled hwaits hsettle).takeFile hr

/-- The name of the role that is due. -/
theorem Follows.takeName {d d' r : Draft} (h : Follows d true d') {word : String}
    (hr : d.takeWord word = .ok r) : Follows r false d' := by
  cases h with
  | due hheld hsettle =>
    rw [takeWord_of_awaiting hheld] at hr
    cases hr
    refine .settled (fun _ => nofun) fun e he => ?_
    exact hsettle.trans (congrArg Except.ok (forget_setValue_role he).symm)

/-- The name of an option. -/
def nameOf (cs : List Char) : String :=
  .ofList (cs.takeWhile (· != '='))

/-- What is attached to the name of an option. -/
def attachedTo (cs : List Char) : Option String :=
  match cs.dropWhile (· != '=') with
  | [] => none
  | _ :: text => some (.ofList text)

/-- What the name of an option with a value leads to. -/
theorem takeLong_of_option {cs : List Char} {option : ValueOption}
    (h : ValueOption.ofName? (nameOf cs) = some option) (d : Draft) :
    d.takeLong cs = d.settle >>= fun e =>
      match attachedTo cs with
      | some text => e.setValue option text
      | none => .ok { e with held := .awaiting option } := by
  have hname : nameOf cs = .ofList (cs.takeWhile (· != '=')) := rfl
  unfold takeLong
  simp only [← hname, h]
  rfl

/-- What any other name leads to. -/
theorem takeLong_of_no_option {cs : List Char} (h : ValueOption.ofName? (nameOf cs) = none)
    (d : Draft) :
    d.takeLong cs =
      match Switch.ofName? (nameOf cs) with
      | some s => if (attachedTo cs).isSome then .error .needlessValue else d.takeSwitch s
      | none => .error .unknownArgument := by
  have hname : nameOf cs = .ofList (cs.takeWhile (· != '=')) := rfl
  unfold takeLong
  simp only [← hname, h]
  cases Switch.ofName? (nameOf cs) <;> rfl

/-- An option other than the role. -/
theorem Follows.takeLong {d d' r : Draft} {nameDue : Bool} (h : Follows d nameDue d')
    {cs : List Char} (hcs : ValueOption.ofName? (nameOf cs) ≠ some .role)
    (hr : d.takeLong cs = .ok r) : ∃ r', d'.takeLong cs = .ok r' ∧ Follows r false r' := by
  cases hoption : ValueOption.ofName? (nameOf cs) with
  | some option =>
    have hne : option ≠ .role := fun heq => hcs (heq ▸ hoption)
    rw [takeLong_of_option hoption] at hr ⊢
    cases hattached : attachedTo cs with
    | some text =>
      simp only [hattached] at hr ⊢
      exact h.bind (roleFree_setValue hne text) hr
    | none =>
      simp only [hattached] at hr ⊢
      exact h.bind (roleFree_await hne) hr
  | none =>
    rw [takeLong_of_no_option hoption] at hr ⊢
    cases hswitch : Switch.ofName? (nameOf cs) with
    | none =>
      rw [hswitch] at hr
      cases hr
    | some s =>
      simp only [hswitch] at hr ⊢
      split at hr
      · cases hr
      · rename_i hattached
        rw [if_neg hattached]
        exact h.takeSwitch hr

theorem takeLong_role (d : Draft) :
    d.takeLong "role".toList = d.settle >>= fun e => .ok { e with held := .awaiting .role } :=
  rfl

theorem takeLong_role_attached (d : Draft) (text : List Char) :
    d.takeLong ("role=".toList ++ text) =
      d.settle >>= fun e => e.setValue .role (.ofList text) :=
  rfl

/-- The role option, whose name comes next. -/
theorem Follows.takeRole {d d' r : Draft} {nameDue : Bool} (h : Follows d nameDue d')
    (hr : d.takeLong "role".toList = .ok r) : Follows r true d' := by
  rw [takeLong_role] at hr
  obtain ⟨e, he, hr⟩ := bind_eq_ok_iff.1 hr
  cases hr
  refine .due rfl ?_
  rw [h.settle he, ← (held_settle he).1]
  rfl

/-- The role option with its name attached. -/
theorem Follows.takeRoleAttached {d d' r : Draft} {nameDue : Bool} (h : Follows d nameDue d')
    {text : List Char} (hr : d.takeLong ("role=".toList ++ text) = .ok r) :
    Follows r false d' := by
  rw [takeLong_role_attached] at hr
  obtain ⟨e, he, hr⟩ := bind_eq_ok_iff.1 hr
  have hnothing : r.held = .nothing := (held_setValue hr).1.trans (held_settle he).1
  refine .settled (fun option => by rw [hnothing]; exact nofun) fun e' he' => ?_
  rw [settle_of_nothing hnothing] at he'
  cases he'
  rw [h.settle he, forget_setValue_role hr]

/-! ### Who looks at what it holds back -/

theorem settle_of_takeSwitch {d r : Draft} {s : Switch} (hr : d.takeSwitch s = .ok r) :
    ∃ e, d.settle = .ok e := by
  obtain ⟨e, he, -⟩ := bind_eq_ok_iff.1 hr
  exact ⟨e, he⟩

theorem settle_of_takeLetters {d r : Draft} {c : Char} {cs : List Char}
    (hr : d.takeLetters (c :: cs) = .ok r) : ∃ e, d.settle = .ok e := by
  rw [takeLetters] at hr
  split at hr
  · obtain ⟨_, hs, -⟩ := bind_eq_ok_iff.1 hr
    exact settle_of_takeSwitch hs
  · cases hr

theorem settle_of_takeLong {d r : Draft} {cs : List Char} (hr : d.takeLong cs = .ok r) :
    ∃ e, d.settle = .ok e := by
  cases hoption : ValueOption.ofName? (nameOf cs) with
  | some option =>
    rw [takeLong_of_option hoption] at hr
    obtain ⟨e, he, -⟩ := bind_eq_ok_iff.1 hr
    exact ⟨e, he⟩
  | none =>
    rw [takeLong_of_no_option hoption] at hr
    split at hr
    · split at hr
      · cases hr
      · exact settle_of_takeSwitch hr
    · cases hr

theorem settle_of_takeFiles {d r : Draft} {paths : List String}
    (hr : paths.foldlM takeFile d >>= settle = .ok r) : ∃ e, d.settle = .ok e := by
  cases paths with
  | nil => exact ⟨r, hr⟩
  | cons path paths =>
    rw [List.foldlM_cons, bind_assoc] at hr
    obtain ⟨_, hfile, -⟩ := bind_eq_ok_iff.1 hr
    obtain ⟨e, he, -⟩ := bind_eq_ok_iff.1 (takeFile_eq_ok_iff.1 hfile).2
    exact ⟨e, he⟩

/-! ### All arguments -/

/-- What the characters of an argument make of it. -/
inductive Shape : List Char → Prop where
  | dashes : Shape ['-', '-']
  | long {cs : List Char} : cs ≠ [] → Shape ('-' :: '-' :: cs)
  | letters {c : Char} {cs : List Char} : c ≠ '-' → Shape ('-' :: c :: cs)
  | word {cs : List Char} : (∀ c ds, cs ≠ '-' :: c :: ds) → Shape cs

theorem shape (cs : List Char) : Shape cs := by
  by_cases hword : ∃ c ds, cs = '-' :: c :: ds
  · obtain ⟨c, ds, rfl⟩ := hword
    by_cases hc : c = '-'
    · subst hc
      cases ds with
      | nil => exact .dashes
      | cons d ds => exact .long (List.cons_ne_nil d ds)
    · exact .letters hc
  · exact .word fun c ds h => hword ⟨c, ds, h⟩

theorem takeAll_dashes (d : Draft) (rest : List String) :
    d.takeAll ("--" :: rest) = rest.foldlM takeFile d >>= settle :=
  rfl

theorem takeAll_long (d : Draft) {arg : String} {cs : List Char}
    (h : arg.toList = '-' :: '-' :: cs) (hcs : cs ≠ []) (rest : List String) :
    d.takeAll (arg :: rest) = d.takeLong cs >>= fun e => e.takeAll rest := by
  rw [takeAll, h]
  cases cs with
  | nil => exact absurd rfl hcs
  | cons c cs => rfl

theorem takeAll_letters (d : Draft) {arg : String} {c : Char} {cs : List Char}
    (h : arg.toList = '-' :: c :: cs) (hc : c ≠ '-') (rest : List String) :
    d.takeAll (arg :: rest) = d.takeLetters (c :: cs) >>= fun e => e.takeAll rest := by
  rw [takeAll, h]
  split
  · rename_i heq
    cases heq
    exact absurd rfl hc
  · rename_i heq
    cases heq
    exact absurd rfl hc
  · rename_i heq
    cases heq
    rfl
  · rename_i hne
    exact absurd rfl (hne _ _)

theorem takeAll_word (d : Draft) {arg : String} (h : ∀ c cs, arg.toList ≠ '-' :: c :: cs)
    (rest : List String) :
    d.takeAll (arg :: rest) = d.takeWord arg >>= fun e => e.takeAll rest := by
  rw [takeAll]
  split
  · rename_i heq
    exact absurd heq (h _ _)
  · rename_i heq
    exact absurd heq (h _ _)
  · rename_i heq
    exact absurd heq (h _ _)
  · rfl

/-- A draft that waits for a value takes nothing but a word. -/
theorem word_of_awaiting {d r : Draft} {option : ValueOption} (hheld : d.held = .awaiting option)
    {arg : String} {rest : List String} (hr : d.takeAll (arg :: rest) = .ok r) :
    ∀ c cs, arg.toList ≠ '-' :: c :: cs := by
  have hstop : ∀ e, d.settle ≠ .ok e := fun e => not_settle_awaiting hheld
  generalize harg : arg.toList = chars
  cases shape chars with
  | word hword => exact hword
  | dashes =>
    have harg : arg = "--" := String.toList_inj.1 harg
    subst harg
    rw [takeAll_dashes] at hr
    obtain ⟨e, he⟩ := settle_of_takeFiles hr
    exact absurd he (hstop e)
  | long hcs =>
    rw [takeAll_long d harg hcs] at hr
    obtain ⟨_, hlong, -⟩ := bind_eq_ok_iff.1 hr
    obtain ⟨e, he⟩ := settle_of_takeLong hlong
    exact absurd he (hstop e)
  | letters hc =>
    rw [takeAll_letters d harg hc] at hr
    obtain ⟨_, hletters, -⟩ := bind_eq_ok_iff.1 hr
    obtain ⟨e, he⟩ := settle_of_takeLetters hletters
    exact absurd he (hstop e)

/-- The name of an option is that of the role only in the two ways the role option is written. -/
theorem eq_of_ofName?_role {cs : List Char} (h : ValueOption.ofName? (nameOf cs) = some .role) :
    cs = "role".toList ∨ ∃ text, cs = "role=".toList ++ text := by
  have hname : nameOf cs = "role" := by
    simp only [ValueOption.ofName?, List.lookup_cons, List.lookup_nil] at h
    split at h
    · cases h
    · split at h
      · rename_i heq
        exact beq_iff_eq.1 heq
      · split at h <;> cases h
  have htake : cs.takeWhile (· != '=') = "role".toList := by
    rw [← hname, nameOf, String.toList_ofList]
  have hcs : "role".toList ++ cs.dropWhile (· != '=') = cs := by
    rw [← htake, List.takeWhile_append_dropWhile]
  cases hdrop : cs.dropWhile (· != '=') with
  | nil =>
    rw [hdrop, List.append_nil] at hcs
    exact .inl hcs.symm
  | cons c text =>
    have hc : c = '=' := by
      have hhead := List.head?_dropWhile_not (· != '=') cs
      rw [hdrop] at hhead
      simpa using hhead
    subst hc
    rw [hdrop] at hcs
    exact .inr ⟨text, hcs.symm⟩

/-- An argument that has no part in naming a role keeps the drafts together. -/
theorem exists_step {arg : String} (hdashes : arg ≠ "--") (hrole : arg ≠ "--role")
    (hattached : ¬ attachesRole arg = true) :
    ∃ step : Draft → Except Stop Draft,
      (∀ d rest, d.takeAll (arg :: rest) = step d >>= fun e => e.takeAll rest) ∧
        ∀ {d d' r}, Follows d false d' → step d = .ok r →
          ∃ r', step d' = .ok r' ∧ Follows r false r' := by
  generalize harg : arg.toList = chars
  cases shape chars with
  | dashes => exact absurd (String.toList_inj.1 harg) hdashes
  | @long cs hcs =>
    have hname : ValueOption.ofName? (nameOf cs) ≠ some .role := by
      intro hname
      rcases eq_of_ofName?_role hname with rfl | ⟨text, rfl⟩
      · exact hrole (String.toList_inj.1 harg)
      · exact hattached (List.isPrefixOf_iff_prefix.2 ⟨text, harg.symm⟩)
    exact ⟨fun d => d.takeLong cs, fun d => takeAll_long d harg hcs,
      fun h hr => h.takeLong hname hr⟩
  | @letters c cs hc =>
    exact ⟨fun d => d.takeLetters (c :: cs), fun d => takeAll_letters d harg hc,
      fun h hr => h.takeLetters hr⟩
  | word hword =>
    exact ⟨fun d => d.takeWord arg, fun d => takeAll_word d (harg ▸ hword),
      fun h hr => h.takeWord hr⟩

/-- **A reading with the role and one without it stay together** over all arguments. -/
theorem Follows.takeAll {args : List String} {d d' r : Draft} {nameDue : Bool}
    (h : Follows d nameDue d') (hr : d.takeAll args = .ok r) :
    d'.takeAll (withoutRole nameDue args) = .ok r.forget := by
  induction args generalizing d d' nameDue with
  | nil => exact h.settle hr
  | cons arg rest ih =>
    cases nameDue with
    | true =>
      have hword : ∀ c cs, arg.toList ≠ '-' :: c :: cs := by
        cases h with
        | due hheld _ => exact word_of_awaiting hheld hr
      rw [takeAll_word d hword] at hr
      obtain ⟨e, he, hr⟩ := bind_eq_ok_iff.1 hr
      exact ih (h.takeName he) hr
    | false =>
      rw [withoutRole, if_neg Bool.false_ne_true]
      by_cases hdashes : arg = "--"
      · subst hdashes
        rw [takeAll_dashes] at hr
        exact h.takeFiles hr
      rw [if_neg hdashes]
      by_cases hrole : arg = "--role"
      · subst hrole
        rw [takeAll_long d rfl (List.cons_ne_nil _ _)] at hr
        obtain ⟨e, he, hr⟩ := bind_eq_ok_iff.1 hr
        exact ih (h.takeRole he) hr
      rw [if_neg hrole]
      by_cases hattached : attachesRole arg = true
      · obtain ⟨text, htext⟩ := List.isPrefixOf_iff_prefix.1 hattached
        rw [takeAll_long d htext.symm (List.cons_ne_nil _ _)] at hr
        obtain ⟨e, he, hr⟩ := bind_eq_ok_iff.1 hr
        rw [if_pos hattached]
        exact ih (h.takeRoleAttached he) hr
      · obtain ⟨step, htake, hstep⟩ := exists_step hdashes hrole hattached
        rw [htake] at hr
        obtain ⟨e, he, hr⟩ := bind_eq_ok_iff.1 hr
        obtain ⟨e', he', hfollows⟩ := hstep h he
        rw [if_neg hattached, htake, he']
        exact ih hfollows hr

end Draft

/-- **Without the role option the arguments are read as the same options**, with no role. -/
theorem Options.ofArguments_withoutRole {args : List String} {o : Options}
    (h : Options.ofArguments args = .ok o) :
    Options.ofArguments (withoutRole false args) = .ok { o with role := none } := by
  obtain ⟨d, hd, h⟩ := bind_eq_ok_iff.1 h
  have hd' : ({} : Draft).takeAll (withoutRole false args) = .ok d.forget :=
    (Draft.Follows.forget (d := {}) trivial).takeAll hd
  cases hfile : d.file with
  | none =>
    rw [hfile] at h
    cases h
  | some file =>
    rw [hfile] at h
    cases h
    have hforget : d.forget.file = some file := hfile
    rw [Options.ofArguments, hd']
    simp only [bind, Except.bind, hforget]
    rfl

end NodeFlags.Command
