import NodeFlags.Json.Comment
import NodeFlags.Json.Token

/-!
# Comments and tokens

Removing comments knows texts only by their quotes and backslashes, and reading
tokens knows nothing of comments. Still they agree where a text ends
(`passes_of_readPieces`), and no token but a text holds a quote or a slash. So each
token that can be read is kept as it stands (`passes_of_read?`), and a text made of
tokens and blanks alone has no comments to remove (`strip_eq_self_of_scan`).
-/

namespace NodeFlags.Json.Comment

/-- From a state, the walk keeps what stands before `rest`, and is outside texts there. -/
def PassesFrom (state : State) (cs rest : List Char) : Prop :=
  ∃ kept, cs = kept ++ rest ∧ stripFrom state cs = kept ++ strip rest

/-- Outside texts, the walk keeps what stands before `rest`, and is outside texts again. -/
abbrev Passes (cs rest : List Char) : Prop :=
  PassesFrom .outside cs rest

namespace PassesFrom

theorem refl (cs : List Char) : Passes cs cs :=
  ⟨[], rfl, rfl⟩

theorem trans {state : State} {cs ds es : List Char} (hcs : PassesFrom state cs ds)
    (hds : Passes ds es) : PassesFrom state cs es := by
  obtain ⟨kept, rfl, hkept⟩ := hcs
  obtain ⟨more, rfl, hmore⟩ := hds
  refine ⟨kept ++ more, (List.append_assoc ..).symm, ?_⟩
  rw [hkept, strip, hmore, List.append_assoc]

/-- A step that keeps its character leads on from the next state. -/
theorem cons {state next : State} {c : Char} {cs rest : List Char}
    (hstep : stripFrom state (c :: cs) = c :: stripFrom next cs)
    (h : PassesFrom next cs rest) : PassesFrom state (c :: cs) rest := by
  obtain ⟨kept, rfl, hkept⟩ := h
  exact ⟨c :: kept, rfl, by rw [hstep, hkept, List.cons_append]⟩

end PassesFrom

open PassesFrom

/-! ### Steps of the walk -/

theorem stripFrom_inText_char {c : Char} (hquote : c ≠ '"') (hslash : c ≠ '\\')
    (cs : List Char) : stripFrom .inText (c :: cs) = c :: stripFrom .inText cs := by
  rw [stripFrom, if_neg hslash, if_neg hquote]

theorem stripFrom_inText_quote (cs : List Char) :
    stripFrom .inText ('"' :: cs) = '"' :: stripFrom .outside cs :=
  rfl

theorem stripFrom_inText_backslash (cs : List Char) :
    stripFrom .inText ('\\' :: cs) = '\\' :: stripFrom .escaped cs :=
  rfl

theorem stripFrom_escaped (c : Char) (cs : List Char) :
    stripFrom .escaped (c :: cs) = c :: stripFrom .inText cs := by
  rw [stripFrom]

theorem stripFrom_outside_char {c : Char} (hquote : c ≠ '"') (hslash : c ≠ '/')
    (cs : List Char) : stripFrom .outside (c :: cs) = c :: stripFrom .outside cs := by
  rw [stripFrom, if_neg hquote]
  · exact fun _ h => absurd h hslash
  · exact fun _ h => absurd h hslash

theorem stripFrom_outside_quote (cs : List Char) :
    stripFrom .outside ('"' :: cs) = '"' :: stripFrom .inText cs := by
  rw [stripFrom, if_pos rfl]
  · exact fun _ h => absurd h (by decide)
  · exact fun _ h => absurd h (by decide)

/-- Characters among which are no quotes and no slashes are kept. -/
theorem passes_append (kept : List Char) (hquote : '"' ∉ kept) (hslash : '/' ∉ kept)
    (rest : List Char) : Passes (kept ++ rest) rest := by
  induction kept with
  | nil => exact refl rest
  | cons c kept ih =>
    obtain ⟨hc, hquote⟩ := not_or.1 (mt List.mem_cons.2 hquote)
    obtain ⟨hc', hslash⟩ := not_or.1 (mt List.mem_cons.2 hslash)
    exact cons (stripFrom_outside_char (Ne.symm hc) (Ne.symm hc') _) (ih hquote hslash)

/-! ### Texts -/

theorem passes_hexValue? {c : Char} {n : Nat} (h : Text.hexValue? c = some n)
    {cs rest : List Char} (hcs : PassesFrom .inText cs rest) :
    PassesFrom .inText (c :: cs) rest := by
  have hquote : c ≠ '"' := fun hc => absurd (hc ▸ h) nofun
  have hslash : c ≠ '\\' := fun hc => absurd (hc ▸ h) nofun
  exact cons (stripFrom_inText_char hquote hslash cs) hcs

/-- Four hexadecimal digits do not end a text. -/
theorem passes_unitValue? {a b c d : Char} {u : Nat} (h : Piece.unitValue? a b c d = some u)
    {cs rest : List Char} (hcs : PassesFrom .inText cs rest) :
    PassesFrom .inText (a :: b :: c :: d :: cs) rest := by
  obtain ⟨_, ha, h⟩ := Option.bind_eq_some_iff.1 h
  obtain ⟨_, hb, h⟩ := Option.bind_eq_some_iff.1 h
  obtain ⟨_, hc, h⟩ := Option.bind_eq_some_iff.1 h
  obtain ⟨_, hd, -⟩ := Option.bind_eq_some_iff.1 h
  exact passes_hexValue? ha (passes_hexValue? hb (passes_hexValue? hc (passes_hexValue? hd hcs)))

/-- **A text ends for the walk where it ends for the reader.** -/
theorem passes_of_readPieces {cs rest : List Char} {ps : List Piece}
    (h : readPieces cs = some (ps, rest)) : PassesFrom .inText cs rest := by
  fun_induction readPieces cs generalizing ps with
  | case1 => cases h
  | case2 rest' =>
    cases h
    exact cons (stripFrom_inText_quote rest) (refl rest)
  | case3 a b c d rest' u qs rest'' hqs hu ih =>
    cases h
    exact cons (stripFrom_inText_backslash _)
      (cons (stripFrom_escaped 'u' _) (passes_unitValue? hu (ih hqs)))
  | case4 => cases h
  | case5 e rest' _ c qs rest'' hqs _ ih =>
    cases h
    exact cons (stripFrom_inText_backslash _) (cons (stripFrom_escaped e _) (ih hqs))
  | case6 => cases h
  | case7 => cases h
  | case8 c rest' hquote _ _ hplain ih =>
    obtain ⟨⟨qs, rest''⟩, hqs, heq⟩ := Option.map_eq_some_iff.1 h
    cases heq
    have hslash : c ≠ '\\' := fun hc => hplain (by simp [hc])
    exact cons (stripFrom_inText_char hquote hslash rest') (ih hqs)

/-! ### Numbers -/

/-- One character without a meaning for the walk. -/
theorem passes_char {c : Char} (hquote : c ≠ '"') (hslash : c ≠ '/') (rest : List Char) :
    Passes (c :: rest) rest :=
  cons (stripFrom_outside_char hquote hslash rest) (refl rest)

theorem passes_of_readDigits {cs ds rest : List Char}
    (h : Number.readDigits cs = some (ds, rest)) : Passes cs rest := by
  have hdigit : ∀ c ∈ cs.takeWhile Text.isDigit, Text.isDigit c = true :=
    List.all_eq_true.1 List.all_takeWhile
  unfold Number.readDigits at h
  simp only at h
  split at h
  · cases h
  · cases h
    have hpasses := passes_append _ (fun hc => absurd (hdigit _ hc) nofun)
      (fun hc => absurd (hdigit _ hc) nofun) (cs.dropWhile Text.isDigit)
    rwa [List.takeWhile_append_dropWhile] at hpasses

theorem passes_of_readWhole {cs ds rest : List Char}
    (h : Number.readWhole cs = some (ds, rest)) : Passes cs rest := by
  unfold Number.readWhole at h
  split at h
  · cases h
  · exact passes_of_readDigits h

theorem passes_of_readFraction {cs ds rest : List Char}
    (h : Number.readFraction cs = some (ds, rest)) : Passes cs rest := by
  unfold Number.readFraction at h
  split at h
  · exact (passes_char (by decide) (by decide) _).trans (passes_of_readDigits h)
  · cases h
    exact refl cs

theorem passes_of_readSigned {cs rest : List Char} {e : Option (Bool × List Char)}
    (h : Number.readSigned cs = some (e, rest)) : Passes cs rest := by
  unfold Number.readSigned at h
  split at h
  all_goals
    obtain ⟨⟨ds, rest'⟩, hds, heq⟩ := Option.map_eq_some_iff.1 h
    cases heq
  · exact (passes_char (by decide) (by decide) _).trans (passes_of_readDigits hds)
  · exact (passes_char (by decide) (by decide) _).trans (passes_of_readDigits hds)
  · exact passes_of_readDigits hds

theorem passes_of_readExponent {cs rest : List Char} {e : Option (Bool × List Char)}
    (h : Number.readExponent cs = some (e, rest)) : Passes cs rest := by
  unfold Number.readExponent at h
  split at h
  · exact (passes_char (by decide) (by decide) _).trans (passes_of_readSigned h)
  · exact (passes_char (by decide) (by decide) _).trans (passes_of_readSigned h)
  · cases h
    exact refl cs

theorem passes_of_readUnsigned {negative : Bool} {cs rest : List Char} {n : Number}
    (h : Number.readUnsigned negative cs = some (n, rest)) : Passes cs rest := by
  unfold Number.readUnsigned at h
  obtain ⟨⟨whole, cs1⟩, hwhole, h⟩ := Option.bind_eq_some_iff.1 h
  obtain ⟨⟨fraction, cs2⟩, hfraction, h⟩ := Option.bind_eq_some_iff.1 h
  obtain ⟨⟨exponent, cs3⟩, hexponent, h⟩ := Option.bind_eq_some_iff.1 h
  cases h
  exact ((passes_of_readWhole hwhole).trans (passes_of_readFraction hfraction)).trans
    (passes_of_readExponent hexponent)

theorem passes_of_readNumber {cs rest : List Char} {n : Number}
    (h : Number.read cs = some (n, rest)) : Passes cs rest := by
  unfold Number.read at h
  split at h
  · exact (passes_char (by decide) (by decide) _).trans (passes_of_readUnsigned h)
  · exact passes_of_readUnsigned h

/-! ### Tokens -/

theorem ne_of_ofMark? {c : Char} {t : Token} (h : Token.ofMark? c = some t) :
    c ≠ '"' ∧ c ≠ '/' :=
  ⟨fun hc => absurd (hc ▸ h) nofun, fun hc => absurd (hc ▸ h) nofun⟩

/-- **A token at the head of a text is kept.** -/
theorem passes_of_read? {cs rest : List Char} {t : Token}
    (h : Token.read? cs = some (t, rest)) : Passes cs rest := by
  unfold Token.read? at h
  split at h
  · cases h
  · cases h
    exact passes_append ['n', 'u', 'l', 'l'] (by decide) (by decide) rest
  · cases h
    exact passes_append ['t', 'r', 'u', 'e'] (by decide) (by decide) rest
  · cases h
    exact passes_append ['f', 'a', 'l', 's', 'e'] (by decide) (by decide) rest
  · obtain ⟨⟨ps, rest'⟩, hps, heq⟩ := Option.map_eq_some_iff.1 h
    cases heq
    exact cons (stripFrom_outside_quote _) (passes_of_readPieces hps)
  · split at h
    · rename_i hmark
      cases h
      exact passes_char (ne_of_ofMark? hmark).1 (ne_of_ofMark? hmark).2 rest
    · obtain ⟨⟨n, rest'⟩, hn, heq⟩ := Option.map_eq_some_iff.1 h
      cases heq
      exact passes_of_readNumber hn

/-- **A text of tokens and blanks has no comments**, so nothing is removed from it. -/
theorem strip_eq_self_of_scan {cs : List Char} (h : Token.broken ∉ Token.scan cs) :
    strip cs = cs := by
  fun_induction Token.scan cs with
  | case1 => rfl
  | case2 c rest hblank ih =>
    have hquote : c ≠ '"' := fun hc => absurd (hc ▸ hblank) nofun
    have hslash : c ≠ '/' := fun hc => absurd (hc ▸ hblank) nofun
    obtain ⟨kept, hcs, hkept⟩ := passes_char hquote hslash rest
    rw [strip, hkept, ih h, ← hcs]
  | case3 c rest hblank hnone => exact absurd List.mem_cons_self h
  | case4 c rest hblank t rest' hsome hlt ih =>
    obtain ⟨kept, hcs, hkept⟩ := passes_of_read? hsome
    rw [strip, hkept, ih fun hmem => h (List.mem_cons_of_mem t hmem), ← hcs]

end NodeFlags.Json.Comment
