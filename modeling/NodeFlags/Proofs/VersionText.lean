import NodeFlags.Proofs.Digits
import NodeFlags.Proofs.Outcome
import NodeFlags.Proofs.VersionOrder

/-!
# Version texts

A version has one text, apart from blanks around it and one `v` before it. Reading and
writing are inverse to each other: what is read is exactly the texts of the versions that
can be written, each as the version that it is the text of (`Version.read?_eq_some_iff`).
No two texts denote one version, because a count of leading zeros is kept with every
identifier and release numbers have none.

Hence the gate (`atLeast`), which compares versions, is an order on their texts.

## What is proved

* `Version.readNumber_eq_ok_iff`, `Version.readIdentifiers_eq_ok_iff`,
  `Version.ofChars_eq_ok_iff` — each part is read exactly where it is written, level by
  level.
* `atLeast_total_order` — the gate is a total order on version texts and fails closed on
  all others.
-/

namespace NodeFlags

open Text

/-! ### Identifiers -/

namespace Identifier

/-- What an identifier looks like in a part of a version: digits, in a pre-release without needless
zeros, or letters, digits and hyphens, not all of them digits. -/
def FitsIn (part : Version.Part) : Identifier → Prop
  | numeric _ zeros => part = .pre → zeros = 0
  | word text => (∀ c ∈ text.toList, Version.isIdentifierChar c = true) ∧
      ∃ c ∈ text.toList, isDigit c = false

theorem toList_render_numeric (value zeros : Nat) :
    (numeric value zeros).render.toList = List.replicate zeros '0' ++ Nat.toDigits 10 value := by
  rw [render, String.toList_append, String.toList_ofList, Nat.toString_eq_ofList_toDigits,
    String.toList_ofList]

theorem isDigit_of_mem_render_numeric {value zeros : Nat} {c : Char}
    (h : c ∈ (numeric value zeros).render.toList) : isDigit c = true := by
  rw [toList_render_numeric] at h
  rcases List.mem_append.1 h with h | h
  · rw [List.eq_of_mem_replicate h]
    rfl
  · exact isDigit_of_mem_toDigits h

variable {id : Identifier} {part : Version.Part}

theorem FitsIn.toList_render_ne_nil (h : id.FitsIn part) : id.render.toList ≠ [] := by
  cases id with
  | numeric value zeros =>
    rw [toList_render_numeric]
    exact List.append_ne_nil_of_right_ne_nil _ Nat.toDigits_ne_nil
  | word text =>
    obtain ⟨-, c, hc, -⟩ := h
    exact List.ne_nil_of_mem hc

theorem FitsIn.isIdentifierChar (h : id.FitsIn part) {c : Char} (hc : c ∈ id.render.toList) :
    Version.isIdentifierChar c = true := by
  cases id with
  | numeric value zeros =>
    rw [Version.isIdentifierChar, isDigit_of_mem_render_numeric hc, Bool.true_or, Bool.true_or,
      Bool.true_or]
  | word text => exact h.1 c hc

theorem toList_renderList_singleton (id : Identifier) :
    (renderList [id]).toList = id.render.toList := by
  simp [renderList]

theorem toList_renderList_cons {ids : List Identifier} (hne : ids ≠ []) (id : Identifier) :
    (renderList (id :: ids)).toList = id.render.toList ++ '.' :: (renderList ids).toList := by
  cases ids with
  | nil => exact absurd rfl hne
  | cons next ids => simp [renderList, String.toList_intercalate]

end Identifier

namespace Version

open Identifier

/-- Zeros before the numeral of a number are needless ones. -/
theorem identifierOf_zeros_append (value zeros : Nat) :
    identifierOf (List.replicate zeros '0' ++ Nat.toDigits 10 value) = .numeric value zeros := by
  have hdigits : (List.replicate zeros '0' ++ Nat.toDigits 10 value).all isDigit = true := by
    rw [← toList_render_numeric]
    exact List.all_eq_true.2 fun c hc => isDigit_of_mem_render_numeric hc
  rw [identifierOf, if_pos hdigits, digitsValue_zeros_append, digitsValue_toDigits,
    length_takeWhile_zeros_append, Nat.add_sub_cancel]

/-- An identifier is written as it was read. -/
theorem toList_render_identifierOf {cs : List Char} (h : cs ≠ []) :
    (identifierOf cs).render.toList = cs := by
  by_cases hdigits : cs.all isDigit = true
  · obtain ⟨zeros, hcs⟩ := exists_eq_zeros_append ⟨h, List.all_eq_true.1 hdigits⟩
    rw [hcs, identifierOf_zeros_append, toList_render_numeric]
  · rw [identifierOf, if_neg hdigits]
    exact String.toList_ofList

/-- An identifier is read as it was written. -/
theorem identifierOf_render {id : Identifier} {part : Part} (h : id.FitsIn part) :
    identifierOf id.render.toList = id := by
  cases id with
  | numeric value zeros => rw [toList_render_numeric, identifierOf_zeros_append]
  | word text =>
    obtain ⟨-, c, hc, hdigit⟩ := h
    have hword : ¬ (word text).render.toList.all isDigit = true := by
      intro hall
      rw [List.all_eq_true.1 hall c hc] at hdigit
      exact Bool.noConfusion hdigit
    rw [identifierOf, if_neg hword]
    exact congrArg word String.ofList_toList

/-- What is read in a part fits in it, unless it has needless zeros where none may be. -/
theorem fitsIn_identifierOf_iff {part : Part} {run : List Char} (hne : run ≠ [])
    (hrun : ∀ c ∈ run, isIdentifierChar c = true) :
    (identifierOf run).FitsIn part ↔
      ¬ (part = .pre ∧ run.all isDigit = true ∧ 1 < run.length ∧ run.head? = some '0') := by
  by_cases hdigits : run.all isDigit = true
  · obtain ⟨zeros, hcs⟩ := exists_eq_zeros_append ⟨hne, List.all_eq_true.1 hdigits⟩
    have hneedless := begins_with_zero_iff (digitsValue run) zeros
    have hid := identifierOf_zeros_append (digitsValue run) zeros
    rw [← hcs] at hneedless hid
    rw [hid, hneedless, not_and, not_and, FitsIn]
    exact ⟨fun h hpre _ => not_not_intro (h hpre), fun h hpre => not_not.1 (h hpre hdigits)⟩
  · have hword : ∃ c ∈ run, isDigit c = false := by simpa using hdigits
    rw [identifierOf, if_neg hdigits, FitsIn, String.toList_ofList]
    exact iff_of_true ⟨hrun, hword⟩ fun h => hdigits h.2.1

/-- **An identifier is read exactly where it is written**, up to the first character that can be no
part of one. -/
theorem readIdentifier_eq_ok_iff {part : Part} {cs rest : List Char} {id : Identifier} :
    readIdentifier part cs = .ok (id, rest) ↔
      id.FitsIn part ∧ cs = id.render.toList ++ rest ∧ StopsAt isIdentifierChar rest := by
  constructor
  · intro h
    obtain ⟨hcs, hrun, hstop⟩ := takeWhile_append_dropWhile_stopsAt isIdentifierChar cs
    unfold readIdentifier at h
    simp only at h
    split at h
    · cases h
    · rename_i hne
      rw [List.isEmpty_iff] at hne
      split at h
      · cases h
      · rename_i hfits
        cases h
        exact ⟨(fitsIn_identifierOf_iff hne hrun).2 hfits,
          by rwa [toList_render_identifierOf hne], hstop⟩
  · rintro ⟨hfits, hcs, hstop⟩
    obtain ⟨hrun, hrest⟩ := takeWhile_dropWhile_iff.2 ⟨hcs, fun _ => hfits.isIdentifierChar, hstop⟩
    have hne : ¬ id.render.toList.isEmpty = true := by simpa using hfits.toList_render_ne_nil
    have hread : (identifierOf id.render.toList).FitsIn part := by rwa [identifierOf_render hfits]
    have hzeros := (fitsIn_identifierOf_iff hfits.toList_render_ne_nil
      fun _ => hfits.isIdentifierChar).1 hread
    unfold readIdentifier
    simp only [hrun, hrest]
    rw [if_neg hne, if_neg hzeros, identifierOf_render hfits]

/-! ### Lists of identifiers -/

theorem readIdentifiers_of_last {part : Part} {cs rest : List Char} {id : Identifier}
    (h : readIdentifier part cs = .ok (id, rest)) (hdot : rest.head? ≠ some '.') :
    readIdentifiers part cs = .ok ([id], rest) := by
  rw [readIdentifiers]
  split
  all_goals
    rename_i hread
    rw [h] at hread
    cases hread
  · exact absurd rfl hdot
  · rfl

theorem readIdentifiers_of_dot {part : Part} {cs rest rest' : List Char} {id : Identifier}
    {ids : List Identifier} (h : readIdentifier part cs = .ok (id, '.' :: rest))
    (hids : readIdentifiers part rest = .ok (ids, rest')) :
    readIdentifiers part cs = .ok (id :: ids, rest') := by
  rw [readIdentifiers]
  split
  all_goals
    rename_i hread
    rw [h] at hread
    cases hread
  · rw [hids]
  · rename_i hdot
    exact absurd rfl (hdot _)

/-- Whether `c` may stand in a list of identifiers. -/
def isListChar (c : Char) : Bool :=
  isIdentifierChar c || c = '.'

theorem stopsAt_isListChar_iff {rest : List Char} :
    StopsAt isListChar rest ↔ StopsAt isIdentifierChar rest ∧ rest.head? ≠ some '.' := by
  cases rest with
  | nil => exact iff_of_true (stopsAt_nil _) ⟨stopsAt_nil _, nofun⟩
  | cons c rest => simp [stopsAt_cons_iff, isListChar]

/-- **Identifiers are read exactly where they are written**, up to the first character that can be
no part of them. -/
theorem readIdentifiers_eq_ok_iff {part : Part} {cs rest : List Char} {ids : List Identifier} :
    readIdentifiers part cs = .ok (ids, rest) ↔
      ids ≠ [] ∧ (∀ id ∈ ids, id.FitsIn part) ∧ cs = (renderList ids).toList ++ rest ∧
        StopsAt isListChar rest := by
  constructor
  · intro h
    fun_induction readIdentifiers part cs generalizing ids rest with
    | case1 => cases h
    | case2 => cases h
    | case3 cs id rest' hread hlt ids' rest'' hrest ih =>
      cases h
      obtain ⟨hne, hfits, rfl, hstop⟩ := ih hrest
      obtain ⟨hfit, rfl, -⟩ := readIdentifier_eq_ok_iff.1 hread
      refine ⟨List.cons_ne_nil _ _, List.forall_mem_cons.2 ⟨hfit, hfits⟩, ?_, hstop⟩
      rw [toList_renderList_cons hne, List.append_assoc, List.cons_append]
    | case4 cs id rest' hdot hread =>
      cases h
      obtain ⟨hfit, rfl, hstop⟩ := readIdentifier_eq_ok_iff.1 hread
      have hhead : rest'.head? ≠ some '.' := by
        intro hhead
        obtain ⟨more, hmore⟩ := List.head?_eq_some_iff.1 hhead
        exact hdot more hmore
      exact ⟨List.cons_ne_nil _ _, List.forall_mem_singleton.2 hfit,
        by rw [toList_renderList_singleton], stopsAt_isListChar_iff.2 ⟨hstop, hhead⟩⟩
  · rintro ⟨hne, hfits, rfl, hstop⟩
    obtain ⟨hstop, hdot⟩ := stopsAt_isListChar_iff.1 hstop
    induction ids with
    | nil => exact absurd rfl hne
    | cons id ids ih =>
      obtain ⟨hfit, hfits⟩ := List.forall_mem_cons.1 hfits
      by_cases hids : ids = []
      · subst hids
        rw [toList_renderList_singleton]
        exact readIdentifiers_of_last (readIdentifier_eq_ok_iff.2 ⟨hfit, rfl, hstop⟩) hdot
      · rw [toList_renderList_cons hids, List.append_assoc, List.cons_append]
        refine readIdentifiers_of_dot (readIdentifier_eq_ok_iff.2 ⟨hfit, rfl, ?_⟩) (ih hids hfits)
        exact stopsAt_cons_iff.2 (by decide)

/-- Identifiers after a mark, if there are any. -/
def optionalChars (mark : Char) (ids : List Identifier) : List Char :=
  if ids.isEmpty then [] else mark :: (renderList ids).toList

theorem of_readOptional {mark : Char} {part : Part} {cs rest : List Char} {ids : List Identifier}
    (h : readOptional mark part cs = .ok (ids, rest)) :
    (∀ id ∈ ids, id.FitsIn part) ∧ cs = optionalChars mark ids ++ rest := by
  unfold readOptional at h
  split at h
  · split at h
    · obtain ⟨hne, hfits, rfl, -⟩ := readIdentifiers_eq_ok_iff.1 h
      subst mark
      refine ⟨hfits, ?_⟩
      rw [optionalChars, if_neg (by simpa using hne), List.cons_append]
    · cases h
      exact ⟨nofun, rfl⟩
  · cases h
    exact ⟨nofun, rfl⟩

theorem readOptional_optionalChars {mark : Char} {part : Part} {rest : List Char}
    {ids : List Identifier} (hfits : ∀ id ∈ ids, id.FitsIn part) (hmark : StopsAt (· = mark) rest)
    (hstop : StopsAt isListChar rest) :
    readOptional mark part (optionalChars mark ids ++ rest) = .ok (ids, rest) := by
  by_cases hids : ids = []
  · subst hids
    cases rest with
    | nil => rfl
    | cons c rest => exact if_neg (of_decide_eq_false (stopsAt_cons_iff.1 hmark))
  · rw [optionalChars, if_neg (by simpa using hids), List.cons_append, readOptional, if_pos rfl]
    exact readIdentifiers_eq_ok_iff.2 ⟨hids, hfits, rfl, hstop⟩

theorem stopsAt_optionalChars {p : Char → Bool} {mark : Char} (hmark : p mark = false)
    {rest : List Char} (hrest : StopsAt p rest) (ids : List Identifier) :
    StopsAt p (optionalChars mark ids ++ rest) := by
  unfold optionalChars
  split
  · exact hrest
  · exact stopsAt_cons_iff.2 hmark

/-! ### Release numbers -/

/-- **A release number is read exactly where it is written**, if it fits in 64 bits. -/
theorem readNumber_eq_ok_iff {part : Part} {cs rest : List Char} {n : Nat} :
    readNumber part cs = .ok (n, rest) ↔
      n ≤ maxNumber ∧ cs = Nat.toDigits 10 n ++ rest ∧ StopsAt isDigit rest := by
  constructor
  · intro h
    obtain ⟨hcs, hdigits, hstop⟩ := takeWhile_append_dropWhile_stopsAt isDigit cs
    unfold readNumber at h
    simp only at h
    split at h
    · split at h <;> cases h
    · cases h
    · rename_i hne hzero
      split at h
      · cases h
      · rename_i hle
        cases h
        rw [toDigits_digitsValue ⟨hne, hdigits⟩ hzero]
        exact ⟨Nat.not_lt.1 hle, hcs, hstop⟩
  · rintro ⟨hle, hcs, hstop⟩
    obtain ⟨hdigits, hrest⟩ :=
      takeWhile_dropWhile_iff.2 ⟨hcs, fun _ => isDigit_of_mem_toDigits, hstop⟩
    unfold readNumber
    simp only [hdigits, hrest]
    split
    · rename_i hnil
      exact absurd hnil Nat.toDigits_ne_nil
    · rename_i hzero
      exact absurd hzero (toDigits_ne_zero_cons n _ _)
    · rw [digitsValue_toDigits, if_neg (Nat.not_lt.2 hle)]

theorem readDot_eq_ok_iff {part : Part} {cs rest : List Char} :
    readDot part cs = .ok rest ↔ cs = '.' :: rest := by
  cases cs with
  | nil => exact ⟨nofun, nofun⟩
  | cons c cs =>
    rw [readDot]
    by_cases hc : c = '.' <;> simp [hc]

/-! ### Versions -/

/-- What a version must be to have a text. -/
structure WellFormed (v : Version) : Prop where
  major_le : v.major ≤ maxNumber
  minor_le : v.minor ≤ maxNumber
  patch_le : v.patch ≤ maxNumber
  pre_fits : ∀ id ∈ v.pre, id.FitsIn .pre
  build_fits : ∀ id ∈ v.build, id.FitsIn .build

theorem toList_render (v : Version) :
    v.render.toList =
      Nat.toDigits 10 v.major ++ '.' :: (Nat.toDigits 10 v.minor ++ '.' ::
        (Nat.toDigits 10 v.patch ++ (optionalChars '-' v.pre ++ optionalChars '+' v.build))) := by
  have hoptional : ∀ (mark : Char) (ids : List Identifier),
      (if ids.isEmpty then "" else String.singleton mark ++ renderList ids).toList =
        optionalChars mark ids := by
    intro mark ids
    unfold optionalChars
    split
    · rfl
    · simp
  unfold render
  simp only [String.toList_append, Nat.toString_eq_ofList_toDigits, String.toList_ofList]
  rw [← hoptional, ← hoptional]
  simp

/-- The parts of a version are read one after another, up to the end of the text. -/
theorem ofChars_eq_ok_iff_reads {cs : List Char} {v : Version} :
    ofChars cs = .ok v ↔
      ∃ cs₁ cs₂ cs₃ cs₄ cs₅ cs₆, readNumber .major cs = .ok (v.major, cs₁) ∧
        readDot .major cs₁ = .ok cs₂ ∧ readNumber .minor cs₂ = .ok (v.minor, cs₃) ∧
        readDot .minor cs₃ = .ok cs₄ ∧ readNumber .patch cs₄ = .ok (v.patch, cs₅) ∧
        readOptional '-' .pre cs₅ = .ok (v.pre, cs₆) ∧
        readOptional '+' .build cs₆ = .ok (v.build, []) := by
  cases cs with
  | nil =>
    constructor
    · intro h
      cases h
    · rintro ⟨_, _, _, _, _, _, h, -⟩
      cases h
  | cons c cs =>
    constructor
    · intro h
      obtain ⟨⟨major, cs₁⟩, h₁, h⟩ := bind_eq_ok_iff.1 h
      obtain ⟨cs₂, h₂, h⟩ := bind_eq_ok_iff.1 h
      obtain ⟨⟨minor, cs₃⟩, h₃, h⟩ := bind_eq_ok_iff.1 h
      obtain ⟨cs₄, h₄, h⟩ := bind_eq_ok_iff.1 h
      obtain ⟨⟨patch, cs₅⟩, h₅, h⟩ := bind_eq_ok_iff.1 h
      obtain ⟨⟨pre, cs₆⟩, h₆, h⟩ := bind_eq_ok_iff.1 h
      obtain ⟨⟨build, rest⟩, h₇, h⟩ := bind_eq_ok_iff.1 h
      cases rest with
      | nil =>
        cases h
        exact ⟨cs₁, cs₂, cs₃, cs₄, cs₅, cs₆, h₁, h₂, h₃, h₄, h₅, h₆, h₇⟩
      | cons c rest => cases h
    · rintro ⟨cs₁, cs₂, cs₃, cs₄, cs₅, cs₆, h₁, h₂, h₃, h₄, h₅, h₆, h₇⟩
      refine bind_eq_ok_iff.2 ⟨_, h₁, bind_eq_ok_iff.2 ⟨_, h₂, bind_eq_ok_iff.2 ⟨_, h₃, ?_⟩⟩⟩
      refine bind_eq_ok_iff.2 ⟨_, h₄, bind_eq_ok_iff.2 ⟨_, h₅, bind_eq_ok_iff.2 ⟨_, h₆, ?_⟩⟩⟩
      exact bind_eq_ok_iff.2 ⟨_, h₇, rfl⟩

/-- **A version is read exactly from its text.** -/
theorem ofChars_eq_ok_iff {cs : List Char} {v : Version} :
    ofChars cs = .ok v ↔ v.WellFormed ∧ cs = v.render.toList := by
  rw [ofChars_eq_ok_iff_reads, toList_render]
  constructor
  · rintro ⟨cs₁, cs₂, cs₃, cs₄, cs₅, cs₆, h₁, h₂, h₃, h₄, h₅, h₆, h₇⟩
    obtain ⟨hmajor, rfl, -⟩ := readNumber_eq_ok_iff.1 h₁
    obtain rfl := readDot_eq_ok_iff.1 h₂
    obtain ⟨hminor, rfl, -⟩ := readNumber_eq_ok_iff.1 h₃
    obtain rfl := readDot_eq_ok_iff.1 h₄
    obtain ⟨hpatch, rfl, -⟩ := readNumber_eq_ok_iff.1 h₅
    obtain ⟨hpre, rfl⟩ := of_readOptional h₆
    obtain ⟨hbuild, rfl⟩ := of_readOptional h₇
    exact ⟨⟨hmajor, hminor, hpatch, hpre, hbuild⟩, by rw [List.append_nil]⟩
  · rintro ⟨⟨hmajor, hminor, hpatch, hpre, hbuild⟩, rfl⟩
    -- no part can go on into what follows it
    have hdot : ∀ rest, StopsAt isDigit ('.' :: rest) := fun rest => stopsAt_cons_iff.2 (by decide)
    have hend : ∀ p : Char → Bool, p '+' = false → StopsAt p (optionalChars '+' v.build) := by
      intro p hp
      have h := stopsAt_optionalChars hp (stopsAt_nil p) v.build
      rwa [List.append_nil] at h
    have hpatchEnd : StopsAt isDigit (optionalChars '-' v.pre ++ optionalChars '+' v.build) :=
      stopsAt_optionalChars (by decide) (hend isDigit (by decide)) v.pre
    have hbuildRead := readOptional_optionalChars hbuild (stopsAt_nil (· = '+')) (stopsAt_nil _)
    rw [List.append_nil] at hbuildRead
    exact ⟨_, _, _, _, _, _, readNumber_eq_ok_iff.2 ⟨hmajor, rfl, hdot _⟩,
      readDot_eq_ok_iff.2 rfl, readNumber_eq_ok_iff.2 ⟨hminor, rfl, hdot _⟩,
      readDot_eq_ok_iff.2 rfl, readNumber_eq_ok_iff.2 ⟨hpatch, rfl, hpatchEnd⟩,
      readOptional_optionalChars hpre (hend _ (by decide)) (hend _ (by decide)), hbuildRead⟩

/-- A text without the blanks at its ends and then without one leading `v`. -/
def bare (text : String) : String :=
  .ofList (dropMark (trimChars text.toList))

/-- Blanks and the mark are all that is removed before a version is read. -/
theorem read?_eq_ofChars (text : String) : read? text = (ofChars (bare text).toList).toOption := by
  rw [read?, read, bare, String.toList_ofList]
  split
  · rename_i hblank
    rw [List.isEmpty_iff.1 hblank]
    rfl
  · cases ofChars (dropMark (trimChars text.toList)) <;> rfl

/-- **What is read as a version**: its text, apart from blanks around it and the mark. -/
theorem read?_eq_some_iff {text : String} {v : Version} :
    read? text = some v ↔ v.WellFormed ∧ bare text = v.render := by
  rw [read?_eq_ofChars, ← String.toList_inj, ← ofChars_eq_ok_iff]
  cases ofChars (bare text).toList with
  | error e => exact ⟨nofun, nofun⟩
  | ok w => simp [Except.toOption]

theorem isSome_read?_iff {text : String} :
    (read? text).isSome = true ↔ ∃ v : Version, v.WellFormed ∧ bare text = v.render := by
  simp only [Option.isSome_iff_exists, read?_eq_some_iff]

/-- Texts are read alike if they are the same but for blanks and mark, and one version is read from
no others. -/
theorem bare_eq_iff {a b : String} {v w : Version} (ha : read? a = some v)
    (hb : read? b = some w) : bare a = bare b ↔ v = w := by
  constructor
  · intro h
    rw [read?_eq_ofChars, h, ← read?_eq_ofChars, hb] at ha
    exact (Option.some.inj ha).symm
  · rintro rfl
    rw [(read?_eq_some_iff.1 ha).2, (read?_eq_some_iff.1 hb).2]

end Version

/-! ### The gate -/

theorem atLeast_self_of_read? {a b : String} {v : Version} (ha : Version.read? a = some v)
    (hb : Version.read? b = some v) : atLeast a b = true := by
  have hself : v.cmp v = .eq := Std.ReflCmp.compare_self
  exact atLeast_iff.2 ⟨v, v, ha, hb, by rw [hself]; rfl⟩

/-- **The gate is a total order on version texts and fails closed.** It holds between no texts but
versions, of two versions always in one direction, and in both only if they are one text, blanks
around it and a leading `v` aside. -/
theorem atLeast_total_order (a b c : String) :
    -- it fails closed
    (atLeast a b = true →
      (Version.read? a).isSome = true ∧ (Version.read? b).isSome = true) ∧
    -- total, transitive and antisymmetric
    ((Version.read? a).isSome = true → (Version.read? b).isSome = true →
      atLeast a b = true ∨ atLeast b a = true) ∧
    (atLeast a b = true → atLeast b c = true → atLeast a c = true) ∧
    (atLeast a b = true ∧ atLeast b a = true ↔
      (Version.read? a).isSome = true ∧ (Version.read? b).isSome = true ∧
        Version.bare a = Version.bare b) ∧
    -- which texts are versions
    ((Version.read? a).isSome = true ↔
      ∃ v : Version, v.WellFormed ∧ Version.bare a = v.render) := by
  refine ⟨?_, ?_, atLeast_trans, ?_, Version.isSome_read?_iff⟩
  · intro h
    obtain ⟨v, w, ha, hb, -⟩ := atLeast_iff.1 h
    exact ⟨Option.isSome_of_eq_some ha, Option.isSome_of_eq_some hb⟩
  · intro ha hb
    obtain ⟨v, ha⟩ := Option.isSome_iff_exists.1 ha
    obtain ⟨w, hb⟩ := Option.isSome_iff_exists.1 hb
    exact atLeast_total ha hb
  · constructor
    · rintro ⟨hab, hba⟩
      obtain ⟨v, w, ha, hb, hge⟩ := atLeast_iff.1 hab
      obtain ⟨w', v', hb', ha', hge'⟩ := atLeast_iff.1 hba
      obtain rfl : v = v' := Option.some.inj (ha.symm.trans ha')
      obtain rfl : w = w' := Option.some.inj (hb.symm.trans hb')
      have heq : v = w :=
        Std.LawfulEqCmp.eq_of_compare (Std.OrientedCmp.isGE_antisymm hge hge')
      exact ⟨Option.isSome_of_eq_some ha, Option.isSome_of_eq_some hb,
        (Version.bare_eq_iff ha hb).2 heq⟩
    · rintro ⟨ha, hb, hbare⟩
      obtain ⟨v, ha⟩ := Option.isSome_iff_exists.1 ha
      obtain ⟨w, hb⟩ := Option.isSome_iff_exists.1 hb
      obtain rfl := (Version.bare_eq_iff ha hb).1 hbare
      exact ⟨atLeast_self_of_read? ha hb, atLeast_self_of_read? hb ha⟩

/-- A wide blank, the mark and a last newline make no difference; a zero before a build number
does. -/
theorem atLeast_total_order_needless_zero :
    (atLeast "\u2003v1.10.0-rc.2+007.x" "1.10.0-rc.2+007.x\n" = true ∧
      atLeast "1.10.0-rc.2+007.x\n" "\u2003v1.10.0-rc.2+007.x" = true) ∧
    atLeast "\u2003v1.10.0-rc.2+007.x" "1.10.0-rc.2+07.x" = true ∧
    ¬ atLeast "1.10.0-rc.2+07.x" "\u2003v1.10.0-rc.2+007.x" = true ∧
    ¬ atLeast "vv1.10.0" "1.10.0-rc.2+07.x" = true := by
  obtain ⟨-, -, htrans, hanti, -⟩ := atLeast_total_order "\u2003v1.10.0-rc.2+007.x"
    "1.10.0-rc.2+007.x\n" "1.10.0-rc.2+07.x"
  have hsame := hanti.2 ⟨by decide +kernel, by decide +kernel, by decide +kernel⟩
  have hzero := htrans hsame.1 (by decide +kernel)
  refine ⟨hsame, hzero, fun hback => ?_, fun hclosed => ?_⟩
  · have hbare := ((atLeast_total_order _ _ "").2.2.2.1.1 ⟨hzero, hback⟩).2.2
    exact absurd hbare (by decide +kernel)
  · have hread := ((atLeast_total_order _ _ "").1 hclosed).1
    exact absurd hread (by decide +kernel)

end NodeFlags
