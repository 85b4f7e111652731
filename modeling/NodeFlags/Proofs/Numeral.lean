import NodeFlags.Resolution

/-!
# Signed decimal numerals

A limit is written as a decimal numeral: a sign or none, then digits, as many as one
likes. `Text.Denotes` says which integer a numeral denotes, without a bound.

The program reads a numeral into 64 bits. Main statement (`readInt64?_eq_some_iff`):
what it reads is exactly the numerals that denote an integer of that range, each as
the integer it denotes. A numeral outside of the range is read as no number at all,
like a text that is no numeral.
-/

namespace NodeFlags

namespace Text

/-- Digits, at least one. -/
structure IsDigits (ds : List Char) : Prop where
  ne_nil : ds ≠ []
  all_digit : ∀ d ∈ ds, isDigit d = true

/-- `Denotes cs n`: the text is a decimal numeral for the integer `n`. -/
inductive Denotes : List Char → Int → Prop where
  /-- Digits alone. -/
  | unsigned {ds : List Char} : IsDigits ds → Denotes ds (digitsValue ds)
  /-- Digits after a plus sign. -/
  | plus {ds : List Char} : IsDigits ds → Denotes ('+' :: ds) (digitsValue ds)
  /-- Digits after a minus sign. -/
  | minus {ds : List Char} : IsDigits ds → Denotes ('-' :: ds) (-(digitsValue ds : Int))

theorem isDigits_iff {ds : List Char} :
    IsDigits ds ↔ (ds.isEmpty || !ds.all isDigit) = false := by
  constructor
  · intro h
    simpa [h.ne_nil] using h.all_digit
  · intro h
    simp only [Bool.or_eq_false_iff, Bool.not_eq_false', List.all_eq_true,
      List.isEmpty_eq_false_iff] at h
    exact ⟨h.1, h.2⟩

/-- What begins with a sign is not made of digits alone. -/
theorem not_isDigits_cons {c : Char} (hc : isDigit c = false) (ds : List Char) :
    ¬ IsDigits (c :: ds) := by
  intro h
  rw [h.all_digit c List.mem_cons_self] at hc
  exact Bool.noConfusion hc

theorem denotes_minus_cons_iff {ds : List Char} {n : Int} :
    Denotes ('-' :: ds) n ↔ IsDigits ds ∧ n = -(digitsValue ds : Int) := by
  constructor
  · intro h
    generalize hcs : '-' :: ds = cs at h
    cases h with
    | unsigned hds => exact absurd (hcs ▸ hds) (not_isDigits_cons (by decide) ds)
    | plus _ => simp at hcs
    | minus hds =>
      cases hcs
      exact ⟨hds, rfl⟩
  · rintro ⟨hds, rfl⟩
    exact .minus hds

theorem denotes_plus_cons_iff {ds : List Char} {n : Int} :
    Denotes ('+' :: ds) n ↔ IsDigits ds ∧ n = (digitsValue ds : Int) := by
  constructor
  · intro h
    generalize hcs : '+' :: ds = cs at h
    cases h with
    | unsigned hds => exact absurd (hcs ▸ hds) (not_isDigits_cons (by decide) ds)
    | plus hds =>
      cases hcs
      exact ⟨hds, rfl⟩
    | minus _ => simp at hcs
  · rintro ⟨hds, rfl⟩
    exact .plus hds

theorem denotes_iff_of_no_sign {cs : List Char} {n : Int} (hminus : ∀ ds, cs ≠ '-' :: ds)
    (hplus : ∀ ds, cs ≠ '+' :: ds) :
    Denotes cs n ↔ IsDigits cs ∧ n = (digitsValue cs : Int) := by
  constructor
  · intro h
    cases h with
    | unsigned hds => exact ⟨hds, rfl⟩
    | plus _ => exact absurd rfl (hplus _)
    | minus _ => exact absurd rfl (hminus _)
  · rintro ⟨hds, rfl⟩
    exact .unsigned hds

theorem Denotes.ne_nil {cs : List Char} {n : Int} (h : Denotes cs n) : cs ≠ [] := by
  cases h with
  | unsigned hds => exact hds.ne_nil
  | plus _ => exact List.cons_ne_nil _ _
  | minus _ => exact List.cons_ne_nil _ _

/-- A text is a numeral for one integer only. -/
theorem Denotes.unique {cs : List Char} {n m : Int} (hn : Denotes cs n) (hm : Denotes cs m) :
    n = m := by
  cases hn with
  | unsigned hds =>
    cases hm with
    | unsigned _ => rfl
    | plus _ => exact absurd hds (not_isDigits_cons (by decide) _)
    | minus _ => exact absurd hds (not_isDigits_cons (by decide) _)
  | plus _ => exact (denotes_plus_cons_iff.1 hm).2.symm
  | minus _ => exact (denotes_minus_cons_iff.1 hm).2.symm

end Text

open Text

/-! ### Reading -/

/-- The greatest integer that fits in 64 bits with a sign. -/
def maxInt64 : Int := 0x7FFFFFFFFFFFFFFF

/-- The least integer that fits in 64 bits with a sign. -/
def minInt64 : Int := -0x8000000000000000

theorem numeral?_eq_some_iff {ds : List Char} {n : Nat} :
    numeral? ds = some n ↔ IsDigits ds ∧ digitsValue ds = n := by
  rw [isDigits_iff, numeral?]
  cases ds.isEmpty || !ds.all isDigit with
  | false => simp
  | true => simp

/-- Digits that are read as `value` says if they are within a bound. -/
theorem bind_numeral?_eq_some_iff {ds : List Char} {p : Nat → Prop} [DecidablePred p]
    {value : Nat → Int} {n : Int} :
    ((numeral? ds).bind fun m => if p m then some (value m) else none) = some n ↔
      (IsDigits ds ∧ n = value (digitsValue ds)) ∧ p (digitsValue ds) := by
  simp only [Option.bind_eq_some_iff, numeral?_eq_some_iff]
  constructor
  · rintro ⟨m, ⟨hds, rfl⟩, hread⟩
    split at hread
    · rename_i hp
      cases hread
      exact ⟨⟨hds, rfl⟩, hp⟩
    · cases hread
  · rintro ⟨⟨hds, rfl⟩, hp⟩
    exact ⟨_, ⟨hds, rfl⟩, if_pos hp⟩

/-- Digits without a minus sign cannot fall below the range. -/
theorem bind_bounded_eq_some_iff {ds : List Char} {n : Int} :
    (numeral? ds).bind readInt64?.bounded = some n ↔
      (IsDigits ds ∧ n = (digitsValue ds : Int)) ∧ minInt64 ≤ n ∧ n ≤ maxInt64 := by
  refine bind_numeral?_eq_some_iff.trans (and_congr_right fun ⟨_, hn⟩ => ?_)
  simp only [minInt64, maxInt64]
  omega

/-- **What is read**: exactly the numerals of integers that fit in 64 bits. -/
theorem readInt64?_eq_some_iff {cs : List Char} {n : Int} :
    readInt64? cs = some n ↔ Denotes cs n ∧ minInt64 ≤ n ∧ n ≤ maxInt64 := by
  unfold readInt64?
  split
  · rw [denotes_minus_cons_iff, bind_numeral?_eq_some_iff]
    refine and_congr_right fun ⟨_, hn⟩ => ?_
    simp only [minInt64, maxInt64]
    omega
  · rw [denotes_plus_cons_iff, bind_bounded_eq_some_iff]
  · rename_i hminus hplus
    rw [denotes_iff_of_no_sign hminus hplus, bind_bounded_eq_some_iff]

example : readInt64? "+9223372036854775807".toList = some maxInt64 := by decide

example : readInt64? "9223372036854775808".toList = none := by decide

/-- A flag value states a positive limit if it is, apart from blanks around it, the numeral of a
positive integer that fits in 64 bits. -/
theorem zero_lt_pidLimit_iff {value : String} :
    0 < pidLimit (some value) ↔
      ∃ n, Denotes (trimChars value.toList) n ∧ 0 < n ∧ n ≤ maxInt64 := by
  have hread : pidLimit (some value) = (readInt64? (trimChars value.toList)).getD 0 := rfl
  rw [hread]
  constructor
  · intro hpos
    cases hlimit : readInt64? (trimChars value.toList) with
    | none =>
      rw [hlimit] at hpos
      exact absurd hpos (Int.lt_irrefl 0)
    | some n =>
      rw [hlimit] at hpos
      obtain ⟨hdenotes, -, hbound⟩ := readInt64?_eq_some_iff.1 hlimit
      exact ⟨n, hdenotes, hpos, hbound⟩
  · rintro ⟨n, hdenotes, hpos, hbound⟩
    have hmin : minInt64 ≤ n := Int.le_trans (by decide) (Int.le_of_lt hpos)
    rw [readInt64?_eq_some_iff.2 ⟨hdenotes, hmin, hbound⟩]
    exact hpos

end NodeFlags
