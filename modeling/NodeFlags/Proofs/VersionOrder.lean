import NodeFlags.Version.Reader

/-!
# The order of versions

Each level of the comparison is a comparison of its own: identifiers, lists of
identifiers, pre-release lists, versions. Here each of them is shown to be
transitive (`Std.TransCmp`) from the levels below it, and to take nothing for equal
but what is the same (`Std.LawfulEqCmp`). For version texts this makes the thresholds
a scale: a text that meets a threshold meets every threshold below that one
(`atLeast_trans`).
-/

namespace NodeFlags

open Std

namespace Identifier

/-- Digits are compared as numbers and then by their leading zeros. -/
theorem cmp_numeric (a y b z : Nat) :
    (numeric a y).cmp (numeric b z) =
      compareLex (compareOn Prod.fst) (compareOn Prod.snd) (a, y) (b, z) := rfl

instance : OrientedCmp cmp where
  eq_swap {a b} := by
    cases a with
    | numeric a y =>
      cases b with
      | numeric b z =>
        rw [cmp_numeric, cmp_numeric]
        exact OrientedCmp.eq_swap
      | word t => rfl
    | word s =>
      cases b with
      | numeric b z => rfl
      | word t => exact (inferInstance : OrientedOrd String).eq_swap

instance : TransCmp cmp where
  isLE_trans {a b c} hab hbc := by
    cases a with
    | numeric a x =>
      cases c with
      | word t => rfl
      | numeric c z =>
        cases b with
        | word s => exact absurd hbc Bool.false_ne_true
        | numeric b y =>
          rw [cmp_numeric] at hab hbc ⊢
          exact TransCmp.isLE_trans hab hbc
    | word r =>
      cases b with
      | numeric b y => exact absurd hab Bool.false_ne_true
      | word s =>
        cases c with
        | numeric c z => exact absurd hbc Bool.false_ne_true
        | word t => exact (inferInstance : TransOrd String).isLE_trans hab hbc

/-- Leading zeros are compared, so no two ways to write a number are equal. -/
instance : LawfulEqCmp cmp where
  compare_self := ReflCmp.compare_self
  eq_of_compare {a b} h := by
    cases a with
    | numeric a y =>
      cases b with
      | numeric b z =>
        obtain ⟨hvalue, hzeros⟩ := Ordering.then_eq_eq.1 h
        rw [Nat.compare_eq_eq.1 hvalue, Nat.compare_eq_eq.1 hzeros]
      | word t => cases h
    | word s =>
      cases b with
      | numeric b z => cases h
      | word t => exact congrArg word (Std.compare_eq_iff_eq.1 h)

/-- Lists of identifiers are compared from the left. -/
theorem cmpList_eq_compareLex (as bs : List Identifier) :
    cmpList as bs = List.compareLex cmp as bs := by
  fun_induction cmpList as bs with
  | case1 => rfl
  | case2 => rfl
  | case3 => rfl
  | case4 a as b bs ih => rw [List.compareLex_cons_cons, ih]

instance : TransCmp cmpList := by
  rw [funext fun as => funext fun bs => cmpList_eq_compareLex as bs]
  infer_instance

instance : LawfulEqCmp cmpList := by
  rw [funext fun as => funext fun bs => cmpList_eq_compareLex as bs]
  infer_instance

end Identifier

namespace Version

instance : OrientedCmp cmpPre where
  eq_swap {as bs} := by
    cases as with
    | nil => cases bs <;> rfl
    | cons a as =>
      cases bs with
      | nil => rfl
      | cons b bs => exact (inferInstance : OrientedCmp Identifier.cmpList).eq_swap

/-- Without the empty list, the greatest, the lists are compared as lists of identifiers are. -/
instance : TransCmp cmpPre where
  isLE_trans {as bs cs} hab hbc := by
    cases cs with
    | nil => cases as <;> rfl
    | cons c cs =>
      cases bs with
      | nil => exact absurd hbc Bool.false_ne_true
      | cons b bs =>
        cases as with
        | nil => exact absurd hab Bool.false_ne_true
        | cons a as => exact (inferInstance : TransCmp Identifier.cmpList).isLE_trans hab hbc

instance : LawfulEqCmp cmpPre where
  compare_self := ReflCmp.compare_self
  eq_of_compare {as bs} h := by
    cases as with
    | nil =>
      cases bs with
      | nil => rfl
      | cons b bs => cases h
    | cons a as =>
      cases bs with
      | nil => cases h
      | cons b bs => exact (inferInstance : LawfulEqCmp Identifier.cmpList).eq_of_compare h

/-- A comparison of parts, as a comparison of the wholes. -/
theorem transCmp_of_part {α β : Type} (part : α → β) (cmp : β → β → Ordering) [h : TransCmp cmp] :
    TransCmp fun a b => cmp (part a) (part b) where
  eq_swap := h.eq_swap
  isLE_trans := h.isLE_trans

/-- The parts of a version are compared one after another. -/
theorem cmp_eq_compareLex :
    cmp = compareLex (compareOn major) (compareLex (compareOn minor) (compareLex (compareOn patch)
      (compareLex (fun a b => cmpPre a.pre b.pre)
        (fun a b => Identifier.cmpList a.build b.build)))) := rfl

instance : TransCmp cmp := by
  have := transCmp_of_part pre cmpPre
  have := transCmp_of_part build Identifier.cmpList
  rw [cmp_eq_compareLex]
  infer_instance

/-- Versions that are compared as equal have the same parts. -/
instance : LawfulEqCmp cmp where
  compare_self := ReflCmp.compare_self
  eq_of_compare {v w} h := by
    simp only [cmp, Ordering.then_eq_eq, LawfulEqCmp.compare_eq_iff_eq] at h
    obtain ⟨hmajor, hminor, hpatch, hpre, hbuild⟩ := h
    cases v
    cases w
    cases hmajor
    cases hminor
    cases hpatch
    cases hpre
    cases hbuild
    rfl

end Version

theorem atLeast_iff {version threshold : String} :
    atLeast version threshold = true ↔
      ∃ v t, Version.read? version = some v ∧ Version.read? threshold = some t ∧
        (v.cmp t).isGE = true := by
  unfold atLeast
  split
  · rename_i v t hv ht
    constructor
    · intro h
      exact ⟨v, t, hv, ht, h⟩
    · rintro ⟨v', t', hv', ht', h⟩
      rw [hv] at hv'
      rw [ht] at ht'
      cases hv'
      cases ht'
      exact h
  · rename_i hnone
    refine iff_of_false Bool.false_ne_true ?_
    rintro ⟨v, t, hv, ht, -⟩
    exact hnone v t hv ht

/-- A text that is no version is at or above nothing. -/
theorem atLeast_eq_false_of_read?_eq_none {version : String} (h : Version.read? version = none)
    (threshold : String) : atLeast version threshold = false := by
  rw [atLeast, h]

/-- Of two versions one is at or above the other. -/
theorem atLeast_total {a b : String} {v w : Version} (ha : Version.read? a = some v)
    (hb : Version.read? b = some w) : atLeast a b = true ∨ atLeast b a = true := by
  have hswap : w.cmp v = (v.cmp w).swap := OrientedCmp.eq_swap
  rw [atLeast, atLeast, ha, hb]
  show (v.cmp w).isGE = true ∨ (w.cmp v).isGE = true
  rw [hswap]
  cases v.cmp w with
  | lt => exact .inr rfl
  | eq => exact .inl rfl
  | gt => exact .inl rfl

/-- **Thresholds form a scale.** -/
theorem atLeast_trans {a b c : String} (hab : atLeast a b = true) (hbc : atLeast b c = true) :
    atLeast a c = true := by
  obtain ⟨va, vb, ha, hb, hge⟩ := atLeast_iff.1 hab
  obtain ⟨vb', vc, hb', hc, hge'⟩ := atLeast_iff.1 hbc
  obtain rfl : vb = vb' := Option.some.inj (hb.symm.trans hb')
  exact atLeast_iff.2 ⟨va, vc, ha, hc, TransCmp.isGE_trans hge hge'⟩

end NodeFlags
