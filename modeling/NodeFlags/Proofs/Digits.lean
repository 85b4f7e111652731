import Mathlib.Data.List.Induction
import Mathlib.Data.List.TakeWhile
import NodeFlags.Proofs.Numeral

/-!
# Digits and the numbers they are for

A natural number has one numeral, its digits without a needless zero in front
(`Nat.toDigits 10`). Digits in a text may have such zeros. They are then zeros and the
numeral of their value (`exists_eq_zeros_append`), so a number together with a count of
zeros stands for the digits and nothing is lost.

Digits are read as the longest run at the head of a text. Where such a run ends is said
by `StopsAt`, for digits as for any other class of characters.
-/

namespace NodeFlags.Text

/-! ### Values of digits -/

theorem toNat_of_isDigit {d : Char} (h : isDigit d = true) : 48 ≤ d.toNat ∧ d.toNat ≤ 57 := by
  obtain ⟨hlow, hhigh⟩ := Bool.and_eq_true_iff.1 h
  exact ⟨of_decide_eq_true hlow, of_decide_eq_true hhigh⟩

theorem digitValue_lt {d : Char} (h : isDigit d = true) : digitValue d < 10 := by
  obtain ⟨-, hhigh⟩ := toNat_of_isDigit h
  show d.toNat - 48 < 10
  omega

theorem digitsValue_concat (ds : List Char) (d : Char) :
    digitsValue (ds ++ [d]) = 10 * digitsValue ds + digitValue d := by
  rw [digitsValue, List.foldl_append, ← digitsValue, Nat.mul_comm]
  rfl

theorem digitsValue_zeros_append (zeros : Nat) (ds : List Char) :
    digitsValue (List.replicate zeros '0' ++ ds) = digitsValue ds := by
  induction zeros with
  | zero => rfl
  | succ zeros ih => exact ih

/-! ### The numeral of a number -/

theorem digitsValue_toDigits (n : Nat) : digitsValue (Nat.toDigits 10 n) = n := by
  have hvalue : ∀ ds : List Char, digitsValue ds = Nat.ofDigitChars 10 ds 0 := by
    intro ds
    simp only [digitsValue, Nat.ofDigitChars, digitValue, Nat.mul_comm]
  rw [hvalue, Nat.ofDigitChars_ten_toDigits]

theorem isDigit_of_mem_toDigits {n : Nat} {c : Char} (h : c ∈ Nat.toDigits 10 n) :
    isDigit c = true :=
  Nat.isDigit_of_mem_toDigits (by decide) (by decide) h

/-- A digit is the numeral of its value. -/
theorem toDigits_digitValue {d : Char} (h : isDigit d = true) :
    Nat.toDigits 10 (digitValue d) = [d] := by
  obtain ⟨hlow, -⟩ := toNat_of_isDigit h
  have hchar : Nat.digitChar (digitValue d) = d := by
    apply Char.toNat_inj.1
    rw [Nat.toNat_digitChar_of_lt_ten (digitValue_lt h)]
    show 48 + (d.toNat - 48) = d.toNat
    omega
  rw [Nat.toDigits_of_lt_base (digitValue_lt h), hchar]

theorem head?_toDigits_ne_zero {n : Nat} (h : n ≠ 0) : (Nat.toDigits 10 n).head? ≠ some '0' := by
  induction n using Nat.strongRecOn with
  | ind n ih =>
    by_cases hlt : n < 10
    · have hall : ∀ k < 10, k ≠ 0 → some (Nat.digitChar k) ≠ some '0' := by decide
      rw [Nat.toDigits_of_lt_base hlt]
      exact hall n hlt h
    · -- the first digit is that of the number without its last digit
      have hhead := ih (n / 10) (by omega) (by omega)
      rw [Nat.toDigits_of_base_le (by decide) (by omega)]
      cases hds : Nat.toDigits 10 (n / 10) with
      | nil => exact absurd hds Nat.toDigits_ne_nil
      | cons d ds => rwa [hds] at hhead

/-- A numeral of two digits or more does not begin with a zero. -/
theorem toDigits_ne_zero_cons (n : Nat) (d : Char) (more : List Char) :
    Nat.toDigits 10 n ≠ '0' :: d :: more := by
  intro h
  have hn : n ≠ 0 := by
    rintro rfl
    cases h
  exact head?_toDigits_ne_zero hn (by rw [h]; rfl)

/-- **Digits without a needless zero are the numeral of their value.** -/
theorem toDigits_digitsValue {ds : List Char} (hds : IsDigits ds)
    (hzero : ∀ d more, ds ≠ '0' :: d :: more) : Nat.toDigits 10 (digitsValue ds) = ds := by
  induction ds using List.reverseRecOn with
  | nil => exact absurd rfl hds.ne_nil
  | append_singleton ds d ih =>
    have hd : isDigit d = true := hds.all_digit d (by simp)
    by_cases hnil : ds = []
    · subst hnil
      exact (congrArg (Nat.toDigits 10) (Nat.zero_add _)).trans (toDigits_digitValue hd)
    · have hfirst : Nat.toDigits 10 (digitsValue ds) = ds := by
        refine ih ⟨hnil, fun c hc => hds.all_digit c (by simp [hc])⟩ ?_
        rintro c more rfl
        exact hzero c (more ++ [d]) rfl
      -- what stands before the last digit is not a zero alone
      have hpos : 0 < digitsValue ds := by
        refine Nat.pos_of_ne_zero fun h => ?_
        rw [h] at hfirst
        exact hzero d [] (by rw [← hfirst]; rfl)
      rw [digitsValue_concat, ← Nat.toDigits_append_toDigits (by decide) hpos (digitValue_lt hd),
        hfirst, toDigits_digitValue hd]

/-! ### Needless zeros -/

/-- **Digits are zeros and the numeral of their value.** -/
theorem exists_eq_zeros_append {cs : List Char} (h : IsDigits cs) :
    ∃ zeros, cs = List.replicate zeros '0' ++ Nat.toDigits 10 (digitsValue cs) := by
  induction cs with
  | nil => exact absurd rfl h.ne_nil
  | cons c cs ih =>
    by_cases hneedless : c = '0' ∧ cs ≠ []
    · obtain ⟨rfl, hne⟩ := hneedless
      obtain ⟨zeros, hcs⟩ := ih ⟨hne, fun d hd => h.all_digit d (List.mem_cons_of_mem _ hd)⟩
      have hvalue : digitsValue ('0' :: cs) = digitsValue cs := digitsValue_zeros_append 1 cs
      refine ⟨zeros + 1, ?_⟩
      rw [hvalue, List.replicate_succ, List.cons_append, ← hcs]
    · refine ⟨0, (toDigits_digitsValue h ?_).symm⟩
      rintro d more heq
      cases heq
      exact hneedless ⟨rfl, List.cons_ne_nil _ _⟩

/-- The zeros at the head of digits are the needless ones, and the numeral of zero. -/
theorem length_takeWhile_zeros_append (value zeros : Nat) :
    ((List.replicate zeros '0' ++ Nat.toDigits 10 value).takeWhile (· = '0')).length =
      zeros + if value = 0 then 1 else 0 := by
  have hzeros : ∀ c ∈ List.replicate zeros '0', decide (c = '0') = true :=
    fun c hc => decide_eq_true (List.eq_of_mem_replicate hc)
  rw [List.takeWhile_append_of_pos hzeros, List.length_append, List.length_replicate]
  by_cases hvalue : value = 0
  · subst hvalue
    rfl
  · have hhead := head?_toDigits_ne_zero hvalue
    rw [if_neg hvalue]
    cases hds : Nat.toDigits 10 value with
    | nil => rfl
    | cons d ds =>
      rw [hds] at hhead
      rw [List.takeWhile_cons_of_neg (by simpa using hhead), List.length_nil]

/-- Two digits or more begin with a zero exactly if it is needless. -/
theorem begins_with_zero_iff (value zeros : Nat) :
    (1 < (List.replicate zeros '0' ++ Nat.toDigits 10 value).length ∧
      (List.replicate zeros '0' ++ Nat.toDigits 10 value).head? = some '0') ↔ zeros ≠ 0 := by
  cases zeros with
  | zero =>
    rw [List.replicate_zero, List.nil_append]
    refine iff_of_false ?_ (not_not_intro rfl)
    rintro ⟨hlength, hhead⟩
    obtain ⟨more, hmore⟩ := List.head?_eq_some_iff.1 hhead
    cases more with
    | nil =>
      rw [hmore] at hlength
      exact absurd hlength (by decide)
    | cons d more => exact toDigits_ne_zero_cons value d more hmore
  | succ zeros =>
    refine iff_of_true ⟨?_, rfl⟩ (Nat.succ_ne_zero zeros)
    have hpos := Nat.length_toDigits_pos (b := 10) (n := value)
    rw [List.length_append, List.length_replicate]
    omega

/-! ### Runs of characters -/

/-- No character of a class stands at the head of a text. -/
def StopsAt (p : Char → Bool) (rest : List Char) : Prop :=
  ∀ c ∈ rest.head?, p c = false

theorem stopsAt_nil (p : Char → Bool) : StopsAt p [] := nofun

theorem stopsAt_cons_iff {p : Char → Bool} {c : Char} {rest : List Char} :
    StopsAt p (c :: rest) ↔ p c = false := by
  simp [StopsAt]

/-- **The longest run of a class at the head of a text**, and what follows it. -/
theorem takeWhile_dropWhile_iff {p : Char → Bool} {cs run rest : List Char} :
    (cs.takeWhile p = run ∧ cs.dropWhile p = rest) ↔
      cs = run ++ rest ∧ (∀ c ∈ run, p c = true) ∧ StopsAt p rest := by
  constructor
  · rintro ⟨rfl, rfl⟩
    refine ⟨List.takeWhile_append_dropWhile.symm, fun c hc => List.mem_takeWhile_imp hc, ?_⟩
    intro c hc
    have hhead := List.head?_dropWhile_not p cs
    rw [hc] at hhead
    exact hhead
  · rintro ⟨rfl, hrun, hstop⟩
    have hrest : rest.takeWhile p = [] ∧ rest.dropWhile p = rest := by
      cases rest with
      | nil => exact ⟨rfl, rfl⟩
      | cons c rest =>
        have hc := stopsAt_cons_iff.1 hstop
        rw [List.takeWhile_cons, List.dropWhile_cons, hc]
        exact ⟨rfl, rfl⟩
    rw [List.takeWhile_append_of_pos hrun, List.dropWhile_append_of_pos hrun, hrest.1, hrest.2,
      List.append_nil]
    exact ⟨rfl, rfl⟩

theorem takeWhile_append_dropWhile_stopsAt (p : Char → Bool) (cs : List Char) :
    cs = cs.takeWhile p ++ cs.dropWhile p ∧ (∀ c ∈ cs.takeWhile p, p c = true) ∧
      StopsAt p (cs.dropWhile p) :=
  takeWhile_dropWhile_iff.1 ⟨rfl, rfl⟩

end NodeFlags.Text
