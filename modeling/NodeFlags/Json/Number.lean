import NodeFlags.Decimal.Shortest
import NodeFlags.Text.Digit

/-!
# Numbers in JSON

A number is an optional minus sign, a whole part without needless zeros, an
optional fraction and an optional exponent. No field of a cluster definition is a
number, so a number only ever has to be skipped or to be shown in a message.

In a message a whole number that fits in 64 bits is an integer. Any other number is
read as a floating-point number: the digits that fit in 64 bits are scaled by one
multiplication with, or division by, a power of ten. It is shown with the fewest
digits that identify it, positionally from `10^-5` up to `10^16` and else with an
exponent. A number too large for a floating-point number cannot be shown.
-/

namespace NodeFlags.Json

/-- A number as written. -/
structure Number where
  /-- Whether a minus sign stands in front. -/
  negative : Bool
  /-- The digits before the point. -/
  whole : List Char
  /-- The digits after the point, if there is one. -/
  fraction : List Char
  /-- The exponent, if there is one: whether it is negative, and its digits. -/
  exponent : Option (Bool × List Char)
  deriving DecidableEq, Repr

namespace Number

/-- A natural number as written. -/
def ofNat (n : Nat) : Number :=
  ⟨false, Nat.toDigits 10 n, [], none⟩

/-! ### Reading -/

/-- Read a run of at least one digit. -/
def readDigits (cs : List Char) : Option (List Char × List Char) :=
  let ds := cs.takeWhile Text.isDigit
  if ds.isEmpty then none else some (ds, cs.dropWhile Text.isDigit)

/-- Read the digits before the point. -/
def readWhole (cs : List Char) : Option (List Char × List Char) :=
  match readDigits cs with
  | some ('0' :: _ :: _, _) => none
  | r => r

/-- Read the fraction, if there is one. -/
def readFraction (cs : List Char) : Option (List Char × List Char) :=
  match cs with
  | '.' :: rest => readDigits rest
  | _ => some ([], cs)

/-- Read the sign and the digits of an exponent. -/
def readSigned (cs : List Char) : Option (Option (Bool × List Char) × List Char) :=
  match cs with
  | '-' :: rest => (readDigits rest).map fun r => (some (true, r.1), r.2)
  | '+' :: rest => (readDigits rest).map fun r => (some (false, r.1), r.2)
  | _ => (readDigits cs).map fun r => (some (false, r.1), r.2)

/-- Read the exponent, if there is one. -/
def readExponent (cs : List Char) : Option (Option (Bool × List Char) × List Char) :=
  match cs with
  | 'e' :: rest => readSigned rest
  | 'E' :: rest => readSigned rest
  | _ => some (none, cs)

/-- Read a number without its sign. -/
def readUnsigned (negative : Bool) (cs : List Char) : Option (Number × List Char) := do
  let (whole, cs) ← readWhole cs
  let (fraction, cs) ← readFraction cs
  let (exponent, cs) ← readExponent cs
  return (⟨negative, whole, fraction, exponent⟩, cs)

/-- Read a number. -/
def read (cs : List Char) : Option (Number × List Char) :=
  match cs with
  | '-' :: rest => readUnsigned true rest
  | _ => readUnsigned false cs

theorem readDigits_length {cs : List Char} {r : List Char × List Char}
    (h : readDigits cs = some r) : r.2.length < cs.length := by
  unfold readDigits at h
  simp only at h
  split at h
  · cases h
  · rename_i hne
    cases h
    have hsum := congrArg List.length
      (List.takeWhile_append_dropWhile (p := Text.isDigit) (l := cs))
    rw [List.length_append] at hsum
    have hpos : 0 < (cs.takeWhile Text.isDigit).length := by
      rw [List.length_pos_iff]
      simpa using hne
    simp only
    omega

theorem readWhole_length {cs : List Char} {r : List Char × List Char}
    (h : readWhole cs = some r) : r.2.length < cs.length := by
  unfold readWhole at h
  split at h
  · cases h
  · exact readDigits_length h

theorem readFraction_length {cs : List Char} {r : List Char × List Char}
    (h : readFraction cs = some r) : r.2.length ≤ cs.length := by
  unfold readFraction at h
  split at h
  · have := readDigits_length h
    simp only [List.length_cons]
    omega
  · cases h
    exact Nat.le_refl _

theorem readSigned_length {cs : List Char} {r : Option (Bool × List Char) × List Char}
    (h : readSigned cs = some r) : r.2.length < cs.length := by
  unfold readSigned at h
  split at h <;> obtain ⟨q, hq, rfl⟩ := Option.map_eq_some_iff.1 h <;>
    have := readDigits_length hq <;> simp only [List.length_cons] <;> omega

theorem readExponent_length {cs : List Char} {r : Option (Bool × List Char) × List Char}
    (h : readExponent cs = some r) : r.2.length ≤ cs.length := by
  unfold readExponent at h
  split at h
  · have := readSigned_length h
    simp only [List.length_cons]
    omega
  · have := readSigned_length h
    simp only [List.length_cons]
    omega
  · cases h
    exact Nat.le_refl _

theorem readUnsigned_length {negative : Bool} {cs : List Char} {r : Number × List Char}
    (h : readUnsigned negative cs = some r) : r.2.length < cs.length := by
  unfold readUnsigned at h
  obtain ⟨⟨whole, cs1⟩, h1, h⟩ := Option.bind_eq_some_iff.1 h
  obtain ⟨⟨fraction, cs2⟩, h2, h⟩ := Option.bind_eq_some_iff.1 h
  obtain ⟨⟨exponent, cs3⟩, h3, h⟩ := Option.bind_eq_some_iff.1 h
  cases h
  have := readWhole_length h1
  have := readFraction_length h2
  have := readExponent_length h3
  simp only at *
  omega

theorem read_length {cs : List Char} {r : Number × List Char} (h : read cs = some r) :
    r.2.length < cs.length := by
  unfold read at h
  split at h
  · have := readUnsigned_length h
    simp only [List.length_cons]
    omega
  · exact readUnsigned_length h

/-! ### Showing -/

/-- The greatest natural number of 64 bits. -/
def maxNatural : Nat := 0xFFFFFFFFFFFFFFFF

/-- The greatest natural number whose negation is an integer of 64 bits. -/
def maxNegated : Nat := 0x8000000000000000

/-- Append digits to `n` as long as the result fits in 64 bits; what is left over follows. -/
def absorb (n : Nat) : List Char → Nat × List Char
  | [] => (n, [])
  | d :: ds =>
    if n * 10 + Text.digitValue d ≤ maxNatural then absorb (n * 10 + Text.digitValue d) ds
    else (n, d :: ds)

/-- Scale `f` by `10^exponent`, in steps for the very small; nothing if the result is too large. -/
def scale (f : Float) (exponent : Int) : Nat → Option Float
  | 0 => some f
  | n + 1 =>
    if exponent.natAbs ≤ 308 then
      let pow := Float.ofScientific 1 false exponent.natAbs
      if 0 ≤ exponent then
        if (f * pow).isInf then none else some (f * pow)
      else some (f / pow)
    else if f == 0 then some f
    else if 0 ≤ exponent then none
    else scale (f / Float.ofScientific 1 false 308) (exponent + 308) n

/-- The greatest exponent that is looked at. -/
def maxExponent : Nat := 0x7FFFFFFF

/-- The size of a number as a floating-point number; nothing if it is too large. -/
def magnitude (n : Number) : Option Float :=
  let (significand, restWhole) := absorb 0 n.whole
  let (significand, restFraction) := absorb significand n.fraction
  let absorbed := n.fraction.length - restFraction.length
  let shift : Int := (restWhole.length : Int) - (absorbed : Int)
  let f := significand.toUInt64.toFloat
  match n.exponent with
  | none => scale f shift 8
  | some (negative, ds) =>
    let e := Text.digitsValue ds
    if maxExponent < e then
      if significand ≠ 0 ∧ !negative then none else some 0
    else scale f (if negative then shift - e else shift + e) 8

/-- The digits of a decimal, positionally for moderate exponents and else with an exponent. -/
def showDecimal (d : Decimal.Dec) : String :=
  let ds := Nat.toDigits 10 d.digits
  let point : Int := ds.length + d.exponent
  if 0 ≤ d.exponent ∧ point ≤ 16 then
    .ofList (ds ++ List.replicate d.exponent.toNat '0' ++ ['.', '0'])
  else if 0 < point ∧ point ≤ 16 then
    .ofList (ds.take point.toNat ++ '.' :: ds.drop point.toNat)
  else if -5 < point ∧ point ≤ 0 then
    .ofList ('0' :: '.' :: List.replicate (-point).toNat '0' ++ ds)
  else
    let mantissa := match ds with
      | [] => []
      | [x] => [x]
      | x :: more => x :: '.' :: more
    .ofList mantissa ++ (if 0 < point then "e+" else "e") ++ toString (point - 1)

/-- A finite floating-point number with the fewest digits that identify it. -/
def showFloat (negative : Bool) (f : Float) : String :=
  let sign := if negative then "-" else ""
  if f == 0 then sign ++ "0.0"
  else sign ++ showDecimal (Decimal.Binary.ofBits f.toBits.toNat).shortest

/-- How a message shows a number; nothing if it is too large. -/
def describe (n : Number) : Option String :=
  let whole := Text.digitsValue n.whole
  if n.fraction.isEmpty ∧ n.exponent.isNone ∧
      (if n.negative then 0 < whole ∧ whole ≤ maxNegated else whole ≤ maxNatural) then
    some ("integer `" ++ (if n.negative then "-" else "") ++ toString whole ++ "`")
  else
    n.magnitude.map fun f => "floating point `" ++ showFloat n.negative f ++ "`"

/-! ### Writing -/

/-- A number as it is written. -/
def render (n : Number) : List Char :=
  (if n.negative then ['-'] else []) ++ n.whole ++
    (if n.fraction.isEmpty then [] else '.' :: n.fraction) ++
    match n.exponent with
    | none => []
    | some (negative, ds) => 'e' :: (if negative then ['-'] else []) ++ ds

end Number

end NodeFlags.Json
