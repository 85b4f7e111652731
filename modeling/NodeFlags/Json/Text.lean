import NodeFlags.Text.Digit

/-!
# Texts in JSON

A text stands between double quotes. Inside, a backslash begins an escape: one
letter for some characters, or `u` and four hexadecimal digits for a 16-bit unit.
Two units that form a surrogate pair denote one character; a unit that is half of
a pair and stands alone denotes none. Such a text is still well formed as long as
nobody needs its characters, so reading has two steps: `readPieces` finds the end
of the text and takes its escapes apart, and `decode` joins the pieces.

Writing escapes the quote, the backslash and the control characters below the
blank, and nothing else.
-/

namespace NodeFlags.Json

/-- A part of a text as written: a character, or an escaped 16-bit unit. -/
inductive Piece where
  | char (c : Char)
  | unit (value : Nat)
  deriving DecidableEq, Repr

namespace Piece

/-- The value of four hexadecimal digits. -/
def unitValue? (a b c d : Char) : Option Nat := do
  let a ← Text.hexValue? a
  let b ← Text.hexValue? b
  let c ← Text.hexValue? c
  let d ← Text.hexValue? d
  return ((a * 16 + b) * 16 + c) * 16 + d

/-- The character that an escape letter stands for. -/
def ofLetter? (c : Char) : Option Char :=
  if c = '"' || c = '\\' || c = '/' then some c
  else if c = 'b' then some '\x08'
  else if c = 'f' then some '\x0c'
  else if c = 'n' then some '\n'
  else if c = 'r' then some '\r'
  else if c = 't' then some '\t'
  else none

/-- The first half of a surrogate pair. -/
def isHigh (u : Nat) : Bool :=
  0xD800 ≤ u && u ≤ 0xDBFF

/-- The second half of a surrogate pair. -/
def isLow (u : Nat) : Bool :=
  0xDC00 ≤ u && u ≤ 0xDFFF

end Piece

/-- Read the pieces of a text up to and with its closing quote. -/
def readPieces : List Char → Option (List Piece × List Char)
  | [] => none
  | '"' :: rest => some ([], rest)
  | '\\' :: 'u' :: a :: b :: c :: d :: rest =>
    match Piece.unitValue? a b c d, readPieces rest with
    | some u, some (ps, rest) => some (.unit u :: ps, rest)
    | _, _ => none
  | '\\' :: e :: rest =>
    match Piece.ofLetter? e, readPieces rest with
    | some c, some (ps, rest) => some (.char c :: ps, rest)
    | _, _ => none
  | c :: rest =>
    if c = '\\' || c.toNat < 0x20 then none
    else (readPieces rest).map fun r => (.char c :: r.1, r.2)

/-- Join pieces to characters; there are none if half a surrogate pair stands alone. -/
def decode : List Piece → Option (List Char)
  | [] => some []
  | .char c :: ps => (decode ps).map (c :: ·)
  | .unit u :: .unit w :: ps =>
    if Piece.isHigh u then
      if Piece.isLow w then
        (decode ps).map (Char.ofNat ((u - 0xD800) * 0x400 + (w - 0xDC00) + 0x10000) :: ·)
      else none
    else if Piece.isLow u then none
    else (decode (.unit w :: ps)).map (Char.ofNat u :: ·)
  | .unit u :: ps =>
    if Piece.isHigh u || Piece.isLow u then none else (decode ps).map (Char.ofNat u :: ·)

theorem readPieces_length {cs : List Char} {r : List Piece × List Char}
    (h : readPieces cs = some r) : r.2.length < cs.length := by
  fun_induction readPieces cs generalizing r with
  | case1 => cases h
  | case2 rest => cases h; simp
  | case3 a b c d rest u ps rest' h2 _ ih =>
    cases h
    have := ih h2
    simp only [List.length_cons] at this ⊢
    omega
  | case4 => cases h
  | case5 e rest _ c ps rest' h2 _ ih =>
    cases h
    have := ih h2
    simp only [List.length_cons] at this ⊢
    omega
  | case6 => cases h
  | case7 => cases h
  | case8 c rest _ _ _ _ ih =>
    obtain ⟨q, hq, rfl⟩ := Option.map_eq_some_iff.1 h
    have := ih hq
    simp only [List.length_cons] at this ⊢
    omega

/-! ### Writing -/

/-- How one character of a text is written. -/
def escape (c : Char) : List Char :=
  if c = '"' then ['\\', '"']
  else if c = '\\' then ['\\', '\\']
  else if c = '\x08' then ['\\', 'b']
  else if c = '\x0c' then ['\\', 'f']
  else if c = '\n' then ['\\', 'n']
  else if c = '\r' then ['\\', 'r']
  else if c = '\t' then ['\\', 't']
  else if c.toNat < 0x20 then
    ['\\', 'u', '0', '0', Text.hexDigit (c.toNat / 16), Text.hexDigit (c.toNat % 16)]
  else [c]

/-- A text as it is written, with its quotes. -/
def quote (s : String) : List Char :=
  '"' :: s.toList.flatMap escape ++ ['"']

end NodeFlags.Json
