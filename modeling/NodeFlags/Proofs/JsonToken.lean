import NodeFlags.Json.Token

/-!
# Tokens of JSON, written and scanned again

A text that was written is read piece by piece: each character comes back as a piece
of its own, an escaped control character as a 16-bit unit (`pieceOf`), and reading
stops at the closing quote whatever follows. The pieces denote the characters again.

All tokens but numbers end by themselves: nothing that follows one can become part
of it. So a list of such tokens, written one after another, is scanned as that list
(`Token.scan_flatMap_render`).
-/

namespace NodeFlags.Json

/-! ### Texts -/

theorem hexValue?_hexDigit {n : Nat} (h : n < 16) : Text.hexValue? (Text.hexDigit n) = some n := by
  have hall : ∀ k < 16, Text.hexValue? (Text.hexDigit k) = some k := by decide
  exact hall n h

/-- A code point below the blank as four hexadecimal digits. -/
theorem unitValue?_of_lt {n : Nat} (h : n < 0x20) :
    Piece.unitValue? '0' '0' (Text.hexDigit (n / 16)) (Text.hexDigit (n % 16)) = some n := by
  have hzero : Text.hexValue? '0' = some 0 := by decide
  unfold Piece.unitValue?
  rw [hzero, hexValue?_hexDigit (by omega), hexValue?_hexDigit (by omega)]
  simp only [Option.bind_eq_bind, Option.bind_some, Option.pure_def, Option.some.injEq]
  omega

/-- The control characters that are escaped by a letter. -/
def escapeLetters : List Char :=
  ['\x08', '\x0c', '\n', '\r', '\t']

/-- The piece as which a character is written. -/
def pieceOf (c : Char) : Piece :=
  if c.toNat < 0x20 ∧ c ∉ escapeLetters then .unit c.toNat else .char c

theorem readPieces_letter {e c : Char} (he : e ≠ 'u') (hc : Piece.ofLetter? e = some c)
    (rest : List Char) :
    readPieces ('\\' :: e :: rest) = (readPieces rest).map fun r => (.char c :: r.1, r.2) := by
  rw [readPieces, hc]
  · cases readPieces rest <;> rfl
  · intro _ _ _ _ _ hu
    exact absurd hu he

theorem readPieces_unit {a b c d : Char} {n : Nat} (h : Piece.unitValue? a b c d = some n)
    (rest : List Char) :
    readPieces ('\\' :: 'u' :: a :: b :: c :: d :: rest) =
      (readPieces rest).map fun r => (.unit n :: r.1, r.2) := by
  rw [readPieces, h]
  cases readPieces rest <;> rfl

theorem readPieces_char {c : Char} (hquote : c ≠ '"') (hslash : c ≠ '\\') (hc : ¬ c.toNat < 0x20)
    (rest : List Char) :
    readPieces (c :: rest) = (readPieces rest).map fun r => (.char c :: r.1, r.2) := by
  rw [readPieces, if_neg (by simp [hslash, hc])]
  · exact fun h => absurd h hquote
  · exact fun _ _ _ _ _ h => absurd h hslash
  · exact fun _ _ h => absurd h hslash

/-- **A character that was written is read as its piece**, whatever follows. -/
theorem readPieces_escape (c : Char) (rest : List Char) :
    readPieces (escape c ++ rest) = (readPieces rest).map fun r => (pieceOf c :: r.1, r.2) := by
  by_cases hletter : c ∈ '"' :: '\\' :: escapeLetters
  · -- each of these has an escape letter of its own
    simp only [escapeLetters, List.mem_cons, List.not_mem_nil, or_false] at hletter
    rcases hletter with rfl | rfl | rfl | rfl | rfl | rfl | rfl <;>
      exact readPieces_letter (by decide) (by decide) rest
  · simp only [escapeLetters, List.mem_cons, List.not_mem_nil, or_false, not_or] at hletter
    obtain ⟨hquote, hslash, h8, hc, hn, hr, ht⟩ := hletter
    by_cases hlow : c.toNat < 0x20
    · have hpiece : pieceOf c = .unit c.toNat :=
        if_pos ⟨hlow, by simp [escapeLetters, h8, hc, hn, hr, ht]⟩
      rw [escape, if_neg hquote, if_neg hslash, if_neg h8, if_neg hc, if_neg hn, if_neg hr,
        if_neg ht, if_pos hlow, hpiece]
      exact readPieces_unit (unitValue?_of_lt hlow) rest
    · have hpiece : pieceOf c = .char c := if_neg fun h => hlow h.1
      rw [escape, if_neg hquote, if_neg hslash, if_neg h8, if_neg hc, if_neg hn, if_neg hr,
        if_neg ht, if_neg hlow, hpiece]
      exact readPieces_char hquote hslash hlow rest

/-- Reading a text stops at its closing quote. -/
theorem readPieces_flatMap_escape (cs rest : List Char) :
    readPieces (cs.flatMap escape ++ '"' :: rest) = some (cs.map pieceOf, rest) := by
  induction cs with
  | nil => rw [List.flatMap_nil, List.nil_append, readPieces, List.map_nil]
  | cons c cs ih =>
    rw [List.flatMap_cons, List.append_assoc, readPieces_escape, ih, Option.map_some,
      List.map_cons]

/-- A unit that is no half of a surrogate pair denotes a character by itself. -/
theorem decode_unit {n : Nat} (hhigh : Piece.isHigh n = false) (hlow : Piece.isLow n = false)
    (ps : List Piece) : decode (.unit n :: ps) = (decode ps).map (Char.ofNat n :: ·) := by
  have halone : (Piece.isHigh n || Piece.isLow n) = false := by rw [hhigh, hlow, Bool.or_false]
  match ps with
  | [] => simp only [decode, halone, Bool.false_eq_true, if_false]
  | .char c :: ps => simp only [decode, halone, Bool.false_eq_true, if_false]
  | .unit w :: ps => simp only [decode, hhigh, hlow, Bool.false_eq_true, if_false]

theorem decode_pieceOf (c : Char) (ps : List Piece) :
    decode (pieceOf c :: ps) = (decode ps).map (c :: ·) := by
  unfold pieceOf
  split
  · rename_i h
    have hhigh : Piece.isHigh c.toNat = false := by simp [Piece.isHigh]; omega
    have hlow : Piece.isLow c.toNat = false := by simp [Piece.isLow]; omega
    rw [decode_unit hhigh hlow, Char.ofNat_toNat]
  · rw [decode]

/-- **The pieces of a text that was written denote its characters.** -/
theorem decode_map_pieceOf (cs : List Char) : decode (cs.map pieceOf) = some cs := by
  induction cs with
  | nil => rfl
  | cons c cs ih => rw [List.map_cons, decode_pieceOf, ih, Option.map_some]

/-! ### Tokens -/

namespace Token

theorem quote_append (s : String) (rest : List Char) :
    quote s ++ rest = '"' :: (s.toList.flatMap escape ++ '"' :: rest) := by
  simp [quote]

theorem read?_quote (s : String) (rest : List Char) :
    read? (quote s ++ rest) = some (.text (some s), rest) := by
  rw [quote_append, read?, readPieces_flatMap_escape, Option.map_some, decode_map_pieceOf,
    Option.map_some, String.ofList_toList]

/-- Whether a token ends by itself, so that it can be written before anything. -/
def endsItself : Token → Bool
  | .number _ => false
  | .text none => false
  | .broken => false
  | _ => true

/-- A token that ends by itself is read as it was written. -/
theorem read?_render {t : Token} (h : t.endsItself = true) (rest : List Char) :
    read? (t.render ++ rest) = some (t, rest) := by
  match t with
  | .bool true => rfl
  | .bool false => rfl
  | .text (some s) => exact read?_quote s rest
  | .openObject | .closeObject | .openArray | .closeArray | .comma | .colon | .null => rfl

/-- What is written of a token that ends by itself does not begin with a blank. -/
theorem exists_render_eq_cons {t : Token} (h : t.endsItself = true) :
    ∃ c cs, t.render = c :: cs ∧ isBlank c = false := by
  match t with
  | .bool true => exact ⟨_, _, rfl, by decide⟩
  | .bool false => exact ⟨_, _, rfl, by decide⟩
  | .text (some s) => exact ⟨_, _, rfl, by decide⟩
  | .openObject | .closeObject | .openArray | .closeArray | .comma | .colon | .null =>
    exact ⟨_, _, rfl, by decide⟩

theorem scan_nil : scan [] = [] := by
  rw [scan]

theorem scan_of_read? {c : Char} {cs rest : List Char} {t : Token} (hblank : isBlank c = false)
    (h : read? (c :: cs) = some (t, rest)) : scan (c :: cs) = t :: scan rest := by
  rw [scan, if_neg (by rw [hblank]; exact Bool.false_ne_true)]
  split
  · rename_i hnone
    rw [h] at hnone
    cases hnone
  · rename_i t' rest' hsome
    rw [h] at hsome
    cases hsome
    rfl

theorem scan_render_append {t : Token} (h : t.endsItself = true) (rest : List Char) :
    scan (t.render ++ rest) = t :: scan rest := by
  obtain ⟨c, cs, hrender, hblank⟩ := exists_render_eq_cons h
  have hread := read?_render h rest
  rw [hrender, List.cons_append] at hread ⊢
  exact scan_of_read? hblank hread

/-- **Tokens that end by themselves are scanned as they were written.** -/
theorem scan_flatMap_render {ts : List Token} (h : ∀ t ∈ ts, t.endsItself = true) :
    scan (ts.flatMap render) = ts := by
  induction ts with
  | nil => exact scan_nil
  | cons t ts ih =>
    rw [List.flatMap_cons, scan_render_append (h t List.mem_cons_self),
      ih fun u hu => h u (List.mem_cons_of_mem _ hu)]

end Token

end NodeFlags.Json
