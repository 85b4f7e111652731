import NodeFlags.Text.CodeRange

/-!
# Blank characters and trimming

The Unicode property White_Space, and the removal of blanks at the two ends of a
text. Trimming is used on versions, on feature gates and on numbers.
-/

namespace NodeFlags.Text

/-- The characters with the Unicode property White_Space. -/
def blankRanges : List (Nat × Nat) :=
  [(0x9, 0xD), (0x20, 0x20), (0x85, 0x85), (0xA0, 0xA0), (0x1680, 0x1680), (0x2000, 0x200A),
   (0x2028, 0x2029), (0x202F, 0x202F), (0x205F, 0x205F), (0x3000, 0x3000)]

/-- Whether `c` has the Unicode property White_Space. -/
def isBlank (c : Char) : Bool :=
  inRanges blankRanges c

/-- A list of characters without the blanks it begins with. -/
def trimLeft (cs : List Char) : List Char :=
  cs.dropWhile isBlank

/-- A list of characters without the blanks it ends with. -/
def trimRight (cs : List Char) : List Char :=
  (cs.reverse.dropWhile isBlank).reverse

/-- A list of characters without the blanks at its two ends. -/
def trimChars (cs : List Char) : List Char :=
  trimRight (trimLeft cs)

/-- A text without the blanks at its two ends. -/
def trim (s : String) : String :=
  .ofList (trimChars s.toList)

end NodeFlags.Text
