import NodeFlags.Text.HiddenChar

/-!
# Characters and texts quoted in messages

A message shows a character between single quotes and a text between double
quotes. The closing quote and the backslash are escaped by a backslash; NUL, tab,
line feed and carriage return have a letter; any other character without a glyph
is shown by its code point in hexadecimal, as in `\u{200b}`.
-/

namespace NodeFlags.Text

/-- The lower-case hexadecimal digits of a number, without leading zeros. -/
def hex (n : Nat) : String :=
  .ofList (Nat.toDigits 16 n)

/-- How `c` is shown between two marks `quote`. -/
def showChar (quote c : Char) : String :=
  if c = '\x00' then "\\0"
  else if c = '\t' then "\\t"
  else if c = '\r' then "\\r"
  else if c = '\n' then "\\n"
  else if c = '\\' || c = quote then .ofList ['\\', c]
  else if isHiddenChar c then "\\u\x7b" ++ hex c.toNat ++ "\x7d"
  else .ofList [c]

/-- A character between single quotes. -/
def quoteChar (c : Char) : String :=
  "'" ++ showChar '\'' c ++ "'"

/-- A text between double quotes. -/
def quoteText (s : String) : String :=
  "\"" ++ String.join (s.toList.map (showChar '"')) ++ "\""

end NodeFlags.Text
