import PeripheralLink.Text.Printable
import PeripheralLink.Text.Digits
/-!
Text in quotes, as reports show a value that may hold anything.  The mark is an apostrophe unless
the text has apostrophes and no double quote, and what would not be seen is escaped.
-/

namespace PeripheralLink.Text

/-- The mark that encloses a text unless the other one serves better. -/
def apostrophe : Char := '\x27'

/-- The other mark, and the one of JSON strings. -/
def doubleQuote : Char := '\x22'

/-- The character that begins an escape. -/
def backslash : Char := '\x5c'

/-- The mark that encloses a text. -/
def quoteMark (cs : List Char) : Char :=
  if cs.contains apostrophe && !cs.contains doubleQuote then doubleQuote else apostrophe

/-- The last `places` hexadecimal digits of a number, in lower case. -/
def hexPlaces (places n : Nat) : List Char :=
  (List.range places).reverse.map fun place => hexDigitLower (n / Nat.pow 16 place % 16)

/-- The escape of a character by its code point, in the shortest of three forms. -/
def codeEscape (c : Char) : List Char :=
  if c.toNat < 0x100 then backslash :: 'x' :: hexPlaces 2 c.toNat
  else if c.toNat < 0x10000 then backslash :: 'u' :: hexPlaces 4 c.toNat
  else backslash :: 'U' :: hexPlaces 8 c.toNat

/-- A character between quotes.  The mark and the backslash are escaped, then the three controls
with letters of their own, then whatever is not printable. -/
def quoteChar (mark c : Char) : List Char :=
  if c == mark || c == backslash then [backslash, c]
  else if c == '\n' then [backslash, 'n']
  else if c == '\r' then [backslash, 'r']
  else if c == '\t' then [backslash, 't']
  else if isPrintable c then [c]
  else codeEscape c

/-- The text between quotes. -/
def quote (cs : List Char) : String :=
  let mark := quoteMark cs
  String.ofList (mark :: cs.flatMap (quoteChar mark) ++ [mark])

/-- The text between quotes, every character outside ASCII escaped. -/
def quoteAscii (cs : List Char) : String :=
  String.ofList ((quote cs).toList.flatMap fun c => if c.toNat < 0x80 then [c] else codeEscape c)

/-- The UTF-16 units of a character, each as an escape of a JSON string. -/
def unitEscapes (c : Char) : List Char :=
  let escape (n : Nat) := backslash :: 'u' :: hexPlaces 4 n
  if c.toNat < 0x10000 then escape c.toNat
  else
    let n := c.toNat - 0x10000
    escape (0xD800 + n / 0x400) ++ escape (0xDC00 + n % 0x400)

/-- A character of a JSON string that is kept within ASCII. -/
def jsonChar (c : Char) : List Char :=
  if c == doubleQuote || c == backslash then [backslash, c]
  else if c == '\n' then [backslash, 'n']
  else if c == '\r' then [backslash, 'r']
  else if c == '\t' then [backslash, 't']
  else if c == '\x08' then [backslash, 'b']
  else if c == '\x0c' then [backslash, 'f']
  else if 0x20 ≤ c.toNat && c.toNat < 0x7F then [c]
  else unitEscapes c

/-- The text as a JSON string within ASCII. -/
def jsonString (s : String) : String :=
  String.ofList (doubleQuote :: s.toList.flatMap jsonChar ++ [doubleQuote])

/-- A text with apostrophes and without double quotes is enclosed in double quotes. -/
theorem quoteMark_eq_doubleQuote_iff (cs : List Char) :
    quoteMark cs = doubleQuote ↔ apostrophe ∈ cs ∧ doubleQuote ∉ cs := by
  have hne : apostrophe ≠ doubleQuote := by decide
  simp [quoteMark, hne]

example : quote "a b".toList = "'a b'" := by decide +kernel

example : quote "é\u2028".toList = "'é\\u2028'" := by decide +kernel

example : quoteAscii "é".toList = "'\\xe9'" := by decide +kernel

end PeripheralLink.Text
