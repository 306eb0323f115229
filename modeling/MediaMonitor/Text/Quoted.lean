import MediaMonitor.Text.Printable

/-!
# Quoted text

A text between double quotes on one line.  The quote, the backslash, the tab, the line feed, the
carriage return and the null character have escapes of two characters; any other character that is
not printable is written by its number, `\u{1b}`.
-/

namespace MediaMonitor.Text

/-- The hexadecimal digits of a number, lower case, without leading zeros. -/
def hexDigits (n : Nat) : List Char := Nat.toDigits 16 n

/-- One character of a quoted text. -/
def quoteChar (c : Char) : List Char :=
  if c = '"' then ['\\', '"']
  else if c = '\\' then ['\\', '\\']
  else if c = '\n' then ['\\', 'n']
  else if c = '\r' then ['\\', 'r']
  else if c = '\t' then ['\\', 't']
  else if c = '\x00' then ['\\', '0']
  else if isPrintable c then [c]
  else ['\\', 'u', '\x7b'] ++ hexDigits c.toNat ++ ['\x7d']

/-- The text between double quotes. -/
def quote (s : String) : String := String.ofList ('"' :: s.toList.flatMap quoteChar ++ ['"'])

example : quote "a\"\n\x1bé'" = "\"a\\\"\\n\\u\x7b1b\x7dé'\"" := by decide +kernel

end MediaMonitor.Text
