/-!
# Percent-encoding

Every octet of a text other than the ASCII letters and digits and `-`, `_`, `.`, `~` is written as
`%` and two hexadecimal digits in upper case.
-/

namespace MediaMonitor.Text.Percent

/-- The octet stands for itself. -/
def isUnreserved (b : UInt8) : Bool :=
  let c := Char.ofNat b.toNat
  b.toNat < 0x80 && (c.isAlphanum || c == '-' || c == '_' || c == '.' || c == '~')

/-- The hexadecimal digit of a number below 16, upper case. -/
def hexDigit (n : Nat) : Char := (Nat.digitChar n).toUpper

/-- One octet. -/
def encodeOctet (b : UInt8) : List Char :=
  if isUnreserved b then [Char.ofNat b.toNat]
  else ['%', hexDigit (b.toNat / 16), hexDigit (b.toNat % 16)]

/-- The percent-encoded form of a text. -/
def encode (s : String) : List Char :=
  (s.toList.flatMap String.utf8EncodeChar).flatMap encodeOctet

example : encode "a b&é~" = "a%20b%26%C3%A9~".toList := by decide

end MediaMonitor.Text.Percent
