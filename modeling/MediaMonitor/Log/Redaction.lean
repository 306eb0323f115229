import MediaMonitor.Text.LowerCase

/-!
# Redaction

What must not reach the host's log.  A field whose name has a word for a secret in it shows nothing
of its value; a value that looks like a mail address shows its first octet only, which is no text
when the first character is longer than that.
-/

namespace MediaMonitor.Redaction

/-- The words that name a secret, in lower case. -/
def secretWords : List String := ["token", "password", "secret", "api_key", "apikey", "x-api-key",
  "authorization", "bearer"]

/-- The name of a field has a word for a secret in it. -/
def isSecret (name : String) : Bool :=
  let name := Text.lowerChars name.toList
  secretWords.any (fun w => Text.occursIn w.toList name)

/-- The value looks like a mail address. -/
def isAddress (value : String) : Bool := value.toList.contains '@' && value.toList.contains '.'

/-- The first octet of a mail address in front of its sign, if that is a text. -/
def firstOctet? : List Char → Option (List Char)
  | [] => some []
  | c :: _ => if c = '@' then some [] else if c.toNat < 0x80 then some [c] else none

/-- The redacted value of a field; `none` when the first octet of an address is no text. -/
def redact? (name value : String) : Option String :=
  if isSecret name then some "[REDACTED]"
  else if isAddress value then
    (firstOctet? value.toList).map (fun cs => String.ofList cs ++ "***@[REDACTED]")
  else some value

/-- The part of a path behind its last separator of either kind. -/
def baseName (path : String) : String :=
  String.ofList ((path.toList.reverse.takeWhile (fun c => c ≠ '/' && c ≠ '\\')).reverse)

example : redact? "owner" "user@example.com" = some "u***@[REDACTED]" ∧
    redact? "X-Token" "a" = some "[REDACTED]" ∧ redact? "owner" "é@x.com" = none := by
  decide +kernel

end MediaMonitor.Redaction
