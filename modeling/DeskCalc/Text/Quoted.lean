import DeskCalc.Text.Printable

/-! # Quoted text

A text between double quotes. Quotes, backslashes and the usual controls are written with a backslash, any other
character that cannot stand alone by its code point.

* `quoted`: the quoted form of a string.
-/

namespace DeskCalc.Text
set_option autoImplicit false

/-- The code point of a character in hexadecimal, between braces. -/
def codePoint (c : Char) : List Char :=
  "\\u\x7b".toList ++ Nat.toDigits 16 c.toNat ++ "\x7d".toList

def escaped (c : Char) : List Char :=
  if c = '\x00' then "\\0".toList
  else if c = '\t' then "\\t".toList
  else if c = '\r' then "\\r".toList
  else if c = '\n' then "\\n".toList
  else if c = '\\' || c = '"' then ['\\', c]
  else if standsAlone c then [c]
  else codePoint c

def quoted (s : String) : String :=
  String.ofList ('"' :: s.toList.flatMap escaped ++ ['"'])

example : quoted "a\"b\\\tc\u200b" = "\"a\\\"b\\\\\\tc\\u\x7b200b\x7d\"" := by decide +kernel

end DeskCalc.Text
