import Aliasing.Text.Printable
/-!
# Quoted text

Messages show a text between double quotes, so that every character of it can be told apart: the
quote, the backslash and four controls have short escapes, and a character that does not show on its
own is written by its number in hexadecimal.
-/

namespace Aliasing

/-- A character by its number, in the form `\u` and lower-case hexadecimal digits in braces. -/
def numberEscape (c : Char) : List Char :=
  ['\\', 'u', '\x7b'] ++ Nat.toDigits 16 c.toNat ++ ['\x7d']

def quotedChar (c : Char) : List Char :=
  match c with
  | '\x00' => ['\\', '0']
  | '\t' => ['\\', 't']
  | '\r' => ['\\', 'r']
  | '\n' => ['\\', 'n']
  | '\"' => ['\\', '\"']
  | '\\' => ['\\', '\\']
  | c => if combining.contains c || unprintable.contains c then numberEscape c else [c]

/-- A text between double quotes, with the characters that do not show escaped. -/
def quoted (text : String) : String :=
  String.ofList ('\"' :: text.toList.flatMap quotedChar ++ ['\"'])

example : quoted "a\tb" = "\"a\\tb\"" := by decide +kernel

example : quoted "\u00ad" = "\"\\u\x7bad\x7d\"" := by decide +kernel

end Aliasing
