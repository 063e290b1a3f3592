/-!
# JSON documents

The values that a report is made of, natural numbers, strings, arrays and objects, and their two
written forms: compact, on one line without blanks, and indented, with one item to a line and two
blanks to a level. Objects keep the order of their members.
-/

namespace Aliasing

inductive Json where
  | number (n : Nat)
  | string (s : String)
  | array (items : List Json)
  | object (members : List (String × Json))

namespace Json

/-! ## Strings -/

/-- A control character by its number, in four lower-case hexadecimal digits. -/
def controlEscape (c : Char) : List Char :=
  let digits := Nat.toDigits 16 c.toNat
  ['\\', 'u'] ++ List.replicate (4 - digits.length) '0' ++ digits

/-- One character inside a JSON string: the quote, the backslash and the controls below U+0020 are
escaped, all else stands for itself. -/
def escapedChar (c : Char) : List Char :=
  match c with
  | '\"' => ['\\', '\"']
  | '\\' => ['\\', '\\']
  | '\x08' => ['\\', 'b']
  | '\x0c' => ['\\', 'f']
  | '\n' => ['\\', 'n']
  | '\r' => ['\\', 'r']
  | '\t' => ['\\', 't']
  | c => if c.toNat < 0x20 then controlEscape c else [c]

/-- A string as a JSON literal. -/
def literal (s : String) : String :=
  String.ofList ('\"' :: s.toList.flatMap escapedChar ++ ['\"'])

/-! ## The compact form -/

mutual

/-- A value on one line, without blanks. -/
def compact : Json → String
  | number n => n.repr
  | string s => literal s
  | array items => "[" ++ compactItems items ++ "]"
  | object members => "\x7b" ++ compactMembers members ++ "\x7d"

def compactItems : List Json → String
  | [] => ""
  | [v] => v.compact
  | v :: w :: rest => v.compact ++ "," ++ compactItems (w :: rest)

def compactMembers : List (String × Json) → String
  | [] => ""
  | [(k, v)] => literal k ++ ":" ++ v.compact
  | (k, v) :: m :: rest => literal k ++ ":" ++ v.compact ++ "," ++ compactMembers (m :: rest)

end

/-! ## The indented form -/

/-- The end of a line and the blanks that begin the next one at a level. -/
def newline (level : Nat) : String :=
  String.ofList ('\n' :: List.replicate (2 * level) ' ')

mutual

/-- A value with one item to a line, standing at a level of indentation. Empty arrays and objects
stay on their line. -/
def indented (level : Nat) : Json → String
  | number n => n.repr
  | string s => literal s
  | array [] => "[]"
  | array (v :: rest) =>
    "[" ++ newline (level + 1) ++ v.indented (level + 1) ++ indentedItems (level + 1) rest
      ++ newline level ++ "]"
  | object [] => "\x7b\x7d"
  | object ((k, v) :: rest) =>
    "\x7b" ++ newline (level + 1) ++ literal k ++ ": " ++ v.indented (level + 1)
      ++ indentedMembers (level + 1) rest ++ newline level ++ "\x7d"

/-- The items after the first of an array, each after a comma and on a line of its own. -/
def indentedItems (level : Nat) : List Json → String
  | [] => ""
  | v :: rest => "," ++ newline level ++ v.indented level ++ indentedItems level rest

/-- The members after the first of an object, each after a comma and on a line of its own. -/
def indentedMembers (level : Nat) : List (String × Json) → String
  | [] => ""
  | (k, v) :: rest =>
    "," ++ newline level ++ literal k ++ ": " ++ v.indented level ++ indentedMembers level rest

end

example : (object [("a", array [number 1, string "b\n"]), ("c", array [])]).compact =
    "\x7b\"a\":[1,\"b\\n\"],\"c\":[]\x7d" := by decide +kernel

end Json

end Aliasing
