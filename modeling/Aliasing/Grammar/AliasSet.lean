import Aliasing.Grammar.Record
import Aliasing.Text.Lines
/-!
# Reading alias sets

An alias set is written on one line as its members between quotes and braces, such as
`{'@a', 'main::%p'}`, with white space allowed after a comma and at the end of the line only. The
set may be empty.

Main statement: `ends_aliasSet`, reading a line comes to an end.
-/

namespace Aliasing.Grammar

open Matcher

def quotedName : Matcher Name := do
  literal "'"
  let x ← name
  literal "'"
  return x

def comma : Matcher Unit := do
  literal ","
  padding

/-- The members of an alias set: a list of quoted names, or nothing if the brace closes at once. -/
def members : Matcher NameSet :=
  ((fun xs => Std.ExtTreeSet.ofList xs) <$> quotedName.separated comma).orElse
    ((fun _ => ∅) <$> (literal "\x7d").lookAhead)

/-- A line that holds one alias set and nothing else (`parse_alias_set`). -/
def aliasSet : Matcher NameSet := do
  literal "\x7b"
  let xs ← members
  literal "\x7d"
  padding
  endOfText
  return xs

theorem ends_quotedName : quotedName.Ends :=
  (ends_literal _).bind fun _ => ends_name.bind fun _ => (ends_literal _).bind fun _ => ends_pure _

theorem consumes_quotedName : quotedName.Consumes := (consumes_literal (by decide)).bind _

theorem ends_members : members.Ends :=
  ((ends_separated ends_quotedName ((ends_literal _).bind fun _ => ends_padding)
    consumes_quotedName).map _).orElse ((ends_literal _).lookAhead.map _)

/-- **Reading a line ends.** -/
theorem ends_aliasSet : aliasSet.Ends :=
  (ends_literal _).bind fun _ => ends_members.bind fun _ => (ends_literal _).bind fun _ =>
  ends_padding.bind fun _ => ends_endOfText.bind fun _ => ends_pure _

end Aliasing.Grammar

namespace Aliasing

/-- The alias set that a line holds, or the reason why it holds none. -/
def readAliasSet (line : List Char) : Except Grammar.Rejection NameSet :=
  ((Grammar.aliasSet (.start line)).toExcept (Grammar.ends_aliasSet _)).map Prod.fst

/-- A line of a text that is no alias set (`AliasSetError`). -/
structure MalformedAliasSet where
  line : Nat
  why : Grammar.Rejection
deriving DecidableEq

def MalformedAliasSet.message (e : MalformedAliasSet) : String :=
  "malformed alias set on line " ++ e.line.repr ++ ": " ++ e.why.message

/-- The alias sets of a text, one from each line that is not blank, or the first line that holds
none (`parse_alias_sets`). -/
def readAliasSets (text : String) : Except MalformedAliasSet (List NameSet) :=
  (writtenLines text).mapM fun line =>
    (readAliasSet line.text).mapError fun why => ⟨line.number, why⟩

end Aliasing
