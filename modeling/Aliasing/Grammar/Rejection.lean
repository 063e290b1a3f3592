import Aliasing.Text.Quoted
/-!
# Why a text is rejected

A matcher that does not match says what it wanted and shows the text it found instead, at most 30
characters of it.
-/

namespace Aliasing.Grammar

/-- Why a matcher rejected its text (`ParseError`). -/
inductive Rejection where
  /-- A fixed text was expected. -/
  | missingLiteral (expected found : String)
  | notDigit (found : String)
  | notWhiteSpace (found : String)
  | notWordChar (found : String)
  /-- The end of the text was expected. -/
  | trailingText (found : String)
  /-- A node id is not below 2^64; its digits are given as written. -/
  | oversizedId (digits : String)
deriving DecidableEq

namespace Rejection

def message : Rejection → String
  | missingLiteral expected found => "tag " ++ quoted expected ++ " not matched on " ++ quoted found
  | notDigit found => "could not match digit on " ++ quoted found
  | notWhiteSpace found => "could not match whitespace on " ++ quoted found
  | notWordChar found => "could not match word character on " ++ quoted found
  | trailingText found => "unexpected trailing input " ++ quoted found
  | oversizedId digits => "node id " ++ digits ++ " does not fit in 64 bits"

/-- Whether the text was rejected for a node id that is too large. -/
def isOversizedId : Rejection → Bool
  | oversizedId _ => true
  | _ => false

end Rejection

end Aliasing.Grammar
