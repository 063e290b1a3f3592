import Aliasing.Name
import Aliasing.NodeId
import Aliasing.Json
/-!
# Alias groups

Names that have to be treated as aliases of each other, labelled by the node that they share.
-/

namespace Aliasing

/-- A set of names that share a node. -/
structure AliasGroup where
  primary : NodeId
  members : NameSet
deriving DecidableEq

/-- An alias set as text: the names between quotes, separated by commas, in braces. -/
def aliasSetText (xs : NameSet) : String :=
  "\x7b" ++ String.intercalate ", " (xs.toList.map fun x => "'" ++ x.text ++ "'") ++ "\x7d"

namespace AliasGroup

def text (g : AliasGroup) : String := aliasSetText g.members

def toJson (g : AliasGroup) : Json :=
  .object [("primary", .number g.primary.toNat),
    ("members", .array (g.members.toList.map fun x => .string x.text))]

end AliasGroup

end Aliasing
