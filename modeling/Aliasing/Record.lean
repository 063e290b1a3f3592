import Aliasing.Name
import Aliasing.NodeId
/-!
# Points-to records

A record says of one value which nodes it may point to.
-/

namespace Aliasing

/-- A value and the nodes it may point to (`PointsTo`). -/
structure Record where
  name : Name
  nodes : NodeSet
deriving DecidableEq

end Aliasing
