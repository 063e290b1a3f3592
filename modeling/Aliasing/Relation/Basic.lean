import Aliasing.Multimap
import Aliasing.Record
import Aliasing.AliasGroup
/-!
# The points-to relation

Which value may point to which node, kept in both directions: the nodes of every name, and the names
of every node.
-/

namespace Aliasing

/-- A relation between names and nodes (the maps of an `Engine`). -/
@[ext] structure Relation where
  /-- The nodes that each name may point to. -/
  nodesOf : Multimap Name NodeId
  /-- The names that may point to each node. -/
  namesOf : Multimap NodeId Name
deriving DecidableEq

namespace Relation

def empty : Relation := ⟨∅, ∅⟩

instance : EmptyCollection Relation := ⟨empty⟩

/-- Adds the nodes that a name may point to. The name is known from then on, even without nodes. -/
def insert (r : Relation) (x : Name) (ns : NodeSet) : Relation where
  nodesOf := Multimap.add r.nodesOf x ns
  namesOf := ns.toList.foldl (fun m n => Multimap.add m n {x}) r.namesOf

def insertAll (r : Relation) (records : List Record) : Relation :=
  records.foldl (fun r rec => r.insert rec.name rec.nodes) r

/-- The relation that records describe (`from_iter`). -/
def ofRecords (records : List Record) : Relation := insertAll ∅ records

/-- The names of every node that has two or more of them, in the order of the nodes
(`alias_groups`). -/
def aliasGroups (r : Relation) : List AliasGroup :=
  r.namesOf.toList.filterMap fun e => if 1 < e.2.size then some ⟨e.1, e.2⟩ else none

end Relation

end Aliasing
