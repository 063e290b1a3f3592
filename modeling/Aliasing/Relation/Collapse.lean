import Aliasing.Relation.Basic
/-!
# Sets to collapse

A reduction collapses every points-to set that has two or more nodes onto the least of them, the
primary node.

Main statement: `collapses_eq_nil_iff`, nothing is left to collapse exactly when no set has two
nodes.
-/

namespace Aliasing

structure Collapse where
  name : Name
  /-- The least node of the set. -/
  primary : NodeId
  /-- The other nodes, ascending. -/
  others : List NodeId
deriving DecidableEq

namespace Collapse

/-- A set with two or more nodes, split into its primary and the others. -/
def ofSet? (x : Name) (ns : NodeSet) : Option Collapse :=
  match ns.toList with
  | p :: q :: rest => some ⟨x, p, q :: rest⟩
  | _ => none

def nodes (k : Collapse) : List NodeId := k.primary :: k.others

theorem ofSet?_eq_none_iff {x : Name} {ns : NodeSet} : ofSet? x ns = none ↔ ns.size ≤ 1 := by
  rw [← Std.ExtTreeSet.length_toList, ofSet?]
  split
  · rename_i h
    simp [h]
  · rename_i h
    match hl : ns.toList with
    | [] => simp
    | [_] => simp
    | _ :: _ :: _ => exact absurd hl (h _ _ _)

theorem ofSet?_eq_some_iff {x : Name} {ns : NodeSet} {k : Collapse} :
    ofSet? x ns = some k ↔ k.name = x ∧ ns.toList = k.nodes ∧ k.others ≠ [] := by
  obtain ⟨y, p, others⟩ := k
  rw [ofSet?]
  split
  · rename_i a b rest h
    simp only [h, nodes, Option.some.injEq, mk.injEq, List.cons.injEq]
    grind
  · rename_i h
    simp only [nodes, false_iff, not_and, reduceCtorEq]
    intro _ hl
    match others with
    | [] => simp
    | q :: rest => exact absurd hl (h _ _ _)

end Collapse

namespace Relation

/-- The sets to collapse, in the order of their names. -/
def collapses (r : Relation) : List Collapse :=
  r.nodesOf.toList.filterMap fun e => Collapse.ofSet? e.1 e.2

theorem mem_collapses_iff {r : Relation} {k : Collapse} :
    k ∈ r.collapses ↔ ∃ ns, r.nodesOf[k.name]? = some ns ∧ Collapse.ofSet? k.name ns = some k := by
  simp only [collapses, List.mem_filterMap, Prod.exists]
  constructor
  · rintro ⟨x, ns, hx, hk⟩
    obtain rfl := (Collapse.ofSet?_eq_some_iff.1 hk).1
    exact ⟨ns, Std.ExtTreeMap.mem_toList_iff_getElem?_eq_some.1 hx, hk⟩
  · rintro ⟨ns, hx, hk⟩
    exact ⟨k.name, ns, Std.ExtTreeMap.mem_toList_iff_getElem?_eq_some.2 hx, hk⟩

/-- **Nothing to collapse** means that no set has two nodes. -/
theorem collapses_eq_nil_iff {r : Relation} :
    r.collapses = [] ↔ ∀ (x : Name) (ns : NodeSet), r.nodesOf[x]? = some ns → ns.size ≤ 1 := by
  simp only [collapses, List.filterMap_eq_nil_iff, Prod.forall, Collapse.ofSet?_eq_none_iff,
    Std.ExtTreeMap.mem_toList_iff_getElem?_eq_some]

end Relation

end Aliasing
