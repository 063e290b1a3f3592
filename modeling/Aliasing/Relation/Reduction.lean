import Aliasing.Relation.Partition
import Aliasing.Relation.Collapse
import Aliasing.Trace
/-!
# Reducing the points-to relation

Passes collapse every points-to set that has two or more nodes, until there is none. A snapshot pass
merges all sets at once and gives every node the least node of its class. An in-place pass goes from
name to name, merges each set in the relation as it then is, and lets the nodes that were merged
away go at the end.

Main statement: `collapses_pass`, a pass leaves no set to collapse, so the passes come to an end.
-/

namespace Aliasing

def NodeSet.image (f : NodeId → NodeId) (ns : NodeSet) : NodeSet :=
  Std.ExtTreeSet.ofList (ns.toList.map f)

/-- The least node of a set alone, if there are two or more; a smaller set stays as it is. -/
def NodeSet.narrow (ns : NodeSet) : NodeSet :=
  match ns.toList with
  | p :: _ :: _ => {p}
  | _ => ns

namespace Relation

/-! ## Snapshot passes -/

/-- Merges the nodes of one set. -/
def mergeSet (c : Partition) (k : Collapse) : Partition :=
  k.others.foldl (fun c n => (c.merge k.primary n).2) c

/-- The nodes in classes, such that those of each set to collapse are in one: the merges of
`snapshot_pass`. -/
def classes (r : Relation) : Partition := r.collapses.foldl mergeSet .discrete

/-- Moves the names of every node to the root of its class. -/
def moveNames (m : Multimap NodeId Name) : StateM Partition (Multimap NodeId Name) := do
  let moved ← m.toList.mapM fun e => return (← Partition.lookUp e.1, e.2)
  return moved.foldl (fun out e => Multimap.add out e.1 e.2) ∅

/-- Replaces every node of a set by the root of its class. -/
def moveSet (ns : NodeSet) : StateM Partition NodeSet :=
  return Std.ExtTreeSet.ofList (← ns.toList.mapM Partition.lookUp)

/-- Does so with the set of every name. -/
def moveNodes (m : Multimap Name NodeId) : StateM Partition (Multimap Name NodeId) :=
  return Std.ExtTreeMap.ofList (← m.toList.mapM fun e => return (e.1, ← moveSet e.2))

/-- The relation with every node replaced by the least node of its class: the rest of
`snapshot_pass`. The look-ups go through the names of the nodes first, and each of them leaves
shorter ways for the next. -/
def snapshot (r : Relation) : Relation :=
  let move : StateM Partition Relation := do
    let namesOf ← moveNames r.namesOf
    let nodesOf ← moveNodes r.nodesOf
    return { nodesOf, namesOf }
  (move.run r.classes).1

/-! ## In-place passes -/

/-- Gives the primary node of a set the names that its nodes have now. -/
def gather (m : Multimap NodeId Name) (k : Collapse) : Multimap NodeId Name :=
  m.insert k.primary (k.nodes.foldl (fun xs n => xs ∪ Multimap.entry m n) ∅)

/-- The relation after every set in turn was merged into its primary node, without the others
(`in_place_pass`). -/
def inPlace (r : Relation) : Relation where
  nodesOf := r.nodesOf.map fun _ ns => NodeSet.narrow ns
  namesOf :=
    (r.collapses.flatMap (·.others)).foldl (fun m n => m.erase n)
      (r.collapses.foldl gather r.namesOf)

/-! ## One pass after another -/

/-- One pass over the relation. -/
def pass (how : Reduction) (r : Relation) : Traced Relation :=
  match how with
  | .snapshot => Traced.within .snapshotPass (pure r.snapshot)
  | .inPlace => Traced.within .inPlacePass do
      Traced.tell (r.collapses.map fun k => .collapsing k.name k.primary)
      return r.inPlace

end Relation

namespace Partition

/-- Merges keep nodes together that are together. -/
theorem root_merge_congr {c : Partition} {x y : NodeId} (h : c.root x = c.root y) (a b : NodeId) :
    (c.merge a b).2.root x = (c.merge a b).2.root y := by
  simp only [root_merge, h]

/-- A merge brings its nodes together. -/
theorem root_merge_self (c : Partition) (a b : NodeId) :
    (c.merge a b).2.root b = (c.merge a b).2.root a := by
  simp only [root_merge, true_or, or_true, if_true]

end Partition

namespace Relation

theorem root_mergeAll_congr {p x y : NodeId} : ∀ (ns : List NodeId) {c : Partition},
    c.root x = c.root y →
      (ns.foldl (fun c n => (c.merge p n).2) c).root x =
        (ns.foldl (fun c n => (c.merge p n).2) c).root y
  | [], _, h => h
  | n :: ns, _, h => root_mergeAll_congr ns (Partition.root_merge_congr h p n)

theorem root_mergeAll {p n : NodeId} : ∀ (ns : List NodeId) {c : Partition}, n ∈ ns →
    (ns.foldl (fun c n => (c.merge p n).2) c).root n =
      (ns.foldl (fun c n => (c.merge p n).2) c).root p
  | m :: ns, c, h => by
    rcases List.mem_cons.1 h with rfl | h
    · exact root_mergeAll_congr ns (c.root_merge_self p n)
    · exact root_mergeAll ns h

theorem root_mergeSets_congr {x y : NodeId} : ∀ (ks : List Collapse) {c : Partition},
    c.root x = c.root y → (ks.foldl mergeSet c).root x = (ks.foldl mergeSet c).root y
  | [], _, h => h
  | k :: ks, _, h => root_mergeSets_congr ks (root_mergeAll_congr k.others h)

theorem root_mergeSets {k : Collapse} {n : NodeId} (hn : n ∈ k.nodes) :
    ∀ (ks : List Collapse) {c : Partition}, k ∈ ks →
      (ks.foldl mergeSet c).root n = (ks.foldl mergeSet c).root k.primary
  | j :: ks, c, h => by
    rcases List.mem_cons.1 h with rfl | h
    · rcases List.mem_cons.1 hn with rfl | hn
      · rfl
      · exact root_mergeSets_congr ks (root_mergeAll _ hn)
    · exact root_mergeSets hn ks h

/-- The nodes of a set to collapse are in one class. -/
theorem root_classes {r : Relation} {k : Collapse} (hk : k ∈ r.collapses) {n : NodeId}
    (hn : n ∈ k.nodes) : r.classes.root n = r.classes.root k.primary :=
  root_mergeSets hn _ hk

end Relation

/-! ## What a snapshot pass makes of a relation -/

/-- A map is made of its items. -/
theorem Multimap.ofList_toList (m : Multimap Name NodeId) :
    Std.ExtTreeMap.ofList m.toList = m := by
  refine Std.ExtTreeMap.ext_getElem? fun x => ?_
  cases h : m[x]? with
  | none =>
    refine Std.ExtTreeMap.getElem?_ofList_of_contains_eq_false ?_
    simpa using h
  | some ns =>
    exact Std.ExtTreeMap.getElem?_ofList_of_mem Std.ReflCmp.compare_self
      Std.ExtTreeMap.distinct_keys_toList (Std.ExtTreeMap.mem_toList_iff_getElem?_eq_some.2 h)

namespace Relation

theorem looksUp_moveNames (m : Multimap NodeId Name) :
    Partition.LooksUp (moveNames m) fun root =>
      m.toList.foldl (fun out e => Multimap.add out (root e.1) e.2) ∅ := by
  have hitem (e : NodeId × NameSet) :
      Partition.LooksUp (return (← Partition.lookUp e.1, e.2)) fun root => (root e.1, e.2) :=
    (Partition.looksUp_lookUp e.1).bind fun n => Partition.looksUp_pure (n, e.2)
  have h := (Partition.LooksUp.mapM hitem m.toList).bind fun moved =>
    Partition.looksUp_pure (moved.foldl (fun out e => Multimap.add out e.1 e.2) ∅)
  simp only [List.foldl_map] at h
  exact h

theorem looksUp_moveSet (ns : NodeSet) :
    Partition.LooksUp (moveSet ns) fun root => NodeSet.image root ns := by
  have hroots := Partition.LooksUp.mapM (g := fun n root => root n) Partition.looksUp_lookUp
    ns.toList
  exact hroots.bind fun ms => Partition.looksUp_pure (Std.ExtTreeSet.ofList ms compare)

theorem looksUp_moveNodes (m : Multimap Name NodeId) :
    Partition.LooksUp (moveNodes m) fun root => m.map fun _ ns => NodeSet.image root ns := by
  have hitem (e : Name × NodeSet) :
      Partition.LooksUp (return (e.1, ← moveSet e.2)) fun root => (e.1, NodeSet.image root e.2) :=
    (looksUp_moveSet e.2).bind fun ns => Partition.looksUp_pure (e.1, ns)
  have hmap (root : NodeId → NodeId) : m.toList.map (fun e => (e.1, NodeSet.image root e.2)) =
      (m.map fun _ ns => NodeSet.image root ns).toList := by rw [Std.ExtTreeMap.toList_map]
  have h := (Partition.LooksUp.mapM hitem m.toList).bind fun items =>
    Partition.looksUp_pure (Std.ExtTreeMap.ofList items compare)
  simp only [hmap, Multimap.ofList_toList] at h
  exact h

/-- **A snapshot pass** puts the root of its class in the place of every node, in both directions:
the look-ups in one direction change nothing for the other. -/
theorem snapshot_eq (r : Relation) : r.snapshot = {
    nodesOf := r.nodesOf.map fun _ ns => NodeSet.image r.classes.root ns
    namesOf := r.namesOf.toList.foldl (fun m e => Multimap.add m (r.classes.root e.1) e.2) ∅ } := by
  have h := (looksUp_moveNames r.namesOf).bind fun namesOf =>
    (looksUp_moveNodes r.nodesOf).bind fun nodesOf =>
      Partition.looksUp_pure (Relation.mk nodesOf namesOf)
  exact h.value r.classes

end Relation

namespace NodeSet

theorem size_le_one_of_forall_eq {ns : NodeSet} {p : NodeId} (h : ∀ n ∈ ns, n = p) :
    ns.size ≤ 1 := by
  rw [← Std.ExtTreeSet.length_toList]
  match hl : ns.toList with
  | [] => simp
  | [_] => simp
  | a :: b :: rest =>
    have hlt : compare a b = .lt := by
      have := Std.ExtTreeSet.ordered_toList (t := ns)
      rw [hl] at this
      exact (List.pairwise_cons.1 this).1 b (by simp)
    have ha := h a (Std.ExtTreeSet.mem_toList.1 (by simp [hl]))
    have hb := h b (Std.ExtTreeSet.mem_toList.1 (by simp [hl]))
    rw [ha, hb, NodeId.compare_eq_lt] at hlt
    exact absurd hlt (Nat.lt_irrefl _)

theorem mem_image {f : NodeId → NodeId} {ns : NodeSet} {m : NodeId} :
    m ∈ NodeSet.image f ns ↔ ∃ n ∈ ns, f n = m := by
  simp [NodeSet.image, Std.ExtTreeSet.mem_ofList]

theorem size_image_le_one {f : NodeId → NodeId} {ns : NodeSet} {p : NodeId}
    (h : ∀ n ∈ ns, f n = p) : (NodeSet.image f ns).size ≤ 1 := by
  refine size_le_one_of_forall_eq (p := p) fun m hm => ?_
  obtain ⟨n, hn, rfl⟩ := mem_image.1 hm
  exact h n hn

/-- All nodes of a set with at most one node have the same image. -/
theorem exists_forall_eq_of_size_le_one {ns : NodeSet} (h : ns.size ≤ 1) (f : NodeId → NodeId) :
    ∃ p, ∀ n ∈ ns, f n = p := by
  rw [← Std.ExtTreeSet.length_toList] at h
  match hl : ns.toList with
  | [] =>
    refine ⟨default, fun n hn => ?_⟩
    simpa [hl] using Std.ExtTreeSet.mem_toList.2 hn
  | [a] =>
    refine ⟨f a, fun n hn => ?_⟩
    have := Std.ExtTreeSet.mem_toList.2 hn
    rw [hl, List.mem_singleton] at this
    rw [this]
  | a :: b :: rest =>
    rw [hl] at h
    simp at h

theorem size_narrow_le_one (ns : NodeSet) : ns.narrow.size ≤ 1 := by
  rw [narrow]
  split
  · rename_i p _ _ _
    exact size_le_one_of_forall_eq (p := p) fun n hn => by
      have hpn : p = n := by simpa using hn
      exact hpn.symm
  · rename_i h
    rw [← Std.ExtTreeSet.length_toList]
    match hl : ns.toList with
    | [] => simp
    | [_] => simp
    | a :: b :: rest => exact absurd hl (h _ _ _)

end NodeSet

namespace Relation

theorem collapses_snapshot (r : Relation) : r.snapshot.collapses = [] := by
  rw [collapses_eq_nil_iff]
  intro x ms hx
  simp only [snapshot_eq, Std.ExtTreeMap.getElem?_map, Option.map_eq_some_iff] at hx
  obtain ⟨ns, hns, rfl⟩ := hx
  cases hk : Collapse.ofSet? x ns with
  | none =>
    obtain ⟨p, hp⟩ := NodeSet.exists_forall_eq_of_size_le_one
      (Collapse.ofSet?_eq_none_iff.1 hk) r.classes.root
    exact NodeSet.size_image_le_one hp
  | some k =>
    obtain ⟨rfl, hl, -⟩ := Collapse.ofSet?_eq_some_iff.1 hk
    have hmem : k ∈ r.collapses := mem_collapses_iff.2 ⟨ns, hns, hk⟩
    exact NodeSet.size_image_le_one fun n hn =>
      root_classes hmem (hl ▸ Std.ExtTreeSet.mem_toList.2 hn)

theorem collapses_inPlace (r : Relation) : r.inPlace.collapses = [] := by
  rw [collapses_eq_nil_iff]
  intro x ms hx
  simp only [inPlace, Std.ExtTreeMap.getElem?_map, Option.map_eq_some_iff] at hx
  obtain ⟨ns, -, rfl⟩ := hx
  exact NodeSet.size_narrow_le_one ns

/-- **A pass** leaves no set to collapse. -/
theorem collapses_pass (how : Reduction) (r : Relation) : (r.pass how).value.collapses = [] := by
  cases how
  · exact r.collapses_snapshot
  · exact r.collapses_inPlace

end Relation

/-- What a reduction did: the passes that collapsed at least one set, and the sets collapsed in all
of them. -/
structure Reduced where
  passes : Nat
  merges : Nat
deriving DecidableEq

namespace Relation

/-- Passes over the relation until one finds nothing to collapse, added to what was done before. -/
def reduceFrom (how : Reduction) (sofar : Reduced) (r : Relation) : Traced (Reduced × Relation) :=
  let pass := r.pass how
  if r.collapses = [] then (fun _ => (sofar, r)) <$> pass
  else
    let merges := r.collapses.length
    let done : Reduced := ⟨sofar.passes + 1, sofar.merges + merges⟩
    pass *> Traced.tell [.passDone done.passes merges pass.value.namesOf.size]
      *> reduceFrom how done pass.value
termination_by r.collapses.length
decreasing_by
  rename_i h
  rw [collapses_pass]
  exact List.length_pos_iff.2 h

/-- Collapses sets until there is none with two nodes (`Engine.reduce`). -/
def reduce (how : Reduction) (r : Relation) : Traced (Reduced × Relation) :=
  Traced.within .reduction (r.reduceFrom how ⟨0, 0⟩)

end Relation

end Aliasing
