import Aliasing.Proofs.Passes
/-!
# Components of points-to records

Records link the nodes that they give to one name. The classes of linked nodes are what a snapshot
reduction computes: it leaves the least node of every class, with all names of the class.

Main statement: `showsComponents_reduce_snapshot`.
-/

namespace Aliasing

/-- Nodes are of one class if a chain of pairs connects them, each given to one name: the least
equivalence that contains these pairs. -/
def SameClass (records : List Record) : NodeId → NodeId → Prop :=
  Relation.EqvGen fun n m => ∃ x, Said records x n ∧ Said records x m

def ShareNode (records : List Record) (x y : Name) : Prop :=
  ∃ n, Said records x n ∧ Said records y n

/-- A relation shows the components of records. -/
structure ShowsComponents (records : List Record) (r : Relation) : Prop where
  known : ∀ x, x ∈ r.nodesOf ↔ ∃ rec ∈ records, rec.name = x
  /-- A name with nodes points to the least node of their class and to no other. -/
  forward : ∀ x n, Said records x n →
    ∃ p, IsLeast {m | SameClass records n m} p ∧ r.nodesOf[x]? = some {p}
  forward_empty : ∀ x, (∃ rec ∈ records, rec.name = x) → (∀ n, ¬ Said records x n) →
    r.nodesOf[x]? = some ∅
  /-- What is left of the nodes are the least ones of the classes. -/
  keys : ∀ p, p ∈ r.namesOf ↔
    ∃ n, (∃ x, Said records x n) ∧ IsLeast {m | SameClass records n m} p
  one_key : ∀ p ∈ r.namesOf, ∀ q ∈ r.namesOf, SameClass records p q → p = q
  /-- A node that is left has the names of its class. -/
  backward : ∀ p ∈ r.namesOf, ∀ x,
    x ∈ Multimap.entry r.namesOf p ↔ ∃ n, SameClass records p n ∧ Said records x n
  sorted : r.aliasGroups.Pairwise fun g h => g.primary < h.primary
  /-- The groups are the classes that two or more names point at. -/
  groups : ∀ g, g ∈ r.aliasGroups ↔
    (∃ n, (∃ x, Said records x n) ∧ IsLeast {m | SameClass records n m} g.primary) ∧
      (∀ x, x ∈ g.members ↔ ∃ n, SameClass records g.primary n ∧ Said records x n) ∧
      ∃ x ∈ g.members, ∃ y ∈ g.members, x ≠ y
  disjoint : ∀ g ∈ r.aliasGroups, ∀ h ∈ r.aliasGroups, ∀ x ∈ g.members, x ∈ h.members → g = h
  /-- Names are in one group when a chain of names connects them, each sharing a node with the
  next. -/
  together : ∀ x y, x ≠ y → ((∃ g ∈ r.aliasGroups, x ∈ g.members ∧ y ∈ g.members) ↔
    Relation.ReflTransGen (ShareNode records) x y)

theorem linked_ofRecords (records : List Record) :
    (Relation.ofRecords records).Linked = SameClass records := by
  have hshared : (Relation.ofRecords records).Shared =
      fun n m => ∃ x, Said records x n ∧ Said records x m := by
    funext n m
    simp only [Relation.Shared, Relation.pointsTo_ofRecords]
  rw [Relation.Linked, hshared]
  rfl

theorem meet_ofRecords (records : List Record) :
    (Relation.ofRecords records).Meet = ShareNode records := by
  funext x y
  simp only [Relation.Meet, ShareNode, Relation.pointsTo_ofRecords]

namespace Relation

/-! ## The maps of a snapshot -/

variable {records : List Record} {x : Name} {n p : NodeId}

theorem nodesOf_snapshot_of_pointsTo {r : Relation} (h : r.PointsTo x n) :
    r.snapshot.nodesOf[x]? = some {r.classes.root n} := by
  refine Multimap.getElem?_eq_some_iff_mem.2 ⟨known_snapshot.2 (known_of_pointsTo h), fun m => ?_⟩
  rw [← PointsTo, pointsTo_snapshot_iff h]
  simp

theorem nodesOf_snapshot_of_not_pointsTo {r : Relation} (hx : x ∈ r.nodesOf)
    (h : ∀ n, ¬ r.PointsTo x n) : r.snapshot.nodesOf[x]? = some ∅ := by
  refine Multimap.getElem?_eq_some_iff_mem.2 ⟨known_snapshot.2 hx, fun m => ?_⟩
  rw [← PointsTo, pointsTo_snapshot]
  simp [h]

theorem kept_snapshot_ofRecords :
    p ∈ (ofRecords records).snapshot.namesOf ↔
      ∃ n, (∃ x, Said records x n) ∧ IsLeast {m | SameClass records n m} p := by
  simp only [← linked_ofRecords, isLeast_linked_iff, kept_snapshot, kept_ofRecords]

theorem named_snapshot_ofRecords (hp : p ∈ (ofRecords records).snapshot.namesOf) :
    (ofRecords records).snapshot.Named p x ↔ ∃ n, SameClass records p n ∧ Said records x n := by
  simp only [named_snapshot, named_ofRecords, ← linked_ofRecords, ← root_classes_eq_iff,
    root_of_kept_snapshot hp]
  exact ⟨fun ⟨n, hx, hn⟩ => ⟨n, hn.symm, hx⟩, fun ⟨n, hn, hx⟩ => ⟨n, hx, hn.symm⟩⟩

theorem eq_of_kept_snapshot_ofRecords {q : NodeId}
    (hp : p ∈ (ofRecords records).snapshot.namesOf) (hq : q ∈ (ofRecords records).snapshot.namesOf)
    (hpq : SameClass records p q) : p = q := by
  rw [← linked_ofRecords, ← root_classes_eq_iff] at hpq
  rwa [root_of_kept_snapshot hp, root_of_kept_snapshot hq] at hpq

/-! ## The groups of a snapshot -/

theorem mem_aliasGroups_snapshot_ofRecords {g : AliasGroup} :
    g ∈ (ofRecords records).snapshot.aliasGroups ↔
      (∃ n, (∃ x, Said records x n) ∧ IsLeast {m | SameClass records n m} g.primary) ∧
        (∀ x, x ∈ g.members ↔ ∃ n, SameClass records g.primary n ∧ Said records x n) ∧
        ∃ x ∈ g.members, ∃ y ∈ g.members, x ≠ y := by
  rw [mem_aliasGroups_iff_named, ← kept_snapshot_ofRecords]
  refine and_congr_right fun hp => and_congr_left' (forall_congr' fun x => ?_)
  rw [named_snapshot_ofRecords hp]
  exact Iff.comm

theorem eq_of_mem_members_snapshot {g h : AliasGroup}
    (hg : g ∈ (ofRecords records).snapshot.aliasGroups)
    (hh : h ∈ (ofRecords records).snapshot.aliasGroups) (hxg : x ∈ g.members)
    (hxh : x ∈ h.members) : g = h := by
  obtain ⟨hgp, hgm, -⟩ := mem_aliasGroups_iff_named.1 hg
  obtain ⟨hhp, hhm, -⟩ := mem_aliasGroups_iff_named.1 hh
  obtain ⟨n, hn, hxn⟩ := (named_snapshot_ofRecords hgp).1 ((hgm x).2 hxg)
  obtain ⟨m, hm, hxm⟩ := (named_snapshot_ofRecords hhp).1 ((hhm x).2 hxh)
  -- The name points to a node of either class, so the classes are one.
  have hclass : SameClass records g.primary h.primary :=
    .trans _ _ _ hn (.trans _ _ _ (.rel _ _ ⟨x, hxn, hxm⟩) (.symm _ _ hm))
  have hprimary := eq_of_kept_snapshot_ofRecords hgp hhp hclass
  obtain ⟨p, xs⟩ := g
  obtain ⟨q, ys⟩ := h
  obtain rfl : p = q := hprimary
  rw [show xs = ys from Std.ExtTreeSet.ext_mem fun y => (hgm y).symm.trans (hhm y)]

/-- Two names are in one group when nodes of theirs are linked. -/
theorem exists_group_iff {y : Name} (hne : x ≠ y) :
    (∃ g ∈ (ofRecords records).snapshot.aliasGroups, x ∈ g.members ∧ y ∈ g.members) ↔
      ∃ n m, Said records x n ∧ Said records y m ∧ SameClass records n m := by
  constructor
  · rintro ⟨g, hg, hx, hy⟩
    obtain ⟨-, hmembers, -⟩ := mem_aliasGroups_snapshot_ofRecords.1 hg
    obtain ⟨n, hn, hxn⟩ := (hmembers x).1 hx
    obtain ⟨m, hm, hym⟩ := (hmembers y).1 hy
    exact ⟨n, m, hxn, hym, .trans _ _ _ (.symm _ _ hn) hm⟩
  · rintro ⟨n, m, hxn, hym, hnm⟩
    have hroot : (ofRecords records).classes.root n = (ofRecords records).classes.root m := by
      rw [root_classes_eq_iff, linked_ofRecords]
      exact hnm
    have hx : (ofRecords records).snapshot.Named ((ofRecords records).classes.root n) x :=
      named_snapshot.2 ⟨n, named_ofRecords.2 hxn, rfl⟩
    have hy : (ofRecords records).snapshot.Named ((ofRecords records).classes.root n) y :=
      named_snapshot.2 ⟨m, named_ofRecords.2 hym, hroot.symm⟩
    exact ⟨⟨_, _⟩, mem_aliasGroups_iff_named.2
      ⟨kept_of_named hx, fun _ => Iff.rfl, x, hx, y, hy, hne⟩, hx, hy⟩

/-- **Snapshot reduction computes the components** of the records. -/
theorem showsComponents_reduce_snapshot (records : List Record) :
    ShowsComponents records ((ofRecords records).reduce .snapshot).value.2 := by
  rw [reduce_snapshot_snd]
  exact {
    known := fun x => known_snapshot.trans known_ofRecords
    forward := fun x n hx => by
      refine ⟨(ofRecords records).classes.root n, ?_,
        nodesOf_snapshot_of_pointsTo (pointsTo_ofRecords.2 hx)⟩
      rw [← linked_ofRecords]
      exact isLeast_root_classes _ n
    forward_empty := fun x hx hn =>
      nodesOf_snapshot_of_not_pointsTo (known_ofRecords.2 hx) fun n h =>
        hn n (pointsTo_ofRecords.1 h)
    keys := fun p => kept_snapshot_ofRecords
    one_key := fun p hp q hq => eq_of_kept_snapshot_ofRecords hp hq
    backward := fun p hp x => named_snapshot_ofRecords hp
    sorted := pairwise_aliasGroups _
    groups := fun g => mem_aliasGroups_snapshot_ofRecords
    disjoint := fun g hg h hh x => eq_of_mem_members_snapshot hg hh
    together := fun x y hne => by
      rw [exists_group_iff hne, ← meet_ofRecords]
      simp only [← linked_ofRecords, ← pointsTo_ofRecords]
      constructor
      · rintro ⟨n, m, hx, hy, hnm⟩
        exact hnm.chain hx hy
      · exact fun h => linked_of_chain h hne }

end Relation

end Aliasing
