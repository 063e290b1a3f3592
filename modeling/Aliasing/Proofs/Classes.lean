import Mathlib.Logic.Relation
import Mathlib.Order.Bounds.Defs
import Aliasing.Relation.Reduction
import Aliasing.Proofs.Facts
/-!
# The classes of a relation

Nodes that one name points to are linked, and so are nodes that a chain of such pairs connects. The
partition that a snapshot pass builds by merges has exactly the linked nodes in one class, and the
root of a class is its least node.

Main statements: `Joins.merge`, a merge adds one pair to those that generate the classes;
`root_classes_eq_iff` and `isLeast_root_classes`.
-/

namespace Aliasing

/-- A set has at most one least node. -/
theorem NodeId.eq_of_isLeast {s : Set NodeId} {p q : NodeId} (hp : IsLeast s p) (hq : IsLeast s q) :
    p = q := NodeId.ext (Nat.le_antisymm (hp.2 hq.1) (hq.2 hp.1))

namespace Partition

/-- The classes are those of the least equivalence that contains `R`. -/
def Joins (c : Partition) (R : NodeId → NodeId → Prop) : Prop :=
  ∀ a b, c.root a = c.root b ↔ Relation.EqvGen R a b

variable {c : Partition} {R S : NodeId → NodeId → Prop}

/-- The root of a class is the least node of it. -/
theorem Joins.isLeast_root (h : c.Joins R) (a : NodeId) :
    IsLeast {b | Relation.EqvGen R a b} (c.root a) := by
  refine ⟨(h a (c.root a)).1 (c.root_root a).symm, fun b hb => ?_⟩
  rw [(h a b).2 hb]
  exact c.root_le b

/-- Only the equivalence matters, not the pairs that generate it. -/
theorem Joins.congr (h : c.Joins R) (hRS : ∀ a b, R a b → Relation.EqvGen S a b)
    (hSR : ∀ a b, S a b → Relation.EqvGen R a b) : c.Joins S := by
  intro a b
  rw [h a b]
  exact ⟨Relation.EqvGen.eqvGen_le hRS a b, Relation.EqvGen.eqvGen_le hSR a b⟩

/-- What pairs have in common is common to the classes that they generate. -/
theorem eq_of_eqvGen {α : Type} {f : NodeId → α} (hf : ∀ a b, R a b → f a = f b) {a b : NodeId}
    (h : Relation.EqvGen R a b) : f a = f b :=
  congrArg (Quot.lift f hf) (Quot.eqvGen_sound h)

theorem joins_discrete : discrete.Joins fun _ _ => False := by
  intro a b
  constructor
  · intro hab
    rw [root_discrete, root_discrete] at hab
    exact hab ▸ .refl a
  · exact eq_of_eqvGen fun _ _ hab => hab.elim

/-- **A merge** adds the pair of its nodes. -/
theorem Joins.merge (h : c.Joins R) (a b : NodeId) :
    (c.merge a b).2.Joins fun x y => R x y ∨ (x = a ∧ y = b) := by
  intro x y
  constructor
  · have hmono : ∀ {u v}, c.root u = c.root v →
        Relation.EqvGen (fun x y => R x y ∨ (x = a ∧ y = b)) u v := fun huv =>
      Relation.EqvGen.mono (fun _ _ => Or.inl) _ _ ((h _ _).1 huv)
    have hab : Relation.EqvGen (fun x y => R x y ∨ (x = a ∧ y = b)) a b :=
      .rel a b (Or.inr ⟨rfl, rfl⟩)
    -- A node of either class reaches `a`, and the roots of other nodes stay as they are.
    have hreach : ∀ {u}, c.root u = c.root a ∨ c.root u = c.root b →
        Relation.EqvGen (fun x y => R x y ∨ (x = a ∧ y = b)) u a := by
      rintro u (hu | hu)
      · exact hmono hu
      · exact .trans _ _ _ (hmono hu) (.symm _ _ hab)
    intro hxy
    rw [root_merge, root_merge] at hxy
    by_cases hx : c.root x = c.root a ∨ c.root x = c.root b
    · by_cases hy : c.root y = c.root a ∨ c.root y = c.root b
      · exact .trans _ _ _ (hreach hx) (.symm _ _ (hreach hy))
      · rw [if_pos hx, if_neg hy] at hxy
        split at hxy
        · exact absurd (Or.inl hxy.symm) hy
        · exact absurd (Or.inr hxy.symm) hy
    · by_cases hy : c.root y = c.root a ∨ c.root y = c.root b
      · rw [if_neg hx, if_pos hy] at hxy
        split at hxy
        · exact absurd (Or.inl hxy) hx
        · exact absurd (Or.inr hxy) hx
      · rw [if_neg hx, if_neg hy] at hxy
        exact hmono hxy
  · refine eq_of_eqvGen ?_
    rintro u v (huv | ⟨rfl, rfl⟩)
    · exact root_merge_congr ((h u v).2 (.rel u v huv)) a b
    · exact (c.root_merge_self u v).symm

end Partition

namespace Relation

/-! ## Merging sets -/

theorem joins_mergeAll {p : NodeId} : ∀ (ns : List NodeId) {c : Partition}
    {R : NodeId → NodeId → Prop}, c.Joins R →
      (ns.foldl (fun c n => (c.merge p n).2) c).Joins fun a b => R a b ∨ (a = p ∧ b ∈ ns)
  | [], _, _, h => h.congr (fun _ _ hab => .rel _ _ (Or.inl hab)) fun _ _ hab =>
    .rel _ _ (by simpa using hab)
  | n :: ns, _, R, h => by
    refine (joins_mergeAll ns (h.merge p n)).congr ?_ ?_
    · rintro a b ((hab | ⟨rfl, rfl⟩) | ⟨rfl, hb⟩)
      · exact .rel _ _ (Or.inl hab)
      · exact .rel _ _ (Or.inr ⟨rfl, by simp⟩)
      · exact .rel _ _ (Or.inr ⟨rfl, by simp [hb]⟩)
    · rintro a b (hab | ⟨rfl, hb⟩)
      · exact .rel _ _ (Or.inl (Or.inl hab))
      · rcases List.mem_cons.1 hb with rfl | hb
        · exact .rel _ _ (Or.inl (Or.inr ⟨rfl, rfl⟩))
        · exact .rel _ _ (Or.inr ⟨rfl, hb⟩)

theorem joins_mergeSets : ∀ (ks : List Collapse) {c : Partition} {R : NodeId → NodeId → Prop},
    c.Joins R →
      (ks.foldl mergeSet c).Joins fun a b => R a b ∨ ∃ k ∈ ks, a = k.primary ∧ b ∈ k.others
  | [], _, _, h => h.congr (fun _ _ hab => .rel _ _ (Or.inl hab)) fun _ _ hab =>
    .rel _ _ (by simpa using hab)
  | k :: ks, _, R, h => by
    refine (joins_mergeSets ks (joins_mergeAll k.others h)).congr ?_ ?_
    · rintro a b ((hab | hk) | ⟨j, hj, hab⟩)
      · exact .rel _ _ (Or.inl hab)
      · exact .rel _ _ (Or.inr ⟨k, by simp, hk⟩)
      · exact .rel _ _ (Or.inr ⟨j, by simp [hj], hab⟩)
    · rintro a b (hab | ⟨j, hj, hab⟩)
      · exact .rel _ _ (Or.inl (Or.inl hab))
      · rcases List.mem_cons.1 hj with rfl | hj
        · exact .rel _ _ (Or.inl (Or.inr hab))
        · exact .rel _ _ (Or.inr ⟨j, hj, hab⟩)

/-! ## Sets to collapse -/

variable {r : Relation} {k : Collapse} {x : Name} {n m : NodeId}

/-- A set to collapse holds the nodes that its name points to. -/
theorem pointsTo_iff_mem_nodes (hk : k ∈ r.collapses) : r.PointsTo k.name n ↔ n ∈ k.nodes := by
  obtain ⟨ns, hns, hset⟩ := mem_collapses_iff.1 hk
  rw [PointsTo, Multimap.entry_of_getElem? hns, ← (Collapse.ofSet?_eq_some_iff.1 hset).2.1,
    Std.ExtTreeSet.mem_toList]

/-- A name that points to two nodes has a set to collapse. -/
theorem exists_mem_collapses (hn : r.PointsTo x n) (hm : r.PointsTo x m) (hne : n ≠ m) :
    ∃ k ∈ r.collapses, k.name = x := by
  obtain ⟨ns, hns⟩ := Option.isSome_iff_exists.1
    (Std.ExtTreeMap.mem_iff_isSome_getElem?.1 (known_of_pointsTo hn))
  rw [PointsTo, Multimap.entry_of_getElem? hns] at hn hm
  cases hset : Collapse.ofSet? x ns with
  | none =>
    have hsize := Collapse.ofSet?_eq_none_iff.1 hset
    exact absurd (one_lt_size_iff.2 ⟨n, hn, m, hm, hne⟩) (by omega)
  | some k =>
    have hname := (Collapse.ofSet?_eq_some_iff.1 hset).1
    subst hname
    exact ⟨k, mem_collapses_iff.2 ⟨ns, hns, hset⟩, rfl⟩

/-- The primary node is the least of the set. -/
theorem primary_lt (hk : k ∈ r.collapses) (hn : n ∈ k.others) : k.primary < n := by
  obtain ⟨ns, hns, hset⟩ := mem_collapses_iff.1 hk
  have hordered := Std.ExtTreeSet.ordered_toList (t := ns)
  rw [(Collapse.ofSet?_eq_some_iff.1 hset).2.1, Collapse.nodes, List.pairwise_cons] at hordered
  exact NodeId.compare_eq_lt.1 (hordered.1 n hn)

theorem others_ne_nil (hk : k ∈ r.collapses) : k.others ≠ [] := by
  obtain ⟨ns, -, hset⟩ := mem_collapses_iff.1 hk
  exact (Collapse.ofSet?_eq_some_iff.1 hset).2.2

/-- Sets are collapsed in the order of their names. -/
theorem pairwise_collapses (r : Relation) :
    r.collapses.Pairwise fun k k' => compare k.name k'.name = .lt :=
  pairwise_filterMap_of_key (R := fun x y => compare x y = .lt)
    (Std.ExtTreeMap.ordered_keys_toList (t := r.nodesOf)) fun _ _ hk =>
    (Collapse.ofSet?_eq_some_iff.1 hk).1

/-! ## Linked nodes -/

def Shared (r : Relation) (n m : NodeId) : Prop := ∃ x, r.PointsTo x n ∧ r.PointsTo x m

/-- A chain of shared pairs connects the nodes: the least equivalence that contains these pairs. -/
def Linked (r : Relation) : NodeId → NodeId → Prop := Relation.EqvGen r.Shared

/-- **The classes** of a relation are generated by the pairs of nodes that share a name. -/
theorem joins_classes (r : Relation) : r.classes.Joins r.Shared := by
  refine (joins_mergeSets r.collapses Partition.joins_discrete).congr ?_ ?_
  · rintro a b (hab | ⟨k, hk, rfl, hb⟩)
    · exact hab.elim
    · exact .rel _ _ ⟨k.name, (pointsTo_iff_mem_nodes hk).2 (by simp [Collapse.nodes]),
        (pointsTo_iff_mem_nodes hk).2 (by simp [Collapse.nodes, hb])⟩
  · rintro a b ⟨x, ha, hb⟩
    by_cases hab : a = b
    · subst hab
      exact .refl a
    obtain ⟨k, hk, rfl⟩ := exists_mem_collapses ha hb hab
    rw [pointsTo_iff_mem_nodes hk] at ha hb
    -- Both nodes hang on the primary node of the set.
    have hprimary : ∀ n ∈ k.nodes, Relation.EqvGen
        (fun a b => False ∨ ∃ k ∈ r.collapses, a = k.primary ∧ b ∈ k.others) k.primary n := by
      intro n hn
      rcases List.mem_cons.1 hn with rfl | hn
      · exact .refl _
      · exact .rel _ _ (Or.inr ⟨k, hk, rfl, hn⟩)
    exact .trans _ _ _ (.symm _ _ (hprimary a ha)) (hprimary b hb)

theorem root_classes_eq_iff : r.classes.root n = r.classes.root m ↔ r.Linked n m :=
  r.joins_classes n m

theorem isLeast_root_classes (r : Relation) (n : NodeId) :
    IsLeast {m | r.Linked n m} (r.classes.root n) := r.joins_classes.isLeast_root n

theorem isLeast_linked_iff : IsLeast {p | r.Linked n p} m ↔ r.classes.root n = m := by
  constructor
  · exact NodeId.eq_of_isLeast (r.isLeast_root_classes n)
  · rintro rfl
    exact r.isLeast_root_classes n

/-- Nodes that a name points to have one root. -/
theorem root_eq_of_pointsTo (hn : r.PointsTo x n) (hm : r.PointsTo x m) :
    r.classes.root n = r.classes.root m := root_classes_eq_iff.2 (.rel _ _ ⟨x, hn, hm⟩)

/-! ## Chains of names -/

def Meet (r : Relation) (x y : Name) : Prop := ∃ n, r.PointsTo x n ∧ r.PointsTo y n

instance : Std.Symm r.Meet := ⟨fun _ _ ⟨n, hx, hy⟩ => ⟨n, hy, hx⟩⟩

/-- Every node that is linked to another one has a name. -/
theorem Linked.exists_pointsTo (h : r.Linked n m) (hn : ∃ x, r.PointsTo x n) :
    ∃ y, r.PointsTo y m := by
  have heq : (∃ x, r.PointsTo x n) = ∃ x, r.PointsTo x m := by
    refine Partition.eq_of_eqvGen (f := fun n => ∃ x, r.PointsTo x n) ?_ h
    rintro a b ⟨x, ha, hb⟩
    exact propext ⟨fun _ => ⟨x, hb⟩, fun _ => ⟨x, ha⟩⟩
  exact heq ▸ hn

/-- Names of linked nodes are linked by a chain of names, each of which meets the next. -/
theorem Linked.chain (h : r.Linked n m) : ∀ {x y : Name}, r.PointsTo x n → r.PointsTo y m →
    Relation.ReflTransGen r.Meet x y := by
  induction h with
  | rel n m hnm =>
    intro x y hx hy
    obtain ⟨z, hn, hm⟩ := hnm
    exact .tail (.single ⟨n, hx, hn⟩) ⟨m, hm, hy⟩
  | refl n => exact fun hx hy => .single ⟨n, hx, hy⟩
  | symm n m _ ih => exact fun hx hy => Relation.ReflTransGen.stdSymm.symm _ _ (ih hy hx)
  | trans n m l hnm _ ih₁ ih₂ =>
    intro x y hx hy
    obtain ⟨z, hz⟩ := Linked.exists_pointsTo hnm ⟨x, hx⟩
    exact (ih₁ hx hz).trans (ih₂ hz hy)

/-- The nodes of names on a chain are linked. -/
theorem linked_of_chain {y : Name} (h : Relation.ReflTransGen r.Meet x y) (hne : x ≠ y) :
    ∃ n m, r.PointsTo x n ∧ r.PointsTo y m ∧ r.Linked n m := by
  induction h with
  | refl => exact absurd rfl hne
  | @tail y z _ hyz ih =>
    obtain ⟨l, hy, hz⟩ := hyz
    by_cases hxy : x = y
    · exact ⟨l, l, hxy ▸ hy, hz, .refl l⟩
    · obtain ⟨n, m, hn, hm, hnm⟩ := ih hxy
      exact ⟨n, l, hn, hz, .trans _ _ _ hnm (.rel _ _ ⟨y, hm, hy⟩)⟩

end Relation

end Aliasing
