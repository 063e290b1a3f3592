import Aliasing.Proofs.Histories
/-!
# The two ways to reduce

In-place reduction may lose merges that snapshot reduction makes, but it makes no others. Names flow
only between linked nodes, and the least node of a class is never among those that go.

Main statement: `inPlace_within_snapshot`.
-/

namespace Aliasing

/-- A map that is constant on a set does not tell it from what it is narrowed to. -/
theorem NodeSet.image_narrow {f : NodeId → NodeId} {ns : NodeSet}
    (h : ∀ n ∈ ns, ∀ m ∈ ns, f n = f m) : NodeSet.image f ns.narrow = NodeSet.image f ns := by
  unfold narrow
  split
  · rename_i p q rest hl
    have hp : p ∈ ns := Std.ExtTreeSet.mem_toList.1 (by simp [hl])
    refine Std.ExtTreeSet.ext_mem fun m => ?_
    rw [mem_image, mem_image]
    constructor
    · rintro ⟨n, hn, rfl⟩
      obtain rfl : p = n := by simpa using hn
      exact ⟨p, hp, rfl⟩
    · rintro ⟨n, hn, rfl⟩
      exact ⟨p, by simp, h p hp n hn⟩
  · rfl

namespace Relation

variable {r : Relation} {x : Name} {n m : NodeId}

/-- Names flow within a class. -/
theorem root_eq_of_flows {ks : List Collapse} (h : Flows ks n m) (hks : ∀ k ∈ ks, k ∈ r.collapses) :
    r.classes.root n = r.classes.root m := by
  induction h with
  | stay => rfl
  | pass _ ih => exact ih fun k hk => hks k (by simp [hk])
  | @carry k ks n m hn _ ih =>
    rw [root_classes (hks k (by simp)) hn]
    exact ih fun j hj => hks j (by simp [hj])

/-- The least node of a class is in no set beside its primary. -/
theorem not_mem_others_of_root (h : r.classes.root n = n) :
    ¬ ∃ k ∈ r.collapses, n ∈ k.others := by
  rintro ⟨k, hk, hn⟩
  have hroot : r.classes.root k.primary = n :=
    (root_classes hk (by simp [Collapse.nodes, hn])).symm.trans h
  have hle := r.classes.root_le k.primary
  rw [hroot] at hle
  exact Nat.not_lt.2 hle (primary_lt hk hn)

/-- A node that is linked to another one shares a name with another one. -/
theorem Linked.exists_shared (h : r.Linked n m) (hne : n ≠ m) :
    (∃ l, l ≠ n ∧ r.Shared l n) ∧ ∃ l, l ≠ m ∧ r.Shared l m := by
  induction h with
  | rel n m h =>
    obtain ⟨x, hn, hm⟩ := h
    exact ⟨⟨m, hne.symm, x, hm, hn⟩, n, hne, x, hn, hm⟩
  | refl => exact absurd rfl hne
  | symm n m _ ih => exact (ih hne.symm).symm
  | trans n l m _ _ ih₁ ih₂ =>
    by_cases hnl : n = l
    · subst hnl
      exact ih₂ hne
    · by_cases hlm : l = m
      · subst hlm
        exact ih₁ hne
      · exact ⟨(ih₁ hnl).1, (ih₂ hlm).2⟩

/-- The least node of a class with other nodes is the primary of a set. -/
theorem exists_primary_eq (h : r.classes.root n = m) (hne : n ≠ m) :
    ∃ k ∈ r.collapses, k.primary = m := by
  have hm : r.classes.root m = m := by rw [← h, r.classes.root_root]
  obtain ⟨-, l, hl, x, hxl, hxm⟩ :=
    Linked.exists_shared (root_classes_eq_iff.1 (h.trans hm.symm)) hne
  obtain ⟨k, hk, rfl⟩ := exists_mem_collapses hxl hxm hl
  rcases List.mem_cons.1 ((pointsTo_iff_mem_nodes hk).1 hxm) with hprimary | hother
  · exact ⟨k, hk, hprimary.symm⟩
  · exact absurd ⟨k, hk, hother⟩ (not_mem_others_of_root hm)

/-- In-place passes keep the nodes that snapshot passes keep. -/
theorem kept_inPlace_of_kept_snapshot (h : m ∈ r.snapshot.namesOf) : m ∈ r.inPlace.namesOf := by
  refine kept_inPlace.2 ⟨?_, not_mem_others_of_root (root_of_kept_snapshot h)⟩
  obtain ⟨n, hn, hroot⟩ := kept_snapshot.1 h
  by_cases hne : n = m
  · exact Or.inl (hne ▸ hn)
  · exact Or.inr (exists_primary_eq hroot hne)

/-- The root of a node that an in-place pass keeps is kept by a snapshot pass. -/
theorem kept_snapshot_root (hanchored : r.Anchored) (h : n ∈ r.inPlace.namesOf) :
    r.classes.root n ∈ r.snapshot.namesOf := by
  rcases (kept_inPlace.1 h).1 with hn | ⟨k, hk, rfl⟩
  · exact kept_snapshot.2 ⟨n, hn, rfl⟩
  · -- A primary may be missing, but some node of its set has the name of the set.
    obtain ⟨l, hl, hnamed⟩ := hanchored.exists_named hk
    exact kept_snapshot.2 ⟨l, kept_of_named hnamed, root_classes hk hl⟩

/-- A name that an in-place pass gives to a node, a snapshot pass gives to its root. -/
theorem named_snapshot_root (h : r.inPlace.Named n x) :
    r.snapshot.Named (r.classes.root n) x := by
  obtain ⟨⟨m, hm, hflows⟩, -⟩ := named_inPlace.1 h
  exact named_snapshot.2 ⟨m, hm, root_eq_of_flows hflows fun _ hk => hk⟩

theorem nodesOf_snapshot_eq_image (r : Relation) (x : Name) :
    r.snapshot.nodesOf[x]? = r.inPlace.nodesOf[x]?.map (NodeSet.image r.classes.root) := by
  rw [getElem?_nodesOf_snapshot, getElem?_nodesOf_inPlace]
  cases hx : r.nodesOf[x]? with
  | none => rfl
  | some ns =>
    have hentry := Multimap.entry_of_getElem? hx
    simp only [Option.map_some, Option.some.injEq]
    refine (NodeSet.image_narrow fun n hn m hm => ?_).symm
    exact root_eq_of_pointsTo (x := x) (by rwa [PointsTo, hentry]) (by rwa [PointsTo, hentry])

/-- **In-place reduction makes no merge of its own.** With the least node of its class in place of
every node, what it leaves is within what snapshot reduction leaves, in the same passes and
merges. -/
theorem inPlace_within_snapshot (ops : List Operation) :
    let r := run ops
    let s := (r.reduce .snapshot).value
    let i := (r.reduce .inPlace).value
    ∃ rep : NodeId → NodeId, (∀ n, IsLeast {m | r.Linked n m} (rep n)) ∧
      (∀ n ∈ s.2.namesOf, n ∈ i.2.namesOf) ∧
      (∀ n ∈ i.2.namesOf, rep n ∈ s.2.namesOf ∧
        ∀ x ∈ Multimap.entry i.2.namesOf n, x ∈ Multimap.entry s.2.namesOf (rep n)) ∧
      (∀ g ∈ i.2.aliasGroups, ∃ h ∈ s.2.aliasGroups,
        h.primary = rep g.primary ∧ ∀ x ∈ g.members, x ∈ h.members) ∧
      (∀ x : Name, s.2.nodesOf[x]? = i.2.nodesOf[x]?.map (NodeSet.image rep)) ∧
      s.1 = i.1 := by
  intro r s i
  have hs : s.2 = r.snapshot := r.reduce_snapshot_snd
  have hi : i.2 = r.inPlace := r.reduce_inPlace_snd
  have hdone : s.1 = i.1 := by simp only [s, i, value_reduce]
  rw [hs, hi]
  have hkept : ∀ n ∈ r.inPlace.namesOf, r.classes.root n ∈ r.snapshot.namesOf :=
    fun n => kept_snapshot_root (anchored_run ops)
  refine ⟨r.classes.root, r.isLeast_root_classes, fun n => kept_inPlace_of_kept_snapshot,
    fun n hn => ⟨hkept n hn, fun x => named_snapshot_root⟩, fun g hg => ?_,
    r.nodesOf_snapshot_eq_image, hdone⟩
  obtain ⟨hp, hmembers, x, hx, y, hy, hne⟩ := mem_aliasGroups_iff_named.1 hg
  have hsub : ∀ z ∈ g.members, r.snapshot.Named (r.classes.root g.primary) z := fun z hz =>
    named_snapshot_root ((hmembers z).2 hz)
  exact ⟨⟨r.classes.root g.primary, Multimap.entry r.snapshot.namesOf (r.classes.root g.primary)⟩,
    mem_aliasGroups_iff_named.2
      ⟨hkept _ hp, fun _ => Iff.rfl, x, hsub x hx, y, hsub y hy, hne⟩, rfl, hsub⟩

end Relation

end Aliasing
