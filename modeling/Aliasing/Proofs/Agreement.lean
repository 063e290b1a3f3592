import Aliasing.Proofs.Strategies
/-!
# When the two ways to reduce agree

In-place reduction loses a merge when the primary node of one set is among the other nodes of a
second one. It cannot be if sets that overlap have the same least node: then the sets are gathered
around primary nodes of their own, every class is one such gathering, and its root is the primary
node.

Main statements: `root_eq_primary`, the root of a class is the primary node of each of its sets;
`namesOf_snapshot_eq_inPlace`; `reduce_agree`, both reductions leave the same names at every node.
-/

namespace Aliasing

namespace Relation

variable {r : Relation} {k j : Collapse} {x : Name} {n m : NodeId}

/-- Sets with two or more nodes that have a node in common have the same least node. -/
def OverlapsShareLeast (r : Relation) : Prop :=
  ∀ (x y : Name) (ns ms : NodeSet), r.nodesOf[x]? = some ns → r.nodesOf[y]? = some ms →
    1 < ns.size → 1 < ms.size → (∃ n ∈ ns, n ∈ ms) →
      ∀ p q, IsLeast {n | n ∈ ns} p → IsLeast {n | n ∈ ms} q → p = q

/-! ## Sets to collapse that overlap -/

theorem isLeast_primary (hk : k ∈ r.collapses) : IsLeast {n | n ∈ k.nodes} k.primary := by
  refine ⟨List.mem_cons_self, fun n hn => ?_⟩
  rcases List.mem_cons.1 hn with rfl | hn
  · exact Nat.le_refl _
  · exact Nat.le_of_lt (primary_lt hk hn)

/-- A set with two or more nodes is one to collapse. -/
theorem exists_collapse {ns : NodeSet} (hx : r.nodesOf[x]? = some ns) (hsize : 1 < ns.size) :
    ∃ k ∈ r.collapses, k.name = x ∧ ∀ n, n ∈ ns ↔ n ∈ k.nodes := by
  have hentry := Multimap.entry_of_getElem? hx
  obtain ⟨n, hn, m, hm, hne⟩ := one_lt_size_iff.1 hsize
  have hpoints : ∀ l, r.PointsTo x l ↔ l ∈ ns := fun l => by rw [PointsTo, hentry]
  obtain ⟨k, hk, rfl⟩ := exists_mem_collapses ((hpoints n).2 hn) ((hpoints m).2 hm) hne
  exact ⟨k, hk, rfl, fun l => by rw [← hpoints, pointsTo_iff_mem_nodes hk]⟩

/-- A set to collapse holds the two or more nodes of its name. -/
theorem exists_nodes_of_mem_collapses (hk : k ∈ r.collapses) :
    ∃ ns : NodeSet, r.nodesOf[k.name]? = some ns ∧ 1 < ns.size ∧ ∀ n, n ∈ ns ↔ n ∈ k.nodes := by
  obtain ⟨ns, hns, hset⟩ := mem_collapses_iff.1 hk
  have hl := (Collapse.ofSet?_eq_some_iff.1 hset).2.1
  refine ⟨ns, hns, ?_, fun n => by rw [← hl, Std.ExtTreeSet.mem_toList]⟩
  refine Nat.lt_of_not_le fun hsize => ?_
  rw [Collapse.ofSet?_eq_none_iff.2 hsize] at hset
  cases hset

/-- What is asked of the sets is asked of those to collapse. -/
theorem overlapsShareLeast_iff :
    r.OverlapsShareLeast ↔ ∀ k ∈ r.collapses, ∀ j ∈ r.collapses, ∀ n ∈ k.nodes, n ∈ j.nodes →
      k.primary = j.primary := by
  constructor
  · intro h k hk j hj n hnk hnj
    obtain ⟨ns, hns, hnsize, hnmem⟩ := exists_nodes_of_mem_collapses hk
    obtain ⟨ms, hms, hmsize, hmmem⟩ := exists_nodes_of_mem_collapses hj
    refine h k.name j.name ns ms hns hms hnsize hmsize
      ⟨n, (hnmem n).2 hnk, (hmmem n).2 hnj⟩ _ _ ?_ ?_
    · simpa only [hnmem] using isLeast_primary hk
    · simpa only [hmmem] using isLeast_primary hj
  · rintro h x y ns ms hx hy hnsize hmsize ⟨n, hn, hm⟩ p q hp hq
    obtain ⟨k, hk, -, hnmem⟩ := exists_collapse hx hnsize
    obtain ⟨j, hj, -, hmmem⟩ := exists_collapse hy hmsize
    simp only [hnmem] at hp
    simp only [hmmem] at hq
    rw [NodeId.eq_of_isLeast hp (isLeast_primary hk), NodeId.eq_of_isLeast hq (isLeast_primary hj)]
    exact h k hk j hj n ((hnmem n).1 hn) ((hmmem n).1 hm)

/-! ## Classes are gathered around their primary nodes -/

/-- Linked nodes that differ are in sets with one primary node. -/
theorem Linked.same_primary (h : r.OverlapsShareLeast) (hnm : r.Linked n m) :
    n = m ∨ ∃ k ∈ r.collapses, ∃ j ∈ r.collapses,
      n ∈ k.nodes ∧ m ∈ j.nodes ∧ k.primary = j.primary := by
  induction hnm with
  | rel n m hshared =>
    obtain ⟨x, hn, hm⟩ := hshared
    by_cases hne : n = m
    · exact Or.inl hne
    · obtain ⟨k, hk, rfl⟩ := exists_mem_collapses hn hm hne
      exact Or.inr ⟨k, hk, k, hk, (pointsTo_iff_mem_nodes hk).1 hn,
        (pointsTo_iff_mem_nodes hk).1 hm, rfl⟩
  | refl n => exact Or.inl rfl
  | symm n m _ ih =>
    rcases ih with rfl | ⟨k, hk, j, hj, hn, hm, hprimary⟩
    · exact Or.inl rfl
    · exact Or.inr ⟨j, hj, k, hk, hm, hn, hprimary.symm⟩
  | trans n l m _ _ ih₁ ih₂ =>
    rcases ih₁ with rfl | ⟨k, hk, j, hj, hn, hl, hprimary⟩
    · exact ih₂
    · rcases ih₂ with rfl | ⟨k', hk', j', hj', hl', hm, hprimary'⟩
      · exact Or.inr ⟨k, hk, j, hj, hn, hl, hprimary⟩
      · -- The node between them is in a set of either side.
        have hmiddle : j.primary = k'.primary :=
          overlapsShareLeast_iff.1 h j hj k' hk' l hl hl'
        exact Or.inr ⟨k, hk, j', hj', hn, hm, (hprimary.trans hmiddle).trans hprimary'⟩

/-- A node that goes in no set is the root of its class. -/
theorem root_eq_self (h : r.OverlapsShareLeast) (hn : ¬ ∃ k ∈ r.collapses, n ∈ k.others) :
    r.classes.root n = n := by
  have hlinked : r.Linked n (r.classes.root n) := (r.isLeast_root_classes n).1
  rcases hlinked.same_primary h with heq | ⟨k, hk, j, hj, hnk, hroot, hprimary⟩
  · exact heq.symm
  · have hkn : n = k.primary := by
      rcases List.mem_cons.1 hnk with heq | hother
      · exact heq
      · exact absurd ⟨k, hk, hother⟩ hn
    have hjroot : r.classes.root n = j.primary := by
      rcases List.mem_cons.1 hroot with heq | hother
      · exact heq
      · exact absurd ⟨j, hj, hother⟩ (not_mem_others_of_root (r.classes.root_root n))
    rw [hjroot, ← hprimary, ← hkn]

/-- A primary node goes in no set. -/
theorem primary_not_mem_others (h : r.OverlapsShareLeast) (hk : k ∈ r.collapses) :
    ¬ ∃ j ∈ r.collapses, k.primary ∈ j.others := by
  rintro ⟨j, hj, hother⟩
  have heq : k.primary = j.primary :=
    overlapsShareLeast_iff.1 h k hk j hj k.primary (by simp [Collapse.nodes])
      (by simp [Collapse.nodes, hother])
  have hlt := primary_lt hj hother
  rw [heq] at hlt
  exact Nat.lt_irrefl _ hlt

/-- **The root of a class** is the primary node of each of its sets. -/
theorem root_eq_primary (h : r.OverlapsShareLeast) (hk : k ∈ r.collapses) (hn : n ∈ k.nodes) :
    r.classes.root n = k.primary := by
  rw [root_classes hk hn, root_eq_self h (primary_not_mem_others h hk)]

/-! ## Both passes leave the same -/

theorem kept_snapshot_iff_kept_inPlace (h : r.OverlapsShareLeast) (hanchored : r.Anchored) :
    m ∈ r.snapshot.namesOf ↔ m ∈ r.inPlace.namesOf := by
  constructor
  · exact kept_inPlace_of_kept_snapshot
  · intro hm
    have hroot := root_eq_self h (kept_inPlace.1 hm).2
    rw [← hroot]
    exact kept_snapshot_root hanchored hm

theorem named_snapshot_iff_named_inPlace (h : r.OverlapsShareLeast) :
    r.snapshot.Named m x ↔ r.inPlace.Named m x := by
  constructor
  · intro hm
    have hstays := not_mem_others_of_root (root_of_kept_snapshot (kept_of_named hm))
    obtain ⟨n, hn, rfl⟩ := named_snapshot.1 hm
    refine named_inPlace.2 ⟨⟨n, hn, ?_⟩, hstays⟩
    by_cases hgoes : ∃ k ∈ r.collapses, n ∈ k.others
    · -- A set that lets the node go carries its names to the root.
      obtain ⟨k, hk, hother⟩ := hgoes
      have hnk : n ∈ k.nodes := List.mem_cons_of_mem _ hother
      rw [root_eq_primary h hk hnk]
      exact flows_primary hnk hk
    · rw [root_eq_self h hgoes]
      exact flows_refl n _
  · intro hm
    have hroot := root_eq_self h (kept_inPlace.1 (kept_of_named hm)).2
    rw [← hroot]
    exact named_snapshot_root hm

/-- **Both passes leave the same names** at the same nodes. -/
theorem namesOf_snapshot_eq_inPlace (h : r.OverlapsShareLeast) (hanchored : r.Anchored) :
    r.snapshot.namesOf = r.inPlace.namesOf :=
  Multimap.ext_entry (fun _ => kept_snapshot_iff_kept_inPlace h hanchored)
    fun _ _ => named_snapshot_iff_named_inPlace h

/-- Only the sets with one node may differ, which a snapshot pass moves and an in-place pass does
not. -/
theorem nodesOf_snapshot_eq_inPlace (h : r.OverlapsShareLeast)
    (hx : (Multimap.entry r.nodesOf x).size ≠ 1) :
    r.snapshot.nodesOf[x]? = r.inPlace.nodesOf[x]? := by
  rw [nodesOf_snapshot_eq_image, getElem?_nodesOf_inPlace]
  cases hns : r.nodesOf[x]? with
  | none => rfl
  | some ns =>
    rw [Multimap.entry_of_getElem? hns] at hx
    simp only [Option.map_some, Option.some.injEq]
    refine NodeSet.image_eq_self fun n hn => ?_
    cases hset : Collapse.ofSet? x ns with
    | none =>
      have hsize : ns.size = 0 := by
        have := Collapse.ofSet?_eq_none_iff.1 hset
        omega
      have hempty : ns = ∅ := Std.ExtTreeSet.eq_empty_iff_size_eq_zero.2 hsize
      have hmem := NodeSet.mem_of_mem_narrow hn
      rw [hempty] at hmem
      exact absurd hmem Std.ExtTreeSet.not_mem_empty
    | some k =>
      obtain rfl := (Collapse.ofSet?_eq_some_iff.1 hset).1
      have hk : k ∈ r.collapses := mem_collapses_iff.2 ⟨ns, hns, hset⟩
      rw [NodeSet.narrow_of_ofSet? hset] at hn
      obtain rfl : k.primary = n := by simpa using hn
      exact root_eq_primary h hk (by simp [Collapse.nodes])

/-- **Without the hazard the reductions agree.** After any history that leaves overlapping sets with
one least node, both reductions leave the same names at the same nodes, hence the same groups, in
the same passes and merges; and names that point to the same nodes, unless they had a single one. -/
theorem reduce_agree (ops : List Operation) (h : (run ops).OverlapsShareLeast) :
    let r := run ops
    let s := (r.reduce .snapshot).value
    let i := (r.reduce .inPlace).value
    s.2.namesOf = i.2.namesOf ∧ s.2.aliasGroups = i.2.aliasGroups ∧ s.1 = i.1 ∧
      ∀ x : Name, (Multimap.entry r.nodesOf x).size ≠ 1 →
        s.2.nodesOf[x]? = i.2.nodesOf[x]? := by
  intro r s i
  have hs : s.2 = r.snapshot := r.reduce_snapshot_snd
  have hi : i.2 = r.inPlace := r.reduce_inPlace_snd
  have hnames : r.snapshot.namesOf = r.inPlace.namesOf :=
    namesOf_snapshot_eq_inPlace h (anchored_run ops)
  have hdone : s.1 = i.1 := by simp only [s, i, value_reduce]
  rw [hs, hi]
  refine ⟨hnames, ?_, hdone, fun x => nodesOf_snapshot_eq_inPlace h⟩
  unfold aliasGroups
  rw [hnames]

/-- An earlier in-place reduction took the least node that two overlapping sets have now. -/
theorem reduce_agree_after_inPlace :
    let node (n : Nat) (h : n < UInt64.size) : NodeId := ⟨n, h⟩
    let one := node 1 (by decide)
    let two := node 2 (by decide)
    let three := node 3 (by decide)
    let five := node 5 (by decide)
    let ops : List Operation := [.insert ⟨"@a"⟩ {one, two}, .insert ⟨"@b"⟩ {two, three},
      .reduce .inPlace, .insert ⟨"@b"⟩ {five}, .insert ⟨"@c"⟩ {two, three, five}]
    let r := run ops
    let s := (r.reduce .snapshot).value
    let i := (r.reduce .inPlace).value
    r.OverlapsShareLeast ∧ s.2.namesOf = i.2.namesOf ∧ s.2.aliasGroups = i.2.aliasGroups ∧
      s.1 = i.1 ∧ ∀ x : Name, (Multimap.entry r.nodesOf x).size ≠ 1 →
        s.2.nodesOf[x]? = i.2.nodesOf[x]? := by
  intro node one two three five ops
  have hoverlaps : (run ops).OverlapsShareLeast := overlapsShareLeast_iff.2 (by decide +kernel)
  exact ⟨hoverlaps, reduce_agree ops hoverlaps⟩

end Relation

end Aliasing
