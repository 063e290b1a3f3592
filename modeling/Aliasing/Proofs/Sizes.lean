import Mathlib.Algebra.BigOperators.Group.Finset.Piecewise
import Mathlib.Algebra.Order.BigOperators.Group.Finset
import Aliasing.Proofs.Incremental
import Aliasing.Proofs.Origins
/-!
# Sizes of a relation

How many nodes a relation keeps, how many sets it has to collapse and how many groups it has, each
as the number of elements of a finite set of keys. A pass over a relation whose directions agree
keeps some of its nodes, and lets go of one at least if there is a set to collapse. A snapshot pass
leaves every name at one node, so the names bound the nodes that are left, and those with two names
count twice.

Main statements: `length_collapses`; `size_pass_le` and `size_pass_eq_iff`, what a pass does to the
number of nodes; `existsUnique_named_snapshot`; `size_add_length_aliasGroups_le`.
-/

namespace Aliasing

/-! ## Finite sets of elements and of keys -/

def elements {α : Type} [Ord α] [Std.TransOrd α] [DecidableEq α] (xs : Std.ExtTreeSet α) :
    Finset α := xs.toList.toFinset

section
variable {α : Type} [Ord α] [Std.TransOrd α] [Std.LawfulEqOrd α] [DecidableEq α]

@[simp] theorem mem_elements {xs : Std.ExtTreeSet α} {a : α} : a ∈ elements xs ↔ a ∈ xs := by
  rw [elements, List.mem_toFinset, Std.ExtTreeSet.mem_toList]

theorem card_elements (xs : Std.ExtTreeSet α) : (elements xs).card = xs.size := by
  have hnodup : xs.toList.Nodup := Std.ExtTreeSet.distinct_toList.imp fun hab heq =>
    hab (Std.LawfulEqOrd.compare_eq_iff_eq.2 heq)
  rw [elements, List.toFinset_card_of_nodup hnodup, Std.ExtTreeSet.length_toList]

theorem card_eq_size {s : Finset α} {xs : Std.ExtTreeSet α} (h : ∀ a, a ∈ s ↔ a ∈ xs) :
    s.card = xs.size := by
  rw [← card_elements]
  exact congrArg Finset.card (Finset.ext fun a => (h a).trans mem_elements.symm)

end

namespace Multimap

variable {κ α β : Type} [Ord κ] [Std.TransOrd κ] [Std.LawfulEqOrd κ] [Ord α]

theorem nodup_keys (m : Multimap κ α) : m.keys.Nodup :=
  Std.ExtTreeMap.distinct_keys.imp fun hkl heq => hkl (Std.LawfulEqOrd.compare_eq_iff_eq.2 heq)

variable [DecidableEq κ]

def keySet (m : Multimap κ α) : Finset κ := m.keys.toFinset

/-- The keys whose sets have two or more elements. -/
def crowded (m : Multimap κ α) : Finset κ := m.keySet.filter fun k => 1 < (m.entry k).size

@[simp] theorem mem_keySet {m : Multimap κ α} {k : κ} : k ∈ m.keySet ↔ k ∈ m := by
  rw [keySet, List.mem_toFinset, Std.ExtTreeMap.mem_keys]

theorem mem_crowded {m : Multimap κ α} {k : κ} : k ∈ m.crowded ↔ k ∈ m ∧ 1 < (m.entry k).size := by
  rw [crowded, Finset.mem_filter, mem_keySet]

theorem card_keySet (m : Multimap κ α) : m.keySet.card = m.size := by
  rw [keySet, List.toFinset_card_of_nodup m.nodup_keys, Std.ExtTreeMap.length_keys]

theorem card_eq_size {s : Finset κ} {m : Multimap κ α} (h : ∀ k, k ∈ s ↔ k ∈ m) :
    s.card = m.size := by
  rw [← card_keySet]
  exact congrArg Finset.card (Finset.ext fun k => (h k).trans mem_keySet.symm)

/-- **Items that are picked for their two elements** are counted by their keys. -/
theorem length_filterMap_toList (m : Multimap κ α) {f : κ × Std.ExtTreeSet α → Option β}
    (hf : ∀ e, (f e).isSome ↔ 1 < e.2.size) : (m.toList.filterMap f).length = m.crowded.card := by
  have hkeys : (m.toList.countP fun e => (f e).isSome) =
      m.keys.countP fun k => 1 < (m.entry k).size := by
    rw [← Std.ExtTreeMap.map_fst_toList_eq_keys, List.countP_map]
    refine List.countP_congr fun e he => ?_
    have hentry : m.entry e.1 = e.2 :=
      entry_of_getElem? (Std.ExtTreeMap.mem_toList_iff_getElem?_eq_some.1 he)
    rw [Function.comp_apply, hentry, hf, decide_eq_true_iff]
  rw [List.length_filterMap_eq_countP, hkeys, List.countP_eq_length_filter,
    ← List.toFinset_card_of_nodup (m.nodup_keys.filter _), List.toFinset_filter, crowded, keySet]
  simp only [decide_eq_true_eq]

variable [Std.TransOrd α] [Std.LawfulEqOrd α] [DecidableEq α]

/-- **Disjoint sets** of which none is empty have as many elements as there are keys, and one more
for each of those with two elements. -/
theorem size_add_card_crowded_le {m : Multimap κ α} {s : Finset α}
    (hne : ∀ k ∈ m, 0 < (m.entry k).size)
    (hdisjoint : ∀ k l a, a ∈ m.entry k → a ∈ m.entry l → k = l)
    (hsub : ∀ k a, a ∈ m.entry k → a ∈ s) : m.size + m.crowded.card ≤ s.card := by
  have hunion : (m.keySet.biUnion fun k => elements (m.entry k)) ⊆ s := by
    intro a ha
    obtain ⟨k, -, hak⟩ := Finset.mem_biUnion.1 ha
    exact hsub k a (mem_elements.1 hak)
  calc m.size + m.crowded.card
      = ∑ k ∈ m.keySet, (1 + if 1 < (m.entry k).size then 1 else 0) := by
        rw [Finset.sum_add_distrib, ← card_keySet, Finset.card_eq_sum_ones, crowded,
          Finset.card_filter]
    _ ≤ ∑ k ∈ m.keySet, (elements (m.entry k)).card := by
        -- One element of a set counts for its key, a second one for the key being crowded.
        refine Finset.sum_le_sum fun k hk => ?_
        have hpos := hne k (mem_keySet.1 hk)
        rw [card_elements]
        split <;> omega
    _ = (m.keySet.biUnion fun k => elements (m.entry k)).card := by
        refine (Finset.card_biUnion fun k _ l _ hkl => ?_).symm
        refine Finset.disjoint_left.2 fun a hak hal => hkl ?_
        exact hdisjoint k l a (mem_elements.1 hak) (mem_elements.1 hal)
    _ ≤ s.card := Finset.card_le_card hunion

end Multimap

namespace Relation

variable {r : Relation} {x : Name} {n m : NodeId} {how : Reduction}

/-! ## Sets to collapse and groups -/

/-- **Every name with two or more nodes** has a set to collapse. -/
theorem length_collapses (r : Relation) :
    r.collapses.length = (Multimap.crowded r.nodesOf).card := by
  refine Multimap.length_filterMap_toList r.nodesOf fun e => ?_
  rw [Option.isSome_iff_ne_none, ne_eq, Collapse.ofSet?_eq_none_iff, Nat.not_le]

theorem length_aliasGroups (r : Relation) :
    r.aliasGroups.length = (Multimap.crowded r.namesOf).card := by
  refine Multimap.length_filterMap_toList r.namesOf fun e => ?_
  by_cases h : 1 < e.2.size <;> simp [h]

/-- Groups are labelled by nodes that are kept. -/
theorem length_aliasGroups_le_size (r : Relation) : r.aliasGroups.length ≤ r.namesOf.size := by
  rw [length_aliasGroups, ← Multimap.card_keySet]
  exact Finset.card_filter_le _ _

/-! ## The nodes that a pass lets go -/

/-- A pass keeps no node that it did not find. -/
theorem kept_of_kept_pass (h : r.Transposed) (hn : n ∈ (r.pass how).value.namesOf) :
    n ∈ r.namesOf := by
  rcases occurs_of_occurs_pass (Or.inl hn) with hkept | hx
  · exact hkept
  · exact (h.kept n).2 hx

/-- A pass lets go of all nodes of a set but the primary. -/
theorem not_kept_pass {k : Collapse} (hk : k ∈ r.collapses) (hn : n ∈ k.others) :
    n ∉ (r.pass how).value.namesOf := by
  intro hkept
  cases how with
  | snapshot => exact not_mem_others_of_root (root_of_kept_snapshot hkept) ⟨k, hk, hn⟩
  | inPlace => exact (kept_inPlace.1 hkept).2 ⟨k, hk, hn⟩

theorem keySet_pass_subset (h : r.Transposed) (how : Reduction) :
    Multimap.keySet (r.pass how).value.namesOf ⊆ Multimap.keySet r.namesOf := by
  intro n hn
  rw [Multimap.mem_keySet] at hn ⊢
  exact kept_of_kept_pass h hn

theorem size_pass_le (h : r.Transposed) (how : Reduction) :
    (r.pass how).value.namesOf.size ≤ r.namesOf.size := by
  rw [← Multimap.card_keySet, ← Multimap.card_keySet]
  exact Finset.card_le_card (keySet_pass_subset h how)

/-- **A pass lets go of a node** if there is a set to collapse. -/
theorem size_pass_lt (h : r.Transposed) (how : Reduction) (hne : r.collapses ≠ []) :
    (r.pass how).value.namesOf.size < r.namesOf.size := by
  obtain ⟨k, hk⟩ := List.exists_mem_of_ne_nil _ hne
  obtain ⟨n, hn⟩ := List.exists_mem_of_ne_nil _ (others_ne_nil hk)
  have hkept : n ∈ r.namesOf :=
    (h.kept n).2 ⟨k.name, (pointsTo_iff_mem_nodes hk).2 (by simp [Collapse.nodes, hn])⟩
  rw [← Multimap.card_keySet, ← Multimap.card_keySet]
  refine Finset.card_lt_card ((Finset.ssubset_iff_of_subset (keySet_pass_subset h how)).2
    ⟨n, Multimap.mem_keySet.2 hkept, fun hafter => ?_⟩)
  exact not_kept_pass hk hn (Multimap.mem_keySet.1 hafter)

theorem size_pass_eq_iff (h : r.Transposed) (how : Reduction) :
    (r.pass how).value.namesOf.size = r.namesOf.size ↔ r.collapses = [] := by
  constructor
  · intro hsize
    by_contra hne
    exact Nat.ne_of_lt (size_pass_lt h how hne) hsize
  · intro hnil
    rw [pass_of_collapses_eq_nil how hnil]

/-! ## The names that a snapshot leaves -/

/-- **A snapshot pass** leaves a name that has nodes at one of them. -/
theorem existsUnique_named_snapshot (h : r.Transposed) (hx : r.PointsTo x n) :
    ∃! m, r.snapshot.Named m x := by
  refine ⟨r.classes.root n, ?_, fun m hm => ?_⟩
  · exact (h.snapshot.named _ x).2 ((pointsTo_snapshot_iff hx).2 rfl)
  · exact ((pointsTo_snapshot_iff hx).1 ((h.snapshot.named m x).1 hm)).symm

theorem eq_of_named_snapshot (h : r.Transposed) (hn : r.snapshot.Named n x)
    (hm : r.snapshot.Named m x) : n = m := by
  obtain ⟨l, hl, -⟩ := named_snapshot.1 hn
  exact (existsUnique_named_snapshot h ((h.named l x).1 hl)).unique hn hm

/-- **The nodes that a snapshot pass leaves**, those with two names counted twice, are no more than
the names. -/
theorem size_add_length_aliasGroups_le (h : r.Transposed) :
    r.snapshot.namesOf.size + r.snapshot.aliasGroups.length ≤ r.nodesOf.size := by
  rw [length_aliasGroups, ← Multimap.card_keySet r.nodesOf]
  refine Multimap.size_add_card_crowded_le (fun n hn => ?_) (fun n m x => eq_of_named_snapshot h)
    fun n x hx => ?_
  · obtain ⟨x, hx⟩ := (h.snapshot.kept n).1 hn
    rw [← card_elements, Finset.card_pos]
    exact ⟨x, mem_elements.2 ((h.snapshot.named n x).2 hx)⟩
  · rw [Multimap.mem_keySet, ← known_snapshot]
    exact known_of_pointsTo ((h.snapshot.named n x).1 hx)

end Relation

end Aliasing
