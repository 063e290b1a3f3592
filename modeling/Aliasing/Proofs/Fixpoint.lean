import Aliasing.Proofs.Sizes
/-!
# Where passes come to an end

A reduction makes passes until one finds no set to collapse, and nothing in the loop bounds their
number. A pass leaves no name with two nodes, whatever relation it finds, even one whose directions
do not agree; so the second pass finds nothing, and neither does any pass after it, of either kind.

Main statements: `collapses_afterPasses_succ`, the run lemma of the loop; `exists_pointsTo_pass`, a
pass leaves a name without nodes only if it found it so; `settled_reduce`, what a reduction does,
counts and leaves.
-/

namespace Aliasing

namespace NodeSet

/-- A set is narrowed to the empty set only if it is empty. -/
theorem exists_mem_narrow {ns : NodeSet} : (∃ n, n ∈ ns.narrow) ↔ ∃ n, n ∈ ns := by
  constructor
  · rintro ⟨n, hn⟩
    exact ⟨n, mem_of_mem_narrow hn⟩
  · rintro ⟨n, hn⟩
    unfold narrow
    split
    · rename_i p q rest hl
      exact ⟨p, by simp⟩
    · exact ⟨n, hn⟩

end NodeSet

namespace Relation

/-- The relation after a number of passes, whether or not they find a set to collapse. -/
def afterPasses (how : Reduction) (k : Nat) (r : Relation) : Relation :=
  (fun s => (s.pass how).value)^[k] r

def targets (r : Relation) : Finset NodeId :=
  (Multimap.keySet r.nodesOf).biUnion fun x => elements (Multimap.entry r.nodesOf x)

/-- What a reduction makes of a relation, and what it counts on the way. -/
structure Settled (how : Reduction) (before : Relation) (done : Reduced) (after : Relation) :
    Prop where
  /-- Passes are made until nothing is left to collapse, and no more. -/
  isLeast_passes : IsLeast {k | (before.afterPasses how k).collapses = []} done.passes
  after_eq : after = before.afterPasses how done.passes
  /-- The names with two or more nodes. -/
  merges : done.merges = (Multimap.crowded before.nodesOf).card
  passes : done.passes = if (Multimap.crowded before.nodesOf).Nonempty then 1 else 0
  passes_le : done.passes ≤ before.targets.card
  known : ∀ x, x ∈ after.nodesOf ↔ x ∈ before.nodesOf
  size_le_one : ∀ (x : Name) (ns : NodeSet), after.nodesOf[x]? = some ns → ns.size ≤ 1
  empty : ∀ x : Name, after.nodesOf[x]? = some ∅ ↔ before.nodesOf[x]? = some ∅
  /-- Another reduction, of either kind, finds nothing to do. -/
  again : ∀ how', (after.reduce how').value = (⟨0, 0⟩, after)

variable {r : Relation} {x : Name} {n : NodeId} {how : Reduction}

/-! ## Names and nodes -/

theorem mem_targets : n ∈ r.targets ↔ ∃ x, r.PointsTo x n := by
  simp only [targets, Finset.mem_biUnion, Multimap.mem_keySet, mem_elements]
  constructor
  · rintro ⟨x, -, hx⟩
    exact ⟨x, hx⟩
  · rintro ⟨x, hx⟩
    exact ⟨x, known_of_pointsTo hx, hx⟩

/-- A name with two nodes has them among the targets. -/
theorem card_targets_pos (h : (Multimap.crowded r.nodesOf).Nonempty) : 0 < r.targets.card := by
  obtain ⟨x, hx⟩ := h
  obtain ⟨n, hn, -⟩ := one_lt_size_iff.1 (Multimap.mem_crowded.1 hx).2
  have htarget : n ∈ r.targets := mem_targets.2 ⟨x, hn⟩
  exact Finset.card_pos.2 ⟨n, htarget⟩

theorem collapses_eq_nil_iff_crowded :
    r.collapses = [] ↔ ¬ (Multimap.crowded r.nodesOf).Nonempty := by
  rw [← List.length_eq_zero_iff, length_collapses, Finset.card_eq_zero,
    Finset.not_nonempty_iff_eq_empty]

/-- A known name without nodes is a key with the empty set. -/
theorem getElem?_nodesOf_eq_empty_iff :
    r.nodesOf[x]? = some ∅ ↔ x ∈ r.nodesOf ∧ ¬ ∃ n, r.PointsTo x n := by
  rw [Multimap.getElem?_eq_some_iff_mem]
  refine and_congr_right fun _ => ?_
  simp [PointsTo]

/-- **A pass** leaves a name without nodes only if it found it so. -/
theorem exists_pointsTo_pass : (∃ n, (r.pass how).value.PointsTo x n) ↔ ∃ n, r.PointsTo x n := by
  cases how with
  | snapshot =>
    constructor
    · rintro ⟨m, hm⟩
      obtain ⟨n, hn, -⟩ := pointsTo_snapshot.1 hm
      exact ⟨n, hn⟩
    · rintro ⟨n, hn⟩
      exact ⟨r.classes.root n, pointsTo_snapshot.2 ⟨n, hn, rfl⟩⟩
  | inPlace =>
    show (∃ n, r.inPlace.PointsTo x n) ↔ _
    unfold PointsTo Multimap.entry
    rw [getElem?_nodesOf_inPlace]
    cases r.nodesOf[x]? with
    | none => exact Iff.rfl
    | some ns => exact NodeSet.exists_mem_narrow

/-! ## The loop -/

/-- **After any pass** nothing is left to collapse. -/
theorem collapses_afterPasses_succ (how : Reduction) (k : Nat) (r : Relation) :
    (r.afterPasses how (k + 1)).collapses = [] := by
  unfold afterPasses
  rw [Function.iterate_succ_apply']
  exact collapses_pass how _

/-- Passes are made until nothing is left: one, if there is a set to collapse, and else none. -/
theorem isLeast_passes (how : Reduction) (r : Relation) :
    IsLeast {k | (r.afterPasses how k).collapses = []} (if r.collapses = [] then 0 else 1) := by
  by_cases h : r.collapses = []
  · rw [if_pos h]
    exact ⟨h, fun k _ => Nat.zero_le k⟩
  · rw [if_neg h]
    refine ⟨collapses_afterPasses_succ how 0 r, fun k hk => ?_⟩
    -- Without a pass there is still something to collapse.
    have hne : k ≠ 0 := by
      rintro rfl
      exact h hk
    omega

/-- The relation in the end is that after the passes that count. -/
theorem value_pass_eq_afterPasses (how : Reduction) (r : Relation) :
    (r.pass how).value = r.afterPasses how (if r.collapses = [] then 0 else 1) := by
  by_cases h : r.collapses = []
  · rw [if_pos h, pass_of_collapses_eq_nil how h]
    rfl
  · rw [if_neg h]
    rfl

/-- **Nothing left to collapse** means that a reduction does nothing. -/
theorem value_reduce_of_collapses_eq_nil (how : Reduction) (h : r.collapses = []) :
    (r.reduce how).value = (⟨0, 0⟩, r) := by
  rw [value_reduce, pass_of_collapses_eq_nil how h, if_pos h, h, List.length_nil]

/-- **A reduction comes to an end** on every relation, after at most one pass that collapses sets.
It counts the names that had two or more nodes. Afterwards the known names are the same, each has
one node at most, those without nodes are those that had none, and there is nothing left to do for
another reduction of either kind. -/
theorem settled_reduce (how : Reduction) (r : Relation) :
    Settled how r (r.reduce how).value.1 (r.reduce how).value.2 := by
  rw [value_reduce]
  have hnil := collapses_pass how r
  exact {
    isLeast_passes := isLeast_passes how r
    after_eq := value_pass_eq_afterPasses how r
    merges := length_collapses r
    passes := by
      simp only [collapses_eq_nil_iff_crowded, ite_not]
    passes_le := by
      simp only [collapses_eq_nil_iff_crowded, ite_not]
      split
      · rename_i h
        exact card_targets_pos h
      · exact Nat.zero_le _
    known := fun x => known_pass
    size_le_one := collapses_eq_nil_iff.1 hnil
    empty := fun x => by
      rw [getElem?_nodesOf_eq_empty_iff, getElem?_nodesOf_eq_empty_iff, known_pass,
        exists_pointsTo_pass]
    again := fun how' => value_reduce_of_collapses_eq_nil how' hnil }

end Relation

end Aliasing
