import Mathlib.Data.List.Induction
import Aliasing.Proofs.Strategies
/-!
# Where names and nodes come from

Insertions bring names and nodes into a relation, and passes only move them: a pass makes no name
and no node of its own. With in-place passes a name may point to a node that is no longer kept, and
a node may be kept again later on, so the two directions need not agree. What survives every mixture
of operations is that a kept node has a name, that its names are known, and that a name with several
nodes is among the names of one of them.

Main statements: `occurs_of_occurs_pass`, a pass makes no node; `Grounded.insertAll` and
`Grounded.pass`, what insertions and passes keep; `grounded_run`, what holds after any history;
`origins_run`, the same in terms of the two maps and of the groups.
-/

namespace Aliasing

def NameGiven (records : List Record) (x : Name) : Prop := ∃ rec ∈ records, rec.name = x

def NodeGiven (records : List Record) (n : NodeId) : Prop := ∃ rec ∈ records, n ∈ rec.nodes

variable {records more : List Record} {x : Name} {n m : NodeId}

theorem nameGiven_append :
    NameGiven (records ++ more) x ↔ NameGiven records x ∨ NameGiven more x := by
  simp only [NameGiven, List.mem_append, or_and_right, exists_or]

theorem nodeGiven_append :
    NodeGiven (records ++ more) n ↔ NodeGiven records n ∨ NodeGiven more n := by
  simp only [NodeGiven, List.mem_append, or_and_right, exists_or]

theorem Said.nameGiven (h : Said records x n) : NameGiven records x := by
  obtain ⟨rec, hrec, hname, -⟩ := h
  exact ⟨rec, hrec, hname⟩

theorem Said.nodeGiven (h : Said records x n) : NodeGiven records n := by
  obtain ⟨rec, hrec, -, hn⟩ := h
  exact ⟨rec, hrec, hn⟩

namespace Relation

variable {r : Relation}

/-! ## The nodes of a relation -/

/-- A node is kept, or some name points to it. -/
def Occurs (r : Relation) (n : NodeId) : Prop := n ∈ r.namesOf ∨ ∃ x, r.PointsTo x n

/-- The least node of a class occurs if any node of the class does. -/
theorem Occurs.root (h : r.Occurs n) : r.Occurs (r.classes.root n) := by
  by_cases hroot : n = r.classes.root n
  · rw [← hroot]
    exact h
  · -- A node that is linked to another one shares a name with another one.
    have hlinked : r.Linked n (r.classes.root n) := (r.isLeast_root_classes n).1
    obtain ⟨-, l, -, x, -, hx⟩ := Linked.exists_shared hlinked hroot
    exact Or.inr ⟨x, hx⟩

/-- The primary node of a set occurs as one of its nodes. -/
theorem occurs_primary {k : Collapse} (hk : k ∈ r.collapses) : r.Occurs k.primary :=
  Or.inr ⟨k.name, (pointsTo_iff_mem_nodes hk).2 (by simp [Collapse.nodes])⟩

/-- **A pass makes no node.** -/
theorem occurs_of_occurs_pass {how : Reduction} (h : (r.pass how).value.Occurs n) :
    r.Occurs n := by
  cases how with
  | snapshot =>
    rcases h with hkept | ⟨x, hx⟩
    · obtain ⟨m, hm, rfl⟩ := kept_snapshot.1 hkept
      exact Occurs.root (Or.inl hm)
    · obtain ⟨m, hm, rfl⟩ := pointsTo_snapshot.1 hx
      exact Occurs.root (Or.inr ⟨x, hm⟩)
  | inPlace =>
    rcases h with hkept | ⟨x, hx⟩
    · rcases (kept_inPlace.1 hkept).1 with hn | ⟨k, hk, rfl⟩
      · exact Or.inl hn
      · exact occurs_primary hk
    · exact Or.inr ⟨x, pointsTo_inPlace hx⟩

theorem occurs_insertAll :
    (r.insertAll more).Occurs n ↔ r.Occurs n ∨ ∃ x, Said more x n := by
  simp only [Occurs, kept_insertAll, pointsTo_insertAll, exists_or]
  grind

theorem known_pass {how : Reduction} : x ∈ (r.pass how).value.nodesOf ↔ x ∈ r.nodesOf := by
  cases how
  · exact known_snapshot
  · exact known_inPlace

/-! ## Kept nodes have names -/

/-- A pass leaves no kept node without a name. An in-place pass may keep a primary node that was
missing before; the anchor of its set then hands it a name. -/
theorem exists_named_pass {how : Reduction} (hanchored : r.Anchored)
    (hnamed : ∀ n ∈ r.namesOf, ∃ x, r.Named n x) (h : n ∈ (r.pass how).value.namesOf) :
    ∃ x, (r.pass how).value.Named n x := by
  cases how with
  | snapshot =>
    obtain ⟨m, hm, hroot⟩ := kept_snapshot.1 h
    obtain ⟨x, hx⟩ := hnamed m hm
    exact ⟨x, named_snapshot.2 ⟨m, hx, hroot⟩⟩
  | inPlace =>
    obtain ⟨hn, hstays⟩ := kept_inPlace.1 h
    rcases hn with hn | ⟨k, hk, rfl⟩
    · obtain ⟨x, hx⟩ := hnamed n hn
      exact ⟨x, named_inPlace.2 ⟨⟨n, hx, flows_refl n _⟩, hstays⟩⟩
    · obtain ⟨l, hl, hx⟩ := hanchored.exists_named hk
      exact ⟨k.name, named_inPlace.2 ⟨⟨l, hx, flows_primary hl hk⟩, hstays⟩⟩

/-! ## What every history keeps -/

/-- All that a relation holds comes from records, and every kept node has known names. -/
structure Grounded (records : List Record) (r : Relation) : Prop where
  known : ∀ x, x ∈ r.nodesOf ↔ NameGiven records x
  given : ∀ n, r.Occurs n → NodeGiven records n
  named : ∀ n ∈ r.namesOf, ∃ x, r.Named n x
  known_of_named : ∀ n x, r.Named n x → x ∈ r.nodesOf

theorem grounded_empty : Grounded [] ∅ where
  known x := by simp [NameGiven, not_known_empty]
  given n h := by simp [Occurs, not_kept_empty, not_pointsTo_empty] at h
  named n h := absurd h (not_kept_empty n)
  known_of_named n x h := absurd h (not_named_empty n x)

/-- **Insertions** ground what they add in the records that they insert. -/
theorem Grounded.insertAll (h : Grounded records r) (more : List Record) :
    Grounded (records ++ more) (r.insertAll more) where
  known x := by rw [known_insertAll, h.known, nameGiven_append, NameGiven, NameGiven]
  given n hn := by
    rw [nodeGiven_append]
    rcases occurs_insertAll.1 hn with hn | ⟨x, hx⟩
    · exact Or.inl (h.given n hn)
    · exact Or.inr hx.nodeGiven
  named n hn := by
    rcases kept_insertAll.1 hn with hn | ⟨x, hx⟩
    · obtain ⟨x, hx⟩ := h.named n hn
      exact ⟨x, named_insertAll.2 (Or.inl hx)⟩
    · exact ⟨x, named_insertAll.2 (Or.inr hx)⟩
  known_of_named n x hx := by
    rw [known_insertAll]
    rcases named_insertAll.1 hx with hx | hx
    · exact Or.inl (h.known_of_named n x hx)
    · exact Or.inr hx.nameGiven

/-- **A pass** moves names and nodes and makes none. -/
theorem Grounded.pass (h : Grounded records r) (hanchored : r.Anchored) (how : Reduction) :
    Grounded records (r.pass how).value where
  known x := by rw [known_pass, h.known]
  given n hn := h.given n (occurs_of_occurs_pass hn)
  named n hn := exists_named_pass hanchored h.named hn
  known_of_named n x hx := by
    obtain ⟨m, hm⟩ := exists_named_of_named_pass hx
    exact known_pass.2 (h.known_of_named m x hm)

/-- **After any history** all is grounded in the records that were inserted. -/
theorem grounded_run (ops : List Operation) : Grounded (inserted ops) (run ops) := by
  induction ops using List.reverseRecOn with
  | nil => exact grounded_empty
  | append_singleton ops op ih =>
    rw [run_concat, inserted_concat]
    rcases step_cases (run ops) op with hstep | ⟨how, rfl, hstep⟩
    · rw [hstep]
      exact ih.insertAll op.records
    · rw [hstep, Operation.records, List.append_nil]
      exact ih.pass (anchored_run ops) how

/-- **Invariants of every mixture of operations.** No kept node has an empty set of names, and its
names are known; the known names are those inserted; every node of either map was inserted; a name
with two or more nodes is among the names of one of them; and so the groups are made of names and
labelled by nodes that were inserted. -/
theorem origins_run (ops : List Operation) :
    let r := run ops
    (∀ (n : NodeId) (xs : NameSet), r.namesOf[n]? = some xs → xs ≠ ∅ ∧ ∀ x ∈ xs, x ∈ r.nodesOf) ∧
      (∀ x, x ∈ r.nodesOf ↔ ∃ rec ∈ inserted ops, rec.name = x) ∧
      (∀ n, n ∈ r.namesOf ∨ (∃ x, n ∈ Multimap.entry r.nodesOf x) →
        ∃ rec ∈ inserted ops, n ∈ rec.nodes) ∧
      (∀ (x : Name) (ns : NodeSet), r.nodesOf[x]? = some ns → 1 < ns.size →
        ∃ n ∈ ns, x ∈ Multimap.entry r.namesOf n) ∧
      ∀ g ∈ r.aliasGroups, (∃ rec ∈ inserted ops, g.primary ∈ rec.nodes) ∧
        ∀ x ∈ g.members, ∃ rec ∈ inserted ops, rec.name = x := by
  intro r
  have h : Grounded (inserted ops) r := grounded_run ops
  refine ⟨fun n xs hxs => ?_, h.known, h.given, fun x ns hns hsize => ?_, fun g hg => ?_⟩
  · obtain ⟨hn, rfl⟩ := Multimap.getElem?_eq_some_iff_entry.1 hxs
    obtain ⟨x, hx⟩ := h.named n hn
    exact ⟨Std.ExtTreeSet.ne_empty_of_mem hx, h.known_of_named n⟩
  · have hentry := Multimap.entry_of_getElem? hns
    obtain ⟨n, hn, m, hm, hne⟩ := one_lt_size_iff.1 hsize
    have hanchored : r.Anchored := anchored_run ops
    obtain ⟨l, hl, hx⟩ :=
      hanchored x n m (by rwa [PointsTo, hentry]) (by rwa [PointsTo, hentry]) hne
    exact ⟨l, by rwa [PointsTo, hentry] at hl, hx⟩
  · obtain ⟨hp, hmembers, -⟩ := mem_aliasGroups_iff_named.1 hg
    exact ⟨h.given _ (Or.inl hp), fun x hx =>
      (h.known x).1 (h.known_of_named _ x ((hmembers x).2 hx))⟩

end Relation

end Aliasing
