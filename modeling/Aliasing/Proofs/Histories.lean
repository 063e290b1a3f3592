import Aliasing.Proofs.Passes
/-!
# Histories of a relation

A relation begins empty and is changed by insertions, of one record or of many, and by reductions,
in any order. What holds of the empty relation and is kept by every insertion and by every pass
holds after any history.

Main statements: `run_induction`; `transposed_run`, with snapshot reductions only the two directions
stay transposes of each other; `anchored_run`, in any history a name with several nodes is among the
names of one of them.
-/

namespace Aliasing

inductive Operation where
  | insert (x : Name) (ns : NodeSet)
  | extend (records : List Record)
  | reduce (how : Reduction)

def Operation.records : Operation → List Record
  | insert x ns => [⟨x, ns⟩]
  | extend rs => rs
  | reduce _ => []

def inserted (ops : List Operation) : List Record := ops.flatMap Operation.records

theorem inserted_concat (ops : List Operation) (op : Operation) :
    inserted (ops ++ [op]) = inserted ops ++ op.records := by
  simp [inserted]

namespace Relation

def step (r : Relation) : Operation → Relation
  | .insert x ns => r.insert x ns
  | .extend records => r.insertAll records
  | .reduce how => (r.reduce how).value.2

/-- The relation after some operations, in order, from the empty one. -/
def run (ops : List Operation) : Relation := ops.foldl step ∅

theorem run_concat (ops : List Operation) (op : Operation) :
    run (ops ++ [op]) = (run ops).step op := by
  simp [run]

/-- **A step** inserts the records of its operation or is one pass. -/
theorem step_cases (r : Relation) (op : Operation) :
    r.step op = r.insertAll op.records ∨
      ∃ how, op = .reduce how ∧ r.step op = (r.pass how).value := by
  cases op with
  | insert x ns => exact Or.inl rfl
  | extend records => exact Or.inl rfl
  | reduce how => exact Or.inr ⟨how, rfl, by rw [step, value_reduce]⟩

theorem insertAll_induction {P : Relation → Prop} (hinsert : ∀ r x ns, P r → P (r.insert x ns)) :
    ∀ (records : List Record) {r : Relation}, P r → P (r.insertAll records)
  | [], _, h => h
  | rec :: records, r, h => by
    rw [insertAll_cons]
    exact insertAll_induction hinsert records (hinsert r rec.name rec.nodes h)

/-- **What every step keeps** holds after every run. Only passes of the kinds in the run count. -/
theorem run_induction {P : Relation → Prop} {ops : List Operation} (hempty : P ∅)
    (hinsert : ∀ r x ns, P r → P (r.insert x ns))
    (hpass : ∀ r how, .reduce how ∈ ops → P r → P (r.pass how).value) : P (run ops) := by
  unfold run
  suffices ∀ (rest : List Operation) (r : Relation), (∀ op ∈ rest, op ∈ ops) → P r →
      P (rest.foldl step r) from this ops ∅ (fun _ hop => hop) hempty
  intro rest
  induction rest with
  | nil => exact fun r _ h => h
  | cons op rest ih =>
    intro r hmem h
    refine ih (r.step op) (fun o ho => hmem o (by simp [ho])) ?_
    cases op with
    | insert x ns => exact hinsert r x ns h
    | extend records => exact insertAll_induction hinsert records h
    | reduce how =>
      rw [step, value_reduce]
      exact hpass r how (hmem _ (by simp)) h

/-! ## Transposes -/

/-- Both directions hold the same facts. -/
structure Transposed (r : Relation) : Prop where
  kept : ∀ n, n ∈ r.namesOf ↔ ∃ x, r.PointsTo x n
  named : ∀ n x, r.Named n x ↔ r.PointsTo x n

theorem transposed_empty : (∅ : Relation).Transposed where
  kept n := by simp [not_kept_empty, not_pointsTo_empty]
  named n x := by simp [not_named_empty, not_pointsTo_empty]

variable {r : Relation}

theorem Transposed.insert (h : r.Transposed) (x : Name) (ns : NodeSet) :
    (r.insert x ns).Transposed where
  kept n := by
    simp only [kept_insert, pointsTo_insert, h.kept, exists_or]
    simp
  named n y := by rw [named_insert, pointsTo_insert, h.named]

/-- A snapshot pass replaces nodes alike in both directions. -/
theorem Transposed.snapshot (h : r.Transposed) : r.snapshot.Transposed where
  kept m := by
    simp only [kept_snapshot, pointsTo_snapshot, h.kept]
    constructor
    · rintro ⟨n, ⟨x, hx⟩, hn⟩
      exact ⟨x, n, hx, hn⟩
    · rintro ⟨x, n, hx, hn⟩
      exact ⟨n, ⟨x, hx⟩, hn⟩
  named m x := by simp only [named_snapshot, pointsTo_snapshot, h.named]

theorem transposed_run {ops : List Operation}
    (hops : ∀ how, .reduce how ∈ ops → how = .snapshot) : (run ops).Transposed := by
  refine run_induction transposed_empty (fun r x ns h => h.insert x ns) fun r how hmem h => ?_
  rw [hops how hmem]
  exact h.snapshot

/-- **Snapshot histories keep the transpose.** A node is a key exactly when a name points to it, and
its names are then those that do. -/
theorem namesOf_run_snapshot (ops : List Operation)
    (hops : ∀ how, .reduce how ∈ ops → how = .snapshot) (n : NodeId) :
    (n ∈ (run ops).namesOf ↔ ∃ x, n ∈ Multimap.entry (run ops).nodesOf x) ∧
      ∀ xs, (run ops).namesOf[n]? = some xs →
        xs ≠ ∅ ∧ ∀ x, x ∈ xs ↔ n ∈ Multimap.entry (run ops).nodesOf x := by
  have h := transposed_run hops
  refine ⟨h.kept n, fun xs hxs => ?_⟩
  have hmem : ∀ x, x ∈ xs ↔ (run ops).PointsTo x n := fun x => by
    rw [← h.named n x, Named, Multimap.entry_of_getElem? hxs]
  obtain ⟨x, hx⟩ := (h.kept n).1 (Multimap.getElem?_eq_some_iff_entry.1 hxs).1
  exact ⟨Std.ExtTreeSet.ne_empty_of_mem ((hmem x).2 hx), hmem⟩

/-- A node that was merged away is mentioned again. -/
theorem namesOf_run_snapshot_mentioned_again :
    let node (n : Nat) (h : n < UInt64.size) : NodeId := ⟨n, h⟩
    let one := node 1 (by decide)
    let five := node 5 (by decide)
    let six := node 6 (by decide)
    let ops : List Operation := [.insert ⟨"@a"⟩ {one, five}, .extend [⟨⟨"@b"⟩, {five, six}⟩],
      .reduce .snapshot, .insert ⟨"@c"⟩ {five, six}, .insert ⟨"@d"⟩ ∅, .reduce .snapshot]
    (∀ how, .reduce how ∈ ops → how = .snapshot) ∧
      (five ∈ (run ops).namesOf ↔ ∃ x, five ∈ Multimap.entry (run ops).nodesOf x) ∧
      ∀ xs, (run ops).namesOf[five]? = some xs →
        xs ≠ ∅ ∧ ∀ x, x ∈ xs ↔ five ∈ Multimap.entry (run ops).nodesOf x := by
  intro node one five six ops
  have hops : ∀ how, .reduce how ∈ ops → how = .snapshot := by simp [ops]
  exact ⟨hops, namesOf_run_snapshot ops hops five⟩

/-! ## Anchors -/

/-- A name with several nodes is among the names of one of them. -/
def Anchored (r : Relation) : Prop :=
  ∀ x n m, r.PointsTo x n → r.PointsTo x m → n ≠ m → ∃ l, r.PointsTo x l ∧ r.Named l x

theorem anchored_of_collapses_eq_nil (h : r.collapses = []) : r.Anchored := by
  intro x n m hn hm hne
  obtain ⟨k, hk, -⟩ := exists_mem_collapses hn hm hne
  simp [h] at hk

theorem Anchored.insert (h : r.Anchored) (x : Name) (ns : NodeSet) : (r.insert x ns).Anchored := by
  -- A node that came with the insertion has the name; without one the old anchor serves.
  have hnew : ∀ {y n}, x = y ∧ n ∈ ns → ∃ l, (r.insert x ns).PointsTo y l ∧
      (r.insert x ns).Named l y := fun {y n} hyn =>
    ⟨n, pointsTo_insert.2 (Or.inr hyn), named_insert.2 (Or.inr hyn)⟩
  intro y n m hn hm hne
  rcases pointsTo_insert.1 hn with hn | hn
  · rcases pointsTo_insert.1 hm with hm | hm
    · obtain ⟨l, hl, hy⟩ := h y n m hn hm hne
      exact ⟨l, pointsTo_insert.2 (Or.inl hl), named_insert.2 (Or.inl hy)⟩
    · exact hnew hm
  · exact hnew hn

theorem anchored_run (ops : List Operation) : (run ops).Anchored :=
  run_induction (fun x n _ hn => absurd hn (not_pointsTo_empty x n))
    (fun _ x ns h => h.insert x ns) fun r how _ _ =>
      anchored_of_collapses_eq_nil (collapses_pass how r)

/-- A set to collapse has its name at one of its nodes. -/
theorem Anchored.exists_named (h : r.Anchored) {k : Collapse} (hk : k ∈ r.collapses) :
    ∃ l ∈ k.nodes, r.Named l k.name := by
  obtain ⟨m, hm⟩ := List.exists_mem_of_ne_nil _ (others_ne_nil hk)
  have hne : k.primary ≠ m := by
    intro heq
    have hlt := primary_lt hk hm
    rw [heq] at hlt
    exact Nat.lt_irrefl _ hlt
  have hprimary : r.PointsTo k.name k.primary :=
    (pointsTo_iff_mem_nodes hk).2 (by simp [Collapse.nodes])
  have hother : r.PointsTo k.name m := (pointsTo_iff_mem_nodes hk).2 (by simp [Collapse.nodes, hm])
  obtain ⟨l, hl, hnamed⟩ := h _ _ _ hprimary hother hne
  exact ⟨l, (pointsTo_iff_mem_nodes hk).1 hl, hnamed⟩

end Relation

end Aliasing
