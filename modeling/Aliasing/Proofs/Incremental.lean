import Mathlib.Data.List.Induction
import Aliasing.Proofs.Components
import Aliasing.Proofs.Strategies
/-!
# Reducing step by step

A relation may be reduced with snapshot passes in between its insertions. Every reduction contracts
classes of nodes to their least ones, and later insertions work on what is left. As long as no
insertion mentions a node that a reduction has removed, nothing is lost by that: the last reduction
leaves what a single one leaves after all insertions, whatever their order.

Main statements: `IsContraction.root_rep`, the classes of a contracted relation are those of the
records; `IsContraction.insertAll` and `IsContraction.snapshot`, what the steps keep;
`exists_isContraction_run`, what a run keeps; `reduce_run_eq_reduce_ofRecords`.
-/

namespace Aliasing

/-- A list that ends with an item, split at some item. -/
theorem concat_eq_split_iff {α : Type} {l before after : List α} {a b : α} :
    l ++ [a] = before ++ b :: after ↔
      (l = before ∧ a = b ∧ after = []) ∨
        ∃ rest, l = before ++ b :: rest ∧ after = rest ++ [a] := by
  constructor
  · intro h
    rcases List.eq_nil_or_concat after with rfl | ⟨rest, c, rfl⟩
    · obtain ⟨hl, ha⟩ := List.append_inj' h rfl
      exact Or.inl ⟨hl, List.singleton_inj.1 ha, rfl⟩
    · have h' : l ++ [a] = (before ++ b :: rest) ++ [c] := by simpa using h
      obtain ⟨hl, ha⟩ := List.append_inj' h' rfl
      exact Or.inr ⟨rest, hl, by rw [List.singleton_inj.1 ha, List.concat_eq_append]⟩
  · rintro (⟨rfl, rfl, rfl⟩ | ⟨rest, rfl, rfl⟩)
    · rfl
    · simp

/-- A reduction removes a node: it was kept before and is not after. -/
def Operation.Removes (r : Relation) (n : NodeId) : Operation → Prop
  | .reduce how => n ∈ r.namesOf ∧ n ∉ (r.reduce how).value.2.namesOf
  | _ => False

variable {ops : List Operation} {op : Operation} {records more : List Record} {x : Name}
  {n m : NodeId}

/-- Some reduction of the history removed the node. -/
def Removed (ops : List Operation) (n : NodeId) : Prop :=
  ∃ before op after, ops = before ++ op :: after ∧ op.Removes (Relation.run before) n

/-- No insertion mentions a node that was removed before. -/
def NoReuse (ops : List Operation) : Prop :=
  ∀ before op after, ops = before ++ op :: after →
    ∀ rec ∈ op.records, ∀ n ∈ rec.nodes, ¬ Removed before n

theorem not_removed_nil : ¬ Removed [] n := by
  rintro ⟨before, op, after, h, -⟩
  simp at h

theorem removed_concat :
    Removed (ops ++ [op]) n ↔ Removed ops n ∨ op.Removes (Relation.run ops) n := by
  unfold Removed
  simp only [concat_eq_split_iff]
  constructor
  · rintro ⟨before, o, after, ⟨rfl, rfl, -⟩ | ⟨rest, hops, -⟩, ho⟩
    · exact Or.inr ho
    · exact Or.inl ⟨before, o, rest, hops, ho⟩
  · rintro (⟨before, o, after, hops, ho⟩ | ho)
    · exact ⟨before, o, after ++ [op], Or.inr ⟨after, hops, rfl⟩, ho⟩
    · exact ⟨ops, op, [], Or.inl ⟨rfl, rfl, rfl⟩, ho⟩

theorem noReuse_nil : NoReuse [] := by
  intro before op after h
  simp at h

theorem noReuse_concat :
    NoReuse (ops ++ [op]) ↔
      NoReuse ops ∧ ∀ rec ∈ op.records, ∀ n ∈ rec.nodes, ¬ Removed ops n := by
  unfold NoReuse
  simp only [concat_eq_split_iff]
  constructor
  · intro h
    refine ⟨fun before o after hops => ?_, ?_⟩
    · exact h before o (after ++ [op]) (Or.inr ⟨after, hops, rfl⟩)
    · exact h ops op [] (Or.inl ⟨rfl, rfl, rfl⟩)
  · rintro ⟨hops, hop⟩ before o after (⟨rfl, rfl, -⟩ | ⟨rest, hrest, -⟩)
    · exact hop
    · exact hops before o rest hrest

theorem said_append : Said (records ++ more) x n ↔ Said records x n ∨ Said more x n := by
  simp only [Said, List.mem_append, or_and_right, exists_or]

theorem said_perm (h : records.Perm more) : Said records x n ↔ Said more x n := by
  simp only [Said, h.mem_iff]

theorem SameClass.append (h : SameClass records n m) (more : List Record) :
    SameClass (records ++ more) n m :=
  Relation.EqvGen.mono (fun _ _ ⟨x, hn, hm⟩ =>
    ⟨x, said_append.2 (Or.inl hn), said_append.2 (Or.inl hm)⟩) _ _ h

namespace Relation

variable {r s : Relation} {rep : NodeId → NodeId}

/-- What a name points to decides a relation whose directions hold the same facts. -/
theorem Transposed.ext (hr : r.Transposed) (hs : s.Transposed)
    (hknown : ∀ x, x ∈ r.nodesOf ↔ x ∈ s.nodesOf)
    (hpoints : ∀ x n, r.PointsTo x n ↔ s.PointsTo x n) : r = s := by
  refine ext_facts hknown hpoints (fun n => ?_) fun n x => ?_
  · simp only [hr.kept, hs.kept, hpoints]
  · rw [hr.named, hs.named, hpoints]

theorem transposed_ofRecords (records : List Record) : (ofRecords records).Transposed :=
  insertAll_induction (fun _ x ns h => h.insert x ns) records transposed_empty

/-- The order of the records does not matter. -/
theorem ofRecords_perm (h : records.Perm more) : ofRecords records = ofRecords more := by
  refine (transposed_ofRecords records).ext (transposed_ofRecords more) (fun x => ?_) fun x n => ?_
  · simp only [known_ofRecords, h.mem_iff]
  · rw [pointsTo_ofRecords, pointsTo_ofRecords, said_perm h]

/-! ## Contractions -/

/-- The relation of some records with `rep n`, a node at or before `n` in its class, in place of
every node `n`. -/
structure IsContraction (records : List Record) (rep : NodeId → NodeId) (r : Relation) : Prop where
  known : ∀ x, x ∈ r.nodesOf ↔ ∃ rec ∈ records, rec.name = x
  pointsTo : ∀ x m, r.PointsTo x m ↔ ∃ n, Said records x n ∧ rep n = m
  rep_le : ∀ n, rep n ≤ n
  sameClass_rep : ∀ n, SameClass records n (rep n)

theorem isContraction_empty : IsContraction [] id ∅ where
  known x := by simp [not_known_empty]
  pointsTo x m := by simp [not_pointsTo_empty, Said]
  rep_le n := Nat.le_refl _
  sameClass_rep n := .refl n

/-- Linked nodes of the contraction are in one class of the records. -/
theorem IsContraction.sameClass_of_linked (h : IsContraction records rep r) (hnm : r.Linked n m) :
    SameClass records n m := by
  unfold SameClass
  refine Relation.EqvGen.eqvGen_le ?_ n m hnm
  rintro a b ⟨x, ha, hb⟩
  obtain ⟨a', ha', rfl⟩ := (h.pointsTo x a).1 ha
  obtain ⟨b', hb', rfl⟩ := (h.pointsTo x b).1 hb
  have hshared : SameClass records a' b' := .rel _ _ ⟨x, ha', hb'⟩
  exact .trans _ _ _ (.symm _ _ (h.sameClass_rep a')) (.trans _ _ _ hshared (h.sameClass_rep b'))

/-- Nodes of one class of the records have contracted nodes of one class. -/
theorem IsContraction.root_rep_eq (h : IsContraction records rep r) (hnm : SameClass records n m) :
    r.classes.root (rep n) = r.classes.root (rep m) := by
  refine Partition.eq_of_eqvGen (f := fun n => r.classes.root (rep n)) ?_ hnm
  rintro a b ⟨x, ha, hb⟩
  have hrepa : r.PointsTo x (rep a) := (h.pointsTo x _).2 ⟨a, ha, rfl⟩
  have hrepb : r.PointsTo x (rep b) := (h.pointsTo x _).2 ⟨b, hb, rfl⟩
  exact root_eq_of_pointsTo hrepa hrepb

/-- **The classes of a contraction** are those of the records: closing again after a contraction
leads to the same least nodes. -/
theorem IsContraction.root_rep (h : IsContraction records rep r) (n : NodeId) :
    r.classes.root (rep n) = (ofRecords records).classes.root n := by
  symm
  rw [← isLeast_linked_iff, linked_ofRecords]
  constructor
  · have hlinked : r.Linked (rep n) (r.classes.root (rep n)) := (r.isLeast_root_classes _).1
    exact .trans _ _ _ (h.sameClass_rep n) (h.sameClass_of_linked hlinked)
  · intro m hm
    have hle : r.classes.root (rep m) ≤ rep m := r.classes.root_le _
    rw [h.root_rep_eq hm]
    exact Nat.le_trans hle (h.rep_le m)

/-- Insertions of nodes that are their own representatives. -/
theorem IsContraction.insertAll (h : IsContraction records rep r)
    (hfix : ∀ rec ∈ more, ∀ n ∈ rec.nodes, rep n = n) :
    IsContraction (records ++ more) rep (r.insertAll more) where
  known x := by
    rw [known_insertAll, h.known]
    simp only [List.mem_append, or_and_right, exists_or]
  pointsTo x m := by
    have hsaid : ∀ n, Said more x n → rep n = n := by
      rintro n ⟨rec, hrec, -, hn⟩
      exact hfix rec hrec n hn
    rw [pointsTo_insertAll, h.pointsTo]
    simp only [said_append, or_and_right, exists_or]
    refine or_congr_right ⟨fun hm => ⟨m, hm, hsaid m hm⟩, ?_⟩
    rintro ⟨n, hn, rfl⟩
    rwa [hsaid n hn]
  rep_le := h.rep_le
  sameClass_rep n := (h.sameClass_rep n).append more

/-- A snapshot pass goes on with the contraction. -/
theorem IsContraction.snapshot (h : IsContraction records rep r) :
    IsContraction records (fun n => r.classes.root (rep n)) r.snapshot where
  known x := by rw [known_snapshot, h.known]
  pointsTo x m := by
    simp only [pointsTo_snapshot, h.pointsTo]
    constructor
    · rintro ⟨_, ⟨n, hn, rfl⟩, hm⟩
      exact ⟨n, hn, hm⟩
    · rintro ⟨n, hn, hm⟩
      exact ⟨rep n, ⟨n, hn, rfl⟩, hm⟩
  rep_le n := Nat.le_trans (r.classes.root_le _) (h.rep_le n)
  sameClass_rep n :=
    .trans _ _ _ (h.sameClass_rep n) (h.sameClass_of_linked (r.isLeast_root_classes _).1)

/-- A snapshot reduction removes a node whose root is another one. -/
theorem removes_of_root_ne (htransposed : r.Transposed) (hroot : r.classes.root n ≠ n) :
    (Operation.reduce .snapshot).Removes r n := by
  refine ⟨?_, fun hkept => ?_⟩
  · obtain ⟨⟨l, -, x, -, hx⟩, -⟩ :=
      Linked.exists_shared (r.isLeast_root_classes n).1 (Ne.symm hroot)
    exact (htransposed.kept n).2 ⟨x, hx⟩
  · rw [reduce_snapshot_snd] at hkept
    exact hroot (root_of_kept_snapshot hkept)

/-- **A run without reuse** leaves a contraction of its records, in which only removed nodes have
another representative. -/
theorem exists_isContraction_run (hops : ∀ how, .reduce how ∈ ops → how = .snapshot)
    (hreuse : NoReuse ops) :
    ∃ rep, IsContraction (inserted ops) rep (run ops) ∧ ∀ n, rep n ≠ n → Removed ops n := by
  induction ops using List.reverseRecOn with
  | nil => exact ⟨id, isContraction_empty, fun n hn => absurd rfl hn⟩
  | append_singleton ops op ih =>
    have hbefore : ∀ how, .reduce how ∈ ops → how = .snapshot := fun how hmem =>
      hops how (List.mem_append_left _ hmem)
    obtain ⟨hreuse, hfresh⟩ := noReuse_concat.1 hreuse
    obtain ⟨rep, hrep, hremoved⟩ := ih hbefore hreuse
    rw [run_concat, inserted_concat]
    simp only [removed_concat]
    rcases step_cases (run ops) op with hstep | ⟨how, rfl, hstep⟩
    · rw [hstep]
      refine ⟨rep, hrep.insertAll fun rec hrec n hn => ?_, fun n hn => Or.inl (hremoved n hn)⟩
      by_contra hne
      exact hfresh rec hrec n hn (hremoved n hne)
    · obtain rfl : how = .snapshot := hops how (by simp)
      rw [hstep, Operation.records, List.append_nil]
      refine ⟨fun n => (run ops).classes.root (rep n), hrep.snapshot, fun n hn => ?_⟩
      by_cases hfix : rep n = n
      · have hroot : (run ops).classes.root n ≠ n := by simpa only [hfix] using hn
        exact Or.inr (removes_of_root_ne (transposed_run hbefore) hroot)
      · exact Or.inl (hremoved n hfix)

/-- **Reducing step by step is reducing once.** After snapshot reductions in between, one more
leaves what a single one leaves after all insertions in any order, unless an insertion mentions a
node that was removed before. -/
theorem reduce_run_eq_reduce_ofRecords (ops : List Operation)
    (hops : ∀ how, .reduce how ∈ ops → how = .snapshot) (hreuse : NoReuse ops)
    (records : List Record) (hrecords : records.Perm (inserted ops)) :
    ((run ops).reduce .snapshot).value.2 = ((ofRecords records).reduce .snapshot).value.2 := by
  rw [ofRecords_perm hrecords, reduce_snapshot_snd, reduce_snapshot_snd]
  obtain ⟨rep, hrep, -⟩ := exists_isContraction_run hops hreuse
  refine (transposed_run hops).snapshot.ext (transposed_ofRecords _).snapshot (fun x => ?_)
    fun x m => ?_
  · rw [known_snapshot, known_snapshot, hrep.known, known_ofRecords]
  · rw [hrep.snapshot.pointsTo, pointsTo_snapshot]
    simp only [hrep.root_rep, pointsTo_ofRecords]

/-- Two reductions on the way, each of which removes a node, and the records in another order. -/
theorem reduce_run_eq_reduce_ofRecords_twice :
    let node (n : Nat) (h : n < UInt64.size) : NodeId := ⟨n, h⟩
    let one := node 1 (by decide)
    let three := node 3 (by decide)
    let five := node 5 (by decide)
    let seven := node 7 (by decide)
    let ops : List Operation := [.insert ⟨"@a"⟩ {one, five}, .reduce .snapshot,
      .extend [⟨⟨"@b"⟩, {one, three}⟩, ⟨⟨"@d"⟩, ∅⟩], .reduce .snapshot, .insert ⟨"@c"⟩ {one, seven}]
    let records : List Record :=
      [⟨⟨"@c"⟩, {one, seven}⟩, ⟨⟨"@d"⟩, ∅⟩, ⟨⟨"@a"⟩, {one, five}⟩, ⟨⟨"@b"⟩, {one, three}⟩]
    (∀ how, .reduce how ∈ ops → how = .snapshot) ∧ NoReuse ops ∧ records.Perm (inserted ops) ∧
      ((run ops).reduce .snapshot).value.2 = ((ofRecords records).reduce .snapshot).value.2 := by
  intro node one three five seven ops records
  have hops : ∀ how, .reduce how ∈ ops → how = .snapshot := by simp [ops]
  have hreuse : NoReuse ops := by
    show NoReuse ((((([] ++ [_]) ++ [_]) ++ [_]) ++ [_]) ++ [_])
    simp only [noReuse_concat, removed_concat, noReuse_nil, not_removed_nil, Operation.records,
      Operation.Removes, ← Std.ExtTreeSet.mem_toList]
    decide +kernel
  have hrecords : records.Perm (inserted ops) := by decide +kernel
  exact ⟨hops, hreuse, hrecords, reduce_run_eq_reduce_ofRecords ops hops hreuse records hrecords⟩

end Relation

end Aliasing
