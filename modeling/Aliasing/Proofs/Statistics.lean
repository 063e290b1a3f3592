import Aliasing.Proofs.LogLines
import Aliasing.Proofs.Sizes
/-!
# The counts of a run

The counts are taken at different moments: of the log, of the relation that the records describe, of
what the reduction did and of the relation that it left. They fit the dump, which says for each of
them what it is the number of, and they fit each other.

Main statements: `length_collapses_ofRecords`, the sets that are collapsed are those of the names
that were given two or more nodes; `consistent_ofDump`; `consistent_analyse`.
-/

namespace Aliasing

def namesGiven (records : List Record) : Finset Name := (records.map (·.name)).toFinset

def nodesGiven (records : List Record) : Finset NodeId :=
  (records.flatMap fun rec => rec.nodes.toList).toFinset

/-- The nodes that records give to a name, all records about it taken together. -/
def nodesGivenTo (records : List Record) (x : Name) : Finset NodeId :=
  nodesGiven (records.filter (·.name = x))

/-- The counts of findings fit the dump, the relation that is left, and each other. -/
structure Findings.Consistent (text : String) (after : Relation) (f : Findings) : Prop where
  records : f.stats.records = (Log.ofText text).records.length
  skipped : f.stats.skipped = f.skipped.length
  /-- A line that is not blank holds a record or is skipped. -/
  nonblank : f.stats.records + f.stats.skipped = (lines text.toList).countP fun l => !isBlank l
  oversized : f.stats.oversized = f.skipped.countP (·.why.isOversizedId)
  names : f.stats.names = (namesGiven (Log.ofText text).records).card
  nodes : f.stats.nodes = (nodesGiven (Log.ofText text).records).card
  /-- The names whose nodes are two or more, over all their records. -/
  merges : f.stats.merges = ((namesGiven (Log.ofText text).records).filter fun x =>
    2 ≤ (nodesGivenTo (Log.ofText text).records x).card).card
  passes : f.stats.passes = if 0 < f.stats.merges then 1 else 0
  survivingNodes : f.stats.survivingNodes = after.namesOf.size
  survivingNodes_le : f.stats.survivingNodes ≤ f.stats.nodes
  survivingNodes_eq_iff : f.stats.survivingNodes = f.stats.nodes ↔ f.stats.merges = 0
  groups_eq : f.groups = after.aliasGroups
  groups : f.stats.groups = f.groups.length
  groups_le : f.stats.groups ≤ f.stats.survivingNodes

variable {records : List Record} {x : Name} {n : NodeId}

/-! ## What records give -/

theorem mem_namesGiven : x ∈ namesGiven records ↔ NameGiven records x := by
  simp [namesGiven, NameGiven]

theorem mem_nodesGiven : n ∈ nodesGiven records ↔ NodeGiven records n := by
  simp [nodesGiven, NodeGiven]

theorem mem_nodesGivenTo : n ∈ nodesGivenTo records x ↔ Said records x n := by
  simp [nodesGivenTo, mem_nodesGiven, NodeGiven, Said, and_assoc]

namespace Relation

theorem card_namesGiven (records : List Record) :
    (namesGiven records).card = (ofRecords records).nodesOf.size :=
  Multimap.card_eq_size fun x => by rw [mem_namesGiven, known_ofRecords, NameGiven]

theorem card_nodesGiven (records : List Record) :
    (nodesGiven records).card = (ofRecords records).namesOf.size := by
  refine Multimap.card_eq_size fun n => ?_
  rw [mem_nodesGiven, kept_ofRecords]
  constructor
  · rintro ⟨rec, hrec, hn⟩
    exact ⟨rec.name, rec, hrec, rfl, hn⟩
  · rintro ⟨x, hx⟩
    exact hx.nodeGiven

theorem card_nodesGivenTo (records : List Record) (x : Name) :
    (nodesGivenTo records x).card = (Multimap.entry (ofRecords records).nodesOf x).size :=
  card_eq_size fun n => by rw [mem_nodesGivenTo, ← pointsTo_ofRecords, PointsTo]

/-- **The sets that are collapsed** are those of the names that were given two or more nodes. -/
theorem length_collapses_ofRecords (records : List Record) :
    (ofRecords records).collapses.length =
      ((namesGiven records).filter fun x => 2 ≤ (nodesGivenTo records x).card).card := by
  rw [length_collapses]
  refine congrArg Finset.card (Finset.ext fun x => ?_)
  rw [Finset.mem_filter, Multimap.mem_crowded, known_ofRecords, mem_namesGiven, card_nodesGivenTo,
    NameGiven, Nat.succ_le_iff]

end Relation

/-! ## The counts of a dump -/

/-- **The counts of a dump** fit it, the relation that is left, and each other. -/
theorem consistent_ofDump (text : String) (how : Reduction) :
    (Findings.ofDump text how).Consistent text
      ((Relation.ofRecords (Log.ofText text).records).reduce how).value.2 := by
  have htransposed := Relation.transposed_ofRecords (Log.ofText text).records
  obtain ⟨hpasses, hmerges, hafter⟩ := Findings.counts_ofDump text how
  exact {
    records := rfl
    skipped := rfl
    nonblank := Log.length_records_add_length_skipped text
    oversized := List.countP_eq_length_filter.symm
    names := (Relation.card_namesGiven _).symm
    nodes := (Relation.card_nodesGiven _).symm
    merges := hmerges.trans (Relation.length_collapses_ofRecords _)
    passes := by
      rw [hpasses, hmerges]
      simp only [List.length_pos_iff, ne_eq, ite_not]
    survivingNodes := rfl
    survivingNodes_le := by
      rw [hafter]
      exact Relation.size_pass_le htransposed how
    survivingNodes_eq_iff := by
      rw [hafter, hmerges, List.length_eq_zero_iff]
      exact Relation.size_pass_eq_iff htransposed how
    groups_eq := rfl
    groups := rfl
    groups_le := Relation.length_aliasGroups_le_size _ }

/-- Every name that a dump gives is left at exactly one node by a snapshot reduction. -/
theorem existsUnique_named_reduce_snapshot {text : String}
    (hx : x ∈ namesGiven (Log.ofText text).records) :
    ∃! n, ((Relation.ofRecords (Log.ofText text).records).reduce .snapshot).value.2.Named n x := by
  obtain ⟨rec, hrec, rfl⟩ := mem_namesGiven.1 hx
  obtain ⟨l, -, hok⟩ := Log.mem_records_iff.1 hrec
  obtain ⟨n, hn⟩ := Record.exists_mem_nodes_of_ofLine hok
  rw [Relation.reduce_snapshot_snd]
  exact Relation.existsUnique_named_snapshot (Relation.transposed_ofRecords _)
    (Relation.pointsTo_ofRecords.2 ⟨rec, hrec, rfl, hn⟩)

/-- **The counts of an analysis** fit the dump and each other. After a snapshot reduction each name
is left at exactly one node, so the nodes that are left and the groups are no more than the
names. -/
theorem consistent_analyse (text : String) (opts : Options) (f : Findings)
    (h : (analyse text opts).value = .ok f) :
    let records := (Log.ofText text).records
    let after := ((Relation.ofRecords records).reduce opts.reduction).value.2
    f.Consistent text after ∧
      (opts.reduction = .snapshot →
        (∀ x ∈ namesGiven records, ∃! n, after.Named n x) ∧
          f.stats.survivingNodes + f.stats.groups ≤ f.stats.names) := by
  intro records after
  rw [eq_ofDump_of_value_analyse h]
  refine ⟨consistent_ofDump text opts.reduction, fun hhow => ?_⟩
  have hafter : after = ((Relation.ofRecords records).reduce .snapshot).value.2 := by
    simp only [after, hhow]
  rw [hafter, hhow]
  refine ⟨fun x => existsUnique_named_reduce_snapshot, ?_⟩
  show ((Relation.ofRecords records).reduce .snapshot).value.2.namesOf.size +
    ((Relation.ofRecords records).reduce .snapshot).value.2.aliasGroups.length ≤ _
  rw [Relation.reduce_snapshot_snd]
  exact Relation.size_add_length_aliasGroups_le (Relation.transposed_ofRecords _)

/-- Two records that are merged, with a blank line and a line with an id that is too large. -/
theorem consistent_analyse_two_merged :
    let text := textOfLines ["NodeID 1 (val:@a) PointsTo: \x7b 10 20 \x7d",
      "NodeID 2 (val:@b) PointsTo: \x7b 20 30 \x7d", "",
      "NodeID 3 (val:@c) PointsTo: \x7b 18446744073709551616 \x7d"]
    let opts : Options := ⟨.report, .snapshot⟩
    let f := Findings.ofDump text opts.reduction
    let records := (Log.ofText text).records
    let after := ((Relation.ofRecords records).reduce opts.reduction).value.2
    (analyse text opts).value = .ok f ∧ f.stats = ⟨2, 1, 1, 2, 3, 1, 1, 2, 1⟩ ∧
      f.Consistent text after ∧ (∀ x ∈ namesGiven records, ∃! n, after.Named n x) ∧
      f.stats.survivingNodes + f.stats.groups ≤ f.stats.names := by
  intro text opts f records after
  have hf : (analyse text opts).value = .ok f := by
    rw [value_analyse, if_neg (by decide)]
  obtain ⟨hconsistent, hsnapshot⟩ := consistent_analyse text opts f hf
  exact ⟨hf, by decide +kernel, hconsistent, hsnapshot rfl⟩

end Aliasing
