import Aliasing.Proofs.Agreement
import Aliasing.Proofs.Components
import Aliasing.Proofs.Findings
/-!
# In-place groups that overlap

Names flow from the nodes of a set to its least node, and a node of two sets lets its names flow to
the least nodes of both. Nothing brings these two together in an in-place pass, so both may be left
with names in common. Only nodes of one class can share names that way, and none do when sets that
overlap have the same least node.

Main statements: `sameClass_of_named_inPlace`, nodes that are left with a common name are of one
class; `overlaps_analyse`, what in-place groups with a common member have in common;
`same_group_twice_inPlace`, a group that is found twice.
-/

namespace Aliasing

namespace Relation

variable {records : List Record} {x : Name} {n m : NodeId}

/-- A name that is left at a node was given to a node of the same class. -/
theorem exists_said_of_named_inPlace (h : (ofRecords records).inPlace.Named n x) :
    ∃ l, Said records x l ∧ SameClass records l n := by
  obtain ⟨⟨l, hl, hflows⟩, -⟩ := named_inPlace.1 h
  refine ⟨l, named_ofRecords.1 hl, ?_⟩
  rw [← linked_ofRecords, ← root_classes_eq_iff]
  exact root_eq_of_flows hflows fun _ hk => hk

/-- **Nodes that are left with a common name** are of one class. -/
theorem sameClass_of_named_inPlace (hn : (ofRecords records).inPlace.Named n x)
    (hm : (ofRecords records).inPlace.Named m x) : SameClass records n m := by
  obtain ⟨i, hi, hin⟩ := exists_said_of_named_inPlace hn
  obtain ⟨j, hj, hjm⟩ := exists_said_of_named_inPlace hm
  -- The name was given both nodes that it came from.
  have hij : SameClass records i j := .rel _ _ ⟨x, hi, hj⟩
  exact .trans _ _ _ (.symm _ _ hin) (.trans _ _ _ hij hjm)

/-- The groups are those of a snapshot pass if sets that overlap have the same least node. -/
theorem aliasGroups_inPlace_eq_snapshot (h : (ofRecords records).OverlapsShareLeast) :
    (ofRecords records).inPlace.aliasGroups = (ofRecords records).snapshot.aliasGroups := by
  have hanchored : (ofRecords records).Anchored := anchored_run [.extend records]
  unfold aliasGroups
  rw [namesOf_snapshot_eq_inPlace h hanchored]

end Relation

theorem Findings.groups_ofDump_inPlace (text : String) :
    (Findings.ofDump text .inPlace).groups =
      (Relation.ofRecords (Log.ofText text).records).inPlace.aliasGroups := by
  rw [← Relation.reduce_inPlace_snd]
  rfl

/-- **In-place groups with a common member** are labelled by nodes of one class, in the order of
these nodes, and there are no two of them if sets of two or more nodes that overlap have the same
least node. -/
theorem overlaps_analyse (text : String) (opts : Options) (f : Findings)
    (hhow : opts.reduction = .inPlace) (hf : (analyse text opts).value = .ok f) :
    let records := (Log.ofText text).records
    f.groups.Pairwise (fun g h => g.primary < h.primary) ∧
      (∀ g ∈ f.groups, ∀ h ∈ f.groups, ∀ x ∈ g.members, x ∈ h.members →
        SameClass records g.primary h.primary) ∧
      ((Relation.ofRecords records).OverlapsShareLeast →
        ∀ g ∈ f.groups, ∀ h ∈ f.groups, ∀ x ∈ g.members, x ∈ h.members → g = h) := by
  intro records
  have hgroups : f.groups = (Relation.ofRecords records).inPlace.aliasGroups := by
    rw [eq_ofDump_of_value_analyse hf, hhow, Findings.groups_ofDump_inPlace]
  rw [hgroups]
  refine ⟨Relation.pairwise_aliasGroups _, fun g hg h hh x hxg hxh => ?_, fun hleast => ?_⟩
  · obtain ⟨-, hgm, -⟩ := Relation.mem_aliasGroups_iff_named.1 hg
    obtain ⟨-, hhm, -⟩ := Relation.mem_aliasGroups_iff_named.1 hh
    exact Relation.sameClass_of_named_inPlace ((hgm x).2 hxg) ((hhm x).2 hxh)
  · rw [Relation.aliasGroups_inPlace_eq_snapshot hleast]
    exact fun g hg h hh x => Relation.eq_of_mem_members_snapshot hg hh

/-- Sets that overlap in their least nodes only. -/
theorem overlaps_analyse_common_least :
    let text := textOfLines ["NodeID 1 (val:@a) PointsTo: \x7b 1 3 \x7d",
      "NodeID 2 (val:@b) PointsTo: \x7b 1 2 \x7d", "NodeID 3 (val:@c) PointsTo: \x7b 5 6 \x7d",
      "NodeID 4 (val:@d) PointsTo: \x7b 6 \x7d"]
    let opts : Options := ⟨.lenient, .inPlace⟩
    let f := Findings.ofDump text opts.reduction
    let records := (Log.ofText text).records
    opts.reduction = .inPlace ∧ (analyse text opts).value = .ok f ∧
      (Relation.ofRecords records).OverlapsShareLeast ∧
      f.groups.Pairwise (fun g h => g.primary < h.primary) ∧
      (∀ g ∈ f.groups, ∀ h ∈ f.groups, ∀ x ∈ g.members, x ∈ h.members →
        SameClass records g.primary h.primary) ∧
      ∀ g ∈ f.groups, ∀ h ∈ f.groups, ∀ x ∈ g.members, x ∈ h.members → g = h := by
  intro text opts f records
  have hf : (analyse text opts).value = .ok f := by
    rw [value_analyse, if_neg (by decide)]
  have hleast : (Relation.ofRecords records).OverlapsShareLeast :=
    Relation.overlapsShareLeast_iff.2 (by decide +kernel)
  obtain ⟨hordered, hclass, hdisjoint⟩ := overlaps_analyse text opts f rfl hf
  exact ⟨rfl, hf, hleast, hordered, hclass, hdisjoint hleast⟩

/-- **A group that is found twice.** Node 3 lets both names flow to node 1 and to node 2, and both
are left with both names. -/
theorem same_group_twice_inPlace :
    let text := textOfLines ["NodeID 1 (val:@a) PointsTo: \x7b 1 3 \x7d",
      "NodeID 2 (val:@b) PointsTo: \x7b 2 3 \x7d"]
    let f := Findings.ofDump text .inPlace
    (analyse text ⟨.lenient, .inPlace⟩).value = .ok f ∧
      ∃ g ∈ f.groups, ∃ h ∈ f.groups, g ≠ h ∧ g.members = h.members ∧
        ⟨"@a"⟩ ∈ g.members ∧ ⟨"@b"⟩ ∈ g.members := by
  intro text f
  refine ⟨?_, by decide +kernel⟩
  rw [value_analyse, if_neg (by decide)]

end Aliasing
