import Aliasing.Proofs.Incremental
import Aliasing.Proofs.LogLines
/-!
# The order of the lines

The records of a dump are those that its lines hold, and a relation has the same facts in whatever
order they were inserted. So an analysis finds the same when lines change places, and lines that
hold no record have no say in it, whether the reduction goes from name to name or not: the names are
visited in their own order.

Main statements: `Log.records_textOfLines`; `agreeOnRecords_ofDump`, records in another order lead
to the same groups and counts; `analyse_perm_lines`.
-/

namespace Aliasing

def holdsRecord (line : String) : Bool := (Record.ofLine line.toList).isOk

/-- Findings agree in the groups and in all counts but those of the skipped lines. -/
structure Findings.AgreeOnRecords (f g : Findings) : Prop where
  groups : f.groups = g.groups
  records : f.stats.records = g.stats.records
  names : f.stats.names = g.stats.names
  nodes : f.stats.nodes = g.stats.nodes
  survivingNodes : f.stats.survivingNodes = g.stats.survivingNodes
  passes : f.stats.passes = g.stats.passes
  merges : f.stats.merges = g.stats.merges
  groupCount : f.stats.groups = g.stats.groups

/-- The records of written lines are those of the lines that hold one. -/
theorem Log.records_textOfLines {ls : List String}
    (h : ∀ l ∈ ls, '\n' ∉ l.toList ∧ l.toList.getLast? ≠ some '\r') :
    (Log.ofText (textOfLines ls)).records =
      (ls.filter holdsRecord).filterMap fun l => (Record.ofLine l.toList).toOption := by
  rw [Log.records_ofText, lines_textOfLines h, List.filterMap_map, List.filterMap_filter]
  refine congrArg (List.filterMap · ls) (funext fun l => ?_)
  rw [Function.comp_apply, holdsRecord]
  cases Record.ofLine l.toList <;> rfl

/-- **Records in another order** lead to the same groups and counts. -/
theorem agreeOnRecords_ofDump {s t : String} (how : Reduction)
    (h : (Log.ofText s).records.Perm (Log.ofText t).records) :
    (Findings.ofDump s how).AgreeOnRecords (Findings.ofDump t how) := by
  have hrelation := Relation.ofRecords_perm h
  constructor <;> simp only [Findings.ofDump, Findings.of, hrelation, h.length_eq]

/-- **The order of the lines does not matter**, nor do blank lines and lines that hold no record,
wherever they stand. Unless the check is strict, dumps whose lines with a record are the same up to
their order lead to the same groups and counts. -/
theorem analyse_perm_lines (ls ms : List String) (how : Reduction) (c d : Check)
    (hls : ∀ l ∈ ls, '\n' ∉ l.toList ∧ l.toList.getLast? ≠ some '\r')
    (hms : ∀ l ∈ ms, '\n' ∉ l.toList ∧ l.toList.getLast? ≠ some '\r')
    (hperm : (ls.filter holdsRecord).Perm (ms.filter holdsRecord))
    (hc : c ≠ .strict) (hd : d ≠ .strict) :
    ∃ f g, (analyse (textOfLines ls) ⟨c, how⟩).value = .ok f ∧
      (analyse (textOfLines ms) ⟨d, how⟩).value = .ok g ∧ f.AgreeOnRecords g := by
  have hrecords : (Log.ofText (textOfLines ls)).records.Perm
      (Log.ofText (textOfLines ms)).records := by
    rw [Log.records_textOfLines hls, Log.records_textOfLines hms]
    exact hperm.filterMap _
  refine ⟨_, _, ?_, ?_, agreeOnRecords_ofDump how hrecords⟩
  · rw [value_analyse, if_neg fun h => hc h.1]
  · rw [value_analyse, if_neg fun h => hd h.1]

/-- The lines of a dump in reverse, with other lines in between, for the reduction that goes from
name to name. -/
theorem analyse_perm_lines_reversed :
    let a := "NodeID 1 (val:@a) PointsTo: \x7b 1 5 \x7d"
    let b := "NodeID 2 (val:@b) PointsTo: \x7b 5 6 \x7d"
    let c := "NodeID 3 (val:@c) PointsTo: \x7b 6 \x7d"
    let ls := [a, "", b, "garbage", c]
    let ms := [c, "NodeID 4 (val:@d) PointsTo: \x7b 7", b, " ", a]
    (∀ l ∈ ls, '\n' ∉ l.toList ∧ l.toList.getLast? ≠ some '\r') ∧
      (∀ l ∈ ms, '\n' ∉ l.toList ∧ l.toList.getLast? ≠ some '\r') ∧
      (ls.filter holdsRecord).Perm (ms.filter holdsRecord) ∧
      ∃ f g, (analyse (textOfLines ls) ⟨.lenient, .inPlace⟩).value = .ok f ∧
        (analyse (textOfLines ms) ⟨.report, .inPlace⟩).value = .ok g ∧ f.AgreeOnRecords g := by
  intro a b c ls ms
  have hls : ∀ l ∈ ls, '\n' ∉ l.toList ∧ l.toList.getLast? ≠ some '\r' := by decide
  have hms : ∀ l ∈ ms, '\n' ∉ l.toList ∧ l.toList.getLast? ≠ some '\r' := by decide
  have hperm : (ls.filter holdsRecord).Perm (ms.filter holdsRecord) := by decide +kernel
  exact ⟨hls, hms, hperm, analyse_perm_lines ls ms .inPlace .lenient .report hls hms hperm
    (by decide) (by decide)⟩

end Aliasing
