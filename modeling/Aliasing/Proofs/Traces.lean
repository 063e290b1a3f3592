import Mathlib.Algebra.Ring.Nat
import Aliasing.Proofs.Agreement
import Aliasing.Proofs.LogLines
import Aliasing.Proofs.Nesting
/-!
# What a trace tells

Who listens to a run gets words: the labels of spans, and the level, message and fields of every
notice. They tell of the skipped lines, of each pass and of the findings, and agree with what the
run returns.

Main statements: `signals_reduce`, the trace of a reduction is that of its passes with a closing
pass after them; `passesFit_ofDump`, the passes that are told of add up to the counts;
`trace_analyse`.
-/

namespace Aliasing

/-! ## Signals -/

/-- What is heard of an event. -/
inductive Signal where
  | enter (span : String)
  | exit (span : String)
  | notice (level message : String) (fields : List (String × FieldValue))
deriving DecidableEq

def Event.signal : Event → Signal
  | enter s => .enter s.label
  | exit s => .exit s.label
  | notice n => .notice n.level.label n.message n.fields

def Skipped.signal (level message : String) (s : Skipped) : Signal :=
  .notice level message [("line", .number s.line), ("error", .text s.why.message)]

def collapsingSignal (e : Name × NodeId) : Signal :=
  .notice "DEBUG" "collapsing points-to set" [("name", .text e.1.text), ("primary", .text e.2.text)]

def Stats.signal (how : Reduction) (s : Stats) : Signal :=
  .notice "INFO" "coalesced points-to sets"
    [("records", .number s.records), ("skipped", .number s.skipped), ("passes", .number s.passes),
      ("groups", .number s.groups), ("reduction", .text how.label)]

namespace Event

@[simp] theorem signal_enter (s : Span) : (enter s).signal = .enter s.label := rfl

@[simp] theorem signal_exit (s : Span) : (exit s).signal = .exit s.label := rfl

@[simp] theorem signal_malformed (s : Skipped) :
    (notice (.malformed s)).signal = s.signal "DEBUG" "skipping line" := rfl

@[simp] theorem signal_leftOut (s : Skipped) :
    (notice (.leftOut s)).signal = s.signal "WARN" "skipped line" := rfl

@[simp] theorem signal_collapsing (x : Name) (n : NodeId) :
    (notice (.collapsing x n)).signal = collapsingSignal (x, n) := rfl

@[simp] theorem signal_passDone (pass merges nodes : Nat) :
    (notice (.passDone pass merges nodes)).signal = .notice "DEBUG" "reduction pass"
      [("pass", .number pass), ("merges", .number merges), ("nodes", .number nodes)] := rfl

@[simp] theorem signal_reduced (how : Reduction) (s : Stats) :
    (notice (.reduced s.records s.skipped s.passes s.groups how)).signal = s.signal how := rfl

end Event

/-! ## Passes that are told of -/

def Reduction.passLabel : Reduction → String
  | snapshot => "snapshot_pass"
  | inPlace => "in_place_pass"

/-- What is told of a pass that collapses sets. -/
structure PassReport where
  /-- The sets that are named, by their names and primary nodes. -/
  named : List (Name × NodeId)
  merges : Nat
  nodes : Nat

def PassReport.signals (how : Reduction) (p : PassReport) (number : Nat) : List Signal :=
  .enter how.passLabel :: p.named.map collapsingSignal ++
    [.exit how.passLabel,
      .notice "DEBUG" "reduction pass"
        [("pass", .number number), ("merges", .number p.merges), ("nodes", .number p.nodes)]]

/-- What is heard of a reduction: its passes, numbered from 1, and a closing pass without events. -/
def reductionSignals (how : Reduction) (passes : List PassReport) : List Signal :=
  .enter "reduce" :: (passes.zipIdx 1).flatMap (fun e => e.1.signals how e.2) ++
    [.enter how.passLabel, .exit how.passLabel, .exit "reduce"]

/-- The reports of passes over a relation of records fit the counts of the run. -/
structure PassesFit (records : List Record) (how : Reduction) (stats : Stats)
    (passes : List PassReport) : Prop where
  length : passes.length = stats.passes
  merges : (passes.map (·.merges)).sum = stats.merges
  /-- The last pass reports the nodes that are left in the end. -/
  nodes : ∀ p ∈ passes.getLast?, p.nodes = stats.survivingNodes
  /-- A snapshot pass names no set. -/
  snapshot : how = .snapshot → ∀ p ∈ passes, p.named = []
  /-- In-place passes name as many sets as they collapse. -/
  inPlace : how = .inPlace → (passes.map (·.named.length)).sum = stats.merges
  ascending : ∀ p ∈ passes, p.named.Pairwise fun e e' => compare e.1 e'.1 = .lt
  /-- A set is named with the least of the nodes that its name was given, of which there are
  more. -/
  least : ∀ p ∈ passes, ∀ e ∈ p.named,
    IsLeast {n | Said records e.1 n} e.2 ∧ ∃ n, Said records e.1 n ∧ n ≠ e.2

/-! ## Passes -/

namespace Relation

variable {r : Relation}

/-- The sets that a pass names while it collapses them. -/
def namedBy (how : Reduction) (r : Relation) : List (Name × NodeId) :=
  match how with
  | .snapshot => []
  | .inPlace => r.collapses.map fun k => (k.name, k.primary)

def passReport (how : Reduction) (r : Relation) : PassReport where
  named := r.namedBy how
  merges := r.collapses.length
  nodes := (r.pass how).value.namesOf.size

/-- The reports of the passes that collapse sets: one, if there is a set to collapse. -/
def passReports (how : Reduction) (r : Relation) : List PassReport :=
  if r.collapses = [] then [] else [r.passReport how]

/-- **The trace of a pass** names its sets and nothing else. -/
theorem signals_pass (how : Reduction) (r : Relation) :
    (r.pass how).events.map Event.signal =
      .enter how.passLabel :: (r.namedBy how).map collapsingSignal ++ [.exit how.passLabel] := by
  cases how with
  | snapshot => rfl
  | inPlace =>
    simp [pass, namedBy, Function.comp_def, Span.label, Reduction.passLabel]

/-- A pass with nothing to collapse tells of nothing. -/
theorem signals_pass_of_collapses_eq_nil (how : Reduction) (h : r.collapses = []) :
    (r.pass how).events.map Event.signal = [.enter how.passLabel, .exit how.passLabel] := by
  have hnamed : r.namedBy how = [] := by cases how <;> simp [namedBy, h]
  rw [signals_pass, hnamed]
  rfl

/-- Passes after those that were done before: one that collapses sets and a closing pass, or the
closing pass alone. -/
theorem events_reduceFrom (how : Reduction) (sofar : Reduced) (r : Relation) :
    (r.reduceFrom how sofar).events =
      if r.collapses = [] then (r.pass how).events
      else
        (r.pass how).events ++
          [.notice (.passDone (sofar.passes + 1) r.collapses.length
            (r.pass how).value.namesOf.size)] ++
          ((r.pass how).value.pass how).events := by
  rw [reduceFrom_eq]
  split
  · rw [Traced.events_map]
  · rw [Traced.events_seqRight, Traced.events_seqRight, Traced.events_map]
    rfl

/-- **The trace of a reduction** is that of its passes, and of a closing pass after them. -/
theorem signals_reduce (how : Reduction) (r : Relation) :
    (r.reduce how).events.map Event.signal = reductionSignals how (r.passReports how) := by
  rw [reduce, Traced.events_within, events_reduceFrom, passReports]
  by_cases h : r.collapses = []
  · rw [if_pos h, if_pos h]
    simp [signals_pass_of_collapses_eq_nil how h, reductionSignals, Span.label]
  · have hnext := signals_pass_of_collapses_eq_nil how (collapses_pass how r)
    rw [if_neg h, if_neg h]
    simp [signals_pass, hnext, reductionSignals, PassReport.signals, passReport, Span.label]

theorem pairwise_namedBy (how : Reduction) (r : Relation) :
    (r.namedBy how).Pairwise fun e e' => compare e.1 e'.1 = .lt := by
  cases how with
  | snapshot => exact List.Pairwise.nil
  | inPlace => exact List.pairwise_map.2 r.pairwise_collapses

/-- A set is named with its least node, and has another one. -/
theorem isLeast_of_mem_namedBy {records : List Record} {how : Reduction} {e : Name × NodeId}
    (he : e ∈ (ofRecords records).namedBy how) :
    IsLeast {n | Said records e.1 n} e.2 ∧ ∃ n, Said records e.1 n ∧ n ≠ e.2 := by
  cases how with
  | snapshot => cases he
  | inPlace =>
    obtain ⟨k, hk, rfl⟩ := List.mem_map.1 he
    have hsaid : ∀ n, Said records k.name n ↔ n ∈ k.nodes := fun n => by
      rw [← pointsTo_ofRecords, pointsTo_iff_mem_nodes hk]
    obtain ⟨m, hm⟩ := List.exists_mem_of_ne_nil _ (others_ne_nil hk)
    refine ⟨by simpa only [hsaid] using isLeast_primary hk, m, ?_, ?_⟩
    · exact (hsaid m).2 (List.mem_cons_of_mem _ hm)
    · rintro rfl
      exact Nat.lt_irrefl _ (primary_lt hk hm)

theorem mem_passReports {how : Reduction} {p : PassReport} (h : p ∈ r.passReports how) :
    p = r.passReport how := by
  unfold passReports at h
  split at h
  · cases h
  · exact List.mem_singleton.1 h

end Relation

/-- **The passes that are told of** add up to the counts of the run. -/
theorem passesFit_ofDump (text : String) (how : Reduction) :
    PassesFit (Log.ofText text).records how (Findings.ofDump text how).stats
      ((Relation.ofRecords (Log.ofText text).records).passReports how) := by
  obtain ⟨hpasses, hmerges, hnodes⟩ := Findings.counts_ofDump text how
  exact {
    length := by
      rw [hpasses, Relation.passReports]
      split <;> rfl
    merges := by
      rw [hmerges, Relation.passReports]
      split <;> simp [*, Relation.passReport]
    nodes := fun p hp => by
      rw [Relation.mem_passReports (List.mem_of_mem_getLast? hp), hnodes]
      rfl
    snapshot := fun hhow p hp => by
      rw [Relation.mem_passReports hp, hhow]
      rfl
    inPlace := fun hhow => by
      rw [hmerges, hhow, Relation.passReports]
      split <;> simp [*, Relation.passReport, Relation.namedBy]
    ascending := fun p hp => by
      rw [Relation.mem_passReports hp]
      exact Relation.pairwise_namedBy how _
    least := fun p hp e he => by
      rw [Relation.mem_passReports hp] at he
      exact Relation.isLeast_of_mem_namedBy he }

/-! ## Runs -/

/-- What is heard while a dump is read. -/
theorem Log.signals_read (text : String) :
    (Log.read text).events.map Event.signal =
      .enter "parse_log" ::
        (Log.ofText text).skipped.map (Skipped.signal "DEBUG" "skipping line") ++
        [.exit "parse_log"] := by
  simp [Log.read, Function.comp_def, Span.label]

/-- What happens in an analysis: first the dump is read, and then lines are told of that the result
leaves out. That is all if the run fails; else the reduction follows, and a notice of the
findings. -/
theorem events_analyse (text : String) (opts : Options) :
    let log := Log.ofText text
    (analyse text opts).events =
      .enter .analysis :: ((Log.read text).events ++
        ((log.skipped.filter opts.check.announces).map fun s => .notice (.leftOut s)) ++
        match (analyse text opts).value with
        | .error _ => []
        | .ok f =>
          ((Relation.ofRecords log.records).reduce opts.reduction).events ++
            [.notice (.reduced f.stats.records f.stats.skipped f.stats.passes f.stats.groups
              opts.reduction)]) ++ [.exit .analysis] := by
  intro log
  rw [value_analyse]
  unfold analyse
  by_cases hstrict : opts.check = .strict ∧ log.skipped ≠ []
  · rw [if_pos hstrict]
    simp [hstrict, log]
  · rw [if_neg hstrict]
    simp [hstrict, log, Findings.ofDump]

/-- What is heard of an analysis, in order. -/
theorem signals_analyse (text : String) (opts : Options) :
    let log := Log.ofText text
    (analyse text opts).events.map Event.signal =
      [.enter "analysis", .enter "parse_log"] ++
        log.skipped.map (Skipped.signal "DEBUG" "skipping line") ++ [.exit "parse_log"] ++
        (log.skipped.filter opts.check.announces).map (Skipped.signal "WARN" "skipped line") ++
        (match (analyse text opts).value with
          | .error _ => []
          | .ok f =>
            reductionSignals opts.reduction
              ((Relation.ofRecords log.records).passReports opts.reduction) ++
              [f.stats.signal opts.reduction]) ++ [.exit "analysis"] := by
  intro log
  rw [events_analyse]
  cases (analyse text opts).value with
  | error e =>
    simp [Log.signals_read, Function.comp_def, Span.label, log]
  | ok f =>
    simp [Log.signals_read, Relation.signals_reduce, Function.comp_def, Span.label, log]

/-- **The trace of an analysis** is well nested and agrees with what the run returns. It tells of
the skipped lines while they are read, and of those that the result leaves out; then it ends, if the
run fails, and else it tells of the passes, which fit the counts, and of the findings. -/
theorem trace_analyse (text : String) (opts : Options) :
    let log := Log.ofText text
    openAfter [] (analyse text opts).events = some [] ∧
      log.skipped.Pairwise (fun s s' => s.line < s'.line) ∧
      ∃ rest, (analyse text opts).events.map Event.signal =
          [.enter "analysis", .enter "parse_log"] ++
            log.skipped.map (Skipped.signal "DEBUG" "skipping line") ++ [.exit "parse_log"] ++
            (log.skipped.filter fun s => s.why.isOversizedId || opts.check != .lenient).map
              (Skipped.signal "WARN" "skipped line") ++
            rest ++ [.exit "analysis"] ∧
        match (analyse text opts).value with
        | .error e =>
          opts.check = .strict ∧ log.skipped ≠ [] ∧ e.skipped = log.skipped ∧ rest = []
        | .ok f =>
          f.skipped = log.skipped ∧
            ∃ passes, PassesFit log.records opts.reduction f.stats passes ∧
              rest = reductionSignals opts.reduction passes ++
                [f.stats.signal opts.reduction] := by
  intro log
  refine ⟨balanced_analyse text opts [], Log.pairwise_skipped text, ?_⟩
  refine ⟨_, signals_analyse text opts, ?_⟩
  cases hvalue : (analyse text opts).value with
  | error e =>
    rw [value_analyse] at hvalue
    split at hvalue
    · rename_i hstrict
      cases hvalue
      exact ⟨hstrict.1, hstrict.2, rfl, rfl⟩
    · cases hvalue
  | ok f =>
    rw [eq_ofDump_of_value_analyse hvalue]
    exact ⟨rfl, _, passesFit_ofDump text opts.reduction, rfl⟩

/-- Two sets are merged in place, and a line is left out for its id. -/
example :
    let text := textOfLines ["NodeID 1 (val:@b) PointsTo: \x7b 7 9 \x7d",
      "NodeID 2 (val:@a) PointsTo: \x7b 9 8 \x7d",
      "NodeID 3 (val:@c) PointsTo: \x7b 18446744073709551616 \x7d"]
    let large := "node id 18446744073709551616 does not fit in 64 bits"
    (analyse text ⟨.lenient, .inPlace⟩).events.map Event.signal =
      [.enter "analysis", .enter "parse_log",
        .notice "DEBUG" "skipping line" [("line", .number 3), ("error", .text large)],
        .exit "parse_log",
        .notice "WARN" "skipped line" [("line", .number 3), ("error", .text large)],
        .enter "reduce", .enter "in_place_pass",
        .notice "DEBUG" "collapsing points-to set" [("name", .text "@a"), ("primary", .text "8")],
        .notice "DEBUG" "collapsing points-to set" [("name", .text "@b"), ("primary", .text "7")],
        .exit "in_place_pass",
        .notice "DEBUG" "reduction pass"
          [("pass", .number 1), ("merges", .number 2), ("nodes", .number 2)],
        .enter "in_place_pass", .exit "in_place_pass", .exit "reduce",
        .notice "INFO" "coalesced points-to sets"
          [("records", .number 2), ("skipped", .number 1), ("passes", .number 1),
            ("groups", .number 2), ("reduction", .text "in-place")],
        .exit "analysis"] := by
  decide +kernel

end Aliasing
