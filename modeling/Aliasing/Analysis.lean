import Aliasing.Relation.Reduction
/-!
# Alias analysis of a dump

A dump is read, its records are brought together in a relation, the relation is reduced, and the
nodes that are left with two or more names give the alias groups.
-/

namespace Aliasing

/-- Counts that describe a run. -/
structure Stats where
  /-- Lines that hold a record. -/
  records : Nat
  /-- Lines that are not blank and hold none. -/
  skipped : Nat
  /-- Skipped lines that were rejected for a node id too large. -/
  oversized : Nat
  /-- Names in the records. -/
  names : Nat
  /-- Nodes in the records. -/
  nodes : Nat
  /-- Nodes left after the reduction. -/
  survivingNodes : Nat
  /-- Passes that collapsed a set. -/
  passes : Nat
  /-- Sets that were collapsed. -/
  merges : Nat
  groups : Nat
deriving DecidableEq

/-- The counts under their names. -/
def Stats.fields (s : Stats) : List (String × Nat) :=
  [("records", s.records), ("skipped", s.skipped), ("overflowed", s.oversized), ("names", s.names),
    ("nodes", s.nodes), ("surviving_nodes", s.survivingNodes), ("passes", s.passes),
    ("merges", s.merges), ("groups", s.groups)]

/-- What an analysis finds (`Output`). -/
structure Findings where
  groups : List AliasGroup
  skipped : List Skipped
  stats : Stats
deriving DecidableEq

namespace Findings

def toJson (f : Findings) : Json :=
  .object [("groups", .array (f.groups.map AliasGroup.toJson)),
    ("stats", .object (f.stats.fields.map fun e => (e.1, .number e.2)))]

def text (f : Findings) : String := String.join (f.groups.map fun g => g.text ++ "\n")

end Findings

/-- A strict check found lines that hold no record. -/
structure MalformedLines where
  skipped : List Skipped
deriving DecidableEq

def MalformedLines.message (e : MalformedLines) : String :=
  "found " ++ e.skipped.length.repr ++ " malformed line(s)"

/-- Whether a run tells that it leaves a line out: always if its node id was too large, since that
is data that the dump does hold, and otherwise unless the check is lenient. -/
def Check.announces (c : Check) (s : Skipped) : Bool := s.why.isOversizedId || c != .lenient

/-- The findings about a relation, given what was read and what the reduction did. -/
def Findings.of (log : Log) (before : Relation) (done : Reduced) (after : Relation) : Findings where
  groups := after.aliasGroups
  skipped := log.skipped
  stats := {
    records := log.records.length
    skipped := log.skipped.length
    oversized := log.oversized.length
    names := before.nodesOf.size
    nodes := before.namesOf.size
    survivingNodes := after.namesOf.size
    passes := done.passes
    merges := done.merges
    groups := after.aliasGroups.length }

/-- Analyses a dump (`analysis`). Under a strict check any skipped line is a failure. -/
def analyse (text : String) (opts : Options) : Traced (Except MalformedLines Findings) :=
  Traced.within .analysis do
    let log ← Log.read text
    Traced.tell ((log.skipped.filter opts.check.announces).map .leftOut)
    if opts.check = .strict ∧ log.skipped ≠ [] then
      return .error ⟨log.skipped⟩
    else
      let before := Relation.ofRecords log.records
      let (done, after) ← before.reduce opts.reduction
      let findings := Findings.of log before done after
      let stats := findings.stats
      Traced.tell [.reduced stats.records stats.skipped stats.passes stats.groups opts.reduction]
      return .ok findings

end Aliasing
