import Aliasing.Analysis
import Aliasing.Proofs.Names
import Aliasing.Proofs.Passes
/-!
# What an analysis finds

The findings without the events on the way to them, and where the names in the groups come from:
neither an insertion nor a pass makes a name, so each of them was read from some line.

Main statements: `value_analyse`, the check decides whether there are findings and the reduction
decides which; `wellFormed_of_mem_members`, the members of every group are well formed.
-/

namespace Aliasing

/-! ## Records -/

theorem Record.ofLine_eq_ok_iff {line : List Char} {rec : Record} :
    Record.ofLine line = .ok rec ↔ ∃ next, Grammar.record (.start line) = .done rec next :=
  Grammar.Reply.map_fst_toExcept_eq_ok_iff

theorem Record.ofLine_eq_error_iff {line : List Char} {why : Grammar.Rejection} :
    Record.ofLine line = .error why ↔ Grammar.record (.start line) = .failed why :=
  Grammar.Reply.map_fst_toExcept_eq_error_iff

/-- The records of a dump are those of its lines. -/
theorem Log.mem_records_iff {text : String} {rec : Record} :
    rec ∈ (Log.ofText text).records ↔ ∃ l ∈ writtenLines text, Record.ofLine l.text = .ok rec := by
  unfold Log.records Log.ofText
  rw [List.mem_filterMap]
  constructor
  · rintro ⟨e, he, hrec⟩
    obtain ⟨l, hl, rfl⟩ := List.mem_map.1 he
    refine ⟨l, hl, ?_⟩
    unfold Entry.ofLine at hrec
    split at hrec
    · rename_i hok
      rw [hok, Option.some.inj hrec]
    · cases hrec
  · rintro ⟨l, hl, hok⟩
    refine ⟨Entry.ofLine l, List.mem_map_of_mem hl, ?_⟩
    rw [Entry.ofLine, hok]
    rfl

theorem wellFormed_of_mem_records {text : String} {rec : Record}
    (h : rec ∈ (Log.ofText text).records) : rec.name.WellFormed := by
  obtain ⟨l, -, hok⟩ := Log.mem_records_iff.1 h
  obtain ⟨next, hdone⟩ := Record.ofLine_eq_ok_iff.1 hok
  obtain ⟨_, -, hname⟩ := Grammar.spells_record_name _ _ _ hdone
  exact hname

/-! ## Findings -/

/-- The findings about a dump, whatever the check. -/
def Findings.ofDump (text : String) (how : Reduction) : Findings :=
  let log := Log.ofText text
  let before := Relation.ofRecords log.records
  Findings.of log before (before.reduce how).value.1 (before.reduce how).value.2

/-- The counts of a reduction are those of one pass. -/
theorem Findings.counts_ofDump (text : String) (how : Reduction) :
    let r := Relation.ofRecords (Log.ofText text).records
    let s := (Findings.ofDump text how).stats
    s.passes = (if r.collapses = [] then 0 else 1) ∧ s.merges = r.collapses.length ∧
      s.survivingNodes = (r.pass how).value.namesOf.size := by
  simp only [Findings.ofDump, Findings.of, Relation.value_reduce, and_self]

/-- **The outcome of an analysis.** Only a strict check stands between a dump and its findings. -/
theorem value_analyse (text : String) (opts : Options) :
    (analyse text opts).value =
      if opts.check = .strict ∧ (Log.ofText text).skipped ≠ [] then
        .error ⟨(Log.ofText text).skipped⟩
      else .ok (Findings.ofDump text opts.reduction) := by
  unfold analyse
  show Traced.value (if opts.check = .strict ∧ (Log.ofText text).skipped ≠ [] then _ else _) = _
  by_cases hstrict : opts.check = .strict ∧ (Log.ofText text).skipped ≠ []
  · rw [if_pos hstrict, if_pos hstrict]
    rfl
  · rw [if_neg hstrict, if_neg hstrict]
    rfl

theorem eq_ofDump_of_value_analyse {text : String} {opts : Options} {f : Findings}
    (h : (analyse text opts).value = .ok f) : f = Findings.ofDump text opts.reduction := by
  rw [value_analyse] at h
  split at h
  · cases h
  · exact (Except.ok.inj h).symm

/-! ## The names in the groups -/

/-- Every member of a group is the name of some record. -/
theorem exists_record_of_mem_members {text : String} {how : Reduction} {g : AliasGroup} {x : Name}
    (hg : g ∈ (Findings.ofDump text how).groups) (hx : x ∈ g.members) :
    ∃ rec ∈ (Log.ofText text).records, rec.name = x := by
  obtain ⟨-, hnamed, -⟩ := Relation.mem_aliasGroups_iff_named.1 hg
  have hafter := (hnamed x).2 hx
  rw [Relation.value_reduce] at hafter
  obtain ⟨m, hbefore⟩ := Relation.exists_named_of_named_pass hafter
  obtain ⟨rec, hrec, hname, -⟩ := Relation.named_ofRecords.1 hbefore
  exact ⟨rec, hrec, hname⟩

theorem wellFormed_of_mem_members {text : String} {how : Reduction} {g : AliasGroup} {x : Name}
    (hg : g ∈ (Findings.ofDump text how).groups) (hx : x ∈ g.members) : x.WellFormed := by
  obtain ⟨rec, hrec, rfl⟩ := exists_record_of_mem_members hg hx
  exact wellFormed_of_mem_records hrec

end Aliasing
