import Aliasing.Proofs.LogLines
/-!
# Lines with an id that is too large

An id that is too large is reported as soon as it has been read, and nothing behind it is looked at.
So the lines that count as oversized are those whose beginning leads up to such an id. All lines
with no other fault are among them, and so are lines with a second fault further on.

Main statements: `isOversizedLine_iff`; `leadsToOversized_of_hasShape`, a line whose only fault is
the size of its ids leads up to one that is too large; `oversized_analyse`, what the count of an
analysis says; `oversized_unclosed_line`, it says no more than that.
-/

namespace Aliasing

open Grammar Grammar.Matcher

variable {line : List Char}

/-- A line begins like a record whose ids may be of any size. -/
def HasShape (line : List Char) : Prop := ∃ x ds w, RecordText x ds w ∧ w <+: line

/-- A line begins like a record up to an id that is too large, the first one that is. -/
def LeadsToOversized (line : List Char) : Prop :=
  ∃ x o text digits, line = o ++ text ∧ Opening x o ∧ OversizedIn text digits

theorem isOversizedLine_eq_true_iff_ofLine :
    isOversizedLine line = true ↔ ∃ digits, Record.ofLine line = .error (.oversizedId digits) := by
  unfold isOversizedLine
  cases Record.ofLine line with
  | ok rec => simp
  | error why => cases why <;> simp [Rejection.isOversizedId]

/-- **A line counts as oversized** when it leads up to an id that is too large. -/
theorem isOversizedLine_iff : isOversizedLine line = true ↔ LeadsToOversized line := by
  rw [isOversizedLine_eq_true_iff_ofLine]
  simp only [Record.ofLine_eq_error_iff]
  constructor
  · rintro ⟨digits, hfailed⟩
    obtain ⟨x, o, text, hline, ho, htext⟩ := blames_record _ _ hfailed digits rfl
    exact ⟨x, o, text, digits, hline, ho, htext⟩
  · rintro ⟨x, o, text, digits, rfl, ho, htext⟩
    exact ⟨digits, refuses_record ho htext _ rfl⟩

/-- **A line whose only fault is the size of its ids** leads up to the first that is too large. -/
theorem leadsToOversized_of_hasShape (hshape : HasShape line)
    (hrejected : ∀ rec, Record.ofLine line ≠ .ok rec) : LeadsToOversized line := by
  obtain ⟨x, ds, w, htext, rest, rfl⟩ := hshape
  have hlarge : ¬ ∀ d ∈ ds, decimal d < UInt64.size := by
    intro hsmall
    obtain ⟨ns, -, hread⟩ := reads_record htext hsmall rest
    obtain ⟨next, hdone, -⟩ := hread (.start (w ++ rest)) rfl
    exact hrejected _ (Record.ofLine_eq_ok_iff.2 ⟨next, hdone⟩)
  obtain ⟨earlier, d, later, rfl, hsmall, hd⟩ := exists_first_oversized hlarge
  cases htext with
  | @mk o l s ho hl hs =>
  have hfirst := oversizedIn_of_ids hl hsmall hd (endsIds_brace hs rest).stops_digit
  exact ⟨x, o, l ++ (s ++ ("\x7d".toList ++ rest)), String.ofList d, by simp, ho, hfirst⟩

/-- **The count of oversized lines.** An analysis counts the lines that lead up to an id that is too
large, and among them all that are rejected and have no other fault. -/
theorem oversized_analyse (text : String) (opts : Options) (f : Findings)
    (h : (analyse text opts).value = .ok f) :
    f.stats.oversized = ((lines text.toList).filter fun l => !isBlank l).countP isOversizedLine ∧
      (∀ line, isOversizedLine line = true ↔ LeadsToOversized line) ∧
      ∀ line, HasShape line → (∀ rec, Record.ofLine line ≠ .ok rec) →
        isOversizedLine line = true := by
  rw [eq_ofDump_of_value_analyse h]
  exact ⟨Log.length_oversized text, fun _ => isOversizedLine_iff, fun _ hshape hrejected =>
    isOversizedLine_iff.2 (leadsToOversized_of_hasShape hshape hrejected)⟩

/-- A dump with one line that is oversized and one that is broken in another way. -/
theorem oversized_analyse_two_skipped :
    let text := "NodeID 1 (val:@a) PointsTo: \x7b 1 18446744073709551616 \x7d\nNodeID 2 (val:@b\n"
    let opts : Options := ⟨.report, .snapshot⟩
    let f := Findings.ofDump text opts.reduction
    (analyse text opts).value = .ok f ∧ f.stats.oversized = 1 ∧
      f.stats.oversized = ((lines text.toList).filter fun l => !isBlank l).countP isOversizedLine ∧
      (∀ line, isOversizedLine line = true ↔ LeadsToOversized line) ∧
      ∀ line, HasShape line → (∀ rec, Record.ofLine line ≠ .ok rec) →
        isOversizedLine line = true := by
  intro text opts f
  have hf : (analyse text opts).value = .ok f := by
    rw [value_analyse, if_neg (by decide)]
  exact ⟨hf, by decide +kernel, oversized_analyse text opts f hf⟩

/-- A line without a closing brace is counted for its id all the same: the size of the id is not its
only fault. -/
theorem oversized_unclosed_line :
    let line := "NodeID 1 (val:@a) PointsTo: \x7b 18446744073709551616".toList
    let text := String.ofList (line ++ ['\n'])
    let f := Findings.ofDump text .snapshot
    (analyse text ⟨.lenient, .snapshot⟩).value = .ok f ∧ lines text.toList = [line] ∧
      isBlank line = false ∧ (∀ rec, Record.ofLine line ≠ .ok rec) ∧ f.stats.oversized = 1 ∧
      ¬ HasShape line := by
  intro line text f
  refine ⟨?_, by decide +kernel, by decide, fun rec hok => ?_, by decide +kernel, ?_⟩
  · rw [value_analyse, if_neg (by decide)]
  · have hoversized : isOversizedLine line = true := by decide +kernel
    rw [isOversizedLine, hok] at hoversized
    cases hoversized
  · rintro ⟨x, ds, w, htext, hw⟩
    have hbrace : '\x7d' ∈ w := by
      cases htext with
      | mk => simp
    exact absurd (hw.subset hbrace) (by decide)

end Aliasing
