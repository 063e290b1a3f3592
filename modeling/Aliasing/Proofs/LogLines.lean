import Aliasing.Proofs.Findings
import Aliasing.Proofs.RecordLines
/-!
# What the lines of a dump give to its log

Every line that is not blank gives the log one entry, which depends on nothing but the line and its
number. A blank line holds no record, so the records are those of all lines alike.

Main statements: `Log.records_ofText`, the records are those that the lines hold, in order;
`Log.mem_skipped_ofText` and `Log.pairwise_skipped`, the skipped lines are the others, in order;
`Log.length_records_add_length_skipped`, a line that is not blank holds a record or is skipped;
`Log.length_oversized`, the lines skipped for an id that is too large are counted one by one.
-/

namespace Aliasing

/-- Whether a line is rejected for a node id that is too large. -/
def isOversizedLine (line : List Char) : Bool :=
  match Record.ofLine line with
  | .ok _ => false
  | .error why => why.isOversizedId

/-- The lines that are read are those that are not blank. -/
theorem map_text_writtenLines (text : String) :
    (writtenLines text).map (·.text) = (lines text.toList).filter fun l => !isBlank l := by
  have hnumbers := List.filter_map (f := Prod.fst) (p := fun l => !isBlank l)
    (l := (lines text.toList).zipIdx 1)
  rw [List.zipIdx_map_fst] at hnumbers
  rw [writtenLines, List.map_map, hnumbers]
  rfl

/-! ## Blank lines -/

theorem Opening.not_isBlank {x : Name} {o : List Char} (h : Opening x o) (rest : List Char) :
    isBlank (o ++ rest) = false := by
  cases h with
  | mk =>
    rw [isBlank, List.all_eq_false]
    exact ⟨'N', by simp, by decide⟩

/-- A line that holds a record is not blank. -/
theorem Record.not_isBlank_of_ofLine {line : List Char} {rec : Record}
    (h : Record.ofLine line = .ok rec) : isBlank line = false := by
  obtain ⟨next, hdone⟩ := Record.ofLine_eq_ok_iff.1 h
  obtain ⟨w, hline, ds, htext, -⟩ := Grammar.spells_record _ _ _ hdone
  rw [Grammar.Cursor.rest_start] at hline
  cases htext with
  | mk ho =>
    rw [hline, List.append_assoc]
    exact ho.not_isBlank _

/-! ## Records -/

/-- A record has at least one node. -/
theorem Record.exists_mem_nodes_of_ofLine {line : List Char} {rec : Record}
    (h : Record.ofLine line = .ok rec) : ∃ n, n ∈ rec.nodes := by
  obtain ⟨next, hdone⟩ := Record.ofLine_eq_ok_iff.1 h
  obtain ⟨w, -, ds, htext, hsmall, hdenotes⟩ := Grammar.spells_record _ _ _ hdone
  obtain ⟨d, hd⟩ : ∃ d, d ∈ ds := by
    cases htext with
    | mk _ hl _ => cases hl with
      | @mk d => exact ⟨d, by simp⟩
  obtain ⟨n, hn⟩ := exists_denotesId (hsmall d hd)
  exact ⟨n, (hdenotes n).2 ⟨d, hd, hn⟩⟩

theorem Entry.record?_ofLine (l : NumberedLine) :
    (Entry.ofLine l).record? = (Record.ofLine l.text).toOption := by
  unfold Entry.ofLine
  cases Record.ofLine l.text <;> rfl

/-- The records of a dump are those of the lines that are not blank, in order. -/
theorem Log.records_ofText_of_written (text : String) :
    (Log.ofText text).records = ((lines text.toList).filter fun l => !isBlank l).filterMap
      fun l => (Record.ofLine l).toOption := by
  rw [← map_text_writtenLines, Log.records, Log.ofText, List.filterMap_map, List.filterMap_map]
  exact congrArg (List.filterMap · _) (funext Entry.record?_ofLine)

/-- **The records of a dump** are those of its lines, in order. -/
theorem Log.records_ofText (text : String) :
    (Log.ofText text).records =
      (lines text.toList).filterMap fun l => (Record.ofLine l).toOption := by
  rw [records_ofText_of_written, List.filterMap_filter]
  refine congrArg (List.filterMap · _) (funext fun l => ?_)
  -- A blank line is left out either way.
  cases hl : Record.ofLine l with
  | error why => cases isBlank l <;> rfl
  | ok rec => rw [Record.not_isBlank_of_ofLine hl]; rfl

/-! ## Skipped lines -/

/-- Lines are numbered by their places in the text. -/
theorem mem_writtenLines {text : String} {l : NumberedLine} :
    l ∈ writtenLines text ↔
      ∃ i, (lines text.toList)[i]? = some l.text ∧ isBlank l.text = false ∧ l.number = i + 1 := by
  obtain ⟨n, line⟩ := l
  simp only [writtenLines, List.mem_map, List.mem_filter, Prod.exists, NumberedLine.mk.injEq,
    Bool.not_eq_true']
  constructor
  · rintro ⟨line, n, ⟨hmem, hblank⟩, rfl, rfl⟩
    obtain ⟨hn, hline⟩ := List.mk_mem_zipIdx_iff_le_and_getElem?_sub.1 hmem
    exact ⟨n - 1, hline, hblank, by omega⟩
  · rintro ⟨i, hline, hblank, rfl⟩
    refine ⟨line, i + 1, ⟨List.mk_mem_zipIdx_iff_le_and_getElem?_sub.2 ⟨?_, ?_⟩, hblank⟩, rfl, rfl⟩
    · omega
    · exact hline

theorem Entry.skipped?_ofLine {l : NumberedLine} {s : Skipped} :
    (ofLine l).skipped? = some s ↔ Record.ofLine l.text = .error s.why ∧ s.line = l.number := by
  obtain ⟨n, why⟩ := s
  unfold ofLine
  cases Record.ofLine l.text <;> simp [skipped?, and_comm, eq_comm]

/-- **The skipped lines** are those that are neither blank nor hold a record. -/
theorem Log.mem_skipped_ofText {text : String} {s : Skipped} :
    s ∈ (Log.ofText text).skipped ↔ ∃ i line, (lines text.toList)[i]? = some line ∧
      isBlank line = false ∧ Record.ofLine line = .error s.why ∧ s.line = i + 1 := by
  simp only [Log.skipped, Log.ofText, List.filterMap_map, List.mem_filterMap, Function.comp_apply,
    Entry.skipped?_ofLine, mem_writtenLines]
  constructor
  · rintro ⟨l, ⟨i, hline, hblank, hi⟩, hwhy, hs⟩
    exact ⟨i, l.text, hline, hblank, hwhy, hs.trans hi⟩
  · rintro ⟨i, line, hline, hblank, hwhy, hs⟩
    exact ⟨⟨i + 1, line⟩, ⟨i, hline, hblank, rfl⟩, hwhy, hs⟩

/-- Written lines are numbered upwards. -/
theorem pairwise_writtenLines (text : String) :
    (writtenLines text).Pairwise fun l l' => l.number < l'.number := by
  unfold writtenLines
  refine List.Pairwise.map _ (fun _ _ h => h) (List.Pairwise.filter _ ?_)
  have hnumbers : (List.range' 1 (lines text.toList).length).Pairwise (· < ·) :=
    List.pairwise_lt_range'
  rw [← List.zipIdx_map_snd, List.pairwise_map] at hnumbers
  exact hnumbers

/-- Skipped lines stand in the order of the lines. -/
theorem Log.pairwise_skipped (text : String) :
    (Log.ofText text).skipped.Pairwise fun s s' => s.line < s'.line := by
  unfold Log.skipped Log.ofText
  rw [List.filterMap_map]
  exact pairwise_filterMap_of_key (pairwise_writtenLines text) fun _ _ hs =>
    (Entry.skipped?_ofLine.1 hs).2

/-! ## Counts -/

theorem length_filterMap_record?_add : ∀ es : List Entry,
    (es.filterMap Entry.record?).length + (es.filterMap Entry.skipped?).length = es.length
  | [] => rfl
  | .record r :: es => by
    have ih := length_filterMap_record?_add es
    simp only [List.filterMap_cons, Entry.record?, Entry.skipped?, List.length_cons]
    omega
  | .skipped s :: es => by
    have ih := length_filterMap_record?_add es
    simp only [List.filterMap_cons, Entry.record?, Entry.skipped?, List.length_cons]
    omega

/-- **Nothing is lost.** A line that is not blank holds a record or is skipped. -/
theorem Log.length_records_add_length_skipped (text : String) :
    (Log.ofText text).records.length + (Log.ofText text).skipped.length =
      (lines text.toList).countP fun l => !isBlank l := by
  have hlines := congrArg List.length (map_text_writtenLines text)
  rw [List.length_map] at hlines
  rw [Log.records, Log.skipped, length_filterMap_record?_add, Log.ofText, List.length_map, hlines,
    List.countP_eq_length_filter]

theorem Entry.isOversizedId_ofLine (l : NumberedLine) :
    ((Entry.ofLine l).skipped?.map (·.why.isOversizedId)).getD false = isOversizedLine l.text := by
  unfold Entry.ofLine isOversizedLine
  cases Record.ofLine l.text <;> rfl

/-- **The oversized lines** are counted among those that are not blank. -/
theorem Log.length_oversized (text : String) :
    (Log.ofText text).oversized.length =
      ((lines text.toList).filter fun l => !isBlank l).countP isOversizedLine := by
  rw [Log.oversized, ← List.countP_eq_length_filter, Log.skipped, List.countP_filterMap, Log.ofText,
    List.countP_map, ← map_text_writtenLines, List.countP_map]
  exact congrArg (List.countP · _) (funext Entry.isOversizedId_ofLine)

end Aliasing
