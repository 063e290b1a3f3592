import Aliasing.Proofs.Concatenation
/-!
# Dumps are read line by line

Whatever stands on the other lines, a line that is not blank gives its record or its fault, and
nothing of a dump is lost. So a dump can be cut behind any line feed, and its line ends can be those
of another system.

Main statements: `Log.lineByLine_ofText`, what becomes of each line; `lines_withCarriageReturns`, a
carriage return before a line feed belongs to the line end; `Log.ofText_local`, all of it together.
-/

namespace Aliasing

/-! ## Line ends -/

theorem dropCarriageReturn_append (line : List Char) :
    dropCarriageReturn (line ++ ['\r']) = line := by
  simp [dropCarriageReturn]

theorem dropCarriageReturn_of_not_mem {line : List Char} (h : '\r' ∉ line) :
    dropCarriageReturn line = line :=
  if_neg fun hlast => h (List.mem_of_getLast? hlast)

/-- A text with a carriage return before each of its line feeds. -/
def withCarriageReturns (text : List Char) : List Char :=
  text.flatMap fun c => if c = '\n' then ['\r', '\n'] else [c]

theorem withCarriageReturns_of_not_mem {text : List Char} (h : '\n' ∉ text) :
    withCarriageReturns text = text := by
  induction text with
  | nil => rfl
  | cons c text ih =>
    obtain ⟨hc, htext⟩ := not_or.1 (mt List.mem_cons.2 h)
    have ih := ih htext
    rw [withCarriageReturns] at ih
    rw [withCarriageReturns, List.flatMap_cons, ih, if_neg (Ne.symm hc)]
    rfl

theorem withCarriageReturns_append_lineFeed {line : List Char} (h : '\n' ∉ line)
    (rest : List Char) : withCarriageReturns (line ++ '\n' :: rest) =
      (line ++ ['\r']) ++ '\n' :: withCarriageReturns rest := by
  have hline := withCarriageReturns_of_not_mem h
  rw [withCarriageReturns] at hline
  rw [withCarriageReturns, List.flatMap_append, hline, List.flatMap_cons, if_pos rfl,
    List.append_assoc]
  rfl

/-- **Carriage returns before line feeds** do not change the lines. -/
theorem lines_withCarriageReturns {text : List Char} (h : '\r' ∉ text) :
    lines (withCarriageReturns text) = lines text := by
  rcases eq_append_lineFeed_or_not_mem text with ⟨line, rest, hline, rfl⟩ | hnone
  · simp only [List.mem_append, List.mem_cons, not_or] at h
    obtain ⟨hreturn, -, hrest⟩ := h
    have ih := lines_withCarriageReturns hrest
    have hfeed : '\n' ∉ line ++ ['\r'] := by simp [hline]
    rw [withCarriageReturns_append_lineFeed hline, lines_append_lineFeed hfeed,
      lines_append_lineFeed hline, dropCarriageReturn_append, dropCarriageReturn_of_not_mem hreturn,
      ih]
  · rw [withCarriageReturns_of_not_mem hnone]
termination_by text.length

/-! ## Logs -/

namespace Log

/-- **Only the lines count.** Texts with the same lines have the same log. -/
theorem ofText_congr {a b : String} (h : lines a.toList = lines b.toList) :
    ofText a = ofText b := by
  rw [ofText, ofText, writtenLines, writtenLines, h]

/-- A log says of every line that is not blank what became of it, in the order of the lines, and
nothing else. -/
structure LineByLine (log : Log) (text : String) : Prop where
  records : log.records = ((lines text.toList).filter fun l => !isBlank l).filterMap
    fun l => (Record.ofLine l).toOption
  skipped : ∀ s, s ∈ log.skipped ↔ ∃ i line, (lines text.toList)[i]? = some line ∧
    isBlank line = false ∧ Record.ofLine line = .error s.why ∧ s.line = i + 1
  ascending : log.skipped.Pairwise fun s s' => s.line < s'.line
  length : log.records.length + log.skipped.length =
    (lines text.toList).countP fun l => !isBlank l

theorem lineByLine_ofText (text : String) : (ofText text).LineByLine text where
  records := records_ofText_of_written text
  skipped _ := mem_skipped_ofText
  ascending := pairwise_skipped text
  length := length_records_add_length_skipped text

/-- **The log of a dump is that of its lines.** Each line that is not blank has one entry of its
own. A dump that is empty or ends in a line feed can stand before another one, whose lines are then
numbered on from the line feeds before them. And carriage returns before the line feeds are no part
of the lines. -/
theorem ofText_local :
    (∀ text, (ofText text).LineByLine text) ∧
    (∀ a b : String, a = "" ∨ a.toList.getLast? = some '\n' →
      (ofText (a ++ b)).records = (ofText a).records ++ (ofText b).records ∧
      (ofText (a ++ b)).skipped = (ofText a).skipped ++
        (ofText b).skipped.map fun s => { s with line := s.line + a.toList.count '\n' }) ∧
    ∀ text : String, '\r' ∉ text.toList →
      (ofText (String.ofList (withCarriageReturns text.toList))).records =
        (ofText text).records ∧
      (ofText (String.ofList (withCarriageReturns text.toList))).skipped =
        (ofText text).skipped := by
  refine ⟨lineByLine_ofText, fun a b ha => ?_, fun text htext => ?_⟩
  · rw [ofText_append ha, records_append, records_later, skipped_append, skipped_later]
    exact ⟨rfl, rfl⟩
  · have hlines : lines (String.ofList (withCarriageReturns text.toList)).toList =
        lines text.toList := by
      rw [String.toList_ofList, lines_withCarriageReturns htext]
    rw [ofText_congr hlines]
    exact ⟨rfl, rfl⟩

/-- A blank line that is counted, a fault on either side of the cut, and a record between them. -/
theorem ofText_local_of_faults :
    let a := "\u3000\nnoise\nNodeID 1 (val:@a) PointsTo: \x7b 10 20 \x7d\n"
    let b := "\nNodeID 2 (val:b) PointsTo: \x7b 20 \x7d"
    a.toList.getLast? = some '\n' ∧ '\r' ∉ (a ++ b).toList ∧
      (ofText (a ++ b)).LineByLine (a ++ b) ∧ (ofText (a ++ b)).records.length = 1 ∧
      (ofText (a ++ b)).skipped.map (·.line) = [2, 5] ∧
      (ofText (String.ofList (withCarriageReturns (a ++ b).toList))).skipped =
        (ofText (a ++ b)).skipped := by
  intro a b
  have ha : a.toList.getLast? = some '\n' := by decide +kernel
  have hreturn : '\r' ∉ (a ++ b).toList := by decide +kernel
  have hrecords : (ofText a).records.length = 1 ∧ (ofText b).records.length = 0 := by
    decide +kernel
  have hskipped : (ofText a).skipped.map (·.line) = [2] ∧
      (ofText b).skipped.map (·.line) = [2] := by
    decide +kernel
  obtain ⟨hlines, happend, hreturns⟩ := ofText_local
  obtain ⟨hrec, hskip⟩ := happend a b (Or.inr ha)
  refine ⟨ha, hreturn, hlines _, ?_, ?_, (hreturns _ hreturn).2⟩
  · rw [hrec, List.length_append, hrecords.1, hrecords.2]
  · have hlater : ((ofText b).skipped.map (·.line)).map (· + a.toList.count '\n') = [5] := by
      rw [hskipped.2]
      decide +kernel
    rw [List.map_map] at hlater
    rw [hskip, List.map_append, hskipped.1, List.map_map]
    exact congrArg (2 :: ·) hlater

end Log

end Aliasing
