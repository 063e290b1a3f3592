import Aliasing.Proofs.LogLines
/-!
# Dumps one behind the other

A line feed ends its line for good: what stands behind it makes lines of its own, and they are
numbered on from the line feeds before them. So a dump that ends in a line feed, with another dump
behind it, has the log of the one and then the log of the other, further down.

Main statements: `lines_append_cons`, the lines on either side of a line feed;
`Log.ofText_append`, the log of two dumps is put together like their lines.
-/

namespace Aliasing

/-! ## Lines -/

/-- **The lines on either side of a line feed** are those of the two sides. -/
theorem lines_append_cons (a b : List Char) :
    lines (a ++ '\n' :: b) = lines (a ++ ['\n']) ++ lines b := by
  rcases eq_append_lineFeed_or_not_mem a with ⟨line, rest, hline, rfl⟩ | h
  · have ih := lines_append_cons rest b
    rw [List.append_assoc, List.cons_append, lines_append_lineFeed hline, ih, List.append_assoc,
      List.cons_append, lines_append_lineFeed hline]
    rfl
  · rw [lines_append_lineFeed h, lines_append_lineFeed h, lines_nil]
    rfl
termination_by a.length

/-- A text that ends in a line feed has as many lines as line feeds. -/
theorem length_lines_append_lineFeed (a : List Char) :
    (lines (a ++ ['\n'])).length = a.count '\n' + 1 := by
  rcases eq_append_lineFeed_or_not_mem a with ⟨line, rest, hline, rfl⟩ | h
  · have ih := length_lines_append_lineFeed rest
    rw [List.append_assoc, List.cons_append, lines_append_lineFeed hline, List.length_cons, ih,
      List.count_append, List.count_cons_self, List.count_eq_zero.2 hline]
    omega
  · rw [lines_append_lineFeed h, lines_nil, List.count_eq_zero.2 h]
    rfl
termination_by a.length

/-! ## Logs -/

/-- The same skipped line, `k` lines further down. -/
def Skipped.later (k : Nat) (s : Skipped) : Skipped := { s with line := s.line + k }

def Entry.later (k : Nat) : Entry → Entry
  | record r => record r
  | skipped s => skipped (s.later k)

namespace Log

def later (k : Nat) (log : Log) : Log := ⟨log.entries.map (Entry.later k)⟩

instance : Append Log := ⟨fun log log' => ⟨log.entries ++ log'.entries⟩⟩

theorem records_append (log log' : Log) : (log ++ log').records = log.records ++ log'.records :=
  List.filterMap_append

theorem skipped_append (log log' : Log) : (log ++ log').skipped = log.skipped ++ log'.skipped :=
  List.filterMap_append

theorem records_later (k : Nat) (log : Log) : (log.later k).records = log.records := by
  rw [records, later, List.filterMap_map, records]
  refine congrArg (List.filterMap · _) (funext fun e => ?_)
  cases e <;> rfl

theorem skipped_later (k : Nat) (log : Log) :
    (log.later k).skipped = log.skipped.map (Skipped.later k) := by
  rw [skipped, later, List.filterMap_map, skipped, List.map_filterMap]
  refine congrArg (List.filterMap · _) (funext fun e => ?_)
  cases e <;> rfl

theorem later_zero (log : Log) : log.later 0 = log := by
  have hentry : Entry.later 0 = id := by
    funext e
    cases e <;> rfl
  rw [later, hentry, List.map_id]

end Log

def NumberedLine.later (k : Nat) (l : NumberedLine) : NumberedLine :=
  { l with number := l.number + k }

theorem Entry.ofLine_later (k : Nat) (l : NumberedLine) :
    ofLine (l.later k) = (ofLine l).later k := by
  rw [ofLine, ofLine, NumberedLine.later]
  cases Record.ofLine l.text <;> rfl

theorem writtenLines_append_cons (a b : List Char) :
    writtenLines (String.ofList (a ++ '\n' :: b)) = writtenLines (String.ofList (a ++ ['\n'])) ++
      (writtenLines (String.ofList b)).map (NumberedLine.later (a.count '\n' + 1)) := by
  have hnumbers : (lines b).zipIdx (1 + (a.count '\n' + 1)) =
      ((lines b).zipIdx 1).map (Prod.map id (· + (a.count '\n' + 1))) := by
    rw [Nat.add_comm]
    exact List.map_snd_add_zipIdx_eq_zipIdx.symm
  simp only [writtenLines, String.toList_ofList]
  rw [lines_append_cons, List.zipIdx_append, length_lines_append_lineFeed, hnumbers,
    List.filter_append, List.map_append, List.filter_map, List.map_map, List.map_map]
  rfl

/-- A line feed parts the log. -/
theorem Log.ofText_append_cons (a b : List Char) :
    ofText (String.ofList (a ++ '\n' :: b)) = ofText (String.ofList (a ++ ['\n'])) ++
      (ofText (String.ofList b)).later (a.count '\n' + 1) := by
  have hlater : (Entry.later (a.count '\n' + 1)) ∘ Entry.ofLine =
      Entry.ofLine ∘ NumberedLine.later (a.count '\n' + 1) :=
    funext fun l => (Entry.ofLine_later _ l).symm
  refine congrArg Log.mk ?_
  rw [writtenLines_append_cons, List.map_append, List.map_map, ← hlater, ← List.map_map]
  rfl

@[simp] theorem Log.ofText_empty : ofText "" = ⟨[]⟩ := by
  rw [ofText, writtenLines, String.toList_empty, lines_nil]
  rfl

/-- **The log of two dumps**, the first of which is empty or ends in a line feed. -/
theorem Log.ofText_append {a : String} (ha : a = "" ∨ a.toList.getLast? = some '\n')
    (b : String) : ofText (a ++ b) = ofText a ++ (ofText b).later (a.toList.count '\n') := by
  rcases ha with rfl | hlast
  · rw [String.empty_append, ofText_empty, String.toList_empty, List.count_nil, later_zero]
    rfl
  · obtain ⟨front, hfront⟩ := List.getLast?_eq_some_iff.1 hlast
    obtain rfl : a = String.ofList (front ++ ['\n']) := by rw [← hfront, String.ofList_toList]
    have hcount : (front ++ ['\n']).count '\n' = front.count '\n' + 1 := by simp
    have happend := ofText_append_cons front b.toList
    rw [String.ofList_toList] at happend
    rw [String.toList_ofList, hcount, ← happend]
    congr 1
    rw [← String.toList_inj]
    simp

end Aliasing
