import Aliasing.Text.WhiteSpace
/-!
# Lines

A line feed ends a line, and a carriage return directly before it belongs to the line end. A text
that ends in a line feed has no empty line after it; a carriage return at the very end of a text is
part of the last line. Lines are numbered from 1, and blank lines are counted though nothing reads
them.

Main statements: `lines_append_lineFeed`, the first line is what stands before the first line feed,
and the others are the lines of what follows it; `lines_textOfLines`, lines are read as they were
written.
-/

namespace Aliasing

/-- A line without the carriage return that belongs to its end. -/
def dropCarriageReturn (line : List Char) : List Char :=
  if line.getLast? = some '\r' then line.dropLast else line

/-- The lines of a text after the lines that were read before it, the last of these first. -/
def linesAfter (read : List (List Char)) (text : List Char) : List (List Char) :=
  match _h : text.dropWhile (· != '\n') with
  | [] => if text = [] then read.reverse else (text :: read).reverse
  | _ :: rest => linesAfter (dropCarriageReturn (text.takeWhile (· != '\n')) :: read) rest
termination_by text.length
decreasing_by
  have := (List.dropWhile_sublist (l := text) (· != '\n')).length_le
  simp only [_h, List.length_cons] at this
  omega

def lines (text : List Char) : List (List Char) := linesAfter [] text

theorem takeWhile_append_lineFeed {line : List Char} (h : '\n' ∉ line) (rest : List Char) :
    (line ++ '\n' :: rest).takeWhile (· != '\n') = line := by
  induction line with
  | nil => simp
  | cons c line ih =>
    simp only [List.mem_cons, not_or] at h
    simp [ih h.2, Ne.symm h.1]

theorem dropWhile_append_lineFeed {line : List Char} (h : '\n' ∉ line) (rest : List Char) :
    (line ++ '\n' :: rest).dropWhile (· != '\n') = '\n' :: rest := by
  induction line with
  | nil => simp
  | cons c line ih =>
    simp only [List.mem_cons, not_or] at h
    simp [ih h.2, Ne.symm h.1]

theorem linesAfter_append_lineFeed {line : List Char} (h : '\n' ∉ line)
    (read : List (List Char)) (rest : List Char) :
    linesAfter read (line ++ '\n' :: rest) = linesAfter (dropCarriageReturn line :: read) rest := by
  rw [linesAfter]
  split
  · rename_i hd
    rw [dropWhile_append_lineFeed h] at hd
    cases hd
  · rename_i hd
    rw [dropWhile_append_lineFeed h] at hd
    cases hd
    rw [takeWhile_append_lineFeed h]

theorem linesAfter_of_not_mem {text : List Char} (h : '\n' ∉ text) (read : List (List Char)) :
    linesAfter read text = read.reverse ++ if text = [] then [] else [text] := by
  have hd : text.dropWhile (· != '\n') = [] := by
    induction text with
    | nil => rfl
    | cons c text ih =>
      simp only [List.mem_cons, not_or] at h
      simp [ih h.2, Ne.symm h.1]
  rw [linesAfter]
  split
  · split <;> simp
  · rename_i hd'
    rw [hd] at hd'
    cases hd'

/-- A text has a first line feed or none. -/
theorem eq_append_lineFeed_or_not_mem (text : List Char) :
    (∃ line rest, '\n' ∉ line ∧ text = line ++ '\n' :: rest) ∨ '\n' ∉ text := by
  induction text with
  | nil => simp
  | cons c text ih =>
    by_cases hc : c = '\n'
    · exact Or.inl ⟨[], text, by simp, by simp [hc]⟩
    · rcases ih with ⟨line, rest, hline, rfl⟩ | h
      · exact Or.inl ⟨c :: line, rest, by simp [hline, Ne.symm hc], rfl⟩
      · exact Or.inr (by simp [h, Ne.symm hc])

theorem linesAfter_eq (read : List (List Char)) (text : List Char) :
    linesAfter read text = read.reverse ++ lines text := by
  induction hn : text.length using Nat.strongRecOn generalizing read text with
  | _ n ih =>
  rcases eq_append_lineFeed_or_not_mem text with ⟨line, rest, hline, rfl⟩ | h
  · have hlt : rest.length < n := by
      rw [← hn, List.length_append, List.length_cons]
      omega
    rw [lines, linesAfter_append_lineFeed hline, linesAfter_append_lineFeed hline,
      ih _ hlt _ _ rfl, ih _ hlt _ _ rfl]
    simp
  · rw [lines, linesAfter_of_not_mem h, linesAfter_of_not_mem h]
    simp

@[simp] theorem lines_nil : lines [] = [] := by
  rw [lines, linesAfter_of_not_mem (by simp)]
  simp

/-- **The first line** ends at the first line feed. -/
theorem lines_append_lineFeed {line : List Char} (h : '\n' ∉ line) (rest : List Char) :
    lines (line ++ '\n' :: rest) = dropCarriageReturn line :: lines rest := by
  rw [lines, linesAfter_append_lineFeed h, linesAfter_eq]
  simp

/-- The text in which a line feed stands after each of the lines. -/
def textOfLines (ls : List String) : String := String.join (ls.map fun l => l ++ "\n")

theorem lines_flatMap_lineFeed : ∀ {ls : List (List Char)},
    (∀ l ∈ ls, '\n' ∉ l ∧ l.getLast? ≠ some '\r') → lines (ls.flatMap fun l => l ++ ['\n']) = ls
  | [], _ => lines_nil
  | l :: ls, h => by
    obtain ⟨⟨hfeed, hreturn⟩, hls⟩ := List.forall_mem_cons.1 h
    have ih := lines_flatMap_lineFeed hls
    have hkeep : dropCarriageReturn l = l := if_neg hreturn
    rw [List.flatMap_cons, List.append_assoc, List.singleton_append, lines_append_lineFeed hfeed,
      hkeep, ih]

/-- **Lines that were written** are the lines of the text, as long as none holds a line feed or ends
in a carriage return. -/
theorem lines_textOfLines {ls : List String}
    (h : ∀ l ∈ ls, '\n' ∉ l.toList ∧ l.toList.getLast? ≠ some '\r') :
    lines (textOfLines ls).toList = ls.map (·.toList) := by
  have htext : (textOfLines ls).toList = (ls.map (·.toList)).flatMap fun l => l ++ ['\n'] := by
    simp [textOfLines, String.toList_join, List.flatMap_map]
  rw [htext]
  refine lines_flatMap_lineFeed fun l hl => ?_
  obtain ⟨s, hs, rfl⟩ := List.mem_map.1 hl
  exact h s hs

/-- A line and its place in the text, counted from 1. -/
structure NumberedLine where
  number : Nat
  text : List Char

/-- The lines that are not blank, each with its number among all lines. -/
def writtenLines (text : String) : List NumberedLine :=
  (((lines text.toList).zipIdx 1).filter fun l => !isBlank l.1).map fun l => ⟨l.2, l.1⟩

end Aliasing
