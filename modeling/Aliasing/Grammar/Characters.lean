import Aliasing.Grammar.Matcher
import Aliasing.Text.WhiteSpace
import Aliasing.Text.WordCharacter
/-!
# Matchers of characters

The smallest matchers: a fixed text, one character of a class, and the end of the text.
-/

namespace Aliasing.Grammar

/-- Reads a fixed text (`tag`). -/
def literal (expected : String) : Matcher Unit where
  run c :=
    if expected.toList.isPrefixOf c.rest then .done () (c.advance expected.toList.length)
    else .failed (.missingLiteral expected c.preview)
  le_of_run h := by
    split at h
    · rename_i hp
      obtain ⟨-, rfl⟩ := Reply.done.inj h
      exact ⟨_, (List.isPrefixOf_iff_prefix.1 hp).length_le, rfl⟩
    · cases h

/-- Reads one character that passes a test. -/
def satisfying (ok : Char → Bool) (why : String → Rejection) : Matcher Char where
  run c :=
    match c.rest with
    | [] => .failed (why c.preview)
    | x :: _ => if ok x then .done x (c.advance 1) else .failed (why c.preview)
  le_of_run h := by
    split at h
    · cases h
    · rename_i hr
      split at h
      · obtain ⟨-, rfl⟩ := Reply.done.inj h
        exact ⟨1, by simp [hr], rfl⟩
      · cases h

/-- Reads a decimal digit from `0` to `9`. -/
def digit : Matcher Char := satisfying Char.isDigit .notDigit

/-- Reads a character of white space (`whitespace`). -/
def whiteSpaceChar : Matcher Char := satisfying whiteSpace.contains .notWhiteSpace

/-- Reads a word character (`word_char`). -/
def wordChar : Matcher Char := satisfying isWordChar .notWordChar

/-- Matches at the end of the text only (`eof`). -/
def endOfText : Matcher Unit where
  run c := if c.rest = [] then .done () c else .failed (.trailingText c.preview)
  le_of_run h := by
    split at h
    · obtain ⟨-, rfl⟩ := Reply.done.inj h
      exact Cursor.le_refl _
    · cases h

theorem literal_apply (expected : String) (c : Cursor) :
    literal expected c =
      if expected.toList.isPrefixOf c.rest then .done () (c.advance expected.toList.length)
      else .failed (.missingLiteral expected c.preview) := rfl

theorem satisfying_apply (ok : Char → Bool) (why : String → Rejection) (c : Cursor) :
    satisfying ok why c =
      match c.rest with
      | [] => .failed (why c.preview)
      | x :: _ => if ok x then .done x (c.advance 1) else .failed (why c.preview) := rfl

theorem endOfText_apply (c : Cursor) :
    endOfText c = if c.rest = [] then .done () c else .failed (.trailingText c.preview) := rfl

theorem satisfying_eq_done_iff {ok : Char → Bool} {why : String → Rejection} {c next : Cursor}
    {x : Char} : satisfying ok why c = .done x next ↔
      ok x = true ∧ next = c.advance 1 ∧ ∃ rest, c.rest = x :: rest := by
  rw [satisfying_apply]
  cases hc : c.rest with
  | nil => simp
  | cons y rest =>
    by_cases hy : ok y = true
    · simp only [hy, if_true, Reply.done.injEq, List.cons.injEq, exists_and_left, exists_eq',
        and_true]
      constructor
      · rintro ⟨rfl, rfl⟩
        exact ⟨hy, rfl, rfl⟩
      · rintro ⟨_, rfl, rfl⟩
        exact ⟨rfl, rfl⟩
    · simp only [hy, Bool.false_eq_true, if_false, reduceCtorEq, false_iff, List.cons.injEq]
      rintro ⟨hx, _, _, rfl, _⟩
      exact hy hx

theorem literal_eq_done_iff {expected : String} {c next : Cursor} {u : Unit} :
    literal expected c = .done u next ↔
      expected.toList <+: c.rest ∧ next = c.advance expected.toList.length := by
  rw [literal_apply]
  split
  · rename_i h
    simp [List.isPrefixOf_iff_prefix.1 h, eq_comm]
  · rename_i h
    exact ⟨fun hd => (by cases hd), fun hp => absurd (List.isPrefixOf_iff_prefix.2 hp.1) h⟩

end Aliasing.Grammar
