import Aliasing.Grammar.Repetition
/-!
# The runs of a repetition

A repetition runs its matcher again and again, each time from where it has ended before. It goes on
for as long as the matcher reads something and consumes something, and stops where the matcher is
idle: it fails there, or reads a value and consumes nothing. Every run leaves less to be read, so
only the matcher itself can have no end.

Main statements: `many_eq_done_iff`, a repetition reads the runs up to where the matcher is idle;
`many_ne_failed`, it never fails; `many_eq_endless_iff`, it has no end only if a run has none.
-/

namespace Aliasing.Grammar.Matcher

variable {α : Type} {p : Matcher α}

/-- Runs that consume lead from one cursor to another, each from where the one before has ended,
with these values. -/
inductive Runs (p : Matcher α) : Cursor → List α → Cursor → Prop where
  | nil {c : Cursor} : Runs p c [] c
  | cons {c next last : Cursor} {v : α} {vs : List α} (hv : p c = .done v next)
      (hlt : c.offset < next.offset) (h : Runs p next vs last) : Runs p c (v :: vs) last

/-- The matcher does not lead away from a cursor: it fails there, or consumes nothing. -/
def Idle (p : Matcher α) (c : Cursor) : Prop :=
  (∃ why, p c = .failed why) ∨ ∃ v, p c = .done v c

theorem Runs.le {c d : Cursor} {vs : List α} (h : Runs p c vs d) : c ≤ d := by
  induction h with
  | nil => exact Cursor.le_refl _
  | cons hv _ _ ih => exact Cursor.le_trans (p.le_of_run hv) ih

/-- Every run passes at least one byte. -/
theorem Runs.offset_add_length_le {c d : Cursor} {vs : List α} (h : Runs p c vs d) :
    c.offset + vs.length ≤ d.offset := by
  induction h with
  | nil => simp
  | cons _ hlt _ ih =>
    rw [List.length_cons]
    omega

/-- **The bytes of the text bound the runs.** -/
theorem Runs.length_le {c d : Cursor} {vs : List α} (h : Runs p c vs d) :
    vs.length ≤ utf8Length c.rest := by
  have hruns := h.offset_add_length_le
  have hbytes := Cursor.offset_add_utf8Length_rest h.le
  omega

/-- Runs have values just if they lead away. -/
theorem Runs.eq_nil_iff {c d : Cursor} {vs : List α} (h : Runs p c vs d) : vs = [] ↔ d = c := by
  constructor
  · rintro rfl
    cases h
    rfl
  · rintro rfl
    have hlength := h.offset_add_length_le
    exact List.length_eq_zero_iff.1 (by omega)

/-- A matcher that has an answer at a cursor is idle there or leads away. -/
theorem idle_or_leads {c : Cursor} (h : p c ≠ .endless) :
    Idle p c ∨ ∃ v next, p c = .done v next ∧ c.offset < next.offset := by
  cases hv : p c with
  | endless => exact absurd hv h
  | failed why => exact Or.inl (Or.inl ⟨why, hv⟩)
  | done v next =>
    by_cases hlt : c.offset < next.offset
    · exact Or.inr ⟨v, next, rfl, hlt⟩
    · have hsame : next = c := Cursor.eq_of_offset_le (p.le_of_run hv) (Nat.not_lt.1 hlt)
      exact Or.inl (Or.inr ⟨v, by rw [hv, hsame]⟩)

/-! ## What the runs come to -/

theorem Idle.many_eq {c : Cursor} (h : Idle p c) : p.many c = .done [] c := by
  rw [many_apply]
  rcases h with ⟨why, hv⟩ | ⟨v, hv⟩
  · rw [hv]
  · simp only [hv, Nat.lt_irrefl, if_false]

/-- **Runs can be read beforehand.** -/
theorem Runs.many_eq {c d : Cursor} {vs : List α} (h : Runs p c vs d) :
    p.many c = (p.many d).map (vs ++ ·) := by
  induction h with
  | @nil c => cases p.many c <;> rfl
  | @cons c next last v vs hv hlt _ ih =>
    simp only [many_apply p c, hv, hlt, if_true, ih]
    cases p.many last <;> rfl

/-- Runs are read up to a cursor where the matcher is idle or has no end. -/
theorem exists_runs (p : Matcher α) (c : Cursor) :
    ∃ vs d, Runs p c vs d ∧ (Idle p d ∨ p d = .endless) := by
  induction hn : c.rest.length using Nat.strongRecOn generalizing c with
  | _ n ih =>
  by_cases hend : p c = .endless
  · exact ⟨[], c, .nil, Or.inr hend⟩
  rcases idle_or_leads hend with hidle | ⟨v, next, hv, hlt⟩
  · exact ⟨[], c, .nil, Or.inl hidle⟩
  · have hshort := hn ▸ (Cursor.offset_lt_iff (p.le_of_run hv)).1 hlt
    obtain ⟨vs, d, hruns, hstop⟩ := ih _ hshort next rfl
    exact ⟨v :: vs, d, .cons hv hlt hruns, hstop⟩

theorem many_eq_endless {c : Cursor} (h : p c = .endless) : p.many c = .endless := by
  rw [many_apply, h]

/-- **The end of a repetition** is where its matcher is idle. -/
theorem many_eq_done_iff {c last : Cursor} {vs : List α} :
    p.many c = .done vs last ↔ Runs p c vs last ∧ Idle p last := by
  constructor
  · intro h
    obtain ⟨ws, d, hruns, hidle | hend⟩ := exists_runs p c
    · rw [hruns.many_eq, hidle.many_eq, Reply.map_done, List.append_nil] at h
      obtain ⟨rfl, rfl⟩ := Reply.done.inj h
      exact ⟨hruns, hidle⟩
    · rw [hruns.many_eq, many_eq_endless hend] at h
      cases h
  · rintro ⟨hruns, hidle⟩
    rw [hruns.many_eq, hidle.many_eq, Reply.map_done, List.append_nil]

/-- **A repetition does not fail.** -/
theorem many_ne_failed {c : Cursor} {why : Rejection} : p.many c ≠ .failed why := by
  intro h
  obtain ⟨vs, d, hruns, hidle | hend⟩ := exists_runs p c
  · rw [hruns.many_eq, hidle.many_eq] at h
    cases h
  · rw [hruns.many_eq, many_eq_endless hend] at h
    cases h

/-- **A repetition without end** comes to a run without end. -/
theorem many_eq_endless_iff {c : Cursor} :
    p.many c = .endless ↔ ∃ vs d, Runs p c vs d ∧ p d = .endless := by
  constructor
  · intro h
    obtain ⟨vs, d, hruns, hidle | hend⟩ := exists_runs p c
    · rw [hruns.many_eq, hidle.many_eq] at h
      cases h
    · exact ⟨vs, d, hruns, hend⟩
  · rintro ⟨vs, d, hruns, hend⟩
    rw [hruns.many_eq, many_eq_endless hend, Reply.map_endless]

/-- A repetition comes to an end where every run does. -/
theorem exists_many_eq_done {c : Cursor} (h : ∀ d, c ≤ d → p d ≠ .endless) :
    ∃ vs last, p.many c = .done vs last := by
  obtain ⟨vs, d, hruns, hidle | hend⟩ := exists_runs p c
  · exact ⟨vs, d, many_eq_done_iff.2 ⟨hruns, hidle⟩⟩
  · exact absurd hend (h d hruns.le)

end Aliasing.Grammar.Matcher
