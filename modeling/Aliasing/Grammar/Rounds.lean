import Aliasing.Grammar.Repetition
/-!
# The rounds of a separated list

A list with separators is read in rounds of a separator and the item behind it, which lead from
cursor to cursor. They come to a close where the separator fails, and there the list ends; where the
item fails, and then the list fails with it; or where no round leads away, and then there is no end.

Main statements: `separatedRest_eq_iff`, what the rounds come to is what is read after the first
item; and so `separated_eq_done_iff` and `separated_eq_failed_iff`, the lists that are read and
those that are not, and `separatedRest_eq_endless_iff`, those without end.
-/

namespace Aliasing.Grammar.Matcher

variable {α β : Type} {item : Matcher α} {sep : Matcher β}

/-- Rounds of separator and item lead from one cursor to another, with these values of the items. -/
inductive Rounds (item : Matcher α) (sep : Matcher β) : Cursor → List α → Cursor → Prop where
  | nil {c : Cursor} : Rounds item sep c [] c
  | cons {c afterSep next last : Cursor} {u : β} {v : α} {vs : List α}
      (hs : sep c = .done u afterSep) (hi : item afterSep = .done v next)
      (h : Rounds item sep next vs last) : Rounds item sep c (v :: vs) last

theorem Rounds.le {c d : Cursor} {vs : List α} (h : Rounds item sep c vs d) : c ≤ d := by
  induction h with
  | nil => exact Cursor.le_refl _
  | cons hs hi _ ih =>
    exact Cursor.le_trans (Cursor.le_trans (sep.le_of_run hs) (item.le_of_run hi)) ih

/-- No round leads away from a cursor: the separator or the item has no end, or both are read and
the round ends where it began. -/
def Stuck (item : Matcher α) (sep : Matcher β) (c : Cursor) : Prop :=
  sep c = .endless ∨ ∃ u afterSep, sep c = .done u afterSep ∧
    (item afterSep = .endless ∨ ∃ v, item afterSep = .done v c)

/-- No whole round can be read at a cursor or leads away from it, and this is what the list answers
there. -/
inductive Closes (item : Matcher α) (sep : Matcher β) (c : Cursor) : Reply (List α) → Prop where
  | stop {why : Rejection} (hs : sep c = .failed why) : Closes item sep c (.done [] c)
  | refuse {afterSep : Cursor} {u : β} {why : Rejection} (hs : sep c = .done u afterSep)
      (hi : item afterSep = .failed why) : Closes item sep c (.failed why)
  | stuck (h : Stuck item sep c) : Closes item sep c .endless

theorem Stuck.separatedRest_eq {c : Cursor} (h : Stuck item sep c) :
    item.separatedRest sep c = .endless := by
  rw [separatedRest_apply]
  rcases h with hs | ⟨u, afterSep, hs, hi | ⟨v, hi⟩⟩
  · rw [hs]
  · simp only [hs, hi]
  · simp only [hs, hi, Nat.lt_irrefl, if_false]

theorem Closes.separatedRest_eq {c : Cursor} {r : Reply (List α)} (h : Closes item sep c r) :
    item.separatedRest sep c = r := by
  cases h with
  | stop hs => rw [separatedRest_apply, hs]
  | refuse hs hi => simp only [separatedRest_apply, hs, hi]
  | stuck h => exact h.separatedRest_eq

/-- **Rounds can be read beforehand.** -/
theorem Rounds.separatedRest_eq {c d : Cursor} {vs : List α} (h : Rounds item sep c vs d) :
    item.separatedRest sep c = (item.separatedRest sep d).map (vs ++ ·) := by
  induction h with
  | @nil c => cases item.separatedRest sep c <;> rfl
  | @cons c afterSep next last u v vs hs hi _ ih =>
    by_cases hlt : c.offset < next.offset
    · simp only [separatedRest_apply item sep c, hs, hi, hlt, if_true, ih]
      cases item.separatedRest sep last <;> rfl
    · -- A round that ends where it began is read for ever, also on the way to `last`.
      have hle := Cursor.le_trans (sep.le_of_run hs) (item.le_of_run hi)
      have hsame : next = c := Cursor.eq_of_offset_le hle (Nat.not_lt.1 hlt)
      subst hsame
      have hstuck : Stuck item sep next := Or.inr ⟨u, afterSep, hs, Or.inr ⟨v, hi⟩⟩
      rw [hstuck.separatedRest_eq] at ih ⊢
      rw [Reply.map_eq_endless_iff.1 ih.symm, Reply.map_endless]

/-- Rounds are read up to a cursor that closes them. -/
theorem exists_rounds (item : Matcher α) (sep : Matcher β) (c : Cursor) :
    ∃ vs d r, Rounds item sep c vs d ∧ Closes item sep d r := by
  induction hn : c.rest.length using Nat.strongRecOn generalizing c with
  | _ n ih =>
  cases hs : sep c with
  | failed why => exact ⟨[], c, _, .nil, .stop hs⟩
  | endless => exact ⟨[], c, _, .nil, .stuck (Or.inl hs)⟩
  | done u afterSep =>
    cases hi : item afterSep with
    | failed why => exact ⟨[], c, _, .nil, .refuse hs hi⟩
    | endless => exact ⟨[], c, _, .nil, .stuck (Or.inr ⟨u, afterSep, hs, Or.inl hi⟩)⟩
    | done v next =>
      have hle := Cursor.le_trans (sep.le_of_run hs) (item.le_of_run hi)
      by_cases hlt : c.offset < next.offset
      · have hshort := hn ▸ (Cursor.offset_lt_iff hle).1 hlt
        obtain ⟨vs, d, r, hrounds, hcloses⟩ := ih _ hshort next rfl
        exact ⟨v :: vs, d, r, .cons hs hi hrounds, hcloses⟩
      · have hsame := Cursor.eq_of_offset_le hle (Nat.not_lt.1 hlt)
        exact ⟨[], c, _, .nil, .stuck (Or.inr ⟨u, afterSep, hs, Or.inr ⟨v, hsame ▸ hi⟩⟩)⟩

/-- **What a list answers** is what its rounds come to. -/
theorem separatedRest_eq_iff {c : Cursor} {r : Reply (List α)} :
    item.separatedRest sep c = r ↔
      ∃ vs d r', Rounds item sep c vs d ∧ Closes item sep d r' ∧ r = r'.map (vs ++ ·) := by
  constructor
  · rintro rfl
    obtain ⟨vs, d, r', hrounds, hcloses⟩ := exists_rounds item sep c
    exact ⟨vs, d, r', hrounds, hcloses, by rw [hrounds.separatedRest_eq, hcloses.separatedRest_eq]⟩
  · rintro ⟨vs, d, r', hrounds, hcloses, rfl⟩
    rw [hrounds.separatedRest_eq, hcloses.separatedRest_eq]

/-- **The end of a list** is the first separator that fails. -/
theorem separatedRest_eq_done_iff {c last : Cursor} {vs : List α} :
    item.separatedRest sep c = .done vs last ↔
      Rounds item sep c vs last ∧ ∃ why, sep last = .failed why := by
  rw [separatedRest_eq_iff]
  constructor
  · rintro ⟨ws, d, r, hrounds, hcloses, hr⟩
    cases hcloses with
    | stop hs =>
      simp only [Reply.map_done, List.append_nil] at hr
      obtain ⟨rfl, rfl⟩ := Reply.done.inj hr
      exact ⟨hrounds, _, hs⟩
    | refuse => cases hr
    | stuck => cases hr
  · rintro ⟨hrounds, why, hs⟩
    exact ⟨vs, last, _, hrounds, .stop hs, by rw [Reply.map_done, List.append_nil]⟩

/-- **The failure of a list** is that of an item behind a separator. -/
theorem separatedRest_eq_failed_iff {c : Cursor} {why : Rejection} :
    item.separatedRest sep c = .failed why ↔ ∃ vs d u afterSep, Rounds item sep c vs d ∧
      sep d = .done u afterSep ∧ item afterSep = .failed why := by
  rw [separatedRest_eq_iff]
  constructor
  · rintro ⟨vs, d, r, hrounds, hcloses, hr⟩
    cases hcloses with
    | stop => cases hr
    | @refuse afterSep u why' hs hi =>
      cases hr
      exact ⟨vs, d, u, afterSep, hrounds, hs, hi⟩
    | stuck => cases hr
  · rintro ⟨vs, d, u, afterSep, hrounds, hs, hi⟩
    exact ⟨vs, d, _, hrounds, .refuse hs hi, rfl⟩

/-- **A list without end** has rounds from which none leads away. -/
theorem separatedRest_eq_endless_iff {c : Cursor} :
    item.separatedRest sep c = .endless ↔ ∃ vs d, Rounds item sep c vs d ∧ Stuck item sep d := by
  rw [separatedRest_eq_iff]
  constructor
  · rintro ⟨vs, d, r, hrounds, hcloses, hr⟩
    cases hcloses with
    | stop => cases hr
    | refuse => cases hr
    | stuck h => exact ⟨vs, d, hrounds, h⟩
  · rintro ⟨vs, d, hrounds, h⟩
    exact ⟨vs, d, _, hrounds, .stuck h, rfl⟩

theorem separatedRest_ne_endless {c : Cursor} (h : ∀ d, c ≤ d → ¬ Stuck item sep d) :
    item.separatedRest sep c ≠ .endless := by
  rw [ne_eq, separatedRest_eq_endless_iff]
  rintro ⟨vs, d, hrounds, hstuck⟩
  exact h d hrounds.le hstuck

/-! ## The first item -/

theorem separated_apply (item : Matcher α) (sep : Matcher β) (c : Cursor) :
    item.separated sep c =
      (item c).andThen fun v next => (item.separatedRest sep next).map (v :: ·) := rfl

/-- **Lists that are read** have an item first, and the end of the rounds behind it. -/
theorem separated_eq_done_iff {c last : Cursor} {vs : List α} :
    item.separated sep c = .done vs last ↔ ∃ v next vs', vs = v :: vs' ∧ item c = .done v next ∧
      Rounds item sep next vs' last ∧ ∃ why, sep last = .failed why := by
  rw [separated_apply, Reply.andThen_eq_done_iff]
  constructor
  · rintro ⟨v, next, hi, h⟩
    obtain ⟨vs', hrest, rfl⟩ := Reply.map_eq_done_iff.1 h
    exact ⟨v, next, vs', rfl, hi, separatedRest_eq_done_iff.1 hrest⟩
  · rintro ⟨v, next, vs', rfl, hi, h⟩
    exact ⟨v, next, hi, Reply.map_eq_done_iff.2 ⟨vs', separatedRest_eq_done_iff.2 h, rfl⟩⟩

/-- **Lists that are not** have an item that fails, the first one or one behind a separator. -/
theorem separated_eq_failed_iff {c : Cursor} {why : Rejection} :
    item.separated sep c = .failed why ↔ item c = .failed why ∨
      ∃ v next vs d u afterSep, item c = .done v next ∧ Rounds item sep next vs d ∧
        sep d = .done u afterSep ∧ item afterSep = .failed why := by
  rw [separated_apply, Reply.andThen_eq_failed_iff]
  simp only [Reply.map_eq_failed_iff, separatedRest_eq_failed_iff, exists_and_left]

end Aliasing.Grammar.Matcher
