import Aliasing.Grammar.Matcher
/-!
# Repetition

Matchers run again and again. `many` and `many1` stop at the first round that fails or consumes
nothing. `separated` has no such stop: a separator makes the next item mandatory, and a round of
separator and item that ends where it began has no end.

Main statements: `many_apply` and `separatedRest_apply`, what the first round makes of a cursor.
-/

namespace Aliasing.Grammar.Matcher

variable {α β : Type}

/-! ## Rounds of one matcher -/

/-- Rounds after those that were read before, the last of these first. -/
def manyAfter (p : Matcher α) (read : List α) (c : Cursor) : Reply (List α) :=
  match _h : p c with
  | .failed _ => .done read.reverse c
  | .endless => .endless
  | .done v next =>
    if _hlt : c.offset < next.offset then manyAfter p (v :: read) next else .done read.reverse c
termination_by c.rest.length
decreasing_by exact (Cursor.offset_lt_iff (p.le_of_run _h)).1 _hlt

theorem le_of_manyAfter {p : Matcher α} {read vs : List α} {c last : Cursor}
    (h : manyAfter p read c = .done vs last) : c ≤ last := by
  fun_induction manyAfter p read c with
  | case1 =>
    obtain ⟨-, rfl⟩ := Reply.done.inj h
    exact Cursor.le_refl _
  | case2 => cases h
  | case3 _ _ _ _ hv _ ih => exact Cursor.le_trans (p.le_of_run hv) (ih h)
  | case4 =>
    obtain ⟨-, rfl⟩ := Reply.done.inj h
    exact Cursor.le_refl _

/-- Zero or more rounds. A success that consumes nothing ends the repetition and its value is
dropped. -/
def many (p : Matcher α) : Matcher (List α) := ⟨manyAfter p [], le_of_manyAfter⟩

theorem manyAfter_eq (p : Matcher α) (read : List α) (c : Cursor) :
    manyAfter p read c = (p.many c).map (read.reverse ++ ·) := by
  induction hn : c.rest.length using Nat.strongRecOn generalizing read c with
  | _ n ih =>
  show _ = (manyAfter p [] c).map _
  rw [manyAfter, manyAfter]
  split
  · simp
  · simp
  · rename_i v next hv
    split
    · rename_i hlt
      have hshort := hn ▸ (Cursor.offset_lt_iff (p.le_of_run hv)).1 hlt
      rw [ih _ hshort _ _ rfl, ih _ hshort _ _ rfl]
      cases p.many next <;> simp
    · simp

/-- **Repetition.** A round that fails or consumes nothing is the end of it. -/
theorem many_apply (p : Matcher α) (c : Cursor) :
    p.many c =
      match p c with
      | .failed _ => .done [] c
      | .endless => .endless
      | .done v next =>
        if c.offset < next.offset then (p.many next).map (v :: ·) else .done [] c := by
  show manyAfter p [] c = _
  rw [manyAfter]
  split
  · rename_i h
    simp [h]
  · rename_i h
    simp [h]
  · rename_i h
    simp [h, manyAfter_eq]

/-- One round, and then as many more as there are (`some`). The first success always counts. -/
def many1 (p : Matcher α) : Matcher (List α) := do
  let v ← p
  let vs ← p.many
  return v :: vs

/-! ## Rounds with separators -/

/-- Rounds of separator and item after the items that were read before, the last of these first. -/
def separatedAfter (item : Matcher α) (sep : Matcher β) (read : List α) (c : Cursor) :
    Reply (List α) :=
  match _hs : sep c with
  | .failed _ => .done read.reverse c
  | .endless => .endless
  | .done _ afterSep =>
    match _hi : item afterSep with
    | .failed why => .failed why
    | .endless => .endless
    | .done v next =>
      if _hlt : c.offset < next.offset then separatedAfter item sep (v :: read) next else .endless
termination_by c.rest.length
decreasing_by
  exact (Cursor.offset_lt_iff (Cursor.le_trans (sep.le_of_run _hs) (item.le_of_run _hi))).1 _hlt

theorem le_of_separatedAfter {item : Matcher α} {sep : Matcher β} {read vs : List α}
    {c last : Cursor} (h : separatedAfter item sep read c = .done vs last) : c ≤ last := by
  fun_induction separatedAfter item sep read c with
  | case1 =>
    obtain ⟨-, rfl⟩ := Reply.done.inj h
    exact Cursor.le_refl _
  | case5 _ _ _ _ hs _ _ hi _ ih =>
    exact Cursor.le_trans (Cursor.le_trans (sep.le_of_run hs) (item.le_of_run hi)) (ih h)
  | _ => cases h

/-- Rounds of separator and item, up to the first separator that fails. -/
def separatedRest (item : Matcher α) (sep : Matcher β) : Matcher (List α) :=
  ⟨separatedAfter item sep [], le_of_separatedAfter⟩

theorem separatedAfter_eq (item : Matcher α) (sep : Matcher β) (read : List α) (c : Cursor) :
    separatedAfter item sep read c = (item.separatedRest sep c).map (read.reverse ++ ·) := by
  induction hn : c.rest.length using Nat.strongRecOn generalizing read c with
  | _ n ih =>
  show _ = (separatedAfter item sep [] c).map _
  rw [separatedAfter, separatedAfter]
  split
  · simp
  · simp
  · rename_i hs
    split
    · simp
    · simp
    · rename_i v next hi
      split
      · rename_i hlt
        have hle := Cursor.le_trans (sep.le_of_run hs) (item.le_of_run hi)
        have hshort := hn ▸ (Cursor.offset_lt_iff hle).1 hlt
        rw [ih _ hshort _ _ rfl, ih _ hshort _ _ rfl]
        cases item.separatedRest sep next <;> simp
      · simp

/-- **Repetition with separators.** A separator is followed by an item, whose failure is that of the
whole. -/
theorem separatedRest_apply (item : Matcher α) (sep : Matcher β) (c : Cursor) :
    item.separatedRest sep c =
      match sep c with
      | .failed _ => .done [] c
      | .endless => .endless
      | .done _ afterSep =>
        match item afterSep with
        | .failed why => .failed why
        | .endless => .endless
        | .done v next =>
          if c.offset < next.offset then (item.separatedRest sep next).map (v :: ·)
          else .endless := by
  show separatedAfter item sep [] c = _
  rw [separatedAfter]
  split
  · rename_i h
    simp [h]
  · rename_i h
    simp [h]
  · rename_i hs
    split
    · rename_i h
      simp [hs, h]
    · rename_i h
      simp [hs, h]
    · rename_i h
      simp [hs, h, separatedAfter_eq]

/-- One or more items with separators between them (`sep_by`). -/
def separated (item : Matcher α) (sep : Matcher β) : Matcher (List α) := do
  let v ← item
  let vs ← item.separatedRest sep
  return v :: vs

end Aliasing.Grammar.Matcher
