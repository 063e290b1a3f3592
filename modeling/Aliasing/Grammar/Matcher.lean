import Aliasing.Grammar.Cursor
import Aliasing.Grammar.Rejection
/-!
# Matchers

A matcher reads a value at a cursor. It answers with the value and the cursor after it, or with the
reason why it does not match, or, where repeating it would go on for ever without consuming
anything, that there is no end. A failed matcher has consumed nothing, as whoever called it still
holds the cursor. No matcher moves a cursor back; each carries the proof of that, so that a
repetition can tell progress by the offset alone.

Main statement: matchers form a lawful monad, with sequencing as its bind.
-/

namespace Aliasing.Grammar

/-- What a matcher answers. -/
inductive Reply (α : Type) where
  /-- A value was read, and reading goes on at `next`. -/
  | done (value : α) (next : Cursor)
  | failed (why : Rejection)
  /-- A repetition goes round for ever. -/
  | endless
deriving DecidableEq

namespace Reply

variable {α β : Type}

/-- Goes on with the value and the cursor of a success. -/
def andThen (r : Reply α) (f : α → Cursor → Reply β) : Reply β :=
  match r with
  | done v next => f v next
  | failed why => failed why
  | endless => endless

@[simp] theorem andThen_done (v : α) (next : Cursor) (f : α → Cursor → Reply β) :
    (done v next).andThen f = f v next := rfl

@[simp] theorem andThen_failed (why : Rejection) (f : α → Cursor → Reply β) :
    (failed why).andThen f = failed why := rfl

@[simp] theorem andThen_endless (f : α → Cursor → Reply β) :
    (endless : Reply α).andThen f = endless := rfl

def map (f : α → β) (r : Reply α) : Reply β := r.andThen fun v next => done (f v) next

@[simp] theorem map_done (f : α → β) (v : α) (next : Cursor) :
    (done v next).map f = done (f v) next := rfl

@[simp] theorem map_failed (f : α → β) (why : Rejection) :
    (failed why : Reply α).map f = failed why := rfl

@[simp] theorem map_endless (f : α → β) : (endless : Reply α).map f = endless := rfl

theorem andThen_eq_done_iff {r : Reply α} {f : α → Cursor → Reply β} {w : β} {last : Cursor} :
    r.andThen f = done w last ↔ ∃ v next, r = done v next ∧ f v next = done w last := by
  cases r <;> simp [and_assoc]

theorem andThen_eq_failed_iff {r : Reply α} {f : α → Cursor → Reply β} {why : Rejection} :
    r.andThen f = failed why ↔
      r = failed why ∨ ∃ v next, r = done v next ∧ f v next = failed why := by
  cases r <;> simp [and_assoc]

theorem andThen_eq_endless_iff {r : Reply α} {f : α → Cursor → Reply β} :
    r.andThen f = endless ↔ r = endless ∨ ∃ v next, r = done v next ∧ f v next = endless := by
  cases r <;> simp [and_assoc]

theorem map_eq_done_iff {r : Reply α} {f : α → β} {w : β} {last : Cursor} :
    r.map f = done w last ↔ ∃ v, r = done v last ∧ f v = w := by
  cases r with
  | done v next => simp only [map_done, done.injEq]; grind
  | failed => simp
  | endless => simp

theorem map_eq_failed_iff {r : Reply α} {f : α → β} {why : Rejection} :
    r.map f = failed why ↔ r = failed why := by
  cases r <;> simp

theorem map_eq_endless_iff {r : Reply α} {f : α → β} : r.map f = endless ↔ r = endless := by
  cases r <;> simp

/-- A reply that comes to an end, as a value or an error. -/
def toExcept (r : Reply α) (h : r ≠ endless) : Except Rejection (α × Cursor) :=
  match r, h with
  | done v next, _ => .ok (v, next)
  | failed why, _ => .error why

end Reply

/-- A reader of one value at a cursor. -/
@[ext] structure Matcher (α : Type) where
  run : Cursor → Reply α
  /-- A value is read forward. -/
  le_of_run : ∀ {c : Cursor} {v : α} {next : Cursor}, run c = .done v next → c ≤ next

namespace Matcher

variable {α β : Type}

instance : CoeFun (Matcher α) fun _ => Cursor → Reply α := ⟨run⟩

instance : Monad Matcher where
  pure v := ⟨fun c => .done v c, fun h => by
    obtain ⟨-, rfl⟩ := Reply.done.inj h
    exact Cursor.le_refl _⟩
  bind p f := ⟨fun c => (p c).andThen fun v next => f v next, fun h => by
    obtain ⟨v, _, h1, h2⟩ := Reply.andThen_eq_done_iff.1 h
    exact Cursor.le_trans (p.le_of_run h1) ((f v).le_of_run h2)⟩

theorem bind_apply (p : Matcher α) (f : α → Matcher β) (c : Cursor) :
    (p >>= f) c = (p c).andThen fun v next => f v next := rfl

theorem map_apply (f : α → β) (p : Matcher α) (c : Cursor) : (f <$> p) c = (p c).map f := rfl

instance : LawfulMonad Matcher := LawfulMonad.mk' Matcher
  (fun p => by
    ext c : 2
    rw [map_apply]
    cases p c <;> rfl)
  (fun _ _ => rfl)
  (fun p f g => by
    ext c : 2
    simp only [bind_apply]
    cases p c <;> rfl)

def reject (why : Rejection) : Matcher α := ⟨fun _ => .failed why, fun h => by cases h⟩

/-- The first matcher, or else the second from the same place (`alt`). If both fail, the second says
why. -/
def orElse (p q : Matcher α) : Matcher α where
  run c :=
    match p c with
    | .failed _ => q c
    | reply => reply
  le_of_run h := by
    split at h
    · exact q.le_of_run h
    · exact p.le_of_run h

theorem orElse_apply (p q : Matcher α) (c : Cursor) :
    p.orElse q c =
      match p c with
      | .failed _ => q c
      | reply => reply := rfl

/-- Reads a value and consumes nothing (`peek`). -/
def lookAhead (p : Matcher α) : Matcher α where
  run c := (p c).andThen fun v _ => .done v c
  le_of_run h := by
    obtain ⟨_, _, -, h2⟩ := Reply.andThen_eq_done_iff.1 h
    obtain ⟨-, rfl⟩ := Reply.done.inj h2
    exact Cursor.le_refl _

theorem lookAhead_apply (p : Matcher α) (c : Cursor) :
    p.lookAhead c = (p c).andThen fun v _ => .done v c := rfl

/-- Both values, the second read where the first ended. -/
def pair (p : Matcher α) (q : Matcher β) : Matcher (α × β) := do
  let v ← p
  let w ← q
  return (v, w)

end Matcher

end Aliasing.Grammar
