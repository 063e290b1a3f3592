import Aliasing.Grammar.Progress
/-!
# Places in a text

A cursor stands in a text when its offset is the number of bytes before it, so that it never stands
inside a character. A move from such a place leads to another one. No matcher looks at the offset:
at a cursor with the same text after it but more bytes before it, the answer is the same, moved by
as many bytes.

Main statements: `Cursor.On.isValid`, a cursor in a text is at a character boundary of it;
`Shifts.many` and `Shifts.separatedRest`, repetitions do not look at the offset either;
`Shifts.eq_shift_start`, what a matcher answers can be had from a fresh cursor.
-/

namespace Aliasing.Grammar

theorem utf8ByteSize_ofList (cs : List Char) : (String.ofList cs).utf8ByteSize = utf8Length cs := by
  induction cs with
  | nil => simp
  | cons c cs ih =>
    rw [String.ofList_cons, String.utf8ByteSize_append, String.utf8ByteSize_singleton, ih,
      utf8Length_cons]

namespace Cursor

variable {text : String} {c d : Cursor}

/-! ## Cursors in a text -/

/-- The cursor stands in the text, with as many bytes before it as its offset says. -/
def On (text : String) (c : Cursor) : Prop :=
  ∃ before, text.toList = before ++ c.rest ∧ c.offset = utf8Length before

/-- A move stays in the text. -/
theorem On.of_le (hc : c.On text) (h : c ≤ d) : d.On text := by
  obtain ⟨before, htext, hoffset⟩ := hc
  obtain ⟨n, -, rfl⟩ := h
  refine ⟨before ++ c.rest.take n, ?_, ?_⟩
  · rw [htext, rest_advance, List.append_assoc, List.take_append_drop]
  · rw [offset_advance, hoffset, utf8Length_append]

theorem On.offset_le_utf8ByteSize (hc : c.On text) : c.offset ≤ text.utf8ByteSize := by
  obtain ⟨before, htext, hoffset⟩ := hc
  rw [← String.ofList_toList (s := text), utf8ByteSize_ofList, htext, utf8Length_append, hoffset]
  exact Nat.le_add_right _ _

/-- **A cursor in a text** is at a boundary between two characters. -/
theorem On.isValid (hc : c.On text) : String.Pos.Raw.IsValid text ⟨c.offset⟩ := by
  obtain ⟨before, htext, hoffset⟩ := hc
  refine String.Pos.Raw.isValid_iff_exists_append.2
    ⟨String.ofList before, String.ofList c.rest, ?_, ?_⟩
  · rw [← String.ofList_append, ← htext, String.ofList_toList]
  · rw [hoffset, ← utf8ByteSize_ofList]
    rfl

/-! ## Cursors moved together with their text -/

def shift (c : Cursor) (k : Nat) : Cursor := ⟨k + c.offset, c.rest⟩

@[simp] theorem rest_shift (c : Cursor) (k : Nat) : (c.shift k).rest = c.rest := rfl

@[simp] theorem offset_shift (c : Cursor) (k : Nat) : (c.shift k).offset = k + c.offset := rfl

@[simp] theorem preview_shift (c : Cursor) (k : Nat) : (c.shift k).preview = c.preview := rfl

theorem advance_shift (c : Cursor) (n k : Nat) : (c.shift k).advance n = (c.advance n).shift k := by
  simp [advance, shift, Nat.add_assoc]

theorem shift_start (c : Cursor) : (start c.rest).shift c.offset = c := by
  simp [start, shift]

end Cursor

namespace Reply

variable {α β : Type}

def shift (r : Reply α) (k : Nat) : Reply α := r.andThen fun v next => done v (next.shift k)

@[simp] theorem shift_done (v : α) (next : Cursor) (k : Nat) :
    (done v next).shift k = done v (next.shift k) := rfl

@[simp] theorem shift_failed (why : Rejection) (k : Nat) :
    (failed why : Reply α).shift k = failed why := rfl

@[simp] theorem shift_endless (k : Nat) : (endless : Reply α).shift k = endless := rfl

theorem map_shift (r : Reply α) (f : α → β) (k : Nat) : (r.shift k).map f = (r.map f).shift k := by
  cases r <;> simp

end Reply

namespace Matcher

variable {α β : Type}

/-- The matcher does not look at the offset. -/
def Shifts (p : Matcher α) : Prop := ∀ c k, p (c.shift k) = (p c).shift k

/-- The answer at a cursor is that at the start of the text after it, moved by its offset. -/
theorem Shifts.eq_shift_start {p : Matcher α} (hp : p.Shifts) (c : Cursor) :
    p c = (p (.start c.rest)).shift c.offset := by
  rw [← hp, Cursor.shift_start]

/-! ## Characters -/

theorem shifts_literal (expected : String) : (literal expected).Shifts := by
  intro c k
  rw [literal_apply, literal_apply, Cursor.rest_shift, Cursor.preview_shift]
  split
  · rw [Reply.shift_done, Cursor.advance_shift]
  · rfl

theorem shifts_satisfying (ok : Char → Bool) (why : String → Rejection) :
    (satisfying ok why).Shifts := by
  intro c k
  rw [satisfying_apply, satisfying_apply, Cursor.rest_shift, Cursor.preview_shift]
  cases c.rest with
  | nil => rfl
  | cons x rest =>
    by_cases hx : ok x = true
    · simp [hx, Cursor.advance_shift]
    · simp [hx]

theorem shifts_endOfText : endOfText.Shifts := by
  intro c k
  rw [endOfText_apply, endOfText_apply, Cursor.rest_shift, Cursor.preview_shift]
  by_cases h : c.rest = []
  · simp [h]
  · simp [h]

/-! ## Ways of putting matchers together -/

theorem shifts_pure (v : α) : (pure v : Matcher α).Shifts := fun _ _ => rfl

theorem shifts_reject (why : Rejection) : (reject why : Matcher α).Shifts := fun _ _ => rfl

theorem Shifts.bind {p : Matcher α} {f : α → Matcher β} (hp : p.Shifts)
    (hf : ∀ v, (f v).Shifts) : (p >>= f).Shifts := by
  intro c k
  rw [bind_apply, bind_apply, hp]
  cases p c with
  | done v next => simp [hf v next k]
  | failed => rfl
  | endless => rfl

theorem Shifts.orElse {p q : Matcher α} (hp : p.Shifts) (hq : q.Shifts) :
    (p.orElse q).Shifts := by
  intro c k
  rw [orElse_apply, orElse_apply, hp]
  cases p c with
  | done => rfl
  | failed => exact hq c k
  | endless => rfl

theorem Shifts.lookAhead {p : Matcher α} (hp : p.Shifts) : p.lookAhead.Shifts := by
  intro c k
  rw [lookAhead_apply, lookAhead_apply, hp]
  cases p c <;> rfl

/-- **Repetition.** Whether a round consumes something is a matter of the difference of offsets. -/
theorem Shifts.many {p : Matcher α} (hp : p.Shifts) : p.many.Shifts := by
  intro c k
  induction hn : c.rest.length using Nat.strongRecOn generalizing c with
  | _ n ih =>
  rw [many_apply, many_apply, hp]
  cases hv : p c with
  | failed => rfl
  | endless => rfl
  | done v next =>
    simp only [Reply.shift_done, Cursor.offset_shift, Nat.add_lt_add_iff_left]
    by_cases hlt : c.offset < next.offset
    · have hshort := hn ▸ (Cursor.offset_lt_iff (p.le_of_run hv)).1 hlt
      rw [if_pos hlt, if_pos hlt, ih _ hshort next rfl, Reply.map_shift]
    · rw [if_neg hlt, if_neg hlt, Reply.shift_done]

theorem Shifts.many1 {p : Matcher α} (hp : p.Shifts) : p.many1.Shifts :=
  hp.bind fun _ => hp.many.bind fun _ => shifts_pure _

/-- **Repetition with separators.** A round that has no end has none with more bytes before it. -/
theorem Shifts.separatedRest {item : Matcher α} {sep : Matcher β} (hi : item.Shifts)
    (hs : sep.Shifts) : (item.separatedRest sep).Shifts := by
  intro c k
  induction hn : c.rest.length using Nat.strongRecOn generalizing c with
  | _ n ih =>
  rw [separatedRest_apply, separatedRest_apply, hs]
  cases hu : sep c with
  | failed => rfl
  | endless => rfl
  | done u afterSep =>
    simp only [Reply.shift_done, hi afterSep k]
    cases hv : item afterSep with
    | failed => rfl
    | endless => rfl
    | done v next =>
      simp only [Reply.shift_done, Cursor.offset_shift, Nat.add_lt_add_iff_left]
      by_cases hlt : c.offset < next.offset
      · have hle := Cursor.le_trans (sep.le_of_run hu) (item.le_of_run hv)
        have hshort := hn ▸ (Cursor.offset_lt_iff hle).1 hlt
        rw [if_pos hlt, if_pos hlt, ih _ hshort next rfl, Reply.map_shift]
      · rw [if_neg hlt, if_neg hlt, Reply.shift_endless]

end Matcher

end Aliasing.Grammar
