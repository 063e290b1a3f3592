/-!
# Cursors

A cursor is a place in a text: how many bytes of UTF-8 stand before it, and the characters that
stand after it. Moving a cursor gives another one and leaves the first as it was.

Main statements: `advance_advance`, two moves are one move by the sum; `offset_lt_iff`, a cursor
further on has passed bytes exactly when it has left characters behind.
-/

namespace Aliasing.Grammar

/-- The number of bytes that characters take in UTF-8. -/
def utf8Length (cs : List Char) : Nat := cs.foldr (fun c n => c.utf8Size + n) 0

@[simp] theorem utf8Length_nil : utf8Length [] = 0 := rfl

@[simp] theorem utf8Length_cons (c : Char) (cs : List Char) :
    utf8Length (c :: cs) = c.utf8Size + utf8Length cs := rfl

@[simp] theorem utf8Length_append (cs ds : List Char) :
    utf8Length (cs ++ ds) = utf8Length cs + utf8Length ds := by
  induction cs with
  | nil => simp
  | cons c cs ih => simp [ih, Nat.add_assoc]

theorem utf8Length_pos_iff {cs : List Char} : 0 < utf8Length cs ↔ cs ≠ [] := by
  cases cs with
  | nil => simp
  | cons c cs => simp [Nat.add_pos_left c.utf8Size_pos]

/-- A place in a text (`Input`). -/
@[ext] structure Cursor where
  /-- The bytes before the cursor. -/
  offset : Nat
  /-- The characters after the cursor. -/
  rest : List Char
deriving DecidableEq

namespace Cursor

def start (text : List Char) : Cursor := ⟨0, text⟩

/-- The cursor `n` characters further on. -/
def advance (c : Cursor) (n : Nat) : Cursor :=
  ⟨c.offset + utf8Length (c.rest.take n), c.rest.drop n⟩

/-- What messages show of the text after the cursor: its first 30 characters. -/
def preview (c : Cursor) : String := String.ofList (c.rest.take 30)

@[simp] theorem rest_start (text : List Char) : (start text).rest = text := rfl

@[simp] theorem offset_start (text : List Char) : (start text).offset = 0 := rfl

@[simp] theorem rest_advance (c : Cursor) (n : Nat) : (c.advance n).rest = c.rest.drop n := rfl

@[simp] theorem offset_advance (c : Cursor) (n : Nat) :
    (c.advance n).offset = c.offset + utf8Length (c.rest.take n) := rfl

@[simp] theorem advance_zero (c : Cursor) : c.advance 0 = c := by
  simp [advance]

/-- A move over what stands first leaves what stands behind it. -/
theorem rest_advance_length {c : Cursor} {w rest : List Char} (h : c.rest = w ++ rest) :
    (c.advance w.length).rest = rest := by
  rw [rest_advance, h, List.drop_left]

/-- **Moves add up.** -/
theorem advance_advance (c : Cursor) (m n : Nat) : (c.advance m).advance n = c.advance (m + n) := by
  simp [advance, List.take_add, Nat.add_assoc]

/-! ## Order -/

/-- A cursor is at or before another one if a move over characters that it has leads there. -/
instance : LE Cursor := ⟨fun c d => ∃ n, n ≤ c.rest.length ∧ d = c.advance n⟩

protected theorem le_refl (c : Cursor) : c ≤ c := ⟨0, by simp, by simp⟩

protected theorem le_trans {c d e : Cursor} (hcd : c ≤ d) (hde : d ≤ e) : c ≤ e := by
  obtain ⟨m, hm, rfl⟩ := hcd
  obtain ⟨n, hn, rfl⟩ := hde
  simp only [rest_advance, List.length_drop] at hn
  exact ⟨m + n, by omega, advance_advance _ _ _⟩

/-- The bytes before the cursors tell whether the second is beyond the first. -/
theorem offset_lt_iff {c d : Cursor} (h : c ≤ d) :
    c.offset < d.offset ↔ d.rest.length < c.rest.length := by
  obtain ⟨n, hn, rfl⟩ := h
  rw [offset_advance, Nat.lt_add_right_iff_pos, utf8Length_pos_iff, rest_advance, List.length_drop,
    ne_eq, List.take_eq_nil_iff, ← List.length_eq_zero_iff]
  omega

theorem offset_le {c d : Cursor} (h : c ≤ d) : c.offset ≤ d.offset := by
  obtain ⟨n, -, rfl⟩ := h
  simp

/-- A cursor that has passed no bytes has not moved. -/
theorem eq_of_offset_le {c d : Cursor} (h : c ≤ d) (hle : d.offset ≤ c.offset) : d = c := by
  have hlt := mt (offset_lt_iff h).2 (Nat.not_lt.2 hle)
  obtain ⟨n, hn, rfl⟩ := h
  rw [rest_advance, List.length_drop] at hlt
  obtain rfl : n = 0 := by omega
  exact advance_zero c

/-- A move passes bytes from after the cursor to before it. -/
theorem offset_add_utf8Length_rest {c d : Cursor} (h : c ≤ d) :
    d.offset + utf8Length d.rest = c.offset + utf8Length c.rest := by
  obtain ⟨n, -, rfl⟩ := h
  rw [offset_advance, rest_advance, Nat.add_assoc, ← utf8Length_append, List.take_append_drop]

/-- What stands between two cursors tells where the second is. -/
theorem eq_advance_of_le {c d : Cursor} (h : c ≤ d) {w : List Char} (hw : c.rest = w ++ d.rest) :
    d = c.advance w.length := by
  obtain ⟨n, hn, rfl⟩ := h
  have hlen := congrArg List.length hw
  rw [List.length_append, rest_advance, List.length_drop] at hlen
  have hwn : n = w.length := by omega
  rw [hwn]

end Cursor

end Aliasing.Grammar
