import Std.Data.ExtTreeSet
/-!
# Node ids

A node stands for a set of memory locations and is known by its id, a number below 2^64. Ids are
ordered as numbers, and sets of ids are listed in that order. An id is read digit by digit, and
every step checks that it is still small enough.

Main statement: `ofDigits?_eq`, the checks on the way let through exactly the digits whose number is
below 2^64.
-/

namespace Aliasing

/-- The id of a node. -/
@[ext] structure NodeId where
  toNat : Nat
  isLt : toNat < UInt64.size
deriving DecidableEq

namespace NodeId

def ofNat? (n : Nat) : Option NodeId := if h : n < UInt64.size then some ⟨n, h⟩ else none

/-- The id with one more decimal digit, if neither the shifted id nor the sum is too large. -/
def appendDigit? (n : NodeId) (d : Char) : Option NodeId := do
  let shifted ← ofNat? (10 * n.toNat)
  ofNat? (shifted.toNat + (d.toNat - '0'.toNat))

/-- The id that decimal digits denote, if no step on the way to it is too large. -/
def ofDigits? (ds : List Char) : Option NodeId := ds.foldlM appendDigit? ⟨0, by decide⟩

def largest : NodeId := ⟨UInt64.size - 1, by decide⟩

instance : Inhabited NodeId := ⟨⟨0, by decide⟩⟩

/-- An id in decimal digits, the shortest that denote it. -/
def text (n : NodeId) : String := n.toNat.repr

instance : Ord NodeId := ⟨fun a b => compare a.toNat b.toNat⟩

theorem compare_eq (a b : NodeId) : compare a b = compare a.toNat b.toNat := rfl

instance : Std.TransOrd NodeId :=
  inferInstanceAs (Std.TransCmp (compareOn toNat))

instance : Std.LawfulEqOrd NodeId where
  eq_of_compare {a b} h :=
    NodeId.ext (Std.LawfulEqOrd.eq_of_compare (show compare a.toNat b.toNat = .eq from h))

instance : LT NodeId := ⟨fun a b => a.toNat < b.toNat⟩

instance : LE NodeId := ⟨fun a b => a.toNat ≤ b.toNat⟩

theorem lt_iff {a b : NodeId} : a < b ↔ a.toNat < b.toNat := Iff.rfl

instance (a b : NodeId) : Decidable (a < b) := inferInstanceAs (Decidable (a.toNat < b.toNat))

instance (a b : NodeId) : Decidable (a ≤ b) := inferInstanceAs (Decidable (a.toNat ≤ b.toNat))

theorem compare_eq_lt {a b : NodeId} : compare a b = .lt ↔ a < b := by
  rw [compare_eq, Nat.compare_eq_lt, lt_iff]

theorem ofNat?_eq_some_iff {n : Nat} {a : NodeId} : ofNat? n = some a ↔ n = a.toNat := by
  unfold ofNat?
  split
  · simp [NodeId.ext_iff]
  · rename_i h
    exact ⟨fun he => (by cases he), fun he => absurd (he ▸ a.isLt) h⟩

theorem ofNat?_eq_none_iff {n : Nat} : ofNat? n = none ↔ UInt64.size ≤ n := by
  simp [ofNat?]

/-! ## Digits -/

/-- The sum is too large if the shifted id is. -/
theorem appendDigit?_eq (n : NodeId) (d : Char) :
    n.appendDigit? d = ofNat? (10 * n.toNat + (d.toNat - '0'.toNat)) := by
  unfold appendDigit?
  cases h : ofNat? (10 * n.toNat) with
  | none =>
    have hlarge := ofNat?_eq_none_iff.1 h
    have hsum : ofNat? (10 * n.toNat + (d.toNat - '0'.toNat)) = none :=
      ofNat?_eq_none_iff.2 (by omega)
    rw [hsum]
    rfl
  | some m =>
    rw [ofNat?_eq_some_iff.1 h]
    rfl

/-- Digits never make a number less. -/
theorem le_ofDigitChars : ∀ (ds : List Char) (n : Nat), n ≤ Nat.ofDigitChars 10 ds n
  | [], n => Nat.le_of_eq Nat.ofDigitChars_nil.symm
  | d :: ds, n => by
    have ih := le_ofDigitChars ds (10 * n + (d.toNat - '0'.toNat))
    rw [Nat.ofDigitChars_cons]
    omega

theorem foldlM_appendDigit?_eq : ∀ (ds : List Char) (n : NodeId),
    ds.foldlM appendDigit? n = ofNat? (Nat.ofDigitChars 10 ds n.toNat)
  | [], n => by
    rw [Nat.ofDigitChars_nil, ofNat?_eq_some_iff.2 rfl]
    rfl
  | d :: ds, n => by
    rw [List.foldlM_cons, appendDigit?_eq, Nat.ofDigitChars_cons]
    cases h : ofNat? (10 * n.toNat + (d.toNat - '0'.toNat)) with
    | none =>
      -- A step that is too large leaves the number too large.
      have hlarge := ofNat?_eq_none_iff.1 h
      have hle := le_ofDigitChars ds (10 * n.toNat + (d.toNat - '0'.toNat))
      exact (ofNat?_eq_none_iff.2 (Nat.le_trans hlarge hle)).symm
    | some m =>
      rw [ofNat?_eq_some_iff.1 h]
      exact foldlM_appendDigit?_eq ds m

/-- **Digits denote an id** exactly when their number is small enough. -/
theorem ofDigits?_eq (ds : List Char) : ofDigits? ds = ofNat? (Nat.ofDigitChars 10 ds 0) :=
  foldlM_appendDigit?_eq ds _

end NodeId

abbrev NodeSet := Std.ExtTreeSet NodeId

end Aliasing
