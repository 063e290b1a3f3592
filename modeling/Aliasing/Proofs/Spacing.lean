import Aliasing.Proofs.Names
/-!
# Digits and white space

The grammar of dumps has gaps, where white space must stand, and padding, where it may. Either takes
all the white space that there is, and a number takes all the digits. No digit and no character that
begins a name is white space, so neither ever takes a character of the other.

Main statements: `reads_gap`, `reads_padding` and `reads_digits`, a run is read up to the first
character that does not go on it; `Name.WellFormed.stops_whiteSpace`, white space ends at a name.
-/

namespace Aliasing

open Grammar.Matcher

def IsDigits (d : List Char) : Prop := d ≠ [] ∧ ∀ c ∈ d, c.isDigit = true

def IsPadding (s : List Char) : Prop := ∀ c ∈ s, whiteSpace.contains c = true

def IsGap (s : List Char) : Prop := s ≠ [] ∧ IsPadding s

/-- A number is written in digits, at least one. -/
theorem isDigits_repr (n : Nat) : IsDigits n.repr.toList := by
  rw [Nat.toList_repr]
  exact ⟨Nat.toDigits_ne_nil, fun _ h => Nat.isDigit_of_mem_toDigits (by decide) (by decide) h⟩

/-! ## Where runs end -/

theorem whiteSpace_of_isDigit {c : Char} (h : c.isDigit = true) :
    whiteSpace.contains c = false := by
  refine whiteSpace_of_isWordChar (isWordChar_of_isAlphanum c ?_)
  rw [Char.isAlphanum, h, Bool.or_true]

theorem isDigit_of_whiteSpace {c : Char} (h : whiteSpace.contains c = true) :
    c.isDigit = false := by
  cases hc : c.isDigit with
  | false => rfl
  | true => exact h.symm.trans (whiteSpace_of_isDigit hc)

theorem IsDigits.stops_whiteSpace {d : List Char} (hd : IsDigits d) (rest : List Char) :
    Stops whiteSpace.contains (d ++ rest) :=
  stops_append hd.1 (fun c hc => whiteSpace_of_isDigit (hd.2 c hc)) rest

theorem IsGap.stops_digit {s : List Char} (hs : IsGap s) (rest : List Char) :
    Stops Char.isDigit (s ++ rest) :=
  stops_append hs.1 (fun c hc => isDigit_of_whiteSpace (hs.2 c hc)) rest

theorem IsWord.stops_whiteSpace {w : List Char} (hw : IsWord w) (rest : List Char) :
    Stops whiteSpace.contains (w ++ rest) :=
  stops_append hw.1 (fun c hc => whiteSpace_of_isWordChar (hw.2 c hc)) rest

/-- **White space ends at a name.** -/
theorem Name.WellFormed.stops_whiteSpace {x : Name} (hx : x.WellFormed) (rest : List Char) :
    Stops whiteSpace.contains (x.text.toList ++ rest) := by
  cases hx with
  | ofGlobal hw =>
    rw [toList_ofGlobal]
    exact stops_of_head? (x := '@') rfl (by decide)
  | ofLocal hf hw =>
    rw [toList_ofLocal, List.append_assoc]
    exact hf.stops_whiteSpace _

namespace Grammar

/-! ## Runs -/

theorem reads_digits {d rest : List Char} (hd : IsDigits d) (hstop : Stops Char.isDigit rest) :
    digit.many1.Reads (d ++ rest) d rest := reads_many1_satisfying hstop hd.1 hd.2

theorem spells_digits : digit.many1.Spells fun w v => w = v ∧ IsDigits v :=
  spells_many1_satisfying _ _

theorem reads_gap {s rest : List Char} (hs : IsGap s) (hstop : Stops whiteSpace.contains rest) :
    gap.Reads (s ++ rest) () rest := (reads_many1_satisfying hstop hs.1 hs.2).map _

theorem spells_gap : gap.Spells fun w _ => IsGap w :=
  Spells.map ((spells_many1_satisfying _ _).mono fun _ _ h => h.1 ▸ h.2)

theorem reads_padding {s rest : List Char} (hs : IsPadding s)
    (hstop : Stops whiteSpace.contains rest) : padding.Reads (s ++ rest) () rest :=
  (reads_many_satisfying hstop hs).map _

theorem spells_padding : padding.Spells fun w _ => IsPadding w :=
  Spells.map ((spells_many_satisfying _ _).mono fun _ _ h => h.1 ▸ h.2)

end Grammar

end Aliasing
