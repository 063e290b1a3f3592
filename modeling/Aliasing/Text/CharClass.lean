/-!
# Classes of characters

A class of characters is a list of closed ranges of code points, ascending and apart. Membership is
decided by one walk over the ranges that stops at the first range beyond the character.

Main statements: `contains_iff`, a character is in the class exactly when one of the ranges covers
it; `contains_eq_false_of_apart`, classes without a common range have no common character.
-/

namespace Aliasing

/-- Each range is non-empty and ends before the next one begins, with a gap between the two. -/
def rangesAscend : List (Nat × Nat) → Bool
  | [] => true
  | [r] => r.1 ≤ r.2
  | r :: s :: rest => r.1 ≤ r.2 && r.2 + 1 < s.1 && rangesAscend (s :: rest)

/-- A class of characters, as the closed ranges of its code points. -/
structure CharClass where
  ranges : List (Nat × Nat)
  ascend : rangesAscend ranges = true := by decide +kernel

/-- Walks ascending ranges in search of `n`. -/
def coveredBy (n : Nat) : List (Nat × Nat) → Bool
  | [] => false
  | (lo, hi) :: rest => lo ≤ n && (n ≤ hi || coveredBy n rest)

theorem rangesAscend_tail {r : Nat × Nat} {rest : List (Nat × Nat)}
    (h : rangesAscend (r :: rest) = true) : rangesAscend rest = true := by
  cases rest with
  | nil => rfl
  | cons s rest =>
    simp only [rangesAscend, Bool.and_eq_true] at h
    exact h.2

/-- In an ascending list every range starts at or after the start of the first. -/
theorem start_le_of_rangesAscend {r q : Nat × Nat} {rest : List (Nat × Nat)}
    (h : rangesAscend (r :: rest) = true) (hq : q ∈ r :: rest) : r.1 ≤ q.1 := by
  induction rest generalizing r with
  | nil => simp_all
  | cons s rest ih =>
    rcases List.mem_cons.1 hq with rfl | hq
    · exact Nat.le_refl _
    · have hs := ih (rangesAscend_tail h) hq
      simp only [rangesAscend, Bool.and_eq_true, decide_eq_true_eq] at h
      omega

theorem coveredBy_iff {n : Nat} : ∀ {ranges : List (Nat × Nat)}, rangesAscend ranges = true →
    (coveredBy n ranges = true ↔ ∃ r ∈ ranges, r.1 ≤ n ∧ n ≤ r.2)
  | [], _ => by simp [coveredBy]
  | (lo, hi) :: rest, h => by
    have ih := coveredBy_iff (n := n) (rangesAscend_tail h)
    simp only [coveredBy, Bool.and_eq_true, Bool.or_eq_true, decide_eq_true_eq, ih]
    constructor
    · rintro ⟨hlo, hhi | ⟨r, hr, hn⟩⟩
      · exact ⟨(lo, hi), by simp, hlo, hhi⟩
      · exact ⟨r, by simp [hr], hn⟩
    · rintro ⟨r, hr, hn⟩
      refine ⟨Nat.le_trans (start_le_of_rangesAscend h hr) hn.1, ?_⟩
      rcases List.mem_cons.1 hr with rfl | hr
      · exact Or.inl hn.2
      · exact Or.inr ⟨r, hr, hn⟩

namespace CharClass

def contains (k : CharClass) (c : Char) : Bool := coveredBy c.toNat k.ranges

/-- **Membership.** The walk finds a character exactly when one of the ranges covers it. -/
theorem contains_iff {k : CharClass} {c : Char} :
    k.contains c = true ↔ ∃ r ∈ k.ranges, r.1 ≤ c.toNat ∧ c.toNat ≤ r.2 :=
  coveredBy_iff k.ascend

/-- Whether no range of one class meets a range of the other. -/
def apart (k l : CharClass) : Bool :=
  k.ranges.all fun r => l.ranges.all fun q => decide (r.2 < q.1) || decide (q.2 < r.1)

/-- **Classes that are apart** have no character in common. -/
theorem contains_eq_false_of_apart {k l : CharClass} (h : k.apart l = true) {c : Char}
    (hc : l.contains c = true) : k.contains c = false := by
  rw [Bool.eq_false_iff, ne_eq, contains_iff]
  rintro ⟨r, hr, hlo, hhi⟩
  obtain ⟨q, hq, hlo', hhi'⟩ := contains_iff.1 hc
  have hmiss := List.all_eq_true.1 (List.all_eq_true.1 h r hr) q hq
  rw [Bool.or_eq_true, decide_eq_true_eq, decide_eq_true_eq] at hmiss
  omega

def size (k : CharClass) : Nat := k.ranges.foldr (fun r n => r.2 + 1 - r.1 + n) 0

end CharClass

end Aliasing
