import Mathlib.Data.Nat.Digits.Defs
import Aliasing.Proofs.NodeSets
/-!
# Decimal numbers

The digits of a number count by their places: the last one for itself, and every other one ten times
as much as at the place behind it. Zeros at the front change nothing. An id is read from the front,
with a check at every digit that the number is still small enough; since no further digit makes it
less, the checks refuse just the numbers of 2^64 or more, with however many digits they are written.

Main statements: `decimal_eq_placeValue`, reading from the front comes to what the places say;
`decimal_zeros_append`; `nodeId_exact`, what is read where digits stand, and an id is read back from
its own text.
-/

namespace Aliasing

open Grammar Grammar.Matcher

/-- The number of decimal digits by their places, counted from the last digit. -/
def placeValue (d : List Char) : Nat :=
  Nat.ofDigits 10 (d.reverse.map fun c => c.toNat - '0'.toNat)

/-! ## Places -/

/-- **Reading digits from the front** comes to the number that their places say. -/
theorem decimal_eq_placeValue (d : List Char) : decimal d = placeValue d := by
  unfold decimal placeValue
  induction d with
  | nil => rfl
  | cons c d ih =>
    rw [Nat.ofDigitChars_cons, Nat.ofDigitChars_eq_ofDigitChars_zero, ih, List.reverse_cons,
      List.map_append, List.map_singleton, Nat.ofDigits_append, Nat.ofDigits_singleton,
      List.length_map, List.length_reverse, Nat.mul_zero, Nat.zero_add, Nat.add_comm]

/-- **Zeros at the front** do not count. -/
theorem decimal_zeros_append (k : Nat) (d : List Char) :
    decimal (List.replicate k '0' ++ d) = decimal d := by
  rw [decimal_eq_placeValue, decimal_eq_placeValue, placeValue, placeValue, List.reverse_append,
    List.map_append, List.reverse_replicate, List.map_replicate, Nat.sub_self,
    Nat.ofDigits_append_replicate_zero]

/-! ## The text of an id -/

theorem NodeId.isDigits_text (n : NodeId) : IsDigits n.text.toList := isDigits_repr n.toNat

/-- The text of an id denotes it. -/
theorem NodeId.denotesId_text (n : NodeId) : DenotesId n.text.toList n := by
  unfold DenotesId decimal NodeId.text
  rw [Nat.toList_repr, Nat.ofDigitChars_ten_toDigits]

/-! ## Ids, exactly -/

namespace Grammar

/-- **Digits are read as the number that they denote**, all of them and nothing else, if the number
is small enough, and otherwise they are reported as they stand. In particular an id is read from its
own text, with nothing left. -/
theorem nodeId_exact :
    (∀ (c : Cursor) (d rest : List Char), IsDigits d → Stops Char.isDigit rest →
      c.rest = d ++ rest →
      (∀ h : placeValue d < UInt64.size,
        nodeId c = .done ⟨placeValue d, h⟩ (c.advance d.length) ∧
          (c.advance d.length).rest = rest) ∧
      (UInt64.size ≤ placeValue d → nodeId c = .failed (.oversizedId (String.ofList d)))) ∧
    ∀ n : NodeId, ∃ next, nodeId (.start n.text.toList) = .done n next ∧ next.rest = [] := by
  refine ⟨fun c d rest hd hstop hc => ⟨fun h => ⟨?_, ?_⟩, fun hlarge => ?_⟩, fun n => ?_⟩
  · have hn : DenotesId d ⟨placeValue d, h⟩ := decimal_eq_placeValue d
    exact (reads_nodeId hd hn hstop).eq_done hc
  · exact Cursor.rest_advance_length hc
  · rw [← decimal_eq_placeValue] at hlarge
    exact refuses_nodeId hd hlarge hstop c hc
  · have hread := reads_nodeId n.isDigits_text n.denotesId_text stops_nil
    rw [List.append_nil] at hread
    exact hread (.start n.text.toList) rfl

/-- The largest id and the number after it, both behind zeros, and the text of the former. -/
theorem nodeId_exact_around_limit :
    let d := "0018446744073709551615".toList
    let e := "0018446744073709551616".toList
    (IsDigits d ∧ placeValue d < UInt64.size ∧ Stops Char.isDigit " \x7d".toList ∧
      nodeId ⟨3, d ++ " \x7d".toList⟩ = .done .largest ⟨25, " \x7d".toList⟩) ∧
    (IsDigits e ∧ UInt64.size ≤ placeValue e ∧ Stops Char.isDigit "\t7".toList ∧
      nodeId ⟨3, e ++ "\t7".toList⟩ = .failed (.oversizedId "0018446744073709551616")) ∧
    ∃ next, nodeId (.start NodeId.largest.text.toList) = .done .largest next ∧ next.rest = [] := by
  intro d e
  obtain ⟨hdigits, htext⟩ := nodeId_exact
  have hd : IsDigits d := ⟨by decide, List.all_eq_true.1 rfl⟩
  have he : IsDigits e := ⟨by decide, List.all_eq_true.1 rfl⟩
  have hspace : Stops Char.isDigit " \x7d".toList := stops_of_head? (x := ' ') rfl (by decide)
  have htab : Stops Char.isDigit "\t7".toList := stops_of_head? (x := '\t') rfl (by decide)
  have hsmall : placeValue d < UInt64.size := by decide
  have hlarge : UInt64.size ≤ placeValue e := by decide
  obtain ⟨hread, -⟩ := hdigits ⟨3, _⟩ d _ hd hspace rfl
  obtain ⟨-, hreport⟩ := hdigits ⟨3, _⟩ e _ he htab rfl
  exact ⟨⟨hd, hsmall, hspace, (hread hsmall).1⟩, ⟨he, hlarge, htab, hreport hlarge⟩,
    htext .largest⟩

end Grammar

end Aliasing
