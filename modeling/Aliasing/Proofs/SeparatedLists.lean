import Aliasing.Grammar.Progress
/-!
# Lists with separators

An item, and then rounds of a separator and one more item. Nothing in the notation makes such a list
come to an end: a separator that is read asks for a further item, and both may consume nothing. But
where no round ends where it began, no two items begin at one place, so that the bytes of the text
bound the rounds.

Main statements: `offset_lt_of_round`, an item begins beyond the item before it; `Rounds.length_le`,
the rounds are bounded by bytes; `separated_eq_rounds`, what such a list answers.
-/

namespace Aliasing.Grammar.Matcher

variable {α β : Type} {item : Matcher α} {sep : Matcher β}

/-- From no cursor at or after this one does a round of separator and item end where it began. -/
def Advances (item : Matcher α) (sep : Matcher β) (c : Cursor) : Prop :=
  ∀ d u afterSep v next, c ≤ d → sep d = .done u afterSep → item afterSep = .done v next →
    next.offset ≠ d.offset

/-! ## Rounds and bytes -/

/-- Every round passes at least one byte. -/
theorem Rounds.offset_add_length_le {c e d : Cursor} {vs : List α} (hadv : Advances item sep c)
    (h : Rounds item sep e vs d) (hce : c ≤ e) : e.offset + vs.length ≤ d.offset := by
  induction h with
  | nil => simp
  | @cons e afterSep next last u v vs hs hi _ ih =>
    have hle := Cursor.le_trans (sep.le_of_run hs) (item.le_of_run hi)
    have hne := hadv _ _ _ _ _ hce hs hi
    have hoffset := Cursor.offset_le hle
    have ih := ih (Cursor.le_trans hce hle)
    rw [List.length_cons]
    omega

/-- **An item begins beyond the item before it.** Otherwise the separator and the item before would
make a round that ends where it began. -/
theorem offset_lt_of_round {c e next afterSep : Cursor} {v : α} {u : β}
    (hadv : Advances item sep c) (hce : c ≤ e) (hi : item e = .done v next)
    (hs : sep next = .done u afterSep) : e.offset < afterSep.offset := by
  have hle := item.le_of_run hi
  have hle' := sep.le_of_run hs
  refine Nat.lt_of_not_le fun hback => ?_
  have hsame : afterSep = e := Cursor.eq_of_offset_le (Cursor.le_trans hle hle') hback
  subst hsame
  have hnext : next = afterSep := Cursor.eq_of_offset_le hle (Cursor.offset_le hle')
  subst hnext
  exact hadv _ _ _ _ _ hce hs hi rfl

/-- The places where items begin bound the separators that are read after an item. -/
theorem Rounds.offset_add_length_lt {c e next d afterSep : Cursor} {v : α} {vs : List α} {u : β}
    (hadv : Advances item sep c) (hce : c ≤ e) (hi : item e = .done v next)
    (h : Rounds item sep next vs d) (hs : sep d = .done u afterSep) :
    e.offset + vs.length < afterSep.offset := by
  induction h generalizing e v with
  | nil => exact offset_lt_of_round hadv hce hi hs
  | @cons next afterSep' next' last u' v' vs hs' hi' _ ih =>
    have hlt := offset_lt_of_round hadv hce hi hs'
    have hle := Cursor.le_trans (item.le_of_run hi) (sep.le_of_run hs')
    have ih := ih (Cursor.le_trans hce hle) hi' hs
    rw [List.length_cons]
    omega

/-- **The bytes of the text bound the rounds** after the first item, also with one more that has
begun. -/
theorem Rounds.length_le {c next d : Cursor} {v : α} {vs : List α} (hadv : Advances item sep c)
    (hi : item c = .done v next) (h : Rounds item sep next vs d) :
    vs.length ≤ utf8Length c.rest ∧
      ∀ u afterSep, sep d = .done u afterSep → vs.length < utf8Length c.rest := by
  have hle := item.le_of_run hi
  have hled := Cursor.le_trans hle h.le
  constructor
  · have hrounds := h.offset_add_length_le hadv hle
    have hnext := Cursor.offset_le hle
    have hbytes := Cursor.offset_add_utf8Length_rest hled
    omega
  · intro u afterSep hs
    have hrounds := h.offset_add_length_lt hadv (Cursor.le_refl c) hi hs
    have hbytes := Cursor.offset_add_utf8Length_rest (Cursor.le_trans hled (sep.le_of_run hs))
    omega

/-! ## Answers -/

/-- **A list with separators is an item and rounds.** Where the item and the separator come to an
end and no round ends where it began, so does the list, with at most as many rounds as there are
bytes. Its values are those of the items, in order, and it ends behind the last item, where the
separator fails. It fails with the first item, or with one behind a separator, and for the reason
that this item gives. -/
theorem separated_eq_rounds {c : Cursor} (hitem : ∀ d, c ≤ d → item d ≠ .endless)
    (hsep : ∀ d, c ≤ d → sep d ≠ .endless) (hadv : Advances item sep c) :
    item.separated sep c ≠ .endless ∧
    (∀ v next vs d, item c = .done v next → Rounds item sep next vs d →
      vs.length ≤ utf8Length c.rest ∧
        ∀ u afterSep, sep d = .done u afterSep → vs.length < utf8Length c.rest) ∧
    (∀ vs last, item.separated sep c = .done vs last ↔
      ∃ v next vs', vs = v :: vs' ∧ item c = .done v next ∧
        Rounds item sep next vs' last ∧ ∃ why, sep last = .failed why) ∧
    ∀ why, item.separated sep c = .failed why ↔ item c = .failed why ∨
      ∃ v next vs d u afterSep, item c = .done v next ∧ Rounds item sep next vs d ∧
        sep d = .done u afterSep ∧ item afterSep = .failed why := by
  refine ⟨fun h => ?_, fun _ _ _ _ hi h => h.length_le hadv hi, fun _ _ => separated_eq_done_iff,
    fun _ => separated_eq_failed_iff⟩
  rw [separated_apply] at h
  rcases Reply.andThen_eq_endless_iff.1 h with h | ⟨v, next, hi, h⟩
  · exact hitem c (Cursor.le_refl c) h
  · have hle := item.le_of_run hi
    refine separatedRest_ne_endless (fun d hd hstuck => ?_) (Reply.map_eq_endless_iff.1 h)
    have hcd := Cursor.le_trans hle hd
    rcases hstuck with hs | ⟨u, afterSep, hs, hi | ⟨w, hi⟩⟩
    · exact hsep d hcd hs
    · exact hitem afterSep (Cursor.le_trans hcd (sep.le_of_run hs)) hi
    · exact hadv _ _ _ _ _ hcd hs hi rfl

/-- Items that may consume nothing, behind separators that consume. -/
theorem separated_eq_rounds_of_empty_items :
    let item := digit.many
    let sep := literal ","
    let c : Cursor := ⟨2, "1,,23;".toList⟩
    (∀ d, c ≤ d → item d ≠ .endless) ∧ (∀ d, c ≤ d → sep d ≠ .endless) ∧ Advances item sep c ∧
      item.separated sep c = .done [['1'], [], ['2', '3']] ⟨7, [';']⟩ ∧
      ∃ v next, item c = .done v next ∧ Rounds item sep next [[], ['2', '3']] ⟨7, [';']⟩ ∧
        ∃ why, sep ⟨7, [';']⟩ = .failed why := by
  intro item sep c
  have hitem : ∀ d, c ≤ d → item d ≠ .endless := fun d _ => (ends_satisfying _ _).many d
  have hsep : ∀ d, c ≤ d → sep d ≠ .endless := fun d _ => ends_literal _ d
  have hadv : Advances item sep c := by
    intro d u afterSep v next _ hs hi
    have hlt := consumes_literal (by decide) d u afterSep hs
    exact Nat.ne_of_gt (Nat.lt_of_lt_of_le hlt (Cursor.offset_le (item.le_of_run hi)))
  obtain ⟨-, -, hdone, -⟩ := separated_eq_rounds hitem hsep hadv
  have heq : item.separated sep c = .done [['1'], [], ['2', '3']] ⟨7, [';']⟩ := by
    decide +kernel
  obtain ⟨v, next, vs, hvs, hi, hrounds, hend⟩ := (hdone _ _).1 heq
  cases hvs
  exact ⟨hitem, hsep, hadv, heq, _, next, hi, hrounds, hend⟩

end Aliasing.Grammar.Matcher
