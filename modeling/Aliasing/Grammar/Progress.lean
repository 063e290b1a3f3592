import Aliasing.Grammar.Characters
import Aliasing.Grammar.Rounds
import Aliasing.Grammar.Runs
/-!
# Progress

Two properties of matchers, each kept by the ways of putting matchers together: `Consumes`, a
success ends beyond its cursor; and `Ends`, no repetition goes round for ever.

Main statement: `ends_separated`, a list with separators comes to an end when its items consume.
-/

namespace Aliasing.Grammar.Matcher

variable {α β : Type}

/-- A success ends beyond the cursor where it began. -/
def Consumes (p : Matcher α) : Prop :=
  ∀ c v next, p c = .done v next → c.offset < next.offset

/-- No cursor makes the matcher go round for ever. -/
def Ends (p : Matcher α) : Prop := ∀ c, p c ≠ .endless

/-! ## Consuming -/

theorem consumes_satisfying (ok : Char → Bool) (why : String → Rejection) :
    (satisfying ok why).Consumes := by
  intro c v next h
  obtain ⟨-, rfl, rest, hr⟩ := satisfying_eq_done_iff.1 h
  simp [hr, Char.utf8Size_pos]

theorem Consumes.bind {p : Matcher α} (hp : p.Consumes) (f : α → Matcher β) :
    (p >>= f).Consumes := by
  intro c w last h
  obtain ⟨v, next, h1, h2⟩ := Reply.andThen_eq_done_iff.1 h
  exact Nat.lt_of_lt_of_le (hp _ _ _ h1) (Cursor.offset_le ((f v).le_of_run h2))

theorem Consumes.many1 {p : Matcher α} (hp : p.Consumes) : p.many1.Consumes := hp.bind _

theorem consumes_literal {expected : String} (h : expected.toList ≠ []) :
    (literal expected).Consumes := by
  intro c v next hd
  obtain ⟨hp, rfl⟩ := literal_eq_done_iff.1 hd
  rw [Cursor.offset_advance, ← List.prefix_iff_eq_take.1 hp]
  exact Nat.lt_add_of_pos_right (utf8Length_pos_iff.2 h)

/-! ## Coming to an end -/

theorem ends_pure (v : α) : (pure v : Matcher α).Ends := by
  intro c h
  cases h

theorem ends_reject (why : Rejection) : (reject why : Matcher α).Ends := by
  intro c h
  cases h

theorem Ends.bind {p : Matcher α} {f : α → Matcher β} (hp : p.Ends) (hf : ∀ v, (f v).Ends) :
    (p >>= f).Ends := by
  intro c h
  rcases Reply.andThen_eq_endless_iff.1 h with h | ⟨v, next, -, h⟩
  · exact hp c h
  · exact hf v next h

theorem Ends.map {p : Matcher α} (hp : p.Ends) (f : α → β) : (f <$> p).Ends :=
  fun c h => hp c (Reply.map_eq_endless_iff.1 h)

theorem Ends.orElse {p q : Matcher α} (hp : p.Ends) (hq : q.Ends) : (p.orElse q).Ends := by
  intro c h
  rw [orElse_apply] at h
  split at h
  · exact hq c h
  · exact hp c h

theorem Ends.lookAhead {p : Matcher α} (hp : p.Ends) : p.lookAhead.Ends := by
  intro c h
  rcases Reply.andThen_eq_endless_iff.1 h with h | ⟨_, _, -, h⟩
  · exact hp c h
  · cases h

theorem Ends.many {p : Matcher α} (hp : p.Ends) : p.many.Ends := by
  intro c h
  obtain ⟨_, d, _, hend⟩ := many_eq_endless_iff.1 h
  exact hp d hend

theorem Ends.many1 {p : Matcher α} (hp : p.Ends) : p.many1.Ends :=
  hp.bind fun _ => hp.many.bind fun _ => ends_pure _

/-- Separated lists come to an end when no round can end where it began. -/
theorem ends_separatedRest {item : Matcher α} {sep : Matcher β} (hi : item.Ends) (hs : sep.Ends)
    (hc : item.Consumes) : (item.separatedRest sep).Ends := by
  refine fun c => separatedRest_ne_endless fun d _ hstuck => ?_
  rcases hstuck with h | ⟨w, afterSep, hw, h | ⟨v, hv⟩⟩
  · exact hs d h
  · exact hi afterSep h
  · exact Nat.not_lt.2 (Cursor.offset_le (sep.le_of_run hw)) (hc _ _ _ hv)

/-- **Separated lists end** when their items consume. -/
theorem ends_separated {item : Matcher α} {sep : Matcher β} (hi : item.Ends) (hs : sep.Ends)
    (hc : item.Consumes) : (item.separated sep).Ends :=
  hi.bind fun _ => (ends_separatedRest hi hs hc).bind fun _ => ends_pure _

theorem ends_satisfying (ok : Char → Bool) (why : String → Rejection) :
    (satisfying ok why).Ends := by
  intro c h
  rw [satisfying_apply] at h
  split at h
  · cases h
  · split at h <;> cases h

theorem ends_literal (expected : String) : (literal expected).Ends := by
  intro c h
  rw [literal_apply] at h
  split at h <;> cases h

theorem ends_endOfText : endOfText.Ends := by
  intro c h
  rw [endOfText_apply] at h
  split at h <;> cases h

end Aliasing.Grammar.Matcher
