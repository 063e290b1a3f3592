import Aliasing.Grammar.Expr
import Aliasing.Proofs.Diagnostics
import Aliasing.Proofs.Positions
/-!
# Matchers that are put together

The grammars of this library, and whatever else can be put together from single characters, fixed
texts and ids by sequence, choice, repetition, separation and look-ahead. What every part has and
every way of putting parts together keeps, all of these matchers have.

Main statements: `Expr.built`, parser expressions are put together that way; `Built.shifts` and
`Built.diagnoses`; `Built.answers`, where a matcher ends and what its failures tell of.
-/

namespace Aliasing.Grammar

open Matcher

/-- A matcher is put together from those of single characters, of fixed texts, of the end of the
text and of ids. -/
inductive Built : {α : Type} → Matcher α → Prop where
  | literal (expected : String) : Built (literal expected)
  | digit : Built digit
  | whiteSpaceChar : Built whiteSpaceChar
  | wordChar : Built wordChar
  | endOfText : Built endOfText
  | nodeId : Built nodeId
  | pure {α : Type} (v : α) : Built (pure v : Matcher α)
  | bind {α β : Type} {p : Matcher α} {f : α → Matcher β} (hp : Built p)
      (hf : ∀ v, Built (f v)) : Built (p >>= f)
  | orElse {α : Type} {p q : Matcher α} (hp : Built p) (hq : Built q) : Built (p.orElse q)
  | lookAhead {α : Type} {p : Matcher α} (hp : Built p) : Built p.lookAhead
  | many {α : Type} {p : Matcher α} (hp : Built p) : Built p.many
  | separatedRest {α β : Type} {item : Matcher α} {sep : Matcher β} (hi : Built item)
      (hs : Built sep) : Built (item.separatedRest sep)

namespace Built

variable {α β : Type}

/-! ## Further ways of putting matchers together -/

theorem map {p : Matcher α} (hp : Built p) (f : α → β) : Built (f <$> p) :=
  hp.bind fun v => .pure (f v)

theorem pair {p : Matcher α} {q : Matcher β} (hp : Built p) (hq : Built q) : Built (p.pair q) :=
  hp.bind fun _ => hq.bind fun _ => .pure _

theorem many1 {p : Matcher α} (hp : Built p) : Built p.many1 :=
  hp.bind fun _ => hp.many.bind fun _ => .pure _

theorem separated {item : Matcher α} {sep : Matcher β} (hi : Built item) (hs : Built sep) :
    Built (item.separated sep) :=
  hi.bind fun _ => (hi.separatedRest hs).bind fun _ => .pure _

/-! ## The grammars -/

theorem word : Built word := wordChar.many1

theorem name : Built name :=
  ((literal _).bind fun _ => word.bind fun _ => .pure _).orElse
    (word.bind fun _ => (literal _).bind fun _ => word.bind fun _ => .pure _)

theorem gap : Built gap := whiteSpaceChar.many1.map _

theorem padding : Built padding := whiteSpaceChar.many.map _

theorem idSeparator : Built idSeparator :=
  gap.bind fun _ => digit.lookAhead.bind fun _ => .pure _

theorem nodeSet : Built nodeSet := (nodeId.separated idSeparator).map _

theorem record : Built record :=
  (literal _).bind fun _ => gap.bind fun _ => digit.many1.bind fun _ => gap.bind fun _ =>
  (literal _).bind fun _ => padding.bind fun _ => name.bind fun _ => (literal _).bind fun _ =>
  padding.bind fun _ => (literal _).bind fun _ => padding.bind fun _ => (literal _).bind fun _ =>
  padding.bind fun _ => nodeSet.bind fun _ => padding.bind fun _ => (literal _).bind fun _ =>
  .pure _

theorem quotedName : Built quotedName :=
  (literal _).bind fun _ => name.bind fun _ => (literal _).bind fun _ => .pure _

theorem members : Built members :=
  ((quotedName.separated ((literal _).bind fun _ => padding)).map _).orElse
    ((literal _).lookAhead.map _)

theorem aliasSet : Built aliasSet :=
  (literal _).bind fun _ => members.bind fun _ => (literal _).bind fun _ =>
  padding.bind fun _ => endOfText.bind fun _ => .pure _

end Built

/-- **Parser expressions** are put together that way. -/
theorem Expr.built : ∀ e : Expr, Built e.matcher
  | literal _ => (Built.literal _).map _
  | digit => Built.digit.map _
  | whiteSpace => Built.whiteSpaceChar.map _
  | wordChar => Built.wordChar.map _
  | endOfText => Built.endOfText.map _
  | name => Built.name.map _
  | nodeId => Built.nodeId.map _
  | nodeSet => Built.nodeSet.map _
  | record => Built.record.map _
  | aliasSet => Built.aliasSet.map _
  | many p => p.built.many.map _
  | many1 p => p.built.many1.map _
  | orElse p q => p.built.orElse q.built
  | pair p q => (p.built.pair q.built).map _
  | separated item sep => (item.built.separated sep.built).map _
  | lookAhead p => p.built.lookAhead
  | shaped _ p => p.built.map _

namespace Built

variable {α : Type} {p : Matcher α}

/-! ## What they have in common -/

/-- **No such matcher looks at the offset** of its cursor. -/
theorem shifts (hp : Built p) : p.Shifts := by
  induction hp with
  | literal expected => exact shifts_literal expected
  | digit => exact shifts_satisfying _ _
  | whiteSpaceChar => exact shifts_satisfying _ _
  | wordChar => exact shifts_satisfying _ _
  | endOfText => exact shifts_endOfText
  | nodeId =>
    refine (shifts_satisfying _ _).many1.bind fun digits => ?_
    cases NodeId.ofDigits? digits
    · exact shifts_reject _
    · exact shifts_pure _
  | pure v => exact shifts_pure v
  | bind _ _ ihp ihf => exact ihp.bind ihf
  | orElse _ _ ihp ihq => exact ihp.orElse ihq
  | lookAhead _ ih => exact ih.lookAhead
  | many _ ih => exact ih.many
  | separatedRest _ _ ihi ihs => exact ihi.separatedRest ihs

/-- **Every failure of such a matcher** tells what stands at some place of the text. -/
theorem diagnoses (hp : Built p) : p.Diagnoses := by
  induction hp with
  | literal expected => exact diagnoses_literal expected
  | digit => exact diagnoses_satisfying (fun _ => rfl) _
  | whiteSpaceChar => exact diagnoses_satisfying (fun _ => rfl) _
  | wordChar => exact diagnoses_satisfying (fun _ => rfl) _
  | endOfText => exact diagnoses_endOfText
  | nodeId => exact diagnoses_nodeId
  | pure v => exact diagnoses_pure v
  | bind _ _ ihp ihf => exact ihp.bind ihf
  | orElse _ _ _ ihq => exact Diagnoses.orElse _ ihq
  | lookAhead _ ih => exact ih.lookAhead
  | many _ _ => exact diagnoses_many _
  | separatedRest _ _ ihi _ => exact ihi.separatedRest _

/-- **The answers of a matcher at a cursor of a text.** A success ends in the same text, at a
boundary between two characters that is not before the cursor. A failure tells what stands at such a
boundary. And the answer is that at the start of what is left of the text, moved by the offset of
the cursor. -/
theorem answers (hp : Built p) (text : String) (c : Cursor) (hc : c.On text) :
    (∀ v next, p c = .done v next →
      next.On text ∧ c.offset ≤ next.offset ∧ next.offset ≤ text.utf8ByteSize ∧
        String.Pos.Raw.IsValid text ⟨next.offset⟩) ∧
      (∀ why, p c = .failed why →
        ∃ d : Cursor, d.On text ∧ c.offset ≤ d.offset ∧ why.TellsOf d.rest) ∧
      p c = (p (.start c.rest)).shift c.offset := by
  refine ⟨fun v next hdone => ?_, fun why hfailed => ?_, hp.shifts.eq_shift_start c⟩
  · have hle := p.le_of_run hdone
    have hnext := hc.of_le hle
    exact ⟨hnext, Cursor.offset_le hle, hnext.offset_le_utf8ByteSize, hnext.isValid⟩
  · obtain ⟨rest, ⟨w, hw⟩, htells⟩ := hp.diagnoses c why hfailed
    have hle : c ≤ c.advance w.length := ⟨w.length, by simp [← hw], rfl⟩
    refine ⟨c.advance w.length, hc.of_le hle, Cursor.offset_le hle, ?_⟩
    rw [Cursor.rest_advance, ← hw, List.drop_left]
    exact htells

/-- Ids and padding after characters of two and of three bytes. -/
theorem answers_after_wide_characters :
    let text := "é→1 007  x"
    let c : Cursor := ⟨5, "1 007  x".toList⟩
    let p := Grammar.nodeSet.pair Grammar.padding
    Built p ∧ c.On text ∧ ∃ v next, p c = .done v next ∧ next.offset = 12 ∧ next.On text ∧
      String.Pos.Raw.IsValid text ⟨next.offset⟩ ∧ p c = (p (.start c.rest)).shift 5 := by
  intro text c p
  have hp : Built p := nodeSet.pair padding
  have hc : c.On text := ⟨['é', '→'], by decide, by decide⟩
  obtain ⟨hdone, -, hshift⟩ := answers hp text c hc
  have hend : (match p c with | .done _ next => next.offset | _ => 0) = 12 := by decide +kernel
  cases h : p c with
  | done v next =>
    rw [h] at hend
    obtain ⟨hnext, -, -, hvalid⟩ := hdone v next h
    exact ⟨hp, hc, v, next, rfl, hend, hnext, hvalid, h ▸ hshift⟩
  | failed why =>
    rw [h] at hend
    cases hend
  | endless =>
    rw [h] at hend
    cases hend

end Built

end Aliasing.Grammar
