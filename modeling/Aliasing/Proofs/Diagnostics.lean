import Aliasing.Proofs.NodeSets
/-!
# What a rejection says of the text

Every rejection was raised at some place of the text, at or after the one where the matcher was
asked to begin. It shows the first 30 characters from there, or all of them if there are fewer; or
it names an id that is too large, by the run of digits that stands there.

Main statements: `Diagnoses.bind`, `Diagnoses.separatedRest`, what is read before a failure only
moves the place on; `diagnoses_nodeId`, an id fails by what stands at its place.
-/

namespace Aliasing.Grammar

def Rejection.found? : Rejection → Option String
  | missingLiteral _ found => some found
  | notDigit found => some found
  | notWhiteSpace found => some found
  | notWordChar found => some found
  | trailingText found => some found
  | oversizedId _ => none

/-- A rejection tells what stands at the beginning of a text. -/
inductive Rejection.TellsOf : Rejection → List Char → Prop where
  /-- It names a whole run of digits whose number is too large. -/
  | digits {d rest : List Char} (hd : IsDigits d) (hlarge : UInt64.size ≤ decimal d)
      (hstop : Matcher.Stops Char.isDigit rest) :
      TellsOf (.oversizedId (String.ofList d)) (d ++ rest)
  /-- It shows up to 30 characters. -/
  | shown {why : Rejection} {text : List Char}
      (h : why.found? = some (String.ofList (text.take 30))) : TellsOf why text

namespace Matcher

variable {α β : Type}

/-- Every failure tells what stands at some place of the text that was to be read. -/
def Diagnoses (p : Matcher α) : Prop :=
  p.Blames fun text why => ∃ rest, rest <:+ text ∧ why.TellsOf rest

/-- A failure at the beginning of the text. -/
theorem diagnoses_of_tellsOf {p : Matcher α} (hp : p.Blames fun text why => why.TellsOf text) :
    p.Diagnoses := hp.mono fun text _ h => ⟨text, List.suffix_refl _, h⟩

/-! ## Characters and ids -/

theorem diagnoses_literal (expected : String) : (literal expected).Diagnoses := by
  refine diagnoses_of_tellsOf ((blames_literal expected).mono fun text why h => ?_)
  subst h
  exact .shown rfl

theorem diagnoses_satisfying {why : String → Rejection} (hwhy : ∀ s, (why s).found? = some s)
    (ok : Char → Bool) : (satisfying ok why).Diagnoses := by
  refine diagnoses_of_tellsOf ((blames_satisfying ok why).mono fun text why' h => ?_)
  subst h
  exact .shown (hwhy _)

theorem diagnoses_endOfText : endOfText.Diagnoses := by
  refine diagnoses_of_tellsOf (blames_endOfText.mono fun text why h => ?_)
  subst h
  exact .shown rfl

/-- **An id** fails for want of a digit, or with all the digits at its place. -/
theorem diagnoses_nodeId : nodeId.Diagnoses := by
  refine diagnoses_of_tellsOf fun c why h => ?_
  rcases Reply.andThen_eq_failed_iff.1 h with hdigits | ⟨digits, next, -, hnumber⟩
  · have hshown := (blames_satisfying Char.isDigit .notDigit).many1 c why hdigits
    subst hshown
    exact .shown rfl
  · have hwhy : why = .oversizedId (String.ofList digits) := by
      cases hn : NodeId.ofDigits? digits with
      | none =>
        simp only [hn] at hnumber
        exact (Reply.failed.inj hnumber).symm
      | some n =>
        simp only [hn] at hnumber
        cases hnumber
    obtain ⟨d, rest, htext, hd, hlarge, hstop, hdigits⟩ := blames_nodeId c why h _ hwhy
    rw [hwhy, htext, hdigits]
    exact .digits hd hlarge hstop

/-! ## Ways of putting matchers together -/

theorem diagnoses_pure (v : α) : (pure v : Matcher α).Diagnoses := blames_pure v

/-- **What was read before** a failure stands before the place that it tells of. -/
theorem Diagnoses.bind {p : Matcher α} {f : α → Matcher β} (hp : p.Diagnoses)
    (hf : ∀ v, (f v).Diagnoses) : (p >>= f).Diagnoses := by
  refine Blames.bind hp (spells_any p) fun w v _ => (hf v).mono ?_
  rintro text why ⟨rest, hrest, htells⟩
  exact ⟨rest, hrest.trans (List.suffix_append w text), htells⟩

theorem Diagnoses.orElse (p : Matcher α) {q : Matcher α} (hq : q.Diagnoses) :
    (p.orElse q).Diagnoses := Blames.orElse p hq

theorem Diagnoses.lookAhead {p : Matcher α} (hp : p.Diagnoses) : p.lookAhead.Diagnoses :=
  Blames.lookAhead hp

theorem diagnoses_many (p : Matcher α) : p.many.Diagnoses :=
  (blames_many p).mono fun _ _ h => h.elim

/-- A list with separators fails where an item fails, after whole rounds and a separator. -/
theorem Diagnoses.separatedRest {item : Matcher α} (hi : item.Diagnoses) (sep : Matcher β) :
    (item.separatedRest sep).Diagnoses := by
  refine (Blames.separatedRest hi (spells_any item) (spells_any sep)).mono ?_
  rintro _ why ⟨rounds, -, -, s, -, text, rfl, -, rest, hrest, htells⟩
  refine ⟨rest, hrest.trans ?_, htells⟩
  exact (List.suffix_append s text).trans (List.suffix_append rounds.flatten _)

end Matcher

end Aliasing.Grammar
