import Aliasing.Grammar.Progress
/-!
# Repetitions of repetitions

A repetition ends where its matcher is idle, and there it is idle itself. So a repetition inside a
repetition runs once if anything can be consumed, and otherwise not at all. The form that asks for
one run at least keeps the value of the first even if it consumed nothing.

Main statements: `many_of_idle`, one run after which the matcher is idle is the whole repetition;
`idle_many_iff`, a repetition is idle where its matcher is; `many_eq_runs`, what the two forms of
repetition answer, alone and one inside the other.
-/

namespace Aliasing.Grammar.Matcher

variable {α : Type} {p : Matcher α}

/-! ## At least one run -/

theorem many1_apply (p : Matcher α) (c : Cursor) :
    p.many1 c = (p c).andThen fun v next => (p.many next).map (v :: ·) := rfl

/-- **One run and a repetition** make the form that asks for one run at least. -/
theorem many1_eq_pair (p : Matcher α) : p.many1 = (fun vw => vw.1 :: vw.2) <$> p.pair p.many := by
  simp only [many1, pair, map_bind, map_pure]

/-- It fails just where its matcher does. -/
theorem many1_eq_failed_iff {c : Cursor} {why : Rejection} :
    p.many1 c = .failed why ↔ p c = .failed why := by
  rw [many1_apply, Reply.andThen_eq_failed_iff]
  constructor
  · rintro (h | ⟨v, next, -, h⟩)
    · exact h
    · exact absurd (Reply.map_eq_failed_iff.1 h) many_ne_failed
  · exact Or.inl

/-- A first success that consumes nothing is kept, and no other follows. -/
theorem many1_of_done_here {c : Cursor} {v : α} (h : p c = .done v c) :
    p.many1 c = .done [v] c := by
  have hidle : Idle p c := Or.inr ⟨v, h⟩
  rw [many1_apply, h, Reply.andThen_done, hidle.many_eq, Reply.map_done]

/-- Where a run leads away, one run at least is what there is. -/
theorem many1_of_many {c last : Cursor} {vs : List α} (h : p.many c = .done vs last)
    (hne : vs ≠ []) : p.many1 c = .done vs last := by
  obtain ⟨hruns, hidle⟩ := many_eq_done_iff.1 h
  cases hruns with
  | nil => exact absurd rfl hne
  | cons hv _ hruns =>
    rw [many1_apply, hv, Reply.andThen_done, many_eq_done_iff.2 ⟨hruns, hidle⟩, Reply.map_done]

/-! ## Repetitions inside -/

theorem idle_many1 {c : Cursor} (h : Idle p c) : Idle p.many1 c := by
  rcases h with ⟨why, hv⟩ | ⟨v, hv⟩
  · exact Or.inl ⟨why, many1_eq_failed_iff.2 hv⟩
  · exact Or.inr ⟨[v], many1_of_done_here hv⟩

/-- **A repetition is idle** just where its matcher is. -/
theorem idle_many_iff {c : Cursor} : Idle p.many c ↔ Idle p c := by
  constructor
  · rintro (⟨why, h⟩ | ⟨vs, h⟩)
    · exact absurd h many_ne_failed
    · exact (many_eq_done_iff.1 h).2
  · intro h
    exact Or.inr ⟨[], h.many_eq⟩

/-- One run, after which the matcher is idle, is the whole repetition if it leads away. -/
theorem many_of_idle {c last : Cursor} {v : α} (h : p c = .done v last) (hidle : Idle p last) :
    p.many c = .done (if last = c then [] else [v]) last := by
  by_cases hsame : last = c
  · subst hsame
    rw [if_pos rfl, hidle.many_eq]
  · rw [if_neg hsame]
    have hlt : c.offset < last.offset :=
      Nat.lt_of_not_le fun hle => hsame (Cursor.eq_of_offset_le (p.le_of_run h) hle)
    exact many_eq_done_iff.2 ⟨.cons h hlt .nil, hidle⟩

theorem many_many {c last : Cursor} {vs : List α} (h : p.many c = .done vs last) :
    p.many.many c = .done (if vs = [] then [] else [vs]) last := by
  obtain ⟨hruns, hidle⟩ := many_eq_done_iff.1 h
  rw [many_of_idle h (idle_many_iff.2 hidle)]
  simp only [hruns.eq_nil_iff]

/-- Where nothing can be consumed, there is no difference between asking for a run and not. -/
theorem many_many1 {c last : Cursor} {vs : List α} (h : p.many c = .done vs last) :
    p.many1.many c = .done (if vs = [] then [] else [vs]) last := by
  obtain ⟨hruns, hidle⟩ := many_eq_done_iff.1 h
  by_cases hnil : vs = []
  · obtain rfl : last = c := hruns.eq_nil_iff.1 hnil
    rw [if_pos hnil, (idle_many1 hidle).many_eq]
  · rw [many_of_idle (many1_of_many h hnil) (idle_many1 hidle)]
    simp only [hruns.eq_nil_iff]

theorem many1_many {c last : Cursor} {vs : List α} (h : p.many c = .done vs last) :
    p.many.many1 c = .done [vs] last := by
  have hidle : Idle p.many last := idle_many_iff.2 (many_eq_done_iff.1 h).2
  rw [many1_apply, h, Reply.andThen_done, hidle.many_eq, Reply.map_done]

/-! ## Both forms -/

/-- **A repetition is as many runs as consume.** Where every run of the matcher comes to an end, so
does the repetition, with a value: those of the runs, each from where the one before has ended and
each beyond it, up to where the matcher is idle; there are no more of them than bytes. A repetition
from there on is empty. One run at least is a run and a repetition, which fails just as the run
does and keeps its value even if it consumed nothing. A repetition of either form inside a
repetition has one run, or none where nothing can be consumed; asked for one run, it has just
one. -/
theorem many_eq_runs {c : Cursor} (hends : ∀ d, c ≤ d → p d ≠ .endless) :
    (∃ vs last, p.many c = .done vs last) ∧
    (∀ vs last, p.many c = .done vs last ↔ Runs p c vs last ∧ Idle p last) ∧
    (p.many1 c ≠ .endless ∧ p.many1 c = (p.pair p.many c).map fun vw => vw.1 :: vw.2) ∧
    (∀ why, p.many1 c = .failed why ↔ p c = .failed why) ∧
    (∀ v, p c = .done v c → p.many1 c = .done [v] c) ∧
    ∀ vs last, p.many c = .done vs last →
      vs.length ≤ utf8Length c.rest ∧ p.many last = .done [] last ∧
      p.many.many c = .done (if vs = [] then [] else [vs]) last ∧
      p.many1.many c = .done (if vs = [] then [] else [vs]) last ∧
      p.many.many1 c = .done [vs] last := by
  refine ⟨exists_many_eq_done hends, fun _ _ => many_eq_done_iff, ⟨fun hend => ?_, ?_⟩,
    fun _ => many1_eq_failed_iff, fun _ => many1_of_done_here, fun vs last h => ?_⟩
  · rw [many1_apply] at hend
    rcases Reply.andThen_eq_endless_iff.1 hend with hend | ⟨v, next, hv, hend⟩
    · exact hends c (Cursor.le_refl c) hend
    · obtain ⟨_, d, hruns, hend⟩ := many_eq_endless_iff.1 (Reply.map_eq_endless_iff.1 hend)
      exact hends d (Cursor.le_trans (p.le_of_run hv) hruns.le) hend
  · rw [many1_eq_pair, map_apply]
  · obtain ⟨hruns, hidle⟩ := many_eq_done_iff.1 h
    exact ⟨hruns.length_le, hidle.many_eq, many_many h, many_many1 h, many1_many h⟩

/-- Numbers with commas behind them, or else nothing: where no number stands, the matcher reads an
empty text and consumes nothing. -/
theorem many_eq_runs_of_empty_success :
    let p : Matcher (List Char) := digit.many >>= fun d => literal "," >>= fun _ => pure d
    let q := p.orElse (pure [])
    let c : Cursor := ⟨2, "12,,3".toList⟩
    (∀ d, c ≤ d → q d ≠ .endless) ∧ q.many c = .done [['1', '2'], []] ⟨6, ['3']⟩ ∧
      q ⟨6, ['3']⟩ = .done [] ⟨6, ['3']⟩ ∧ Runs q c [['1', '2'], []] ⟨6, ['3']⟩ ∧
      q.many ⟨6, ['3']⟩ = .done [] ⟨6, ['3']⟩ ∧
      q.many.many c = .done [[['1', '2'], []]] ⟨6, ['3']⟩ ∧
      q.many1.many c = .done [[['1', '2'], []]] ⟨6, ['3']⟩ ∧
      q.many.many1 c = .done [[['1', '2'], []]] ⟨6, ['3']⟩ := by
  intro p q c
  have hends : ∀ d, c ≤ d → q d ≠ .endless := fun d _ =>
    ((ends_satisfying _ _).many.bind fun _ => (ends_literal _).bind fun _ => ends_pure _).orElse
      (ends_pure _) d
  have hmany : q.many c = .done [['1', '2'], []] ⟨6, ['3']⟩ := by decide +kernel
  obtain ⟨-, hdone, -, -, -, hrest⟩ := many_eq_runs hends
  obtain ⟨-, hagain, hmm, hm1, h1m⟩ := hrest _ _ hmany
  exact ⟨hends, hmany, by decide +kernel, ((hdone _ _).1 hmany).1, hagain, hmm, hm1, h1m⟩

end Aliasing.Grammar.Matcher
