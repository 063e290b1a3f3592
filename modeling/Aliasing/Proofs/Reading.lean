import Mathlib.Data.List.Forall2
import Aliasing.Grammar.Progress
/-!
# What matchers read

Two views of a matcher. From the text: `Reads`, a text makes it answer with a given value and leaves
a given rest, `Rejects`, a text makes it fail, and `Refuses`, a text makes it fail for a given
reason. From the answer: `Spells`, whatever it reads has been spelled by the characters it consumed,
and `Blames`, whatever reason it gives has been given by the text it stopped at. Each way of putting
matchers together has one lemma for each view, so a grammar is read off its own definition.

Main statements: `reads_many1_satisfying`, a run of characters is read up to the first one that does
not pass; `Runs.spells` and `Rounds.spells`, what the runs of a repetition and the rounds of a
separated list consume stands there one after the other, so `Spells.separatedRest` and
`Blames.separatedRest`, such a list consumes its rounds, and fails at an item only, after the rounds
before it.
-/

namespace Aliasing.Grammar

/-- A caller that asks for the value alone gets that of a success. -/
theorem Reply.map_fst_toExcept_eq_ok_iff {α : Type} {r : Reply α} {h : r ≠ .endless} {v : α} :
    (r.toExcept h).map Prod.fst = .ok v ↔ ∃ next, r = .done v next := by
  cases r with
  | endless => exact absurd rfl h
  | done => simp [toExcept, Except.map]
  | failed => simp [toExcept, Except.map]

theorem Reply.map_fst_toExcept_eq_error_iff {α : Type} {r : Reply α} {h : r ≠ .endless}
    {why : Rejection} : (r.toExcept h).map Prod.fst = .error why ↔ r = .failed why := by
  cases r with
  | endless => exact absurd rfl h
  | done => simp [toExcept, Except.map]
  | failed => simp [toExcept, Except.map]

/-- Values for all members of a list are values for each of them. -/
theorem exists_forall₂_iff {α β : Type} {R : α → β → Prop} {l : List α} :
    (∃ vs, List.Forall₂ R l vs) ↔ ∀ a ∈ l, ∃ v, R a v := by
  induction l with
  | nil => simp
  | cons a l ih =>
    rw [List.forall_mem_cons, ← ih]
    constructor
    · rintro ⟨_, hv | ⟨hv, hvs⟩⟩
      exact ⟨⟨_, hv⟩, _, hvs⟩
    · rintro ⟨⟨v, hv⟩, vs, hvs⟩
      exact ⟨v :: vs, .cons hv hvs⟩

namespace Matcher

variable {α β : Type}

/-- Wherever `text` follows, the matcher reads `v` and leaves `rest`. -/
def Reads (p : Matcher α) (text : List Char) (v : α) (rest : List Char) : Prop :=
  ∀ c : Cursor, c.rest = text → ∃ next, p c = .done v next ∧ next.rest = rest

/-- Wherever `text` follows, the matcher fails. -/
def Rejects (p : Matcher α) (text : List Char) : Prop :=
  ∀ c : Cursor, c.rest = text → ∃ why, p c = .failed why

/-- Wherever `text` follows, the matcher fails for the reason `why`. -/
def Refuses (p : Matcher α) (text : List Char) (why : Rejection) : Prop :=
  ∀ c : Cursor, c.rest = text → p c = .failed why

/-- A text does not begin with a character that passes the test. -/
def Stops (ok : Char → Bool) (text : List Char) : Prop := ∀ x ∈ text.head?, ok x = false

/-- What is read is spelled, in the sense of `G`, by the characters consumed. -/
def Spells (p : Matcher α) (G : List Char → α → Prop) : Prop :=
  ∀ c v next, p c = .done v next → ∃ w, c.rest = w ++ next.rest ∧ G w v

/-- The reason of a failure is given, in the sense of `G`, by the text that was to be read. -/
def Blames (p : Matcher α) (G : List Char → Rejection → Prop) : Prop :=
  ∀ c why, p c = .failed why → G c.rest why

/-! ## From the text -/

section Reads

variable {p : Matcher α} {text mid rest : List Char} {v : α}

theorem reads_pure (v : α) (text : List Char) : (pure v : Matcher α).Reads text v text :=
  fun c hc => ⟨c, rfl, hc⟩

theorem Reads.bind {f : α → Matcher β} {w : β} (hp : p.Reads text v mid)
    (hf : (f v).Reads mid w rest) : (p >>= f).Reads text w rest := by
  intro c hc
  obtain ⟨next, hv, hnext⟩ := hp c hc
  obtain ⟨last, hw, hlast⟩ := hf next hnext
  exact ⟨last, by rw [bind_apply, hv, Reply.andThen_done, hw], hlast⟩

theorem Reads.map (hp : p.Reads text v rest) (f : α → β) : (f <$> p).Reads text (f v) rest := by
  intro c hc
  obtain ⟨next, hv, hnext⟩ := hp c hc
  exact ⟨next, by rw [map_apply, hv, Reply.map_done], hnext⟩

theorem Reads.orElse (hp : p.Reads text v rest) (q : Matcher α) :
    (p.orElse q).Reads text v rest := by
  intro c hc
  obtain ⟨next, hv, hnext⟩ := hp c hc
  exact ⟨next, by rw [orElse_apply, hv], hnext⟩

theorem Rejects.orElse {q : Matcher α} (hp : p.Rejects text) (hq : q.Reads text v rest) :
    (p.orElse q).Reads text v rest := by
  intro c hc
  obtain ⟨why, hwhy⟩ := hp c hc
  obtain ⟨next, hv, hnext⟩ := hq c hc
  exact ⟨next, by rw [orElse_apply, hwhy, hv], hnext⟩

theorem Reads.lookAhead (hp : p.Reads text v rest) : p.lookAhead.Reads text v text := by
  intro c hc
  obtain ⟨next, hv, -⟩ := hp c hc
  exact ⟨c, by rw [lookAhead_apply, hv, Reply.andThen_done], hc⟩

theorem Rejects.bind (hp : p.Rejects text) (f : α → Matcher β) : (p >>= f).Rejects text := by
  intro c hc
  obtain ⟨why, hwhy⟩ := hp c hc
  exact ⟨why, by rw [bind_apply, hwhy, Reply.andThen_failed]⟩

theorem Rejects.map (hp : p.Rejects text) (f : α → β) : (f <$> p).Rejects text := by
  intro c hc
  obtain ⟨why, hwhy⟩ := hp c hc
  exact ⟨why, by rw [map_apply, hwhy, Reply.map_failed]⟩

/-- A round that leaves less than it found is the first of the repetition. -/
theorem Reads.many_cons {vs : List α} (hp : p.Reads text v mid) (hlt : mid.length < text.length)
    (hrest : p.many.Reads mid vs rest) : p.many.Reads text (v :: vs) rest := by
  intro c hc
  obtain ⟨next, hv, hnext⟩ := hp c hc
  obtain ⟨last, hvs, hlast⟩ := hrest next hnext
  have hfurther : c.offset < next.offset := by
    rw [Cursor.offset_lt_iff (p.le_of_run hv), hc, hnext]
    exact hlt
  refine ⟨last, ?_, hlast⟩
  rw [many_apply, hv]
  simp only [hfurther, if_true, hvs, Reply.map_done]

theorem Rejects.many (hp : p.Rejects text) : p.many.Reads text [] text := by
  intro c hc
  obtain ⟨why, hwhy⟩ := hp c hc
  exact ⟨c, by rw [many_apply, hwhy], hc⟩

theorem Reads.many1 {vs : List α} (hp : p.Reads text v mid) (hrest : p.many.Reads mid vs rest) :
    p.many1.Reads text (v :: vs) rest := hp.bind (hrest.bind (reads_pure _ _))

/-- A round of separator and item that leaves less than it found is the first of the list. -/
theorem Reads.separatedRest_cons {item : Matcher α} {sep : Matcher β} {u : β} {vs : List α}
    {afterSep : List Char} (hsep : sep.Reads text u afterSep) (hitem : item.Reads afterSep v mid)
    (hlt : mid.length < text.length) (hrest : (item.separatedRest sep).Reads mid vs rest) :
    (item.separatedRest sep).Reads text (v :: vs) rest := by
  intro c hc
  obtain ⟨c', hu, hc'⟩ := hsep c hc
  obtain ⟨next, hv, hnext⟩ := hitem c' hc'
  obtain ⟨last, hvs, hlast⟩ := hrest next hnext
  have hfurther : c.offset < next.offset := by
    rw [Cursor.offset_lt_iff (Cursor.le_trans (sep.le_of_run hu) (item.le_of_run hv)), hc, hnext]
    exact hlt
  refine ⟨last, ?_, hlast⟩
  rw [separatedRest_apply, hu]
  simp only [hv, hfurther, if_true, hvs, Reply.map_done]

theorem Rejects.separatedRest {item : Matcher α} {sep : Matcher β} (hsep : sep.Rejects text) :
    (item.separatedRest sep).Reads text [] text := by
  intro c hc
  obtain ⟨why, hwhy⟩ := hsep c hc
  exact ⟨c, by rw [separatedRest_apply, hwhy], hc⟩

theorem Reads.separated {item : Matcher α} {sep : Matcher β} {vs : List α}
    (hitem : item.Reads text v mid) (hrest : (item.separatedRest sep).Reads mid vs rest) :
    (item.separated sep).Reads text (v :: vs) rest := hitem.bind (hrest.bind (reads_pure _ _))

/-- A value that is read from the characters in front ends behind them. -/
theorem Reads.eq_done {w : List Char} (h : p.Reads (w ++ rest) v rest) {c : Cursor}
    (hc : c.rest = w ++ rest) : p c = .done v (c.advance w.length) := by
  obtain ⟨next, hv, hnext⟩ := h c hc
  rw [hv, Cursor.eq_advance_of_le (p.le_of_run hv) (hnext.symm ▸ hc)]

/-- A text is read in one way only. -/
theorem Reads.unique {v' : α} {rest' : List Char} (h : p.Reads text v rest)
    (h' : p.Reads text v' rest') : v = v' ∧ rest = rest' := by
  obtain ⟨next, hv, hnext⟩ := h ⟨0, text⟩ rfl
  obtain ⟨next', hv', hnext'⟩ := h' ⟨0, text⟩ rfl
  obtain ⟨rfl, rfl⟩ := Reply.done.inj (hv.symm.trans hv')
  exact ⟨rfl, hnext.symm.trans hnext'⟩

end Reads

section Refuses

variable {p : Matcher α} {text mid : List Char} {v : α} {why : Rejection}

theorem refuses_reject (text : List Char) (why : Rejection) :
    (reject why : Matcher α).Refuses text why := fun _ _ => rfl

theorem Refuses.rejects (hp : p.Refuses text why) : p.Rejects text := fun c hc => ⟨why, hp c hc⟩

theorem Refuses.bind (hp : p.Refuses text why) (f : α → Matcher β) :
    (p >>= f).Refuses text why := by
  intro c hc
  rw [bind_apply, hp c hc, Reply.andThen_failed]

theorem Reads.bind_refuses {f : α → Matcher β} (hp : p.Reads text v mid)
    (hf : (f v).Refuses mid why) : (p >>= f).Refuses text why := by
  intro c hc
  obtain ⟨next, hv, hnext⟩ := hp c hc
  rw [bind_apply, hv, Reply.andThen_done]
  exact hf next hnext

theorem Refuses.map (hp : p.Refuses text why) (f : α → β) : (f <$> p).Refuses text why := by
  intro c hc
  rw [map_apply, hp c hc, Reply.map_failed]

theorem Refuses.lookAhead (hp : p.Refuses text why) : p.lookAhead.Refuses text why := by
  intro c hc
  rw [lookAhead_apply, hp c hc, Reply.andThen_failed]

/-- A separator that is read makes the failure of the item that of the list. -/
theorem Refuses.separatedRest {item : Matcher α} {sep : Matcher β} {u : β} {afterSep : List Char}
    (hsep : sep.Reads text u afterSep) (hitem : item.Refuses afterSep why) :
    (item.separatedRest sep).Refuses text why := by
  intro c hc
  obtain ⟨c', hu, hc'⟩ := hsep c hc
  rw [separatedRest_apply, hu]
  simp only [hitem c' hc']

/-- Rounds that are read put off the failure of the list. -/
theorem Refuses.separatedRest_cons {item : Matcher α} {sep : Matcher β} {u : β}
    {afterSep : List Char} (hsep : sep.Reads text u afterSep) (hitem : item.Reads afterSep v mid)
    (hlt : mid.length < text.length) (hrest : (item.separatedRest sep).Refuses mid why) :
    (item.separatedRest sep).Refuses text why := by
  intro c hc
  obtain ⟨c', hu, hc'⟩ := hsep c hc
  obtain ⟨next, hv, hnext⟩ := hitem c' hc'
  have hfurther : c.offset < next.offset := by
    rw [Cursor.offset_lt_iff (Cursor.le_trans (sep.le_of_run hu) (item.le_of_run hv)), hc, hnext]
    exact hlt
  rw [separatedRest_apply, hu]
  simp only [hv, hfurther, if_true, hrest next hnext, Reply.map_failed]

end Refuses

/-! ## Characters -/

section Characters

variable {ok : Char → Bool} {why : String → Rejection} {rest : List Char}

theorem stops_nil : Stops ok [] := fun _ hx => by cases hx

theorem stops_of_head? {x : Char} (hrest : rest.head? = some x) (hx : ok x = false) :
    Stops ok rest := by
  intro y hy
  rw [hrest] at hy
  rw [← Option.some.inj hy]
  exact hx

theorem stops_append {w : List Char} (hne : w ≠ []) (hw : ∀ x ∈ w, ok x = false)
    (rest : List Char) : Stops ok (w ++ rest) := by
  cases w with
  | nil => exact absurd rfl hne
  | cons x w => exact stops_of_head? rfl (hw x List.mem_cons_self)

theorem not_stops_append {w : List Char} (hne : w ≠ []) (hw : ∀ x ∈ w, ok x = true)
    (rest : List Char) : ¬ Stops ok (w ++ rest) := by
  intro hstop
  cases w with
  | nil => exact hne rfl
  | cons x w =>
    have hno : ok x = false := hstop x rfl
    rw [hw x List.mem_cons_self] at hno
    cases hno

/-- Every text begins with a run, perhaps an empty one, and goes on with something else. -/
theorem exists_run (ok : Char → Bool) (text : List Char) :
    ∃ w rest, text = w ++ rest ∧ (∀ x ∈ w, ok x = true) ∧ Stops ok rest := by
  refine ⟨text.takeWhile ok, text.dropWhile ok, List.takeWhile_append_dropWhile.symm, ?_, ?_⟩
  · exact List.all_eq_true.1 List.all_takeWhile
  · intro x hx
    have hhead := List.head?_dropWhile_not ok text
    rw [Option.mem_def.1 hx] at hhead
    simpa using hhead

/-- The run is determined by the text that it is a part of. -/
theorem takeWhile_append_of_stops {w : List Char} (hw : ∀ x ∈ w, ok x = true)
    (hstop : Stops ok rest) : (w ++ rest).takeWhile ok = w := by
  rw [List.takeWhile_append_of_pos hw]
  cases rest with
  | nil => simp
  | cons x rest => simp [hstop x rfl]

/-- Two runs that stand at one place, each with something else behind it, are the same. -/
theorem run_inj {v w t : List Char} (hv : ∀ x ∈ v, ok x = true) (hw : ∀ x ∈ w, ok x = true)
    (ht : Stops ok t) (hrest : Stops ok rest) (h : v ++ t = w ++ rest) : v = w ∧ t = rest := by
  have hrun := congrArg (List.takeWhile ok) h
  rw [takeWhile_append_of_stops hv ht, takeWhile_append_of_stops hw hrest] at hrun
  subst hrun
  exact ⟨rfl, List.append_cancel_left h⟩

/-- A part of a run is not longer than the whole. -/
theorem length_le_of_run {v w t : List Char} (hv : ∀ x ∈ v, ok x = true)
    (hw : ∀ x ∈ w, ok x = true) (hrest : Stops ok rest) (h : v ++ t = w ++ rest) :
    v.length ≤ w.length := by
  have hrun := congrArg (List.takeWhile ok) h
  rw [List.takeWhile_append_of_pos hv, takeWhile_append_of_stops hw hrest] at hrun
  rw [← hrun, List.length_append]
  exact Nat.le_add_right _ _

theorem reads_literal (expected : String) (rest : List Char) :
    (literal expected).Reads (expected.toList ++ rest) () rest := by
  intro c hc
  refine ⟨_, literal_eq_done_iff.2 ⟨hc ▸ List.prefix_append _ _, rfl⟩, ?_⟩
  rw [Cursor.rest_advance, hc, List.drop_left]

theorem rejects_literal {expected : String} {text : List Char}
    (h : ¬ expected.toList <+: text) : (literal expected).Rejects text := by
  intro c hc
  have hno : ¬ expected.toList.isPrefixOf c.rest = true := by
    rw [hc, List.isPrefixOf_iff_prefix]
    exact h
  exact ⟨_, by rw [literal_apply, if_neg hno]⟩

theorem reads_endOfText : endOfText.Reads [] () [] :=
  fun c hc => ⟨c, by rw [endOfText_apply, if_pos hc], hc⟩

theorem reads_satisfying {x : Char} (hx : ok x = true) :
    (satisfying ok why).Reads (x :: rest) x rest := by
  intro c hc
  exact ⟨_, satisfying_eq_done_iff.2 ⟨hx, rfl, rest, hc⟩, by simp [hc]⟩

theorem refuses_satisfying (h : Stops ok rest) :
    (satisfying ok why).Refuses rest (why (String.ofList (rest.take 30))) := by
  intro c hc
  rw [satisfying_apply, Cursor.preview, hc]
  cases rest with
  | nil => rfl
  | cons x rest =>
    have hx : ok x = false := h x rfl
    simp only [hx, Bool.false_eq_true, if_false]

theorem rejects_satisfying (h : Stops ok rest) : (satisfying ok why).Rejects rest :=
  (refuses_satisfying h).rejects

/-- **Runs of characters.** All of them are read when what follows does not go on the run. -/
theorem reads_many_satisfying (hstop : Stops ok rest) :
    ∀ {w : List Char}, (∀ x ∈ w, ok x = true) → (satisfying ok why).many.Reads (w ++ rest) w rest
  | [], _ => (rejects_satisfying hstop).many
  | x :: w, hw => by
    have hx : ok x = true := hw x List.mem_cons_self
    have ih := reads_many_satisfying hstop fun y hy => hw y (List.mem_cons_of_mem x hy)
    exact (reads_satisfying hx).many_cons (by simp) ih

theorem reads_many1_satisfying (hstop : Stops ok rest) {w : List Char} (hne : w ≠ [])
    (hw : ∀ x ∈ w, ok x = true) : (satisfying ok why).many1.Reads (w ++ rest) w rest := by
  cases w with
  | nil => exact absurd rfl hne
  | cons x w =>
    have hx : ok x = true := hw x List.mem_cons_self
    have htail : ∀ y ∈ w, ok y = true := fun y hy => hw y (List.mem_cons_of_mem x hy)
    exact (reads_satisfying hx).many1 (reads_many_satisfying hstop htail)

end Characters

/-! ## From the answer -/

section Spells

variable {p : Matcher α} {G : List Char → α → Prop} {H : List Char → β → Prop}

/-- No matcher reads past what it consumes. -/
theorem spells_any (p : Matcher α) : p.Spells fun _ _ => True := by
  intro c v next h
  obtain ⟨n, -, rfl⟩ := p.le_of_run h
  exact ⟨c.rest.take n, (List.take_append_drop n c.rest).symm, trivial⟩

theorem Spells.mono {G' : List Char → α → Prop} (hp : p.Spells G)
    (h : ∀ w v, G w v → G' w v) : p.Spells G' := by
  intro c v next hv
  obtain ⟨w, hw, hG⟩ := hp c v next hv
  exact ⟨w, hw, h w v hG⟩

theorem spells_pure {v : α} (h : G [] v) : (pure v : Matcher α).Spells G := by
  intro c v' next hv
  obtain ⟨rfl, rfl⟩ := Reply.done.inj hv
  exact ⟨[], rfl, h⟩

theorem Spells.bind {f : α → Matcher β} (hp : p.Spells G)
    (hf : ∀ w v, G w v → (f v).Spells fun w' u => H (w ++ w') u) : (p >>= f).Spells H := by
  intro c u last h
  obtain ⟨v, next, hv, hu⟩ := Reply.andThen_eq_done_iff.1 h
  obtain ⟨w, hw, hG⟩ := hp c v next hv
  obtain ⟨w', hw', hH⟩ := hf w v hG next u last hu
  exact ⟨w ++ w', by rw [hw, hw', List.append_assoc], hH⟩

/-- What is read first has no say in a property of the last value alone. -/
theorem Spells.skip {f : α → Matcher β} {Q : β → Prop} (hf : ∀ v, (f v).Spells fun _ u => Q u) :
    (p >>= f).Spells fun _ u => Q u :=
  (spells_any p).bind fun _ v _ => hf v

theorem Spells.map {f : α → β} (hp : p.Spells fun w v => H w (f v)) : (f <$> p).Spells H := by
  intro c u last h
  obtain ⟨v, hv, rfl⟩ := Reply.map_eq_done_iff.1 h
  exact hp c v last hv

theorem Spells.orElse {q : Matcher α} (hp : p.Spells G) (hq : q.Spells G) :
    (p.orElse q).Spells G := by
  intro c v next h
  rw [orElse_apply] at h
  split at h
  · exact hq c v next h
  · exact hp c v next h

theorem spells_literal (expected : String) :
    (literal expected).Spells fun w _ => w = expected.toList := by
  intro c u next h
  obtain ⟨⟨rest, hrest⟩, rfl⟩ := literal_eq_done_iff.1 h
  exact ⟨expected.toList, by rw [Cursor.rest_advance, ← hrest, List.drop_left], rfl⟩

theorem spells_satisfying (ok : Char → Bool) (why : String → Rejection) :
    (satisfying ok why).Spells fun w x => w = [x] ∧ ok x = true := by
  intro c x next h
  obtain ⟨hx, rfl, rest, hrest⟩ := satisfying_eq_done_iff.1 h
  exact ⟨[x], by simp [hrest], rfl, hx⟩

theorem spells_endOfText : endOfText.Spells fun w _ => w = [] := by
  intro c u next h
  rw [endOfText_apply] at h
  split at h
  · obtain ⟨-, rfl⟩ := Reply.done.inj h
    exact ⟨[], rfl, rfl⟩
  · cases h

/-- Runs consume their texts one after the other. -/
theorem Runs.spells (hp : p.Spells G) {c d : Cursor} {vs : List α} (h : Runs p c vs d) :
    ∃ ws : List (List Char), c.rest = ws.flatten ++ d.rest ∧ List.Forall₂ G ws vs := by
  induction h with
  | nil => exact ⟨[], rfl, .nil⟩
  | @cons c next last v vs hv _ _ ih =>
    obtain ⟨w, hw, hG⟩ := hp c v next hv
    obtain ⟨ws, hrest, hall⟩ := ih
    exact ⟨w :: ws, by rw [hw, hrest, List.flatten_cons, List.append_assoc], .cons hG hall⟩

/-- A repetition consumes its runs. -/
theorem Spells.many (hp : p.Spells G) :
    p.many.Spells fun w vs => ∃ ws, w = ws.flatten ∧ List.Forall₂ G ws vs := by
  intro c vs last h
  obtain ⟨ws, hrest, hall⟩ := (many_eq_done_iff.1 h).1.spells hp
  exact ⟨ws.flatten, hrest, ws, rfl, hall⟩

/-- Rounds consume separators and items one after the other. -/
theorem Rounds.spells {item : Matcher α} {sep : Matcher β} (hitem : item.Spells G)
    (hsep : sep.Spells H) {c d : Cursor} {vs : List α} (h : Rounds item sep c vs d) :
    ∃ rounds : List (List Char), c.rest = rounds.flatten ++ d.rest ∧
      List.Forall₂ (fun r v => ∃ s u w, r = s ++ w ∧ H s u ∧ G w v) rounds vs := by
  induction h with
  | nil => exact ⟨[], rfl, .nil⟩
  | @cons c afterSep next last u v vs hs hi _ ih =>
    obtain ⟨s, hsrest, hH⟩ := hsep c u afterSep hs
    obtain ⟨w, hwrest, hG⟩ := hitem afterSep v next hi
    obtain ⟨rounds, hrest, hall⟩ := ih
    refine ⟨(s ++ w) :: rounds, ?_, .cons ⟨s, u, w, rfl, hH, hG⟩ hall⟩
    rw [hsrest, hwrest, hrest, List.flatten_cons, List.append_assoc, List.append_assoc]

/-- A separated list consumes its rounds. -/
theorem Spells.separatedRest {item : Matcher α} {sep : Matcher β} (hitem : item.Spells G)
    (hsep : sep.Spells H) :
    (item.separatedRest sep).Spells fun w vs => ∃ rounds : List (List Char), w = rounds.flatten ∧
      List.Forall₂ (fun r v => ∃ s u w, r = s ++ w ∧ H s u ∧ G w v) rounds vs := by
  intro c vs last h
  obtain ⟨rounds, hrest, hall⟩ := (separatedRest_eq_done_iff.1 h).1.spells hitem hsep
  exact ⟨rounds.flatten, hrest, rounds, rfl, hall⟩

/-- A run of characters is what it consumes. -/
theorem spells_many_satisfying (ok : Char → Bool) (why : String → Rejection) :
    (satisfying ok why).many.Spells fun w v => w = v ∧ ∀ x ∈ v, ok x = true := by
  refine (spells_satisfying ok why).many.mono ?_
  rintro _ v ⟨ws, rfl, hall⟩
  induction hall with
  | nil => exact ⟨rfl, by simp⟩
  | cons hx _ ih =>
    obtain ⟨rfl, hx⟩ := hx
    exact ⟨by rw [List.flatten_cons, ih.1, List.singleton_append],
      List.forall_mem_cons.2 ⟨hx, ih.2⟩⟩

theorem spells_many1_satisfying (ok : Char → Bool) (why : String → Rejection) :
    (satisfying ok why).many1.Spells fun w v => w = v ∧ v ≠ [] ∧ ∀ x ∈ v, ok x = true := by
  refine (spells_satisfying ok why).bind fun w x hx => ?_
  refine (spells_many_satisfying ok why).bind fun w' v hv => spells_pure ?_
  obtain ⟨rfl, hx⟩ := hx
  obtain ⟨rfl, hv⟩ := hv
  exact ⟨by simp, by simp, List.forall_mem_cons.2 ⟨hx, hv⟩⟩

/-- Looking ahead consumes nothing. -/
theorem spells_lookAhead (p : Matcher α) : p.lookAhead.Spells fun w _ => w = [] := by
  intro c v next h
  obtain ⟨_, _, -, hc⟩ := Reply.andThen_eq_done_iff.1 h
  obtain ⟨-, rfl⟩ := Reply.done.inj hc
  exact ⟨[], rfl, rfl⟩

end Spells

/-! ## From the failure -/

section Blames

variable {p : Matcher α} {G : List Char → Rejection → Prop} {S : List Char → α → Prop}

theorem Blames.mono {G' : List Char → Rejection → Prop} (hp : p.Blames G)
    (h : ∀ text why, G text why → G' text why) : p.Blames G' :=
  fun c why hwhy => h c.rest why (hp c why hwhy)

theorem blames_pure (v : α) : (pure v : Matcher α).Blames G := fun _ _ h => by cases h

/-- What was read before a failure stands before the text that gave its reason. -/
theorem Blames.bind {f : α → Matcher β} (hp : p.Blames G) (hs : p.Spells S)
    (hf : ∀ w v, S w v → (f v).Blames fun text why => G (w ++ text) why) : (p >>= f).Blames G := by
  intro c why h
  rcases Reply.andThen_eq_failed_iff.1 h with h | ⟨v, next, hv, h⟩
  · exact hp c why h
  · obtain ⟨w, hw, hS⟩ := hs c v next hv
    rw [hw]
    exact hf w v hS next why h

/-- A property of the reason alone does not ask what was read before. -/
theorem Blames.seq {f : α → Matcher β} {Q : Rejection → Prop} (hp : p.Blames fun _ why => Q why)
    (hf : ∀ v, (f v).Blames fun _ why => Q why) : (p >>= f).Blames fun _ why => Q why :=
  hp.bind (spells_any p) fun _ v _ => hf v

theorem Blames.map (hp : p.Blames G) (f : α → β) : (f <$> p).Blames G :=
  fun c why h => hp c why (Reply.map_eq_failed_iff.1 h)

theorem Blames.lookAhead (hp : p.Blames G) : p.lookAhead.Blames G := by
  intro c why h
  rw [lookAhead_apply] at h
  rcases Reply.andThen_eq_failed_iff.1 h with h | ⟨_, _, -, h⟩
  · exact hp c why h
  · cases h

/-- The second of two alternatives says why both failed. -/
theorem Blames.orElse {q : Matcher α} (p : Matcher α) (hq : q.Blames G) :
    (p.orElse q).Blames G := by
  intro c why h
  rw [orElse_apply] at h
  split at h
  · exact hq c why h
  · rename_i hno
    exact absurd h (hno why)

theorem blames_literal (expected : String) :
    (literal expected).Blames fun text why =>
      why = .missingLiteral expected (String.ofList (text.take 30)) := by
  intro c why h
  rw [literal_apply] at h
  split at h
  · cases h
  · exact (Reply.failed.inj h).symm

theorem blames_satisfying (ok : Char → Bool) (why : String → Rejection) :
    (satisfying ok why).Blames fun text why' => why' = why (String.ofList (text.take 30)) := by
  intro c why' h
  rw [satisfying_apply] at h
  split at h
  · exact (Reply.failed.inj h).symm
  · split at h
    · cases h
    · exact (Reply.failed.inj h).symm

theorem blames_endOfText :
    endOfText.Blames fun text why => why = .trailingText (String.ofList (text.take 30)) := by
  intro c why h
  rw [endOfText_apply] at h
  split at h
  · cases h
  · exact (Reply.failed.inj h).symm

/-- A repetition that may be empty does not fail. -/
theorem blames_many (p : Matcher α) : p.many.Blames fun _ _ => False :=
  fun _ _ h => many_ne_failed h

/-- One round or more fail at the first round. -/
theorem Blames.many1 (hp : p.Blames G) : p.many1.Blames G := by
  refine hp.bind (spells_any p) fun w v _ => ?_
  refine Blames.mono (Blames.bind (blames_many p) (spells_any _) fun _ _ _ => blames_pure _) ?_
  exact fun _ _ h => h.elim

/-- A separated list fails at an item, with the separator and whole rounds before it. -/
theorem Blames.separatedRest {item : Matcher α} {sep : Matcher β} {H : List Char → β → Prop}
    (hitem : item.Blames G) (hspell : item.Spells S) (hsep : sep.Spells H) :
    (item.separatedRest sep).Blames fun text why => ∃ (rounds : List (List Char)) (vs : List α),
      List.Forall₂ (fun r v => ∃ s u w, r = s ++ w ∧ H s u ∧ S w v) rounds vs ∧
      ∃ s u rest, text = rounds.flatten ++ (s ++ rest) ∧ H s u ∧ G rest why := by
  intro c why h
  obtain ⟨vs, d, u, afterSep, hrounds, hs, hi⟩ := separatedRest_eq_failed_iff.1 h
  obtain ⟨rounds, hrest, hall⟩ := hrounds.spells hspell hsep
  obtain ⟨s, hsrest, hH⟩ := hsep d u afterSep hs
  exact ⟨rounds, vs, hall, s, u, afterSep.rest, by rw [hrest, hsrest], hH, hitem afterSep why hi⟩

end Blames

end Matcher

end Aliasing.Grammar
