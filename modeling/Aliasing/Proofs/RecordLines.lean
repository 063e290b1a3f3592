import Aliasing.Proofs.NodeSets
/-!
# The lines of a dump, exactly

`RecordText` is the grammar of a line as a set of texts, with nothing said of how to read it: any
choice of gaps, padding, digits and name makes a text. The reader takes as much as it can at every
place. Nothing that may stand at one place can begin what must stand at the next, so it takes
neither too much nor too little, and a line has the shape in one way at most.

Main statement: `record_exact`, a line is read exactly when a prefix of it has the shape and ids
that are small enough, and an id that is too large is reported exactly when the shape leads up to
it.
-/

namespace Aliasing

open Grammar.Matcher

/-- What stands on a line up to the first id. -/
inductive Opening : Name → List Char → Prop where
  | mk {x : Name} {s₁ n s₂ s₃ s₄ s₅ s₆ : List Char} (h₁ : IsGap s₁) (hn : IsDigits n)
      (h₂ : IsGap s₂) (h₃ : IsPadding s₃) (hx : x.WellFormed) (h₄ : IsPadding s₄)
      (h₅ : IsPadding s₅) (h₆ : IsPadding s₆) :
      Opening x ("NodeID".toList ++ (s₁ ++ (n ++ (s₂ ++ ("(val:".toList ++ (s₃ ++
        (x.text.toList ++ (")".toList ++ (s₄ ++ ("PointsTo:".toList ++ (s₅ ++
        ("\x7b".toList ++ s₆))))))))))))

/-- A line up to its closing brace: the name it is about, and the digits of its ids. -/
inductive RecordText : Name → List (List Char) → List Char → Prop where
  | mk {x : Name} {ds : List (List Char)} {o l s : List Char} (ho : Opening x o) (hl : Ids ds l)
      (hs : IsPadding s) : RecordText x ds (o ++ (l ++ (s ++ "\x7d".toList)))

namespace Grammar

/-! ## A line in three parts -/

def opening : Matcher Name := do
  literal "NodeID"
  gap
  let _ ← digit.many1
  gap
  literal "(val:"
  padding
  let x ← name
  literal ")"
  padding
  literal "PointsTo:"
  padding
  literal "\x7b"
  padding
  return x

/-- A line whose ids are read by a given matcher. -/
def lineOf {α : Type} (ids : Matcher α) : Matcher (Name × α) := do
  let x ← opening
  let v ← ids
  padding
  literal "\x7d"
  return (x, v)

theorem record_eq : record = (fun r => (⟨r.1, r.2⟩ : Record)) <$> lineOf nodeSet := by
  simp only [record, lineOf, opening, map_bind, bind_assoc, pure_bind, map_pure]

/-! ## The opening -/

/-- Every choice of gaps, number, padding and name is read: each run stops at the first character of
what stands next. -/
theorem reads_opening {x : Name} {o rest : List Char} (h : Opening x o)
    (hstop : Stops whiteSpace.contains rest) : opening.Reads (o ++ rest) x rest := by
  cases h with
  | mk h₁ hn h₂ h₃ hx h₄ h₅ h₆ =>
    have hletter : ∀ {c : Char} {t : List Char}, whiteSpace.contains c = false →
        Stops whiteSpace.contains (c :: t) := fun h => stops_of_head? rfl h
    have hparen : ∀ t : List Char, Stops isWordChar (")".toList ++ t) :=
      fun _ => stops_of_head? (x := ')') rfl (by decide +kernel)
    simp only [List.append_assoc]
    exact (reads_literal _ _).bind <|
      (reads_gap h₁ (hn.stops_whiteSpace _)).bind <|
      (reads_digits hn (h₂.stops_digit _)).bind <|
      (reads_gap h₂ (hletter (by decide))).bind <|
      (reads_literal _ _).bind <|
      (reads_padding h₃ (hx.stops_whiteSpace _)).bind <|
      (reads_name hx (hparen _)).bind <|
      (reads_literal _ _).bind <|
      (reads_padding h₄ (hletter (by decide))).bind <|
      (reads_literal _ _).bind <|
      (reads_padding h₅ (hletter (by decide))).bind <|
      (reads_literal _ _).bind <|
      (reads_padding h₆ hstop).bind (reads_pure _ _)

theorem spells_opening : opening.Spells fun w x => Opening x w := by
  refine (spells_literal _).bind fun a _ ha => spells_gap.bind fun s₁ _ h₁ =>
    spells_digits.bind fun n _ hn => spells_gap.bind fun s₂ _ h₂ =>
    (spells_literal _).bind fun b _ hb => spells_padding.bind fun s₃ _ h₃ =>
    spells_name.bind fun w x hx => (spells_literal _).bind fun d _ hd =>
    spells_padding.bind fun s₄ _ h₄ => (spells_literal _).bind fun e _ he =>
    spells_padding.bind fun s₅ _ h₅ => (spells_literal _).bind fun f _ hf =>
    spells_padding.bind fun s₆ _ h₆ => spells_pure ?_
  obtain ⟨rfl, hn⟩ := hn
  obtain ⟨rfl, hx⟩ := hx
  subst ha hb hd he hf
  rw [List.append_nil]
  exact .mk h₁ hn h₂ h₃ hx h₄ h₅ h₆

abbrev BlamesNoId {α : Type} (p : Matcher α) : Prop :=
  p.Blames fun _ why => why.isOversizedId = false

theorem blamesNoId_literal (expected : String) : BlamesNoId (literal expected) :=
  (blames_literal expected).mono fun _ _ h => h ▸ rfl

/-- A character that is wanted in vain is no id. -/
theorem blamesNoId_many1 {ok : Char → Bool} {why : String → Rejection}
    (hwhy : ∀ found, (why found).isOversizedId = false) :
    BlamesNoId (satisfying ok why).many1 :=
  ((blames_satisfying ok why).mono fun text _ h => h ▸ hwhy (String.ofList (text.take 30))).many1

theorem blamesNoId_padding : BlamesNoId padding :=
  ((blames_many whiteSpaceChar).mono fun _ _ h => h.elim).map _

theorem blamesNoId_name : BlamesNoId name := by
  have hword : BlamesNoId word := blamesNoId_many1 fun _ => rfl
  refine Blames.orElse globalName ?_
  exact hword.seq fun _ => (blamesNoId_literal _).seq fun _ => hword.seq fun _ => blames_pure _

/-- The number of the opening may be of any size. -/
theorem blamesNoId_opening : BlamesNoId opening := by
  have hgap : BlamesNoId gap := (blamesNoId_many1 fun _ => rfl).map _
  have hdigits : BlamesNoId digit.many1 := blamesNoId_many1 fun _ => rfl
  exact (blamesNoId_literal _).seq fun _ => hgap.seq fun _ => hdigits.seq fun _ =>
    hgap.seq fun _ => (blamesNoId_literal _).seq fun _ => blamesNoId_padding.seq fun _ =>
    blamesNoId_name.seq fun _ => (blamesNoId_literal _).seq fun _ => blamesNoId_padding.seq fun _ =>
    (blamesNoId_literal _).seq fun _ => blamesNoId_padding.seq fun _ =>
    (blamesNoId_literal _).seq fun _ => blamesNoId_padding.seq fun _ => blames_pure _

/-! ## The whole line -/

theorem stops_brace {ok : Char → Bool} (h : ok '\x7d' = false) (rest : List Char) :
    Stops ok ("\x7d".toList ++ rest) := stops_of_head? rfl h

/-- Whatever reads the ids, and stops at them, reads the line. -/
theorem reads_lineOf {α : Type} {ids : Matcher α} {v : α} {x : Name} {o l s rest : List Char}
    (ho : Opening x o) (hstop : Stops whiteSpace.contains (l ++ (s ++ ("\x7d".toList ++ rest))))
    (hids : ids.Reads (l ++ (s ++ ("\x7d".toList ++ rest))) v (s ++ ("\x7d".toList ++ rest)))
    (hs : IsPadding s) :
    (lineOf ids).Reads (o ++ (l ++ (s ++ "\x7d".toList)) ++ rest) (x, v) rest := by
  simp only [List.append_assoc]
  exact (reads_opening ho hstop).bind <| hids.bind <|
    (reads_padding hs (stops_brace (by decide) rest)).bind <|
    (reads_literal _ _).bind (reads_pure _ _)

/-- The closing brace ends the ids of a line. -/
theorem endsIds_brace {s : List Char} (hs : IsPadding s) (rest : List Char) :
    EndsIds (s ++ ("\x7d".toList ++ rest)) :=
  endsIds_append hs (stops_brace (by decide) rest) (stops_brace (by decide) rest)

theorem reads_record {x : Name} {ds : List (List Char)} {w : List Char} (h : RecordText x ds w)
    (hsmall : ∀ d ∈ ds, decimal d < UInt64.size) (rest : List Char) :
    ∃ ns, Denotes ds ns ∧ record.Reads (w ++ rest) ⟨x, ns⟩ rest := by
  cases h with
  | mk ho hl hs =>
    obtain ⟨ns, hns, hread⟩ := reads_nodeSet hl hsmall (endsIds_brace hs rest)
    refine ⟨ns, hns, ?_⟩
    rw [record_eq]
    exact (reads_lineOf ho (hl.stops_whiteSpace _) hread hs).map _

theorem spells_record : record.Spells fun w r => ∃ ds, RecordText r.name ds w ∧
    (∀ d ∈ ds, decimal d < UInt64.size) ∧ Denotes ds r.nodes := by
  rw [record_eq]
  refine Spells.map (spells_opening.bind fun o x ho => spells_nodeSet.bind fun l ns hl =>
    spells_padding.bind fun s _ hs => (spells_literal _).bind fun b _ hb => spells_pure ?_)
  obtain ⟨ds, hl, hsmall, hns⟩ := hl
  rw [hb, List.append_nil]
  exact ⟨ds, .mk ho hl hs, hsmall, hns⟩

/-- A reader that keeps the digits of the ids as they are reads every line of the shape. -/
theorem reads_digitsOf {x : Name} {ds : List (List Char)} {w : List Char} (h : RecordText x ds w)
    (rest : List Char) :
    (lineOf (digit.many1.separated idSeparator)).Reads (w ++ rest) (x, ds) rest := by
  cases h with
  | mk ho hl hs =>
    have hdigits := reads_digitsOf_ids hl (endsIds_brace hs rest)
    exact reads_lineOf ho (hl.stops_whiteSpace _) hdigits hs

/-- **The shape is unambiguous**, whatever the size of the ids and whatever stands behind. -/
theorem recordText_unique {x y : Name} {ds es : List (List Char)} {v w t u : List Char}
    (hv : RecordText x ds v) (hw : RecordText y es w) (h : v ++ t = w ++ u) :
    x = y ∧ ds = es ∧ v = w := by
  obtain ⟨hvalue, hrest⟩ := (reads_digitsOf hv t).unique (h ▸ reads_digitsOf hw u)
  rw [hrest] at h
  exact ⟨congrArg Prod.fst hvalue, congrArg Prod.snd hvalue, List.append_cancel_right h⟩

/-- An id that is too large is the reason of a failure, whatever stands behind it. -/
theorem refuses_record {x : Name} {o text : List Char} {digits : String} (ho : Opening x o)
    (h : OversizedIn text digits) : record.Refuses (o ++ text) (.oversizedId digits) := by
  have hstop : Stops whiteSpace.contains text := by
    cases h with
    | mk hids _ _ _ => exact hids.stops_whiteSpace _
  rw [record_eq]
  exact Refuses.map ((reads_opening ho hstop).bind_refuses ((refuses_nodeSet h).bind _)) _

theorem blames_record : record.Blames fun text why => ∀ digits, why = .oversizedId digits →
    ∃ x o t, text = o ++ t ∧ Opening x o ∧ OversizedIn t digits := by
  have hnoId : ∀ {text : List Char} {why : Rejection}, why.isOversizedId = false →
      ∀ digits, why = .oversizedId digits →
        ∃ x o t, text = o ++ t ∧ Opening x o ∧ OversizedIn t digits := by
    rintro text _ h digits rfl
    cases h
  rw [record_eq]
  refine Blames.map ?_ _
  refine Blames.bind (blamesNoId_opening.mono fun _ _ => hnoId) spells_opening fun o x ho => ?_
  refine Blames.bind ?_ (spells_any _) fun w ns _ => ?_
  · exact blames_nodeSet.mono fun t _ h digits hwhy => ⟨x, o, t, rfl, ho, h digits hwhy⟩
  · have hclose : BlamesNoId (padding >>= fun _ => literal "\x7d" >>= fun _ => pure (x, ns)) :=
      blamesNoId_padding.seq fun _ => (blamesNoId_literal _).seq fun _ => blames_pure _
    exact hclose.mono fun _ _ => hnoId

/-- **The reader is exact.** It reads a record just where a prefix has the shape of a line and ids
that are small enough; what it answers with is the name, the numbers of the ids, and the place
behind that prefix, the only one of the shape. It reports digits as too large just where the shape
leads up to them and the ids before them are small enough. -/
theorem record_exact (c : Cursor) :
    ((∃ r next, record c = .done r next) ↔
      ∃ x ds w, RecordText x ds w ∧ (∀ d ∈ ds, decimal d < UInt64.size) ∧ w <+: c.rest) ∧
    (∀ r next, record c = .done r next ↔
      ∃ ds w, RecordText r.name ds w ∧ (∀ d ∈ ds, decimal d < UInt64.size) ∧ Denotes ds r.nodes ∧
        w <+: c.rest ∧ next = c.advance w.length) ∧
    (∀ x y ds es v w, RecordText x ds v → RecordText y es w → v <+: c.rest → w <+: c.rest →
      x = y ∧ ds = es ∧ v = w) ∧
    (∀ digits, record c = .failed (.oversizedId digits) ↔
      ∃ x o text, c.rest = o ++ text ∧ Opening x o ∧ OversizedIn text digits) := by
  have hanswer : ∀ r next, record c = .done r next ↔
      ∃ ds w, RecordText r.name ds w ∧ (∀ d ∈ ds, decimal d < UInt64.size) ∧ Denotes ds r.nodes ∧
        w <+: c.rest ∧ next = c.advance w.length := by
    intro r next
    constructor
    · intro h
      obtain ⟨w, hw, ds, htext, hsmall, hns⟩ := spells_record c r next h
      exact ⟨ds, w, htext, hsmall, hns, ⟨next.rest, hw.symm⟩,
        Cursor.eq_advance_of_le (record.le_of_run h) hw⟩
    · rintro ⟨ds, w, htext, hsmall, hns, ⟨rest, hrest⟩, rfl⟩
      obtain ⟨ns, hns', hread⟩ := reads_record htext hsmall rest
      have hsame : ns = r.nodes := Std.ExtTreeSet.ext_mem fun n => (hns' n).trans (hns n).symm
      obtain ⟨next, hdone, hnext⟩ := hread c hrest.symm
      have hplace : next = c.advance w.length :=
        Cursor.eq_advance_of_le (record.le_of_run hdone) (by rw [hnext, hrest])
      rw [hdone, hsame, hplace]
  refine ⟨⟨?_, ?_⟩, hanswer, ?_, ?_⟩
  · rintro ⟨r, next, h⟩
    obtain ⟨ds, w, htext, hsmall, -, hw, -⟩ := (hanswer r next).1 h
    exact ⟨r.name, ds, w, htext, hsmall, hw⟩
  · rintro ⟨x, ds, w, htext, hsmall, rest, hrest⟩
    obtain ⟨ns, -, hread⟩ := reads_record htext hsmall rest
    obtain ⟨next, hdone, -⟩ := hread c hrest.symm
    exact ⟨⟨x, ns⟩, next, hdone⟩
  · rintro x y ds es v w hv hw ⟨t, ht⟩ ⟨u, hu⟩
    exact recordText_unique hv hw (ht.trans hu.symm)
  · intro digits
    constructor
    · exact fun h => blames_record c _ h digits rfl
    · rintro ⟨x, o, text, hrest, ho, h⟩
      exact refuses_record ho h c hrest

end Grammar

end Aliasing
