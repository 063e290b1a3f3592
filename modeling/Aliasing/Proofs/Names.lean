import Aliasing.Grammar.Record
import Aliasing.Proofs.Reading
/-!
# The shapes of names

A name read from a text has one of two shapes: `@` and a word, or a word, `::%` and another word. No
other matcher of the grammar makes names, so every name in a record or an alias set is well formed.
No text has both shapes, as the sigil is no word character.

Main statements: `spells_name` and `reads_name`, a name is read from exactly its own text;
`wellFormed_iff_accepted`, being well formed is being accepted in full; `name_exact`, where a name
is read, which one, and what is left behind it.
-/

namespace Aliasing

def IsWord (w : List Char) : Prop := w ≠ [] ∧ ∀ c ∈ w, isWordChar c = true

theorem IsWord.append {w u : List Char} (hw : IsWord w) (hu : ∀ c ∈ u, isWordChar c = true) :
    IsWord (w ++ u) := by
  constructor
  · simp [hw.1]
  · intro c hc
    rcases List.mem_append.1 hc with hc | hc
    · exact hw.2 c hc
    · exact hu c hc

namespace Name

inductive WellFormed : Name → Prop where
  | ofGlobal {w : List Char} (hw : IsWord w) : WellFormed (ofGlobal w)
  | ofLocal {f w : List Char} (hf : IsWord f) (hw : IsWord w) : WellFormed (ofLocal f w)

theorem toList_ofGlobal (w : List Char) : (ofGlobal w).text.toList = sigil.toList ++ w := by
  simp [ofGlobal]

theorem toList_ofLocal (f w : List Char) :
    (ofLocal f w).text.toList = f ++ (separator.toList ++ w) := by
  simp [ofLocal]

def IsGlobalText (t : List Char) : Prop := ∃ w, IsWord w ∧ t = sigil.toList ++ w

def IsLocalText (t : List Char) : Prop :=
  ∃ f w, IsWord f ∧ IsWord w ∧ t = f ++ (separator.toList ++ w)

theorem wellFormed_iff {x : Name} :
    x.WellFormed ↔ IsGlobalText x.text.toList ∨ IsLocalText x.text.toList := by
  constructor
  · rintro (hw | ⟨hf, hw⟩)
    · exact Or.inl ⟨_, hw, toList_ofGlobal _⟩
    · exact Or.inr ⟨_, _, hf, hw, toList_ofLocal _ _⟩
  · rintro (⟨w, hw, ht⟩ | ⟨f, w, hf, hw, ht⟩)
    · have hx : x = ofGlobal w := Name.ext (String.toList_inj.1 (ht.trans (toList_ofGlobal w).symm))
      exact hx ▸ .ofGlobal hw
    · have hx : x = ofLocal f w :=
        Name.ext (String.toList_inj.1 (ht.trans (toList_ofLocal f w).symm))
      exact hx ▸ .ofLocal hf hw

/-- Further word characters go on the last word of a name. -/
theorem WellFormed.append {x : Name} (hx : x.WellFormed) {u : List Char}
    (hu : ∀ c ∈ u, isWordChar c = true) :
    WellFormed ⟨String.ofList (x.text.toList ++ u)⟩ := by
  rw [wellFormed_iff, String.toList_ofList]
  rcases wellFormed_iff.1 hx with ⟨w, hw, ht⟩ | ⟨f, w, hf, hw, ht⟩
  · exact Or.inl ⟨w ++ u, hw.append hu, by rw [ht, List.append_assoc]⟩
  · exact Or.inr ⟨f, w ++ u, hf, hw.append hu, by simp [ht]⟩

/-- A name has word characters, and what its shape puts around them. -/
theorem WellFormed.char {x : Name} (hx : x.WellFormed) {c : Char} (hc : c ∈ x.text.toList) :
    isWordChar c = true ∨ c ∈ sigil.toList ∨ c ∈ separator.toList := by
  cases hx with
  | ofGlobal hw =>
    rw [toList_ofGlobal, List.mem_append] at hc
    rcases hc with hc | hc
    · exact Or.inr (Or.inl hc)
    · exact Or.inl (hw.2 c hc)
  | ofLocal hf hw =>
    rw [toList_ofLocal, List.mem_append, List.mem_append] at hc
    rcases hc with hc | hc | hc
    · exact Or.inl (hf.2 c hc)
    · exact Or.inr (Or.inr hc)
    · exact Or.inl (hw.2 c hc)

end Name

namespace Grammar

open Matcher

/-! ## Words -/

theorem spells_word : word.Spells fun w v => w = v ∧ IsWord v := spells_many1_satisfying _ _

theorem reads_word {w rest : List Char} (hw : IsWord w) (hstop : Stops isWordChar rest) :
    word.Reads (w ++ rest) w rest := reads_many1_satisfying hstop hw.1 hw.2

/-- The sigil is no word character, so a word never looks like a global name. -/
theorem not_sigil_prefix_of_isWord {w : List Char} (hw : IsWord w) (rest : List Char) :
    ¬ Name.sigil.toList <+: w ++ rest := by
  obtain ⟨hne, hall⟩ := hw
  cases w with
  | nil => exact absurd rfl hne
  | cons c w =>
    intro h
    have hc : '@' = c := (List.cons_prefix_cons.1 h).1
    have hword := hall c List.mem_cons_self
    rw [← hc] at hword
    exact absurd hword (by decide +kernel)

/-- The separator stops the word before it. -/
theorem stops_separator (rest : List Char) : Stops isWordChar (Name.separator.toList ++ rest) :=
  stops_of_head? (x := ':') rfl (by decide +kernel)

/-! ## Names -/

/-- **A name is what it consumes.** -/
theorem spells_name : name.Spells fun w x => w = x.text.toList ∧ x.WellFormed := by
  refine Spells.orElse ?_ ?_
  · refine (spells_literal _).bind fun s _ hs => spells_word.bind fun w v hv => spells_pure ?_
    obtain ⟨rfl, hw⟩ := hv
    subst hs
    exact ⟨by rw [Name.toList_ofGlobal, List.append_nil], .ofGlobal hw⟩
  · refine spells_word.bind fun f v hf => (spells_literal _).bind fun s _ hs =>
      spells_word.bind fun w v' hv => spells_pure ?_
    obtain ⟨rfl, hf⟩ := hf
    obtain ⟨rfl, hw⟩ := hv
    subst hs
    exact ⟨by rw [Name.toList_ofLocal, List.append_nil], .ofLocal hf hw⟩

/-- **The text of a name reads as that name**, up to the first character that does not go on its
last word. -/
theorem reads_name {x : Name} {rest : List Char} (hx : x.WellFormed)
    (hstop : Stops isWordChar rest) : name.Reads (x.text.toList ++ rest) x rest := by
  cases hx with
  | ofGlobal hw =>
    rw [Name.toList_ofGlobal, List.append_assoc]
    refine Reads.orElse ?_ localName
    exact (reads_literal _ _).bind ((reads_word hw hstop).bind (reads_pure _ _))
  | @ofLocal f w hf hw =>
    have hnoGlobal : globalName.Rejects (f ++ (Name.separator.toList ++ (w ++ rest))) :=
      (rejects_literal (not_sigil_prefix_of_isWord hf _)).bind _
    rw [Name.toList_ofLocal, List.append_assoc, List.append_assoc]
    refine hnoGlobal.orElse ?_
    exact (reads_word hf (stops_separator _)).bind
      ((reads_literal _ _).bind ((reads_word hw hstop).bind (reads_pure _ _)))

/-- The text of a name is read as a name to its end. -/
def Accepted (x : Name) : Prop :=
  ∃ y next, name (.start x.text.toList) = .done y next ∧ next.rest = []

theorem wellFormed_iff_accepted {x : Name} : x.WellFormed ↔ Accepted x := by
  constructor
  · intro hx
    have hread : name.Reads x.text.toList x [] := by
      have h := reads_name hx stops_nil
      rwa [List.append_nil] at h
    obtain ⟨next, hdone, hrest⟩ := hread (.start x.text.toList) rfl
    exact ⟨x, next, hdone, hrest⟩
  · rintro ⟨y, next, hdone, hrest⟩
    obtain ⟨w, hw, htext, hy⟩ := spells_name _ _ _ hdone
    rw [hrest, List.append_nil, Cursor.rest_start] at hw
    have hxy : x = y := Name.ext (String.toList_inj.1 (hw.trans htext))
    rw [hxy]
    exact hy

/-- Every record is about a well-formed name. -/
theorem spells_record_name : record.Spells fun _ r => r.name.WellFormed := by
  refine .skip fun _ => .skip fun _ => .skip fun _ => ?_
  refine .skip fun _ => .skip fun _ => .skip fun _ => ?_
  refine spells_name.bind fun _ x hx => ?_
  exact .skip fun _ => .skip fun _ => .skip fun _ => .skip fun _ => .skip fun _ => .skip fun _ =>
    .skip fun _ => .skip fun _ => .skip fun _ => spells_pure hx.2

/-! ## Names, exactly -/

theorem not_isLocalText {t : List Char} (h : Name.IsGlobalText t) : ¬ Name.IsLocalText t := by
  rintro ⟨f, w, hf, -, ht⟩
  obtain ⟨v, -, hv⟩ := h
  exact not_sigil_prefix_of_isWord hf _ ⟨v, hv.symm.trans ht⟩

/-- Of the two shapes it is the first that the sigil tells. -/
theorem isGlobal_iff {x : Name} (hx : x.WellFormed) :
    x.isGlobal = true ↔ Name.IsGlobalText x.text.toList := by
  unfold Name.isGlobal
  rw [List.isPrefixOf_iff_prefix]
  rcases Name.wellFormed_iff.1 hx with hglobal | hlocal
  · obtain ⟨w, hw, ht⟩ := hglobal
    exact iff_of_true ⟨w, ht.symm⟩ ⟨w, hw, ht⟩
  · have hno : ¬ Name.IsGlobalText x.text.toList := fun h => not_isLocalText h hlocal
    obtain ⟨f, w, hf, -, ht⟩ := hlocal
    rw [ht] at hno ⊢
    exact iff_of_false (not_sigil_prefix_of_isWord hf _) hno

/-- **A text that begins with a name** is read as the name that its last word goes on to. -/
theorem exists_reads_name {x : Name} (hx : x.WellFormed) (rest : List Char) :
    ∃ y rest', Stops isWordChar rest' ∧ name.Reads (x.text.toList ++ rest) y rest' := by
  obtain ⟨u, rest', rfl, hu, hstop⟩ := exists_run isWordChar rest
  have hread := reads_name (hx.append hu) hstop
  rw [String.toList_ofList, List.append_assoc] at hread
  exact ⟨_, rest', hstop, hread⟩

/-- **Behind a name** no word character stands. -/
theorem stops_of_name {c next : Cursor} {x : Name} (h : name c = .done x next) :
    Stops isWordChar next.rest := by
  obtain ⟨w, hw, rfl, hx⟩ := spells_name c x next h
  obtain ⟨y, rest, hstop, hread⟩ := exists_reads_name hx next.rest
  obtain ⟨last, hlast, hrest⟩ := hread c hw
  obtain ⟨-, rfl⟩ := Reply.done.inj (h.symm.trans hlast)
  rw [hrest]
  exact hstop

theorem name_eq_done_iff {c next : Cursor} {x : Name} :
    name c = .done x next ↔ x.WellFormed ∧ c.rest = x.text.toList ++ next.rest ∧
      Stops isWordChar next.rest ∧ next = c.advance x.text.toList.length := by
  constructor
  · intro h
    obtain ⟨w, hw, rfl, hx⟩ := spells_name c x next h
    exact ⟨hx, hw, stops_of_name h, Cursor.eq_advance_of_le (name.le_of_run h) hw⟩
  · rintro ⟨hx, hrest, hstop, hnext⟩
    rw [(reads_name hx hstop).eq_done hrest, ← hnext]

/-- **The reader of names is exact.** It reads a name just where one of the two shapes stands: the
name of which this is the text, up to where no word character goes on it. No name has both shapes,
and those of the first are the global ones. From its own text, and whatever stands behind it that
does not go on it, the name is read again. -/
theorem name_exact (c : Cursor) :
    name c ≠ .endless ∧
    ((∃ x next, name c = .done x next) ↔
      ∃ t, (Name.IsGlobalText t ∨ Name.IsLocalText t) ∧ t <+: c.rest) ∧
    ∀ x next, name c = .done x next →
      (c.rest = x.text.toList ++ next.rest ∧ next = c.advance x.text.toList.length ∧
        Stops isWordChar next.rest) ∧
      ((Name.IsGlobalText x.text.toList ∨ Name.IsLocalText x.text.toList) ∧
        ¬ (Name.IsGlobalText x.text.toList ∧ Name.IsLocalText x.text.toList)) ∧
      (x.isGlobal = true ↔ Name.IsGlobalText x.text.toList) ∧
      ∀ (d : Cursor) (rest : List Char), d.rest = x.text.toList ++ rest → Stops isWordChar rest →
        ∃ last, name d = .done x last ∧ last.rest = rest := by
  refine ⟨ends_name c, ⟨?_, ?_⟩, fun x next h => ?_⟩
  · rintro ⟨x, next, h⟩
    obtain ⟨hx, hrest, -, -⟩ := name_eq_done_iff.1 h
    exact ⟨x.text.toList, Name.wellFormed_iff.1 hx, next.rest, hrest.symm⟩
  · rintro ⟨t, ht, rest, hrest⟩
    have hx : Name.WellFormed ⟨String.ofList t⟩ := by
      rw [Name.wellFormed_iff, String.toList_ofList]
      exact ht
    obtain ⟨y, rest', -, hread⟩ := exists_reads_name hx rest
    rw [String.toList_ofList] at hread
    obtain ⟨next, hdone, -⟩ := hread c hrest.symm
    exact ⟨y, next, hdone⟩
  · obtain ⟨hx, hrest, hstop, hnext⟩ := name_eq_done_iff.1 h
    refine ⟨⟨hrest, hnext, hstop⟩, ⟨Name.wellFormed_iff.1 hx, ?_⟩, isGlobal_iff hx, ?_⟩
    · exact fun hboth => not_isLocalText hboth.1 hboth.2
    · exact fun d rest hd hstop => reads_name hx hstop d hd

/-- A global name is read up to the separator of local names, and again from another text. -/
theorem name_exact_before_separator :
    let c : Cursor := .start "@a.0::%b".toList
    let d : Cursor := ⟨7, "@a.0)".toList⟩
    let x := Name.ofGlobal "a.0".toList
    name c = .done x ⟨4, "::%b".toList⟩ ∧ x.isGlobal = true ∧ Stops isWordChar ")".toList ∧
      ∃ last, name d = .done x last ∧ last.rest = ")".toList := by
  intro c d x
  obtain ⟨-, -, hname⟩ := name_exact c
  have hc : name c = .done x ⟨4, "::%b".toList⟩ := by decide +kernel
  have hstop : Stops isWordChar ")".toList := stops_of_head? (x := ')') rfl (by decide +kernel)
  obtain ⟨-, -, -, hagain⟩ := hname x _ hc
  exact ⟨hc, by decide +kernel, hstop, hagain d _ (by decide) hstop⟩

end Grammar

end Aliasing
