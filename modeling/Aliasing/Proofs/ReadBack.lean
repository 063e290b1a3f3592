import Aliasing.Proofs.AliasSets
import Aliasing.Proofs.Findings
/-!
# Reading back what was found

The groups are printed one to a line and read again line by line. A printed set of well-formed names
stays on its line, is not blank, and reads as that set; the members of groups are well formed
because each of them was read from a line in the first place.

Main statement: `readAliasSets_text`, the text of the findings reads back as the groups' members.
-/

namespace Aliasing

/-- A list is gone through without a fault when each of its members gives a value. -/
theorem mapM_eq_ok_iff {α β ε : Type} {f : α → Except ε β} {l : List α} {vs : List β} :
    l.mapM f = .ok vs ↔ List.Forall₂ (fun a v => f a = .ok v) l vs := by
  induction l generalizing vs with
  | nil => cases vs <;> simp [pure, Except.pure]
  | cons a l ih =>
    rw [List.mapM_cons]
    cases ha : f a with
    | error e => cases vs <;> simp [ha, bind, Except.bind]
    | ok v =>
      cases hl : l.mapM f with
      | error e => cases vs <;> simp [ha, ← ih, hl, bind, Except.bind]
      | ok ws => cases vs <;> simp [ha, ← ih, hl, bind, Except.bind, pure, Except.pure]

theorem mapM_eq_ok {α β ε : Type} {f : α → Except ε β} {g : α → β} {l : List α}
    (h : ∀ a ∈ l, f a = .ok (g a)) : l.mapM f = .ok (l.map g) := by
  rw [mapM_eq_ok_iff, List.forall₂_map_right_iff, List.forall₂_same]
  exact h

/-! ## Printed sets as lines -/

/-- No printed set of well-formed names breaks its line. -/
theorem no_break_aliasSetText {xs : NameSet} (hxs : ∀ x ∈ xs, x.WellFormed) :
    '\n' ∉ (aliasSetText xs).toList ∧ '\r' ∉ (aliasSetText xs).toList := by
  have hchar : ∀ c ∈ (aliasSetText xs).toList, isWordChar c = true ∨ c ∈ Name.sigil.toList ∨
      c ∈ Name.separator.toList ∨ ∃ s ∈ setMarks, c ∈ s.toList := by
    intro c hc
    rcases char_aliasSetText hc with ⟨x, hx, hc⟩ | hc
    · rcases (hxs x hx).char hc with h | h | h
      · exact Or.inl h
      · exact Or.inr (Or.inl h)
      · exact Or.inr (Or.inr (Or.inl h))
    · exact Or.inr (Or.inr (Or.inr hc))
  constructor
  · intro h
    exact absurd (hchar _ h) (by decide +kernel)
  · intro h
    exact absurd (hchar _ h) (by decide +kernel)

theorem not_isBlank_aliasSetText (xs : NameSet) : isBlank (aliasSetText xs).toList = false := by
  have hbrace : '\x7b' ∈ (aliasSetText xs).toList := by
    rw [aliasSetText, String.toList_append, String.toList_append, List.append_assoc]
    exact List.mem_append_left _ (by decide)
  rw [isBlank, List.all_eq_false]
  exact ⟨'\x7b', hbrace, by decide⟩

theorem readAliasSet_eq_ok_iff {line : List Char} {xs : NameSet} :
    readAliasSet line = .ok xs ↔ ∃ next, Grammar.aliasSet (.start line) = .done xs next :=
  Grammar.Reply.map_fst_toExcept_eq_ok_iff

/-- The written lines of printed groups are all of them, numbered from 1. -/
theorem writtenLines_join {gs : List AliasGroup} (hgs : ∀ g ∈ gs, ∀ x ∈ g.members, x.WellFormed) :
    writtenLines (String.join (gs.map fun g => g.text ++ "\n")) =
      (gs.zipIdx 1).map fun e => ⟨e.2, e.1.text.toList⟩ := by
  have htext : String.join (gs.map fun g => g.text ++ "\n") = textOfLines (gs.map (·.text)) := by
    rw [textOfLines, List.map_map]
    rfl
  have hlines : lines (String.join (gs.map fun g => g.text ++ "\n")).toList =
      gs.map fun g => g.text.toList := by
    rw [htext, lines_textOfLines, List.map_map]
    · rfl
    intro l hl
    obtain ⟨g, hg, rfl⟩ := List.mem_map.1 hl
    obtain ⟨hfeed, hreturn⟩ := no_break_aliasSetText (hgs g hg)
    exact ⟨hfeed, fun hlast => hreturn (List.mem_of_getLast? hlast)⟩
  have hwritten : ∀ e ∈ (gs.map fun g => g.text.toList).zipIdx 1, (!isBlank e.1) = true := by
    intro e he
    obtain ⟨g, -, htext⟩ := List.mem_map.1 (List.fst_mem_of_mem_zipIdx he)
    rw [← htext, AliasGroup.text, not_isBlank_aliasSetText]
    rfl
  rw [writtenLines, hlines, List.filter_eq_self.2 hwritten, List.zipIdx_map, List.map_map]
  rfl

/-- Printed groups with well-formed members read back as their members, in order. -/
theorem readAliasSets_join {gs : List AliasGroup} (hgs : ∀ g ∈ gs, ∀ x ∈ g.members, x.WellFormed) :
    readAliasSets (String.join (gs.map fun g => g.text ++ "\n")) = .ok (gs.map (·.members)) := by
  have hread : ∀ l ∈ gs.zipIdx 1,
      ((readAliasSet l.1.text.toList).mapError fun why => MalformedAliasSet.mk l.2 why) =
        .ok l.1.members := by
    intro l hl
    have hmembers := hgs l.1 (List.fst_mem_of_mem_zipIdx hl)
    obtain ⟨next, hdone, -⟩ := Grammar.reads_aliasSetText hmembers (.start l.1.text.toList) rfl
    rw [readAliasSet_eq_ok_iff.2 ⟨next, hdone⟩]
    rfl
  have hfst : (gs.zipIdx 1).map (fun e => e.1.members) = gs.map (·.members) := by
    have h := List.map_map (f := Prod.fst) (g := AliasGroup.members) (l := gs.zipIdx 1)
    rw [List.zipIdx_map_fst] at h
    exact h.symm
  rw [readAliasSets, writtenLines_join hgs, List.mapM_map, ← hfst]
  exact mapM_eq_ok hread

/-- **Output reads back.** What an analysis prints, under either reduction, is read as exactly the
members of its groups; so is any single group of names that are accepted in full, to the end of its
text; and a set that was read from anywhere is read again from its own text. -/
theorem readAliasSets_text :
    (∀ (text : String) (opts : Options) (f : Findings), (analyse text opts).value = .ok f →
      readAliasSets f.text = .ok (f.groups.map (·.members))) ∧
    (∀ g : AliasGroup, (∀ x ∈ g.members, Grammar.Accepted x) →
      Grammar.aliasSet.Reads g.text.toList g.members []) ∧
    (∀ (c next : Grammar.Cursor) (g : AliasGroup), Grammar.aliasSet c = .done g.members next →
      Grammar.aliasSet.Reads g.text.toList g.members []) := by
  refine ⟨?_, ?_, ?_⟩
  · intro text opts f hf
    rw [eq_ofDump_of_value_analyse hf]
    exact readAliasSets_join fun g hg x hx => wellFormed_of_mem_members hg hx
  · intro g hg
    exact Grammar.reads_aliasSetText fun x hx => Grammar.wellFormed_iff_accepted.2 (hg x hx)
  · intro c next g hdone
    obtain ⟨_, -, hg⟩ := Grammar.spells_aliasSet _ _ _ hdone
    exact Grammar.reads_aliasSetText hg

end Aliasing
