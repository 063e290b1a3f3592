import Aliasing.Proofs.LogLines
import Aliasing.Proofs.ReadBack
/-!
# Which texts hold alias sets

A line is read as an alias set when all of it has the shape of one, and the set is that of its
members. A text is read line by line; blank lines are passed over but counted, and the first line
that is neither blank nor an alias set is the fault of the whole.

Main statements: `readAliasSet_eq_ok_iff_line`, the lines that are read; `readAliasSets_eq_ok_iff`
and `readAliasSets_eq_error_iff`, the texts that are read and those that are not;
`readAliasSets_exact`, all of it together.
-/

namespace Aliasing

/-! ## Lines -/

/-- Nothing is left behind an alias set. -/
theorem Grammar.rest_eq_nil_of_aliasSet {c next : Cursor} {xs : NameSet}
    (h : aliasSet c = .done xs next) : next.rest = [] := by
  obtain ⟨_, _, -, h⟩ := Reply.andThen_eq_done_iff.1 h
  obtain ⟨_, _, -, h⟩ := Reply.andThen_eq_done_iff.1 h
  obtain ⟨_, _, -, h⟩ := Reply.andThen_eq_done_iff.1 h
  obtain ⟨_, _, -, h⟩ := Reply.andThen_eq_done_iff.1 h
  obtain ⟨_, last, hend, h⟩ := Reply.andThen_eq_done_iff.1 h
  obtain ⟨-, rfl⟩ := Reply.done.inj h
  rw [endOfText_apply] at hend
  split at hend
  · rename_i hrest
    obtain ⟨-, rfl⟩ := Reply.done.inj hend
    exact hrest
  · cases hend

theorem eq_ofList_iff {xs : NameSet} {names : List Name} :
    xs = Std.ExtTreeSet.ofList names ↔ ∀ x, x ∈ xs ↔ x ∈ names := by
  rw [Std.ExtTreeSet.ext_mem_iff]
  simp only [Std.ExtTreeSet.mem_ofList, List.contains_iff_mem]

/-- **The lines that are read** are those of the notation, each as the set of its members. -/
theorem readAliasSet_eq_ok_iff_line {line : List Char} {xs : NameSet} :
    readAliasSet line = .ok xs ↔ ∃ names, AliasSetLine names line ∧ ∀ x, x ∈ xs ↔ x ∈ names := by
  rw [readAliasSet_eq_ok_iff]
  constructor
  · rintro ⟨next, hdone⟩
    obtain ⟨w, hw, names, hline, hxs⟩ := Grammar.spells_aliasSetLine _ _ _ hdone
    rw [Grammar.rest_eq_nil_of_aliasSet hdone, List.append_nil, Grammar.Cursor.rest_start] at hw
    exact ⟨names, hw ▸ hline, eq_ofList_iff.1 hxs⟩
  · rintro ⟨names, hline, hxs⟩
    obtain ⟨next, hdone, -⟩ := Grammar.reads_aliasSet hline (.start line) rfl
    exact ⟨next, eq_ofList_iff.2 hxs ▸ hdone⟩

theorem exists_readAliasSet_iff {line : List Char} :
    (∃ xs, readAliasSet line = .ok xs) ↔ ∃ names, AliasSetLine names line := by
  simp only [readAliasSet_eq_ok_iff_line]
  constructor
  · rintro ⟨-, names, hline, -⟩
    exact ⟨names, hline⟩
  · rintro ⟨names, hline⟩
    exact ⟨_, names, hline, eq_ofList_iff.1 rfl⟩

/-! ## Texts -/

theorem mapError_eq_ok_iff {α ε ε' : Type} {f : ε → ε'} {r : Except ε α} {v : α} :
    r.mapError f = .ok v ↔ r = .ok v := by
  cases r <;> simp [Except.mapError]

/-- The first member with a fault is the fault of a list. -/
theorem mapM_eq_error {α β ε : Type} {f : α → Except ε β} {a : α} {e : ε} (ha : f a = .error e)
    (after : List α) : ∀ {before : List α}, (∀ b ∈ before, ∃ v, f b = .ok v) →
      (before ++ a :: after).mapM f = .error e
  | [], _ => by
    rw [List.nil_append, List.mapM_cons, ha]
    rfl
  | b :: before, h => by
    obtain ⟨⟨v, hv⟩, hbefore⟩ := List.forall_mem_cons.1 h
    rw [List.cons_append, List.mapM_cons, hv, mapM_eq_error ha after hbefore]
    rfl

/-- **A text without a fault** gives the set of each line that is not blank. -/
theorem readAliasSets_eq_ok_iff {text : String} {sets : List NameSet} :
    readAliasSets text = .ok sets ↔ List.Forall₂ (fun line xs => readAliasSet line = .ok xs)
      ((lines text.toList).filter fun l => !isBlank l) sets := by
  rw [readAliasSets, mapM_eq_ok_iff, ← map_text_writtenLines, List.forall₂_map_left_iff]
  simp only [mapError_eq_ok_iff]

/-- **The first line with a fault** is the fault of a text. -/
theorem readAliasSets_eq_error {text : String} {before after : List (List Char)} {line : List Char}
    {why : Grammar.Rejection} (hlines : lines text.toList = before ++ line :: after)
    (hbefore : ∀ l ∈ before, isBlank l = false → ∃ xs, readAliasSet l = .ok xs)
    (hblank : isBlank line = false) (hwhy : readAliasSet line = .error why) :
    readAliasSets text = .error ⟨before.length + 1, why⟩ := by
  rw [readAliasSets, writtenLines, hlines, List.zipIdx_append, List.zipIdx_cons, List.filter_append,
    List.filter_cons_of_pos (by simp [hblank]), List.map_append, List.map_cons, Nat.add_comm 1]
  refine mapM_eq_error (by rw [hwhy]; rfl) _ fun l hl => ?_
  obtain ⟨e, he, rfl⟩ := List.mem_map.1 hl
  obtain ⟨he, hwritten⟩ := List.mem_filter.1 he
  obtain ⟨xs, hxs⟩ := hbefore e.1 (List.fst_mem_of_mem_zipIdx he) (by simpa using hwritten)
  exact ⟨xs, mapError_eq_ok_iff.2 hxs⟩

/-- A text has a first line with a fault, or each of its lines is blank or holds a set. -/
theorem exists_first_malformed (ls : List (List Char)) :
    (∀ l ∈ ls, isBlank l = false → ∃ xs, readAliasSet l = .ok xs) ∨
      ∃ before line after why, ls = before ++ line :: after ∧
        (∀ l ∈ before, isBlank l = false → ∃ xs, readAliasSet l = .ok xs) ∧
        isBlank line = false ∧ readAliasSet line = .error why := by
  induction ls with
  | nil => exact Or.inl (by simp)
  | cons l ls ih =>
    have hl : (isBlank l = false → ∃ xs, readAliasSet l = .ok xs) ∨
        isBlank l = false ∧ ∃ why, readAliasSet l = .error why := by
      cases isBlank l <;> cases readAliasSet l <;> simp
    obtain hgood | ⟨hblank, why, hwhy⟩ := hl
    · rcases ih with hall | ⟨before, line, after, why, rfl, hbefore, hbad⟩
      · exact Or.inl (List.forall_mem_cons.2 ⟨hgood, hall⟩)
      · exact Or.inr ⟨l :: before, line, after, why, rfl,
          List.forall_mem_cons.2 ⟨hgood, hbefore⟩, hbad⟩
    · exact Or.inr ⟨[], l, ls, why, rfl, by simp, hblank, hwhy⟩

/-- Lines that are blank or hold a set make up a text without a fault. -/
theorem exists_readAliasSets_iff {text : String} :
    (∃ sets, readAliasSets text = .ok sets) ↔
      ∀ l ∈ lines text.toList, isBlank l = false → ∃ xs, readAliasSet l = .ok xs := by
  simp only [readAliasSets_eq_ok_iff, Grammar.exists_forall₂_iff, List.mem_filter,
    Bool.not_eq_true', and_imp]

/-- **The fault of a text** is that of its first line with one. -/
theorem readAliasSets_eq_error_iff {text : String} {e : MalformedAliasSet} :
    readAliasSets text = .error e ↔ ∃ before line after,
      lines text.toList = before ++ line :: after ∧
        (∀ l ∈ before, isBlank l = false → ∃ xs, readAliasSet l = .ok xs) ∧
        isBlank line = false ∧ readAliasSet line = .error e.why ∧ e.line = before.length + 1 := by
  constructor
  · intro he
    rcases exists_first_malformed (lines text.toList) with hall | hfirst
    · obtain ⟨sets, hsets⟩ := exists_readAliasSets_iff.2 hall
      cases hsets.symm.trans he
    · obtain ⟨before, line, after, why, hlines, hbefore, hblank, hwhy⟩ := hfirst
      cases (readAliasSets_eq_error hlines hbefore hblank hwhy).symm.trans he
      exact ⟨before, line, after, hlines, hbefore, hblank, hwhy, rfl⟩
  · rintro ⟨before, line, after, hlines, hbefore, hblank, hwhy, hline⟩
    rw [readAliasSets_eq_error hlines hbefore hblank hwhy, ← hline]

/-- **Exactly the notation is read.** A line is read when all of it has the shape of an alias set,
and then as the set of the members that stand in it. A text is read when each line that is not blank
holds a set, and then as these sets in the order of the lines; any other text is at fault for its
first line that is neither blank nor an alias set, and tells its number and what is wrong with it
alone. -/
theorem readAliasSets_exact :
    (∀ line, (∃ xs, readAliasSet line = .ok xs) ↔ ∃ names, AliasSetLine names line) ∧
    (∀ line xs, readAliasSet line = .ok xs ↔
      ∃ names, AliasSetLine names line ∧ ∀ x, x ∈ xs ↔ x ∈ names) ∧
    (∀ text, (∃ sets, readAliasSets text = .ok sets) ↔
      ∀ l ∈ lines text.toList, isBlank l = false → ∃ names, AliasSetLine names l) ∧
    (∀ text sets, readAliasSets text = .ok sets ↔
      List.Forall₂ (fun l xs => readAliasSet l = .ok xs)
        ((lines text.toList).filter fun l => !isBlank l) sets) ∧
    ∀ text e, readAliasSets text = .error e ↔ ∃ before line after,
      lines text.toList = before ++ line :: after ∧
        (∀ l ∈ before, isBlank l = false → ∃ xs, readAliasSet l = .ok xs) ∧
        isBlank line = false ∧ readAliasSet line = .error e.why ∧ e.line = before.length + 1 := by
  refine ⟨fun _ => exists_readAliasSet_iff, fun _ _ => readAliasSet_eq_ok_iff_line, fun text => ?_,
    fun _ _ => readAliasSets_eq_ok_iff, fun _ _ => readAliasSets_eq_error_iff⟩
  simp only [exists_readAliasSets_iff, exists_readAliasSet_iff]

-- The blank second line is counted. The list of the third fails behind its comma, so its fault is
-- that of the empty set, which is tried last.
example : readAliasSets "\x7b'@a', 'f::%x'\x7d\n\u3000\n\x7b'@a', \x7d\nnoise\n" =
    .error ⟨3, .missingLiteral "\x7d" "'@a', \x7d"⟩ := by
  decide +kernel

end Aliasing
