import Aliasing.AliasGroup
import Aliasing.Grammar.AliasSet
import Aliasing.Proofs.Spacing
/-!
# Alias sets, printed and read

A line with an alias set has its members between quotes and a comma between two of them, with white
space behind a comma, if any, and at the end of the line. None of these characters belongs to a
well-formed name, so the reader finds each member where it was put. A printed set is a line of that
notation, with one blank behind every comma.

Main statements: `reads_aliasSet` and `spells_aliasSetLine`, the lines that are read are those of
the notation; `aliasSetLine_aliasSetText`, a printed set is one of them, so `reads_aliasSetText`, it
reads as that set.
-/

namespace Aliasing

def Name.quoted (x : Name) : List Char := "'".toList ++ (x.text.toList ++ "'".toList)

/-! ## The notation -/

/-- The members after the first, each behind a comma and perhaps white space. -/
inductive LaterMembers : List Name → List Char → Prop where
  | nil : LaterMembers [] []
  | cons {s w : List Char} {x : Name} {xs : List Name} (hs : IsPadding s) (hx : x.WellFormed)
      (h : LaterMembers xs w) : LaterMembers (x :: xs) (",".toList ++ (s ++ (x.quoted ++ w)))

/-- The members of an alias set, which may be none. -/
inductive Members : List Name → List Char → Prop where
  | nil : Members [] []
  | cons {w : List Char} {x : Name} {xs : List Name} (hx : x.WellFormed) (h : LaterMembers xs w) :
      Members (x :: xs) (x.quoted ++ w)

/-- A line that holds an alias set and nothing else, given by the members in their order. -/
inductive AliasSetLine : List Name → List Char → Prop where
  | mk {w s : List Char} {xs : List Name} (h : Members xs w) (hs : IsPadding s) :
      AliasSetLine xs ("\x7b".toList ++ (w ++ ("\x7d".toList ++ s)))

theorem LaterMembers.wellFormed {xs : List Name} {w : List Char} (h : LaterMembers xs w) :
    ∀ x ∈ xs, x.WellFormed := by
  induction h with
  | nil => simp
  | cons _ hx _ ih => exact List.forall_mem_cons.2 ⟨hx, ih⟩

theorem AliasSetLine.wellFormed {xs : List Name} {w : List Char} (h : AliasSetLine xs w) :
    ∀ x ∈ xs, x.WellFormed := by
  obtain ⟨h, -⟩ := h
  cases h with
  | nil => simp
  | cons hx h => exact List.forall_mem_cons.2 ⟨hx, h.wellFormed⟩

/-! ## Printed sets -/

/-- What a printed set has after the first member: a comma and a blank before each of the others. -/
def quotedRest (xs : List Name) : List Char := xs.flatMap fun x => ", ".toList ++ x.quoted

def setMarks : List String := ["\x7b\x7d", "\x7b", "'", ", ", "\x7d"]

theorem toList_intercalate_quoted (x : Name) : ∀ xs : List Name,
    (String.intercalate ", " ((x :: xs).map fun x => "'" ++ x.text ++ "'")).toList =
      x.quoted ++ quotedRest xs
  | [] => by simp [quotedRest, Name.quoted]
  | y :: ys => by
    have ih := toList_intercalate_quoted y ys
    rw [List.map_cons] at ih
    rw [List.map_cons, List.map_cons, String.intercalate_cons_cons, String.toList_append, ih]
    simp [quotedRest, Name.quoted]

theorem toList_aliasSetText_empty : (aliasSetText ∅).toList = "\x7b\x7d".toList := by
  decide

/-- The text of a set with a first member. -/
theorem toList_aliasSetText {xs : NameSet} {x : Name} {rest : List Name}
    (h : xs.toList = x :: rest) :
    (aliasSetText xs).toList =
      "\x7b".toList ++ (x.quoted ++ (quotedRest rest ++ "\x7d".toList)) := by
  rw [aliasSetText, h, String.toList_append, String.toList_append, toList_intercalate_quoted,
    List.append_assoc, List.append_assoc]

/-- Every character of a printed set belongs to a member or to the notation. -/
theorem char_aliasSetText {xs : NameSet} {c : Char} (hc : c ∈ (aliasSetText xs).toList) :
    (∃ x ∈ xs, c ∈ x.text.toList) ∨ ∃ s ∈ setMarks, c ∈ s.toList := by
  cases hl : xs.toList with
  | nil =>
    rw [Std.ExtTreeSet.toList_eq_nil_iff.1 hl, toList_aliasSetText_empty] at hc
    exact Or.inr ⟨_, by simp [setMarks], hc⟩
  | cons x rest =>
    have hquoted : ∀ y ∈ x :: rest, c ∈ y.quoted →
        (∃ x ∈ xs, c ∈ x.text.toList) ∨ ∃ s ∈ setMarks, c ∈ s.toList := by
      intro y hy hc
      rw [← hl, Std.ExtTreeSet.mem_toList] at hy
      rw [Name.quoted, List.mem_append, List.mem_append] at hc
      rcases hc with hc | hc | hc
      · exact Or.inr ⟨"'", by simp [setMarks], hc⟩
      · exact Or.inl ⟨y, hy, hc⟩
      · exact Or.inr ⟨"'", by simp [setMarks], hc⟩
    rw [toList_aliasSetText hl, List.mem_append, List.mem_append, List.mem_append, quotedRest,
      List.mem_flatMap] at hc
    rcases hc with hc | hc | ⟨y, hy, hc⟩ | hc
    · exact Or.inr ⟨"\x7b", by simp [setMarks], hc⟩
    · exact hquoted x List.mem_cons_self hc
    · rcases List.mem_append.1 hc with hc | hc
      · exact Or.inr ⟨", ", by simp [setMarks], hc⟩
      · exact hquoted y (List.mem_cons_of_mem x hy) hc
    · exact Or.inr ⟨"\x7d", by simp [setMarks], hc⟩

theorem ofList_toList (xs : NameSet) : Std.ExtTreeSet.ofList xs.toList = xs :=
  Std.ExtTreeSet.ext_mem fun x => by simp [Std.ExtTreeSet.mem_ofList]

theorem laterMembers_quotedRest : ∀ {xs : List Name}, (∀ x ∈ xs, x.WellFormed) →
    LaterMembers xs (quotedRest xs)
  | [], _ => .nil
  | x :: xs, hxs => by
    obtain ⟨hx, hxs⟩ := List.forall_mem_cons.1 hxs
    have hblank : IsPadding " ".toList := by
      intro c hc
      rw [List.mem_singleton.1 hc]
      decide +kernel
    have hround : quotedRest (x :: xs) =
        ",".toList ++ (" ".toList ++ (x.quoted ++ quotedRest xs)) := by
      simp [quotedRest]
    rw [hround]
    exact (laterMembers_quotedRest hxs).cons hblank hx

/-- **A printed set** is a line of the notation. -/
theorem aliasSetLine_aliasSetText {xs : NameSet} (hxs : ∀ x ∈ xs, x.WellFormed) :
    AliasSetLine xs.toList (aliasSetText xs).toList := by
  have hnone : IsPadding [] := by simp [IsPadding]
  cases hl : xs.toList with
  | nil =>
    rw [Std.ExtTreeSet.toList_eq_nil_iff.1 hl, toList_aliasSetText_empty]
    exact .mk .nil hnone
  | cons x rest =>
    have hwell : ∀ y ∈ x :: rest, y.WellFormed := by
      intro y hy
      rw [← hl, Std.ExtTreeSet.mem_toList] at hy
      exact hxs y hy
    obtain ⟨hx, hrest⟩ := List.forall_mem_cons.1 hwell
    have hline := AliasSetLine.mk (.cons hx (laterMembers_quotedRest hrest)) hnone
    rw [toList_aliasSetText hl, ← List.append_assoc x.quoted]
    rwa [List.append_nil] at hline

namespace Grammar

open Matcher

/-! ## Reading the notation -/

theorem reads_quotedName {x : Name} (hx : x.WellFormed) (rest : List Char) :
    quotedName.Reads (x.quoted ++ rest) x rest := by
  have hstop : Stops isWordChar ("'".toList ++ rest) :=
    stops_of_head? (x := '\'') rfl (by decide +kernel)
  rw [Name.quoted, List.append_assoc, List.append_assoc]
  exact (reads_literal _ _).bind ((reads_name hx hstop).bind
    ((reads_literal _ _).bind (reads_pure _ _)))

/-- The comma between two members takes the white space behind it, and stops at the quote. -/
theorem reads_comma {s : List Char} (hs : IsPadding s) (x : Name) (rest : List Char) :
    comma.Reads (",".toList ++ (s ++ (x.quoted ++ rest))) () (x.quoted ++ rest) := by
  have hstop : Stops whiteSpace.contains (x.quoted ++ rest) :=
    stops_of_head? (x := '\'') rfl (by decide +kernel)
  exact (reads_literal "," _).bind (reads_padding hs hstop)

theorem reads_laterMembers {xs : List Name} {w rest : List Char} (hend : comma.Rejects rest)
    (h : LaterMembers xs w) : (quotedName.separatedRest comma).Reads (w ++ rest) xs rest := by
  induction h with
  | nil => exact hend.separatedRest
  | @cons s w x xs hs hx _ ih =>
    have hshort : (w ++ rest).length < (",".toList ++ (s ++ (x.quoted ++ (w ++ rest)))).length := by
      simp only [List.length_append]
      have hcomma : ",".toList.length = 1 := rfl
      omega
    rw [List.append_assoc, List.append_assoc, List.append_assoc]
    exact (reads_comma hs x _).separatedRest_cons (reads_quotedName hx _) hshort ih

/-- The members are read up to the closing brace. Where it follows at once, there is no list, and
the brace itself says that the set is empty. -/
theorem reads_members {xs : List Name} {w : List Char} (h : Members xs w) (s : List Char) :
    members.Reads (w ++ ("\x7d".toList ++ s)) (Std.ExtTreeSet.ofList xs) ("\x7d".toList ++ s) := by
  cases h with
  | nil =>
    have hnoQuote : (quotedName.separated comma).Rejects ("\x7d".toList ++ s) :=
      ((rejects_literal (by simp)).bind _).bind _
    exact (hnoQuote.map _).orElse ((reads_literal "\x7d" s).lookAhead.map _)
  | @cons w x xs hx h =>
    have hnoComma : comma.Rejects ("\x7d".toList ++ s) := (rejects_literal (by simp)).bind _
    have hlist : (quotedName.separated comma).Reads (x.quoted ++ (w ++ ("\x7d".toList ++ s)))
        (x :: xs) ("\x7d".toList ++ s) :=
      (reads_quotedName hx _).separated (reads_laterMembers hnoComma h)
    rw [List.append_assoc]
    exact (hlist.map _).orElse _

/-- **A line of the notation** is read as the set of its members, to its end. -/
theorem reads_aliasSet {xs : List Name} {line : List Char} (h : AliasSetLine xs line) :
    aliasSet.Reads line (Std.ExtTreeSet.ofList xs) [] := by
  obtain ⟨h, hs⟩ := h
  have hpadding := reads_padding hs stops_nil
  rw [List.append_nil] at hpadding
  exact (reads_literal _ _).bind ((reads_members h _).bind ((reads_literal "\x7d" _).bind
    (hpadding.bind (reads_endOfText.bind (reads_pure _ _)))))

/-- **A printed set reads as that set.** -/
theorem reads_aliasSetText {xs : NameSet} (hxs : ∀ x ∈ xs, x.WellFormed) :
    aliasSet.Reads (aliasSetText xs).toList xs [] := by
  have hread := reads_aliasSet (aliasSetLine_aliasSetText hxs)
  rwa [ofList_toList] at hread

/-! ## What can be read -/

theorem spells_quotedName : quotedName.Spells fun w x => w = x.quoted ∧ x.WellFormed := by
  refine (spells_literal _).bind fun q _ hq => spells_name.bind fun w x hx =>
    (spells_literal _).bind fun q' _ hq' => spells_pure ?_
  obtain ⟨rfl, hx⟩ := hx
  rw [hq, hq', List.append_nil]
  exact ⟨rfl, hx⟩

theorem spells_comma : comma.Spells fun w _ => ∃ s, w = ",".toList ++ s ∧ IsPadding s := by
  refine (spells_literal _).bind fun w _ hw => spells_padding.mono fun s _ hs => ?_
  rw [hw]
  exact ⟨s, rfl, hs⟩

/-- Rounds of comma and quoted name are the later members of a list. -/
theorem laterMembers_of_rounds {rounds : List (List Char)} {xs : List Name}
    (h : List.Forall₂ (fun r x => ∃ (s : List Char) (_ : Unit) (w : List Char), r = s ++ w ∧
      (∃ s', s = ",".toList ++ s' ∧ IsPadding s') ∧ w = x.quoted ∧ x.WellFormed) rounds xs) :
    LaterMembers xs rounds.flatten := by
  induction h with
  | nil => exact .nil
  | cons hround _ ih =>
    obtain ⟨_, -, _, rfl, ⟨s, rfl, hs⟩, rfl, hx⟩ := hround
    rw [List.flatten_cons, List.append_assoc, List.append_assoc]
    exact ih.cons hs hx

theorem spells_members : members.Spells fun w xs =>
    ∃ names, Members names w ∧ xs = Std.ExtTreeSet.ofList names := by
  refine Spells.orElse (Spells.map ?_) (Spells.map ?_)
  · refine spells_quotedName.bind fun w x hx => ?_
    refine (spells_quotedName.separatedRest spells_comma).bind fun w' xs hw => spells_pure ?_
    obtain ⟨rfl, hx⟩ := hx
    obtain ⟨rounds, rfl, hall⟩ := hw
    rw [List.append_nil]
    exact ⟨x :: xs, .cons hx (laterMembers_of_rounds hall), rfl⟩
  · refine (spells_lookAhead _).mono fun w _ hw => ?_
    rw [hw]
    exact ⟨[], .nil, rfl⟩

/-- **Nothing but the notation** is read. -/
theorem spells_aliasSetLine : aliasSet.Spells fun w xs =>
    ∃ names, AliasSetLine names w ∧ xs = Std.ExtTreeSet.ofList names := by
  refine (spells_literal _).bind fun o _ ho => spells_members.bind fun w xs hw =>
    (spells_literal _).bind fun b _ hb => spells_padding.bind fun s _ hs =>
      spells_endOfText.bind fun e _ he => spells_pure ?_
  obtain ⟨names, hw, hxs⟩ := hw
  rw [ho, hb, he, List.append_nil, List.append_nil]
  exact ⟨names, .mk hw hs, hxs⟩

theorem spells_aliasSet : aliasSet.Spells fun _ xs => ∀ x ∈ xs, x.WellFormed := by
  refine spells_aliasSetLine.mono ?_
  rintro w _ ⟨names, hline, rfl⟩ x hx
  rw [Std.ExtTreeSet.mem_ofList, List.contains_iff_mem] at hx
  exact hline.wellFormed x hx

end Grammar

end Aliasing
