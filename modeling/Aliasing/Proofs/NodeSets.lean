import Aliasing.Proofs.Spacing
/-!
# Lists of node ids

The ids of a record are digits with gaps between them. A gap is taken for a separator only when a
digit follows, so the white space behind the last id is left alone; and an id takes every digit that
there is, so a number that is too large is reported with all of them.

Main statements: `reads_nodeSet`, a list of ids that are small enough is read as the set of their
numbers; `refuses_nodeSet`, the first id that is too large is the reason of a failure;
`spells_nodeSet` and `blames_nodeSet`, there are no other sets and no other ids that are too large.
-/

namespace Aliasing

open Grammar.Matcher

/-- The number that decimal digits denote. -/
def decimal (d : List Char) : Nat := Nat.ofDigitChars 10 d 0

inductive LaterIds : List (List Char) → List Char → Prop where
  | nil : LaterIds [] []
  | cons {s d w : List Char} {ds : List (List Char)} (hs : IsGap s) (hd : IsDigits d)
      (h : LaterIds ds w) : LaterIds (d :: ds) (s ++ (d ++ w))

/-- One or more ids with gaps between them, given by the digits of each. -/
inductive Ids : List (List Char) → List Char → Prop where
  | mk {d w : List Char} {ds : List (List Char)} (hd : IsDigits d) (h : LaterIds ds w) :
      Ids (d :: ds) (d ++ w)

abbrev DenotesId (d : List Char) (n : NodeId) : Prop := decimal d = n.toNat

/-- A set has the ids that digits denote, and no others. -/
def Denotes (ds : List (List Char)) (ns : NodeSet) : Prop := ∀ n, n ∈ ns ↔ ∃ d ∈ ds, DenotesId d n

/-- Nothing at the beginning of a text goes on a list of ids: no digit stands there, nor behind
white space. -/
def EndsIds (text : List Char) : Prop :=
  ∀ s rest, IsPadding s → text = s ++ rest → Stops Char.isDigit rest

theorem ofDigits?_eq_some_iff {d : List Char} {n : NodeId} :
    NodeId.ofDigits? d = some n ↔ DenotesId d n := by
  rw [NodeId.ofDigits?_eq, NodeId.ofNat?_eq_some_iff, DenotesId, decimal]

theorem ofDigits?_eq_none_iff {d : List Char} :
    NodeId.ofDigits? d = none ↔ UInt64.size ≤ decimal d := by
  rw [NodeId.ofDigits?_eq, NodeId.ofNat?_eq_none_iff, decimal]

/-- Digits whose number is small enough are the digits of an id. -/
theorem exists_denotesId {d : List Char} (h : decimal d < UInt64.size) : ∃ n, DenotesId d n :=
  ⟨⟨decimal d, h⟩, rfl⟩

theorem DenotesId.eq_iff {d : List Char} {m n : NodeId} (h : DenotesId d m) :
    n = m ↔ DenotesId d n := by
  rw [NodeId.ext_iff, DenotesId, h, eq_comm]

theorem LaterIds.stops_digit {ds : List (List Char)} {w rest : List Char} (h : LaterIds ds w)
    (hrest : Stops Char.isDigit rest) : Stops Char.isDigit (w ++ rest) := by
  cases h with
  | nil => exact hrest
  | cons hs hd h =>
    rw [List.append_assoc]
    exact hs.stops_digit _

theorem LaterIds.snoc {ds : List (List Char)} {w s d : List Char} (h : LaterIds ds w)
    (hs : IsGap s) (hd : IsDigits d) : LaterIds (ds ++ [d]) (w ++ (s ++ d)) := by
  induction h with
  | nil =>
    have hone := LaterIds.nil.cons hs hd
    rwa [List.append_nil] at hone
  | @cons s' d' w' ds' hs' hd' _ ih =>
    rw [List.append_assoc, List.append_assoc]
    exact ih.cons hs' hd'

theorem Ids.snoc {ds : List (List Char)} {w s d : List Char} (h : Ids ds w)
    (hs : IsGap s) (hd : IsDigits d) : Ids (ds ++ [d]) (w ++ (s ++ d)) := by
  cases h with
  | mk hd' h =>
    rw [List.append_assoc]
    exact .mk hd' (h.snoc hs hd)

theorem LaterIds.split : ∀ {front back : List (List Char)} {w : List Char},
    LaterIds (front ++ back) w → ∃ u v, w = u ++ v ∧ LaterIds front u ∧ LaterIds back v
  | [], _, w, h => ⟨[], w, rfl, .nil, h⟩
  | _ :: _, _, _, .cons hs hd h => by
    obtain ⟨u, v, rfl, hfront, hback⟩ := h.split
    exact ⟨_, v, by simp, hfront.cons hs hd, hback⟩

/-- A list of ids may be cut behind any of them. -/
theorem Ids.split {front back : List (List Char)} {w : List Char} (h : Ids (front ++ back) w)
    (hne : front ≠ []) : ∃ u v, w = u ++ v ∧ Ids front u ∧ LaterIds back v := by
  cases front with
  | nil => exact absurd rfl hne
  | cons d front =>
    cases h with
    | mk hd hw =>
      obtain ⟨u, v, rfl, hfront, hback⟩ := hw.split
      exact ⟨d ++ u, v, by simp, .mk hd hfront, hback⟩

theorem Ids.stops_whiteSpace {ds : List (List Char)} {w : List Char} (h : Ids ds w)
    (rest : List Char) : Stops whiteSpace.contains (w ++ rest) := by
  cases h with
  | mk hd h =>
    rw [List.append_assoc]
    exact hd.stops_whiteSpace _

theorem LaterIds.isDigits {ds : List (List Char)} {w : List Char} (h : LaterIds ds w) :
    ∀ d ∈ ds, IsDigits d := by
  induction h with
  | nil => simp
  | cons _ hd _ ih => exact List.forall_mem_cons.2 ⟨hd, ih⟩

theorem Ids.isDigits {ds : List (List Char)} {w : List Char} (h : Ids ds w) :
    ∀ d ∈ ds, IsDigits d := by
  cases h with
  | mk hd h => exact List.forall_mem_cons.2 ⟨hd, h.isDigits⟩

theorem EndsIds.stops_digit {text : List Char} (h : EndsIds text) : Stops Char.isDigit text :=
  h [] text (fun _ hc => absurd hc List.not_mem_nil) rfl

/-- White space before anything but a digit ends a list. -/
theorem endsIds_append {s rest : List Char} (hs : IsPadding s)
    (hspace : Stops whiteSpace.contains rest) (hdigit : Stops Char.isDigit rest) :
    EndsIds (s ++ rest) := by
  intro s' rest' hs' htext x hx
  cases hd : x.isDigit with
  | false => rfl
  | true =>
    have hstop : Stops whiteSpace.contains rest' := stops_of_head? hx (whiteSpace_of_isDigit hd)
    obtain ⟨-, rfl⟩ := run_inj hs hs' hspace hstop htext
    exact hd.symm.trans (hdigit x hx)

namespace Grammar

/-! ## One id -/

theorem reads_nodeId {d rest : List Char} {n : NodeId} (hd : IsDigits d)
    (hn : DenotesId d n) (hstop : Stops Char.isDigit rest) :
    nodeId.Reads (d ++ rest) n rest := by
  refine (reads_digits hd hstop).bind ?_
  rw [ofDigits?_eq_some_iff.2 hn]
  exact reads_pure n rest

theorem refuses_nodeId {d rest : List Char} (hd : IsDigits d) (hlarge : UInt64.size ≤ decimal d)
    (hstop : Stops Char.isDigit rest) :
    nodeId.Refuses (d ++ rest) (.oversizedId (String.ofList d)) := by
  refine (reads_digits hd hstop).bind_refuses ?_
  rw [ofDigits?_eq_none_iff.2 hlarge]
  exact refuses_reject _ _

theorem spells_nodeId : nodeId.Spells fun w n => IsDigits w ∧ DenotesId w n := by
  refine spells_digits.bind fun w v hw => ?_
  obtain ⟨rfl, hd⟩ := hw
  cases hn : NodeId.ofDigits? w with
  | none => exact fun c v next h => by cases h
  | some n =>
    refine spells_pure ?_
    rw [List.append_nil]
    exact ⟨hd, ofDigits?_eq_some_iff.1 hn⟩

/-- An id that is too large is named by all the digits at its place. -/
theorem blames_nodeId : nodeId.Blames fun text why => ∀ digits, why = .oversizedId digits →
    ∃ d rest, text = d ++ rest ∧ IsDigits d ∧ UInt64.size ≤ decimal d ∧ Stops Char.isDigit rest ∧
      digits = String.ofList d := by
  rintro c _ h digits rfl
  obtain ⟨d, rest, htext, hall, hstop⟩ := exists_run Char.isDigit c.rest
  by_cases hne : d = []
  · subst hne
    have hno : nodeId.Refuses rest (.notDigit (String.ofList (rest.take 30))) :=
      ((refuses_satisfying hstop).bind _).bind _
    cases h.symm.trans (hno c htext)
  · have hd : IsDigits d := ⟨hne, hall⟩
    rw [htext]
    rcases Nat.lt_or_ge (decimal d) UInt64.size with hsmall | hlarge
    · obtain ⟨n, hn⟩ := exists_denotesId hsmall
      obtain ⟨next, hdone, -⟩ := reads_nodeId hd hn hstop c htext
      rw [hdone] at h
      cases h
    · have hwhy := Reply.failed.inj (h.symm.trans (refuses_nodeId hd hlarge hstop c htext))
      exact ⟨d, rest, rfl, hd, hlarge, hstop, Rejection.oversizedId.inj hwhy⟩

/-! ## What separates ids -/

/-- A gap before an id separates it from the id before. -/
theorem reads_idSeparator {s d : List Char} (hs : IsGap s) (hd : IsDigits d) (rest : List Char) :
    idSeparator.Reads (s ++ (d ++ rest)) () (d ++ rest) := by
  refine (reads_gap hs (hd.stops_whiteSpace rest)).bind ?_
  obtain ⟨hne, hall⟩ := hd
  cases d with
  | nil => exact absurd rfl hne
  | cons x d =>
    have hx : x.isDigit = true := hall x List.mem_cons_self
    exact (reads_satisfying hx).lookAhead.bind (reads_pure _ _)

/-- White space before anything but a digit is not taken for a separator. -/
theorem rejects_idSeparator {text : List Char} (h : EndsIds text) : idSeparator.Rejects text := by
  obtain ⟨s, rest, rfl, hs, hspace⟩ := exists_run whiteSpace.contains text
  by_cases hne : s = []
  · rw [hne, List.nil_append]
    exact (((rejects_satisfying hspace).bind _).map _).bind _
  · have hdigit : Stops Char.isDigit rest := h s rest hs rfl
    have hlook : digit.lookAhead.Refuses rest (.notDigit (String.ofList (rest.take 30))) :=
      Refuses.lookAhead (refuses_satisfying hdigit)
    exact ((reads_gap ⟨hne, hs⟩ hspace).bind_refuses (hlook.bind _)).rejects

theorem spells_idSeparator : idSeparator.Spells fun w _ => IsGap w := by
  refine spells_gap.bind fun s _ hs => (spells_lookAhead digit).bind fun w _ hw => spells_pure ?_
  rw [hw, List.append_nil, List.append_nil]
  exact hs

/-! ## Lists of ids -/

/-- Digits are read to the last of them, as a value that `V` relates to them. -/
def ReadsDigits {α : Type} (item : Matcher α) (V : List Char → α → Prop) : Prop :=
  ∀ d v rest, IsDigits d → V d v → Stops Char.isDigit rest → item.Reads (d ++ rest) v rest

section Lists

variable {α : Type} {item : Matcher α} {V : List Char → α → Prop}
  {ds : List (List Char)} {vs : List α} {w d rest : List Char} {why : Rejection}

/-- A round of gap and id leaves less than it found. -/
theorem length_lt_round {s d : List Char} (hs : IsGap s) (text : List Char) :
    text.length < (s ++ (d ++ text)).length := by
  have hpos := List.length_pos_iff.2 hs.1
  rw [List.length_append, List.length_append]
  omega

/-- Ids are read one after the other, whatever an item makes of the digits of each. -/
theorem reads_laterIds (hitem : ReadsDigits item V) (hend : EndsIds rest) (h : LaterIds ds w)
    (hvs : List.Forall₂ V ds vs) :
    (item.separatedRest idSeparator).Reads (w ++ rest) vs rest := by
  induction h generalizing vs with
  | nil =>
    cases hvs
    exact (rejects_idSeparator hend).separatedRest
  | @cons s d w ds hs hd hw ih =>
    cases hvs with
    | cons hv hvs =>
      -- the next gap, or the end of the list, stops the digits
      have hid := hitem _ _ _ hd hv (hw.stops_digit hend.stops_digit)
      rw [List.append_assoc, List.append_assoc]
      exact (reads_idSeparator hs hd _).separatedRest_cons hid (length_lt_round hs _) (ih hvs)

theorem reads_ids (hitem : ReadsDigits item V) (hend : EndsIds rest) (h : Ids ds w)
    (hvs : List.Forall₂ V ds vs) : (item.separated idSeparator).Reads (w ++ rest) vs rest := by
  cases h with
  | mk hd hw =>
    cases hvs with
    | cons hv hvs =>
      have hid := hitem _ _ _ hd hv (hw.stops_digit hend.stops_digit)
      rw [List.append_assoc]
      exact hid.separated (reads_laterIds hitem hend hw hvs)

/-- A reader that keeps the digits of the ids as they are reads every list of them. -/
theorem reads_digitsOf_ids (h : Ids ds w) (hend : EndsIds rest) :
    (digit.many1.separated idSeparator).Reads (w ++ rest) ds rest := by
  have hitem : ReadsDigits digit.many1 Eq := fun _ _ _ hd he hr => he ▸ reads_digits hd hr
  exact reads_ids hitem hend h (List.forall₂_same.2 fun _ _ => rfl)

theorem refuses_laterIds {earlier : List (List Char)} (hitem : ReadsDigits item V)
    (hvs : List.Forall₂ V earlier vs) (h : LaterIds (earlier ++ [d]) w)
    (hlast : item.Refuses (d ++ rest) why) (hstop : Stops Char.isDigit rest) :
    (item.separatedRest idSeparator).Refuses (w ++ rest) why := by
  induction hvs generalizing w with
  | nil =>
    cases h with
    | cons hs hd h =>
      cases h with
      | nil =>
        rw [List.append_nil, List.append_assoc]
        exact .separatedRest (reads_idSeparator hs hd rest) hlast
  | cons hv _ ih =>
    cases h with
    | cons hs hd h =>
      have hid := hitem _ _ _ hd hv (h.stops_digit hstop)
      rw [List.append_assoc, List.append_assoc]
      exact .separatedRest_cons (reads_idSeparator hs hd _) hid (length_lt_round hs _) (ih h)

/-- The first id that is refused is the reason why the list is. -/
theorem refuses_ids {earlier : List (List Char)} (hitem : ReadsDigits item V)
    (hvs : List.Forall₂ V earlier vs) (h : Ids (earlier ++ [d]) w)
    (hlast : item.Refuses (d ++ rest) why) (hstop : Stops Char.isDigit rest) :
    (item.separated idSeparator).Refuses (w ++ rest) why := by
  cases hvs with
  | nil =>
    cases h with
    | mk hd h =>
      cases h with
      | nil =>
        rw [List.append_nil]
        exact hlast.bind _
  | cons hv hvs =>
    cases h with
    | mk hd h =>
      have hid := hitem _ _ _ hd hv (h.stops_digit hstop)
      rw [List.append_assoc]
      exact hid.bind_refuses ((refuses_laterIds hitem hvs h hlast hstop).bind _)

end Lists

/-- Rounds of gap and id are the later ids of a list. -/
theorem exists_laterIds {rounds : List (List Char)} {vs : List NodeId}
    (h : List.Forall₂ (fun r v => ∃ (s : List Char) (_ : Unit) (w : List Char),
      r = s ++ w ∧ IsGap s ∧ IsDigits w ∧ DenotesId w v) rounds vs) :
    ∃ ds, LaterIds ds rounds.flatten ∧ List.Forall₂ DenotesId ds vs := by
  induction h with
  | nil => exact ⟨[], .nil, .nil⟩
  | cons hround _ ih =>
    obtain ⟨s, -, d, rfl, hs, hd, hv⟩ := hround
    obtain ⟨ds, hds, hvs⟩ := ih
    refine ⟨d :: ds, ?_, .cons hv hvs⟩
    rw [List.flatten_cons, List.append_assoc]
    exact hds.cons hs hd

/-! ## Sets of ids -/

theorem exists_forall₂_denotesId_iff {ds : List (List Char)} :
    (∃ vs : List NodeId, List.Forall₂ DenotesId ds vs) ↔ ∀ d ∈ ds, decimal d < UInt64.size := by
  refine exists_forall₂_iff.trans (forall₂_congr fun d _ => ⟨?_, exists_denotesId⟩)
  rintro ⟨v, hv⟩
  exact hv ▸ v.isLt

theorem denotes_ofList {ds : List (List Char)} {vs : List NodeId}
    (h : List.Forall₂ DenotesId ds vs) : Denotes ds (Std.ExtTreeSet.ofList vs) := by
  intro n
  rw [Std.ExtTreeSet.mem_ofList, List.contains_iff_mem]
  induction h with
  | nil => simp
  | cons hv _ ih => rw [List.mem_cons, ih, List.exists_mem_cons_iff, hv.eq_iff]

/-- **A list of ids** is read as the set of their numbers when all of them are small enough. -/
theorem reads_nodeSet {ds : List (List Char)} {w rest : List Char} (h : Ids ds w)
    (hsmall : ∀ d ∈ ds, decimal d < UInt64.size) (hend : EndsIds rest) :
    ∃ ns, Denotes ds ns ∧ nodeSet.Reads (w ++ rest) ns rest := by
  obtain ⟨vs, hvs⟩ := exists_forall₂_denotesId_iff.2 hsmall
  have hitem : ReadsDigits nodeId DenotesId := fun _ _ _ => reads_nodeId
  exact ⟨_, denotes_ofList hvs, (reads_ids hitem hend h hvs).map _⟩

/-- A text begins with ids of which only the last, a whole run of digits, is too large. -/
inductive OversizedIn : List Char → String → Prop where
  | mk {earlier : List (List Char)} {d w rest : List Char} (h : Ids (earlier ++ [d]) w)
      (hsmall : ∀ e ∈ earlier, decimal e < UInt64.size) (hlarge : UInt64.size ≤ decimal d)
      (hstop : Stops Char.isDigit rest) : OversizedIn (w ++ rest) (String.ofList d)

/-- Among digits of which some denote too much there are first ones that do. -/
theorem exists_first_oversized {ds : List (List Char)}
    (h : ¬ ∀ d ∈ ds, decimal d < UInt64.size) :
    ∃ earlier d later, ds = (earlier ++ [d]) ++ later ∧ (∀ e ∈ earlier, decimal e < UInt64.size) ∧
      UInt64.size ≤ decimal d := by
  cases hfind : ds.find? fun d => UInt64.size ≤ decimal d with
  | none =>
    refine absurd (fun d hd => ?_) h
    simpa using List.find?_eq_none.1 hfind d hd
  | some d =>
    obtain ⟨hlarge, earlier, later, rfl, hsmall⟩ := List.find?_eq_some_iff_append.1 hfind
    refine ⟨earlier, d, later, by simp, fun e he => ?_, by simpa using hlarge⟩
    simpa using hsmall e he

/-- Neither the ids behind the first that is too large nor what follows the list go on its
digits. -/
theorem oversizedIn_of_ids {earlier later : List (List Char)} {d w rest : List Char}
    (h : Ids ((earlier ++ [d]) ++ later) w) (hsmall : ∀ e ∈ earlier, decimal e < UInt64.size)
    (hlarge : UInt64.size ≤ decimal d) (hstop : Stops Char.isDigit rest) :
    OversizedIn (w ++ rest) (String.ofList d) := by
  obtain ⟨u, v, rfl, hu, hv⟩ := h.split (by simp)
  rw [List.append_assoc]
  exact .mk hu hsmall hlarge (hv.stops_digit hstop)

/-- **The first id that is too large** is the reason of a failure. -/
theorem refuses_nodeSet {text : List Char} {digits : String} (h : OversizedIn text digits) :
    nodeSet.Refuses text (.oversizedId digits) := by
  cases h with
  | mk hids hsmall hlarge hstop =>
  obtain ⟨vs, hvs⟩ := exists_forall₂_denotesId_iff.2 hsmall
  have hitem : ReadsDigits nodeId DenotesId := fun _ _ _ => reads_nodeId
  have hd := hids.isDigits _ (List.mem_append_right _ (List.mem_singleton_self _))
  exact (refuses_ids hitem hvs hids (refuses_nodeId hd hlarge hstop) hstop).map _

theorem spells_nodeSet : nodeSet.Spells fun w ns =>
    ∃ ds, Ids ds w ∧ (∀ d ∈ ds, decimal d < UInt64.size) ∧ Denotes ds ns := by
  refine Spells.map (spells_nodeId.bind fun d v hd => ?_)
  refine (spells_nodeId.separatedRest spells_idSeparator).bind fun w vs hw => spells_pure ?_
  obtain ⟨rounds, rfl, hall⟩ := hw
  obtain ⟨ds, hlater, hvs⟩ := exists_laterIds hall
  have hvalues : List.Forall₂ DenotesId (d :: ds) (v :: vs) := .cons hd.2 hvs
  rw [List.append_nil]
  exact ⟨d :: ds, .mk hd.1 hlater, exists_forall₂_denotesId_iff.1 ⟨_, hvalues⟩,
    denotes_ofList hvalues⟩

/-- **No other failure** is for an id that is too large. -/
theorem blames_nodeSet : nodeSet.Blames fun text why =>
    ∀ digits, why = .oversizedId digits → OversizedIn text digits := by
  refine Blames.map (Blames.bind (S := fun w v => IsDigits w ∧ DenotesId w v) ?_ spells_nodeId ?_) _
  · refine blames_nodeId.mono fun text why h digits hwhy => ?_
    obtain ⟨d, rest, rfl, hd, hlarge, hstop, rfl⟩ := h digits hwhy
    have hone : Ids ([] ++ [d]) (d ++ []) := .mk hd .nil
    rw [List.append_nil] at hone
    exact .mk hone (by simp) hlarge hstop
  · intro w v hw
    refine Blames.bind ?_ (spells_any _) fun _ _ _ => blames_pure _
    refine (blames_nodeId.separatedRest spells_nodeId spells_idSeparator).mono ?_
    rintro _ why ⟨rounds, vs, hall, s, -, _, rfl, hs, h⟩ digits hwhy
    obtain ⟨d, rest, rfl, hd, hlarge, hstop, rfl⟩ := h digits hwhy
    obtain ⟨ds, hlater, hvs⟩ := exists_laterIds hall
    have hvalues : List.Forall₂ DenotesId (w :: ds) (v :: vs) := .cons hw.2 hvs
    have hids := (Ids.mk hw.1 hlater).snoc hs hd
    have htext : w ++ (rounds.flatten ++ (s ++ (d ++ rest))) =
        w ++ rounds.flatten ++ (s ++ d) ++ rest := by simp
    rw [htext]
    exact .mk hids (exists_forall₂_denotesId_iff.1 ⟨_, hvalues⟩) hlarge hstop

end Grammar

end Aliasing
