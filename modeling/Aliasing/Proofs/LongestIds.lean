import Aliasing.Proofs.Decimals
/-!
# The longest list of ids

A text that begins with ids mostly does so in several ways: a list may end behind any of its ids,
and within the digits of one. The reader takes the longest. It ends where neither a digit nor white
space with a digit behind it goes on; the white space that is left belongs to whatever comes next.

Main statements: `exists_longestIds`, a text that begins with a digit begins with a longest list of
ids; `LongestIds.unique`, and with one only; `nodeSet_eq_iff`, the longest list decides what is
answered; `nodeSet_exact`, what is read of a text, why nothing is, and that the set depends on the
numbers alone.
-/

namespace Aliasing

open Grammar Grammar.Matcher

variable {text rest : List Char}

/-- The longest beginning of a text that is a list of ids, with the digits of each. -/
structure LongestIds (text : List Char) (ds : List (List Char)) (w : List Char) : Prop where
  ids : Ids ds w
  isPrefix : w <+: text
  longest : ∀ es v, Ids es v → v <+: text → v.length ≤ w.length

/-! ## One list is the longest -/

theorem EndsIds.ne_append {s d : List Char} (h : EndsIds text) (hs : IsPadding s)
    (hd : IsDigits d) (rest : List Char) : text ≠ s ++ (d ++ rest) :=
  fun htext => not_stops_append hd.1 hd.2 rest (h s _ hs htext)

theorem endsIds_nil : EndsIds [] := by
  intro s rest _ hnil
  rw [(List.append_eq_nil_iff.1 hnil.symm).2]
  exact stops_nil

theorem Ids.later {ds : List (List Char)} {s w : List Char} (h : Ids ds w) (hs : IsGap s) :
    LaterIds ds (s ++ w) := by
  cases h with
  | mk hd hw => exact hw.cons hs hd

theorem Ids.not_stops_digit {ds : List (List Char)} {w : List Char} (h : Ids ds w)
    (rest : List Char) : ¬ Stops Char.isDigit (w ++ rest) := by
  cases h with
  | mk hd hw =>
    rw [List.append_assoc]
    exact not_stops_append hd.1 hd.2 _

/-- Of two lists that stand at one place, one where the text behind it ends a list is not shorter.
The induction is on the other: its gaps are those of the longer list, and so are its digits but for
those of the last id, which may have been cut. -/
theorem LaterIds.length_le {es ds : List (List Char)} {v w t : List Char} (hv : LaterIds es v)
    (hw : LaterIds ds w) (hend : EndsIds rest) (h : v ++ t = w ++ rest) :
    v.length ≤ w.length := by
  induction hv generalizing ds w with
  | nil => exact Nat.zero_le _
  | @cons s d v es hs hd hv ih =>
    cases hw with
    | nil =>
      rw [List.nil_append, List.append_assoc, List.append_assoc] at h
      exact absurd h.symm (hend.ne_append hs.2 hd _)
    | @cons s' d' w ds hs' hd' hw =>
      simp only [List.append_assoc] at h
      obtain ⟨rfl, hids⟩ := run_inj hs.2 hs'.2 (hd.stops_whiteSpace _) (hd'.stops_whiteSpace _) h
      have hstop : Stops Char.isDigit (w ++ rest) := hw.stops_digit hend.stops_digit
      simp only [List.length_append]
      cases hv with
      | nil =>
        have hcut := length_le_of_run hd.2 hd'.2 hstop hids
        rw [List.length_nil]
        omega
      | @cons s₂ d₂ v es hs₂ hd₂ hv =>
        -- a further gap stops the digits before it, so that none of them has been cut
        have hgap : Stops Char.isDigit (s₂ ++ (d₂ ++ v) ++ t) := by
          rw [List.append_assoc]
          exact hs₂.stops_digit _
        obtain ⟨rfl, hlater⟩ := run_inj hd.2 hd'.2 hgap hstop hids
        have hle := ih hw hlater
        omega

/-- **A list that nothing goes on** is the longest. -/
theorem Ids.longest {ds : List (List Char)} {w : List Char} (h : Ids ds w) (hend : EndsIds rest) :
    LongestIds (w ++ rest) ds w where
  ids := h
  isPrefix := List.prefix_append _ _
  longest es v hv := by
    rintro ⟨t, ht⟩
    -- a blank in front makes the ids of both lists later ones
    have hblank : IsGap [' '] :=
      ⟨by decide, fun c hc => by rw [List.mem_singleton.1 hc]; decide⟩
    have hle := (hv.later hblank).length_le (t := t) (h.later hblank) hend (by simp [ht])
    simpa using hle

/-- The digits of ids are determined by the characters of the list. -/
theorem Ids.unique {ds es : List (List Char)} {w : List Char} (h : Ids ds w) (h' : Ids es w) :
    ds = es :=
  ((reads_digitsOf_ids h endsIds_nil).unique (reads_digitsOf_ids h' endsIds_nil)).1

/-- **The longest list is one list.** -/
theorem LongestIds.unique {ds es : List (List Char)} {v w : List Char} (h : LongestIds text ds v)
    (h' : LongestIds text es w) : ds = es ∧ v = w := by
  have hlength : v.length = w.length :=
    Nat.le_antisymm (h'.longest ds v h.ids h.isPrefix) (h.longest es w h'.ids h'.isPrefix)
  have hprefix := List.prefix_of_prefix_length_le h.isPrefix h'.isPrefix (Nat.le_of_eq hlength)
  obtain rfl : v = w := hprefix.eq_of_length hlength
  exact ⟨h.ids.unique h'.ids, rfl⟩

/-- **A text begins with a longest list of ids** if it begins with a digit. The induction is on the
text: behind an id and the gap after it stand further ids, or the list has ended. -/
theorem exists_ids (text : List Char) :
    Stops Char.isDigit text ∨ ∃ ds w rest, text = w ++ rest ∧ Ids ds w ∧ EndsIds rest := by
  induction hn : text.length using Nat.strongRecOn generalizing text with
  | _ n ih =>
  obtain ⟨d, behind, rfl, hdigits, hstop⟩ := exists_run Char.isDigit text
  by_cases hd : d = []
  · subst hd
    exact Or.inl hstop
  obtain ⟨s, next, rfl, hs, hspace⟩ := exists_run whiteSpace.contains behind
  have hshort : next.length < n := by
    have hpos := List.length_pos_iff.2 hd
    rw [← hn, List.length_append, List.length_append]
    omega
  right
  rcases ih _ hshort next rfl with hlast | ⟨ds, w, rest, rfl, hids, hend⟩
  · exact ⟨[d], d ++ [], s ++ next, by simp, .mk ⟨hd, hdigits⟩ .nil, endsIds_append hs hspace hlast⟩
  · have hgap : IsGap s := by
      refine ⟨?_, hs⟩
      rintro rfl
      -- without a gap the digits of the next id would have been digits of this one
      exact hids.not_stops_digit rest hstop
    exact ⟨d :: ds, d ++ (s ++ w), rest, by simp, .mk ⟨hd, hdigits⟩ (hids.later hgap), hend⟩

theorem exists_longestIds (text : List Char) :
    Stops Char.isDigit text ∨ ∃ ds w, LongestIds text ds w := by
  rcases exists_ids text with hstop | ⟨ds, w, rest, rfl, hids, hend⟩
  · exact Or.inl hstop
  · exact Or.inr ⟨ds, w, hids.longest hend⟩

/-- Behind the longest list nothing goes on it. -/
theorem LongestIds.exists_rest {ds : List (List Char)} {w : List Char} (h : LongestIds text ds w) :
    ∃ rest, text = w ++ rest ∧ EndsIds rest := by
  rcases exists_ids text with hstop | ⟨es, v, rest, rfl, hids, hend⟩
  · obtain ⟨rest, rfl⟩ := h.isPrefix
    exact absurd hstop (h.ids.not_stops_digit rest)
  · obtain ⟨-, rfl⟩ := h.unique (hids.longest hend)
    exact ⟨rest, rfl, hend⟩

namespace Grammar

variable {c : Cursor} {ds : List (List Char)} {w : List Char}

/-! ## What is read -/

theorem nodeSet_of_stops (h : Stops Char.isDigit c.rest) :
    nodeSet c = .failed (.notDigit c.preview) := by
  have hdigit : digit.Refuses c.rest (.notDigit c.preview) := refuses_satisfying h
  have hid : nodeId.Refuses c.rest (.notDigit c.preview) := (hdigit.bind _).bind _
  exact (hid.bind _).map _ c rfl

/-- **The longest list is read** if all its ids are small enough. -/
theorem nodeSet_of_small (h : LongestIds c.rest ds w) (hsmall : ∀ d ∈ ds, decimal d < UInt64.size) :
    ∃ ns, Denotes ds ns ∧ nodeSet c = .done ns (c.advance w.length) := by
  obtain ⟨rest, hrest, hend⟩ := h.exists_rest
  obtain ⟨ns, hns, hread⟩ := reads_nodeSet h.ids hsmall hend
  exact ⟨ns, hns, hread.eq_done hrest⟩

/-- **The first id of it that is too large** is the reason why it is not. -/
theorem nodeSet_of_large {earlier later : List (List Char)} {d : List Char}
    (h : LongestIds c.rest ((earlier ++ [d]) ++ later) w)
    (hsmall : ∀ e ∈ earlier, decimal e < UInt64.size) (hlarge : UInt64.size ≤ decimal d) :
    nodeSet c = .failed (.oversizedId (String.ofList d)) := by
  obtain ⟨rest, hrest, hend⟩ := h.exists_rest
  have hover := oversizedIn_of_ids h.ids hsmall hlarge hend.stops_digit
  exact refuses_nodeSet hover c hrest

/-- The answer that the longest list of ids at a cursor calls for. -/
inductive ListAnswer (c : Cursor) : Reply NodeSet → Prop where
  /-- There is no list. -/
  | noDigit (h : Stops Char.isDigit c.rest) : ListAnswer c (.failed (.notDigit c.preview))
  /-- All ids are small enough. -/
  | small {ds : List (List Char)} {w : List Char} {ns : NodeSet} (h : LongestIds c.rest ds w)
      (hsmall : ∀ d ∈ ds, decimal d < UInt64.size) (hns : Denotes ds ns) :
      ListAnswer c (.done ns (c.advance w.length))
  /-- One is too large, and none before it. -/
  | large {earlier later : List (List Char)} {d w : List Char}
      (h : LongestIds c.rest ((earlier ++ [d]) ++ later) w)
      (hsmall : ∀ e ∈ earlier, decimal e < UInt64.size) (hlarge : UInt64.size ≤ decimal d) :
      ListAnswer c (.failed (.oversizedId (String.ofList d)))

theorem exists_listAnswer (c : Cursor) : ∃ r, ListAnswer c r := by
  rcases exists_longestIds c.rest with hstop | ⟨ds, w, hlist⟩
  · exact ⟨_, .noDigit hstop⟩
  by_cases hsmall : ∀ d ∈ ds, decimal d < UInt64.size
  · obtain ⟨vs, hvs⟩ := exists_forall₂_denotesId_iff.2 hsmall
    exact ⟨_, .small hlist hsmall (denotes_ofList hvs)⟩
  · obtain ⟨earlier, d, later, rfl, hearlier, hlarge⟩ := exists_first_oversized hsmall
    exact ⟨_, .large hlist hearlier hlarge⟩

/-- **The longest list decides** what is answered. -/
theorem nodeSet_eq_iff {r : Reply NodeSet} : nodeSet c = r ↔ ListAnswer c r := by
  have hanswer : ∀ {r}, ListAnswer c r → nodeSet c = r := by
    intro r h
    cases h with
    | noDigit hstop => exact nodeSet_of_stops hstop
    | @small ds w ns hlist hsmall hns =>
      obtain ⟨ns', hns', hdone⟩ := nodeSet_of_small hlist hsmall
      have hsame : ns' = ns := Std.ExtTreeSet.ext_mem fun n => (hns' n).trans (hns n).symm
      rw [hdone, hsame]
    | large hlist hearlier hlarge => exact nodeSet_of_large hlist hearlier hlarge
  constructor
  · rintro rfl
    obtain ⟨r, hr⟩ := exists_listAnswer c
    rw [hanswer hr]
    exact hr
  · exact hanswer

theorem nodeSet_eq_done_iff {ns : NodeSet} {next : Cursor} :
    nodeSet c = .done ns next ↔ ∃ ds w, LongestIds c.rest ds w ∧
      (∀ d ∈ ds, decimal d < UInt64.size) ∧ Denotes ds ns ∧ next = c.advance w.length := by
  rw [nodeSet_eq_iff]
  constructor
  · intro h
    cases h with
    | small hlist hsmall hns => exact ⟨_, _, hlist, hsmall, hns, rfl⟩
  · rintro ⟨ds, w, hlist, hsmall, hns, rfl⟩
    exact .small hlist hsmall hns

theorem nodeSet_eq_failed_iff {why : Rejection} :
    nodeSet c = .failed why ↔ (Stops Char.isDigit c.rest ∧ why = .notDigit c.preview) ∨
      ∃ earlier d later w, LongestIds c.rest ((earlier ++ [d]) ++ later) w ∧
        (∀ e ∈ earlier, decimal e < UInt64.size) ∧ UInt64.size ≤ decimal d ∧
        why = .oversizedId (String.ofList d) := by
  rw [nodeSet_eq_iff]
  constructor
  · intro h
    cases h with
    | noDigit hstop => exact Or.inl ⟨hstop, rfl⟩
    | large hlist hearlier hlarge => exact Or.inr ⟨_, _, _, _, hlist, hearlier, hlarge, rfl⟩
  · rintro (⟨hstop, rfl⟩ | ⟨earlier, d, later, w, hlist, hearlier, hlarge, rfl⟩)
    · exact .noDigit hstop
    · exact .large hlist hearlier hlarge

/-- Digits of the same numbers, in whatever order, however often each, and behind however many
zeros. -/
def SameNumbers (ds es : List (List Char)) : Prop :=
  ∀ n, (∃ d ∈ ds, decimal d = n) ↔ ∃ e ∈ es, decimal e = n

theorem sameNumbers_perm {es : List (List Char)} (h : ds.Perm es) : SameNumbers ds es := by
  intro n
  simp only [h.mem_iff]

theorem sameNumbers_repeat {d : List Char} (h : d ∈ ds) : SameNumbers (d :: ds) ds := by
  intro n
  rw [List.exists_mem_cons_iff, or_iff_right_iff_imp]
  exact fun hn => ⟨d, h, hn⟩

theorem sameNumbers_zeros (k : Nat) (d : List Char) (ds : List (List Char)) :
    SameNumbers ((List.replicate k '0' ++ d) :: ds) (d :: ds) := by
  intro n
  rw [List.exists_mem_cons_iff, List.exists_mem_cons_iff, decimal_zeros_append]

theorem SameNumbers.small {es : List (List Char)} (h : SameNumbers ds es)
    (hsmall : ∀ d ∈ ds, decimal d < UInt64.size) : ∀ e ∈ es, decimal e < UInt64.size := by
  intro e he
  obtain ⟨d, hd, hde⟩ := (h (decimal e)).2 ⟨e, he, rfl⟩
  exact hde ▸ hsmall d hd

/-- **The set depends on the numbers alone.** -/
theorem SameNumbers.exists_nodeSet {es : List (List Char)} {c' : Cursor} {v : List Char}
    (h : SameNumbers ds es) (hds : LongestIds c.rest ds w) (hes : LongestIds c'.rest es v)
    {ns : NodeSet} (hdone : ∃ next, nodeSet c = .done ns next) :
    ∃ next, nodeSet c' = .done ns next := by
  obtain ⟨next, hdone⟩ := hdone
  obtain ⟨ds', w', hlist, hsmall, hns, -⟩ := nodeSet_eq_done_iff.1 hdone
  obtain ⟨rfl, rfl⟩ := hlist.unique hds
  have hns' : Denotes es ns := fun n => (hns n).trans (h n.toNat)
  exact ⟨_, nodeSet_eq_done_iff.2 ⟨es, v, hes, h.small hsmall, hns', rfl⟩⟩

/-- **Lists of ids are read to their end and no further.** At a cursor, a set is read just where the
longest list of ids that stands there has no id that is too large; it has the numbers of the ids,
and reading goes on behind the list, with all white space that no digit follows still to come. It is
rejected for want of a digit just where none stands there, and otherwise for the first id of the
longest list that is too large, as it is written. Where the longest lists at two cursors have ids of
the same numbers, the same set is read or none at all, whatever white space stands between the ids;
and the numbers are the same in another order, with an id repeated, and with zeros before one. -/
theorem nodeSet_exact :
    (∀ c : Cursor, nodeSet c ≠ .endless ∧
      (∀ ns next, nodeSet c = .done ns next ↔ ∃ ds w, LongestIds c.rest ds w ∧
        (∀ d ∈ ds, decimal d < UInt64.size) ∧ Denotes ds ns ∧ next = c.advance w.length) ∧
      (∀ ns next, nodeSet c = .done ns next → EndsIds next.rest) ∧
      ∀ why, nodeSet c = .failed why ↔
        (Stops Char.isDigit c.rest ∧ why = .notDigit c.preview) ∨
        ∃ earlier d later w, LongestIds c.rest ((earlier ++ [d]) ++ later) w ∧
          (∀ e ∈ earlier, decimal e < UInt64.size) ∧ UInt64.size ≤ decimal d ∧
          why = .oversizedId (String.ofList d)) ∧
    (∀ (c c' : Cursor) (ds es : List (List Char)) (w v : List Char), LongestIds c.rest ds w →
      LongestIds c'.rest es v → SameNumbers ds es →
      ∀ ns, (∃ next, nodeSet c = .done ns next) ↔ ∃ next, nodeSet c' = .done ns next) ∧
    (∀ ds es : List (List Char), ds.Perm es → SameNumbers ds es) ∧
    (∀ (ds : List (List Char)), ∀ d ∈ ds, SameNumbers (d :: ds) ds) ∧
    ∀ (k : Nat) (d : List Char) (ds : List (List Char)),
      SameNumbers ((List.replicate k '0' ++ d) :: ds) (d :: ds) := by
  refine ⟨?_, ?_, fun _ _ => sameNumbers_perm, fun _ _ => sameNumbers_repeat, sameNumbers_zeros⟩
  · intro c
    refine ⟨ends_nodeSet c, fun _ _ => nodeSet_eq_done_iff, fun ns next h => ?_,
      fun _ => nodeSet_eq_failed_iff⟩
    obtain ⟨ds, w, hlist, -, -, rfl⟩ := nodeSet_eq_done_iff.1 h
    obtain ⟨rest, hrest, hend⟩ := hlist.exists_rest
    rw [Cursor.rest_advance_length hrest]
    exact hend
  · intro c c' ds es w v hds hes hsame ns
    have hsame' : SameNumbers es ds := fun n => (hsame n).symm
    exact ⟨hsame.exists_nodeSet hds hes, hsame'.exists_nodeSet hes hds⟩

/-- The same ids in another order, one of them twice, with zeros and with a tab between them. -/
theorem nodeSet_exact_rearranged :
    let c : Cursor := ⟨4, "12 1 \x7d".toList⟩
    let c' : Cursor := ⟨0, "001\t12  012;".toList⟩
    let ds := ["12".toList, "1".toList]
    let es := ["001".toList, "12".toList, "012".toList]
    let ids : List NodeId := [⟨12, by decide⟩, ⟨1, by decide⟩]
    let ns : NodeSet := Std.ExtTreeSet.ofList ids
    LongestIds c.rest ds "12 1".toList ∧ LongestIds c'.rest es "001\t12  012".toList ∧
      SameNumbers ds es ∧ nodeSet c = .done ns ⟨8, " \x7d".toList⟩ ∧ EndsIds " \x7d".toList ∧
      ∃ next, nodeSet c' = .done ns next := by
  intro c c' ds es ids ns
  have hdigits : ∀ {d : List Char}, d ≠ [] → d.all Char.isDigit = true → IsDigits d :=
    fun hne hall => ⟨hne, List.all_eq_true.1 hall⟩
  have hgap : ∀ {s : List Char}, s ≠ [] → s.all whiteSpace.contains = true → IsGap s :=
    fun hne hall => ⟨hne, List.all_eq_true.1 hall⟩
  have hends : ∀ {s : List Char} {x : Char}, s.all whiteSpace.contains = true →
      whiteSpace.contains x = false → x.isDigit = false → EndsIds (s ++ [x]) :=
    fun hs hspace hdigit => endsIds_append (List.all_eq_true.1 hs) (stops_of_head? rfl hspace)
      (stops_of_head? rfl hdigit)
  have hend : EndsIds " \x7d".toList := hends (s := [' ']) (by decide) (by decide) (by decide)
  have hend' : EndsIds ";".toList := hends (s := []) (by decide) (by decide) (by decide)
  have hids : Ids ds "12 1".toList :=
    .mk (hdigits (by decide) (by decide)) <|
      .cons (s := " ".toList) (hgap (by decide) (by decide)) (hdigits (by decide) (by decide)) .nil
  have hids' : Ids es "001\t12  012".toList :=
    .mk (hdigits (by decide) (by decide)) <|
      .cons (s := "\t".toList) (hgap (by decide) (by decide))
        (hdigits (by decide) (by decide)) <|
        .cons (s := "  ".toList) (hgap (by decide) (by decide))
          (hdigits (by decide) (by decide)) .nil
  have hlist : LongestIds c.rest ds "12 1".toList := hids.longest hend
  have hlist' : LongestIds c'.rest es "001\t12  012".toList := hids'.longest hend'
  have hsame : SameNumbers ds es := by
    intro n
    have hd : ds.map decimal = [12, 1] := by decide
    have he : es.map decimal = [1, 12, 12] := by decide
    rw [← List.mem_map, ← List.mem_map, hd, he]
    simp only [List.mem_cons, List.not_mem_nil, or_false]
    omega
  have hnumbers : List.Forall₂ DenotesId ds ids := .cons (by decide) (.cons (by decide) .nil)
  obtain ⟨hread, hcongr, -⟩ := nodeSet_exact
  obtain ⟨-, hdone, -, -⟩ := hread c
  have hc : nodeSet c = .done ns ⟨8, " \x7d".toList⟩ :=
    (hdone _ _).2 ⟨ds, _, hlist, by decide, denotes_ofList hnumbers, rfl⟩
  exact ⟨hlist, hlist', hsame, hc, hend, (hcongr c c' ds es _ _ hlist hlist' hsame ns).1 ⟨_, hc⟩⟩

end Grammar

end Aliasing
