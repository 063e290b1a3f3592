import Aliasing.Analysis
import Aliasing.Proofs.Spacing
/-!
# What a JSON document says

A document is put together from numbers, literals and marks without a word on their lengths, so it
has to show by itself where each part of it ends. A number ends at the first character that is no
digit, and only a comma, a closing mark or the end of the text stands behind one. The code of a
character in a literal is no beginning of another character's code, and none begins with a quote, so
a literal ends at the first quote that begins a code. Values of different kinds begin differently,
and none begins like a comma or a closing mark. Hence a text has one reading at most, whatever the
strings in it hold.

Main statements: `unmistakable_chars`, no value is written like another, with whatever behind them;
`compact_toJson_eq_iff`, the document of two findings is the same exactly if their groups and their
counts are.
-/

namespace Aliasing

open Grammar.Matcher

namespace Json

/-- In a form of writing, nothing but `a` is written like `a`, not even if different texts stand
behind the two, as long as neither of these goes on a number. -/
def Unmistakable {α : Type} (form : α → List Char) (a : α) : Prop :=
  ∀ b s t, Stops Char.isDigit s → Stops Char.isDigit t → form a ++ s = form b ++ t → a = b ∧ s = t

/-! ## Numbers -/

theorem unmistakable_repr (n : Nat) : Unmistakable (fun n : Nat => n.repr.toList) n := by
  intro m s t hs ht h
  obtain ⟨hdigits, hst⟩ := run_inj (isDigits_repr n).2 (isDigits_repr m).2 hs ht h
  rw [Nat.toList_repr, Nat.toList_repr] at hdigits
  have hnumber := congrArg (Nat.ofDigitChars 10 · 0) hdigits
  simp only [Nat.ofDigitChars_ten_toDigits] at hnumber
  exact ⟨hnumber, hst⟩

/-! ## Strings -/

/-- The characters that do not stand for themselves. -/
def escapedChars : List Char := '\"' :: '\\' :: (List.range 0x20).map Char.ofNat

theorem escapedChar_of_not_mem {c : Char} (h : c ∉ escapedChars) : escapedChar c = [c] := by
  have hplain : ∀ d ∈ escapedChars, c ≠ d := fun d hd hcd => h (hcd ▸ hd)
  have hlow : ¬ c.toNat < 0x20 := by
    intro hlt
    refine hplain _ (List.mem_cons_of_mem _ (List.mem_cons_of_mem _ ?_)) (Char.ofNat_toNat c).symm
    exact List.mem_map_of_mem (List.mem_range.2 hlt)
  unfold escapedChar
  split
  all_goals first
    | exact absurd rfl (hplain _ (by decide +kernel))
    | exact if_neg hlow

theorem head?_escapedChar_of_mem {c : Char} (h : c ∈ escapedChars) :
    (escapedChar c).head? = some '\\' := by
  have hall : escapedChars.all (fun c => (escapedChar c).head? == some '\\') = true := by
    decide +kernel
  exact eq_of_beq (List.all_eq_true.1 hall c h)

theorem eq_of_prefix_escapedChar {c d : Char} (hc : c ∈ escapedChars) (hd : d ∈ escapedChars)
    (h : escapedChar c <+: escapedChar d) : c = d := by
  have hall : escapedChars.all (fun c => escapedChars.all fun d =>
      !(escapedChar c).isPrefixOf (escapedChar d) || c == d) = true := by decide +kernel
  have hcd := List.all_eq_true.1 (List.all_eq_true.1 hall c hc) d hd
  rw [List.isPrefixOf_iff_prefix.2 h] at hcd
  exact eq_of_beq hcd

/-- Every code begins with the backslash or, without being longer, with the character itself. -/
theorem exists_escapedChar_eq_cons (c : Char) : ∃ d rest, escapedChar c = d :: rest ∧ d ≠ '\"' ∧
    (d = '\\' ↔ c ∈ escapedChars) := by
  by_cases hc : c ∈ escapedChars
  · have hhead := head?_escapedChar_of_mem hc
    cases hcode : escapedChar c with
    | nil => rw [hcode] at hhead; cases hhead
    | cons d rest =>
      rw [hcode] at hhead
      obtain rfl := Option.some.inj hhead
      exact ⟨_, rest, rfl, by decide, iff_of_true rfl hc⟩
  · refine ⟨c, [], escapedChar_of_not_mem hc, ?_, iff_of_false ?_ hc⟩
    · rintro rfl
      exact hc (by decide)
    · rintro rfl
      exact hc (by decide)

/-- **No code begins another**, so the first character of a text of codes is determined. -/
theorem escapedChar_append_inj {c d : Char} {s t : List Char}
    (h : escapedChar c ++ s = escapedChar d ++ t) : c = d ∧ s = t := by
  obtain ⟨a, rest, hcode, -, ha⟩ := exists_escapedChar_eq_cons c
  obtain ⟨b, rest', hcode', -, hb⟩ := exists_escapedChar_eq_cons d
  have hab : a = b := by
    rw [hcode, hcode'] at h
    exact (List.cons.inj h).1
  have hcd : c = d := by
    by_cases hc : c ∈ escapedChars
    · have hd : d ∈ escapedChars := hb.1 (hab ▸ ha.2 hc)
      have hbegins : escapedChar c <+: escapedChar d ++ t := ⟨s, h⟩
      rcases Nat.le_total (escapedChar c).length (escapedChar d).length with hle | hle
      · exact eq_of_prefix_escapedChar hc hd
          (List.prefix_of_prefix_length_le hbegins (List.prefix_append _ _) hle)
      · exact (eq_of_prefix_escapedChar hd hc
          (List.prefix_of_prefix_length_le (List.prefix_append _ _) hbegins hle)).symm
    · have hd : d ∉ escapedChars := fun hd => hc (ha.1 (hab.trans (hb.2 hd)))
      rw [escapedChar_of_not_mem hc, escapedChar_of_not_mem hd] at h
      exact (List.cons.inj h).1
  subst hcd
  exact ⟨rfl, List.append_cancel_left h⟩

theorem escapedChar_append_ne_quote (c : Char) (s t : List Char) :
    escapedChar c ++ s ≠ '\"' :: t := by
  obtain ⟨d, rest, hcode, hquote, -⟩ := exists_escapedChar_eq_cons c
  rw [hcode]
  exact fun h => hquote (List.cons.inj h).1

theorem flatMap_escapedChar_append_inj : ∀ {cs ds s t : List Char},
    cs.flatMap escapedChar ++ '\"' :: s = ds.flatMap escapedChar ++ '\"' :: t → cs = ds ∧ s = t
  | [], [], _, _, h => ⟨rfl, (List.cons.inj h).2⟩
  | [], d :: ds, _, _, h => by
    rw [List.flatMap_cons, List.append_assoc] at h
    exact absurd h.symm (escapedChar_append_ne_quote d _ _)
  | c :: cs, [], _, _, h => by
    rw [List.flatMap_cons, List.append_assoc] at h
    exact absurd h (escapedChar_append_ne_quote c _ _)
  | c :: cs, d :: ds, _, _, h => by
    rw [List.flatMap_cons, List.flatMap_cons, List.append_assoc, List.append_assoc] at h
    obtain ⟨rfl, hrest⟩ := escapedChar_append_inj h
    obtain ⟨rfl, hst⟩ := flatMap_escapedChar_append_inj hrest
    exact ⟨rfl, hst⟩

theorem toList_literal (s : String) :
    (literal s).toList = '\"' :: (s.toList.flatMap escapedChar ++ ['\"']) := by
  simp [literal]

theorem unmistakable_literal (s : String) : Unmistakable (fun s => (literal s).toList) s := by
  intro s' t t' _ _ h
  simp only [toList_literal, List.cons_append, List.append_assoc, List.cons.injEq, true_and] at h
  obtain ⟨hs, ht⟩ := flatMap_escapedChar_append_inj h
  exact ⟨String.toList_inj.1 hs, ht⟩

/-! ## Lists between marks -/

section Lists

variable {α : Type}

/-- The items behind one of a list, each after a comma, and the closing mark. -/
def moreItems (form : α → List Char) (close : Char) : List α → List Char
  | [] => [close]
  | x :: xs => ',' :: (form x ++ moreItems form close xs)

/-- The items of a list, with commas between them, and the closing mark. -/
def allItems (form : α → List Char) (close : Char) : List α → List Char
  | [] => [close]
  | x :: xs => form x ++ moreItems form close xs

variable {form : α → List Char} {close : Char}

theorem stops_moreItems (hdigit : close.isDigit = false) (xs : List α) (s : List Char) :
    Stops Char.isDigit (moreItems form close xs ++ s) := by
  cases xs with
  | nil => exact stops_of_head? rfl hdigit
  | cons x xs => exact stops_of_head? (x := ',') rfl (by decide)

theorem moreItems_append_inj (hdigit : close.isDigit = false) (hcomma : close ≠ ',') :
    ∀ {xs ys : List α} {s t : List Char}, (∀ x ∈ xs, Unmistakable form x) →
      moreItems form close xs ++ s = moreItems form close ys ++ t → xs = ys ∧ s = t
  | [], [], _, _, _, h => ⟨rfl, (List.cons.inj h).2⟩
  | [], _ :: _, _, _, _, h => absurd (List.cons.inj h).1 hcomma
  | _ :: _, [], _, _, _, h => absurd (List.cons.inj h).1.symm hcomma
  | x :: xs, y :: ys, s, t, hxs, h => by
    obtain ⟨hx, hxs⟩ := List.forall_mem_cons.1 hxs
    have hitem : form x ++ (moreItems form close xs ++ s) =
        form y ++ (moreItems form close ys ++ t) := by
      simpa [moreItems] using h
    obtain ⟨rfl, hrest⟩ := hx _ _ _ (stops_moreItems hdigit _ _) (stops_moreItems hdigit _ _) hitem
    obtain ⟨rfl, hst⟩ := moreItems_append_inj hdigit hcomma hxs hrest
    exact ⟨rfl, hst⟩

/-- **A list between marks** is written like no other if its items are and none of them begins like
the closing mark, which a list without items begins with. -/
theorem unmistakable_allItems (hdigit : close.isDigit = false) (hcomma : close ≠ ',')
    (hopen : ∀ x s t, form x ++ s ≠ close :: t) {xs : List α}
    (hxs : ∀ x ∈ xs, Unmistakable form x) : Unmistakable (allItems form close) xs := by
  intro ys s t _ _ h
  cases xs with
  | nil =>
    cases ys with
    | nil => exact ⟨rfl, (List.cons.inj h).2⟩
    | cons y ys =>
      rw [allItems, allItems, List.append_assoc] at h
      exact absurd h.symm (hopen y _ _)
  | cons x xs =>
    obtain ⟨hx, hxs⟩ := List.forall_mem_cons.1 hxs
    cases ys with
    | nil =>
      rw [allItems, allItems, List.append_assoc] at h
      exact absurd h (hopen x _ _)
    | cons y ys =>
      rw [allItems, allItems, List.append_assoc, List.append_assoc] at h
      obtain ⟨rfl, hrest⟩ := hx _ _ _ (stops_moreItems hdigit _ _) (stops_moreItems hdigit _ _) h
      obtain ⟨rfl, hst⟩ := moreItems_append_inj hdigit hcomma hxs hrest
      exact ⟨rfl, hst⟩

end Lists

/-! ## Values -/

def chars (v : Json) : List Char := v.compact.toList

def memberChars (m : String × Json) : List Char := (literal m.1).toList ++ ':' :: m.2.chars

theorem toList_compactItems_cons (v : Json) : ∀ vs : List Json,
    (compactItems (v :: vs)).toList ++ [']'] = v.chars ++ moreItems chars ']' vs
  | [] => by simp [compactItems, chars, moreItems]
  | w :: vs => by
    have ih := toList_compactItems_cons w vs
    simp [compactItems, chars, moreItems, ih]

theorem chars_array (vs : List Json) : (array vs).chars = '[' :: allItems chars ']' vs := by
  cases vs with
  | nil => simp [chars, compact, compactItems, allItems]
  | cons v vs =>
    rw [allItems, ← toList_compactItems_cons]
    simp [chars, compact]

theorem toList_compactMembers_cons (m : String × Json) : ∀ ms : List (String × Json),
    (compactMembers (m :: ms)).toList ++ ['\x7d'] =
      memberChars m ++ moreItems memberChars '\x7d' ms
  | [] => by simp [compactMembers, memberChars, chars, moreItems]
  | m' :: ms => by
    have ih := toList_compactMembers_cons m' ms
    simp [compactMembers, memberChars, chars, moreItems, ih]

theorem chars_object (ms : List (String × Json)) :
    (object ms).chars = '\x7b' :: allItems memberChars '\x7d' ms := by
  cases ms with
  | nil => simp [chars, compact, compactMembers, allItems]
  | cons m ms =>
    rw [allItems, ← toList_compactMembers_cons]
    simp [chars, compact]

inductive Kind where
  | number
  | string
  | array
  | object

def kind : Json → Kind
  | number _ => .number
  | string _ => .string
  | array _ => .array
  | object _ => .object

/-- The kind of the values that begin with a character. -/
def Kind.ofChar? (c : Char) : Option Kind :=
  if c.isDigit then some number
  else if c = '\"' then some string
  else if c = '[' then some array
  else if c = '\x7b' then some object
  else none

/-- **The first character** of a value tells its kind. -/
theorem exists_chars_eq_cons (v : Json) :
    ∃ c rest, v.chars = c :: rest ∧ Kind.ofChar? c = some v.kind := by
  cases v with
  | number n =>
    cases hn : n.repr.toList with
    | nil => exact absurd hn (isDigits_repr n).1
    | cons c rest =>
      have hdigit : c.isDigit = true := (isDigits_repr n).2 c (hn ▸ List.mem_cons_self)
      exact ⟨c, rest, hn, if_pos hdigit⟩
  | string s => exact ⟨_, _, toList_literal s, rfl⟩
  | array vs => exact ⟨_, _, chars_array vs, rfl⟩
  | object ms => exact ⟨_, _, chars_object ms, rfl⟩

theorem kind_eq_of_chars_append {v w : Json} {s t : List Char}
    (h : v.chars ++ s = w.chars ++ t) : v.kind = w.kind := by
  obtain ⟨c, rest, hv, hkind⟩ := exists_chars_eq_cons v
  obtain ⟨d, rest', hw, hkind'⟩ := exists_chars_eq_cons w
  rw [hv, hw] at h
  rw [(List.cons.inj h).1, hkind'] at hkind
  exact (Option.some.inj hkind).symm

theorem unmistakable_number (n : Nat) : Unmistakable chars (number n) := by
  intro w s t hs ht h
  have hkind := kind_eq_of_chars_append h
  cases w with
  | number m =>
    obtain ⟨rfl, hst⟩ := unmistakable_repr n m s t hs ht h
    exact ⟨rfl, hst⟩
  | string _ | array _ | object _ => cases hkind

theorem unmistakable_string (a : String) : Unmistakable chars (string a) := by
  intro w s t hs ht h
  have hkind := kind_eq_of_chars_append h
  cases w with
  | string b =>
    obtain ⟨rfl, hst⟩ := unmistakable_literal a b s t hs ht h
    exact ⟨rfl, hst⟩
  | number _ | array _ | object _ => cases hkind

theorem unmistakable_array {vs : List Json} (hvs : ∀ v ∈ vs, Unmistakable chars v) :
    Unmistakable chars (array vs) := by
  intro w s t hs ht h
  have hkind := kind_eq_of_chars_append h
  cases w with
  | array ws =>
    have hopen : ∀ (v : Json) (s t : List Char), v.chars ++ s ≠ ']' :: t := by
      intro v s t h
      obtain ⟨c, rest, hv, hc⟩ := exists_chars_eq_cons v
      rw [hv] at h
      rw [(List.cons.inj h).1] at hc
      cases hc
    rw [chars_array, chars_array] at h
    obtain ⟨rfl, hst⟩ :=
      unmistakable_allItems (by decide) (by decide) hopen hvs ws s t hs ht (List.cons.inj h).2
    exact ⟨rfl, hst⟩
  | number _ | string _ | object _ => cases hkind

theorem unmistakable_memberChars {m : String × Json} (hm : Unmistakable chars m.2) :
    Unmistakable memberChars m := by
  intro m' s t hs ht h
  have hcolon : ∀ text, Stops Char.isDigit (':' :: text) := fun _ => stops_of_head? rfl (by decide)
  rw [memberChars, memberChars, List.append_assoc, List.append_assoc] at h
  obtain ⟨hname, hrest⟩ := unmistakable_literal m.1 m'.1 _ _ (hcolon _) (hcolon _) h
  obtain ⟨hvalue, hst⟩ := hm m'.2 s t hs ht (List.cons.inj hrest).2
  exact ⟨Prod.ext hname hvalue, hst⟩

theorem unmistakable_object {ms : List (String × Json)}
    (hms : ∀ m ∈ ms, Unmistakable chars m.2) : Unmistakable chars (object ms) := by
  intro w s t hs ht h
  have hkind := kind_eq_of_chars_append h
  cases w with
  | object ns =>
    have hopen : ∀ (m : String × Json) (s t : List Char), memberChars m ++ s ≠ '\x7d' :: t := by
      intro m s t h
      rw [memberChars, toList_literal] at h
      exact absurd (List.cons.inj h).1 (by decide)
    rw [chars_object, chars_object] at h
    obtain ⟨rfl, hst⟩ := unmistakable_allItems (by decide) (by decide) hopen
      (fun m hm => unmistakable_memberChars (hms m hm)) ns s t hs ht (List.cons.inj h).2
    exact ⟨rfl, hst⟩
  | number _ | string _ | array _ => cases hkind

/-- **No value is written like another.** -/
theorem unmistakable_chars : ∀ v : Json, Unmistakable chars v
  | number n => unmistakable_number n
  | string s => unmistakable_string s
  | array vs => unmistakable_array fun v _ => unmistakable_chars v
  | object ms => unmistakable_object fun m _ => unmistakable_chars m.2
termination_by v => sizeOf v
decreasing_by
  · have hv := List.sizeOf_lt_of_mem ‹v ∈ vs›
    simp only [array.sizeOf_spec]
    omega
  · have hm := List.sizeOf_lt_of_mem ‹m ∈ ms›
    have hsnd : sizeOf m = 1 + sizeOf m.1 + sizeOf m.2 := rfl
    simp only [object.sizeOf_spec]
    omega

theorem compact_injective {v w : Json} (h : v.compact = w.compact) : v = w :=
  (unmistakable_chars v w [] [] stops_nil stops_nil (by rw [chars, chars, h])).1

example : (array [string "a\",\"b"]).compact ≠ (array [string "a", string "b"]).compact := by
  decide +kernel

end Json

/-! ## Findings -/

theorem AliasGroup.toJson_injective {g g' : AliasGroup} (h : g.toJson = g'.toJson) : g = g' := by
  simp only [toJson, Json.object.injEq, List.cons.injEq, Prod.mk.injEq, Json.number.injEq,
    Json.array.injEq, true_and, and_true] at h
  obtain ⟨hprimary, hmembers⟩ := h
  have htext : ∀ x y : Name, Json.string x.text = Json.string y.text → x = y :=
    fun x y hxy => Name.ext (Json.string.inj hxy)
  have hsets : g.members = g'.members :=
    Std.ExtTreeSet.toList_inj.1 ((List.map_inj_right htext).1 hmembers)
  cases g
  cases g'
  cases NodeId.ext hprimary
  cases hsets
  rfl

theorem Stats.fields_injective {s s' : Stats} (h : s.fields = s'.fields) : s = s' := by
  cases s
  cases s'
  simpa [fields] using h

/-- **A JSON document determines what was found.** Two findings have the same document exactly if
they agree in the groups, with their order, primaries and members, and in the counts. -/
theorem Findings.compact_toJson_eq_iff (f g : Findings) :
    f.toJson.compact = g.toJson.compact ↔ f.groups = g.groups ∧ f.stats = g.stats := by
  constructor
  · intro h
    have hdoc := Json.compact_injective h
    simp only [toJson, Json.object.injEq, List.cons.injEq, Prod.mk.injEq, Json.array.injEq,
      true_and, and_true] at hdoc
    obtain ⟨hgroups, hcounts⟩ := hdoc
    have hcount : ∀ e e' : String × Nat,
        (e.1, Json.number e.2) = (e'.1, Json.number e'.2) → e = e' := by
      rintro ⟨name, n⟩ ⟨name', n'⟩ he
      cases he
      rfl
    exact ⟨(List.map_inj_right fun _ _ => AliasGroup.toJson_injective).1 hgroups,
      Stats.fields_injective ((List.map_inj_right hcount).1 hcounts)⟩
  · rintro ⟨hgroups, hstats⟩
    rw [toJson, toJson, hgroups, hstats]

end Aliasing
