import Aliasing.Proofs.Concatenation
import Aliasing.Text.Utf8
/-!
# Damaged bytes

A byte below 0x80 is a character and nothing else: no sequence of several bytes holds one, so such a
byte cuts short whatever sequence it stands in, and the bytes before it and those behind it are read
as if the others were not there. And a line feed is read from nothing but the byte 0x0A. So bytes
that are no text at all stay on their line.

Main statements: `decodeUtf8_append_cons`, reading on either side of a byte below 0x80;
`count_lineFeed_decodeUtf8`, the line feeds; `decodeUtf8_flatMap_utf8EncodeChar`, what was written
as UTF-8 is read as it was written; `Log.ofBytes_append`, no bytes have a say in what becomes of a
line that they are not on.
-/

namespace Aliasing

/-- What holds of the numbers below 256 holds of the bytes. -/
theorem forall_byte {P : UInt8 → Prop} (h : ∀ n : Fin 256, P (UInt8.ofNat n)) (b : UInt8) :
    P b := by
  have hb := h ⟨b.toNat, b.toNat_lt⟩
  rwa [UInt8.ofNat_toNat] at hb

/-- Induction on how bytes are read: a byte that begins nothing is replaced by itself, and a
sequence is read up to the bytes behind it. -/
@[elab_as_elim] theorem induction_decodeUtf8 {P : List UInt8 → Prop} (nil : P [])
    (replaced : ∀ b rest, LeadByte.ofByte? b = none → P rest → P (b :: rest))
    (sequence : ∀ b rest lead, LeadByte.ofByte? b = some lead →
      P (readFollowing lead.following lead.low lead.high lead.payload rest).2 → P (b :: rest))
    (bytes : List UInt8) : P bytes := by
  induction hn : bytes.length using Nat.strongRecOn generalizing bytes with
  | _ n ih =>
  cases bytes with
  | nil => exact nil
  | cons b rest =>
    subst hn
    cases hb : LeadByte.ofByte? b with
    | none => exact replaced b rest hb (ih _ (Nat.lt_succ_self _) rest rfl)
    | some lead =>
      exact sequence b rest lead hb
        (ih _ (Nat.lt_succ_of_le (length_readFollowing_le _ _ _ _ _)) _ rfl)

/-! ## Bytes below 0x80 -/

theorem LeadByte.ofByte?_of_lt {b : UInt8} (hb : b < 0x80) :
    ofByte? b = some ⟨0, 0x80, 0xBF, b.toNat⟩ := if_pos hb

theorem LeadByte.le_low : ∀ b : UInt8, ∀ lead ∈ ofByte? b, 0x80 ≤ lead.low :=
  forall_byte (by decide +kernel)

/-- A sequence ends before a byte that is out of its range. -/
theorem readFollowing_append_cons {b : UInt8} (hb : b < 0x80) :
    ∀ (n : Nat) {low : UInt8} (high : UInt8) (payload : Nat) (bytes rest : List UInt8),
      0x80 ≤ low → readFollowing n low high payload (bytes ++ b :: rest) =
        ((readFollowing n low high payload bytes).1,
          (readFollowing n low high payload bytes).2 ++ b :: rest)
  | 0, _, _, _, _, _, _ => rfl
  | n + 1, low, high, payload, [], rest, hlow => by
    have hout : ¬ (low ≤ b ∧ b ≤ high) := fun h => UInt8.not_lt.2 (UInt8.le_trans hlow h.1) hb
    have hcut : readFollowing (n + 1) low high payload (b :: rest) = (replacementChar, b :: rest) :=
      if_neg hout
    rw [List.nil_append, hcut, readFollowing]
    rfl
  | n + 1, low, high, payload, x :: bytes, rest, _ => by
    rw [List.cons_append, readFollowing, readFollowing]
    split
    · exact readFollowing_append_cons hb n 0xBF _ bytes rest (UInt8.le_refl _)
    · rfl

/-- **A byte below 0x80** is a character by itself, and the bytes on either side of it are read on
their own. -/
theorem decodeUtf8_append_cons {b : UInt8} (hb : b < 0x80) (bytes rest : List UInt8) :
    decodeUtf8 (bytes ++ b :: rest) =
      decodeUtf8 bytes ++ Char.ofNat b.toNat :: decodeUtf8 rest := by
  induction bytes using induction_decodeUtf8 with
  | nil =>
    rw [List.nil_append, decodeUtf8_cons_of_eq_some (LeadByte.ofByte?_of_lt hb), decodeUtf8_nil]
    rfl
  | replaced x bytes hx ih =>
    rw [List.cons_append, decodeUtf8_cons_of_eq_none hx, decodeUtf8_cons_of_eq_none hx, ih]
    rfl
  | sequence x bytes lead hx ih =>
    rw [List.cons_append, decodeUtf8_cons_of_eq_some hx, decodeUtf8_cons_of_eq_some hx,
      readFollowing_append_cons hb _ _ _ _ _ (LeadByte.le_low x lead hx)]
    dsimp only
    rw [ih]
    rfl

/-! ## Line feeds -/

theorem decodeUtf8_append_lineFeed (bytes rest : List UInt8) :
    decodeUtf8 (bytes ++ 0x0A :: rest) = decodeUtf8 bytes ++ '\n' :: decodeUtf8 rest :=
  decodeUtf8_append_cons (by decide) bytes rest

/-- The least number that a sequence can spell, given what was read of it. -/
def leastNumber (low : UInt8) (payload : Nat) : (following : Nat) → Nat
  | 0 => payload
  | n + 1 => leastNumber 0x80 (payload * 64 + (low.toNat - 0x80)) n

theorem leastNumber_mono (low : UInt8) {payload payload' : Nat} (h : payload ≤ payload') :
    ∀ n, leastNumber low payload n ≤ leastNumber low payload' n
  | 0 => h
  | n + 1 => leastNumber_mono 0x80 (Nat.add_le_add_right (Nat.mul_le_mul_right 64 h) _) n

/-- No sequence of several bytes spells what one byte can spell: the lead bytes and ranges that
would allow it are left out. -/
theorem LeadByte.le_leastNumber : ∀ b : UInt8, 0x80 ≤ b → ∀ lead ∈ ofByte? b,
    0x80 ≤ leastNumber lead.low lead.payload lead.following :=
  forall_byte (by decide +kernel)

theorem ofNat_ne_lineFeed {n : Nat} (h : 0x80 ≤ n) : Char.ofNat n ≠ '\n' := by
  intro hfeed
  by_cases hvalid : n.isValidChar
  · have hchar : Char.ofNat n = Char.ofNatAux n hvalid := dif_pos hvalid
    have hn : (Char.ofNatAux n hvalid).toNat = n := rfl
    rw [← hchar, hfeed] at hn
    rw [← hn] at h
    exact absurd h (by decide)
  · have hchar : Char.ofNat n = '\x00' := dif_neg hvalid
    rw [hfeed] at hchar
    exact absurd hchar (by decide)

/-- A sequence of several bytes spells no line feed. -/
theorem readFollowing_ne_lineFeed : ∀ (n : Nat) (low high : UInt8) (payload : Nat)
    (rest : List UInt8), 0x80 ≤ leastNumber low payload n →
      (readFollowing n low high payload rest).1 ≠ '\n'
  | 0, _, _, _, _, h => ofNat_ne_lineFeed h
  | _ + 1, _, _, _, [], _ => by
    rw [readFollowing]
    decide
  | n + 1, low, high, payload, b :: rest, h => by
    have hcut : replacementChar ≠ '\n' := by decide
    rw [readFollowing]
    split
    · rename_i hb
      have hlow : low.toNat ≤ b.toNat := UInt8.le_iff_toNat_le.1 hb.1
      have hstep : leastNumber low payload (n + 1) ≤
          leastNumber 0x80 (payload * 64 + (b.toNat - 0x80)) n :=
        leastNumber_mono 0x80 (by omega) n
      exact readFollowing_ne_lineFeed n _ _ _ rest (Nat.le_trans h hstep)
    · exact hcut

theorem readFollowing_suffix : ∀ (n : Nat) (low high : UInt8) (payload : Nat) (rest : List UInt8),
    (readFollowing n low high payload rest).2 <:+ rest
  | 0, _, _, _, _ => List.suffix_rfl
  | _ + 1, _, _, _, [] => List.suffix_rfl
  | n + 1, low, high, payload, b :: rest => by
    rw [readFollowing]
    split
    · exact (readFollowing_suffix n _ _ _ rest).trans (List.suffix_cons _ _)
    · exact List.suffix_rfl

theorem ofNat_toNat_ne_lineFeed : ∀ b : UInt8, b ≠ 0x0A → b < 0x80 → Char.ofNat b.toNat ≠ '\n' :=
  forall_byte (by decide +kernel)

theorem lineFeed_not_mem_decodeUtf8 {bytes : List UInt8} (h : 0x0A ∉ bytes) :
    '\n' ∉ decodeUtf8 bytes := by
  induction bytes using induction_decodeUtf8 with
  | nil => simp
  | replaced b bytes hb ih =>
    obtain ⟨-, hbytes⟩ := not_or.1 (mt List.mem_cons.2 h)
    rw [decodeUtf8_cons_of_eq_none hb, List.mem_cons, not_or]
    exact ⟨by decide, ih hbytes⟩
  | sequence b bytes lead hb ih =>
    obtain ⟨hfirst, hbytes⟩ := not_or.1 (mt List.mem_cons.2 h)
    rw [decodeUtf8_cons_of_eq_some hb, List.mem_cons, not_or]
    refine ⟨fun hfeed => ?_, ih fun hmem => hbytes ((readFollowing_suffix _ _ _ _ _).mem hmem)⟩
    by_cases hlow : b < 0x80
    · rw [LeadByte.ofByte?_of_lt hlow] at hb
      cases hb
      exact ofNat_toNat_ne_lineFeed b (Ne.symm hfirst) hlow hfeed.symm
    · exact readFollowing_ne_lineFeed _ _ _ _ _
        (LeadByte.le_leastNumber b (UInt8.not_lt.1 hlow) lead hb) hfeed.symm

/-- **Line feeds** are read from the bytes 0x0A and from no others. -/
theorem count_lineFeed_decodeUtf8 (bytes : List UInt8) :
    (decodeUtf8 bytes).count '\n' = bytes.count 0x0A := by
  by_cases h : 0x0A ∈ bytes
  · obtain ⟨line, rest, rfl, hline⟩ := List.eq_append_cons_of_mem h
    have ih := count_lineFeed_decodeUtf8 rest
    rw [decodeUtf8_append_lineFeed, List.count_append, List.count_cons_self, ih,
      List.count_eq_zero.2 (lineFeed_not_mem_decodeUtf8 hline), List.count_append,
      List.count_cons_self, List.count_eq_zero.2 hline]
  · rw [List.count_eq_zero.2 h, List.count_eq_zero.2 (lineFeed_not_mem_decodeUtf8 h)]
termination_by bytes.length

/-! ## Bytes that were written as UTF-8 -/

theorem readFollowing_cons_ofNat {low high : UInt8} {k : Nat} (hk : k < 0x40)
    (hlow : low.toNat ≤ k + 0x80) (hhigh : k + 0x80 ≤ high.toNat) (n payload : Nat)
    (rest : List UInt8) :
    readFollowing (n + 1) low high payload (UInt8.ofNat (k + 0x80) :: rest) =
      readFollowing n 0x80 0xBF (payload * 64 + k) rest := by
  have hb : (UInt8.ofNat (k + 0x80)).toNat = k + 0x80 :=
    UInt8.toNat_ofNat_of_lt' (by rw [UInt8.size]; omega)
  have hrange : low ≤ UInt8.ofNat (k + 0x80) ∧ UInt8.ofNat (k + 0x80) ≤ high := by
    rw [UInt8.le_iff_toNat_le, UInt8.le_iff_toNat_le, hb]
    exact ⟨hlow, hhigh⟩
  rw [readFollowing, if_pos hrange, hb, Nat.add_sub_cancel]

theorem readFollowing_cons_continued {k : Nat} (hk : k < 0x40) (n payload : Nat)
    (rest : List UInt8) :
    readFollowing (n + 1) 0x80 0xBF payload (UInt8.ofNat (k + 0x80) :: rest) =
      readFollowing n 0x80 0xBF (payload * 64 + k) rest := by
  have hlow : (0x80 : UInt8).toNat = 0x80 := rfl
  have hhigh : (0xBF : UInt8).toNat = 0xBF := rfl
  exact readFollowing_cons_ofNat hk (by omega) (by omega) n payload rest

theorem LeadByte.ofByte?_two : ∀ k : Fin 0x20, 2 ≤ k.val →
    ofByte? (UInt8.ofNat (k.val + 0xC0)) = some ⟨1, 0x80, 0xBF, k.val⟩ := by decide +kernel

theorem LeadByte.ofByte?_three : ∀ k : Fin 0x10,
    ofByte? (UInt8.ofNat (k.val + 0xE0)) = some ⟨2, if k.val = 0 then 0xA0 else 0x80,
      if k.val = 0xD then 0x9F else 0xBF, k.val⟩ := by decide +kernel

theorem LeadByte.ofByte?_four : ∀ k : Fin 5,
    ofByte? (UInt8.ofNat (k.val + 0xF0)) = some ⟨3, if k.val = 0 then 0x90 else 0x80,
      if k.val = 4 then 0x8F else 0xBF, k.val⟩ := by decide +kernel

section

variable {v : Nat}

theorem decodeUtf8_two (hlow : 0x80 ≤ v) (hhigh : v < 0x800) (rest : List UInt8) :
    decodeUtf8 (UInt8.ofNat (v / 64 % 32 + 0xC0) :: UInt8.ofNat (v % 64 + 0x80) :: rest) =
      Char.ofNat v :: decodeUtf8 rest := by
  have hlead := LeadByte.ofByte?_two ⟨v / 64 % 32, by omega⟩ (by dsimp only; omega)
  have hv : v / 64 % 32 * 64 + v % 64 = v := by omega
  rw [decodeUtf8_cons_of_eq_some hlead]
  dsimp only
  rw [readFollowing_cons_continued (by omega), readFollowing, hv]

theorem decodeUtf8_three (hlow : 0x800 ≤ v) (hhigh : v < 0x10000)
    (hvalid : v < 0xD800 ∨ 0xDFFF < v) (rest : List UInt8) :
    decodeUtf8 (UInt8.ofNat (v / 4096 % 16 + 0xE0) :: UInt8.ofNat (v / 64 % 64 + 0x80) ::
      UInt8.ofNat (v % 64 + 0x80) :: rest) = Char.ofNat v :: decodeUtf8 rest := by
  have hlead := LeadByte.ofByte?_three ⟨v / 4096 % 16, by omega⟩
  have hfrom : (if v / 4096 % 16 = 0 then 0xA0 else 0x80 : UInt8).toNat ≤ v / 64 % 64 + 0x80 := by
    split
    · show 0xA0 ≤ v / 64 % 64 + 0x80
      omega
    · exact Nat.le_add_left _ _
  have hto : v / 64 % 64 + 0x80 ≤ (if v / 4096 % 16 = 0xD then 0x9F else 0xBF : UInt8).toNat := by
    split
    · show v / 64 % 64 + 0x80 ≤ 0x9F
      omega
    · show v / 64 % 64 + 0x80 ≤ 0xBF
      omega
  have hv : (v / 4096 % 16 * 64 + v / 64 % 64) * 64 + v % 64 = v := by omega
  rw [decodeUtf8_cons_of_eq_some hlead]
  dsimp only
  rw [readFollowing_cons_ofNat (by omega) hfrom hto, readFollowing_cons_continued (by omega),
    readFollowing, hv]

theorem decodeUtf8_four (hlow : 0x10000 ≤ v) (hhigh : v < 0x110000) (rest : List UInt8) :
    decodeUtf8 (UInt8.ofNat (v / 262144 % 8 + 0xF0) :: UInt8.ofNat (v / 4096 % 64 + 0x80) ::
      UInt8.ofNat (v / 64 % 64 + 0x80) :: UInt8.ofNat (v % 64 + 0x80) :: rest) =
      Char.ofNat v :: decodeUtf8 rest := by
  have hlead := LeadByte.ofByte?_four ⟨v / 262144 % 8, by omega⟩
  have hfrom : (if v / 262144 % 8 = 0 then 0x90 else 0x80 : UInt8).toNat ≤
      v / 4096 % 64 + 0x80 := by
    split
    · show 0x90 ≤ v / 4096 % 64 + 0x80
      omega
    · exact Nat.le_add_left _ _
  have hto : v / 4096 % 64 + 0x80 ≤
      (if v / 262144 % 8 = 4 then 0x8F else 0xBF : UInt8).toNat := by
    split
    · show v / 4096 % 64 + 0x80 ≤ 0x8F
      omega
    · show v / 4096 % 64 + 0x80 ≤ 0xBF
      omega
  have hv : ((v / 262144 % 8 * 64 + v / 4096 % 64) * 64 + v / 64 % 64) * 64 + v % 64 = v := by
    omega
  rw [decodeUtf8_cons_of_eq_some hlead]
  dsimp only
  rw [readFollowing_cons_ofNat (by omega) hfrom hto, readFollowing_cons_continued (by omega),
    readFollowing_cons_continued (by omega), readFollowing, hv]

end

theorem decodeUtf8_utf8EncodeChar_append (c : Char) (rest : List UInt8) :
    decodeUtf8 (String.utf8EncodeChar c ++ rest) = c :: decodeUtf8 rest := by
  have hvalid : c.toNat < 0xD800 ∨ 0xDFFF < c.toNat ∧ c.toNat < 0x110000 := c.valid
  have hc : Char.ofNat c.toNat = c := Char.ofNat_toNat c
  unfold String.utf8EncodeChar
  rw [Char.toNat_val]
  generalize c.toNat = v at hvalid hc
  subst hc
  dsimp only
  split
  · have hb : (UInt8.ofNat v).toNat = v := UInt8.toNat_ofNat_of_lt' (by rw [UInt8.size]; omega)
    have hlt : UInt8.ofNat v < 0x80 := by
      rw [UInt8.lt_iff_toNat_lt, hb]
      exact Nat.lt_succ_of_le ‹v ≤ 127›
    have hread := decodeUtf8_append_cons hlt [] rest
    rwa [hb, decodeUtf8_nil] at hread
  split
  · exact decodeUtf8_two (by omega) (by omega) rest
  split
  · exact decodeUtf8_three (by omega) (by omega) (by omega) rest
  · exact decodeUtf8_four (by omega) (by omega) rest

/-- **What was written as UTF-8** is read as it was written. -/
theorem decodeUtf8_flatMap_utf8EncodeChar : ∀ text : List Char,
    decodeUtf8 (text.flatMap String.utf8EncodeChar) = text
  | [] => decodeUtf8_nil
  | c :: text => by
    rw [List.flatMap_cons, decodeUtf8_utf8EncodeChar_append,
      decodeUtf8_flatMap_utf8EncodeChar text]

/-! ## Logs -/

namespace Log

def ofBytes (bytes : List UInt8) : Log := ofText (String.ofList (decodeUtf8 bytes))

theorem ofBytes_append_cons (a b : List UInt8) :
    ofBytes (a ++ 0x0A :: b) =
      ofBytes (a ++ [0x0A]) ++ (ofBytes b).later (a.count 0x0A + 1) := by
  rw [ofBytes, ofBytes, decodeUtf8_append_lineFeed, decodeUtf8_append_lineFeed, decodeUtf8_nil,
    ofText_append_cons, count_lineFeed_decodeUtf8]
  rfl

@[simp] theorem ofBytes_nil : ofBytes [] = ⟨[]⟩ := by
  rw [ofBytes, decodeUtf8_nil]
  exact ofText_empty

theorem ofBytes_append_of_ended {a : List UInt8} (ha : a = [] ∨ a.getLast? = some 0x0A)
    (b : List UInt8) : ofBytes (a ++ b) = ofBytes a ++ (ofBytes b).later (a.count 0x0A) := by
  rcases ha with rfl | hlast
  · rw [List.nil_append, ofBytes_nil, List.count_nil, later_zero]
    rfl
  · obtain ⟨a, rfl⟩ := List.getLast?_eq_some_iff.1 hlast
    rw [List.append_assoc, List.singleton_append, ofBytes_append_cons, List.count_append,
      List.count_singleton_self]

/-- A line has one entry, if it has any. -/
theorem length_entries_ofBytes_le {line : List UInt8} (h : 0x0A ∉ line) :
    (ofBytes (line ++ [0x0A])).entries.length ≤ 1 := by
  have hlines := length_lines_append_lineFeed (decodeUtf8 line)
  rw [List.count_eq_zero.2 (lineFeed_not_mem_decodeUtf8 h)] at hlines
  have hwritten := List.length_filter_le (fun l : List Char × Nat => !isBlank l.1)
    ((lines (decodeUtf8 line ++ ['\n'])).zipIdx 1)
  rw [List.length_zipIdx, hlines] at hwritten
  rw [ofBytes, decodeUtf8_append_lineFeed, decodeUtf8_nil, ofText, writtenLines, List.length_map,
    List.length_map, String.toList_ofList]
  exact hwritten

/-- **Bytes never damage a line that they are not on.** Behind a dump that is empty or ends in the
byte 0x0A, another dump gives the records and the skipped lines that it gives by itself, the latter
numbered on from the line feeds before them. So whatever bytes without 0x0A stand on a line between
the two, they give one entry at most, and the lines before and after them what these give anyway. -/
theorem ofBytes_append {a : List UInt8} (ha : a = [] ∨ a.getLast? = some 0x0A)
    (b : List UInt8) :
    (ofBytes (a ++ b)).records = (ofBytes a).records ++ (ofBytes b).records ∧
      (ofBytes (a ++ b)).skipped =
        (ofBytes a).skipped ++ (ofBytes b).skipped.map (Skipped.later (a.count 0x0A)) ∧
      ∀ line : List UInt8, 0x0A ∉ line →
        (ofBytes (line ++ [0x0A])).entries.length ≤ 1 ∧
          ofBytes (a ++ line ++ 0x0A :: b) = ofBytes a ++
            (ofBytes (line ++ [0x0A])).later (a.count 0x0A) ++
            (ofBytes b).later (a.count 0x0A + 1) := by
  have happend := ofBytes_append_of_ended ha b
  refine ⟨?_, ?_, fun line hline => ⟨length_entries_ofBytes_le hline, ?_⟩⟩
  · rw [happend, records_append, records_later]
  · rw [happend, skipped_append, skipped_later]
  · have hcount : (a ++ line).count 0x0A = a.count 0x0A := by
      rw [List.count_append, List.count_eq_zero.2 hline]
      rfl
    rw [ofBytes_append_cons, hcount, List.append_assoc, ofBytes_append_of_ended ha]

/-- Sequences that are cut short at the end of a line do no harm to the record on the next one. -/
theorem ofBytes_append_of_truncated :
    let a : List UInt8 := [0xE4, 0xB8, 0x0A]
    let line : List UInt8 := [0x4E, 0xF0, 0x9F, 0x98]
    let text := textOfLines ["NodeID 1 (val:@a) PointsTo: \x7b 10 20 \x7d"]
    let b := text.toList.flatMap String.utf8EncodeChar
    (a = [] ∨ a.getLast? = some 0x0A) ∧ 0x0A ∉ line ∧
      (ofBytes (a ++ b)).records = (ofBytes b).records ∧ (ofBytes b).records.length = 1 ∧
      (ofBytes (a ++ b)).skipped = (ofBytes a).skipped ∧ (ofBytes a).skipped.length = 1 ∧
      ofBytes (a ++ line ++ 0x0A :: b) =
        ofBytes a ++ (ofBytes (line ++ [0x0A])).later 1 ++ (ofBytes b).later 2 := by
  intro a line text b
  have ha : a = [] ∨ a.getLast? = some 0x0A := Or.inr rfl
  have hline : 0x0A ∉ line := by decide
  have hrecords : (ofBytes a).records = [] := by decide +kernel
  have hskipped : (ofBytes b).skipped = [] := by decide +kernel
  obtain ⟨hrec, hskip, hbetween⟩ := ofBytes_append ha b
  rw [hrecords] at hrec
  rw [hskipped, List.map_nil, List.append_nil] at hskip
  exact ⟨ha, hline, hrec, by decide +kernel, hskip, by decide +kernel, (hbetween line hline).2⟩

end Log

end Aliasing
