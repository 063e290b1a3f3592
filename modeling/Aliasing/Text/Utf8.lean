/-!
# Reading bytes as UTF-8

Bytes become characters by the well-formed sequences of UTF-8, the shortest form for every scalar
value and no surrogates. Where no sequence can be completed, the longest part that could begin one,
and at least one byte, becomes U+FFFD, and reading goes on with the byte after it.

Main statements: `decodeUtf8_cons_of_eq_none` and `decodeUtf8_cons_of_eq_some`, what the first byte
of a text makes of it.
-/

namespace Aliasing

/-- What stands for bytes that are no character. -/
def replacementChar : Char := '\ufffd'

/-- What the first byte of a sequence says of the others: how many follow, and the range that the
first of them must lie in, with the payload of the byte itself. -/
structure LeadByte where
  following : Nat
  low : UInt8
  high : UInt8
  payload : Nat
deriving DecidableEq

/-- The bytes that begin a sequence. The narrower ranges after E0, ED, F0 and F4 leave out longer
forms than needed, surrogates, and numbers beyond U+10FFFF. -/
def LeadByte.ofByte? (b : UInt8) : Option LeadByte :=
  if b < 0x80 then some ⟨0, 0x80, 0xBF, b.toNat⟩
  else if b < 0xC2 then none
  else if b < 0xE0 then some ⟨1, 0x80, 0xBF, b.toNat - 0xC0⟩
  else if b = 0xE0 then some ⟨2, 0xA0, 0xBF, b.toNat - 0xE0⟩
  else if b = 0xED then some ⟨2, 0x80, 0x9F, b.toNat - 0xE0⟩
  else if b < 0xF0 then some ⟨2, 0x80, 0xBF, b.toNat - 0xE0⟩
  else if b = 0xF0 then some ⟨3, 0x90, 0xBF, b.toNat - 0xF0⟩
  else if b < 0xF4 then some ⟨3, 0x80, 0xBF, b.toNat - 0xF0⟩
  else if b = 0xF4 then some ⟨3, 0x80, 0x8F, b.toNat - 0xF0⟩
  else none

/-- Reads the bytes that have to follow, six bits of payload from each, and returns the character
with the bytes after it. The first byte out of range is left where it is. -/
def readFollowing : (following : Nat) → (low high : UInt8) → (payload : Nat) → List UInt8 →
    Char × List UInt8
  | 0, _, _, payload, rest => (Char.ofNat payload, rest)
  | _ + 1, _, _, _, [] => (replacementChar, [])
  | n + 1, low, high, payload, b :: rest =>
    if low ≤ b ∧ b ≤ high then
      readFollowing n 0x80 0xBF (payload * 64 + (b.toNat - 0x80)) rest
    else (replacementChar, b :: rest)

theorem length_readFollowing_le : ∀ (n : Nat) (low high : UInt8) (payload : Nat)
    (rest : List UInt8), (readFollowing n low high payload rest).2.length ≤ rest.length
  | 0, _, _, _, _ => by simp [readFollowing]
  | _ + 1, _, _, _, [] => by simp [readFollowing]
  | n + 1, low, high, payload, b :: rest => by
    have ih := length_readFollowing_le n 0x80 0xBF (payload * 64 + (b.toNat - 0x80)) rest
    rw [readFollowing]
    split
    · exact Nat.le_succ_of_le ih
    · exact Nat.le_refl _

/-- Reads bytes after the characters that were read before them, the last of these first. -/
def decodeUtf8After (read : List Char) : List UInt8 → List Char
  | [] => read.reverse
  | b :: rest =>
    match LeadByte.ofByte? b with
    | none => decodeUtf8After (replacementChar :: read) rest
    | some lead =>
      let next := readFollowing lead.following lead.low lead.high lead.payload rest
      decodeUtf8After (next.1 :: read) next.2
termination_by bytes => bytes.length
decreasing_by
  · simp
  · exact Nat.lt_succ_of_le (length_readFollowing_le _ _ _ _ _)

/-- The characters that bytes spell in UTF-8, with U+FFFD for what spells none. -/
def decodeUtf8 (bytes : List UInt8) : List Char := decodeUtf8After [] bytes

theorem decodeUtf8After_eq (read : List Char) (bytes : List UInt8) :
    decodeUtf8After read bytes = read.reverse ++ decodeUtf8 bytes := by
  induction hn : bytes.length using Nat.strongRecOn generalizing read bytes with
  | _ n ih =>
  cases bytes with
  | nil => simp [decodeUtf8, decodeUtf8After]
  | cons b rest =>
    rw [decodeUtf8, decodeUtf8After, decodeUtf8After]
    cases LeadByte.ofByte? b with
    | none =>
      have hlt : rest.length < n := by simp [← hn]
      simp only [ih _ hlt _ rest rfl, List.reverse_cons, List.reverse_nil, List.append_assoc,
        List.nil_append]
    | some lead =>
      have hlt : (readFollowing lead.following lead.low lead.high lead.payload rest).2.length < n :=
        hn ▸ Nat.lt_succ_of_le (length_readFollowing_le _ _ _ _ _)
      simp only [ih _ hlt _ _ rfl, List.reverse_cons, List.reverse_nil, List.append_assoc,
        List.nil_append]

@[simp] theorem decodeUtf8_nil : decodeUtf8 [] = [] := by
  simp [decodeUtf8, decodeUtf8After]

/-- A byte that begins nothing is replaced on its own. -/
theorem decodeUtf8_cons_of_eq_none {b : UInt8} (h : LeadByte.ofByte? b = none)
    (rest : List UInt8) : decodeUtf8 (b :: rest) = replacementChar :: decodeUtf8 rest := by
  rw [decodeUtf8, decodeUtf8After, h]
  simp [decodeUtf8After_eq]

/-- A lead byte gives one character with the bytes that follow it. -/
theorem decodeUtf8_cons_of_eq_some {b : UInt8} {lead : LeadByte}
    (h : LeadByte.ofByte? b = some lead) (rest : List UInt8) :
    decodeUtf8 (b :: rest) =
      let next := readFollowing lead.following lead.low lead.high lead.payload rest
      next.1 :: decodeUtf8 next.2 := by
  rw [decodeUtf8, decodeUtf8After, h]
  simp [decodeUtf8After_eq]

example : decodeUtf8 [0x41, 0xC3, 0xA9, 0xE4, 0xB8, 0xAD] = ['A', 'é', '中'] := by decide +kernel

example : decodeUtf8 [0xE4, 0xB8, 0x41, 0xED, 0xA0, 0xF0, 0x9F] =
    ['\ufffd', 'A', '\ufffd', '\ufffd', '\ufffd'] := by decide +kernel

end Aliasing
