import Mathlib.Data.List.Flatten
import ProcedureAudit.Text.Utf8

/-!
# Decoding what was encoded

Every octet of an encoded character is one that the decoder expects: the first one announces how
many are to follow and bounds the next one, and each of these adds six bits.  The bounds exclude
codes with fewer octets and halves of surrogate pairs, which no character needs.  So a decoder,
lenient or not, reads back the text that was encoded.
-/

namespace ProcedureAudit.Utf8

/-! ## First octets -/

theorem toNat_ofNat_of_lt {value : Nat} (small : value < 256) :
    (UInt8.ofNat value).toNat = value :=
  UInt8.toNat_ofNat_of_lt' small

section Opening

variable {code : Nat}

theorem opening_of_one (most : code ≤ 0x7F) :
    opening (UInt8.ofNat code) = .complete (Char.ofNat code) := by
  have value : (UInt8.ofNat code).toNat = code := toNat_ofNat_of_lt (by omega)
  simp only [opening, value]
  rw [if_pos (by omega)]

theorem opening_of_two (least : 0x7F < code) (most : code ≤ 0x7FF) :
    opening (UInt8.ofNat (code / 64 % 32 + 192)) = .unfinished 1 0x80 0xBF (code / 64) := by
  have value : (UInt8.ofNat (code / 64 % 32 + 192)).toNat = code / 64 + 0xC0 := by
    rw [toNat_ofNat_of_lt (by omega)]
    omega
  simp only [opening, value]
  rw [if_neg (by omega), if_neg (by omega), if_pos (by omega), Nat.add_sub_cancel]

/-- The second octet of three is bounded such that the code is neither short nor a surrogate. -/
theorem opening_of_three
    (least : 0x7FF < code)
    (most : code ≤ 0xFFFF)
    (whole : code < 0xD800 ∨ 0xDFFF < code) :
    ∃ low high,
      opening (UInt8.ofNat (code / 4096 % 16 + 224)) = .unfinished 2 low high (code / 4096) ∧
        low ≤ code / 64 % 64 + 128 ∧ code / 64 % 64 + 128 ≤ high := by
  have value : (UInt8.ofNat (code / 4096 % 16 + 224)).toNat = code / 4096 + 0xE0 := by
    rw [toNat_ofNat_of_lt (by omega)]
    omega
  simp only [opening, value]
  rw [if_neg (by omega), if_neg (by omega), if_neg (by omega)]
  by_cases first : code / 4096 = 0
  · rw [if_pos (by omega), first]
    exact ⟨0xA0, 0xBF, rfl, by omega, by omega⟩
  · rw [if_neg (by omega)]
    by_cases surrogates : code / 4096 = 0x0D
    · rw [if_pos (by omega), surrogates]
      exact ⟨0x80, 0x9F, rfl, by omega, by omega⟩
    · rw [if_neg (by omega), if_pos (by omega), Nat.add_sub_cancel]
      exact ⟨0x80, 0xBF, rfl, by omega, by omega⟩

/-- The second octet of four is bounded such that the code is neither short nor too large. -/
theorem opening_of_four
    (least : 0xFFFF < code)
    (most : code ≤ 0x10FFFF) :
    ∃ low high,
      opening (UInt8.ofNat (code / 262144 % 8 + 240)) = .unfinished 3 low high (code / 262144) ∧
        low ≤ code / 4096 % 64 + 128 ∧ code / 4096 % 64 + 128 ≤ high := by
  have value : (UInt8.ofNat (code / 262144 % 8 + 240)).toNat = code / 262144 + 0xF0 := by
    rw [toNat_ofNat_of_lt (by omega)]
    omega
  simp only [opening, value]
  rw [if_neg (by omega), if_neg (by omega), if_neg (by omega), if_neg (by omega),
    if_neg (by omega), if_neg (by omega)]
  by_cases first : code / 262144 = 0
  · rw [if_pos (by omega), first]
    exact ⟨0x90, 0xBF, rfl, by omega, by omega⟩
  · rw [if_neg (by omega)]
    by_cases last : code / 262144 = 4
    · rw [if_neg (by omega), if_pos (by omega), last]
      exact ⟨0x80, 0x8F, rfl, by omega, by omega⟩
    · rw [if_pos (by omega), Nat.add_sub_cancel]
      exact ⟨0x80, 0xBF, rfl, by omega, by omega⟩

end Opening

/-! ## One character -/

/-- A decoder between octets: what it has read and what it expects. -/
def expecting (start : Nat) (lead : UInt8) (taken missing low high code : Nat) : Pending :=
  { start, lead, taken, missing, low, high, code }

section Decoding

variable {octet : UInt8} {missing low high code : Nat}

theorem decodeLenientFrom_of_complete
    {character : Char}
    (opens : opening octet = .complete character)
    (rest : List UInt8) :
    decodeLenientFrom none (octet :: rest) = character :: decodeLenientFrom none rest := by
  simp [decodeLenientFrom, opens]

theorem decodeLenientFrom_of_unfinished
    (opens : opening octet = .unfinished missing low high code)
    (rest : List UInt8) :
    decodeLenientFrom none (octet :: rest) =
      decodeLenientFrom (some (expecting 0 octet 1 missing low high code)) rest := by
  simp [decodeLenientFrom, opens, expecting]

section Continuing

variable
    {bits : Nat}
    (least : low ≤ bits + 128)
    (most : bits + 128 ≤ high)
    (sixBits : bits < 64)
    (start : Nat)
    (lead : UInt8)
    (taken : Nat)

include least most sixBits

/-- An octet within the bounds adds six bits. -/
theorem extend?_expecting :
    (expecting start lead taken missing low high code).extend? (UInt8.ofNat (bits + 128)) =
      some (expecting start lead (taken + 1) (missing - 1) 0x80 0xBF (code * 64 + bits)) := by
  have value : (UInt8.ofNat (bits + 128)).toNat = bits + 128 := toNat_ofNat_of_lt (by omega)
  simp only [Pending.extend?, expecting, value]
  rw [if_pos ⟨least, most⟩, Nat.add_sub_cancel]

theorem decodeLenientFrom_expecting (rest : List UInt8) :
    decodeLenientFrom (some (expecting start lead taken missing low high code))
        (UInt8.ofNat (bits + 128) :: rest) =
      if missing - 1 = 0 then
        Char.ofNat (code * 64 + bits) :: decodeLenientFrom none rest
      else
        decodeLenientFrom
          (some (expecting start lead (taken + 1) (missing - 1) 0x80 0xBF (code * 64 + bits)))
          rest := by
  rw [decodeLenientFrom, Option.bind_some, extend?_expecting least most sixBits]
  rfl

end Continuing

end Decoding

theorem decodeLenientFrom_utf8EncodeChar (character : Char) (rest : List UInt8) :
    decodeLenientFrom none (String.utf8EncodeChar character ++ rest) =
      character :: decodeLenientFrom none rest := by
  obtain ⟨code, same⟩ : ∃ code, character.val.toNat = code := ⟨_, rfl⟩
  have back : Char.ofNat code = character := same ▸ Char.ofNat_toNat character
  have valid : code < 0xD800 ∨ 0xDFFF < code ∧ code < 0x110000 := same ▸ character.valid
  simp only [String.utf8EncodeChar, same]
  split
  · rename_i one
    rw [List.singleton_append, decodeLenientFrom_of_complete (opening_of_one one), back]
  · split
    · rename_i least two
      have bits : code / 64 * 64 + code % 64 = code := by omega
      simp only [List.cons_append, List.nil_append]
      rw [decodeLenientFrom_of_unfinished (opening_of_two (by omega) two),
        decodeLenientFrom_expecting (by omega) (by omega) (by omega), if_pos rfl, bits, back]
    · split
      · rename_i least three
        obtain ⟨low, high, opens, above, below⟩ :=
          opening_of_three (by omega) three (valid.imp_right And.left)
        have bits : (code / 4096 * 64 + code / 64 % 64) * 64 + code % 64 = code := by omega
        simp only [List.cons_append, List.nil_append]
        rw [decodeLenientFrom_of_unfinished opens,
          decodeLenientFrom_expecting above below (by omega), if_neg (by decide),
          decodeLenientFrom_expecting (by omega) (by omega) (by omega), if_pos rfl, bits, back]
      · rename_i least
        have four : 0xFFFF < code := by omega
        obtain ⟨low, high, opens, above, below⟩ := opening_of_four four (by omega)
        have bits : ((code / 262144 * 64 + code / 4096 % 64) * 64 + code / 64 % 64) * 64 +
            code % 64 = code := by
          omega
        simp only [List.cons_append, List.nil_append]
        rw [decodeLenientFrom_of_unfinished opens,
          decodeLenientFrom_expecting above below (by omega), if_neg (by decide),
          decodeLenientFrom_expecting (by omega) (by omega) (by omega), if_neg (by decide),
          decodeLenientFrom_expecting (by omega) (by omega) (by omega), if_pos rfl, bits, back]

/-- The octets of a text are decoded to the text. -/
theorem decodeLenient_flatMap_utf8EncodeChar (text : Text) :
    decodeLenient (text.flatMap String.utf8EncodeChar) = text := by
  unfold decodeLenient
  induction text with
  | nil => rfl
  | cons character text induction =>
      rw [List.flatMap_cons, decodeLenientFrom_utf8EncodeChar, induction]

end ProcedureAudit.Utf8
