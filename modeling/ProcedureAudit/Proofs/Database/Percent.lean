import Mathlib.Data.List.Flatten
import ProcedureAudit.Database.Address
import ProcedureAudit.Proofs.Text.LetterCase
import ProcedureAudit.Proofs.Text.Utf8

/-!
# Percent-encoding

A text is percent-encoded when each of its characters either stands for itself, which only
unreserved ones may do, or is written octet by octet, each octet as two hexadecimal digits of any
letter case after a percent sign.  A text has many encodings, and each of them is decoded to it.
No encoding holds a separator of an address.
-/

namespace ProcedureAudit.Address

/-- Whether a character may stand for itself in an encoded text. -/
def isUnreserved (character : Char) : Bool :=
  Text.isLetter character || Text.isAsciiDigit character || character = '-' || character = '.' ||
    character = '_' || character = '~'

/-- Octets as they are written, each as two digits after a percent sign. -/
inductive WritesOctets : Text → List UInt8 → Prop
  | nil : WritesOctets [] []
  | cons
      {high low : Char}
      {octet : UInt8}
      {written : Text}
      {octets : List UInt8}
      (upper : Text.hexDigitValue? high = some (octet.toNat / 16))
      (lower : Text.hexDigitValue? low = some (octet.toNat % 16))
      (later : WritesOctets written octets) :
      WritesOctets ('%' :: high :: low :: written) (octet :: octets)

/-- The first text is an encoding of the second one. -/
inductive Encodes : Text → Text → Prop
  | nil : Encodes [] []
  | bare
      {character : Char}
      {written text : Text}
      (unreserved : isUnreserved character = true)
      (later : Encodes written text) :
      Encodes (character :: written) (character :: text)
  | escaped
      {character : Char}
      {escape written text : Text}
      (octets : WritesOctets escape (String.utf8EncodeChar character))
      (later : Encodes written text) :
      Encodes (escape ++ written) (character :: text)

/-! ## Decoding -/

theorem hexOctet?_eq_some
    {high low : Char}
    {octet : UInt8}
    (upper : Text.hexDigitValue? high = some (octet.toNat / 16))
    (lower : Text.hexDigitValue? low = some (octet.toNat % 16)) :
    hexOctet? high low = some octet := by
  have small : octet.toNat < 256 := octet.toNat_lt
  have digits : Text.natOfDigits? 16 [high, low] = some octet.toNat := by
    have first : octet.toNat / 16 < 16 := by omega
    have second : octet.toNat % 16 < 16 := by omega
    have value : (0 * 16 + octet.toNat / 16) * 16 + octet.toNat % 16 = octet.toNat := by omega
    simp only [Text.natOfDigits?, List.foldl_cons, List.foldl_nil, Text.addDigit?, upper, lower,
      if_pos first, if_pos second, value]
  rw [hexOctet?, digits, Option.map_some, UInt8.ofNat_toNat]

theorem percentOctets_cons {character : Char} (plain : character ≠ '%') (rest : Text) :
    percentOctets (character :: rest) =
      String.utf8EncodeChar character ++ percentOctets rest := by
  rw [percentOctets]
  rintro high low other rfl
  exact (plain rfl).elim

theorem percentOctets_append_of_writesOctets
    {escape : Text}
    {octets : List UInt8}
    (writes : WritesOctets escape octets)
    (rest : Text) :
    percentOctets (escape ++ rest) = octets ++ percentOctets rest := by
  induction writes with
  | nil => rfl
  | cons upper lower _ induction =>
      simp only [List.cons_append, percentOctets, hexOctet?_eq_some upper lower, induction]

theorem percentOctets_of_encodes {written text : Text} (encodes : Encodes written text) :
    percentOctets written = text.flatMap String.utf8EncodeChar := by
  induction encodes with
  | nil => rfl
  | @bare character _ _ unreserved _ induction =>
      have plain : character ≠ '%' := by
        rintro rfl
        contradiction
      rw [percentOctets_cons plain, induction, List.flatMap_cons]
  | escaped octets _ induction =>
      rw [percentOctets_append_of_writesOctets octets, induction, List.flatMap_cons]

/-- Whatever the encoding, the text is decoded. -/
theorem percentDecode_of_encodes {written text : Text} (encodes : Encodes written text) :
    percentDecode written = text := by
  rw [percentDecode, percentOctets_of_encodes encodes, Utf8.decodeLenient_flatMap_utf8EncodeChar]

/-! ## Encoding -/

/-- The hexadecimal digit of a value, a capital letter from ten on. -/
def hexDigit (value : Nat) : Char :=
  .ofNat (if value < 10 then 48 + value else 55 + value)

theorem hexDigitValue?_hexDigit :
    ∀ value < 16, Text.hexDigitValue? (hexDigit value) = some value := by
  decide

/-- Write an octet as two digits after a percent sign. -/
def percentOctet (octet : UInt8) : Text :=
  ['%', hexDigit (octet.toNat / 16), hexDigit (octet.toNat % 16)]

/-- The encoding in which all unreserved characters stand for themselves. -/
def percentEncode (text : Text) : Text :=
  text.flatMap fun character =>
    if isUnreserved character then
      [character]
    else
      (String.utf8EncodeChar character).flatMap percentOctet

theorem writesOctets_flatMap_percentOctet (octets : List UInt8) :
    WritesOctets (octets.flatMap percentOctet) octets := by
  induction octets with
  | nil => exact .nil
  | cons octet octets induction =>
      have small : octet.toNat < 256 := octet.toNat_lt
      exact .cons (hexDigitValue?_hexDigit _ (by omega)) (hexDigitValue?_hexDigit _ (by omega))
        induction

/-- Every text has an encoding. -/
theorem encodes_percentEncode (text : Text) : Encodes (percentEncode text) text := by
  induction text with
  | nil => exact .nil
  | cons character text induction =>
      rw [percentEncode, List.flatMap_cons]
      split
      · rename_i unreserved
        exact .bare unreserved induction
      · exact .escaped (writesOctets_flatMap_percentOctet _) induction

/-! ## Characters of an encoded text -/

/-- Whether a character may occur in an encoded text. -/
def isEncoding (character : Char) : Bool :=
  isUnreserved character || character = '%'

theorem isUnreserved_of_hexDigitValue?
    {digit : Char}
    {value : Nat}
    (denotes : Text.hexDigitValue? digit = some value) :
    isUnreserved digit = true := by
  have letter (is : Text.isLetter digit = true) : isUnreserved digit = true := by
    simp [isUnreserved, is]
  unfold Text.hexDigitValue? at denotes
  split at denotes
  · rename_i decimal
    simp [isUnreserved, decimal]
  · split at denotes
    · rename_i small
      rw [Bool.and_eq_true, decide_eq_true_iff, decide_eq_true_iff] at small
      have least : 97 ≤ digit.toNat := small.1
      have most : digit.toNat ≤ 102 := small.2
      have isSmall : Text.isSmall digit = true := Text.isSmall_iff.2 ⟨least, by omega⟩
      exact letter (by rw [Text.isLetter, isSmall, Bool.or_true])
    · split at denotes
      · rename_i capital
        rw [Bool.and_eq_true, decide_eq_true_iff, decide_eq_true_iff] at capital
        have least : 65 ≤ digit.toNat := capital.1
        have most : digit.toNat ≤ 70 := capital.2
        have isCapital : Text.isCapital digit = true := Text.isCapital_iff.2 ⟨least, by omega⟩
        exact letter (by rw [Text.isLetter, isCapital, Bool.true_or])
      · contradiction

theorem isEncoding_of_isUnreserved {character : Char} (unreserved : isUnreserved character = true) :
    isEncoding character = true := by
  rw [isEncoding, unreserved, Bool.true_or]

theorem isEncoding_of_mem_writesOctets
    {escape : Text}
    {octets : List UInt8}
    (writes : WritesOctets escape octets) :
    ∀ character ∈ escape, isEncoding character = true := by
  induction writes with
  | nil => exact List.forall_mem_nil _
  | cons upper lower _ induction =>
      rw [List.forall_mem_cons, List.forall_mem_cons, List.forall_mem_cons]
      exact ⟨rfl, isEncoding_of_isUnreserved (isUnreserved_of_hexDigitValue? upper),
        isEncoding_of_isUnreserved (isUnreserved_of_hexDigitValue? lower), induction⟩

theorem isEncoding_of_mem_encodes {written text : Text} (encodes : Encodes written text) :
    ∀ character ∈ written, isEncoding character = true := by
  induction encodes with
  | nil => exact List.forall_mem_nil _
  | bare unreserved _ induction =>
      exact List.forall_mem_cons.2 ⟨isEncoding_of_isUnreserved unreserved, induction⟩
  | escaped octets _ induction =>
      exact List.forall_mem_append.2 ⟨isEncoding_of_mem_writesOctets octets, induction⟩

theorem ne_nil_of_encodes
    {written text : Text}
    (encodes : Encodes written text)
    (nonempty : text ≠ []) :
    written ≠ [] := by
  rintro rfl
  have decoded := percentDecode_of_encodes encodes
  exact nonempty decoded.symm

end ProcedureAudit.Address
