import ProcedureAudit.Text.Quoted

/-!
# UTF-8, strict and lenient

Decoding walks over the octets with at most one unfinished character pending.  Strict decoding
stops at the first octet that rules the input out and reports where the fault begins, how many
octets it covers and what is wrong.  Lenient decoding writes a replacement character for each
such fault and goes on.

An input may arrive in chunks of a fixed size.  Positions are then counted from the beginning of
the data at hand, that is the chunk together with the unfinished character before it.
-/

namespace ProcedureAudit.Utf8

/-- An unfinished character: what is known of it and what may follow. -/
structure Pending where
  /-- Position of the first octet. -/
  start : Nat
  /-- The first octet. -/
  lead : UInt8
  /-- Octets read so far. -/
  taken : Nat
  /-- Octets still to come. -/
  missing : Nat
  /-- Least value allowed for the next octet. -/
  low : Nat
  /-- Greatest value allowed for the next octet. -/
  high : Nat
  /-- The bits of the code point read so far. -/
  code : Nat
deriving DecidableEq, Repr

/-- What an octet says that stands at the beginning of a character. -/
inductive Opening where
  | complete (character : Char)
  | unfinished (missing low high code : Nat)
  | invalid
deriving DecidableEq

/-- Read an octet as the first one of a character. -/
def opening (octet : UInt8) : Opening :=
  let value := octet.toNat
  if value < 0x80 then
    .complete (Char.ofNat value)
  else if value < 0xC2 then
    .invalid
  else if value < 0xE0 then
    .unfinished 1 0x80 0xBF (value - 0xC0)
  else if value = 0xE0 then
    .unfinished 2 0xA0 0xBF 0
  else if value = 0xED then
    .unfinished 2 0x80 0x9F 0x0D
  else if value < 0xF0 then
    .unfinished 2 0x80 0xBF (value - 0xE0)
  else if value = 0xF0 then
    .unfinished 3 0x90 0xBF 0
  else if value < 0xF4 then
    .unfinished 3 0x80 0xBF (value - 0xF0)
  else if value = 0xF4 then
    .unfinished 3 0x80 0x8F 4
  else
    .invalid

/-- Why octets do not form a character. -/
inductive Reason where
  | invalidStart
  | invalidContinuation
  | unexpectedEnd
deriving DecidableEq, Repr

/-- A fault of the input: where it begins, how many octets it covers, and what is wrong. -/
structure Malformed where
  position : Nat
  count : Nat
  octet : UInt8
  reason : Reason
deriving DecidableEq, Repr

/-- Add the next octet, if it may follow. -/
def Pending.extend? (pending : Pending) (octet : UInt8) : Option Pending :=
  if pending.low ≤ octet.toNat ∧ octet.toNat ≤ pending.high then
    some { pending with
      taken := pending.taken + 1
      missing := pending.missing - 1
      low := 0x80
      high := 0xBF
      code := pending.code * 64 + (octet.toNat - 0x80) }
  else
    none

/-- The fault of an unfinished character, seen from the beginning of the data at hand. -/
def Pending.malformed (origin : Nat) (reason : Reason) (pending : Pending) : Malformed :=
  { position := pending.start - origin, count := pending.taken, octet := pending.lead, reason }

/-- Where the data at hand begins, once the octet at `position` is reached. -/
def originAt (chunk position origin : Nat) (pending : Option Pending) : Nat :=
  if position % chunk = 0 then
    match pending with
    | some pending => pending.start
    | none => position
  else
    origin

/--
Strict decoding from a position on.  The chunk size zero stands for an input that arrives in one
piece.
-/
def decodeFrom
    (chunk position origin : Nat)
    (pending : Option Pending) :
    List UInt8 → Except Malformed Text
  | [] =>
    match pending with
    | none => .ok []
    | some pending =>
      .error (pending.malformed (if chunk = 0 then origin else pending.start) .unexpectedEnd)
  | octet :: rest =>
    let origin := originAt chunk position origin pending
    match pending with
    | none =>
      match opening octet with
      | .complete character =>
        (decodeFrom chunk (position + 1) origin none rest).map (character :: ·)
      | .unfinished missing low high code =>
        decodeFrom chunk (position + 1) origin
          (some { start := position, lead := octet, taken := 1, missing, low, high, code }) rest
      | .invalid =>
        .error { position := position - origin, count := 1, octet, reason := .invalidStart }
    | some pending =>
      match pending.extend? octet with
      | none => .error (pending.malformed origin .invalidContinuation)
      | some pending =>
        if pending.missing = 0 then
          (decodeFrom chunk (position + 1) origin none rest).map (Char.ofNat pending.code :: ·)
        else
          decodeFrom chunk (position + 1) origin (some pending) rest

/-- Strict decoding of an input that is read in one piece. -/
def decode (octets : List UInt8) : Except Malformed Text :=
  decodeFrom 0 0 0 none octets

/-- Strict decoding of an input that is read in chunks. -/
def decodeInChunks (chunk : Nat) (octets : List UInt8) : Except Malformed Text :=
  decodeFrom chunk 0 0 none octets

/-- The character that stands for octets that form none. -/
def replacement : Char :=
  '\uFFFD'

/-- Lenient decoding with an unfinished character before the octets. -/
def decodeLenientFrom (pending : Option Pending) : List UInt8 → Text
  | [] => if pending.isSome then [replacement] else []
  | octet :: rest =>
    match pending.bind (Pending.extend? · octet) with
    | some pending =>
      if pending.missing = 0 then
        Char.ofNat pending.code :: decodeLenientFrom none rest
      else
        decodeLenientFrom (some pending) rest
    | none =>
      let abandoned := if pending.isSome then [replacement] else []
      abandoned ++
        match opening octet with
        | .complete character => character :: decodeLenientFrom none rest
        | .unfinished missing low high code =>
          decodeLenientFrom
            (some { start := 0, lead := octet, taken := 1, missing, low, high, code }) rest
        | .invalid => replacement :: decodeLenientFrom none rest

/-- Lenient decoding. -/
def decodeLenient (octets : List UInt8) : Text :=
  decodeLenientFrom none octets

/-- How many octets a text takes. -/
def encodedLength (text : Text) : Nat :=
  text.foldl (fun count character => count + character.utf8Size) 0

/-- The words for a reason. -/
def Reason.message : Reason → Text
  | .invalidStart => "invalid start byte"
  | .invalidContinuation => "invalid continuation byte"
  | .unexpectedEnd => "unexpected end of data"

/-- A fault in words. -/
def Malformed.message (fault : Malformed) : Text :=
  let subject : Text :=
    if fault.count = 1 then
      "byte 0x" ++ Text.hexDigits 2 fault.octet.toNat ++ " in position " ++
        Text.ofNat fault.position
    else
      "bytes in position " ++ Text.ofNat fault.position ++ "-" ++
        Text.ofNat (fault.position + fault.count - 1)
  "'utf-8' codec can't decode " ++ subject ++ ": " ++ fault.reason.message

end ProcedureAudit.Utf8
