/-!
# UTF-8

Bytes are read as UTF-8 text.  A byte that cannot start a character, a
sequence that breaks off, and a sequence that the end of the bytes cuts short
are faults.  A fault covers the bytes that were still in order; reading can go
on behind them, with a replacement character in their place.
-/

namespace SheetFormula.Utf8

/-- What is wrong with a sequence of bytes. -/
inductive Reason where
  | invalidStart
  | invalidContinuation
  | unexpectedEnd
deriving DecidableEq, Repr

/-- The wording of a reason. -/
def Reason.text : Reason → String
  | .invalidStart => "invalid start byte"
  | .invalidContinuation => "invalid continuation byte"
  | .unexpectedEnd => "unexpected end of data"

/-- Bytes that are no text: the first of them, its offset and their number. -/
structure Fault where
  byte : UInt8
  position : Nat
  length : Nat
  reason : Reason
deriving DecidableEq, Repr

/-- Two lower-case hexadecimal digits of a byte. -/
def byteText (byte : UInt8) : String :=
  let digits := Nat.toDigits 16 byte.toNat
  String.ofList (List.replicate (2 - digits.length) '0' ++ digits)

/-- The wording of a fault. -/
def Fault.message (fault : Fault) : String :=
  let place :=
    if fault.length = 1 then
      s!"byte 0x{byteText fault.byte} in position {fault.position}"
    else
      s!"bytes in position {fault.position}-{fault.position + fault.length - 1}"
  s!"'utf-8' codec can't decode {place}: {fault.reason.text}"

/--
What the first byte of a character says: its share of the code point, the
number of bytes that follow, and the least and greatest second byte.
-/
structure Lead where
  bits : Nat
  tail : Nat
  least : Nat
  greatest : Nat

/-- Read a first byte, unless no character starts with it. -/
def lead? (byte : UInt8) : Option Lead :=
  let code := byte.toNat
  if code < 0x80 then some ⟨code, 0, 0x80, 0xBF⟩
  else if code < 0xC2 then none
  else if code < 0xE0 then some ⟨code - 0xC0, 1, 0x80, 0xBF⟩
  else if code = 0xE0 then some ⟨0, 2, 0xA0, 0xBF⟩
  else if code = 0xED then some ⟨0xD, 2, 0x80, 0x9F⟩
  else if code < 0xF0 then some ⟨code - 0xE0, 2, 0x80, 0xBF⟩
  else if code = 0xF0 then some ⟨0, 3, 0x90, 0xBF⟩
  else if code < 0xF4 then some ⟨code - 0xF0, 3, 0x80, 0xBF⟩
  else if code = 0xF4 then some ⟨4, 3, 0x80, 0x8F⟩
  else none

/-- Following bytes: the code point, or how many were in order and what went wrong. -/
def readTail :
    Nat → Nat → Nat → Nat → Nat → List UInt8 → Except (Nat × Reason) Nat
  | 0, _, _, _, code, _ => .ok code
  | _ + 1, read, _, _, _, [] => .error (read, .unexpectedEnd)
  | count + 1, read, least, greatest, code, byte :: rest =>
      if least ≤ byte.toNat ∧ byte.toNat ≤ greatest then
        readTail count (read + 1) 0x80 0xBF (64 * code + (byte.toNat - 0x80)) rest
      else
        .error (read, .invalidContinuation)

/-- The character at the front with its number of bytes, or the fault there. -/
def readChar (position : Nat) (byte : UInt8) (rest : List UInt8) :
    Except Fault (Char × Nat) :=
  match lead? byte with
  | none => .error ⟨byte, position, 1, .invalidStart⟩
  | some lead =>
      match readTail lead.tail 0 lead.least lead.greatest lead.bits rest with
      | .ok code => .ok (Char.ofNat code, 1 + lead.tail)
      | .error (read, reason) => .error ⟨byte, position, 1 + read, reason⟩

/--
The text of some bytes with a replacement character for every fault, and the
faults, both in order.
-/
def scan (position : Nat) : List UInt8 → List Char × List Fault
  | [] => ([], [])
  | byte :: rest =>
      match readChar position byte rest with
      | .ok (char, length) =>
          let (chars, faults) := scan (position + length) (rest.drop (length - 1))
          (char :: chars, faults)
      | .error fault =>
          let (chars, faults) :=
            scan (position + fault.length) (rest.drop (fault.length - 1))
          (Char.ofNat 0xFFFD :: chars, fault :: faults)
termination_by bytes => bytes.length
decreasing_by all_goals simp only [List.length_drop, List.length_cons]; omega

/-- The text of some bytes, or their first fault. -/
def decode (bytes : List UInt8) : Except Fault (List Char) :=
  match scan 0 bytes with
  | (chars, []) => .ok chars
  | (_, fault :: _) => .error fault

/-- The text of some bytes with a replacement character for every fault. -/
def decodeLossy (bytes : List UInt8) : List Char :=
  (scan 0 bytes).1

end SheetFormula.Utf8
