/-!
# Decoding UTF-8

Bytes are decoded strictly.  When they are not well-formed, the first fault is
reported: a byte that begins no sequence, a sequence that is broken off by a
byte that cannot continue it, or one that is broken off by the end.  A broken
sequence is reported with those of its bytes that were still in order.
-/

namespace Hostcall.Text.Utf8

/-- What is wrong with a sequence. -/
inductive Reason where
  | invalidStart
  | invalidContinuation
  | unexpectedEnd
deriving DecidableEq, Repr

/-- A reason in words. -/
def Reason.message : Reason → String
  | .invalidStart => "invalid start byte"
  | .invalidContinuation => "invalid continuation byte"
  | .unexpectedEnd => "unexpected end of data"

/-- The first fault in some bytes: where it is, the bytes at fault, and the reason. -/
structure Fault where
  position : Nat
  bytes : List UInt8
  reason : Reason
deriving DecidableEq, Repr

/-- A byte in two hexadecimal digits. -/
def hexByte (byte : UInt8) : String :=
  String.ofList [Nat.digitChar (byte.toNat / 16), Nat.digitChar (byte.toNat % 16)]

/-- What is wrong, in words.  A single byte is shown, of several only the places. -/
def Fault.message (fault : Fault) : String :=
  let place :=
    match fault.bytes with
    | [byte] => "byte 0x" ++ hexByte byte ++ " in position " ++ toString fault.position
    | bytes =>
        "bytes in position " ++ toString fault.position ++ "-" ++
          toString (fault.position + bytes.length - 1)
  "'utf-8' codec can't decode " ++ place ++ ": " ++ fault.reason.message

/--
The ranges of the bytes that continue a sequence, by its first byte; none for
a byte that begins no sequence.  The narrow ranges behind four of the first
bytes leave out code points that have a shorter sequence, surrogates, and
numbers that are no code points.
-/
def continuations (first : UInt8) : Option (List (UInt8 × UInt8)) :=
  if first < 0x80 then some []
  else if first < 0xC2 then none
  else if first < 0xE0 then some [(0x80, 0xBF)]
  else if first = 0xE0 then some [(0xA0, 0xBF), (0x80, 0xBF)]
  else if first = 0xED then some [(0x80, 0x9F), (0x80, 0xBF)]
  else if first < 0xF0 then some [(0x80, 0xBF), (0x80, 0xBF)]
  else if first = 0xF0 then some [(0x90, 0xBF), (0x80, 0xBF), (0x80, 0xBF)]
  else if first < 0xF4 then some [(0x80, 0xBF), (0x80, 0xBF), (0x80, 0xBF)]
  else if first = 0xF4 then some [(0x80, 0x8F), (0x80, 0xBF), (0x80, 0xBF)]
  else none

/-- How far the bytes behind a first byte continue its sequence. -/
inductive Continuation where
  /-- To its end. -/
  | complete (length : Nat)
  /-- Only so far. -/
  | broken (continued : List UInt8) (reason : Reason)
deriving DecidableEq, Repr

/-- One more byte continues a sequence. -/
def Continuation.push (byte : UInt8) : Continuation → Continuation
  | .complete length => .complete (length + 1)
  | .broken continued reason => .broken (byte :: continued) reason

/-- Match bytes with the ranges that are to continue a sequence. -/
def continuation : List (UInt8 × UInt8) → List UInt8 → Continuation
  | [], _ => .complete 0
  | _ :: _, [] => .broken [] .unexpectedEnd
  | (low, high) :: ranges, byte :: bytes =>
      if low ≤ byte && byte ≤ high then
        (continuation ranges bytes).push byte
      else
        .broken [] .invalidContinuation

/--
The first fault in some bytes, of which the first has the given position.
Bytes without a fault are reported as broken off at their end.
-/
def firstFault (position : Nat) (bytes : List UInt8) : Fault :=
  match bytes with
  | [] => ⟨position, [], .unexpectedEnd⟩
  | first :: others =>
      match continuations first with
      | none => ⟨position, [first], .invalidStart⟩
      | some ranges =>
          match continuation ranges others with
          | .broken continued reason => ⟨position, first :: continued, reason⟩
          | .complete length => firstFault (position + 1 + length) (others.drop length)
termination_by bytes.length
decreasing_by
  simp only [List.length_drop, List.length_cons]
  omega

/-- The text that some bytes encode, or their first fault. -/
def decode (bytes : ByteArray) : Except Fault String :=
  match String.fromUTF8? bytes with
  | some text => .ok text
  | none => .error (firstFault 0 bytes.toList)

/-- The encoding of a text decodes to the text. -/
@[simp]
theorem decode_toUTF8
    (text : String) :
    decode text.toUTF8 = .ok text := by
  unfold decode String.fromUTF8?
  rw [String.toUTF8_eq_toByteArray, dif_pos text.isValidUTF8]
  rfl

end Hostcall.Text.Utf8
