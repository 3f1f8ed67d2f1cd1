/-!
# UTF-8

Strict decoding of bytes into characters, and the encoding back. A lead byte fixes how many
continuation bytes follow and in which range the first of them lies, so overlong forms, surrogates
and values above U+10FFFF are refused. A refusal says where the first ill-formed sequence starts,
where it ends, and what is wrong with it.
-/

set_option autoImplicit false

namespace ReviewDiff

abbrev Bytes := List UInt8

namespace Utf8

inductive Reason where
  | invalidStart
  | invalidContinuation
  | unexpectedEnd
  deriving DecidableEq, Repr

def Reason.text : Reason → String
  | .invalidStart => "invalid start byte"
  | .invalidContinuation => "invalid continuation byte"
  | .unexpectedEnd => "unexpected end of data"

structure Malformed where
  start : Nat
  stop : Nat
  lead : UInt8
  reason : Reason
  deriving DecidableEq, Repr

def isContinuation (b : UInt8) : Bool := 0x80 ≤ b && b ≤ 0xBF

def secondRange (lead : UInt8) : UInt8 × UInt8 :=
  if lead = 0xE0 then (0xA0, 0xBF)
  else if lead = 0xED then (0x80, 0x9F)
  else if lead = 0xF0 then (0x90, 0xBF)
  else if lead = 0xF4 then (0x80, 0x8F)
  else (0x80, 0xBF)

def isSecond (lead b : UInt8) : Bool := (secondRange lead).1 ≤ b && b ≤ (secondRange lead).2

def payload (b : UInt8) : Nat := b.toNat % 64

/-- One sequence read from the front of a byte string: a character and how many bytes it took, or
the length of the part that is ill formed. -/
inductive Sequence where
  | char (c : Char) (width : Nat)
  | bad (length : Nat) (reason : Reason)
  deriving DecidableEq, Repr

def twoBytes (lead : UInt8) : Bytes → Sequence
  | [] => .bad 1 .unexpectedEnd
  | b :: _ =>
    if isContinuation b then .char (Char.ofNat (lead.toNat % 32 * 64 + payload b)) 2
    else .bad 1 .invalidContinuation

def threeBytes (lead : UInt8) : Bytes → Sequence
  | [] => .bad 1 .unexpectedEnd
  | b :: rest =>
    if !isSecond lead b then .bad 1 .invalidContinuation
    else match rest with
      | [] => .bad 2 .unexpectedEnd
      | c :: _ =>
        if isContinuation c then
          .char (Char.ofNat (lead.toNat % 16 * 4096 + payload b * 64 + payload c)) 3
        else .bad 2 .invalidContinuation

def fourBytes (lead : UInt8) : Bytes → Sequence
  | [] => .bad 1 .unexpectedEnd
  | b :: rest =>
    if !isSecond lead b then .bad 1 .invalidContinuation
    else match rest with
      | [] => .bad 2 .unexpectedEnd
      | c :: rest =>
        if !isContinuation c then .bad 2 .invalidContinuation
        else match rest with
          | [] => .bad 3 .unexpectedEnd
          | d :: _ =>
            if isContinuation d then
              .char (Char.ofNat (lead.toNat % 8 * 262144 + payload b * 4096 + payload c * 64
                + payload d)) 4
            else .bad 3 .invalidContinuation

def sequence (lead : UInt8) (rest : Bytes) : Sequence :=
  if lead < 0x80 then .char (Char.ofNat lead.toNat) 1
  else if lead < 0xC2 then .bad 1 .invalidStart
  else if lead < 0xE0 then twoBytes lead rest
  else if lead < 0xF0 then threeBytes lead rest
  else if lead < 0xF5 then fourBytes lead rest
  else .bad 1 .invalidStart

/-- The characters of a byte string whose first byte has the index `offset`; `skip` bytes belong to
the character before. A truncated sequence is ill formed up to the end of the bytes. -/
def decodeFrom (offset : Nat) : (skip : Nat) → Bytes → Except Malformed (List Char)
  | _, [] => .ok []
  | skip + 1, _ :: rest => decodeFrom (offset + 1) skip rest
  | 0, lead :: rest =>
    match sequence lead rest with
    | .char c width => (decodeFrom (offset + 1) (width - 1) rest).map (c :: ·)
    | .bad length reason => .error ⟨offset, offset + length, lead, reason⟩

def decode (bytes : Bytes) : Except Malformed (List Char) := decodeFrom 0 0 bytes

def encode (chars : List Char) : Bytes := chars.flatMap String.utf8EncodeChar

/-- The UTF-8 bytes of a text. -/
def encodeText (text : String) : Bytes := encode text.toList

def decodeText (bytes : Bytes) : Except Malformed String := (decode bytes).map String.ofList

def size (text : String) : Nat := text.utf8ByteSize

def Malformed.report (m : Malformed) : String :=
  let digit (n : Nat) : Char := if n < 10 then Char.ofNat (48 + n) else Char.ofNat (87 + n)
  if m.stop = m.start + 1 then
    let value := m.lead.toNat
    "'utf-8' codec can't decode byte 0x" ++ String.ofList [digit (value / 16), digit (value % 16)]
      ++ s!" in position {m.start}: {m.reason.text}"
  else
    s!"'utf-8' codec can't decode bytes in position {m.start}-{m.stop - 1}: {m.reason.text}"

end Utf8

end ReviewDiff
