import ReviewDiff.Text.Utf8

/-!
# SHA-1

The digest of a byte string as forty hexadecimal digits, and the identity of file content: the
digest of the bytes behind a header that gives their kind and number.
-/

set_option autoImplicit false

namespace ReviewDiff

namespace Sha1

/-- The five words of a running digest. -/
structure State where
  a : UInt32
  b : UInt32
  c : UInt32
  d : UInt32
  e : UInt32
  deriving DecidableEq, Repr

def start : State := ⟨0x67452301, 0xEFCDAB89, 0x98BADCFE, 0x10325476, 0xC3D2E1F0⟩

def rotate (x : UInt32) (n : UInt32) : UInt32 := (x <<< n) ||| (x >>> (32 - n))

def lengthBytes (n : Nat) : Bytes :=
  [56, 48, 40, 32, 24, 16, 8, 0].map fun shift => UInt8.ofNat (n / Nat.pow 2 shift)

/-- The bytes with a one bit, zeros and their length in bits behind them, a multiple of 64 long. -/
def pad (bytes : Bytes) : Bytes :=
  let zeros := (119 - bytes.length % 64) % 64
  bytes ++ 0x80 :: List.replicate zeros 0 ++ lengthBytes (bytes.length * 8)

def words : Bytes → List UInt32
  | a :: b :: c :: d :: rest =>
    (a.toUInt32 <<< 24 ||| b.toUInt32 <<< 16 ||| c.toUInt32 <<< 8 ||| d.toUInt32) :: words rest
  | _ => []

def extend : (count : Nat) → Array UInt32 → Array UInt32
  | 0, w => w
  | count + 1, w =>
    let back (k : Nat) : UInt32 := w.getD (w.size - k) 0
    extend count (w.push (rotate (back 3 ^^^ back 8 ^^^ back 14 ^^^ back 16) 1))

def roundPart (t : Nat) (s : State) : UInt32 × UInt32 :=
  if t < 20 then ((s.b &&& s.c) ||| (~~~s.b &&& s.d), 0x5A827999)
  else if t < 40 then (s.b ^^^ s.c ^^^ s.d, 0x6ED9EBA1)
  else if t < 60 then ((s.b &&& s.c) ||| (s.b &&& s.d) ||| (s.c &&& s.d), 0x8F1BBCDC)
  else (s.b ^^^ s.c ^^^ s.d, 0xCA62C1D6)

def round (s : State) (t : Nat) (word : UInt32) : State :=
  let (f, k) := roundPart t s
  ⟨rotate s.a 5 + f + s.e + k + word, s.a, rotate s.b 30, s.c, s.d⟩

def rounds : (t : Nat) → State → List UInt32 → State
  | _, s, [] => s
  | t, s, word :: rest => rounds (t + 1) (round s t word) rest

def absorb (s : State) (block : List UInt32) : State :=
  let r := rounds 0 s (extend 64 block.toArray).toList
  ⟨s.a + r.a, s.b + r.b, s.c + r.c, s.d + r.d, s.e + r.e⟩

def absorbAll : (count : Nat) → State → List UInt32 → State
  | 0, s, _ => s
  | count + 1, s, ws => absorbAll count (absorb s (ws.take 16)) (ws.drop 16)

def digest (bytes : Bytes) : State :=
  let ws := words (pad bytes)
  absorbAll (ws.length / 16) start ws

def hexDigit (n : Nat) : Char := if n < 10 then Char.ofNat (48 + n) else Char.ofNat (87 + n)

def byteHex (b : UInt8) : List Char := [hexDigit (b.toNat / 16), hexDigit (b.toNat % 16)]

def wordHex (w : UInt32) : List Char :=
  [24, 16, 8, 0].flatMap fun shift => byteHex (UInt8.ofNat (w.toNat / Nat.pow 2 shift))

def hex (bytes : Bytes) : String :=
  let s := digest bytes
  String.ofList ([s.a, s.b, s.c, s.d, s.e].flatMap wordHex)

end Sha1

/-- The identity of file content, the same that the version store gives to a blob. -/
def blobId (bytes : Bytes) : String :=
  Sha1.hex (Utf8.encodeText s!"blob {bytes.length}" ++ 0 :: bytes)

end ReviewDiff
