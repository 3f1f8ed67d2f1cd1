import ReviewDiff.Digest.Sha1
import ReviewDiff.Text.Line
import ReviewDiff.Text.Utf8

/-!
# Content of a file

What a file holds at one side of a comparison: nothing, bytes that are no text, or lines. Bytes are
text when they are well-formed UTF-8 and hold no zero byte.
-/

set_option autoImplicit false

namespace ReviewDiff

inductive Content where
  | absent
  | binary (size : Nat) (digest : String)
  | present (lines : List LineRecord)
  deriving DecidableEq, Repr

namespace Content

def ofBinary (bytes : Bytes) : Content := .binary bytes.length (blobId bytes)

def ofBytes (bytes : Bytes) : Content :=
  if bytes.contains 0 then ofBinary bytes
  else match Utf8.decode bytes with
    | .error _ => ofBinary bytes
    | .ok text => .present (LineRecord.split (Points.ofChars text))

def classify : Option Bytes → Content
  | none => .absent
  | some bytes => ofBytes bytes

/-- The texts of the lines; none for what is not text. -/
def texts : Content → List Points
  | .present lines => LineRecord.texts lines
  | _ => []

def isBinary : Content → Bool
  | .binary .. => true
  | _ => false

end Content

end ReviewDiff
