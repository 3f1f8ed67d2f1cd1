import ReviewDiff.Text.Utf8

/-!
# Bytes in hexadecimal

Two digits a byte. Characters that are no digits count as zero and a digit alone at the end is
dropped.
-/

set_option autoImplicit false

namespace ReviewDiff.Bytes

/-- The value of a hexadecimal digit. -/
def digitValue (c : Char) : Nat :=
  if '0' ≤ c && c ≤ '9' then c.toNat - 48
  else if 'a' ≤ c && c ≤ 'f' then c.toNat - 87
  else if 'A' ≤ c && c ≤ 'F' then c.toNat - 55
  else 0

def ofHexChars : List Char → Bytes
  | a :: b :: rest => UInt8.ofNat (digitValue a * 16 + digitValue b) :: ofHexChars rest
  | _ => []

def ofHex (s : String) : Bytes := ofHexChars s.toList

end ReviewDiff.Bytes
