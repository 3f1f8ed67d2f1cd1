import ReviewDiff.Json.Reader

/-!
# Texts that read as something else

A text without quotes is read as a truth value, a number, a date, nothing, or one of two marks, when
it has the form of one. Such a text needs quotes to stay a text.
-/

set_option autoImplicit false

namespace ReviewDiff.Yaml

def truthWords : List String :=
  ["yes", "Yes", "YES", "no", "No", "NO", "true", "True", "TRUE", "false", "False", "FALSE",
    "on", "On", "ON", "off", "Off", "OFF"]

def emptyWords : List String := ["", "~", "null", "Null", "NULL"]

def markWords : List String := ["<<", "="]

def isDigit (c : Char) : Bool := Json.isDigit c

def isDigitOrGap (c : Char) : Bool := isDigit c || c = '_'

def dropSign : List Char → List Char
  | '+' :: rest | '-' :: rest => rest
  | cs => cs

def allOf (test : Char → Bool) (cs : List Char) : Bool := !cs.isEmpty && cs.all test

def isBinaryDigit (c : Char) : Bool := c = '0' || c = '1' || c = '_'

def isOctalDigit (c : Char) : Bool := '0' ≤ c && c ≤ '7' || c = '_'

def isHexDigit (c : Char) : Bool := (Json.hexValue? c).isSome || c = '_'

/-- Whether a group of a number to the base sixty has one digit, or two that are below sixty. -/
def isSixtieth : List Char → Bool
  | [c] => isDigit c
  | [a, b] => '0' ≤ a && a ≤ '5' && isDigit b
  | _ => false

/-- Whether a text is a whole number with groups to the base sixty behind it. -/
def isSexagesimal (firstDigit : Char → Bool) (cs : List Char) : Bool :=
  match cs.splitOn ':' with
  | (c :: whole) :: group :: groups =>
    firstDigit c && whole.all isDigitOrGap && (group :: groups).all isSixtieth
  | _ => false

def isNonZeroDigit (c : Char) : Bool := '1' ≤ c && c ≤ '9'

def isUnsignedInteger : List Char → Bool
  | ['0'] => true
  | '0' :: 'b' :: rest => allOf isBinaryDigit rest
  | '0' :: 'x' :: rest => allOf isHexDigit rest
  | '0' :: rest => allOf isOctalDigit rest
  | c :: rest =>
    isNonZeroDigit c && (rest.all isDigitOrGap || isSexagesimal isNonZeroDigit (c :: rest))
  | [] => false

def isInteger (cs : List Char) : Bool := isUnsignedInteger (dropSign cs)

/-- Whether a text is the exponent of a number, with a sign, or nothing. -/
def isExponent : List Char → Bool
  | [] => true
  | e :: sign :: digits => (e = 'e' || e = 'E') && (sign = '+' || sign = '-') && allOf isDigit digits
  | _ => false

def isFraction (cs : List Char) : Bool := isExponent (cs.dropWhile isDigitOrGap)

def isPointed (cs : List Char) : Bool :=
  match cs.span isDigitOrGap with
  | (c :: _, '.' :: rest) => isDigit c && isFraction rest
  | _ => false

/-- Whether a text is a number to the base sixty with a point in it. -/
def isPointedSexagesimal (cs : List Char) : Bool :=
  match cs.span (· ≠ '.') with
  | (whole, '.' :: rest) => isSexagesimal isDigit whole && rest.all isDigitOrGap
  | _ => false

def infinityWords : List String := [".inf", ".Inf", ".INF"]

def noNumberWords : List String := [".nan", ".NaN", ".NAN"]

def isFloat (cs : List Char) : Bool :=
  let unsigned := dropSign cs
  let bare :=
    match cs with
    | '.' :: c :: rest => isDigit c && isFraction rest
    | _ => false
  isPointed unsigned || bare || isPointedSexagesimal unsigned
    || infinityWords.contains (String.ofList unsigned)
    || noNumberWords.contains (String.ofList cs)

def afterOneOrTwo? : List Char → Option (List Char)
  | a :: b :: rest =>
    if isDigit a then some (if isDigit b then rest else b :: rest) else none
  | [a] => if isDigit a then some [] else none
  | [] => none

def afterDigits? : Nat → List Char → Option (List Char)
  | 0, cs => some cs
  | n + 1, c :: rest => if isDigit c then afterDigits? n rest else none
  | _ + 1, [] => none

def afterChar? (c : Char) : List Char → Option (List Char)
  | d :: rest => if c = d then some rest else none
  | [] => none

def isZone (cs : List Char) : Bool :=
  match cs with
  | [] | ['Z'] => true
  | sign :: rest =>
    (sign = '+' || sign = '-') &&
      match afterOneOrTwo? rest with
      | some [] => true
      | some (':' :: minutes) => afterDigits? 2 minutes = some []
      | _ => false

def isGap (c : Char) : Bool := c = ' ' || c = '\t'

/-- Whether a text is a time of day, with a fraction and a zone if there is more. -/
def isClock (cs : List Char) : Bool :=
  let seconds? := do
    let rest ← afterOneOrTwo? cs
    let rest ← afterChar? ':' rest
    let rest ← afterDigits? 2 rest
    let rest ← afterChar? ':' rest
    afterDigits? 2 rest
  match seconds? with
  | none => false
  | some rest =>
    let rest := match rest with
      | '.' :: fraction => fraction.dropWhile isDigit
      | other => other
    match rest with
    | [] => true
    | _ => let zone := rest.dropWhile isGap; !zone.isEmpty && isZone zone

def afterDate? (monthAndDay : List Char → Option (List Char)) (cs : List Char) :
    Option (List Char) := do
  let rest ← afterDigits? 4 cs
  let rest ← afterChar? '-' rest
  let rest ← monthAndDay rest
  let rest ← afterChar? '-' rest
  monthAndDay rest

def isTimestamp (cs : List Char) : Bool :=
  afterDate? (afterDigits? 2) cs = some [] ||
    match afterDate? afterOneOrTwo? cs with
    | some (c :: rest) =>
      if c = 'T' || c = 't' then isClock rest
      else isGap c && isClock (rest.dropWhile isGap)
    | _ => false

def readsOtherwise (s : String) : Bool :=
  let cs := s.toList
  emptyWords.contains s || truthWords.contains s || markWords.contains s
    || isInteger cs || isFloat cs || isTimestamp cs

end ReviewDiff.Yaml
