import ReviewDiff.Json.Value
import ReviewDiff.Decimal.Numeral

/-!
# Reading JSON

Every reading function takes the characters that are left and gives a value with the characters
behind it. An error carries the number of characters left where it was found, so that its place in
the text is a subtraction. Of two members of one name the last is kept, in the place of the first.
-/

set_option autoImplicit false

namespace ReviewDiff.Json

inductive Fault where
  | value
  | propertyName
  | colon
  | comma
  | unterminated
  | control
  | escape
  | codeEscape
  | extraData
  | byteOrderMark
  deriving DecidableEq, Repr

def Fault.text : Fault → String
  | .value => "Expecting value"
  | .propertyName => "Expecting property name enclosed in double quotes"
  | .colon => "Expecting ':' delimiter"
  | .comma => "Expecting ',' delimiter"
  | .unterminated => "Unterminated string starting at"
  | .control => "Invalid control character at"
  | .escape => "Invalid \\escape"
  | .codeEscape => "Invalid \\uXXXX escape"
  | .extraData => "Extra data"
  | .byteOrderMark => "Unexpected UTF-8 BOM (decode using utf-8-sig)"

/-- Why a text is not read: a fault with `left` characters still unread, an integer of more digits
than are accepted, or a collection of a sort (`array` or `object`) that stands too deep inside
others. -/
inductive ReadError where
  | malformed (fault : Fault) (left : Nat)
  | tooManyDigits (count : Nat)
  | tooDeep (sort : String)
  deriving DecidableEq, Repr

abbrev Reading (α : Type) := Except ReadError (α × List Char)

def isSpace (c : Char) : Bool := c = ' ' || c = '\t' || c = '\n' || c = '\r'

def skipSpace (cs : List Char) : List Char := cs.dropWhile isSpace

def failAt {α : Type} (fault : Fault) (rest : List Char) : Reading α :=
  .error (.malformed fault rest.length)

def hexValue? (c : Char) : Option Nat :=
  if '0' ≤ c && c ≤ '9' then some (c.toNat - 48)
  else if 'a' ≤ c && c ≤ 'f' then some (c.toNat - 87)
  else if 'A' ≤ c && c ≤ 'F' then some (c.toNat - 55)
  else none

def hexFour? : List Char → Option (Nat × List Char)
  | a :: b :: c :: d :: rest => do
    let a ← hexValue? a
    let b ← hexValue? b
    let c ← hexValue? c
    let d ← hexValue? d
    return (((a * 16 + b) * 16 + c) * 16 + d, rest)
  | _ => none

def simpleEscape? (c : Char) : Option Char :=
  if c = '"' || c = '\\' || c = '/' then some c
  else if c = 'b' then some (Char.ofNat 8)
  else if c = 'f' then some (Char.ofNat 12)
  else if c = 'n' then some '\n'
  else if c = 'r' then some '\r'
  else if c = 't' then some '\t'
  else none

def isHigh (n : Nat) : Bool := 0xD800 ≤ n && n ≤ 0xDBFF
def isLow (n : Nat) : Bool := 0xDC00 ≤ n && n ≤ 0xDFFF

/-- The character of a code. Texts of documents consist of characters here, so the escape of a
surrogate without its partner is read as U+FFFD. A reader of code points would keep the surrogate.
-/
def charOfCode (n : Nat) : Char :=
  if isHigh n || isLow n then Char.ofNat 0xFFFD else Char.ofNat n

/-- The low half of a surrogate pair, when an escape that holds one follows. It is not looked for in
the last characters of the text. -/
def lowHalf? : List Char → Except ReadError (Option (Nat × List Char))
  | '\\' :: 'u' :: rest =>
    if rest.length < 5 then .ok none
    else match hexFour? rest with
      | none => .error (.malformed .codeEscape (rest.length + 1))
      | some (low, rest) => .ok (if isLow low then some (low, rest) else none)
  | _ => .ok none

/-- The character of a code escape, from behind its `u` on. One character at least has to follow. -/
def codeEscape (rest : List Char) : Reading Char :=
  if rest.length < 5 then .error (.malformed .codeEscape (rest.length + 1))
  else match hexFour? rest with
    | none => .error (.malformed .codeEscape (rest.length + 1))
    | some (high, rest) =>
      if isHigh high then
        match lowHalf? rest with
        | .error e => .error e
        | .ok (some (low, rest)) =>
          .ok (Char.ofNat (0x10000 + (high - 0xD800) * 0x400 + (low - 0xDC00)), rest)
        | .ok none => .ok (charOfCode high, rest)
      else .ok (charOfCode high, rest)

/-- The rest of a string whose opening quote had `opened` characters from it to the end. -/
def stringRest (opened : Nat) : (fuel : Nat) → List Char → List Char → Reading String
  | 0, _, _ => .error (.malformed .unterminated opened)
  | _ + 1, [], _ => .error (.malformed .unterminated opened)
  | fuel + 1, c :: rest, before =>
    if c = '"' then .ok (String.ofList before.reverse, rest)
    else if c.toNat < 32 then failAt .control (c :: rest)
    else if c != '\\' then stringRest opened fuel rest (c :: before)
    else match rest with
      | [] => .error (.malformed .unterminated opened)
      | e :: tail =>
        if e = 'u' then
          match codeEscape tail with
          | .error err => .error err
          | .ok (char, after) => stringRest opened fuel after (char :: before)
        else match simpleEscape? e with
          | some char => stringRest opened fuel tail (char :: before)
          | none => failAt .escape (c :: rest)

def string (cs : List Char) : Reading String := stringRest (cs.length + 1) (cs.length + 1) cs []

def isDigit (c : Char) : Bool := '0' ≤ c && c ≤ '9'

def digitsValue (ds : List Char) : Nat := ds.foldl (fun n d => n * 10 + (d.toNat - 48)) 0

def exponentPart? : List Char → Option (Int × List Char)
  | [] => none
  | e :: rest =>
    if e != 'e' && e != 'E' then none
    else
      let (negative, rest) := match rest with
        | '-' :: r => (true, r)
        | '+' :: r => (false, r)
        | r => (false, r)
      let ds := rest.takeWhile isDigit
      if ds.isEmpty then none
      else
        let size : Int := digitsValue ds
        some (if negative then -size else size, rest.dropWhile isDigit)

def fractionPart? : List Char → Option (List Char × List Char)
  | '.' :: rest =>
    let ds := rest.takeWhile isDigit
    if ds.isEmpty then none else some (ds, rest.dropWhile isDigit)
  | _ => none

def numberRest (negative : Bool) (whole rest : List Char) : Reading Json :=
  let (fraction, afterFraction) := (fractionPart? rest).getD ([], rest)
  match exponentPart? afterFraction with
  | some (exponent, after) =>
    .ok (.float (.ofDecimal negative (digitsValue (whole ++ fraction))
      (exponent - fraction.length)), after)
  | none =>
    if fraction.isEmpty then
      if Numeral.maxDigits < whole.length then .error (.tooManyDigits whole.length)
      else
        let size : Int := digitsValue whole
        .ok (.int (if negative then -size else size), afterFraction)
    else
      .ok (.float (.ofDecimal negative (digitsValue (whole ++ fraction)) (-(fraction.length : Int))),
        afterFraction)

def numberDigits? (negative : Bool) : List Char → Option (Reading Json)
  | [] => none
  | c :: rest =>
    if c = '0' then some (numberRest negative ['0'] rest)
    else if isDigit c then
      some (numberRest negative (c :: rest.takeWhile isDigit) (rest.dropWhile isDigit))
    else none

def afterWord? (word : String) (cs : List Char) : Option (List Char) :=
  if word.toList.isPrefixOf cs then some (cs.drop word.length) else none

def word? (cs : List Char) : Option (Json × List Char) :=
  let named (w : String) (j : Json) : Option (Json × List Char) :=
    (afterWord? w cs).map fun rest => (j, rest)
  named "null" .null <|> named "true" (.bool true) <|> named "false" (.bool false)
    <|> named "NaN" (.float .nan) <|> named "Infinity" (.float (.infinity false))
    <|> named "-Infinity" (.float (.infinity true))

def scalar (cs : List Char) : Reading Json :=
  match word? cs with
  | some found => .ok found
  | none =>
    let number? := match cs with
      | '-' :: rest => numberDigits? true rest
      | _ => numberDigits? false cs
    number?.getD (failAt .value cs)

mutual

/-- A value, in which collections may stand in each other up to the depth `room`. The fuel bounds
the depth of calls; two calls take at least one character. -/
def value : (fuel room : Nat) → List Char → Reading Json
  | 0, _, cs => failAt .value cs
  | _ + 1, 0, '[' :: _ => .error (.tooDeep "array")
  | _ + 1, 0, '{' :: _ => .error (.tooDeep "object")
  | fuel + 1, room, cs =>
    match cs with
    | '"' :: rest =>
      match string rest with
      | .error e => .error e
      | .ok (s, after) => .ok (.str s, after)
    | '[' :: rest =>
      match skipSpace rest with
      | ']' :: after => .ok (.arr [], after)
      | inner => items fuel (room - 1) inner []
    | '{' :: rest =>
      match skipSpace rest with
      | '}' :: after => .ok (.obj [], after)
      | inner => members fuel (room - 1) inner []
    | _ => scalar cs

def items : (fuel room : Nat) → List Char → List Json → Reading Json
  | 0, _, cs, _ => failAt .value cs
  | fuel + 1, room, cs, before =>
    match value fuel room cs with
    | .error e => .error e
    | .ok (item, after) =>
      match skipSpace after with
      | ']' :: rest => .ok (.arr (item :: before).reverse, rest)
      | ',' :: rest => items fuel room (skipSpace rest) (item :: before)
      | other => failAt .comma other

def members : (fuel room : Nat) → List Char → List (String × Json) → Reading Json
  | 0, _, cs, _ => failAt .propertyName cs
  | fuel + 1, room, cs, before =>
    match cs with
    | '"' :: rest =>
      match string rest with
      | .error e => .error e
      | .ok (name, after) =>
        match skipSpace after with
        | ':' :: rest =>
          match value fuel room (skipSpace rest) with
          | .error e => .error e
          | .ok (item, after) =>
            let known := Assoc.put before name item
            match skipSpace after with
            | '}' :: rest => .ok (.obj known, rest)
            | ',' :: rest => members fuel room (skipSpace rest) known
            | other => failAt .comma other
        | other => failAt .colon other
    | other => failAt .propertyName other

end

def maxDepth : Nat := 990

def read (cs : List Char) : Except ReadError Json :=
  if cs.head? = some (Char.ofNat 0xFEFF) then .error (.malformed .byteOrderMark cs.length)
  else match value (2 * cs.length + 2) maxDepth (skipSpace cs) with
    | .error e => .error e
    | .ok (j, rest) =>
      match skipSpace rest with
      | [] => .ok j
      | other => .error (.malformed .extraData other.length)

def placeOf (index : Nat) (cs : List Char) : Nat × Nat :=
  let before := cs.take index
  (before.count '\n' + 1, (before.reverse.takeWhile (· != '\n')).length + 1)

def ReadError.report (text : List Char) : ReadError → String
  | .malformed fault left =>
    let index := text.length - left
    let (line, column) := placeOf index text
    s!"{fault.text}: line {line} column {column} (char {index})"
  | .tooManyDigits count => Numeral.tooLongText count
  | .tooDeep sort =>
    s!"maximum recursion depth exceeded while decoding a JSON {sort} from a unicode string"

end ReviewDiff.Json
