import ReviewDiff.Display.CharacterName.AtoB
import ReviewDiff.Display.CharacterName.CtoF
import ReviewDiff.Display.CharacterName.GtoL
import ReviewDiff.Display.CharacterName.MtoR
import ReviewDiff.Display.CharacterName.Single
import ReviewDiff.Display.CharacterName.StoZ
import ReviewDiff.Text.Hex

/-!
# Names of characters

Every character of the standard has a name of its own. Most names are listed; those of syllables and
of ideographs are made by a rule. Listed names may be written in small letters, the others may not.
-/

set_option autoImplicit false

namespace ReviewDiff.Text

def behind? (front cs : List Char) : Option (List Char) :=
  if front.isPrefixOf cs then some (cs.drop front.length) else none

/-- The number that digits stand for in base 16, or in base 10 if there are no others. -/
def numberIn (base : Nat) (digits : List Char) : Nat :=
  digits.foldl (fun n c => n * base + Bytes.digitValue c) 0

def isUpperHex (c : Char) : Bool := c.isDigit || 'A' ≤ c && c ≤ 'F'

def ideographRanges : List (Nat × Nat) :=
  [(0x3400, 0x4DBF), (0x4E00, 0x9FFF), (0x20000, 0x2A6DF), (0x2A700, 0x2B738), (0x2B740, 0x2B81D),
    (0x2B820, 0x2CEA1), (0x2CEB0, 0x2EBE0), (0x30000, 0x3134A)]

def within (ranges : List (Nat × Nat)) (n : Nat) : Bool :=
  ranges.any fun (first, last) => first ≤ n && n ≤ last

def namesIdeograph (digits : List Char) : Bool :=
  (digits.length = 4 || digits.length = 5) && digits.all isUpperHex &&
    within ideographRanges (numberIn 16 digits)

def leadingSounds : List String :=
  ["G", "GG", "N", "D", "DD", "R", "M", "B", "BB", "S", "SS", "", "J", "JJ", "C", "K", "T", "P",
    "H"]

def vowelSounds : List String :=
  ["A", "AE", "YA", "YAE", "EO", "E", "YEO", "YE", "O", "WA", "WAE", "OE", "YO", "U", "WEO", "WE",
    "WI", "YU", "EU", "YI", "I"]

def trailingSounds : List String :=
  ["", "G", "GG", "GS", "N", "NJ", "NH", "D", "L", "LG", "LM", "LB", "LS", "LT", "LP", "LH", "M",
    "B", "BS", "S", "SS", "NG", "J", "C", "K", "T", "P", "H"]

def behindSound? (sounds : List String) (cs : List Char) : Option (List Char) :=
  (sounds.filter fun s => s.toList.isPrefixOf cs).foldl
    (fun rest? s =>
      let rest := cs.drop s.length
      match rest? with
      | some other => if rest.length < other.length then some rest else some other
      | none => some rest)
    none

def namesSyllable (cs : List Char) : Bool :=
  (do
    let cs ← behindSound? leadingSounds cs
    let cs ← behindSound? vowelSounds cs
    behindSound? trailingSounds cs) = some []

/-- Names that end in a number: the front, the base and the fewest digits of the number, and the
numbers that there are. -/
def numberedNames : List (String × Nat × Nat × List (Nat × Nat)) :=
  [("CJK COMPATIBILITY IDEOGRAPH-", 16, 4, [(0xF900, 0xFA6D), (0xFA70, 0xFAD9), (0x2F800, 0x2FA1D)]),
    ("KHITAN SMALL SCRIPT CHARACTER-", 16, 4, [(0x18B00, 0x18CD5)]),
    ("NUSHU CHARACTER-", 16, 4, [(0x1B170, 0x1B2FB)]), ("TANGUT COMPONENT-", 10, 3, [(1, 768)]),
    ("VARIATION SELECTOR-", 10, 1, [(1, 256)]), ("VS", 10, 1, [(1, 256)])]

def isNumberIn (base places : Nat) (ranges : List (Nat × Nat)) (digits : List Char) : Bool :=
  digits.all (fun c => if base = 16 then isUpperHex c else c.isDigit) &&
    (digits.length = places || places < digits.length && digits.head? ≠ some '0') &&
    within ranges (numberIn base digits)

def isNumbered (name : List Char) : Bool :=
  numberedNames.any fun (front, base, places, ranges) =>
    (behind? front.toList name).any (isNumberIn base places ranges)

/-- A name that is looked for in the lists. -/
structure NameSearch where
  /-- What is left of the name behind the first words that it was followed along, the latest
  first. -/
  rests : List (List Char)
  ending : Option (List Char)
  found : Bool

namespace NameSearch

def start (name : List Char) : NameSearch := ⟨[name], none, false⟩

def branch (s : NameSearch) (depth : Nat) (words : List Char) : NameSearch :=
  let rests := s.rests.drop (s.rests.length - (depth + 1))
  if rests.length < depth + 1 then { s with ending := none }
  else match (rests.head?).bind (behind? (words ++ [' '])) with
    | some rest => { s with rests := rest :: rests, ending := some rest }
    | none => { s with rests := rests, ending := none }

def endings (s : NameSearch) (text : String) : NameSearch :=
  match s.ending with
  | some rest =>
    { s with found := s.found || ((text.splitOn ",").map String.toList).contains rest }
  | none => s

/-- Looks at a line of a list. -/
def line (s : NameSearch) (text : String) : NameSearch :=
  match text.splitOn ":" with
  | [front, endings] =>
    let blanks := front.toList.takeWhile (· = ' ')
    (s.branch blanks.length (front.toList.drop blanks.length)).endings endings
  | _ => s.endings text

end NameSearch

def nameLists : List String := [firstNames, secondNames, thirdNames, fourthNames, fifthNames]

def isListed (name : List Char) : Bool :=
  ((singleNames.splitOn "\n").flatMap fun line => line.splitOn ",").contains (String.ofList name) ||
    ((nameLists.flatMap fun list => list.splitOn "\n").foldl NameSearch.line (.start name)).found

def isCharacterName (name : List Char) : Bool :=
  !name.isEmpty &&
    match behind? "HANGUL SYLLABLE ".toList name with
    | some sounds => namesSyllable sounds
    | none =>
      match behind? "CJK UNIFIED IDEOGRAPH-".toList name with
      | some digits => namesIdeograph digits
      | none =>
        let name := name.map Char.toUpper
        isNumbered name || isListed name

end ReviewDiff.Text
