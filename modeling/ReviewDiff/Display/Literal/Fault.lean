import ReviewDiff.Decimal.Numeral

/-!
# Slips in literals

Why a text is no literal. A slip in an expression that is filled into a quoted text is told as one
of the quoted text.
-/

set_option autoImplicit false

namespace ReviewDiff.Literal

inductive Fault where
  | invalid
  | unexpectedIndent
  | forgottenComma
  | missingBrackets (word : String)
  | missingElse
  | singleEquals
  | assigned (kind : String)
  | assignedBy (kind : String)
  | target (kind : String)
  | starredValue
  | missingValue
  | missingColon
  | starredGroup
  | doubleStarredGroup
  | looseTarget
  | starredComprehension
  | unpackedComprehension
  | bareGenerator
  | unpackedAfterNamed
  | plainAfterNamed
  | plainAfterUnpacked
  | assignedArgument
  | missingDefault
  | plainParameter
  | bracketedParameters
  | nothingAheadOfSlash
  | secondSlash
  | slashBehindStar
  | slashBesideStar
  | bareStar
  | starredDefault
  | secondStar
  | doubleStarredDefault
  | behindDoubleStar
  | neverClosed (opening : Char)
  | unmatched (closing : Char)
  | mismatched (closing opening : Char) (line : Option Nat)
  | tooDeep
  | unterminated (line : Nat)
  | unterminatedLong (line : Nat)
  | continuation
  | unexpectedEnd
  | character (c : Char)
  | hiddenCharacter (c : Char)
  | number (kind : String)
  | digit (c : Char) (kind : String)
  | leadingZeros
  | tooLong (digits : Nat)
  | wideBytes
  | mixedBytes
  | escape (first last : Nat) (reason : String)
  | bytesEscape (position : Nat)
  | fillingHolds (what : String)
  | filling (reason : String)
  | filled (e : Fault)
  | exhausted
  deriving DecidableEq, Repr

/-- At least four digits of a code point. -/
def codeText (c : Char) : String :=
  let digits := (Nat.toDigits 16 c.toNat).map Char.toUpper
  String.ofList (List.replicate (4 - digits.length) '0' ++ digits)

def Fault.message : Fault → String
  | .invalid => "invalid syntax"
  | .unexpectedIndent => "unexpected indent"
  | .forgottenComma => "invalid syntax. Perhaps you forgot a comma?"
  | .missingBrackets word =>
    s!"Missing parentheses in call to '{word}'. Did you mean {word}(...)?"
  | .missingElse => "expected 'else' after 'if' expression"
  | .singleEquals => "invalid syntax. Maybe you meant '==' or ':=' instead of '='?"
  | .assigned kind => s!"cannot assign to {kind} here. Maybe you meant '==' instead of '='?"
  | .assignedBy kind => s!"cannot use assignment expressions with {kind}"
  | .target kind => s!"cannot assign to {kind}"
  | .starredValue => "cannot use a starred expression in a dictionary value"
  | .missingValue => "expression expected after dictionary key and ':'"
  | .missingColon => "':' expected after dictionary key"
  | .starredGroup => "cannot use starred expression here"
  | .doubleStarredGroup => "cannot use double starred expression here"
  | .looseTarget => "did you forget parentheses around the comprehension target?"
  | .starredComprehension => "iterable unpacking cannot be used in comprehension"
  | .unpackedComprehension => "dict unpacking cannot be used in dict comprehension"
  | .bareGenerator => "Generator expression must be parenthesized"
  | .unpackedAfterNamed =>
    "iterable argument unpacking follows keyword argument unpacking"
  | .plainAfterNamed => "positional argument follows keyword argument"
  | .plainAfterUnpacked => "positional argument follows keyword argument unpacking"
  | .assignedArgument => "expression cannot contain assignment, perhaps you meant \"==\"?"
  | .missingDefault => "expected default value expression"
  | .plainParameter => "non-default argument follows default argument"
  | .bracketedParameters => "Lambda expression parameters cannot be parenthesized"
  | .nothingAheadOfSlash => "at least one argument must precede /"
  | .secondSlash => "/ may appear only once"
  | .slashBehindStar => "/ must be ahead of *"
  | .slashBesideStar => "expected comma between / and *"
  | .bareStar => "named arguments must follow bare *"
  | .starredDefault => "var-positional argument cannot have default value"
  | .secondStar => "* argument may appear only once"
  | .doubleStarredDefault => "var-keyword argument cannot have default value"
  | .behindDoubleStar => "arguments cannot follow var-keyword argument"
  | .neverClosed opening => s!"'{opening}' was never closed"
  | .unmatched closing => s!"unmatched '{closing}'"
  | .mismatched closing opening line =>
    s!"closing parenthesis '{closing}' does not match opening parenthesis '{opening}'"
      ++ (line.map fun n => s!" on line {n}").getD ""
  | .tooDeep => "too many nested parentheses"
  | .unterminated line => s!"unterminated string literal (detected at line {line})"
  | .unterminatedLong line =>
    s!"unterminated triple-quoted string literal (detected at line {line})"
  | .continuation => "unexpected character after line continuation character"
  | .unexpectedEnd => "unexpected EOF while parsing"
  | .character c => s!"invalid character '{c}' (U+{codeText c})"
  | .hiddenCharacter c => s!"invalid non-printable character U+{codeText c}"
  | .number kind => s!"invalid {kind} literal"
  | .digit c kind => s!"invalid digit '{c}' in {kind} literal"
  | .leadingZeros => "leading zeros in decimal integer literals are not permitted; "
    ++ "use an 0o prefix for octal integers"
  | .tooLong digits => Numeral.tooLongText digits
    ++ " - Consider hexadecimal for huge integer literals to avoid decimal conversion limits."
  | .wideBytes => "bytes can only contain ASCII literal characters"
  | .mixedBytes => "cannot mix bytes and nonbytes literals"
  | .escape first last reason =>
    "(unicode error) 'unicodeescape' codec can't decode bytes in position "
      ++ s!"{first}-{last}: {reason}"
  | .bytesEscape position => s!"(value error) invalid \\x escape at position {position}"
  | .fillingHolds what => s!"f-string expression part cannot include {what}"
  | .filling reason => s!"f-string: {reason}"
  | .filled e => s!"f-string: {e.message}"
  | .exhausted => ""

end ReviewDiff.Literal
