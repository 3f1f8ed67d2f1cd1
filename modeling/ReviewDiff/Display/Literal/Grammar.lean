import ReviewDiff.Display.Literal.Term
import ReviewDiff.Display.Literal.Token
import ReviewDiff.Text.Faces

/-!
# The grammar of expressions

A rule is a list of choices, each of which is a list of items and what is made of what the items
found. The first choice that fits counts. Some choices fit only what is wrong: they give a slip its
name, and most of them are looked at only where the text is known to be wrong.
-/

set_option autoImplicit false

namespace ReviewDiff.Literal

inductive Rule where
  | whole
  | filling
  | expressions
  | expression
  | plainExpression
  | yielded
  | starExpressions
  | starExpression
  | starNamedExpressions
  | starNamedExpression
  | assignment
  | namedExpression
  | disjunction
  | conjunction
  | inversion
  | comparison
  | compared
  | bitwiseOr
  | bitwiseXor
  | bitwiseAnd
  | shift
  | sum
  | term
  | factor
  | power
  | awaited
  | primary
  | atom
  | group
  | tuple
  | set
  | map
  | entries
  | entry
  | pair
  | quoted
  | generator
  | setComprehension
  | mapComprehension
  | clauses
  | clause
  | lambda
  | parameters
  | parameterList
  | slashPlain
  | slashDefault
  | starParameters
  | doubleStarParameter
  | plainParameter
  | defaultParameter
  | anyParameter
  | parameter
  | defaultValue
  | arguments
  | argumentList
  | namedArguments
  | starredArgument
  | namedOrStarred
  | namedOrDoubleStarred
  | targets
  | target
  | memberTarget
  | atomTarget
  | tupleTarget
  | targetPrimary
  | trailerAhead
  | expressionSlip
  | statementSlip
  | assignmentSlip
  | comprehensionSlip
  | mapComprehensionSlip
  | targetSlip
  | groupSlip
  | entriesSlip
  | entrySlip
  | parametersSlip
  | defaultsSlip
  | starParametersSlip
  | doubleStarParameterSlip
  | defaultSlip
  | argumentsSlip
  | namedArgumentSlip
  deriving DecidableEq, Repr, Hashable

/-- How an argument is given that is not plain. -/
inductive Manner where
  | starred
  | named
  | unpacked
  deriving DecidableEq, Repr

inductive Value where
  | nothing
  | token (t : Placed)
  | term (t : Term)
  | many (vs : List Value)
  | entry (key : Option Term) (value : Term)
  | compared (membership : Bool) (height : Nat)
  | argument (manner : Manner) (height : Nat)
  /-- The arguments of a call: how many are plain or starred, and whether a map is unpacked. -/
  | arguments (plain : Nat) (unpacks : Bool) (height : Nat)
  | part (height : Nat)

/-- What is made of what was found. The choice may not fit after all, and there may be a slip, which
may have been told before. -/
inductive Outcome where
  | give (v : Value)
  | fail
  | slip (e : Fault)
  | told (e : Fault)

/-- What is known where something is made: how many brackets are open behind the last token, and the
term that quoted texts beside each other are. -/
structure Surroundings where
  depth : Nat
  joinQuoted : List Placed → Except Fault Term

abbrev Act := Surroundings → List Value → Outcome

namespace Value

mutual

def height : Value → Nat
  | nothing => 0
  | token _ => 1
  | term t => t.height
  | many vs => heightOfAll vs
  | entry key value => max (key.elim 0 Term.height) value.height
  | compared _ height | argument _ height | arguments _ _ height | part height => height

def heightOfAll : List Value → Nat
  | [] => 0
  | v :: rest => max v.height (heightOfAll rest)

end

def terms : Value → List Term
  | term t => [t]
  | many vs => termsOfAll vs
  | _ => []
where
  termsOfAll : List Value → List Term
    | [] => []
    | v :: rest => v.terms ++ termsOfAll rest

def items : Value → List Value
  | many vs => vs
  | nothing => []
  | v => [v]

def entryOf : Value → List (Option Term × Term)
  | entry key value => [(key, value)]
  | _ => []

def kindOf : Value → String
  | term t => t.kind
  | _ => ""

def wordOf : Value → String
  | token t =>
    match t.token with
    | .name word | .sign word => word
    | _ => ""
  | _ => ""

def plainArguments : Value → Nat
  | term _ | argument .starred _ => 1
  | arguments plain _ _ => plain
  | _ => 0

def unpacks : Value → Bool
  | argument .unpacked _ | arguments _ true _ => true
  | _ => false

end Value

/-- What is taken of the findings of a group. -/
inductive Pick where
  | nth (n : Nat)
  | all
  | compared (membership : Bool)
  deriving DecidableEq, Repr

def Pick.of (vs : List Value) : Pick → Value
  | nth n => vs.getD n .nothing
  | all => .many vs
  | compared membership => .compared membership (Value.heightOfAll vs)

inductive Item where
  | token (fits : Token → Bool)
  | rule (r : Rule)
  | group (choices : List (List Item × Pick))
  | maybe (item : Item)
  | many (item : Item)
  | some (item : Item)
  | between (sign : String) (item : Item)
  | ahead (item : Item)
  | notAhead (item : Item)
  | commit

structure Choice where
  items : List Item
  act : Act
  /-- Whether the choice is looked at only where the text is known to be wrong. -/
  forSlips : Bool

def keywords : List String :=
  ["False", "None", "True", "and", "as", "assert", "async", "await", "break", "class", "continue",
    "def", "del", "elif", "else", "except", "finally", "for", "from", "global", "if", "import",
    "in", "is", "lambda", "nonlocal", "not", "or", "pass", "raise", "return", "try", "while",
    "with", "yield"]

def softKeywords : List String := ["_", "case", "match"]

/-- Whether a word is such a keyword, or the front of one. -/
def mayBeSoftKeyword (word : String) : Bool :=
  softKeywords.any fun keyword => word.toList.isPrefixOf keyword.toList

def sign (s : String) : Item := .token (· = .sign s)

def word (s : String) : Item := .token (· = .name s)

def anyName : Item :=
  .token fun
    | .name s => !keywords.contains s
    | _ => false

def softKeyword : Item :=
  .token fun
    | .name s => mayBeSoftKeyword s
    | _ => false

def anyNumber : Item :=
  .token fun
    | .number _ => true
    | _ => false

def anyQuoted : Item :=
  .token fun
    | .quoted .. => true
    | _ => false

def theEnd : Item :=
  .token fun
    | .stop _ => true
    | _ => false

instance : Coe Rule Item := ⟨.rule⟩

def give (f : List Value → Value) : Act := fun _ vs => .give (f vs)

def nth (n : Nat) : Act := give fun vs => vs.getD n .nothing

def slip (e : Fault) : Act := fun _ _ => .slip e

/-- A term of which only the kind and the height matter. -/
def node (kind : String) : Act := give fun vs => .term (.other kind (Value.heightOfAll vs + 1))

def partOf : Act := give fun vs => .part (Value.heightOfAll vs + 1)

def tupleOf : Act := give fun vs => .term (.tuple (Value.many vs).terms)

def operation : Act := node "expression"

def choice (items : List Item) (act : Act) : Choice := ⟨items, act, false⟩

def only (item : Item) : Choice := ⟨[item], nth 0, false⟩

def lapse (r : Rule) : Choice := ⟨[.rule r], nth 0, true⟩

def oneOf (items : List Item) : Item := .group (items.map fun item => ([item], .nth 0))

def behind (s : String) (item : Item) : Item := .group [([sign s, item], .nth 1)]

def commaMaybe : Item := .maybe (sign ",")

def unassigned : Item :=
  .group [([Rule.assignment], .nth 0), ([Rule.expression, .notAhead (sign ":=")], .nth 0)]

def joinedBy (s : String) (r : Rule) : List Choice :=
  [choice [r, .some (.group [([word s, r], .nth 1)])] operation, only r]

def comparing (membership : Bool) (operators : List Item) : Choice :=
  only (.group [(operators ++ [.rule .bitwiseOr], .compared membership)])

def separated (items : List Item) : List Choice :=
  [choice (items ++ [sign ","]) partOf, choice (items ++ [.ahead (sign ":")]) partOf]

def eitherOpening : Item := oneOf [sign "(", sign "\x7b"]

def valueIn (base : Nat) (digits : List Char) : Nat :=
  digits.foldl (fun n c => n * base + (c.toLower.toNat - if c.isDigit then 48 else 87)) 0

/-- The integers from here on have no nearest double. -/
def hugeFrom : Nat := Nat.pow 2 1024 - Nat.pow 2 970

/-- The term of a numeral. A decimal integer of too many digits is refused. -/
def numeral (digits : List Char) : Outcome :=
  match digits with
  | '0' :: 'x' :: rest => .give (.term (.number false (hugeFrom ≤ valueIn 16 rest)))
  | '0' :: 'o' :: rest => .give (.term (.number false (hugeFrom ≤ valueIn 8 rest)))
  | '0' :: 'b' :: rest => .give (.term (.number false (hugeFrom ≤ valueIn 2 rest)))
  | _ =>
    if digits.all Char.isDigit then
      if Numeral.maxDigits < digits.length then .slip (.tooLong digits.length)
      else .give (.term (.number false (hugeFrom ≤ valueIn 10 digits)))
    else .give (.term (.number (digits.getLast? = some 'j') false))

def numeralAct : Act
  | _, [.token ⟨.number digits, _, _, _⟩] => numeral digits
  | _, _ => .fail

def quotedAct : Act
  | s, [.many vs] =>
    let run := vs.filterMap fun
      | .token t => some t
      | _ => none
    match s.joinQuoted run with
    | .ok t => .give (.term t)
    | .error e => .told e
  | _, _ => .fail

def nameAct : Act := give fun vs => .term (.name (Text.plainName (vs.getD 0 .nothing).wordOf))

def constantAct (name : String) : Act := give fun _ => .term (.constant name)

def callAct : Act
  | _, .term of :: rest =>
    let empty := match rest with
      | [_, .nothing, _] => true
      | _ => false
    .give (.term (.call of empty (max of.height (Value.heightOfAll rest) + 1)))
  | _, _ => .fail

def sumAct : Act
  | _, [.term left, _, .term right] => .give (.term (.sum left right))
  | _, _ => .fail

def signedAct : Act
  | _, [_, .term t] => .give (.term (.signed t))
  | _, _ => .fail

def starredAct : Act
  | _, [_, .term t] => .give (.term (.starred t))
  | _, _ => .fail

def comparisonAct : Act
  | _, [.term left, .many pairs] =>
    let membership := match pairs.head? with
      | some (.compared membership _) => membership
      | _ => false
    let height := max left.height (Value.heightOfAll pairs) + 1
    .give (.term (.comparison membership left height))
  | _, _ => .fail

def pairAct : Act
  | _, [.term key, _, .term value] => .give (.entry (some key) value)
  | _, _ => .fail

def unpackedEntryAct : Act
  | _, [_, .term value] => .give (.entry none value)
  | _, _ => .fail

def argument (manner : Manner) : Act :=
  give fun vs => .argument manner (Value.heightOfAll vs + 1)

def argumentsAct : Act := give fun vs =>
  let all := vs.flatMap Value.items
  .arguments (all.foldl (fun n v => n + v.plainArguments) 0) (all.any Value.unpacks)
    (Value.heightOfAll all)

def kindSlip (n : Nat) (f : String → Fault) : Act := fun _ vs =>
  .slip (f (vs.getD n .nothing).kindOf)

def wordSlip (f : String → Fault) : Act := fun _ vs => .slip (f (vs.getD 0 .nothing).wordOf)

/-- Two terms beside each other inside brackets may lack a comma. -/
def forgottenComma : Act
  | s, .term first :: _ =>
    if first.oldStatement?.isSome || s.depth = 0 then .fail else .slip .forgottenComma
  | _, _ => .fail

def missingBrackets : Act := fun _ vs =>
  let word := Text.plainName (vs.getD 0 .nothing).wordOf
  if Term.oldStatements.contains word then .slip (.missingBrackets word) else .fail

def wrongTarget : Act := fun _ vs =>
  match vs.reverse.head? with
  | some (.term t) =>
    match t.misfit? with
    | some kind => .slip (.target kind)
    | none => .fail
  | _ => .fail

def bareGenerator : Act := fun _ vs =>
  if (vs.getD 0 .nothing).plainArguments ≤ 1 then .fail else .slip .bareGenerator

def plainArgumentSlip : Act := fun _ vs =>
  .slip (if (vs.getD 0 .nothing).unpacks then .plainAfterUnpacked else .plainAfterNamed)

open Rule in
/-- The choices of a rule; of a rule that grows, those that it begins with. -/
def choices : Rule → List Choice
  | .whole => [choice [expressions, .many (.token (· = .newline)), theEnd] (nth 0)]
  | .filling => [only starExpressions]
  | .expressions =>
    [choice [expression, .some (behind "," expression), commaMaybe] tupleOf,
      choice [expression, sign ","] tupleOf, only expression]
  | .expression =>
    [lapse expressionSlip, lapse statementSlip,
      choice [disjunction, word "if", disjunction, word "else", expression]
        (node "conditional expression"),
      only disjunction, only lambda]
  | .plainExpression =>
    [choice [disjunction, word "if", disjunction, word "else", expression]
        (node "conditional expression"),
      only disjunction, only lambda]
  | .yielded =>
    [choice [word "yield", word "from", expression] (node "yield expression"),
      choice [word "yield", .maybe starExpressions] (node "yield expression")]
  | .starExpressions =>
    [choice [starExpression, .some (behind "," starExpression), commaMaybe] tupleOf,
      choice [starExpression, sign ","] tupleOf, only starExpression]
  | .starExpression => [choice [sign "*", bitwiseOr] starredAct, only expression]
  | .starNamedExpressions => [choice [.between "," starNamedExpression, commaMaybe] (nth 0)]
  | .starNamedExpression => [choice [sign "*", bitwiseOr] starredAct, only namedExpression]
  | .assignment => [choice [anyName, sign ":=", .commit, expression] (node "named expression")]
  | .namedExpression =>
    [only assignment, lapse assignmentSlip, choice [expression, .notAhead (sign ":=")] (nth 0)]
  | .disjunction => joinedBy "or" conjunction
  | .conjunction => joinedBy "and" inversion
  | .inversion => [choice [word "not", inversion] operation, only comparison]
  | .comparison => [choice [bitwiseOr, .some compared] comparisonAct, only bitwiseOr]
  | .compared =>
    [comparing false [sign "=="], comparing false [oneOf [sign "!="]], comparing false [sign "<="],
      comparing false [sign "<"], comparing false [sign ">="], comparing false [sign ">"],
      comparing false [word "not", word "in"], comparing true [word "in"],
      comparing false [word "is", word "not"], comparing false [word "is"]]
  | .bitwiseOr => [only bitwiseXor]
  | .bitwiseXor => [only bitwiseAnd]
  | .bitwiseAnd => [only shift]
  | .shift => [only sum]
  | .sum => [only term]
  | .term => [only factor]
  | .factor =>
    [choice [sign "+", factor] signedAct, choice [sign "-", factor] signedAct,
      choice [sign "~", factor] operation, only power]
  | .power => [choice [awaited, sign "**", factor] operation, only awaited]
  | .awaited => [choice [word "await", primary] (node "await expression"), only primary]
  | .primary => [only atom]
  | .atom =>
    [choice [anyName] nameAct, choice [word "True"] (constantAct "True"),
      choice [word "False"] (constantAct "False"), choice [word "None"] (constantAct "None"),
      choice [.ahead anyQuoted, quoted] (nth 0), choice [anyNumber] numeralAct,
      choice [.ahead (sign "("), oneOf [tuple, group, generator]] (nth 0),
      choice [.ahead (sign "\x7b"), oneOf [map, set, mapComprehension, setComprehension]] (nth 0),
      choice [sign "..."] (constantAct "ellipsis")]
  | .group =>
    [choice [sign "(", oneOf [yielded, namedExpression], sign ")"] (nth 1), lapse groupSlip]
  | .tuple =>
    [choice [sign "(", .maybe (.group [([starNamedExpression, sign ",", .maybe starNamedExpressions],
      .all)]), sign ")"] tupleOf]
  | .set =>
    [choice [sign "\x7b", starNamedExpressions, sign "\x7d"]
      (give fun vs => .term (.collection (Value.many vs).terms))]
  | .map =>
    [choice [sign "\x7b", .maybe entries, sign "\x7d"]
        (give fun vs => .term (.map ((vs.getD 1 .nothing).items.flatMap Value.entryOf))),
      choice [sign "\x7b", entriesSlip, sign "\x7d"] (nth 1)]
  | .entries => [choice [.between "," entry, commaMaybe] (nth 0)]
  | .entry => [choice [sign "**", bitwiseOr] unpackedEntryAct, only pair]
  | .pair => [choice [expression, sign ":", expression] pairAct]
  | .quoted => [choice [.some anyQuoted] quotedAct]
  | .generator =>
    [choice [sign "(", unassigned, clauses, sign ")"] (node "generator expression"),
      lapse comprehensionSlip]
  | .setComprehension =>
    [choice [sign "\x7b", namedExpression, clauses, sign "\x7d"] (node "set comprehension"),
      lapse comprehensionSlip]
  | .mapComprehension =>
    [choice [sign "\x7b", pair, clauses, sign "\x7d"] (node "dict comprehension"),
      lapse mapComprehensionSlip]
  | .clauses => [only (.some clause)]
  | .clause =>
    let tail := [word "for", targets, word "in", .commit, disjunction,
      .many (.group [([word "if", disjunction], .nth 1)])]
    [choice (word "async" :: tail) partOf, choice tail partOf, lapse targetSlip]
  | .lambda => [choice [word "lambda", .maybe parameters, sign ":", expression] (node "lambda")]
  | .parameters => [lapse parametersSlip, only parameterList]
  | .parameterList =>
    [choice [slashPlain, .many plainParameter, .many defaultParameter, .maybe starParameters] partOf,
      choice [slashDefault, .many defaultParameter, .maybe starParameters] partOf,
      choice [.some plainParameter, .many defaultParameter, .maybe starParameters] partOf,
      choice [.some defaultParameter, .maybe starParameters] partOf, only starParameters]
  | .slashPlain => separated [.some plainParameter, sign "/"]
  | .slashDefault => separated [.many plainParameter, .some defaultParameter, sign "/"]
  | .starParameters =>
    [lapse starParametersSlip,
      choice [sign "*", plainParameter, .many anyParameter, .maybe doubleStarParameter] partOf,
      choice [sign "*", sign ",", .some anyParameter, .maybe doubleStarParameter] partOf,
      only doubleStarParameter]
  | .doubleStarParameter =>
    [lapse doubleStarParameterSlip, choice [sign "**", plainParameter] partOf]
  | .plainParameter => separated [parameter]
  | .defaultParameter => separated [parameter, defaultValue]
  | .anyParameter => separated [parameter, .maybe defaultValue]
  | .parameter => [choice [anyName] partOf]
  | .defaultValue => [choice [sign "=", expression] (nth 1), lapse defaultSlip]
  | .arguments =>
    [choice [argumentList, commaMaybe, .ahead (sign ")")] (nth 0), lapse argumentsSlip]
  | .argumentList =>
    [choice [.between "," (.group [([starredArgument], .nth 0),
        ([unassigned, .notAhead (sign "=")], .nth 0)]),
        .maybe (behind "," namedArguments)] argumentsAct,
      choice [namedArguments] argumentsAct]
  | .namedArguments =>
    [choice [.between "," namedOrStarred, sign ",", .between "," namedOrDoubleStarred]
        (give fun vs => .many (vs.flatMap Value.items)),
      only (.between "," namedOrStarred), only (.between "," namedOrDoubleStarred)]
  | .starredArgument => [choice [sign "*", expression] (argument .starred)]
  | .namedOrStarred =>
    [lapse namedArgumentSlip, choice [anyName, sign "=", expression] (argument .named),
      only starredArgument]
  | .namedOrDoubleStarred =>
    [lapse namedArgumentSlip, choice [anyName, sign "=", expression] (argument .named),
      choice [sign "**", expression] (argument .unpacked)]
  | .targets =>
    [choice [target, .notAhead (sign ",")] partOf,
      choice [target, .many (behind "," target), commaMaybe] partOf]
  | .target =>
    [choice [sign "*", .group [([.notAhead (sign "*"), target], .nth 0)]] partOf, only memberTarget]
  | .memberTarget =>
    [choice [targetPrimary, sign ".", anyName, .notAhead trailerAhead] partOf, only atomTarget]
  | .atomTarget =>
    [choice [anyName] partOf, choice [sign "(", memberTarget, sign ")"] partOf,
      choice [sign "(", .maybe tupleTarget, sign ")"] partOf]
  | .tupleTarget =>
    [choice [target, .some (behind "," target), commaMaybe] partOf,
      choice [target, sign ","] partOf]
  | .targetPrimary => [choice [atom, .ahead trailerAhead] partOf]
  | .trailerAhead => [only (sign "("), only (sign ".")]
  | .expressionSlip =>
    [choice [.notAhead (.group [([anyName, anyQuoted], .nth 0), ([softKeyword], .nth 0)]),
        disjunction, plainExpression] forgottenComma,
      choice [disjunction, word "if", disjunction, .notAhead (oneOf [word "else", sign ":"])]
        (slip .missingElse)]
  | .statementSlip => [choice [anyName, .notAhead (sign "("), starExpressions] missingBrackets]
  | .assignmentSlip =>
    [choice [expression, sign ":=", expression] (kindSlip 0 .assignedBy),
      choice [anyName, sign "=", bitwiseOr, .notAhead (oneOf [sign "=", sign ":="])]
        (slip .singleEquals),
      choice [.notAhead (oneOf [tuple, generator, word "True", word "None", word "False"]),
        bitwiseOr, sign "=", bitwiseOr, .notAhead (oneOf [sign "=", sign ":="])]
        (kindSlip 0 .assigned)]
  | .comprehensionSlip =>
    [choice [eitherOpening, starredArgument, clauses] (slip .starredComprehension),
      choice [oneOf [sign "\x7b"], starNamedExpression, sign ",", starNamedExpressions, clauses]
        (slip .looseTarget),
      choice [oneOf [sign "\x7b"], starNamedExpression, sign ",", clauses] (slip .looseTarget)]
  | .mapComprehensionSlip =>
    [choice [sign "\x7b", sign "**", bitwiseOr, clauses, sign "\x7d"] (slip .unpackedComprehension)]
  | .targetSlip => [choice [.maybe (word "async"), word "for", starExpressions] wrongTarget]
  | .groupSlip =>
    [choice [sign "(", starredArgument, sign ")"] (slip .starredGroup),
      choice [sign "(", sign "**", expression, sign ")"] (slip .doubleStarredGroup)]
  | .entriesSlip =>
    [choice [.between "," entry, sign ",", entrySlip] (nth 2),
      choice [expression, sign ":", sign "*", bitwiseOr] (slip .starredValue),
      choice [expression, sign ":", .ahead (oneOf [sign "\x7d", sign ","])] (slip .missingValue)]
  | .entrySlip =>
    [choice [expression, .notAhead (sign ":")] (slip .missingColon),
      choice [expression, sign ":", sign "*", bitwiseOr] (slip .starredValue),
      choice [expression, sign ":", .ahead (oneOf [sign "\x7d", sign ","])] (slip .missingValue)]
  | .parametersSlip =>
    let slashed := oneOf [slashPlain, slashDefault]
    [choice [.many plainParameter, defaultsSlip, plainParameter] (slip .plainParameter),
      choice [.many plainParameter, sign "(", .between "," parameter, commaMaybe, sign ")"]
        (slip .bracketedParameters),
      choice [sign "/", sign ","] (slip .nothingAheadOfSlash),
      choice [slashed, .many anyParameter, sign "/"] (slip .secondSlash),
      choice [.maybe slashed, .many anyParameter, sign "*", oneOf [sign ",", plainParameter],
        .many anyParameter, sign "/"] (slip .slashBehindStar),
      choice [.some anyParameter, sign "/", sign "*"] (slip .slashBesideStar)]
  | .defaultsSlip => [only slashDefault, only (.some defaultParameter)]
  | .starParametersSlip =>
    [choice [sign "*", .group [([sign ":"], .nth 0),
        ([sign ",", oneOf [sign ":", sign "**"]], .nth 0)]] (slip .bareStar),
      choice [sign "*", parameter, sign "="] (slip .starredDefault),
      choice [sign "*", oneOf [plainParameter, sign ","], .many anyParameter, sign "*",
        oneOf [plainParameter, sign ","]] (slip .secondStar)]
  | .doubleStarParameterSlip =>
    [choice [sign "**", parameter, sign "="] (slip .doubleStarredDefault),
      choice [sign "**", parameter, sign ",", parameter] (slip .behindDoubleStar),
      choice [sign "**", parameter, sign ",", oneOf [sign "*", sign "**", sign "/"]]
        (slip .behindDoubleStar)]
  | .defaultSlip =>
    [choice [sign "=", .ahead (oneOf [sign ")", sign ","])] (slip .missingDefault)]
  | .argumentsSlip =>
    [choice [argumentList, sign ",", sign "*"] (slip .unpackedAfterNamed),
      choice [expression, clauses, sign ",",
        .maybe (.group [([argumentList], .nth 0), ([expression, clauses], .nth 0)])]
        (slip .bareGenerator),
      choice [anyName, sign "=", expression, clauses] (slip .singleEquals),
      choice [argumentList, clauses] bareGenerator,
      choice [argumentList, sign ",", expression, clauses] (slip .bareGenerator),
      choice [argumentList, sign ",", argumentList] plainArgumentSlip]
  | .namedArgumentSlip =>
    [choice [oneOf [word "True", word "False", word "None"], sign "="] (wordSlip .target),
      choice [anyName, sign "=", expression, clauses] (slip .singleEquals),
      choice [.notAhead (.group [([anyName, sign "="], .nth 0)]), expression, sign "="]
        (slip .assignedArgument)]

/-- Rules whose terms grow to the right: what may follow such a term. -/
def growth : Rule → List Choice
  | .bitwiseOr => [choice [sign "|", Rule.bitwiseXor] operation]
  | .bitwiseXor => [choice [sign "^", Rule.bitwiseAnd] operation]
  | .bitwiseAnd => [choice [sign "&", Rule.shift] operation]
  | .shift =>
    [choice [sign "<<", Rule.sum] operation, choice [sign ">>", Rule.sum] operation]
  | .sum => [choice [sign "+", Rule.term] sumAct, choice [sign "-", Rule.term] sumAct]
  | .term =>
    ["*", "/", "//", "%", "@"].map fun s => choice [sign s, Rule.factor] operation
  | .primary =>
    [choice [sign ".", anyName] (node Term.memberKind), choice [Rule.generator] callAct,
      choice [sign "(", .maybe Rule.arguments, sign ")"] callAct]
  | .targetPrimary =>
    [choice [sign ".", anyName, .ahead Rule.trailerAhead] partOf,
      choice [Rule.generator, .ahead Rule.trailerAhead] partOf,
      choice [sign "(", .maybe Rule.arguments, sign ")", .ahead Rule.trailerAhead] partOf]
  | _ => []

/-- Rules whose findings are kept, so that they are looked for once at each place. -/
def isKept : Rule → Bool
  | .expression | .starExpression | .disjunction | .conjunction | .inversion | .factor | .awaited
  | .quoted | .arguments | .assignmentSlip | .target | .memberTarget | .bitwiseOr | .bitwiseXor
  | .bitwiseAnd | .shift | .sum | .term | .primary | .targetPrimary => true
  | _ => false

end ReviewDiff.Literal
