import Std.Data.HashMap
import ReviewDiff.Display.Literal.Grammar

/-!
# Reading by a grammar

A machine reads tokens by the rules of the grammar. What is still to be done stands on a stack of
frames. Choices are looked at in their order, and the machine goes back to where a choice began when
it does not fit. What rules whose findings are kept found at a place is looked up there later. Rules
stand in each other up to a limit.
-/

set_option autoImplicit false

namespace ReviewDiff.Literal

/-- What items with a sign between them wait for: an item, with the place where they end if there is
none, or a sign. -/
inductive Awaited where
  | item (stop : Nat)
  | sign
  deriving DecidableEq, Repr

/-- What is still to be done with a finding. Most frames know the level that they end at. -/
inductive Frame where
  /-- A list of items is being read. It began at `start`. The latest item counts if it is `heeded`.
  With `committed` no other choice is looked at. Findings come the latest first; `given` are those
  that it began with. -/
  | sequence (start level : Nat) (heeded committed : Bool) (given found : List Value)
    (rest : List Item) (act : Act) (others : List Choice)
  | keep (r : Rule) (start : Nat)
  | grow (r : Rule) (level start : Nat) (seed : Option Value) (stop : Nat)
  | repeated (item : Item) (least level : Nat) (found : List Value)
  | between (sign : String) (item : Item) (level : Nat) (awaited : Awaited) (found : List Value)
  | maybe (start : Nat)
  | look (wanted : Bool) (start : Nat)
  | seek (slips : Bool)

inductive Task where
  | read (item : Item)
  | choose (start level : Nat) (given : List Value) (choices : List Choice)
  | pass (finding : Option Value)

inductive Ending where
  | found (v : Option Value)
  | lexical (e : Fault)
  | slip (e : Fault)

structure Machine where
  task : Task
  frames : List Frame
  place : Nat
  seen : Nat
  level : Nat
  slips : Bool
  kept : Std.HashMap (Rule × Nat) (Option Value × Nat)

structure Ground where
  tokens : Array Placed
  /-- The term that quoted texts beside each other are, or a slip that is told. -/
  joinQuoted : List Placed → Except Fault Term
  tell : Fault → Fault

namespace Machine

def maxLevel : Nat := 6000

/-- A machine after a step, or how it ended and how many tokens it had looked at then. -/
abbrev Step := Except (Ending × Nat) Machine

def stop (m : Machine) (e : Ending) : Step := .error (e, m.seen)

def pass (m : Machine) (finding : Option Value) : Step := .ok { m with task := .pass finding }

def back (m : Machine) (place level : Nat) : Step :=
  .ok { m with task := .pass none, place := place, level := level }

def push (m : Machine) (f : Frame) (task : Task) : Step :=
  .ok { m with task := task, frames := f :: m.frames }

def descend (m : Machine) (count : Nat) (f : List Frame) (task : Task) : Step :=
  if maxLevel < m.level + count then m.stop (.slip .exhausted)
  else .ok { m with level := m.level + count, frames := f ++ m.frames, task := task }

def next? (g : Ground) (m : Machine) : Except Fault (Option Token) :=
  match g.tokens[m.place]? with
  | none => .ok none
  | some t =>
    match t.fault? with
    | some e => .error e
    | none => .ok (some t.token)

def looked (m : Machine) : Machine := { m with seen := max m.seen (m.place + 1) }

def readRule (m : Machine) (r : Rule) : Step :=
  let start := m.place
  let level := m.level
  if (growth r).isEmpty then m.descend 1 [] (.choose start level [] (choices r))
  else m.descend 2 [.grow r level start none start] (.choose start (level + 2) [] (choices r))

def enterRule (g : Ground) (m : Machine) (r : Rule) : Step :=
  if isKept r then
    if maxLevel ≤ m.level then m.stop (.slip .exhausted)
    else
      let next := m.next? g
      let m := m.looked
      match next with
      | .error e => m.stop (.lexical e)
      | .ok _ =>
        match m.kept[(r, m.place)]? with
        | some (finding, stop) => { m with place := stop }.pass finding
        | none => { m with frames := .keep r m.place :: m.frames }.readRule r
  else if r = .plainExpression then
    { m with frames := .seek m.slips :: m.frames, slips := false }.readRule r
  else m.readRule r

def choicesOf (group : List (List Item × Pick)) : List Choice :=
  group.map fun (items, pick) => ⟨items, give pick.of, false⟩

def readToken (g : Ground) (m : Machine) (fits : Token → Bool) : Step :=
  let next := m.next? g
  let m := m.looked
  match next with
  | .error e => m.stop (.lexical e)
  | .ok (some t) =>
    if fits t then
      let found := (g.tokens[m.place]?.map Value.token).getD .nothing
      { m with place := m.place + 1 }.pass (some found)
    else m.pass none
  | .ok none => m.pass none

def read (g : Ground) (m : Machine) : Item → Step
  | .token fits => m.readToken g fits
  | .rule r => m.enterRule g r
  | .group group => m.descend 1 [] (.choose m.place m.level [] (choicesOf group))
  | .maybe item => m.push (.maybe m.place) (.read item)
  | .many item => m.descend 1 [.repeated item 0 m.level []] (.read item)
  | .some item => m.descend 1 [.repeated item 1 m.level []] (.read item)
  | .between s item => m.descend 1 [.between s item m.level (.item m.place) []] (.read item)
  | .ahead item => m.push (.look true m.place) (.read item)
  | .notAhead item => m.push (.look false m.place) (.read item)
  | .commit => m.pass (some .nothing)

def isHeeded : Item → Bool
  | .ahead _ | .notAhead _ | .commit => false
  | _ => true

def proceed (g : Ground) (m : Machine) (start level : Nat) (committed : Bool)
    (given found : List Value) (act : Act) (others : List Choice) : List Item → Step
  | item :: rest =>
    let committed := committed || item matches .commit
    m.push (.sequence start level (isHeeded item) committed given found rest act others)
      (.read item)
  | [] =>
    let depth := (g.tokens[m.place - 1]?.map (·.depth)).getD 0
    match act ⟨depth, g.joinQuoted⟩ found.reverse with
    | .give v => { m with level := level }.pass (some v)
    | .fail => m.back start level
    | .slip e => m.stop (.slip (g.tell e))
    | .told e => m.stop (.slip e)

def choose (g : Ground) (m : Machine) (start level : Nat) (given : List Value) :
    List Choice → Step
  | [] => m.back start level
  | c :: others =>
    if c.forSlips && !m.slips then .ok { m with task := .choose start level given others }
    else { m with place := start }.proceed g start level false given given c.act others c.items

def resumeBetween (m : Machine) (s : String) (item : Item) (level : Nat) (found : List Value) :
    Awaited → Option Value → Step
  | .item _, some v =>
    if maxLevel < level + 2 then m.stop (.slip .exhausted)
    else
      { m with level := level + 2 }.push (.between s item level .sign (v :: found))
        (.read (sign s))
  | .sign, some _ => m.push (.between s item level (.item (m.place - 1)) found) (.read item)
  | awaited, none =>
    let stop := match awaited with
      | .item stop => stop
      | .sign => m.place
    if found.isEmpty then m.back stop level
    else { m with place := stop, level := level }.pass (some (.many found.reverse))

def resume (g : Ground) (m : Machine) (finding : Option Value) : Frame → Step
  | .sequence start level heeded committed given found rest act others =>
    match finding with
    | none =>
      if committed then m.back start level
      else .ok { m with task := .choose start level given others }
    | some v =>
      m.proceed g start level committed given (if heeded then v :: found else found) act others rest
  | .keep r start =>
    let place := m.place
    { m with kept := m.kept.insert (r, start) (finding, place) }.pass finding
  | .grow r level start seed stop =>
    match finding, seed with
    | none, none => m.back start level
    | none, some v => { m with place := stop, level := level }.pass (some v)
    | some v, _ =>
      m.push (.grow r level start (some v) m.place) (.choose m.place m.level [v] (growth r))
  | .repeated item least level found =>
    match finding with
    | some v => m.push (.repeated item least level (v :: found)) (.read item)
    | none =>
      let m := { m with level := level }
      if found.length < least then m.pass none else m.pass (some (.many found.reverse))
  | .between s item level awaited found => m.resumeBetween s item level found awaited finding
  | .maybe start =>
    match finding with
    | some v => m.pass (some v)
    | none => { m with place := start }.pass (some .nothing)
  | .look wanted start =>
    { m with place := start }.pass (if finding.isSome = wanted then some .nothing else none)
  | .seek slips => { m with slips := slips }.pass finding

def step (g : Ground) (m : Machine) : Step :=
  match m.task with
  | .read item => m.read g item
  | .choose start level given choices => m.choose g start level given choices
  | .pass finding =>
    match m.frames with
    | [] => m.stop (.found finding)
    | f :: frames => { m with frames := frames }.resume g finding f

/-- Works until it ends. -/
def run (g : Ground) : (fuel : Nat) → Machine → Ending × Nat
  | 0, m => (.slip .exhausted, m.seen)
  | fuel + 1, m =>
    match m.step g with
    | .ok m => run g fuel m
    | .error ending => ending

def maxSteps : Nat := 1000000000

/-- Reads by a rule from the first token on. -/
def start (g : Ground) (slips : Bool) (r : Rule) : Ending × Nat :=
  run g maxSteps ⟨.read (.rule r), [], 0, 0, 0, slips, ∅⟩

end Machine

end ReviewDiff.Literal
