import PixelApplet.Pattern.Tree

/-!
# Searching

A pattern is turned into a program, and a program is run over a text.
-/

/-! ## Search programs

A pattern as a graph of steps.  The graph is built from the end backwards: every part is given the
step that follows it and yields the step at which it is entered.
-/

namespace PixelApplet.Pattern

/-- A step of a search; the numbers are those of the steps that follow. -/
inductive Step where
  /-- The pattern has matched. -/
  | accept
  | char (set : CharSet) (next : Nat)
  | look (look : Look) (next : Nat)
  /-- Remembers the place in a slot. -/
  | mark (slot next : Nat)
  /-- Goes on in several ways, the preferred one first. -/
  | fork (branches : List Nat)

/-- Steps in order of their numbers. -/
abbrev Steps := Array Step

/-- How a part is built in front of a step: the step at which it is entered, and all steps. -/
abbrev Builder := (next : Nat) → Steps → Nat × Steps

/-- Adds one step. -/
def addStep (step : Step) (steps : Steps) : Nat × Steps :=
  (steps.size, steps.push step)

/-- A way on into a part and a way past it; a greedy one prefers the part. -/
def Step.enterOrPass (greedy : Bool) (enter pass : Nat) : Step :=
  .fork (if greedy then [enter, pass] else [pass, enter])

/-- One or more passes through a part: behind it the way forks back to its start.  Gives the start
and the fork. -/
def buildLoop (part : Builder) (greedy : Bool) (next : Nat) (steps : Steps) : (Nat × Nat) × Steps :=
  let (fork, steps) := addStep (.fork []) steps
  let (start, steps) := part fork steps
  ((start, fork), steps.setIfInBounds fork (.enterOrPass greedy start next))

/-- A part several times in a row. -/
def buildCopies (part : Builder) : (copies : Nat) → Builder
  | 0, next, steps => (next, steps)
  | copies + 1, next, steps =>
    let (rest, steps) := buildCopies part copies next steps
    part rest steps

/-- A part up to several times in a row: each copy may be passed, and then all that follow are. -/
def buildOptional (part : Builder) (greedy : Bool) : (copies : Nat) → Builder
  | 0, next, steps => (next, steps)
  | copies + 1, next, steps =>
    let (rest, steps) := buildOptional part greedy copies next steps
    let (start, steps) := part rest steps
    addStep (.enterOrPass greedy start next) steps

/-- A repetition of a part; `canBeEmpty` says whether the part can match nothing. -/
def buildRepeated (part : Builder) (canBeEmpty : Bool) (least : Nat) (most : Option Nat)
    (greedy : Bool) : Builder := fun next steps =>
  match most with
  | some most =>
    let (rest, steps) := buildOptional part greedy (most - least) next steps
    buildCopies part least rest steps
  | none =>
    let ((start, fork), steps) := buildLoop part greedy next steps
    if least = 0 then
      if canBeEmpty then addStep (.enterOrPass greedy start next) steps else (fork, steps)
    else buildCopies part (least - 1) start steps

mutual

/-- The steps of a pattern in front of a step. -/
def build : Pattern → Builder
  | .empty, next, steps => (next, steps)
  | .char set, next, steps => addStep (.char set next) steps
  | .look condition, next, steps => addStep (.look condition next) steps
  | .group number part, next, steps =>
    let (stop, steps) := addStep (.mark (2 * number + 1) next) steps
    let (inside, steps) := build part stop steps
    addStep (.mark (2 * number) inside) steps
  | .sequence parts, next, steps => buildSequence parts next steps
  | .choice branches, next, steps =>
    let (starts, steps) := buildBranches branches next steps
    addStep (.fork starts) steps
  | .repeated part least most greedy, next, steps =>
    buildRepeated (build part) (part.shortest = 0) least most greedy next steps

/-- The steps of parts that follow each other. -/
def buildSequence : List Pattern → Builder
  | [], next, steps => (next, steps)
  | part :: rest, next, steps =>
    let (behind, steps) := buildSequence rest next steps
    build part behind steps

/-- The steps of branches, each in front of the same step. -/
def buildBranches : List Pattern → (next : Nat) → Steps → List Nat × Steps
  | [], _, steps => ([], steps)
  | branch :: rest, next, steps =>
    let (start, steps) := build branch next steps
    let (starts, steps) := buildBranches rest next steps
    (start :: starts, steps)

end

/-- A pattern ready for searching. -/
structure Program where
  steps : Steps
  start : Nat
  /-- Two slots for the whole match and for each group. -/
  slots : Nat

/-- The program of a pattern.  The whole match is its group 0. -/
def program (pattern : Pattern) : Program :=
  let whole := Pattern.group 0 pattern
  let (last, steps) := addStep .accept #[]
  let (start, steps) := build whole last steps
  ⟨steps, start, 2 * whole.groupLimit⟩

/-! ## Running programs

All ways through a program are followed at once, one character at a time, in the order of
preference. When a way reaches the end of the pattern, the ways behind it are given up; the others
go on, for their matches would be preferred.
-/

/-- The places remembered on a way; a slot that was not reached is empty. -/
abbrev Marks := Array (Option Nat)

/-- A way that waits at a step for the next character, or that has arrived. -/
structure Strand where
  step : Nat
  marks : Marks

/-- The ways at a place in order of preference, and the steps that were visited there. -/
structure Front where
  strands : Array Strand
  visited : Array Bool

namespace Program

/-- The front without ways. -/
def emptyFront (p : Program) : Front :=
  ⟨#[], Array.replicate p.steps.size false⟩

/-- The number of ways from a step to its followers. -/
def Step.fanOut : Step → Nat
  | .accept => 0
  | .fork branches => branches.length
  | _ => 1

/-- The number of ways between the steps. -/
def edges (p : Program) : Nat :=
  p.steps.foldl (fun total step => total + Step.fanOut step) 0

/-- Follows the steps that take no character from the pending ones on; every step is visited once,
so there are no more turns than ways between the steps. -/
def follow (p : Program) (place : Nat) (before after : Option Char) :
    (turns : Nat) → (pending : List Strand) → Front → Front
  | 0, _, front => front
  | _, [], front => front
  | turns + 1, strand :: pending, front =>
    if front.visited.getD strand.step true then follow p place before after turns pending front
    else
      let front := { front with visited := front.visited.setIfInBounds strand.step true }
      match p.steps[strand.step]? with
      | some (.fork branches) =>
        follow p place before after turns
          (branches.map (fun step => { strand with step := step }) ++ pending) front
      | some (.mark slot next) =>
        follow p place before after turns
          (⟨next, strand.marks.setIfInBounds slot (some place)⟩ :: pending) front
      | some (.look condition next) =>
        if condition.holds before after then
          follow p place before after turns ({ strand with step := next } :: pending) front
        else follow p place before after turns pending front
      | _ =>
        follow p place before after turns pending
          { front with strands := front.strands.push strand }

/-- Adds a way and everything that it leads to without a character. -/
def enter (p : Program) (place : Nat) (before after : Option Char) (strand : Strand)
    (front : Front) : Front :=
  p.follow place before after (p.edges + p.steps.size + 1) [strand] front

/-- The ways that accept a character, up to the first that has arrived: the steps that follow them,
and the places of the arrived one. -/
def advance (p : Program) (c : Option Char) : List Strand → List Strand × Option Marks
  | [] => ([], none)
  | strand :: rest =>
    match p.steps[strand.step]? with
    | some .accept => ([], some strand.marks)
    | some (.char set next) =>
      let (others, arrived) := p.advance c rest
      if c.any set.contains then (⟨next, strand.marks⟩ :: others, arrived) else (others, arrived)
    | _ => p.advance c rest

/-- One place of a search: from the ways that come there and the best match so far, the ways that go
on behind the next character and the best match now.  As long as there is none, a new way starts
here. -/
def visit (p : Program) (place : Nat) (before after : Option Char) (coming : List Strand)
    (best : Option Marks) : List Strand × Option Marks :=
  let front :=
    coming.foldl (fun front strand => p.enter place before after strand front) p.emptyFront
  let front :=
    if best.isSome then front
    else p.enter place before after ⟨p.start, Array.replicate p.slots none⟩ front
  let (next, arrived) := p.advance after front.strands.toList
  (next, arrived <|> best)

/-- Searches on from a place, given the ways that come there and the best match so far. -/
def searchFrom (p : Program) (place : Nat) (before : Option Char) (coming : List Strand)
    (best : Option Marks) : List Char → Option Marks
  | [] => (p.visit place before none coming best).2
  | c :: rest =>
    match p.visit place before (some c) coming best with
    | ([], some best) => some best
    | (next, best) => p.searchFrom (place + 1) (some c) next best rest

end Program

/-- A match: the places of the whole and of each group. -/
structure Found where
  start : Nat
  stop : Nat
  groups : List (Option (Nat × Nat))

/-- The pairs of places in the slots. -/
def pairsOf : List (Option Nat) → List (Option (Nat × Nat))
  | some start :: some stop :: rest => some (start, stop) :: pairsOf rest
  | _ :: _ :: rest => none :: pairsOf rest
  | _ => []

/-- The match that slots describe. -/
def Found.ofMarks (marks : Marks) : Option Found :=
  let groups := pairsOf marks.toList
  match groups with
  | some (start, stop) :: _ => some ⟨start, stop, groups⟩
  | _ => none

/-- The character before a place. -/
def charBefore (text : Array Char) (place : Nat) : Option Char :=
  if place = 0 then none else text[place - 1]?

/-- The first match at or behind a place. -/
def Program.first? (p : Program) (text : Array Char) (place : Nat) : Option Found :=
  if place > text.size then none
  else
    (p.searchFrom place (charBefore text place) [] none (text.toList.drop place)).bind Found.ofMarks

/-- Matches that do not overlap, from a place on; `behind` is the place where the match before
ended, and an empty match is not taken there. -/
def Program.matchesFrom (p : Program) (text : Array Char) :
    (turns place : Nat) → (behind : Option Nat) → List Found
  | 0, _, _ => []
  | turns + 1, place, behind =>
    match p.first? text place with
    | none => []
    | some found =>
      if found.start = found.stop ∧ behind = some found.stop then
        match p.first? text (place + 1) with
        | none => []
        | some found =>
          found :: p.matchesFrom text turns found.stop (some found.stop)
      else found :: p.matchesFrom text turns found.stop (some found.stop)

/-- All matches from left to right. -/
def Program.matches (p : Program) (text : Array Char) : List Found :=
  p.matchesFrom text (2 * text.size + 2) 0 none

/-- Whether a text has a match. -/
def Program.isFound (p : Program) (text : String) : Bool :=
  (p.first? text.toList.toArray 0).isSome

/-- The text between two places. -/
def between (text : Array Char) (start stop : Nat) : String :=
  String.ofList (text.extract start stop).toList

/-- The pieces of a text around matches, from a place on. -/
def piecesAround (text : Array Char) : (place : Nat) → List Found → List String
  | place, [] => [between text place text.size]
  | place, found :: rest => between text place found.start :: piecesAround text found.stop rest

/-- Puts the text that `filling` gives in the place of each match, from a place on. -/
def fillIn (text : Array Char) (filling : Found → String) : (place : Nat) → List Found → String
  | place, [] => between text place text.size
  | place, found :: rest =>
    between text place found.start ++ filling found ++ fillIn text filling found.stop rest

/-- The text of a group; empty if it is none or took no part in the match. -/
def Found.groupText (text : Array Char) (found : Found) (number : Nat) : String :=
  match found.groups[number]? with
  | some (some (start, stop)) => between text start stop
  | _ => ""

end PixelApplet.Pattern
