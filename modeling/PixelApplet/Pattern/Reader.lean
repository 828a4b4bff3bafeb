import PixelApplet.Pattern.Source

/-!
# Reading patterns

The grammar of patterns: bracketed classes, branches, repetitions, groups and flags.
-/

/-! ## Bracketed classes

Classes of characters in brackets: characters, ranges, named classes and nested classes, and the
operations on them, which all bind alike and from the left.
-/

namespace PixelApplet.Pattern

open Reading

/-- A set that was read, and how deep its brackets and operations are nested. -/
structure SetPart where
  set : CharSet
  depth : Nat

/-- The set that several items make up. -/
def SetPart.ofItems : List SetPart → SetPart
  | [] => ⟨.empty, 0⟩
  | [item] => item
  | items =>
    ⟨items.foldl (fun all item => all.union item.set) .empty,
      items.foldl (fun deepest item => max deepest item.depth) 0 + 1⟩

/-- An operation on two sets. -/
abbrev SetOperation := CharSet → CharSet → CharSet

/-- The first operand of an operation whose second is being read. -/
abbrev PendingSet := Option (SetPart × SetOperation)

/-- Carries out the pending operation. -/
def SetPart.after (pending : PendingSet) (part : SetPart) : Reading SetPart := do
  match pending with
  | none => return part
  | some (left, operation) => do
    let flags ← flags
    let fold (s : CharSet) := if flags.ignoreCase then s.folded flags.unicode else s
    return ⟨operation (fold left.set) (fold part.set), max left.depth part.depth + 1⟩

/-- The set with one character.  Without Unicode it must be one of ASCII. -/
def literalSet (low high : Char) : Reading CharSet := do
  if !(← flags).unicode && high.toNat > 127 then refuse .notText
  else return .range low high

/-- An item of a class before it is known whether a range follows. -/
def readSetItem : Reading Escaped := do
  match ← next? with
  | none => refuse .unclosedClass
  | some '\\' => readEscape
  | some c => do
    skip 1
    return .char c false

/-- A character as an end of a range. -/
def rangeEnd : Escaped → Reading Char
  | .char c _ => pure c
  | _ => refuse .badRange

/-- An item or a range of a class. -/
def readRange : Reading SetPart := do
  let first ← readSetItem
  skipBlanks
  let next ← next?
  if next.isNone then refuse .unclosedClass
  let behind ← peekBehind
  if next ≠ some '-' ∨ behind = some ']' ∨ behind = some '-' then
    match first with
    | .char c _ => return ⟨← literalSet c c, 0⟩
    | .set set => return ⟨set, 0⟩
    | .look _ => refuse .badClassItem
  else
    skipWithBlanks
    let second ← readSetItem
    let low ← rangeEnd first
    let high ← rangeEnd second
    if high < low then refuse .badRange
    else return ⟨← literalSet low high, 0⟩

/-- A class with an ASCII name, such as `[:alpha:]`, and the text behind it. -/
def asciiClass? (text : List Char) : Option (CharSet × Bool × List Char) :=
  match text with
  | '[' :: ':' :: rest =>
    let negated := rest.head? = some '^'
    let rest := if negated then rest.drop 1 else rest
    match Text.dropStart? [':', ']'] (rest.dropWhile (· ≠ ':')) with
    | some behind =>
      (CharSet.named? (String.ofList (rest.takeWhile (· ≠ ':')))).map fun set =>
        (set, negated, behind)
    | none => none
  | _ => none

/-- Hyphens at the beginning of a class stand for themselves. -/
def readHyphens : (turns : Nat) → (items : List SetPart) → Reading (List SetPart)
  | 0, items => pure items
  | turns + 1, items => do
    if (← next?) = some '-' then
      skipWithBlanks
      readHyphens turns (⟨.single '-', 0⟩ :: items)
    else return items

mutual

/-- A class from its opening bracket on to behind its closing one. -/
def readClass : (turns : Nat) → Reading SetPart
  | 0 => refuse .unclosedClass
  | turns + 1 => do
    skipWithBlanks
    let negated := (← next?) = some '^'
    if negated then skipWithBlanks
    let items ← readHyphens (← Reading.turns) []
    let items ←
      if items.isEmpty ∧ (← next?) = some ']' then do
        skipWithBlanks
        pure [⟨.single ']', 0⟩]
      else pure items
    let part ← readItemsOfClass turns none items
    skip 1
    return ⟨← adjust part.set negated, part.depth + 1⟩

/-- The items of a class from here on, up to its closing bracket. -/
def readItemsOfClass : (turns : Nat) → PendingSet → List SetPart → Reading SetPart
  | 0, _, _ => refuse .unclosedClass
  | turns + 1, pending, items => do
    skipBlanks
    let operation (operation : SetOperation) : Reading SetPart := do
      skip 2
      let left ← (SetPart.ofItems items).after pending
      readItemsOfClass turns (some (left, operation)) []
    match ← rest with
    | [] => refuse .unclosedClass
    | ']' :: _ => (SetPart.ofItems items).after pending
    | '&' :: '&' :: _ => operation .intersection
    | '-' :: '-' :: _ => operation .difference
    | '~' :: '~' :: _ => operation .symmetricDifference
    | '[' :: inside =>
      match asciiClass? ('[' :: inside) with
      | some (set, negated, behind) => do
        modify fun s => { s with rest := behind }
        readItemsOfClass turns pending (⟨← adjust set negated, 0⟩ :: items)
      | none => do
        let part ← readClass turns
        readItemsOfClass turns pending (part :: items)
    | _ => do
      let part ← readRange
      readItemsOfClass turns pending (part :: items)

end

/-! ## Patterns -/

/-- The deepest nesting of a pattern. -/
def deepestNesting : Nat :=
  250

/-- A part of a pattern, and how deep it is nested. -/
structure Part where
  pattern : Pattern
  depth : Nat
  /-- Whether the part only sets flags. -/
  setsFlags : Bool

/-- A part without inner parts. -/
def Part.leaf (pattern : Pattern) : Part :=
  ⟨pattern, 0, false⟩

/-- The greatest depth among parts. -/
def deepest (parts : List Part) : Nat :=
  parts.foldl (fun deepest part => max deepest part.depth) 0

/-- Parts that follow each other, last first. -/
def Part.ofSequence : List Part → Part
  | [] => .leaf .empty
  | [part] => part
  | parts => ⟨.sequence (parts.reverse.map Part.pattern), deepest parts + 1, false⟩

/-- Branches, last first. -/
def Part.ofBranches : List Part → Part
  | [] => .leaf .empty
  | [part] => part
  | parts => ⟨.choice (parts.reverse.map Part.pattern), deepest parts + 1, false⟩

/-- One character in the letter case that the flags ask for. -/
def charPart (c : Char) : Reading Part := do
  return .leaf (.char (← adjust (.single c) false))

/-- The characters that a dot stands for. -/
def dotPart : Reading Part := do
  let flags ← flags
  if !flags.unicode then refuse .notText
  else if flags.dotAll then return .leaf (.char CharSet.empty.complement)
  else if flags.carriageReturn then
    return .leaf (.char ((CharSet.single '\n').union (.single '\r')).complement)
  else return .leaf (.char (CharSet.single '\n').complement)

/-- The line ends that count under the flags. -/
def Flags.lineEnds (flags : Flags) : LineEnds :=
  if flags.carriageReturn then .either else .newline

/-- A part that begins with no special character but a dot, a caret, a dollar sign or a backslash.
-/
def readSimple (c : Char) : Reading Part := do
  if c = '\\' then
    match ← readEscape with
    | .set set => return .leaf (.char set)
    | .look condition => return .leaf (.look condition)
    | .char c asByte =>
      if asByte && !(← flags).unicode && c.toNat > 127 then refuse .notText
      else charPart c
  else
    skip 1
    let flags ← flags
    if c = '.' then dotPart
    else if c = '^' then
      return .leaf (.look (if flags.multiLine then .lineStart flags.lineEnds else .textStart))
    else if c = '$' then
      return .leaf (.look (if flags.multiLine then .lineStop flags.lineEnds else .textStop))
    else charPart c

/-- A part repeated as an operator says; a question mark behind the operator turns its greed around.
-/
def repeatPart (part : Part) (least : Nat) (most : Option Nat) : Reading Part := do
  let reluctant := (← next?) = some '?'
  if reluctant then skip 1
  let greedy := reluctant == (← flags).swapGreed
  return ⟨repetition part.pattern least most greedy, part.depth + 1, false⟩

/-- The part in front of a repetition operator, and the parts before it. -/
def operand : List Part → Reading (Part × List Part)
  | part :: before => if part.setsFlags then refuse .missingOperand else pure (part, before)
  | [] => refuse .missingOperand

/-- The bounds of a counted repetition, from its brace on. -/
def readBounds : Reading (Nat × Option Nat) := do
  skipWithBlanks
  let least ← readCount
  match ← next? with
  | some ',' => do
    skipWithBlanks
    match least, ← next? with
    | some least, some '\x7d' => return (least, none)
    | some least, some _ =>
      match ← readCount with
      | some most => if most < least then refuse .badCount else return (least, some most)
      | none => refuse .badCount
    | _, _ => refuse .badCount
  | _ =>
    match least with
    | some least => return (least, some least)
    | none => refuse .badCount

/-- The flags with one of them set or cleared. -/
def Flags.put? (flags : Flags) (letter : Char) (on : Bool) : Option Flags :=
  if letter = 'i' then some { flags with ignoreCase := on }
  else if letter = 'm' then some { flags with multiLine := on }
  else if letter = 's' then some { flags with dotAll := on }
  else if letter = 'U' then some { flags with swapGreed := on }
  else if letter = 'u' then some { flags with unicode := on }
  else if letter = 'R' then some { flags with carriageReturn := on }
  else if letter = 'x' then some { flags with extended := on }
  else none

/-- The flags that letters ask for: those behind a hyphen are cleared, and none may be named twice.
-/
def readFlags (seen : List Char) : List Char → Flags → Except Fault Flags
  | [], flags => if seen.head? = some '-' then .error .badFlag else .ok flags
  | c :: rest, flags =>
    if seen.contains c then .error .badFlag
    else if c = '-' then readFlags (c :: seen) rest flags
    else
      match flags.put? c (!seen.contains '-') with
      | some flags => readFlags (c :: seen) rest flags
      | none => .error .badFlag

/-- Whether a character may stand in the name of a group. -/
def isNameChar (isFirst : Bool) (c : Char) : Bool :=
  c == '_' || Text.isAlphabetic c
    || (!isFirst && (Text.isNumeric c || c == '.' || c == '[' || c == ']'))

/-- The name of a group and the text behind its closing bracket. -/
def groupName? (text : List Char) : Option (List Char × List Char) :=
  match text.takeWhile (· ≠ '>'), text.dropWhile (· ≠ '>') with
  | first :: more, _ :: behind =>
    if isNameChar true first && more.all (isNameChar false) then some (first :: more, behind)
    else none
  | _, _ => none

/-- What a group does, read from behind its parenthesis. -/
inductive GroupKind where
  | remembered (number : Nat)
  | plain (flags : Flags)
  /-- There is no group: flags change from here on. -/
  | flags (flags : Flags)

/-- The next group number. -/
def newGroup : Reading Nat := do
  modify fun s => { s with groups := s.groups + 1 }
  return (← get).groups

/-- Reads the beginning of a group. -/
def readGroupKind : Reading GroupKind := do
  skipWithBlanks
  match ← rest with
  | '?' :: '=' :: _ | '?' :: '!' :: _ | '?' :: '<' :: '=' :: _ | '?' :: '<' :: '!' :: _ =>
    refuse .lookAround
  | '?' :: 'P' :: '<' :: text | '?' :: '<' :: text =>
    match groupName? text with
    | none => refuse .badGroupName
    | some (name, behind) => do
      let name := String.ofList name
      if (← get).names.any fun entry => entry.1 = name then refuse .badGroupName
      let number ← newGroup
      modify fun s => { s with rest := behind, names := (name, number) :: s.names }
      return .remembered number
  | '?' :: text => do
    let isEnd (c : Char) := c == ':' || c == ')'
    let letters := text.takeWhile (!isEnd ·)
    let flags ← liftM (readFlags [] letters (← flags))
    modify fun s => { s with rest := text.dropWhile (!isEnd ·) }
    match ← next? with
    | none => refuse .badFlag
    | some ')' =>
      if letters.isEmpty then refuse .missingOperand
      else
        skip 1
        return .flags flags
    | some _ => do
      skip 1
      return .plain flags
  | _ => return .remembered (← newGroup)

mutual

/-- The parts from here on to the end of the group or the text; `branches` and `items` hold what was
read of it, last first. -/
def readParts : (turns : Nat) → (branches items : List Part) → Reading Part
  | 0, _, _ => refuse .nestedTooDeep
  | turns + 1, branches, items => do
    skipBlanks
    match ← next? with
    | none | some ')' => return .ofBranches (.ofSequence items :: branches)
    | some '|' => do
      skip 1
      readParts turns (.ofSequence items :: branches) []
    | some '(' => do
      let part ← readGroup turns
      readParts turns branches (part :: items)
    | some '[' => do
      let part ← readClass (2 * (← Reading.turns))
      readParts turns branches (⟨.char part.set, part.depth, false⟩ :: items)
    | some '\x7b' => do
      let (part, before) ← operand items
      let (least, most) ← readBounds
      if (← next?) ≠ some '\x7d' then refuse .badCount
      skipWithBlanks
      readParts turns branches ((← repeatPart part least most) :: before)
    | some c =>
      if c = '?' ∨ c = '*' ∨ c = '+' then do
        let (part, before) ← operand items
        skip 1
        let least := if c = '+' then 1 else 0
        let most := if c = '?' then some 1 else none
        readParts turns branches ((← repeatPart part least most) :: before)
      else do
        let part ← readSimple c
        readParts turns branches (part :: items)

/-- A group from its opening parenthesis on, or a change of flags. -/
def readGroup : (turns : Nat) → Reading Part
  | 0 => refuse .nestedTooDeep
  | turns + 1 => do
    let outside ← flags
    match ← readGroupKind with
    | .flags inside => do
      modify fun s => { s with flags := inside }
      return ⟨.empty, 0, true⟩
    | .plain inside => do
      modify fun s => { s with flags := inside }
      let part ← readParts turns [] []
      if (← next?).isNone then refuse .unclosedGroup
      skip 1
      modify fun s => { s with flags := outside }
      return ⟨part.pattern, part.depth + 1, false⟩
    | .remembered number => do
      let part ← readParts turns [] []
      if (← next?).isNone then refuse .unclosedGroup
      skip 1
      modify fun s => { s with flags := outside }
      return ⟨.group number part.pattern, part.depth + 1, false⟩

end


/-- Reads a pattern. -/
def ofText (text : String) : Except Fault (Pattern × List (String × Nat)) := do
  let chars := text.toList
  let (part, source) ← (readParts (2 * chars.length + 2) [] []).run ⟨chars, .initial, 0, []⟩
  if ¬ source.rest.isEmpty then .error .unopenedGroup
  else if part.depth > deepestNesting then .error .nestedTooDeep
  else if part.pattern.weight > greatestWeight then .error .tooLarge
  else return (part.pattern, source.names)

end PixelApplet.Pattern
