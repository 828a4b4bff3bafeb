import PixelApplet.Text.Character
import PixelApplet.Text.Table.BinaryProperty
import PixelApplet.Text.Table.CaseMapping
import PixelApplet.Text.Table.CharacterClass
import PixelApplet.Text.Table.GeneralCategory
import PixelApplet.Text.Table.Script

/-!
# Patterns

Regular expressions as trees, over sets of characters.
-/

/-! ## Sets of characters

The sets that a pattern names: single characters and ranges, the classes of digits, blanks and
words, the classes known by an ASCII name, and the properties of the Unicode standard.
-/

namespace PixelApplet.Pattern

/-- A set of characters; the weight says how many pieces it is made of. -/
structure CharSet where
  contains : Char → Bool
  weight : Nat

namespace CharSet

/-- The set without characters. -/
def empty : CharSet :=
  ⟨fun _ => false, 1⟩

/-- The set of one character. -/
def single (c : Char) : CharSet :=
  ⟨fun d => d == c, c.utf8Size⟩

/-- The characters from `low` to `high`. -/
def range (low high : Char) : CharSet :=
  ⟨fun c => low ≤ c && c ≤ high, high.utf8Size⟩

/-- The characters of a table. -/
def ofRanges (points : Text.CodePointRanges) : CharSet :=
  ⟨fun c => points.contains c.toNat, points.ranges.size⟩

/-- The characters in one of two sets. -/
def union (a b : CharSet) : CharSet :=
  ⟨fun c => a.contains c || b.contains c, a.weight + b.weight⟩

/-- The characters in both of two sets. -/
def intersection (a b : CharSet) : CharSet :=
  ⟨fun c => a.contains c && b.contains c, a.weight + b.weight⟩

/-- The characters in the first but not in the second of two sets. -/
def difference (a b : CharSet) : CharSet :=
  ⟨fun c => a.contains c && !b.contains c, a.weight + b.weight⟩

/-- The characters in exactly one of two sets. -/
def symmetricDifference (a b : CharSet) : CharSet :=
  ⟨fun c => a.contains c != b.contains c, a.weight + b.weight⟩

/-- The characters that are not in a set. -/
def complement (s : CharSet) : CharSet :=
  ⟨fun c => !s.contains c, s.weight + 4⟩

/-- The complement, if it is asked for. -/
def negatedIf (negated : Bool) (s : CharSet) : CharSet :=
  if negated then s.complement else s

/-- The characters that differ from one only in letter case. -/
def caseVariants (unicode : Bool) (c : Char) : List Char :=
  if unicode then (Text.Table.caseVariant.get? c.toNat).getD []
  else if Text.isAsciiLetter c then [c.toLower, c.toUpper]
  else []

/-- The characters that differ from one of a set at most in letter case. -/
def folded (unicode : Bool) (s : CharSet) : CharSet :=
  ⟨fun c => s.contains c || (caseVariants unicode c).any s.contains, 2 * s.weight⟩

/-- The characters of words: letters, marks, digits and connectors. -/
def isWord (unicode : Bool) (c : Char) : Bool :=
  if c.toNat < 128 then Text.isAsciiLetter c || Text.isDecimalDigit c || c == '_'
  else unicode && Text.Table.wordCharacter.contains c.toNat

/-- Decimal digits. -/
def digit (unicode : Bool) : CharSet :=
  ⟨fun c => Text.isDecimalDigit c || (unicode && Text.Table.decimalNumber.contains c.toNat),
    if unicode then 1 + Text.Table.decimalNumber.ranges.size else 1⟩

/-- White space of ASCII. -/
def isAsciiBlank (c : Char) : Bool :=
  (9 ≤ c.toNat && c.toNat ≤ 13) || c == ' '

/-- White space. -/
def blank (unicode : Bool) : CharSet :=
  ⟨fun c => if unicode then Text.isBlank c else isAsciiBlank c, if unicode then 10 else 2⟩

/-- Characters of words. -/
def word (unicode : Bool) : CharSet :=
  ⟨isWord unicode, if unicode then 4 + Text.Table.wordCharacter.ranges.size else 4⟩

/-- The character with a code point that is known to be one. -/
def between (low high : Nat) : CharSet :=
  range (Char.ofNat low) (Char.ofNat high)

/-- The set with an ASCII name. -/
def named? (name : String) : Option CharSet :=
  let upper := range 'A' 'Z'
  let lower := range 'a' 'z'
  let alpha := upper.union lower
  let digits := range '0' '9'
  if name = "alnum" then some (alpha.union digits)
  else if name = "alpha" then some alpha
  else if name = "ascii" then some (between 0 0x7F)
  else if name = "blank" then some ((single '\t').union (single ' '))
  else if name = "cntrl" then some ((between 0 0x1F).union (between 0x7F 0x7F))
  else if name = "digit" then some digits
  else if name = "graph" then some (range '!' '~')
  else if name = "lower" then some lower
  else if name = "print" then some (range ' ' '~')
  else if name = "punct" then
    some (((range '!' '/').union (range ':' '@')).union
      ((between 0x5B 0x60).union (between 0x7B 0x7E)))
  else if name = "space" then some ⟨isAsciiBlank, 2⟩
  else if name = "upper" then some upper
  else if name = "word" then some (word false)
  else if name = "xdigit" then some (digits.union ((range 'A' 'F').union (range 'a' 'f')))
  else none

/-- The name of a property without separators, letter case and the word `is` in front. -/
def looseName (name : List Char) : String :=
  let startsWithIs := match name with
    | i :: s :: _ => (i == 'i' || i == 'I') && (s == 's' || s == 'S')
    | _ => false
  let behind := if startsWithIs then name.drop 2 else name
  let kept := (behind.filter fun c =>
    c.toNat < 128 && !(isAsciiBlank c || c == '_' || c == '-')).map Char.toLower
  -- `isc` is a name as a whole, not the category `c`
  if startsWithIs && kept = ['c'] then "isc" else String.ofList kept

/-- The characters under a name of a table. -/
def inTable? (table : List (List String × Text.CodePointRanges)) (name : String) : Option CharSet :=
  (table.find? fun entry => entry.1.contains name).map fun entry => ofRanges entry.2

/-- The characters under several names of a table. -/
def inTableAll (table : List (List String × Text.CodePointRanges)) (names : List String) :
    CharSet :=
  (names.filterMap (inTable? table)).foldl union empty

/-- The general categories that a name of a group of them stands for. -/
def categoryGroup? (name : String) : Option (List String) :=
  if name = "l" ∨ name = "letter" then some ["lu", "ll", "lt", "lm", "lo"]
  else if name = "lc" ∨ name = "casedletter" then some ["lu", "ll", "lt"]
  else if name = "m" ∨ name = "mark" ∨ name = "combiningmark" then some ["mn", "mc", "me"]
  else if name = "n" ∨ name = "number" then some ["nd", "nl", "no"]
  else if name = "p" ∨ name = "punctuation" ∨ name = "punct" then
    some ["pc", "pd", "ps", "pe", "pi", "pf", "po"]
  else if name = "s" ∨ name = "symbol" then some ["sm", "sc", "sk", "so"]
  else if name = "z" ∨ name = "separator" then some ["zs", "zl", "zp"]
  else none

/-- The characters that belong to no category. -/
def unassigned : CharSet :=
  let table := Text.Table.generalCategory
  ⟨fun c => !table.any fun entry => entry.2.contains c.toNat, 700⟩

/-- The characters of a general category. -/
def category? (name : String) : Option CharSet :=
  let table := Text.Table.generalCategory
  if name = "any" then some (empty.complement)
  else if name = "assigned" then some unassigned.complement
  else if name = "ascii" then some (between 0 0x7F)
  else if name = "cn" ∨ name = "unassigned" then some unassigned
  else if name = "c" ∨ name = "other" then
    some ((inTableAll table ["cc", "cf", "co"]).union unassigned)
  else if name = "cs" ∨ name = "surrogate" then some empty
  else
    match categoryGroup? name with
    | some names => some (inTableAll table names)
    | none => inTable? table name

/-- The characters of a script. -/
def script? (name : String) : Option CharSet :=
  inTable? Text.Table.script name

/-- The characters that have a property, a general category or a script with a name. -/
def property? (name : List Char) : Option CharSet :=
  let name := looseName name
  -- three abbreviations are those of categories as well as of properties
  let binary :=
    if name = "cf" ∨ name = "sc" ∨ name = "lc" then none
    else inTable? Text.Table.binaryProperty name
  binary <|> category? name <|> script? name

/-- The characters for which a property has a value. -/
def propertyValue? (property value : List Char) : Option CharSet :=
  let property := looseName property
  let value := looseName value
  if property = "gc" ∨ property = "generalcategory" then category? value
  else if property = "sc" ∨ property = "script" then script? value
  else none

end CharSet

end PixelApplet.Pattern

/-! ## Trees

Everything that flags say about the letter case, lines and greed of a part is already expressed in
the tree.
-/

namespace PixelApplet.Pattern

/-- Which line ends count. -/
inductive LineEnds where
  | newline
  /-- A newline, a carriage return, or the two together. -/
  | either
  deriving DecidableEq

/-- A condition on a place between two characters. -/
inductive Look where
  | textStart
  | textStop
  | lineStart (ends : LineEnds)
  | lineStop (ends : LineEnds)
  /-- A word begins or ends here. -/
  | wordBoundary (unicode : Bool)
  | noWordBoundary (unicode : Bool)
  | wordStart (unicode : Bool)
  | wordStop (unicode : Bool)
  /-- No word goes on to the left. -/
  | wordStartHalf (unicode : Bool)
  /-- No word goes on to the right. -/
  | wordStopHalf (unicode : Bool)
  deriving DecidableEq

namespace Look

/-- Whether a character, if there is one, belongs to a word. -/
def inWord (unicode : Bool) (c : Option Char) : Bool :=
  c.any (CharSet.isWord unicode)

/-- Whether the condition holds between two characters; at an end of the text one is missing. -/
def holds (look : Look) (before after : Option Char) : Bool :=
  match look with
  | textStart => before.isNone
  | textStop => after.isNone
  | lineStart .newline => before.isNone || before == some '\n'
  | lineStart .either =>
    before.isNone || before == some '\n' || (before == some '\r' && after != some '\n')
  | lineStop .newline => after.isNone || after == some '\n'
  | lineStop .either =>
    after.isNone || after == some '\r' || (after == some '\n' && before != some '\r')
  | wordBoundary unicode => inWord unicode before != inWord unicode after
  | noWordBoundary unicode => inWord unicode before == inWord unicode after
  | wordStart unicode => !inWord unicode before && inWord unicode after
  | wordStop unicode => inWord unicode before && !inWord unicode after
  | wordStartHalf unicode => !inWord unicode before
  | wordStopHalf unicode => !inWord unicode after

end Look

end Pattern

/-- A regular expression. -/
inductive Pattern where
  | empty
  | char (set : Pattern.CharSet)
  | look (look : Pattern.Look)
  /-- A part whose match is remembered under a number. -/
  | group (number : Nat) (part : Pattern)
  | sequence (parts : List Pattern)
  /-- The first branch that leads to a match is taken. -/
  | choice (branches : List Pattern)
  /-- At least `least` and at most `most` repetitions; a greedy one takes as many as it can. -/
  | repeated (part : Pattern) (least : Nat) (most : Option Nat) (greedy : Bool)

instance : Inhabited Pattern :=
  ⟨.empty⟩

namespace Pattern

mutual

/-- The least number of characters that a match has. -/
def shortest : Pattern → Nat
  | empty => 0
  | char _ => 1
  | look _ => 0
  | group _ part => part.shortest
  | sequence parts => shortestSum parts
  | choice branches => shortestOf branches
  | repeated part least _ _ => part.shortest * least

/-- The sum of the least numbers of characters. -/
def shortestSum : List Pattern → Nat
  | [] => 0
  | part :: rest => part.shortest + shortestSum rest

/-- The least of the least numbers of characters. -/
def shortestOf : List Pattern → Nat
  | [] => 0
  | [branch] => branch.shortest
  | branch :: rest => min branch.shortest (shortestOf rest)

end

mutual

/-- Whether every match is empty. -/
def alwaysEmpty : Pattern → Bool
  | empty => true
  | char _ => false
  | look _ => true
  | group _ part => part.alwaysEmpty
  | sequence parts => allAlwaysEmpty parts
  | choice branches => allAlwaysEmpty branches
  | repeated part _ most _ => most == some 0 || part.alwaysEmpty

/-- Whether every match of every part is empty. -/
def allAlwaysEmpty : List Pattern → Bool
  | [] => true
  | part :: rest => part.alwaysEmpty && allAlwaysEmpty rest

end

/-- A repetition.  What is always empty need not be repeated, and no repetition at all is the empty
pattern, in which nothing can be remembered. -/
def repetition (part : Pattern) (least : Nat) (most : Option Nat) (greedy : Bool) : Pattern :=
  let (least, most) :=
    if part.alwaysEmpty then (min least 1, some (min (most.getD 1) 1)) else (least, most)
  if most = some 0 then empty
  else if least = 1 ∧ most = some 1 then part
  else repeated part least most greedy

mutual

/-- The size of a pattern when repetitions are written out. -/
def weight : Pattern → Nat
  | empty => 1
  | char set => set.weight
  | look _ => 1
  | group _ part => part.weight + 2
  | sequence parts => weightSum parts
  | choice branches => weightSum branches + 1
  | repeated part least most _ => part.weight * max 1 (most.getD least) + (most.getD least) + 2

/-- The sum of the sizes. -/
def weightSum : List Pattern → Nat
  | [] => 0
  | part :: rest => part.weight + weightSum rest

end

mutual

/-- The numbers above all group numbers of a pattern begin here. -/
def groupLimit : Pattern → Nat
  | group number part => max (number + 1) part.groupLimit
  | sequence parts | choice parts => groupLimitOf parts
  | repeated part _ _ _ => part.groupLimit
  | _ => 0

/-- The numbers above all group numbers of several patterns begin here. -/
def groupLimitOf : List Pattern → Nat
  | [] => 0
  | part :: rest => max part.groupLimit (groupLimitOf rest)

end

/-- The greatest size that a pattern may have. -/
def greatestWeight : Nat :=
  327680

end Pattern

end PixelApplet
