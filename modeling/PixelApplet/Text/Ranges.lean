/-!
# Sets and maps of code points

Character properties are published as long lists of code points.  This module holds the two shapes
in which the tables of this library keep them: sorted ranges for a property, and sorted pairs for a
mapping. Both are written as text in hexadecimal and searched by halving.
-/

namespace PixelApplet.Text

/-- The value of one hexadecimal digit. -/
def hexDigitValue? (c : Char) : Option Nat :=
  if '0' ≤ c ∧ c ≤ '9' then some (c.toNat - '0'.toNat)
  else if 'a' ≤ c ∧ c ≤ 'f' then some (c.toNat - 'a'.toNat + 10)
  else if 'A' ≤ c ∧ c ≤ 'F' then some (c.toNat - 'A'.toNat + 10)
  else none

/-- The number written by hexadecimal digits; other characters are passed over. -/
def hexValue (digits : List Char) : Nat :=
  digits.foldl (fun total c => match hexDigitValue? c with
    | some d => total * 16 + d
    | none => total) 0

/-- The pieces of a character list between occurrences of a separator. -/
def pieces (separator : Char) : List Char → List (List Char)
  | [] => [[]]
  | c :: rest =>
    match pieces separator rest with
    | [] => [[c]]
    | first :: others => if c = separator then [] :: first :: others else (c :: first) :: others

/-- A set of code points: ascending, disjoint ranges, both ends included. -/
structure CodePointRanges where
  ranges : Array (Nat × Nat)

namespace CodePointRanges

/-- Ranges written as `41-5A`, single points as `B5`, separated by spaces within each line. -/
def ofLines (lines : List String) : CodePointRanges :=
  ⟨((lines.flatMap fun line => pieces ' ' line.toList).map fun item =>
    match pieces '-' item with
    | [low, high] => (hexValue low, hexValue high)
    | _ => (hexValue item, hexValue item)).toArray⟩

/-- Whether the point lies in one of the ranges with index at least `low` and below `low + width`.
-/
def search (set : CodePointRanges) (point : Nat) : (steps low width : Nat) → Bool
  | 0, _, _ => false
  | steps + 1, low, width =>
    if width = 0 then false
    else
      let middle := low + width / 2
      match set.ranges[middle]? with
      | none => false
      | some (first, last) =>
        if point < first then search set point steps low (width / 2)
        else if last < point then search set point steps (middle + 1) (width - width / 2 - 1)
        else true

/-- Membership, decided by halving. -/
def contains (set : CodePointRanges) (point : Nat) : Bool :=
  set.search point (set.ranges.size + 1) 0 set.ranges.size

end CodePointRanges

/-- A map from some code points to short lists of characters, ascending by code point. -/
structure CodePointMap where
  entries : Array (Nat × List Char)

namespace CodePointMap

/-- Entries written as `DF=53+53`, separated by spaces within each line. -/
def ofLines (lines : List String) : CodePointMap :=
  ⟨((lines.flatMap fun line => pieces ' ' line.toList).map fun item =>
    match pieces '=' item with
    | [source, image] => (hexValue source, (pieces '+' image).map fun p => Char.ofNat (hexValue p))
    | _ => (0, [])).toArray⟩

/-- The image of the point among the entries with index at least `low` and below `low + width`. -/
def search (map : CodePointMap) (point : Nat) : (steps low width : Nat) → Option (List Char)
  | 0, _, _ => none
  | steps + 1, low, width =>
    if width = 0 then none
    else
      let middle := low + width / 2
      match map.entries[middle]? with
      | none => none
      | some (source, image) =>
        if point < source then search map point steps low (width / 2)
        else if source < point then search map point steps (middle + 1) (width - width / 2 - 1)
        else some image

/-- The image of a code point that the map changes. -/
def get? (map : CodePointMap) (point : Nat) : Option (List Char) :=
  map.search point (map.entries.size + 1) 0 map.entries.size

end CodePointMap

end PixelApplet.Text
