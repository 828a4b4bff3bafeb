/-!
# Decoding bytes

Text read from files is UTF-8.  Strict decoding refuses malformed bytes; lenient decoding puts one
replacement character in the place of each maximal malformed piece.
-/

namespace PixelApplet.Text

/-- The replacement character. -/
def replacement : Char :=
  '\uFFFD'

/-- Whether a byte lies in a closed interval. -/
def byteIn (low high : Nat) (b : UInt8) : Bool :=
  low ≤ b.toNat && b.toNat ≤ high

/-- The low six bits of a continuation byte. -/
def tailBits (b : UInt8) : Nat :=
  b.toNat % 64

/-- The outcome of reading one character: the character, or the number of bytes that form the
malformed piece. -/
inductive Utf8Step where
  | char (c : Char) (width : Nat)
  | malformed (width : Nat)

/-- The bounds of the second byte that follow a lead byte of a sequence of three. -/
def secondOfThree (lead : Nat) : Nat × Nat :=
  if lead = 0xE0 then (0xA0, 0xBF) else if lead = 0xED then (0x80, 0x9F) else (0x80, 0xBF)

/-- The bounds of the second byte that follow a lead byte of a sequence of four. -/
def secondOfFour (lead : Nat) : Nat × Nat :=
  if lead = 0xF0 then (0x90, 0xBF) else if lead = 0xF4 then (0x80, 0x8F) else (0x80, 0xBF)

/-- Reads one character from the front of some bytes that begin with `first`. -/
def utf8Step (first : UInt8) (rest : List UInt8) : Utf8Step :=
  let lead := first.toNat
  if lead < 0x80 then .char (Char.ofNat lead) 1
  else if 0xC2 ≤ lead ∧ lead ≤ 0xDF then
    match rest with
    | b :: _ =>
      if byteIn 0x80 0xBF b then .char (Char.ofNat ((lead - 0xC0) * 64 + tailBits b)) 2
      else .malformed 1
    | [] => .malformed 1
  else if 0xE0 ≤ lead ∧ lead ≤ 0xEF then
    let (low, high) := secondOfThree lead
    match rest with
    | b :: more =>
      if byteIn low high b then
        match more with
        | c :: _ =>
          if byteIn 0x80 0xBF c then
            .char (Char.ofNat (((lead - 0xE0) * 64 + tailBits b) * 64 + tailBits c)) 3
          else .malformed 2
        | [] => .malformed 2
      else .malformed 1
    | [] => .malformed 1
  else if 0xF0 ≤ lead ∧ lead ≤ 0xF4 then
    let (low, high) := secondOfFour lead
    match rest with
    | b :: more =>
      if byteIn low high b then
        match more with
        | c :: last =>
          if byteIn 0x80 0xBF c then
            match last with
            | d :: _ =>
              if byteIn 0x80 0xBF d then
                .char (Char.ofNat
                  ((((lead - 0xF0) * 64 + tailBits b) * 64 + tailBits c) * 64 + tailBits d)) 4
              else .malformed 3
            | [] => .malformed 3
          else .malformed 2
        | [] => .malformed 2
      else .malformed 1
    | [] => .malformed 1
  else .malformed 1

/-- Decodes bytes from the front, one replacement character for each malformed piece. -/
def decodeFrom : (steps : Nat) → List UInt8 → List Char
  | _, [] => []
  | 0, _ :: _ => []
  | steps + 1, b :: rest =>
    match utf8Step b rest with
    | .char c width => c :: decodeFrom steps (rest.drop (width - 1))
    | .malformed width => replacement :: decodeFrom steps (rest.drop (width - 1))

/-- The text that bytes encode, or nothing when they are malformed. -/
def decodeStrict? (bytes : ByteArray) : Option String :=
  String.fromUTF8? bytes

/-- The text that bytes encode, malformed pieces replaced. -/
def decodeLenient (bytes : ByteArray) : String :=
  match String.fromUTF8? bytes with
  | some s => s
  | none => String.ofList (decodeFrom bytes.size bytes.toList)

end PixelApplet.Text
