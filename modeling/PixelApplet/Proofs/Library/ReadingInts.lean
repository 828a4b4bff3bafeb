import PixelApplet.Evaluation.Call
import PixelApplet.Proofs.Number.Numerals
import PixelApplet.Proofs.Text.Splitting
import PixelApplet.Proofs.Value.IntegerArithmetic

/-!
# Reading ints

An int is read from a text exactly if, between blank characters, the text is a sign, the mark of a
radix where the base allows one, and a numeral of this radix, and the value with the sign is a word
other than the least one: the magnitude is made a word before the sign is put to it.

Only the lower half of a base counts.  A base that is a natural number below 2³² is therefore taken
as it stands, and any other one is taken for its remainder.
-/

namespace PixelApplet

namespace Universe

open Numeral (IsDigit IsNumeral StandsFor)

variable {text : String} {base : Option Int64} {lower : Int64 → Int} {i b : Int64} {c : Char}
  {digits rest sign mark before behind : List Char} {negative : Bool} {radix n d : Nat}

/-! ## Written ints -/

/-- The sign of an int, and whether it is a minus. -/
inductive IsSign : List Char → Bool → Prop where
  | absent : IsSign [] false
  | plus : IsSign ['+'] false
  | minus : IsSign ['-'] true

/-- A base lets the digits of a radix stand behind a mark.  Without a base they are decimal ones
unless they are marked as hexadecimal; the base 0 knows the octal and the binary mark, too; and any
other base, by what counts of it, is a radix itself. -/
inductive Admits (lower : Int64 → Int) : Option Int64 → List Char → Nat → Prop where
  | decimal {base : Option Int64} (free : base = none ∨ base = some 0) : Admits lower base [] 10
  | hexadecimal {base : Option Int64} {x : Char} (marks : x = 'x' ∨ x = 'X')
    (free : base = none ∨ base = some 0 ∨ base = some 16) : Admits lower base ['0', x] 16
  | octal {o : Char} (marks : o = 'o' ∨ o = 'O') : Admits lower (some 0) ['0', o] 8
  | binary {b : Char} (marks : b = 'b' ∨ b = 'B') : Admits lower (some 0) ['0', b] 2
  | given {base : Int64} {radix : Nat} (same : lower base = radix) (least : 2 ≤ radix)
    (most : radix ≤ 36) : Admits lower (some base) [] radix

/-- A text writes an integer: between blank characters, a sign, a mark and a numeral. -/
inductive Writes (lower : Int64 → Int) (base : Option Int64) : List Char → Int → Prop where
  | int {before sign mark digits behind : List Char} {negative : Bool} {radix n : Nat}
    (blankBefore : ∀ c ∈ before, Text.isBlank c) (signed : IsSign sign negative)
    (admits : Admits lower base mark radix) (numeral : IsNumeral radix digits n)
    (blankBehind : ∀ c ∈ behind, Text.isBlank c) :
    Writes lower base (before ++ (sign ++ (mark ++ digits)) ++ behind) (if negative then -n else n)

/-- The lower half of a base, as a natural number. -/
def lowerHalf (base : Int64) : Int :=
  base.toInt % 4294967296

theorem lowerHalf_eq : lowerHalf b = (b.toUInt64.toNat % Nat.pow 2 32 : Nat) := by
  have same : b.toInt = if 2 * b.toUInt64.toNat < 2 ^ 64 then (b.toUInt64.toNat : Int)
      else b.toUInt64.toNat - (2 ^ 64 : Nat) := BitVec.toInt_eq_toNat_cond b.toBitVec
  have half : Nat.pow 2 32 = 4294967296 := rfl
  rw [lowerHalf, same, half]
  split <;> omega

namespace Admits

theorem bounds (admits : Admits lower base mark radix) : 2 ≤ radix ∧ radix ≤ 36 := by
  cases admits with
  | given _ least most => exact ⟨least, most⟩
  | _ => decide

theorem base_of (admits : Admits Int64.toInt base mark radix) :
    base = none ∨ base = some 0 ∨ ∃ b : Int64, base = some b ∧ 2 ≤ b.toInt ∧ b.toInt ≤ 36 := by
  cases admits with
  | decimal free => exact free.imp_right .inl
  | hexadecimal _ free => exact free.imp_right (Or.imp_right fun is => ⟨16, is, by decide⟩)
  | octal | binary => exact .inr (.inl rfl)
  | @given b _ same least most => exact .inr (.inr ⟨b, rfl, by omega, by omega⟩)

theorem congr {other : Int64 → Int} (same : ∀ b ∈ base, lower b = other b)
    (admits : Admits lower base mark radix) : Admits other base mark radix := by
  cases admits with
  | decimal free => exact .decimal free
  | hexadecimal marks free => exact .hexadecimal marks free
  | octal marks => exact .octal marks
  | binary marks => exact .binary marks
  | given is least most => exact .given ((same _ rfl).symm.trans is) least most

end Admits

/-! ## Characters -/

/-- A character is neither blank nor a sign. -/
def isPlain (c : Char) : Bool :=
  !Text.isBlank c && c != '+' && c != '-'

theorem isPlain_iff : isPlain c ↔ Text.isBlank c = false ∧ c ≠ '+' ∧ c ≠ '-' := by
  simp [isPlain, and_assoc]

theorem Admits.isPlain (admits : Admits lower base mark radix) (member : c ∈ mark) :
    isPlain c := by
  have letters : ['0', 'x', 'X', 'o', 'O', 'b', 'B'].all Universe.isPlain := by decide
  refine List.all_eq_true.mp letters c ?_
  cases admits with
  | decimal | given => cases member
  | hexadecimal marks | octal marks | binary marks =>
    rcases marks with rfl | rfl <;>
      rcases List.mem_pair.mp member with rfl | rfl <;> decide

theorem isPlain_of_numeral (admits : Admits lower base mark radix)
    (numeral : IsNumeral radix digits n) (member : c ∈ mark ++ digits) : isPlain c := by
  rcases List.mem_append.mp member with inMark | inDigits
  · exact admits.isPlain inMark
  · obtain ⟨d, digit⟩ := numeral.exists_digit inDigits
    exact digit.standsFor.holds (by decide)

/-! ## Signs -/

theorem splitSign_append (signed : IsSign sign negative) (plain : ∀ c ∈ rest.head?, isPlain c) :
    Numeral.splitSign (sign ++ rest) = (negative, rest) := by
  cases signed with
  | absent =>
    cases rest with
    | nil => rfl
    | cons c rest =>
      obtain ⟨-, noPlus, noMinus⟩ := isPlain_iff.mp (plain c rfl)
      unfold Numeral.splitSign
      split
      · rename_i same
        cases same
        exact absurd rfl noMinus
      · rename_i same
        cases same
        exact absurd rfl noPlus
      · rfl
  | plus | minus => rfl

theorem exists_sign (text : List Char) : ∃ sign negative rest, IsSign sign negative
    ∧ text = sign ++ rest ∧ Numeral.splitSign text = (negative, rest) := by
  unfold Numeral.splitSign
  split
  · exact ⟨_, _, _, .minus, rfl, rfl⟩
  · exact ⟨_, _, _, .plus, rfl, rfl⟩
  · exact ⟨_, _, _, .absent, rfl, rfl⟩

/-! ## Marks -/

/-- What stands behind a mark that a text begins with, in either letter case. -/
def behindMark? (mark digits : List Char) : Option (List Char) :=
  match digits with
  | zero :: letter :: rest => if mark = [zero, letter.toLower] then some rest else none
  | _ => none

/-- The radix of a text without its sign, and its digits. -/
def unmarked (base : Option Int64) (digits : List Char) : Nat × List Char :=
  match base with
  | none | some 0 =>
    match behindMark? ['0', 'x'] digits, behindMark? ['0', 'o'] digits,
      behindMark? ['0', 'b'] digits with
    | some rest, _, _ => (16, rest)
    | _, some rest, _ => if base.isSome then (8, rest) else (10, digits)
    | _, _, some rest => if base.isSome then (2, rest) else (10, digits)
    | _, _, _ => (10, digits)
  | some 16 => (16, (behindMark? ['0', 'x'] digits).getD digits)
  | some base => (base.toUInt64.toNat % Nat.pow 2 32, digits)

theorem readInt?_eq : readInt? text base
    = let (negative, digits) := Numeral.splitSign (Text.trim text.toList)
      let (radix, digits) := unmarked base digits
      if radix < 2 ∨ radix > 36 then none
      else (Numeral.word? radix digits).map fun i => if negative then -i else i :=
  rfl

/-- The letter of a mark, small and capital. -/
inductive IsMarkLetter : Char → Char → Prop where
  | hexadecimal : IsMarkLetter 'x' 'X'
  | octal : IsMarkLetter 'o' 'O'
  | binary : IsMarkLetter 'b' 'B'

theorem eq_or_eq_of_toLower {l u : Char} (shifted : u.val + 32 = l.val) (lowered : c.toLower = l) :
    c = l ∨ c = u := by
  unfold Char.toLower at lowered
  split at lowered
  · have same : c.val + 32 = u.val + 32 := by
      rw [shifted, ← lowered]
      rfl
    exact .inr (Char.ext ((UInt32.add_left_inj 32).mp same))
  · exact .inl lowered

theorem IsMarkLetter.toLower_eq_iff {l u : Char} (letter : IsMarkLetter l u) :
    c.toLower = l ↔ c = l ∨ c = u := by
  constructor
  · exact eq_or_eq_of_toLower (by cases letter <;> rfl)
  · rintro (rfl | rfl) <;> cases letter <;> rfl

theorem behindMark?_eq_some_iff {l u : Char} (letter : IsMarkLetter l u) :
    behindMark? ['0', l] digits = some rest ↔ ∃ c, (c = l ∨ c = u) ∧ digits = '0' :: c :: rest := by
  unfold behindMark?
  split
  · rename_i zero c others
    constructor
    · intro begins
      split at begins
      · rename_i same
        simp only [List.cons.injEq, and_true] at same
        obtain ⟨rfl, lowered⟩ := same
        cases begins
        exact ⟨c, letter.toLower_eq_iff.mp lowered.symm, rfl⟩
      · cases begins
    · rintro ⟨c, marks, same⟩
      cases same
      rw [letter.toLower_eq_iff.mpr marks, if_pos rfl]
  · rename_i short
    refine ⟨nofun, ?_⟩
    rintro ⟨c, _, rfl⟩
    exact absurd rfl (short '0' c rest)

/-- A numeral begins with no mark whose letter is no digit of its radix. -/
theorem behindMark?_of_numeral {l u : Char} (letter : IsMarkLetter l u)
    (numeral : IsNumeral radix digits n) (noSmall : Numeral.digitBelow? radix l = none)
    (noCapital : Numeral.digitBelow? radix u = none) : behindMark? ['0', l] digits = none := by
  refine Option.eq_none_iff_forall_ne_some.mpr fun rest begins => ?_
  obtain ⟨c, marks, rfl⟩ := (behindMark?_eq_some_iff letter).mp begins
  obtain ⟨d, digit⟩ := numeral.exists_digit (.tail _ (.head _))
  rw [← Numeral.digitBelow?_eq_some_iff] at digit
  rcases marks with rfl | rfl
  · rw [noSmall] at digit
    cases digit
  · rw [noCapital] at digit
    cases digit

theorem unmarked_none : unmarked none digits = match behindMark? ['0', 'x'] digits with
    | some rest => (16, rest)
    | none => (10, digits) := by
  unfold unmarked
  dsimp only
  cases behindMark? ['0', 'x'] digits with
  | some rest => rfl
  | none =>
    cases behindMark? ['0', 'o'] digits with
    | some rest => rfl
    | none => cases behindMark? ['0', 'b'] digits <;> rfl

theorem unmarked_zero : unmarked (some 0) digits
    = match behindMark? ['0', 'x'] digits, behindMark? ['0', 'o'] digits,
        behindMark? ['0', 'b'] digits with
      | some rest, _, _ => (16, rest)
      | _, some rest, _ => (8, rest)
      | _, _, some rest => (2, rest)
      | _, _, _ => (10, digits) :=
  rfl

theorem unmarked_sixteen :
    unmarked (some 16) digits = (16, (behindMark? ['0', 'x'] digits).getD digits) :=
  rfl

theorem unmarked_given (notZero : b ≠ 0) (notSixteen : b ≠ 16) :
    unmarked (some b) digits = (b.toUInt64.toNat % Nat.pow 2 32, digits) := by
  unfold unmarked
  split
  · cases ‹some b = none›
  · exact absurd (Option.some.inj ‹_›) notZero
  · exact absurd (Option.some.inj ‹_›) notSixteen
  · rename_i same
    cases same
    rfl

theorem exists_mark {l u : Char} (letter : IsMarkLetter l u)
    (begins : behindMark? ['0', l] digits = some rest)
    (allowed : ∀ c, c = l ∨ c = u → Admits lower base ['0', c] radix) :
    ∃ mark, Admits lower base mark radix ∧ digits = mark ++ rest := by
  obtain ⟨c, marks, rfl⟩ := (behindMark?_eq_some_iff letter).mp begins
  exact ⟨['0', c], allowed c marks, rfl⟩

/-- What is taken for the digits stands behind a mark that the base allows. -/
theorem unmarked_admits (parts : unmarked base digits = (radix, rest)) (least : 2 ≤ radix)
    (most : radix ≤ 36) : ∃ mark, Admits lowerHalf base mark radix ∧ digits = mark ++ rest := by
  match base with
  | none =>
    rw [unmarked_none] at parts
    split at parts <;> cases parts
    · exact exists_mark .hexadecimal ‹_› fun _ marks => .hexadecimal marks (.inl rfl)
    · exact ⟨[], .decimal (.inl rfl), rfl⟩
  | some b =>
    by_cases zero : b = 0
    · subst zero
      rw [unmarked_zero] at parts
      split at parts <;> cases parts
      · exact exists_mark .hexadecimal ‹_› fun _ marks => .hexadecimal marks (.inr (.inl rfl))
      · exact exists_mark .octal ‹_› fun _ marks => .octal marks
      · exact exists_mark .binary ‹_› fun _ marks => .binary marks
      · exact ⟨[], .decimal (.inr rfl), rfl⟩
    by_cases sixteen : b = 16
    · subst sixteen
      rw [unmarked_sixteen] at parts
      cases marked : behindMark? ['0', 'x'] digits with
      | some others =>
        rw [marked] at parts
        cases parts
        exact exists_mark .hexadecimal marked fun _ marks => .hexadecimal marks (.inr (.inr rfl))
      | none =>
        rw [marked] at parts
        cases parts
        exact ⟨[], .given (by decide) least most, rfl⟩
    · rw [unmarked_given zero sixteen] at parts
      cases parts
      exact ⟨[], .given lowerHalf_eq least most, rfl⟩

/-- No numeral of the radix is taken for a mark, and no mark for another one. -/
theorem unmarked_append (admits : Admits lowerHalf base mark radix)
    (numeral : IsNumeral radix digits n) : unmarked base (mark ++ digits) = (radix, digits) := by
  cases admits with
  | decimal free =>
    have noHexadecimal := behindMark?_of_numeral .hexadecimal numeral (by decide) (by decide)
    have noOctal := behindMark?_of_numeral .octal numeral (by decide) (by decide)
    have noBinary := behindMark?_of_numeral .binary numeral (by decide) (by decide)
    rcases free with rfl | rfl
    · rw [List.nil_append, unmarked_none, noHexadecimal]
    · rw [List.nil_append, unmarked_zero, noHexadecimal, noOctal, noBinary]
  | hexadecimal marks free =>
    rcases marks with rfl | rfl <;> rcases free with rfl | rfl | rfl <;> rfl
  | octal marks | binary marks =>
    rcases marks with rfl | rfl <;> rfl
  | @given b _ same least most =>
    have notZero : b ≠ 0 := by
      rintro rfl
      have : lowerHalf 0 = 0 := rfl
      omega
    rw [List.nil_append]
    by_cases sixteen : b = 16
    · subst sixteen
      obtain rfl : 16 = radix := Int.natCast_inj.mp same
      rw [unmarked_sixteen, behindMark?_of_numeral .hexadecimal numeral (by decide) (by decide)]
      rfl
    · rw [lowerHalf_eq, Int.natCast_inj] at same
      rw [unmarked_given notZero sixteen, same]

/-! ## Reading -/

theorem word?_eq_some_iff :
    Numeral.word? radix digits = some i ↔ ∃ n, IsNumeral radix digits n ∧ i.toInt = n := by
  rw [Numeral.word?, Option.bind_eq_some_iff]
  exact exists_congr fun n => and_congr Numeral.natural?_eq_some_iff Word.ofInt?_eq_some_iff

theorem ne_minValue_iff : i ≠ Int64.minValue ↔ i.toInt ≠ Word.least :=
  not_congr Int64.toInt_inj.symm

/-- The opposite of a magnitude is a word, but never the least one. -/
theorem toInt_signed (magnitude : i.toInt = n) :
    (if negative then -i else i).toInt = (if negative then -(n : Int) else n)
      ∧ (if negative then -i else i) ≠ Int64.minValue := by
  have fits := Word.fits_toInt i
  have notLeast : i ≠ Int64.minValue := by
    rw [ne_minValue_iff, Word.least]
    omega
  unfold Word.Fits Word.least Word.greatest at fits
  split
  · rw [ne_minValue_iff, Word.toInt_neg notLeast, Word.least]
    omega
  · exact ⟨magnitude, notLeast⟩

theorem magnitude_of_signed (is : i.toInt = if negative then -(n : Int) else n)
    (notLeast : i ≠ Int64.minValue) : ∃ word : Int64, word.toInt = n
      ∧ (if negative then -word else word) = i := by
  cases negative with
  | false => exact ⟨i, is, rfl⟩
  | true =>
    refine ⟨-i, ?_, Int64.neg_neg⟩
    rw [Word.toInt_neg notLeast, is]
    exact Int.neg_neg _

theorem trim_written (blankBefore : ∀ c ∈ before, Text.isBlank c) (signed : IsSign sign negative)
    (admits : Admits lower base mark radix) (numeral : IsNumeral radix digits n)
    (blankBehind : ∀ c ∈ behind, Text.isBlank c) :
    Text.trim (before ++ (sign ++ (mark ++ digits)) ++ behind) = sign ++ (mark ++ digits) := by
  have solid : ∀ c ∈ sign ++ (mark ++ digits), Text.isBlank c = false := by
    intro c member
    rcases List.mem_append.mp member with inSign | inBody
    · cases signed with
      | absent => cases inSign
      | plus | minus =>
        obtain rfl := List.mem_singleton.mp inSign
        rfl
    · exact (isPlain_iff.mp (isPlain_of_numeral admits numeral inBody)).1
  refine Text.trim_between blankBefore blankBehind ?_ (fun c member => ?_) fun c member => ?_
  · exact List.append_ne_nil_of_right_ne_nil _
      (List.append_ne_nil_of_right_ne_nil _ numeral.nonempty)
  · exact solid c (List.mem_of_mem_head? member)
  · exact solid c (List.mem_of_mem_getLast? member)

/-- An int is read exactly from the texts that write it, apart from the least one, which is not read
at all. -/
theorem readInt?_eq_some_iff : readInt? text base = some i
    ↔ Writes lowerHalf base text.toList i.toInt ∧ i ≠ Int64.minValue := by
  rw [readInt?_eq]
  constructor
  · intro read
    obtain ⟨sign, negative, unsigned, signed, cut, splits⟩ := exists_sign (Text.trim text.toList)
    obtain ⟨before, behind, blankBefore, blankBehind, whole⟩ := Text.exists_trim text.toList
    cases parts : unmarked base unsigned with
    | mk radix digits =>
      simp only [splits, parts] at read
      split at read
      · cases read
      rename_i inside
      obtain ⟨word, made, rfl⟩ := Option.map_eq_some_iff.mp read
      obtain ⟨n, numeral, is⟩ := word?_eq_some_iff.mp made
      obtain ⟨mark, admits, rfl⟩ := unmarked_admits parts (by omega) (by omega)
      obtain ⟨value, notLeast⟩ := @toInt_signed word negative n is
      rw [whole, cut, value]
      exact ⟨.int blankBefore signed admits numeral blankBehind, notLeast⟩
  · -- the magnitude of what is written is a word, as the least word is left out
    rintro ⟨writes, notLeast⟩
    generalize value : i.toInt = v at writes
    generalize text.toList = chars at writes
    obtain ⟨blankBefore, signed, admits, numeral, blankBehind⟩ := writes
    obtain ⟨word, is, rfl⟩ := magnitude_of_signed value notLeast
    obtain ⟨least, most⟩ := admits.bounds
    rw [trim_written blankBefore signed admits numeral blankBehind,
      splitSign_append signed fun c member =>
        isPlain_of_numeral admits numeral (List.mem_of_mem_head? member)]
    dsimp only
    rw [unmarked_append admits numeral, if_neg (by omega),
      word?_eq_some_iff.mpr ⟨_, numeral, is⟩]
    rfl

theorem Writes.congr {other : Int64 → Int} {chars : List Char} {value : Int}
    (same : ∀ b ∈ base, lower b = other b) (writes : Writes lower base chars value) :
    Writes other base chars value := by
  obtain ⟨blankBefore, signed, admits, numeral, blankBehind⟩ := writes
  exact .int blankBefore signed (admits.congr same) numeral blankBehind

theorem Writes.base_of {chars : List Char} {value : Int}
    (writes : Writes Int64.toInt base chars value) :
    base = none ∨ base = some 0 ∨ ∃ b : Int64, base = some b ∧ 2 ≤ b.toInt ∧ b.toInt ≤ 36 := by
  obtain ⟨-, -, admits, -, -⟩ := writes
  exact admits.base_of

theorem Writes.bare (signed : IsSign sign negative) (admits : Admits lower base mark radix)
    (numeral : IsNumeral radix digits n) :
    Writes lower base (sign ++ (mark ++ digits)) (if negative then -n else n) := by
  have writes := Writes.int (List.forall_mem_nil _) signed admits numeral (List.forall_mem_nil _)
  rwa [List.nil_append, List.append_nil] at writes

/-- The text of a word writes the word, in decimal and without a base. -/
theorem writes_text (word : Int64) : Writes lower none (Word.text word).toList word.toInt := by
  rw [Word.toList_text]
  split <;> rename_i natural <;> rw [Int64.le_iff_toInt_le, Int64.toInt_zero] at natural
  · have value : (word.toInt.toNat : Int) = word.toInt := Int.toNat_of_nonneg natural
    have writes : Writes lower none _ _ := .bare .absent (.decimal (.inl rfl))
      (Numeral.isNumeral_toDigits word.toInt.toNat)
    rwa [if_neg Bool.false_ne_true, value] at writes
  · have value : ((-word.toInt).toNat : Int) = -word.toInt := Int.toNat_of_nonneg (by omega)
    have writes : Writes lower none _ _ := .bare .minus (.decimal (.inl rfl))
      (Numeral.isNumeral_toDigits (-word.toInt).toNat)
    rwa [if_pos rfl, value, Int.neg_neg] at writes

theorem readInt?_text (word : Int64) :
    readInt? (Word.text word) none = if word = Int64.minValue then none else some word := by
  split
  · subst word
    decide +kernel
  · rename_i notLeast
    exact readInt?_eq_some_iff.mpr ⟨writes_text word, notLeast⟩

/-! ## The function -/

variable {call : Value → Arguments → Eval Value} {arguments : Arguments} {slot : Slot}
  {m m' : Machine}

/-- The refusal of a text. -/
def notAnInt (text : String) (base : Option Int64) : String :=
  s!"invalid literal for int() with base {Word.text (base.getD 10)}: {Text.quote text}"

theorem int_of_text (received : arguments.unpack [.optional "x", .optional "base"]
      = .ok [some (.str text), slot]) (based : slot.int "base" = .ok base) (m : Machine) :
    run call .int arguments m = match readInt? text base with
      | some i => .ok (.int i) m
      | none => Eval.fail (notAnInt text base) m := by
  show toInt arguments m = _
  rw [toInt, Eval.bind_ok (Eval.receive_of_unpack received m),
    Eval.bind_ok (Eval.int?_of_slot based m)]
  show (match readInt? text base with
      | some i => return .int i
      | none => Eval.fail (notAnInt text base) : Eval Value) m = _
  cases readInt? text base <;> rfl

/-- The int of a text is the word that the text writes for the base, and the call changes nothing.
It fails exactly if there is none, or if it is the least one. -/
theorem int_reads (received : arguments.unpack [.optional "x", .optional "base"]
      = .ok [some (.str text), slot]) (based : slot.int "base" = .ok base) (m : Machine) :
    (∃ i, run call .int arguments m = .ok (.int i) m
      ∧ Writes lowerHalf base text.toList i.toInt ∧ i ≠ Int64.minValue)
    ∨ run call .int arguments m = Eval.fail (notAnInt text base) m
      ∧ ∀ i : Int64, Writes lowerHalf base text.toList i.toInt → i = Int64.minValue := by
  rw [int_of_text received based]
  cases read : readInt? text base with
  | some i => exact .inl ⟨i, rfl, readInt?_eq_some_iff.mp read⟩
  | none =>
    refine .inr ⟨rfl, fun i writes => ?_⟩
    by_contra notLeast
    rw [readInt?_eq_some_iff.mpr ⟨writes, notLeast⟩] at read
    cases read

/-- A base that is no more than its lower half is left out, is 0 or is a radix where a text is read,
and the text writes the int for it. -/
theorem int_of_small_base (received : arguments.unpack [.optional "x", .optional "base"]
      = .ok [some (.str text), slot]) (based : slot.int "base" = .ok base)
    (small : ∀ b ∈ base, 0 ≤ b.toInt ∧ b.toInt < 4294967296)
    (ran : run call .int arguments m = .ok (.int i) m') :
    (base = none ∨ base = some 0 ∨ ∃ b : Int64, base = some b ∧ 2 ≤ b.toInt ∧ b.toInt ≤ 36)
      ∧ Writes Int64.toInt base text.toList i.toInt := by
  have same (b : Int64) (is : b ∈ base) : lowerHalf b = b.toInt :=
    Int.emod_eq_of_lt (small b is).1 (small b is).2
  rcases @int_reads _ _ call _ _ received based m with ⟨word, reads, writes, -⟩ | ⟨fails, -⟩
  · rw [ran] at reads
    cases reads
    have writes' : Writes Int64.toInt base text.toList i.toInt := writes.congr same
    exact ⟨writes'.base_of, writes'⟩
  · rw [ran] at fails
    cases fails

/-- Of any other base, only the lower half counts. -/
theorem readInt?_congr {b' : Int64} (same : lowerHalf b = lowerHalf b')
    (apart : ∀ base ∈ [b, b'], base ≠ 0 ∧ base ≠ 16) :
    readInt? text (some b) = readInt? text (some b') := by
  have first := apart b (.head _)
  have second := apart b' (.tail _ (.head _))
  rw [lowerHalf_eq, lowerHalf_eq, Int.natCast_inj] at same
  simp only [readInt?_eq, unmarked_given first.1 first.2, unmarked_given second.1 second.2, same]

/-- A base far beyond 36 reads as 10 does. -/
example : readInt? "7" (some 4294967306) = some 7 := by decide +kernel

/-! ## Printed ints -/

/-- The actions that print an int. -/
inductive Prints (call : Value → Arguments → Eval Value) (word : Int64) : Eval Value → Prop where
  | text : Prints call word (run call .str (.ofList [.int word]))
  | repr : Prints call word (run call .repr (.ofList [.int word]))
  | format : Prints call word (Eval.produce fun h => Value.binary h .mod (.str "%d") (.int word))

theorem repr_int (h : Heap) (word : Int64) : (Value.int word).repr h = Word.text word := by
  obtain ⟨cells, room⟩ : ∃ cells, Value.cellsEntered h = cells + 1 :=
    Nat.exists_eq_succ_of_ne_zero (Nat.mul_ne_zero (Nat.succ_ne_zero _) (by decide))
  rw [Value.repr, room]
  rfl

theorem binary_format_int (h : Heap) (word : Int64) :
    Value.binary h .mod (.str "%d") (.int word) = .ok (.value (.str (Word.text word))) := by
  have filled : Value.formatted h "%d" (.int word)
      = .ok (String.ofList ((Word.text word).toList ++ [])) := rfl
  show (do return Made.value (.str (← Value.formatted h "%d" (.int word)))) = _
  rw [filled, List.append_nil, String.ofList_toList]
  rfl

/-- All of them make the text of the word, and change nothing. -/
theorem Prints.text_eq {act : Eval Value} {word : Int64} (prints : Prints call word act)
    (m : Machine) : act m = .ok (.str (Word.text word)) m := by
  cases prints with
  | text | repr =>
    exact congrArg (fun text => EStateM.Result.ok (Value.str text) m) (repr_int m.heap word)
  | format =>
    rw [Eval.produce, Eval.bind_run, Eval.operate_run, binary_format_int]
    rfl

/-- Every int is read back from what prints it, apart from the least one, which is refused. -/
theorem printed_int_read {act : Eval Value} {word : Int64} (prints : Prints call word act)
    (m : Machine) : (do run call .int (.ofList [← act])) m
      = if word = Int64.minValue then Eval.fail (notAnInt "-9223372036854775808" none) m
        else .ok (.int word) m := by
  have received : (Arguments.ofList [.str (Word.text word)]).unpack
      [.optional "x", .optional "base"] = .ok [some (.str (Word.text word)), none] := rfl
  rw [Eval.bind_ok (prints.text_eq m), int_of_text received rfl, readInt?_text]
  by_cases least : word = Int64.minValue
  · subst word
    rw [if_pos rfl, if_pos rfl]
    rfl
  · rw [if_neg least, if_neg least]

end Universe

end PixelApplet
