import Mathlib.Tactic.IntervalCases
import PixelApplet.Json.Reader
import PixelApplet.Proofs.Token.WrittenTokens

/-!
# What readers of documents take

A reader takes a text if it gets over it, up to a known rest, with a known result, whatever the
place at which the text stands.  Readers are followed through a text step by step, so that what a
longer text is read as is put together from what its parts are read as.
-/

namespace PixelApplet.Json.Reads

variable {α β : Type}

/-- A reader gets from one text to another with a result, whatever the place. -/
def Takes (p : Reads α) (start stop : List Char) (x : α) : Prop :=
  ∀ line column, ∃ line' column', p ⟨start, line, column⟩ = .ok (x, ⟨stop, line', column'⟩)

/-- A text that begins with a character that is no blank. -/
def Begins (text : List Char) : Prop :=
  ∀ c ∈ text.head?, c ∉ [' ', '\t', '\r', '\n']

/-- What may follow a value inside a document: nothing, a comma or a closing bracket. -/
def EndsValue (after : List Char) : Prop :=
  ∀ c ∈ after.head?, c ∈ [',', ']', '\x7d']

namespace Takes

variable {p : Reads α} {start middle stop : List Char} {x : α}

theorem pure : Takes (Pure.pure x) start start x :=
  fun line column => ⟨line, column, rfl⟩

theorem bind {next : α → Reads β} {y : β} (takes : Takes p start middle x)
    (takesNext : Takes (next x) middle stop y) : Takes (p >>= next) start stop y := by
  intro line column
  obtain ⟨line₁, column₁, ran⟩ := takes line column
  obtain ⟨line₂, column₂, ran₂⟩ := takesNext line₁ column₁
  refine ⟨line₂, column₂, ?_⟩
  show StateT.bind p next _ = _
  unfold StateT.bind
  rw [ran]
  exact ran₂

theorem advance (c : Char) (rest : List Char) : Takes Reads.advance (c :: rest) rest () :=
  fun _ _ => ⟨_, _, rfl⟩

theorem peek (text : List Char) : Takes Reads.peek text text text.head? :=
  fun line column => ⟨line, column, rfl⟩

theorem next (c : Char) (rest : List Char) : Takes Reads.next (c :: rest) rest (some c) :=
  bind (peek _) (bind (advance c rest) pure)

theorem skipBlanks {text : List Char} (begins : Begins text) :
    Takes Reads.skipBlanks text text () := by
  refine fun line column => ⟨line, column, ?_⟩
  unfold Reads.skipBlanks
  cases text with
  | nil => rfl
  | cons c rest =>
    have notBlank := begins c rfl
    simp only [List.mem_cons, List.not_mem_nil, or_false, not_or] at notBlank
    obtain ⟨notSpace, notTab, notReturn, notBreak⟩ := notBlank
    simp [skipBlanks.go, notSpace, notTab, notReturn, notBreak]

theorem peekBehindBlanks {text : List Char} (begins : Begins text) :
    Takes Reads.peekBehindBlanks text text text.head? :=
  bind (skipBlanks begins) (peek text)

theorem word (expected rest : List Char) : Takes (Reads.word expected) (expected ++ rest) rest () := by
  induction expected with
  | nil => exact pure
  | cons c expected ih =>
    unfold Reads.word
    refine bind (peek _) ?_
    rw [List.cons_append, List.head?_cons]
    dsimp only
    rw [if_neg (not_not_intro rfl)]
    exact bind (advance c _) ih

theorem digits {found rest : List Char} (all : ∀ c ∈ found, Text.isDecimalDigit c)
    (ends : ∀ c ∈ rest.head?, Text.isDecimalDigit c = false) :
    Takes Reads.digits (found ++ rest) rest found := by
  have taken : (found ++ rest).takeWhile Text.isDecimalDigit = found := by
    rw [List.takeWhile_append_of_pos all]
    cases rest with
    | nil => exact List.append_nil found
    | cons c rest =>
      rw [List.takeWhile_cons_of_neg (Bool.eq_false_iff.mp (ends c rfl)), List.append_nil]
  intro line column
  refine ⟨line, column + found.length, ?_⟩
  unfold Reads.digits
  simp only [taken, List.drop_left]

end Takes

/-! ## Whole numbers -/

/-- What ends a value is no digit. -/
theorem EndsValue.not_digit {after : List Char} (ends : EndsValue after) :
    ∀ c ∈ after.head?, Text.isDecimalDigit c = false := by
  intro c isHead
  have mark := ends c isHead
  simp only [List.mem_cons, List.not_mem_nil, or_false] at mark
  rcases mark with rfl | rfl | rfl <;> rfl

/-- Digits are read completely if their value stays below two to the 64th. -/
theorem leadingWord_digits (digits : List Char) (total : Nat)
    (fits : Nat.ofDigitChars 10 digits total < Nat.pow 2 64) :
    leadingWord total digits = (Nat.ofDigitChars 10 digits total, []) := by
  have grows (digits : List Char) (total : Nat) : total ≤ Nat.ofDigitChars 10 digits total := by
    induction digits generalizing total with
    | nil => exact Nat.le_refl _
    | cons c digits ih =>
      rw [Nat.ofDigitChars_cons]
      have := ih (10 * total + (c.toNat - '0'.toNat))
      omega
  induction digits generalizing total with
  | nil => rfl
  | cons c digits ih =>
    rw [Nat.ofDigitChars_cons, Nat.mul_comm] at fits ⊢
    have below := Nat.lt_of_le_of_lt (grows digits _) fits
    unfold leadingWord
    dsimp only
    rw [if_pos below, ih _ fits]

/-- Only the numeral of zero begins with a zero. -/
theorem toDigits_cons_zero {n : Nat} {rest : List Char}
    (digits : Nat.toDigits 10 n = '0' :: rest) : n = 0 := by
  induction n using Nat.strongRecOn generalizing rest with
  | ind n ih =>
    by_cases small : n < 10
    · rw [Nat.toDigits_of_lt_base small] at digits
      interval_cases n <;> first | rfl | cases digits
    · rw [Nat.toDigits_of_base_le (by decide) (by omega)] at digits
      cases front : Nat.toDigits 10 (n / 10) with
      | nil => exact absurd front Nat.toDigits_ne_nil
      | cons c others =>
        rw [front] at digits
        cases digits
        have := ih (n / 10) (by omega) front
        omega

/-- The document of a whole number with its sign apart. -/
def signed (negative : Bool) (n : Nat) : Json :=
  .int (if negative then -(n : Int) else n)

theorem Takes.behindWhole {negative : Bool} {significand : Nat} {exponent : Int} {whole : Json}
    {after : List Char} (ends : EndsValue after) :
    Takes (behindWhole negative significand exponent whole) after after whole := by
  refine bind (peek after) ?_
  cases after with
  | nil => exact pure
  | cons c rest =>
    have mark := ends c rfl
    simp only [List.mem_cons, List.not_mem_nil, or_false] at mark
    rcases mark with rfl | rfl | rfl <;> exact pure

/-- The digits of a number that is no negative zero and fits are read as that number. -/
theorem Takes.number {negative : Bool} {n : Nat} {after : List Char} (ends : EndsValue after)
    (proper : negative → n ≠ 0) (fits : n ≤ Nat.pow 2 63) :
    Takes (number negative) (Nat.toDigits 10 n ++ after) after (signed negative n) := by
  have all := @Lexeme.isDecimalDigit_of_mem_toDigits n
  have value := @Nat.ofDigitChars_ten_toDigits n
  unfold Reads.number
  refine bind (peek _) ?_
  cases digits : Nat.toDigits 10 n with
  | nil => exact absurd digits Nat.toDigits_ne_nil
  | cons first rest =>
    rw [List.cons_append, List.head?_cons]
    split
    · rename_i none_
      cases none_
    · rename_i same
      cases same
      have zero := toDigits_cons_zero digits
      subst zero
      cases digits
      have positive : negative = false := by
        cases negative with
        | false => rfl
        | true => exact absurd rfl (proper rfl)
      subst positive
      refine bind (advance '0' _) (bind (peek _) ?_)
      have ended := ends.not_digit
      cases after with
      | nil => exact behindWhole ends
      | cons c after =>
        rw [List.nil_append, List.head?_cons]
        dsimp only
        rw [ended c rfl, if_neg Bool.false_ne_true]
        exact behindWhole ends
    · rename_i c notZero same
      cases same
      rw [digits] at all value
      rw [Nat.ofDigitChars_cons] at value
      have small : n < Nat.pow 2 64 := Nat.lt_of_le_of_lt fits (by decide)
      have word := leadingWord_digits rest (10 * 0 + (first.toNat - '0'.toNat))
        (by rw [value]; exact small)
      rw [value, Nat.mul_zero, Nat.zero_add] at word
      rw [all first List.mem_cons_self]
      refine bind (advance first _) (bind (Takes.digits (fun d member =>
        all d (List.mem_cons_of_mem _ member)) ends.not_digit) ?_)
      rw [word]
      dsimp only
      rw [if_pos List.isEmpty_nil]
      have whole : (if (!negative) = true then (Json.int n)
          else if n ≤ Nat.pow 2 63 then .int (-(n : Int)) else .float (-(Decimal.ofInt n)))
          = signed negative n := by
        cases negative with
        | false => rfl
        | true => rw [if_neg (by decide), if_pos fits]; rfl
      rw [whole]
      exact behindWhole ends

/-! ## Strings -/

theorem hexUnit?_hexDigit {n : Nat} (small : n < 32) (rest : List Char) :
    hexUnit? ('0' :: '0' :: Text.hexDigit (n / 16) :: Text.hexDigit (n % 16) :: rest) = some n := by
  unfold hexUnit?
  simp only [List.take_succ_cons, List.take_zero]
  interval_cases n <;> rfl

/-- An escaped control character is read as the character. -/
theorem Takes.unicodeEscape {c : Char} (control : c.toNat < 32) (rest : List Char) :
    Takes unicodeEscape
      ('0' :: '0' :: Text.hexDigit (c.toNat / 16) :: Text.hexDigit (c.toNat % 16) :: rest) rest
      c := by
  have unit : Takes hexEscape
      ('0' :: '0' :: Text.hexDigit (c.toNat / 16) :: Text.hexDigit (c.toNat % 16) :: rest) rest
      c.toNat := by
    intro line column
    refine ⟨line, column + 4, ?_⟩
    unfold hexEscape
    dsimp only
    rw [hexUnit?_hexDigit control]
    rfl
  unfold Reads.unicodeEscape
  refine bind unit ?_
  dsimp only
  rw [if_neg (by omega), if_neg (by omega), Char.ofNat_toNat]
  exact pure

/-- How a character stands in a string: as it is, or behind a backslash. -/
theorem escapeChar_cases (c : Char) :
    (escapeChar c = [c] ∧ c ≠ '"' ∧ c ≠ '\\' ∧ 32 ≤ c.toNat)
    ∨ ∃ escaped, escapeChar c = '\\' :: escaped
      ∧ ∀ rest, Takes escape (escaped ++ rest) rest c := by
  have plain (letter c : Char) (known : plainEscape? letter = some c) (other : letter ≠ 'u')
      (rest : List Char) : Takes escape (letter :: rest) rest c := by
    refine Takes.bind (Takes.peek _) ?_
    rw [List.head?_cons]
    split
    · rename_i none_
      cases none_
    · rename_i same
      cases same
      exact absurd rfl other
    · rename_i same
      cases same
      rw [known]
      exact Takes.bind (Takes.advance _ _) Takes.pure
  unfold escapeChar
  split
  · subst_vars
    exact .inr ⟨['"'], rfl, plain '"' _ rfl (by decide)⟩
  split
  · subst_vars
    exact .inr ⟨['\\'], rfl, plain '\\' _ rfl (by decide)⟩
  split
  · subst_vars
    exact .inr ⟨['b'], rfl, plain 'b' _ rfl (by decide)⟩
  split
  · subst_vars
    exact .inr ⟨['t'], rfl, plain 't' _ rfl (by decide)⟩
  split
  · subst_vars
    exact .inr ⟨['n'], rfl, plain 'n' _ rfl (by decide)⟩
  split
  · subst_vars
    exact .inr ⟨['f'], rfl, plain 'f' _ rfl (by decide)⟩
  split
  · subst_vars
    exact .inr ⟨['r'], rfl, plain 'r' _ rfl (by decide)⟩
  split
  · rename_i control
    exact .inr ⟨_, rfl, fun rest => Takes.bind (Takes.peek _)
      (Takes.bind (Takes.advance 'u' _) (Takes.unicodeEscape control rest))⟩
  · rename_i notQuote notBackslash _ _ _ _ _ notControl
    exact .inl ⟨rfl, notQuote, notBackslash, Nat.le_of_not_lt notControl⟩

/-- What is behind an opening quote is read up to the closing one as the string it was written
for. -/
theorem Takes.stringRest (contents after done : List Char) (fuel : Nat)
    (room : contents.length < fuel) :
    Takes (stringRest fuel done) (contents.flatMap escapeChar ++ '"' :: after) after
      (String.ofList (done.reverse ++ contents)) := by
  induction contents generalizing done fuel with
  | nil =>
    obtain ⟨fuel, rfl⟩ := Nat.exists_eq_succ_of_ne_zero (Nat.ne_of_gt room)
    refine bind (next '"' _) ?_
    rw [List.append_nil]
    exact pure
  | cons c contents ih =>
    obtain ⟨fuel, rfl⟩ := Nat.exists_eq_succ_of_ne_zero (Nat.ne_of_gt (Nat.zero_lt_of_lt room))
    have rest := ih (c :: done) fuel (Nat.lt_of_succ_lt_succ room)
    rw [List.reverse_cons, List.append_assoc, List.singleton_append] at rest
    rw [List.flatMap_cons, List.append_assoc]
    rcases escapeChar_cases c with ⟨plain, notQuote, notBackslash, visible⟩ | ⟨escaped, same, takes⟩
    · rw [plain, List.singleton_append]
      refine bind (next c _) ?_
      dsimp only
      rw [if_neg notQuote, if_neg notBackslash, if_neg (Nat.not_lt_of_le visible)]
      exact rest
    · rw [same, List.cons_append]
      refine bind (next '\\' _) ?_
      exact bind (takes _) rest

end PixelApplet.Json.Reads
