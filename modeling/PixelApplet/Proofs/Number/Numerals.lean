import Mathlib.Data.List.Forall2
import Mathlib.Data.Nat.Digits.Defs
import Mathlib.Tactic.Ring
import PixelApplet.Number.Numeral

/-!
# Numerals

A numeral is a non-empty row of digits of a base, the most significant first.  It is read by
Horner's scheme, from the left, and what the scheme gives is the positional value: the sum of the
digits times powers of the base.  A row with anything else than a digit of the base is not read at
all.

The text of a word is a numeral, behind a minus sign if the word is negative.
-/

namespace PixelApplet

namespace Numeral

variable {base total n d : Nat} {c : Char} {digits : List Char}

/-- Figures stand for the numbers below ten, and the letters of the alphabet, in either case, for
those from ten on. -/
inductive StandsFor : Char → Nat → Prop where
  | figure {d : Nat} (below : d < 10) : StandsFor (Char.ofNat ('0'.toNat + d)) d
  | letter {k : Nat} (below : k < 26) : StandsFor (Char.ofNat ('a'.toNat + k)) (k + 10)
  | capital {k : Nat} (below : k < 26) : StandsFor (Char.ofNat ('A'.toNat + k)) (k + 10)

/-- A digit of a base. -/
structure IsDigit (base : Nat) (c : Char) (d : Nat) : Prop where
  standsFor : StandsFor c d
  below : d < base

/-- A row of digits, the most significant first, and its positional value. -/
inductive IsNumeral (base : Nat) : List Char → Nat → Prop where
  | digits {digits : List Char} {values : List Nat} (nonempty : digits ≠ [])
    (each : List.Forall₂ (IsDigit base) digits values) :
    IsNumeral base digits (Nat.ofDigits base values.reverse)

/-! ## Digits -/

theorem ofNat_add_sub {first : Char} (from_ : first ≤ c) :
    Char.ofNat (first.toNat + (c.toNat - first.toNat)) = c := by
  have le : first.toNat ≤ c.toNat := from_
  rw [Nat.add_sub_cancel' le, Char.ofNat_toNat]

theorem standsFor_of_digitValue? (value : digitValue? c = some d) : StandsFor c d := by
  unfold digitValue? at value
  split at value <;> rename_i figure
  · obtain rfl := Option.some.inj value
    have top : c.toNat ≤ '9'.toNat := figure.2
    have zero : '0'.toNat = 48 := rfl
    have nine : '9'.toNat = 57 := rfl
    have stands : StandsFor (Char.ofNat _) _ := .figure (d := c.toNat - '0'.toNat) (by omega)
    rwa [ofNat_add_sub figure.1] at stands
  split at value <;> rename_i letter
  · obtain rfl := Option.some.inj value
    have top : c.toNat ≤ 'z'.toNat := letter.2
    have a : 'a'.toNat = 97 := rfl
    have z : 'z'.toNat = 122 := rfl
    have stands : StandsFor (Char.ofNat _) _ := .letter (k := c.toNat - 'a'.toNat) (by omega)
    rwa [ofNat_add_sub letter.1] at stands
  split at value <;> rename_i capital
  · obtain rfl := Option.some.inj value
    have top : c.toNat ≤ 'Z'.toNat := capital.2
    have a : 'A'.toNat = 65 := rfl
    have z : 'Z'.toNat = 90 := rfl
    have stands : StandsFor (Char.ofNat _) _ := .capital (k := c.toNat - 'A'.toNat) (by omega)
    rwa [ofNat_add_sub capital.1] at stands
  · cases value

theorem digitValue?_eq_some_iff : digitValue? c = some d ↔ StandsFor c d := by
  refine ⟨standsFor_of_digitValue?, fun stands => ?_⟩
  cases stands with
  | figure below =>
    have figures : ∀ d < 10, digitValue? (Char.ofNat ('0'.toNat + d)) = some d := by decide
    exact figures d below
  | @letter k below =>
    have letters : ∀ k < 26, digitValue? (Char.ofNat ('a'.toNat + k)) = some (k + 10) := by decide
    exact letters k below
  | @capital k below =>
    have capitals : ∀ k < 26, digitValue? (Char.ofNat ('A'.toNat + k)) = some (k + 10) := by decide
    exact capitals k below

/-- The digits of the greatest base. -/
def digitCharacters : List Char :=
  "0123456789abcdefghijklmnopqrstuvwxyzABCDEFGHIJKLMNOPQRSTUVWXYZ".toList

theorem StandsFor.holds {p : Char → Bool} (stands : StandsFor c d)
    (all : digitCharacters.all p) : p c := by
  refine List.all_eq_true.mp all c ?_
  cases stands with
  | figure below =>
    have figures : ∀ d < 10, Char.ofNat ('0'.toNat + d) ∈ digitCharacters := by decide
    exact figures d below
  | @letter k below =>
    have letters : ∀ k < 26, Char.ofNat ('a'.toNat + k) ∈ digitCharacters := by decide
    exact letters k below
  | @capital k below =>
    have capitals : ∀ k < 26, Char.ofNat ('A'.toNat + k) ∈ digitCharacters := by decide
    exact capitals k below

theorem digitBelow?_eq_some_iff : digitBelow? base c = some d ↔ IsDigit base c d := by
  rw [digitBelow?, Option.filter_eq_some_iff, digitValue?_eq_some_iff, decide_eq_true_iff]
  exact ⟨fun ⟨stands, below⟩ => ⟨stands, below⟩, fun ⟨stands, below⟩ => ⟨stands, below⟩⟩

/-! ## Values -/

/-- Each further digit moves what was read one place to the left. -/
theorem continueNatural?_eq_some_iff : continueNatural? base total digits = some n
    ↔ ∃ values, List.Forall₂ (IsDigit base) digits values
      ∧ n = Nat.ofDigits base values.reverse + base ^ digits.length * total := by
  induction digits generalizing total with
  | nil =>
    constructor
    · intro read
      obtain rfl := Option.some.inj read
      exact ⟨[], .nil, by simp⟩
    · rintro ⟨values, _ | _, rfl⟩
      simp [continueNatural?]
  | cons c digits ih =>
    rw [continueNatural?]
    cases digit : digitBelow? base c with
    | none =>
      refine ⟨nofun, ?_⟩
      rintro ⟨_, _ | ⟨isDigit, _⟩, _⟩
      rw [digitBelow?_eq_some_iff.mpr isDigit] at digit
      cases digit
    | some d =>
      have shifted (values : List Nat) (same : digits.length = values.length) :
          Nat.ofDigits base values.reverse + base ^ digits.length * (total * base + d)
            = Nat.ofDigits base (d :: values).reverse + base ^ (c :: digits).length * total := by
        rw [Nat.ofDigits_reverse_cons, List.length_cons, ← same]
        ring
      refine ih.trans ⟨?_, ?_⟩
      · rintro ⟨values, each, rfl⟩
        exact ⟨d :: values, .cons (digitBelow?_eq_some_iff.mp digit) each,
          shifted values each.length_eq⟩
      · rintro ⟨_, _ | @⟨_, _, _, values, isDigit, each⟩, rfl⟩
        obtain rfl : d = _ :=
          Option.some.inj (digit.symm.trans (digitBelow?_eq_some_iff.mpr isDigit))
        exact ⟨values, each, (shifted values each.length_eq).symm⟩

theorem natural?_eq_some_iff : natural? base digits = some n ↔ IsNumeral base digits n := by
  constructor
  · intro read
    match digits with
    | [] => cases read
    | c :: rest =>
      obtain ⟨values, each, rfl⟩ := continueNatural?_eq_some_iff.mp read
      rw [Nat.mul_zero, Nat.add_zero]
      exact .digits (List.cons_ne_nil c rest) each
  · rintro ⟨nonempty, each⟩
    match digits with
    | [] => exact absurd rfl nonempty
    | c :: rest =>
      refine continueNatural?_eq_some_iff.mpr ⟨_, each, ?_⟩
      rw [Nat.mul_zero, Nat.add_zero]

namespace IsNumeral

theorem nonempty (numeral : IsNumeral base digits n) : digits ≠ [] := by
  cases numeral with
  | digits nonempty => exact nonempty

theorem exists_digit (numeral : IsNumeral base digits n) (member : c ∈ digits) :
    ∃ d, IsDigit base c d := by
  obtain ⟨-, each⟩ := numeral
  induction each with
  | nil => cases member
  | cons isDigit _ ih =>
    cases member with
    | head => exact ⟨_, isDigit⟩
    | tail _ inside => exact ih inside

theorem single (digit : IsDigit base c d) : IsNumeral base [c] d := by
  have numeral := IsNumeral.digits (List.cons_ne_nil c []) (.cons digit .nil)
  rwa [List.reverse_singleton, Nat.ofDigits_singleton] at numeral

/-- A further digit behind a numeral. -/
theorem concat (numeral : IsNumeral base digits n) (digit : IsDigit base c d) :
    IsNumeral base (digits ++ [c]) (base * n + d) := by
  obtain ⟨_, each⟩ := numeral
  have present := List.append_ne_nil_of_right_ne_nil digits (List.cons_ne_nil c [])
  have longer := IsNumeral.digits present (List.rel_append each (.cons digit .nil))
  rwa [List.reverse_append, List.reverse_singleton, List.singleton_append, Nat.ofDigits_cons,
    Nat.add_comm] at longer

end IsNumeral

theorem isDigit_digitChar (below : d < 10) : IsDigit 10 d.digitChar d := by
  have figures : ∀ d < 10, digitBelow? 10 d.digitChar = some d := by decide
  exact digitBelow?_eq_some_iff.mp (figures d below)

/-- The decimal digits of a number are a numeral of it. -/
theorem isNumeral_toDigits (n : Nat) : IsNumeral 10 (Nat.toDigits 10 n) n := by
  induction n using Nat.strong_induction_on with
  | h n ih =>
    rcases Nat.lt_or_ge n 10 with below | above
    · rw [Nat.toDigits_of_lt_base below]
      exact .single (isDigit_digitChar below)
    · have numeral := (ih (n / 10) (by omega)).concat (isDigit_digitChar (Nat.mod_lt n (by omega)))
      rwa [← Nat.toDigits_of_base_le (by decide) above, Nat.div_add_mod] at numeral

end Numeral

/-! ## The text of a word -/

namespace Word

theorem toList_text (n : Int64) : (Word.text n).toList =
    if 0 ≤ n then Nat.toDigits 10 n.toInt.toNat else '-' :: Nat.toDigits 10 (-n.toInt).toNat := by
  rw [Word.text, Int.toString_eq_repr, Int.repr_eq_if]
  simp only [Int64.le_iff_toInt_le, Int64.toInt_zero]
  split <;> simp

theorem toInt_neg {n : Int64} (notLeast : n ≠ Int64.minValue) : (-n).toInt = -n.toInt := by
  have low := n.le_toInt
  have high := n.toInt_lt
  have above : n.toInt ≠ -9223372036854775808 := fun same => notLeast (Int64.toInt_inj.mp same)
  rw [Int64.toInt_neg, Int.bmod_eq_of_le] <;> omega

end Word

end PixelApplet
