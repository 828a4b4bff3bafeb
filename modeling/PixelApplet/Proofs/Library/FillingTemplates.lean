import PixelApplet.Library.TextMethods
import PixelApplet.Library.Universe
import PixelApplet.Proofs.Machine.Courses

/-!
# Filling templates

A template is made of pieces of text with fields between them.  Characters that are special to the
reader of the template are doubled in the pieces, so that every piece stands for itself, even one
made of special characters only.  Filling such a template puts the texts of the values in the places
of the fields, in their order.

A format takes exactly as many values as it has fields; a template in braces leaves further values
aside.
-/

namespace PixelApplet

namespace Text

/-- A text in which the special characters are doubled. -/
def doubled (special : Char → Bool) (text : String) : String :=
  String.ofList (text.toList.flatMap fun c => if special c then [c, c] else [c])

/-- The template made of a first piece and later ones with a field in front of each. -/
def template (field : String) (special : Char → Bool) (first : String) :
    (later : List String) → String
  | [] => doubled special first
  | next :: later => doubled special first ++ field ++ template field special next later

/-- A first piece and later ones with a text in front of each. -/
def interleaved (first : String) : (texts later : List String) → String
  | text :: texts, next :: later => first ++ text ++ interleaved next texts later
  | _, _ => first

/-- The character that formats double. -/
def isPercent (c : Char) : Bool :=
  c = '%'

/-- The characters that templates in braces double. -/
def isBrace (c : Char) : Bool :=
  c = '\x7b' || c = '\x7d'

variable {special : Char → Bool} {c : Char}

@[simp]
theorem toList_doubled (text : String) : (doubled special text).toList
    = text.toList.flatMap fun c => if special c then [c, c] else [c] :=
  String.toList_ofList

theorem templatePieces_cons (plain : isBrace c = false) (rest : List Char) :
    templatePieces (c :: rest) = .char c :: templatePieces rest := by
  have plain : c ≠ '\x7b' ∧ c ≠ '\x7d' := by simpa [isBrace] using plain
  rw [templatePieces] <;> simp [plain]

/-- Doubled braces are characters, whatever stands behind them. -/
theorem templatePieces_doubled (text : String) (rest : List Char) :
    templatePieces ((doubled isBrace text).toList ++ rest)
      = text.toList.map .char ++ templatePieces rest := by
  rw [toList_doubled]
  induction text.toList with
  | nil => rfl
  | cons c text ih =>
    cases brace : isBrace c with
    | false => simp [brace, templatePieces_cons brace, ih]
    | true =>
      have which : c = '\x7b' ∨ c = '\x7d' := by simpa [isBrace] using brace
      rcases which with rfl | rfl <;> simp [brace, templatePieces, ih]

end Text

open Text

/-! ## Formats -/

namespace Value

variable (h : Heap)

theorem formatFrom_cons {c : Char} (plain : isPercent c = false) (rest : List Char)
    (values : List Value) :
    formatFrom h (c :: rest) values = (c :: ·) <$> formatFrom h rest values := by
  have plain : c ≠ '%' := by simpa [isPercent] using plain
  rw [formatFrom] <;> simp [plain]

/-- Doubled percent signs are characters, whatever stands behind them. -/
theorem formatFrom_doubled (text : String) (rest : List Char) (values : List Value) :
    formatFrom h ((doubled isPercent text).toList ++ rest) values
      = (text.toList ++ ·) <$> formatFrom h rest values := by
  rw [toList_doubled]
  induction text.toList with
  | nil => simp
  | cons c text ih =>
    cases percent : isPercent c with
    | false => simp [percent, formatFrom_cons h percent, ih]
    | true =>
      have which : c = '%' := by simpa [isPercent] using percent
      subst which
      simp [percent, formatFrom, ih]

theorem formatFrom_text (rest : List Char) (value : Value) (values : List Value) :
    formatFrom h ('%' :: 's' :: rest) (value :: values)
      = ((value.text h).toList ++ ·) <$> formatFrom h rest values := by
  have shown : converted h 's' value = .ok (value.text h) := if_pos rfl
  rw [formatFrom, shown]
  · rfl
  · simp

/-- A format is filled with exactly as many values as it has fields. -/
theorem formatFrom_template (first : String) (later : List String) (values : List Value) :
    formatFrom h (template "%s" isPercent first later).toList values
      = if values.length = later.length then
          .ok (interleaved first (values.map (text h)) later).toList
        else if values.length < later.length then .error .tooFewForFormat
        else .error .tooManyForFormat := by
  induction later generalizing first values with
  | nil =>
    have ended := formatFrom_doubled h first [] values
    rw [List.append_nil] at ended
    rw [template, ended]
    cases values <;> simp [formatFrom, interleaved]
  | cons next later ih =>
    have begun : (template "%s" isPercent first (next :: later)).toList
        = (doubled isPercent first).toList
          ++ '%' :: 's' :: (template "%s" isPercent next later).toList := by
      simp [template]
    rw [begun, formatFrom_doubled]
    cases values with
    | nil => simp [formatFrom]
    | cons value values =>
      rw [formatFrom_text, ih]
      by_cases same : values.length = later.length
      · simp [same, interleaved]
      · by_cases few : values.length < later.length <;> simp [same, few]

theorem binary_mod_template (first : String) (later : List String) (values : List Value) :
    binary h .mod (.str (template "%s" isPercent first later)) (.tuple values)
      = if values.length = later.length then
          .ok (.value (.str (interleaved first (values.map (text h)) later)))
        else .error (if values.length < later.length then .tooFewForFormat
          else .tooManyForFormat) := by
  have filled := formatFrom_template h first later values
  rw [binary, modulo, formatted, filled]
  split
  · exact congrArg (fun text => Except.ok (Made.value (str text))) String.ofList_toList
  · split <;> rfl

end Value

/-! ## Templates in braces -/

namespace TextMethods

variable (h : Heap) (arguments : Arguments) {next : Nat}

theorem fill_chars (text : List Char) (pieces : List TemplatePiece) :
    fill h arguments next (text.map .char ++ pieces)
      = (text ++ ·) <$> fill h arguments next pieces := by
  induction text with
  | nil => simp
  | cons c text ih => simp [fill, ih]

theorem fill_next {value : Value} (given : arguments.positional[next]? = some value)
    (pieces : List TemplatePiece) :
    fill h arguments next (.field .next none :: pieces)
      = ((value.text h).toList ++ ·) <$> fill h arguments (next + 1) pieces := by
  rw [fill, fieldValue, given]
  rfl

theorem fill_missing (missing : arguments.positional[next]? = none)
    (pieces : List TemplatePiece) :
    fill h arguments next (.field .next none :: pieces)
      = .error s!"format: tuple index out of range: {next}" := by
  rw [fill, fieldValue, missing]
  rfl

/-- A template is filled from a positional value on if there are as many from there on as it has
fields. -/
theorem fill_template (first : String) (later : List String)
    (inside : next ≤ arguments.positional.length) :
    fill h arguments next (templatePieces (template "\x7b\x7d" isBrace first later).toList)
      = if next + later.length ≤ arguments.positional.length then
          .ok (interleaved first ((arguments.positional.drop next).map (Value.text h)) later).toList
        else .error s!"format: tuple index out of range: {arguments.positional.length}" := by
  -- each piece but the first stands behind a field, which takes the next value
  induction later generalizing first next with
  | nil =>
    have ended := templatePieces_doubled first []
    rw [List.append_nil] at ended
    rw [template, ended, fill_chars]
    simp [templatePieces, fill, interleaved, inside]
  | cons piece later ih =>
    have begun : (template "\x7b\x7d" isBrace first (piece :: later)).toList
        = (doubled isBrace first).toList
          ++ '\x7b' :: '\x7d' :: (template "\x7b\x7d" isBrace piece later).toList := by
      simp [template]
    have field : templatePieces
          ('\x7b' :: '\x7d' :: (template "\x7b\x7d" isBrace piece later).toList)
        = .field .next none
          :: templatePieces (template "\x7b\x7d" isBrace piece later).toList := rfl
    rw [begun, templatePieces_doubled, fill_chars, field]
    cases given : arguments.positional[next]? with
    | none =>
      have last : next = arguments.positional.length :=
        Nat.le_antisymm inside (List.getElem?_eq_none_iff.mp given)
      rw [fill_missing h arguments given]
      simp [last]
    | some value =>
      obtain ⟨bound, rfl⟩ := List.getElem?_eq_some_iff.mp given
      have counted : next + (piece :: later).length = next + 1 + later.length := by
        rw [List.length_cons]
        omega
      rw [fill_next h arguments given, ih piece bound, List.drop_eq_getElem_cons bound, counted,
        List.map_cons, interleaved]
      split <;> simp

theorem run_format_template (first : String) (later : List String) (m : Machine) :
    run .format (template "\x7b\x7d" isBrace first later) arguments m
      = if later.length ≤ arguments.positional.length then
          .ok (.str (interleaved first (arguments.positional.map (Value.text m.heap)) later)) m
        else Eval.fail
          s!"format: tuple index out of range: {arguments.positional.length}" m := by
  have filled := fill_template m.heap arguments first later (Nat.zero_le _)
  rw [Nat.zero_add, List.drop_zero] at filled
  have ran : run .format (template "\x7b\x7d" isBrace first later) arguments m
      = (Eval.accept id (fill m.heap arguments 0
          (templatePieces (template "\x7b\x7d" isBrace first later).toList)) >>= fun chars =>
            pure (.str (String.ofList chars))) m := rfl
  rw [ran, filled]
  split
  · exact congrArg (fun text => EStateM.Result.ok (Value.str text) m) String.ofList_toList
  · rfl

/-- Filling a template puts the texts that `str` answers in the places of the fields. -/
theorem templates_interleave (call : Value → Arguments → Eval Value) (first : String)
    (later : List String) (arguments : Arguments) (m : Machine) :
    ∃ texts : List String,
      List.Forall₂
        (fun value text => Universe.run call .str (.ofList [value]) m = .ok (.str text) m)
        arguments.positional texts
      ∧ Eval.produce (fun h => Value.binary h .mod (.str (template "%s" isPercent first later))
          (.tuple arguments.positional)) m
        = (if texts.length = later.length then .ok (.str (interleaved first texts later)) m
          else if texts.length < later.length then
            Eval.fail "not enough arguments for format string" m
          else Eval.fail "too many arguments for format string" m)
      ∧ run .format (template "\x7b\x7d" isBrace first later) arguments m
        = (if later.length ≤ texts.length then .ok (.str (interleaved first texts later)) m
          else Eval.fail s!"format: tuple index out of range: {texts.length}" m) := by
  apply Exists.intro (arguments.positional.map (Value.text m.heap))
  rw [List.length_map]
  have formatted := Value.binary_mod_template m.heap first later arguments.positional
  refine ⟨?_, ?_, run_format_template arguments first later m⟩
  · exact List.forall₂_map_right_iff.mpr (List.forall₂_same.mpr fun value _ => rfl)
  · split at formatted
    case isTrue same => rw [if_pos same, Eval.produce_value formatted]
    case isFalse other =>
      rw [if_neg other, Eval.produce_refused formatted]
      split <;> rfl

end TextMethods

end PixelApplet
