import PixelApplet.Proofs.Json.Reading

/-!
# Compact documents are read back

Reading what a document is written as gives the document again: with all characters of its texts, all
words, and the keys of its objects in their order, as deep as the reader follows.
-/

namespace PixelApplet.Json

mutual

/-- A document without floats, nested at most `depth` deep: its numbers are words, and the keys of
each of its objects are different. -/
def Plain : (depth : Nat) → Json → Prop
  | _, null => True
  | _, bool _ => True
  | _, int n => Word.least ≤ n ∧ n ≤ Word.greatest
  | _, float _ => False
  | _, string _ => True
  | depth, array items => 0 < depth ∧ PlainItems (depth - 1) items
  | depth, object fields =>
    0 < depth ∧ (fields.map Prod.fst).Nodup ∧ PlainFields (depth - 1) fields

/-- The items of an array as parts of such a document. -/
def PlainItems : (depth : Nat) → List Json → Prop
  | _, [] => True
  | depth, item :: rest => item.Plain depth ∧ PlainItems depth rest

/-- The fields of an object as parts of such a document. -/
def PlainFields : (depth : Nat) → List (String × Json) → Prop
  | _, [] => True
  | depth, (_, value) :: rest => value.Plain depth ∧ PlainFields depth rest

end

/-! ## What documents are written as -/

/-- Items of an array up to its closing bracket, with a comma before each but the first one. -/
def itemsText (first : Bool) : List Json → List Char
  | [] => []
  | item :: rest => (if first then [] else [',']) ++ item.compact.toList ++ itemsText false rest

/-- A key up to its colon. -/
def keyText (key : String) : List Char :=
  '"' :: (key.toList.flatMap escapeChar ++ ['"', ':'])

/-- Fields of an object up to its closing brace, with a comma before each but the first one. -/
def fieldsText (first : Bool) : List (String × Json) → List Char
  | [] => []
  | (key, value) :: rest =>
    (if first then [] else [',']) ++ keyText key ++ value.compact.toList ++ fieldsText false rest

theorem toList_compactItems (items : List Json) :
    (compactItems items).toList = itemsText true items := by
  induction items with
  | nil => rfl
  | cons item rest ih =>
    cases rest with
    | nil => simp [compactItems, itemsText]
    | cons next others =>
      simp only [itemsText, if_true, List.nil_append] at ih
      simp [compactItems, itemsText, ih]

theorem toList_compactFields (fields : List (String × Json)) :
    (compactFields fields).toList = fieldsText true fields := by
  induction fields with
  | nil => rfl
  | cons field rest ih =>
    obtain ⟨key, value⟩ := field
    cases rest with
    | nil => simp [compactFields, fieldsText, keyText, quote]
    | cons next others =>
      obtain ⟨key', value'⟩ := next
      simp only [fieldsText, if_true, List.nil_append] at ih
      simp [compactFields, fieldsText, keyText, quote, ih]

theorem toList_compact_int (n : Int) :
    (int n).compact.toList = if 0 ≤ n then Nat.toDigits 10 n.toNat
      else '-' :: Nat.toDigits 10 (-n).toNat := by
  rw [compact, Int.toString_eq_repr, Int.repr_eq_if]
  split <;> simp

/-- What a document is written as begins with one of these characters. -/
def openings : List Char :=
  ['n', 't', 'f', '"', '[', '\x7b', '-'] ++ Lexeme.decimalDigits

theorem exists_opening {depth : Nat} {document : Json} (plain : document.Plain depth) :
    ∃ first rest, document.compact.toList = first :: rest ∧ first ∈ openings := by
  cases document with
  | null => exact ⟨_, _, rfl, by decide⟩
  | bool b => cases b <;> exact ⟨_, _, rfl, by decide⟩
  | int n =>
    rw [toList_compact_int]
    split
    · cases digits : Nat.toDigits 10 n.toNat with
      | nil => exact absurd digits Nat.toDigits_ne_nil
      | cons first rest =>
        refine ⟨first, rest, rfl, List.mem_append_right _ (Lexeme.mem_decimalDigits ?_)⟩
        exact Lexeme.isDecimalDigit_of_mem_toDigits first (by rw [digits]; exact .head _)
    · exact ⟨_, _, rfl, by decide⟩
  | float x => exact plain.elim
  | string text =>
    refine ⟨'"', text.toList.flatMap escapeChar ++ ['"'], ?_, by decide⟩
    simp [compact, quote]
  | array items => exact ⟨'[', itemsText true items ++ [']'], by simp [compact, toList_compactItems],
      by decide⟩
  | object fields => exact ⟨'\x7b', fieldsText true fields ++ ['\x7d'],
      by simp [compact, toList_compactFields], by decide⟩

theorem compact_begins {depth : Nat} {document : Json} (plain : document.Plain depth)
    (after : List Char) : Reads.Begins (document.compact.toList ++ after) := by
  obtain ⟨first, rest, written, opening⟩ := exists_opening plain
  rw [written]
  rintro _ ⟨⟩
  have visible : openings.all fun c => !decide (c ∈ [' ', '\t', '\r', '\n']) := by decide
  simpa using List.all_eq_true.mp visible first opening

/-! ## Documents are read back -/

namespace Reads

theorem itemsText_false (items : List Json) (after : List Char) :
    EndsValue (itemsText false items ++ ']' :: after) := by
  cases items <;> rintro _ ⟨⟩ <;> decide

theorem fieldsText_false (fields : List (String × Json)) (after : List Char) :
    EndsValue (fieldsText false fields ++ '\x7d' :: after) := by
  cases fields <;> rintro _ ⟨⟩ <;> decide

theorem length_le_escaped (contents : List Char) :
    contents.length ≤ (contents.flatMap escapeChar).length := by
  induction contents with
  | nil => exact Nat.le_refl _
  | cons c contents ih =>
    have : 0 < (escapeChar c).length := by
      rcases escapeChar_cases c with ⟨same, _⟩ | ⟨escaped, same, _⟩ <;> rw [same] <;>
        exact Nat.succ_pos _
    rw [List.flatMap_cons, List.length_append, List.length_cons]
    omega

/-- A whole number is read behind its sign, or from its first digit on. -/
theorem takes_int {n : Int} {levels fuel : Nat} {after : List Char}
    (fits : Word.least ≤ n ∧ n ≤ Word.greatest) (ends : EndsValue after) :
    Takes (value (fuel + 1) levels) ((int n).compact.toList ++ after) after (int n) := by
  have begins := compact_begins (show (int n).Plain 0 from fits) after
  have bounds : n.natAbs ≤ Nat.pow 2 63 := by
    unfold Word.least Word.greatest at fits
    show n.natAbs ≤ 9223372036854775808
    omega
  rw [toList_compact_int] at begins ⊢
  unfold Reads.value
  refine Takes.bind (Takes.peekBehindBlanks begins) ?_
  by_cases natural : 0 ≤ n
  · rw [if_pos natural] at begins ⊢
    have number : Takes (number false) (Nat.toDigits 10 n.toNat ++ after) after
        (signed false n.toNat) := Takes.number ends nofun (by omega)
    have same : signed false n.toNat = int n := congrArg int (Int.toNat_of_nonneg natural)
    rw [same] at number
    cases digits : Nat.toDigits 10 n.toNat with
    | nil => exact absurd digits Nat.toDigits_ne_nil
    | cons first rest =>
      rw [digits] at number
      have digit := Lexeme.isDecimalDigit_of_mem_toDigits (n := n.toNat) first
        (by rw [digits]; exact .head _)
      rw [List.cons_append, List.head?_cons]
      split
      case h_9 c _ _ _ _ _ _ _ same =>
        cases same
        rw [if_pos digit]
        exact number
      all_goals
        rename_i same
        cases same
        try cases digit
  · rw [if_neg natural, List.cons_append]
    refine Takes.bind (Takes.advance '-' _) ?_
    have number : Takes (number true) (Nat.toDigits 10 (-n).toNat ++ after) after
        (signed true (-n).toNat) := Takes.number ends (fun _ => by omega) (by omega)
    have same : signed true (-n).toNat = int n := by
      refine congrArg int ?_
      rw [if_pos rfl, Int.toNat_of_nonneg (by omega), Int.neg_neg]
    rw [same] at number
    exact number

theorem putField_new {key : String} {done : List (String × Json)} (item : Json)
    (new : key ∉ done.map Prod.fst) : putField key item done = done ++ [(key, item)] := by
  induction done with
  | nil => rfl
  | cons field done ih =>
    rw [List.map_cons, List.mem_cons, not_or] at new
    rw [putField, if_neg (Ne.symm new.1), ih new.2, List.cons_append]

mutual

/-- What a document is written as is read as the document. -/
theorem takes_value : (document : Json) → ∀ {depth levels fuel : Nat} {after : List Char},
    document.Plain depth → depth < levels → document.compact.toList.length < fuel →
    EndsValue after →
    Takes (value fuel levels) (document.compact.toList ++ after) after document
  | document, depth, levels, 0, after, _, _, room, _ => absurd room (Nat.not_lt_zero _)
  | .null, _, _, _ + 1, _, plain, _, _, _ => by
    unfold Reads.value
    refine Takes.bind (Takes.peekBehindBlanks (compact_begins plain _)) ?_
    exact Takes.bind (Takes.advance 'n' _) (Takes.bind (Takes.word _ _) Takes.pure)
  | .bool true, _, _, _ + 1, _, plain, _, _, _ => by
    unfold Reads.value
    refine Takes.bind (Takes.peekBehindBlanks (compact_begins plain _)) ?_
    exact Takes.bind (Takes.advance 't' _) (Takes.bind (Takes.word _ _) Takes.pure)
  | .bool false, _, _, _ + 1, _, plain, _, _, _ => by
    unfold Reads.value
    refine Takes.bind (Takes.peekBehindBlanks (compact_begins plain _)) ?_
    exact Takes.bind (Takes.advance 'f' _) (Takes.bind (Takes.word _ _) Takes.pure)
  | .int n, _, _, _ + 1, _, plain, _, _, ends => takes_int plain ends
  | .float x, _, _, _ + 1, _, plain, _, _, _ => plain.elim
  | .string text, _, _, fuel + 1, after, plain, _, room, _ => by
    have written : (string text).compact.toList ++ after
        = '"' :: (text.toList.flatMap escapeChar ++ '"' :: after) := by
      simp [compact, quote]
    have fits : text.toList.length < fuel + 1 := by
      have := length_le_escaped text.toList
      simp only [compact, quote, String.toList_ofList, List.length_cons, List.length_append] at room
      omega
    have begins := compact_begins plain after
    rw [written] at begins ⊢
    unfold Reads.value
    refine Takes.bind (Takes.peekBehindBlanks begins) ?_
    refine Takes.bind (Takes.advance '"' _) (Takes.bind (Takes.stringRest _ _ [] _ fits) ?_)
    rw [List.reverse_nil, List.nil_append, String.ofList_toList]
    exact Takes.pure
  | .array items, depth, levels, fuel + 1, after, plain, deep, room, _ => by
    have written : (array items).compact.toList ++ after
        = '[' :: (itemsText true items ++ ']' :: after) := by
      simp [compact, toList_compactItems]
    have fits : (itemsText true items).length + 1 < fuel := by
      simp only [compact, String.toList_append, toList_compactItems, List.length_append] at room
      simp at room
      omega
    have begins := compact_begins plain after
    have positive := plain.1
    rw [written] at begins ⊢
    unfold Reads.value
    refine Takes.bind (Takes.peekBehindBlanks begins) ?_
    have room : ¬levels ≤ 1 := by omega
    simp only [List.head?_cons, if_neg room]
    refine Takes.bind (Takes.advance '[' _) ?_
    exact Takes.bind (takes_itemsRest items plain.2 (by omega) fits) Takes.pure
  | .object fields, depth, levels, fuel + 1, after, plain, deep, room, _ => by
    have written : (object fields).compact.toList ++ after
        = '\x7b' :: (fieldsText true fields ++ '\x7d' :: after) := by
      simp [compact, toList_compactFields]
    have fits : (fieldsText true fields).length + 1 < fuel := by
      simp only [compact, String.toList_append, toList_compactFields, List.length_append] at room
      simp at room
      omega
    have begins := compact_begins plain after
    have positive := plain.1
    rw [written] at begins ⊢
    unfold Reads.value
    refine Takes.bind (Takes.peekBehindBlanks begins) ?_
    have room : ¬levels ≤ 1 := by omega
    simp only [List.head?_cons, if_neg room]
    refine Takes.bind (Takes.advance '\x7b' _) ?_
    have takesFields : Takes (fieldsRest fuel (levels - 1) [])
        (fieldsText true fields ++ '\x7d' :: after) after ([] ++ fields) :=
      takes_fieldsRest fields plain.2.2 (by omega) plain.2.1 fits
    exact Takes.bind takesFields Takes.pure

theorem takes_itemsRest : (items : List Json) → ∀ {depth levels fuel : Nat} {first : Bool}
    {after : List Char}, PlainItems depth items → depth < levels →
    (itemsText first items).length + 1 < fuel →
    Takes (itemsRest fuel levels first) (itemsText first items ++ ']' :: after) after items
  | _, _, _, 0, _, _, _, _, room => absurd room (Nat.not_lt_zero _)
  | [], _, _, fuel + 1, first, after, plain, _, room => by
    unfold Reads.itemsRest
    refine Takes.bind (Takes.peekBehindBlanks (by rintro _ ⟨⟩; decide)) ?_
    exact Takes.bind (Takes.advance ']' _) Takes.pure
  | item :: rest, depth, levels, fuel + 1, first, after, plain, deep, room => by
    have begins := compact_begins plain.1 (itemsText false rest ++ ']' :: after)
    obtain ⟨opening, others, written, isOpening⟩ := exists_opening plain.1
    have notEnd : opening ≠ ']' := by
      rintro rfl
      exact absurd isOpening (by decide)
    have width : item.compact.toList.length = others.length + 1 := by
      rw [written, List.length_cons]
    simp only [itemsText, List.length_append] at room
    have takesRest : Takes (itemsRest fuel levels false) (itemsText false rest ++ ']' :: after)
        after rest := takes_itemsRest rest plain.2 deep (by omega)
    have both : Takes
        (do
          let item ← value fuel levels
          return item :: (← itemsRest fuel levels false))
        (item.compact.toList ++ (itemsText false rest ++ ']' :: after)) after (item :: rest) :=
      Takes.bind (takes_value item plain.1 deep (by omega) (itemsText_false rest after))
        (Takes.bind takesRest Takes.pure)
    rw [written] at begins both
    unfold Reads.itemsRest
    cases first with
    | true =>
      simp only [itemsText, if_true, List.nil_append, List.append_assoc, written]
      refine Takes.bind (Takes.peekBehindBlanks begins) ?_
      rw [List.cons_append, List.head?_cons]
      split
      · rename_i none_
        cases none_
      · rename_i same
        exact absurd (Option.some.inj same) notEnd
      · exact both
    | false =>
      simp only [itemsText, Bool.false_eq_true, if_false, List.append_assoc, written,
        List.cons_append, List.nil_append]
      refine Takes.bind (Takes.peekBehindBlanks (by rintro _ ⟨⟩; decide)) ?_
      refine Takes.bind (Takes.advance ',' _) ?_
      refine Takes.bind (Takes.peekBehindBlanks begins) ?_
      rw [List.head?_cons]
      split
      · rename_i none_
        cases none_
      · rename_i same
        exact absurd (Option.some.inj same) notEnd
      · exact both

theorem takes_fieldsRest : (fields : List (String × Json)) → ∀ {depth levels fuel : Nat}
    {done : List (String × Json)} {after : List Char}, PlainFields depth fields → depth < levels →
    ((done ++ fields).map Prod.fst).Nodup → (fieldsText done.isEmpty fields).length + 1 < fuel →
    Takes (fieldsRest fuel levels done) (fieldsText done.isEmpty fields ++ '\x7d' :: after) after
      (done ++ fields)
  | _, _, _, 0, _, _, _, _, _, room => absurd room (Nat.not_lt_zero _)
  | [], _, _, fuel + 1, done, after, plain, _, _, room => by
    unfold Reads.fieldsRest
    rw [List.append_nil]
    refine Takes.bind (Takes.peekBehindBlanks (by rintro _ ⟨⟩; decide)) ?_
    exact Takes.bind (Takes.advance '\x7d' _) Takes.pure
  | (key, item) :: rest, depth, levels, fuel + 1, done, after, plain, deep, distinct, room => by
    simp only [fieldsText, keyText, List.length_append, List.length_cons] at room
    have fits := length_le_escaped key.toList
    have takesKey := Takes.stringRest key.toList
      (':' :: (item.compact.toList ++ (fieldsText false rest ++ '\x7d' :: after))) [] fuel
      (by omega)
    have takesItem : Takes (value fuel levels)
        (item.compact.toList ++ (fieldsText false rest ++ '\x7d' :: after))
        (fieldsText false rest ++ '\x7d' :: after) item :=
      takes_value item plain.1 deep (by omega) (fieldsText_false rest after)
    rw [List.reverse_nil, List.nil_append, String.ofList_toList] at takesKey
    have new : key ∉ done.map Prod.fst := by
      rw [List.map_append, List.map_cons] at distinct
      exact fun member => (List.nodup_append.mp distinct).2.2 _ member _ (.head _) rfl
    have notEmpty : (done ++ [(key, item)]).isEmpty = false := by
      cases done <;> rfl
    have takesRest : Takes (fieldsRest fuel levels (done ++ [(key, item)]))
        (fieldsText (done ++ [(key, item)]).isEmpty rest ++ '\x7d' :: after) after
        (done ++ [(key, item)] ++ rest) :=
      takes_fieldsRest rest plain.2 deep (by simpa using distinct) (by rw [notEmpty]; omega)
    rw [notEmpty, List.append_assoc, List.singleton_append] at takesRest
    have all : Takes
        (do
          let key ← stringRest fuel []
          match ← Reads.peekBehindBlanks with
          | some ':' => advance
          | some _ => failNext .expectedColon
          | none => failNext .endInObject
          let item ← value fuel levels
          fieldsRest fuel levels (putField key item done))
        (key.toList.flatMap escapeChar ++ '"' :: ':' :: (item.compact.toList
          ++ (fieldsText false rest ++ '\x7d' :: after))) after (done ++ (key, item) :: rest) := by
      refine Takes.bind takesKey ?_
      refine Takes.bind (Takes.peekBehindBlanks (by rintro _ ⟨⟩; decide)) ?_
      refine Takes.bind (Takes.advance ':' _) (Takes.bind takesItem ?_)
      rw [putField_new item new]
      exact takesRest
    unfold Reads.fieldsRest
    cases done with
    | nil =>
      simp only [List.isEmpty_nil, fieldsText, keyText, if_true, List.nil_append, List.append_assoc,
        List.cons_append]
      refine Takes.bind (Takes.peekBehindBlanks (by rintro _ ⟨⟩; decide)) ?_
      exact Takes.bind (Takes.advance '"' _) all
    | cons field others =>
      simp only [List.isEmpty_cons, fieldsText, keyText, Bool.false_eq_true, if_false,
        List.append_assoc, List.cons_append, List.nil_append]
      refine Takes.bind (Takes.peekBehindBlanks (by rintro _ ⟨⟩; decide)) ?_
      refine Takes.bind (Takes.advance ',' _) ?_
      refine Takes.bind (Takes.peekBehindBlanks (by rintro _ ⟨⟩; decide)) ?_
      exact Takes.bind (Takes.advance '"' _) all

end

end Reads

/-- The compact text of a document without floats is read as the document, as deep as the reader
follows. -/
theorem parse_compact {depth : Nat} {document : Json} (plain : document.Plain depth)
    (shallow : depth < 128) : parse document.compact = .ok document := by
  have takes : Reads.Takes (Reads.document (document.compact.toList.length + 2))
      document.compact.toList [] document := by
    have value : Reads.Takes (Reads.value (document.compact.toList.length + 2) 128)
        (document.compact.toList ++ []) [] document :=
      Reads.takes_value document plain shallow (Nat.lt_add_of_pos_right Nat.two_pos) nofun
    rw [List.append_nil] at value
    exact Reads.Takes.bind value (Reads.Takes.bind (Reads.Takes.peekBehindBlanks nofun)
      Reads.Takes.pure)
  obtain ⟨line, column, ran⟩ := takes 1 0
  show Except.map Prod.fst (Reads.document (document.compact.toList.length + 2)
    ⟨document.compact.toList, 1, 0⟩) = _
  rw [ran]
  rfl

end PixelApplet.Json
