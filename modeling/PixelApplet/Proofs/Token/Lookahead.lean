import Mathlib.Data.List.Basic
import PixelApplet.Proofs.Token.Turns
import PixelApplet.Proofs.Token.WrittenTokens

/-!
# How far ahead a token is read

A token takes no more than the text that is left, and no token is read by looking beyond a line end
that it does not take itself.  So what is read of a text that ends with a line end is read of every
text that begins with it.
-/

namespace PixelApplet

/-- A text of whole lines: unless it is empty, it ends with a line end. -/
def IsWholeLines (text : List Char) : Prop :=
  ∀ last ∈ text.getLast?, last = '\n'

variable {text rest : List Char} {c first : Char} (further : List Char)

theorem IsWholeLines.of_append (before : List Char) (whole : IsWholeLines (before ++ rest)) :
    IsWholeLines rest := by
  intro last isLast
  apply whole last
  rw [List.getLast?_append, isLast]
  rfl

theorem IsWholeLines.of_suffix (whole : IsWholeLines text) (isSuffix : rest <:+ text) :
    IsWholeLines rest := by
  obtain ⟨before, rfl⟩ := isSuffix
  exact whole.of_append before

theorem IsWholeLines.of_cons (whole : IsWholeLines (c :: rest)) : IsWholeLines rest :=
  IsWholeLines.of_append [c] whole

theorem IsWholeLines.drop (whole : IsWholeLines text) (count : Nat) :
    IsWholeLines (text.drop count) :=
  whole.of_suffix (List.drop_suffix count text)

theorem IsWholeLines.lineEnd_mem (whole : IsWholeLines text) (nonempty : text ≠ []) :
    '\n' ∈ text := by
  rw [← whole _ (List.getLast?_eq_some_getLast nonempty)]
  exact List.getLast_mem nonempty

/-- Behind a character that ends no line a line end is still to come. -/
theorem IsWholeLines.lineEnd_mem_of_cons (whole : IsWholeLines (c :: rest)) (other : c ≠ '\n') :
    '\n' ∈ rest :=
  List.mem_of_ne_of_mem (Ne.symm other) (whole.lineEnd_mem (List.cons_ne_nil c rest))

theorem takeWhile_append_of_lineEnd {p : Char → Bool} (ends : '\n' ∈ text)
    (stops : p '\n' = false) : (text ++ further).takeWhile p = text.takeWhile p := by
  induction text with
  | nil => cases ends
  | cons c text ih =>
    cases holds : p c with
    | false => simp [holds]
    | true =>
      have other : c ≠ '\n' := by
        rintro rfl
        rw [holds] at stops
        cases stops
      have ends : '\n' ∈ text := List.mem_of_ne_of_mem (Ne.symm other) ends
      simp [holds, ih ends]

theorem head?_append_of_lineEnd (ends : '\n' ∈ text) : (text ++ further).head? = text.head? := by
  cases text with
  | nil => cases ends
  | cons => rfl

namespace Lexeme

variable {kind : TokenKind} {width : Nat}

/-! ## Numbers -/

theorem beginsWithDigit_append (ends : '\n' ∈ text) :
    beginsWithDigit (text ++ further) = beginsWithDigit text := by
  rw [beginsWithDigit, head?_append_of_lineEnd _ ends, beginsWithDigit]

theorem numeralTail_append {fraction : Bool} (ends : '\n' ∈ text) :
    numeralTail fraction (text ++ further) = numeralTail fraction text := by
  induction length : text.length using Nat.strongRecOn generalizing fraction text with
  | ind n ih =>
    cases text with
    | nil => cases ends
    | cons c text =>
      by_cases lineEnd : c = '\n'
      · subst lineEnd
        rw [List.cons_append, numeralTail.eq_def, numeralTail.eq_def fraction ('\n' :: text)]
        rfl
      have ends := List.mem_of_ne_of_mem (Ne.symm lineEnd) ends
      have shorter {fraction : Bool} :
          numeralTail fraction (text ++ further) = numeralTail fraction text :=
        ih text.length (by simp [← length]) ends rfl
      rw [List.cons_append, numeralTail.eq_def, numeralTail.eq_def fraction (c :: text)]
      dsimp only
      simp only [beginsWithDigit_append _ ends, shorter]
      cases text with
      | nil => cases ends
      | cons next text =>
        rw [List.cons_append]
        dsimp only
        by_cases signed : next = '+' ∨ next = '-'
        · have ends : '\n' ∈ text := by
            rcases signed with rfl | rfl <;> simpa using ends
          simp only [beginsWithDigit_append _ ends,
            ih text.length (by rw [← length, List.length_cons, List.length_cons]; omega) ends rfl]
          rw [← List.cons_append, shorter]
        · simp only [signed, false_and, if_false]
          rw [← List.cons_append, shorter]

theorem number_append (ends : '\n' ∈ text) :
    number first (text ++ further) = number first text := by
  have decimal : number.decimal first (text ++ further) = number.decimal first text := by
    rw [number.decimal, numeralTail_append _ ends, number.decimal]
  cases text with
  | nil => cases ends
  | cons x text =>
    by_cases hexadecimal : first = '0' ∧ (x = 'x' ∨ x = 'X')
    · obtain ⟨rfl, isX⟩ := hexadecimal
      have ends : '\n' ∈ text := by
        rcases isX with rfl | rfl <;> simpa using ends
      simp only [List.cons_append, number, if_pos isX,
        takeWhile_append_of_lineEnd _ ends (p := Text.isHexDigit) (by decide)]
    · have isDecimal (rest : List Char) :
          number first (x :: rest) = number.decimal first (x :: rest) := by
        unfold number
        split
        · rename_i same
          cases same
          exact if_neg fun isX => hexadecimal ⟨rfl, isX⟩
        · rfl
      rw [List.cons_append, isDecimal, isDecimal]
      exact decimal

theorem numeralTail_length (fraction : Bool) (text : List Char) :
    (numeralTail fraction text).1.length ≤ text.length := by
  fun_induction numeralTail fraction text <;> simp_all

theorem number_width (read : number first text = .ok (kind, width)) : width ≤ text.length + 1 := by
  have decimal (read : number.decimal first text = .ok (kind, width)) :
      width ≤ text.length + 1 := by
    unfold number.decimal at read
    dsimp only at read
    split at read <;> cases read
    exact Nat.succ_le_succ (numeralTail_length ..)
  unfold number at read
  split at read
  · rename_i x rest
    split at read
    · dsimp only at read
      split at read <;> cases read
      have digits := (List.takeWhile_sublist Text.isHexDigit (l := rest)).length_le
      rw [List.length_cons]
      omega
    · exact decimal read
  · exact decimal read

/-! ## Strings -/

theorem hexEscape?_append {digits : Nat} (read : hexEscape? digits text = some c) :
    hexEscape? digits (text ++ further) = some c ∧ digits ≤ text.length := by
  unfold hexEscape? at read ⊢
  dsimp only at read ⊢
  split at read
  · rename_i valid
    have enough : digits ≤ text.length := by
      rw [Bool.and_eq_true, decide_eq_true_eq, List.length_take] at valid
      omega
    rw [List.take_append_of_le_length enough, if_pos valid]
    exact ⟨read, enough⟩
  · cases read

/-- An escape is read without its surroundings. -/
theorem escape_append {chars : List Char} (read : escape text = .ok (chars, width)) :
    escape (text ++ further) = .ok (chars, width) ∧ width ≤ text.length := by
  cases text with
  | nil => cases read
  | cons c text =>
    rw [List.cons_append, List.length_cons]
    unfold escape at read ⊢
    dsimp only at read ⊢
    split at read
    case h_9 | h_10 =>
      split at read
      · rename_i digits
        obtain ⟨digits, enough⟩ := hexEscape?_append further digits
        rw [digits]
        cases read
        exact ⟨rfl, Nat.succ_le_succ enough⟩
      · cases read
    case h_11 => cases read
    all_goals
      cases read
      exact ⟨rfl, Nat.succ_le_succ (Nat.zero_le _)⟩

/-- Whether two quotes come next is told from the text up to the line end. -/
theorem take_two_append {quote : Char} (ends : '\n' ∈ text) (noLineEnd : quote ≠ '\n') :
    (text ++ further).take 2 = [quote, quote] ↔ text.take 2 = [quote, quote] := by
  match text, ends with
  | [x], ends =>
    have same : x = '\n' := (List.mem_singleton.mp ends).symm
    simp [same, Ne.symm noLineEnd]
  | x :: y :: rest, _ => simp

theorem stringContents_append {form : StringForm} {count : Nat} {value : List Char}
    {result : List Char × Nat} (whole : IsWholeLines text) (noLineEnd : form.quote ≠ '\n')
    (read : stringContents form text count value = .ok result) :
    stringContents form (text ++ further) count value = .ok result := by
  fun_induction stringContents form text count value with
  | case1 | case5 | case7 | case8 | case9 => cases read
  | case2 count value rest single =>
    rw [List.cons_append, stringContents.eq_def]
    dsimp only
    rw [if_pos rfl, if_pos single]
    exact read
  | case3 count value rest triple quotes =>
    rw [← take_two_append further (whole.lineEnd_mem_of_cons noLineEnd) noLineEnd]
      at quotes
    rw [List.cons_append, stringContents.eq_def]
    dsimp only
    rw [if_pos rfl, if_neg triple, if_pos quotes]
    exact read
  | case4 count value rest triple noQuotes ih =>
    rw [← take_two_append further (whole.lineEnd_mem_of_cons noLineEnd) noLineEnd]
      at noQuotes
    rw [List.cons_append, stringContents.eq_def]
    dsimp only
    rw [if_pos rfl, if_neg triple, if_neg noQuotes]
    exact ih whole.of_cons read
  | case6 count value raw next more noQuote goesOn ih =>
    rw [List.cons_append, List.cons_append, stringContents.eq_def]
    dsimp only
    rw [if_neg noQuote, if_neg goesOn, if_pos rfl, if_pos raw]
    exact ih whole.of_cons.of_cons read
  | case10 count value rest cooked chars width escaped noQuote goesOn ih =>
    obtain ⟨escaped, enough⟩ := escape_append further escaped
    rw [List.cons_append, stringContents.eq_def]
    dsimp only
    rw [if_neg noQuote, if_neg goesOn, if_pos rfl, if_neg cooked, escaped]
    dsimp only
    rw [List.drop_append_of_le_length enough]
    exact ih (whole.of_cons.drop width) read
  | case11 count value c rest noQuote goesOn noEscape ih =>
    rw [List.cons_append, stringContents.eq_def]
    dsimp only
    rw [if_neg noQuote, if_neg goesOn, if_neg noEscape]
    exact ih whole.of_cons read

theorem stringContents_width {form : StringForm} {count : Nat} {value : List Char}
    {result : List Char × Nat} (read : stringContents form text count value = .ok result) :
    result.2 ≤ count + text.length := by
  fun_induction stringContents form text count value with
  | case1 | case5 | case7 | case8 | case9 => cases read
  | case2 =>
    cases read
    simp
  | case3 count value rest triple quotes =>
    have enough := congrArg List.length quotes
    cases read
    simp at enough ⊢
    omega
  | case10 count value rest cooked chars width escaped noQuote goesOn ih =>
    have enough := (escape_append [] escaped).2
    have goesOn := ih read
    rw [List.length_drop] at goesOn
    rw [List.length_cons]
    omega
  | case4 _ _ _ _ _ ih | case6 _ _ _ _ _ _ _ ih | case11 _ _ _ _ _ _ _ ih =>
    have goesOn := ih read
    simp only [List.length_cons]
    omega

theorem stringLiteral_append {quote : Char} {raw : Bool} {opened : Nat} (whole : IsWholeLines text)
    (ends : '\n' ∈ text) (noLineEnd : quote ≠ '\n')
    (read : stringLiteral quote raw opened text = .ok (kind, width)) :
    stringLiteral quote raw opened (text ++ further) = .ok (kind, width)
      ∧ width ≤ opened + text.length := by
  unfold stringLiteral at read ⊢
  by_cases triple : text.take 2 = [quote, quote]
  · have enough : 2 ≤ text.length := by
      have two := congrArg List.length triple
      simp at two
      omega
    simp only [take_two_append _ ends noLineEnd, triple, decide_true, if_true,
      List.drop_append_of_le_length enough] at read ⊢
    cases contents : stringContents ⟨quote, true, raw⟩ (text.drop 2) (opened + 2) [] with
    | error fault =>
      rw [contents] at read
      cases read
    | ok result =>
      have width := stringContents_width contents
      rw [List.length_drop] at width
      rw [contents] at read
      cases read
      rw [stringContents_append _ (whole.drop 2) noLineEnd contents]
      exact ⟨rfl, by omega⟩
  · simp only [take_two_append _ ends noLineEnd, triple, decide_false, if_false] at read ⊢
    cases contents : stringContents ⟨quote, false, raw⟩ text opened [] with
    | error fault =>
      rw [contents] at read
      cases read
    | ok result =>
      have width := stringContents_width contents
      rw [contents] at read
      cases read
      rw [stringContents_append _ whole noLineEnd contents]
      exact ⟨rfl, width⟩

/-! ## Words and marks -/

theorem word_append (whole : IsWholeLines text) (ends : '\n' ∈ text)
    (read : Lexeme.word first text = .ok (kind, width)) :
    Lexeme.word first (text ++ further) = .ok (kind, width) ∧ width ≤ text.length + 1 := by
  cases text with
  | nil => cases ends
  | cons c text =>
    by_cases raw : first = 'r' ∧ (c = '"' ∨ c = '\x27')
    · obtain ⟨rfl, rfl | rfl⟩ := raw
      all_goals
        have string := stringLiteral_append further whole.of_cons
          (List.mem_of_ne_of_mem (by decide) ends) (by decide) read
        rw [Nat.add_comm 2] at string
        exact string
    · have noQuote (rest : List Char) (isR : first = 'r') :
          (c :: rest).head? ≠ some '"' ∧ (c :: rest).head? ≠ some '\x27' := by
        constructor <;> intro quote <;> cases quote
        · exact raw ⟨isR, .inl rfl⟩
        · exact raw ⟨isR, .inr rfl⟩
      have letters : (c :: (text ++ further)).takeWhile Text.continuesIdentifier
          = (c :: text).takeWhile Text.continuesIdentifier :=
        takeWhile_append_of_lineEnd _ ends (by decide)
      rw [word_of_no_quote (noQuote text)] at read
      rw [List.cons_append, word_of_no_quote (noQuote _), letters]
      cases read
      exact ⟨rfl, Nat.succ_le_succ (List.takeWhile_sublist _).length_le⟩

theorem mark_append (ends : '\n' ∈ text) : mark first (text ++ further) = mark first text := by
  have head := head?_append_of_lineEnd further ends
  have behind (slash : text.head? = some '/') :
      (text ++ further).tail.head? = text.tail.head? := by
    cases text with
    | nil => cases ends
    | cons c rest =>
      cases slash
      exact head?_append_of_lineEnd _ (List.mem_of_ne_of_mem (by decide) ends)
  by_cases slash : text.head? = some '/'
  · simp only [mark, head, behind slash]
  · simp only [mark, head, slash, if_false]

theorem mark_width {symbol : Symbol} (read : mark first text = .ok (symbol, width)) :
    width ≤ text.length + 1 := by
  have one {c : Char} (next : text.head? = some c) : 1 ≤ text.length := by
    cases text with
    | nil => cases next
    | cons => simp
  have two {c d : Char} (next : text.head? = some c) (behind : text.tail.head? = some d) :
      2 ≤ text.length := by
    match text, next, behind with
    | _ :: _ :: _, _, _ => simp
  unfold mark at read
  dsimp only at read
  split at read
  all_goals try split at read
  all_goals try split at read
  all_goals cases read
  all_goals first
    | exact Nat.le_add_left 1 _
    | exact Nat.succ_le_succ (one ‹_›)
    | exact Nat.succ_le_succ (two ‹_› ‹_›)

/-- A token is read of a text that ends with a line end as of any text that begins with it. -/
theorem read_append (whole : IsWholeLines (first :: text)) (noLineEnd : first ≠ '\n')
    (read : Lexeme.read first text = .ok (kind, width)) :
    Lexeme.read first (text ++ further) = .ok (kind, width) ∧ width ≤ (first :: text).length := by
  have ends := whole.lineEnd_mem_of_cons noLineEnd
  unfold Lexeme.read at read ⊢
  rw [beginsWithDigit_append _ ends, number_append _ ends, mark_append _ ends]
  split at read
  · rename_i begins
    rw [if_pos begins]
    exact word_append _ whole.of_cons ends read
  rename_i noWord
  rw [if_neg noWord]
  split at read
  · rename_i digit
    rw [if_pos digit]
    exact ⟨read, number_width read⟩
  rename_i noDigit
  rw [if_neg noDigit]
  split at read
  · rename_i point
    rw [if_pos point]
    exact ⟨read, number_width read⟩
  rename_i noPoint
  rw [if_neg noPoint]
  split at read
  · rename_i quote
    rw [if_pos quote]
    have string := stringLiteral_append further whole.of_cons ends noLineEnd read
    rw [Nat.add_comm 1] at string
    exact string
  · rename_i noQuote
    rw [if_neg noQuote]
    refine ⟨read, ?_⟩
    cases marked : mark first text <;> rw [marked] at read <;> cases read
    exact mark_width marked

end Lexeme

/-! ## The reader in front of a text that goes on -/

namespace Reader

variable {r s line : Reader} {count width : Nat}

/-- The reader of a text that is followed by another. -/
def followedBy (r : Reader) (further : List Char) : Reader :=
  { r with rest := r.rest ++ further }

theorem followedBy_consume (enough : count ≤ r.rest.length) :
    (r.followedBy further).consume count = (r.consume count).followedBy further := by
  simp only [followedBy, consume, List.take_append_of_le_length enough,
    List.drop_append_of_le_length enough]

theorem indentation_append (ends : '\n' ∈ text) :
    indentation width (text ++ further) = indentation width text := by
  induction text generalizing width with
  | nil => cases ends
  | cons c text ih =>
    by_cases lineEnd : c = '\n'
    · subst lineEnd
      rfl
    · have ends := List.mem_of_ne_of_mem (Ne.symm lineEnd) ends
      simp only [List.cons_append, indentation, ih ends]

/-- The white space that begins a line does not reach to the line end. -/
theorem lineEnd_mem_drop (ends : '\n' ∈ text) : '\n' ∈ text.drop (indentation width text).2 := by
  induction text generalizing width with
  | nil => cases ends
  | cons c text ih =>
    by_cases lineEnd : c = '\n'
    · subst lineEnd
      exact ends
    · have ends := List.mem_of_ne_of_mem (Ne.symm lineEnd) ends
      unfold indentation
      dsimp only
      split
      · exact ih ends
      split
      · exact ih ends
      split
      · exact ih ends
      · exact List.mem_cons_of_mem c ends

theorem followedBy_margin (ends : '\n' ∈ r.rest) :
    (r.followedBy further).margin = r.margin.followedBy further := by
  have behind : '\n' ∈ r.rest.drop (indentation 0 r.rest).2 := lineEnd_mem_drop ends
  have enough : (indentation 0 r.rest).2 ≤ r.rest.length := by
    apply Nat.le_of_lt
    apply Nat.lt_of_not_le
    intro all
    rw [List.drop_of_length_le all] at behind
    cases behind
  rw [margin, margin, ← followedBy_consume _ enough]
  rw [followedBy, indentation_append _ ends]

theorem insignificant_append {inComment : Bool} (whole : IsWholeLines text)
    (goesOn : insignificant inComment text < text.length) :
    insignificant inComment (text ++ further) = insignificant inComment text := by
  fun_induction insignificant inComment text with
  | case1 => cases goesOn
  | case2 =>
    rw [List.cons_append, insignificant.eq_def]
    rfl
  | case3 c rest other ih =>
    rw [List.cons_append, insignificant.eq_def]
    simp only [if_true, other, if_false, ih whole.of_cons (Nat.lt_of_succ_lt_succ goesOn)]
  | case4 inComment c rest code blank ih =>
    rw [List.cons_append, insignificant.eq_def]
    simp only [code, blank, if_true, Bool.false_eq_true, if_false,
      ih whole.of_cons (Nat.lt_of_succ_lt_succ goesOn)]
  | case5 inComment rest code noBlank ih =>
    rw [List.cons_append, insignificant.eq_def]
    simp only [code, noBlank, if_true, Bool.false_eq_true, if_false,
      ih whole.of_cons (Nat.lt_of_succ_lt_succ goesOn)]
  | case6 inComment code more noBlank noComment ih =>
    rw [List.cons_append, List.cons_append, insignificant.eq_def]
    simp only [code, noBlank, noComment, if_true, Bool.false_eq_true, if_false,
      ih whole.of_cons.of_cons (Nat.lt_of_succ_lt_succ (Nat.lt_of_succ_lt_succ goesOn))]
  | case7 inComment rest code noContinuation noBlank noComment =>
    have ends := whole.lineEnd_mem_of_cons (by decide)
    cases rest with
    | nil => cases ends
    | cons c rest =>
      have other : c ≠ '\n' := fun lineEnd => noContinuation rest (by rw [lineEnd])
      rw [List.cons_append, List.cons_append, insignificant.eq_def]
      simp only [code, noBlank, noComment, if_true, Bool.false_eq_true, if_false]
      split
      · rename_i same
        cases same
        exact absurd rfl other
      · rfl
  | case8 inComment c rest code noBlank noComment noEscape =>
    rw [List.cons_append, insignificant.eq_def]
    simp only [code, noBlank, noComment, noEscape, Bool.false_eq_true, if_false]

theorem followedBy_skipInsignificant (whole : IsWholeLines r.rest)
    (goesOn : r.skipInsignificant.rest ≠ []) :
    (r.followedBy further).skipInsignificant = r.skipInsignificant.followedBy further := by
  have goesOn : insignificant false r.rest < r.rest.length := by
    apply Nat.lt_of_not_le
    intro all
    exact goesOn (List.drop_of_length_le all)
  rw [skipInsignificant, skipInsignificant, ← followedBy_consume _ (Nat.le_of_lt goesOn)]
  rw [followedBy, insignificant_append _ whole goesOn]

theorem followedBy_applyIndentation : (r.followedBy further).applyIndentation width
    = (r.applyIndentation width).map (followedBy · further) := by
  rw [applyIndentation_eq, applyIndentation_eq]
  unfold followedBy
  dsimp only
  split_ifs <;> rfl

theorem followedBy_trackBracket {kind : TokenKind} :
    (r.followedBy further).trackBracket first kind
      = (r.trackBracket first kind).map (followedBy · further) := by
  unfold followedBy trackBracket
  dsimp only
  split <;> try rfl
  split <;> try rfl
  split <;> try rfl
  split <;> try rfl
  split <;> rfl

/-- The start of a line of a text that is followed by another. -/
def Line.followedBy (begun : Line) (further : List Char) : Line :=
  match begun with
  | blank s => blank (s.followedBy further)
  | logical s => logical (s.followedBy further)

theorem LineStart.followedBy {begun : Except LexError Line} (start : r.LineStart begun)
    (ends : '\n' ∈ r.rest) :
    (r.followedBy further).LineStart (begun.map (Line.followedBy · further)) := by
  have same := followedBy_margin further ends
  have behind : '\n' ∈ r.margin.rest := lineEnd_mem_drop ends
  have begins {text : List Char} (at_ : r.margin.rest = text) :
      (r.followedBy further).margin.rest = text ++ further := by
    rw [same, ← at_]
    rfl
  have width : (indentation 0 (r.followedBy further).rest).1 = (indentation 0 r.rest).1 := by
    rw [Reader.followedBy, indentation_append _ ends]
  have applies : (r.followedBy further).margin.inLine.applyIndentation
      (indentation 0 (r.followedBy further).rest).1
        = (r.margin.inLine.applyIndentation (indentation 0 r.rest).1).map
          (Reader.followedBy · further) := by
    rw [same, width, ← followedBy_applyIndentation]
    rfl
  cases start with
  | ended at_ =>
    rw [at_] at behind
    cases behind
  | empty at_ =>
    have start := LineStart.empty (begins at_)
    rw [same, followedBy_consume _ (by simp [at_])] at start
    exact start
  | @comment text at_ ends =>
    have start := LineStart.comment (begins at_) (List.mem_append_left further ends)
    have length : commentLength (r.margin.followedBy further).rest
        = commentLength r.margin.rest := by
      unfold commentLength Reader.followedBy
      rw [takeWhile_append_of_lineEnd _ behind (by decide)]
    rw [same, length, followedBy_consume _ (commentLength_lt_iff.mpr behind)] at start
    exact start
  | lastComment at_ goesOn =>
    rw [at_] at behind
    exact absurd (List.mem_of_ne_of_mem (by decide) behind) goesOn
  | indented at_ noLineEnd noComment applied =>
    rw [applied] at applies
    exact .indented (begins at_) noLineEnd noComment applies
  | misaligned at_ noLineEnd noComment applied =>
    rw [applied] at applies
    exact .misaligned (begins at_) noLineEnd noComment applies

theorem Enters.followedBy (enters : r.Enters line) (ends : '\n' ∈ r.rest) :
    (r.followedBy further).Enters (line.followedBy further) := by
  cases enters with
  | inside inside => exact .inside inside
  | margin start begun =>
    have begins := (lineStart_of_beginLine begun).followedBy further ends
    exact .margin start begins.beginLine

theorem followedBy_lineEnd {text : List Char} (at_ : r.rest = '\n' :: text) :
    (r.followedBy further).lineEnd = r.lineEnd.followedBy further := by
  have consume : (r.followedBy further).consume 1 = (r.consume 1).followedBy further :=
    followedBy_consume _ (by simp [at_])
  unfold Reader.lineEnd
  rw [consume]
  dsimp only
  show (if r.brackets.isEmpty then _ else _) = _
  split <;> rfl

theorem followedBy_token {first : Char} {text : List Char} (at_ : r.rest = first :: text)
    (whole : IsWholeLines r.rest) (noLineEnd : first ≠ '\n')
    (read : r.token first text = .ok s) :
    (r.followedBy further).token first (text ++ further) = .ok (s.followedBy further) := by
  rw [at_] at whole
  unfold Reader.token at read ⊢
  split at read
  · cases read
  · rename_i kind width lexeme
    obtain ⟨lexeme, enough⟩ := Lexeme.read_append further whole noLineEnd lexeme
    rw [← at_] at enough
    rw [lexeme]
    dsimp only
    rw [followedBy_trackBracket]
    split at read
    · cases read
    · rename_i tracked track
      cases read
      have enough : width - 1 + 1 ≤ tracked.rest.length := by
        rw [trackBracket_rest track]
        have some_ : 0 < r.rest.length := by simp [at_]
        omega
      rw [track]
      dsimp only [Except.map]
      rw [followedBy_consume _ enough]
      rfl

theorem Turn.followedBy (turn : r.Turn s) (whole : IsWholeLines r.rest) :
    (r.followedBy further).Turn (s.followedBy further) := by
  have ends : '\n' ∈ r.rest := by
    apply whole.lineEnd_mem
    intro none_
    have shorter := turn.rest_length
    rw [none_] at shorter
    cases shorter
  have skips {line : Reader} {first : Char} {text : List Char} (enters : r.Enters line)
      (at_ : line.skipInsignificant.rest = first :: text) :
      (line.followedBy further).skipInsignificant = line.skipInsignificant.followedBy further := by
    apply followedBy_skipInsignificant _ (whole.of_suffix enters.rest_suffix)
    rw [at_]
    exact List.cons_ne_nil first text
  have begins {line : Reader} {first : Char} {text : List Char} (enters : r.Enters line)
      (at_ : line.skipInsignificant.rest = first :: text) :
      (line.followedBy further).skipInsignificant.rest = first :: (text ++ further) := by
    rw [skips enters at_, Reader.followedBy, at_, List.cons_append]
  cases turn with
  | blank start passed =>
    have begins := (lineStart_of_beginLine passed).followedBy further ends
    exact .blank start begins.beginLine
  | @lineEnd line text enters at_ =>
    have turn := Turn.lineEnd (enters.followedBy further ends) (begins enters at_)
    rw [skips enters at_, followedBy_lineEnd _ at_] at turn
    exact turn
  | @token line _ first text enters at_ noLineEnd read =>
    apply Turn.token (enters.followedBy further ends) (begins enters at_) noLineEnd
    rw [skips enters at_]
    exact followedBy_token _ at_ (whole.of_suffix enters.skipped_suffix) noLineEnd read

/-- What is read of whole lines is read of every text that begins with them. -/
theorem Turns.followedBy (turns : r.Turns s) (whole : IsWholeLines r.rest) :
    (r.followedBy further).Turns (s.followedBy further) := by
  induction turns with
  | refl => exact Relation.ReflTransGen.refl
  | tail turns turn ih =>
    exact ih.tail (turn.followedBy further (whole.of_suffix (Turns.rest_suffix turns)))

end Reader

end PixelApplet
