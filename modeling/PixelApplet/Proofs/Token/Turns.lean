import Mathlib.Logic.Relation
import PixelApplet.Token.Lexer

/-!
# Reading in turns

A script is read in turns.  At the start of a logical line a turn measures the indentation, unless
the line has no tokens: then the turn passes over it.  Behind the indentation, and anywhere within a
line, a turn skips what is insignificant and reads a line end or a token.  Each turn leaves less
text, so after finitely many turns the reader stops: at a fault, or at the end of the text.  What
one turn keeps is therefore true of all that is read.
-/

namespace PixelApplet.Reader

variable {r s line : Reader} {outcome : Except LexError Reader}

/-- The next character begins a logical line. -/
def AtLogicalLine (r : Reader) : Prop :=
  r.atLineStart = true ∧ r.brackets = []

/-- Goes on within a line, behind its indentation. -/
inductive Enters (r : Reader) : Reader → Prop where
  | margin {line : Reader} (start : r.AtLogicalLine) (begun : r.beginLine = .ok (.logical line)) :
    Enters r line
  | inside (inside : ¬r.AtLogicalLine) : Enters r r

/-- Reads what one turn reads. -/
inductive Turn (r : Reader) : Reader → Prop where
  | blank {s : Reader} (start : r.AtLogicalLine) (passed : r.beginLine = .ok (.blank s)) : Turn r s
  | lineEnd {line : Reader} {text : List Char} (enters : r.Enters line)
    (at_ : line.skipInsignificant.rest = '\n' :: text) : Turn r line.skipInsignificant.lineEnd
  | token {line s : Reader} {first : Char} {text : List Char} (enters : r.Enters line)
    (at_ : line.skipInsignificant.rest = first :: text) (noLineEnd : first ≠ '\n')
    (read : line.skipInsignificant.token first text = .ok s) : Turn r s

/-- Comes to a fault, or to the end of the text. -/
inductive Stops (r : Reader) : Except LexError Reader → Prop where
  | margin {e : LexError} (start : r.AtLogicalLine) (failed : r.beginLine = .error e) :
    Stops r (.error e)
  | token {line : Reader} {first : Char} {text : List Char} {e : LexError} (enters : r.Enters line)
    (at_ : line.skipInsignificant.rest = first :: text) (noLineEnd : first ≠ '\n')
    (failed : line.skipInsignificant.token first text = .error e) : Stops r (.error e)
  | ended {line : Reader} (enters : r.Enters line) (at_ : line.skipInsignificant.rest = []) :
    Stops r (.ok line.skipInsignificant)

/-- Reads what any number of turns read. -/
def Turns : Reader → Reader → Prop :=
  Relation.ReflTransGen Turn

/-! ## What the steps do -/

/-- Behind the white space that begins a line. -/
def margin (r : Reader) : Reader :=
  r.consume (indentation 0 r.rest).2

/-- No longer at the start of a line. -/
def inLine (r : Reader) : Reader :=
  { r with atLineStart := false }

/-- The reader behind the start of a line. -/
def Line.reader : Line → Reader
  | blank r | logical r => r

/-- What stands at the start of a line, and what is made of it. -/
inductive LineStart (r : Reader) : Except LexError Line → Prop where
  | ended (at_ : r.margin.rest = []) :
    LineStart r (.ok (.logical r.margin.inLine))
  | empty {text : List Char} (at_ : r.margin.rest = '\n' :: text) :
    LineStart r (.ok (.blank (r.margin.consume 1)))
  | comment {text : List Char} (at_ : r.margin.rest = '#' :: text) (ends : '\n' ∈ text) :
    LineStart r (.ok (.blank (r.margin.consume (commentLength r.margin.rest + 1))))
  | lastComment {text : List Char} (at_ : r.margin.rest = '#' :: text) (goesOn : '\n' ∉ text) :
    LineStart r (.ok (.logical (r.margin.consume (commentLength r.margin.rest)).inLine))
  | indented {first : Char} {text : List Char} {line : Reader}
    (at_ : r.margin.rest = first :: text) (noLineEnd : first ≠ '\n') (noComment : first ≠ '#')
    (applied : r.margin.inLine.applyIndentation (indentation 0 r.rest).1
      = .ok line) : LineStart r (.ok (.logical line))
  | misaligned {first : Char} {text : List Char} {e : LexError}
    (at_ : r.margin.rest = first :: text) (noLineEnd : first ≠ '\n') (noComment : first ≠ '#')
    (applied : r.margin.inLine.applyIndentation (indentation 0 r.rest).1
      = .error e) : LineStart r (.error e)

theorem commentLength_lt_iff {text : List Char} :
    commentLength text < text.length ↔ '\n' ∈ text := by
  induction text with
  | nil => simp [commentLength]
  | cons c text ih =>
    by_cases lineEnd : c = '\n'
    · simp [commentLength, lineEnd]
    · simpa [commentLength, lineEnd, Ne.symm lineEnd] using ih

theorem commentLength_append {comment text : List Char} (inLine : '\n' ∉ comment) :
    commentLength (comment ++ '\n' :: text) = comment.length := by
  have goesOn : ∀ c ∈ comment, decide (c ≠ '\n') = true := by
    intro c member
    rw [decide_eq_true_eq]
    rintro rfl
    exact inLine member
  rw [commentLength, List.takeWhile_append_of_pos goesOn]
  simp

/-- Behind a comment and its line end the next line begins. -/
theorem rest_behind_comment {comment text : List Char} (inLine : '\n' ∉ comment)
    (at_ : r.rest = comment ++ '\n' :: text) :
    (r.consume (commentLength r.rest + 1)).rest = text := by
  have split : r.rest = (comment ++ ['\n']) ++ text := by simp [at_]
  have length : commentLength r.rest + 1 = (comment ++ ['\n']).length := by
    rw [at_, commentLength_append inLine, List.length_append, List.length_singleton]
  rw [length, consume, split, List.drop_left]

theorem commentLength_lt_iff_of_comment {text : List Char} :
    commentLength ('#' :: text) < ('#' :: text).length ↔ '\n' ∈ text := by
  rw [commentLength_lt_iff, List.mem_cons, or_iff_right (by decide)]

theorem beginLine_eq (r : Reader) : r.beginLine =
    match r.margin.rest with
    | [] => .ok (.logical r.margin.inLine)
    | c :: text =>
      if c = '\n' then .ok (.blank (r.margin.consume 1))
      else if c = '#' then
        if commentLength (c :: text) < (c :: text).length then
          .ok (.blank (r.margin.consume (commentLength (c :: text) + 1)))
        else .ok (.logical (r.margin.consume (commentLength (c :: text))).inLine)
      else (r.margin.inLine.applyIndentation (indentation 0 r.rest).1).map .logical :=
  rfl

theorem lineStart_beginLine (r : Reader) : r.LineStart r.beginLine := by
  rw [beginLine_eq]
  split
  · rename_i at_
    exact .ended at_
  · rename_i first text at_
    split
    · rename_i lineEnd
      exact .empty (lineEnd ▸ at_)
    · rename_i noLineEnd
      split
      · rename_i comment
        subst comment
        split
        · rename_i shorter
          rw [← at_]
          exact .comment at_ (commentLength_lt_iff_of_comment.mp shorter)
        · rename_i whole
          rw [← at_]
          exact .lastComment at_ fun ends => whole (commentLength_lt_iff_of_comment.mpr ends)
      · rename_i noComment
        cases applied : r.margin.inLine.applyIndentation (indentation 0 r.rest).1 with
        | error e => exact .misaligned at_ noLineEnd noComment applied
        | ok line => exact .indented at_ noLineEnd noComment applied

theorem lineStart_of_beginLine {begun : Except LexError Line} (begins : r.beginLine = begun) :
    r.LineStart begun :=
  begins ▸ lineStart_beginLine r

/-- What is made of the start of a line is told from what stands there. -/
theorem LineStart.beginLine {begun : Except LexError Line} (start : r.LineStart begun) :
    r.beginLine = begun := by
  rw [beginLine_eq]
  cases start with
  | ended at_ => rw [at_]
  | empty at_ =>
    rw [at_]
    exact if_pos rfl
  | comment at_ ends =>
    rw [at_]
    exact if_pos (commentLength_lt_iff_of_comment.mpr ends)
  | lastComment at_ goesOn =>
    rw [at_]
    exact if_neg fun shorter => goesOn (commentLength_lt_iff_of_comment.mp shorter)
  | indented at_ noLineEnd noComment applied | misaligned at_ noLineEnd noComment applied =>
    rw [at_]
    dsimp only
    rw [if_neg noLineEnd, if_neg noComment, applied]
    rfl

/-- The columns to the right of a line are closed, each by a mark. -/
theorem closeIndents_eq (r : Reader) (width : Nat) (opened : List Nat) :
    r.closeIndents width opened = { r with
      indents := opened.dropWhile (width < ·)
      tokens := List.replicate (opened.takeWhile (width < ·)).length
        ⟨.dedent, r.position, r.position⟩ ++ r.tokens } := by
  induction opened generalizing r with
  | nil => rfl
  | cons open_ outer ih =>
    rw [closeIndents]
    by_cases right : width < open_
    · rw [if_pos right, ih]
      simp only [List.dropWhile_cons, List.takeWhile_cons, right, decide_true, if_true,
        List.length_cons, List.replicate_succ', List.append_assoc, List.singleton_append]
      rfl
    · rw [if_neg right]
      simp [right]

/-- A logical line opens a column, or closes the columns to its right if it stands in the next. -/
theorem applyIndentation_eq (r : Reader) (width : Nat) :
    r.applyIndentation width =
      if r.indents.headD 0 < width then
        .ok { r.pushLayout .indent with indents := width :: r.indents }
      else if (r.indents.dropWhile (width < ·)).headD 0 = width then
        .ok { r with
          indents := r.indents.dropWhile (width < ·)
          tokens := List.replicate (r.indents.takeWhile (width < ·)).length
            ⟨.dedent, r.position, r.position⟩ ++ r.tokens }
      else .error ⟨.badIndentation, r.position⟩ := by
  unfold applyIndentation
  dsimp only
  split
  · rfl
  · rename_i notRight
    split
    · rw [closeIndents_eq]
    · rename_i notLeft
      have level : r.indents.headD 0 = width := by omega
      have stays : r.indents.dropWhile (width < ·) = r.indents
          ∧ r.indents.takeWhile (width < ·) = [] := by
        cases indents : r.indents with
        | nil => exact ⟨rfl, rfl⟩
        | cons open_ outer =>
          rw [indents] at notLeft
          have notRight : ¬width < open_ := notLeft
          simp [notRight]
      rw [stays.1, stays.2, if_pos level]
      rfl

/-- Which brackets are open behind a token. -/
inductive Brackets (r : Reader) (first : Char) : TokenKind → List (Char × Position) → Prop where
  | plain {kind : TokenKind}
    (plain : ∀ mark, kind = .symbol mark → isOpening mark = false ∧ openingOf? mark = none) :
    Brackets r first kind r.brackets
  | opening {mark : Symbol} (opens : isOpening mark = true) :
    Brackets r first (.symbol mark) ((first, r.position) :: r.brackets)
  | closing {mark : Symbol} {bracket : Char} {place : Position} {outer : List (Char × Position)}
    (noOpening : isOpening mark = false) (answers : openingOf? mark = some bracket)
    (opened : r.brackets = (bracket, place) :: outer) : Brackets r first (.symbol mark) outer

theorem brackets_of_trackBracket {first : Char} {kind : TokenKind}
    (tracked : r.trackBracket first kind = .ok s) :
    s = { r with brackets := s.brackets } ∧ r.Brackets first kind s.brackets := by
  cases kind with
  | symbol mark =>
    rw [trackBracket] at tracked
    split at tracked
    · rename_i opens
      cases tracked
      exact ⟨rfl, .opening opens⟩
    · rename_i noOpening
      rw [Bool.not_eq_true] at noOpening
      split at tracked
      · rename_i none_
        cases tracked
        refine ⟨rfl, .plain fun other same => ?_⟩
        cases same
        exact ⟨noOpening, none_⟩
      · rename_i bracket answers
        split at tracked
        · rename_i top place outer opened
          split at tracked
          · rename_i same
            subst same
            cases tracked
            exact ⟨rfl, .closing noOpening answers opened⟩
          · cases tracked
        · cases tracked
  | _ =>
    cases tracked
    exact ⟨rfl, .plain nofun⟩

/-- A token is read, the brackets are kept account of, and the text of the token is passed over. -/
theorem token_of_ok {first : Char} {text : List Char} (read : r.token first text = .ok s) :
    ∃ kind width brackets, Lexeme.read first text = .ok (kind, width)
      ∧ r.Brackets first kind brackets
      ∧ s = { r.consume (width - 1 + 1) with
          brackets := brackets
          tokens := ⟨kind, r.position, (r.consume (width - 1 + 1)).position⟩ :: r.tokens } := by
  unfold token at read
  split at read
  · cases read
  · rename_i kind width lexeme
    split at read
    · cases read
    · rename_i tracked track
      obtain ⟨same, brackets⟩ := brackets_of_trackBracket track
      cases read
      refine ⟨kind, width, tracked.brackets, lexeme, brackets, ?_⟩
      rw [same]
      rfl

/-- At the end of the text a statement that is not finished is. -/
def ended (r : Reader) : Reader :=
  if r.atStatementStart then r else r.pushLayout .newline

theorem foldl_pushLayout_dedent (r : Reader) (opened : List Nat) :
    opened.foldl (fun s _ => s.pushLayout .dedent) r = { r with
      tokens := List.replicate opened.length ⟨.dedent, r.position, r.position⟩ ++ r.tokens } := by
  induction opened generalizing r with
  | nil => rfl
  | cons _ opened ih =>
    rw [List.foldl_cons, ih, List.length_cons, List.replicate_succ', List.append_assoc]
    rfl

/-- If no bracket is open at the end of the text, the open columns are closed and the file ends. -/
theorem finish_of_closed (closed : r.brackets = []) :
    r.finish = .ok (⟨.endOfFile, r.position, r.position⟩ ::
      (List.replicate r.indents.length ⟨.dedent, r.position, r.position⟩
        ++ r.ended.tokens)).reverse := by
  have place : r.ended.position = r.position := by
    unfold ended
    split <;> rfl
  have opened : r.ended.indents = r.indents := by
    unfold ended
    split <;> rfl
  unfold finish
  rw [closed]
  show Except.ok ((r.ended.indents.foldl _ r.ended).pushLayout .endOfFile).tokens.reverse = _
  rw [foldl_pushLayout_dedent, place, opened]
  simp only [pushLayout]

theorem finish_of_open {first : Char} {place : Position} {outer : List (Char × Position)}
    (opened : r.brackets = (first, place) :: outer) :
    r.finish = .error ⟨.unbalanced first, place⟩ := by
  rw [finish, opened]

/-! ## What is left of the text -/

theorem consume_rest_suffix (r : Reader) (count : Nat) : (r.consume count).rest <:+ r.rest :=
  List.drop_suffix count r.rest

theorem LineStart.rest_suffix {begun : Line} (start : r.LineStart (.ok begun)) :
    begun.reader.rest <:+ r.rest := by
  have margin : r.margin.rest <:+ r.rest := r.consume_rest_suffix _
  cases start with
  | ended => exact margin
  | empty | comment | lastComment => exact (r.margin.consume_rest_suffix _).trans margin
  | indented at_ noLineEnd noComment applied =>
    rw [Line.reader, applyIndentation_rest applied]
    exact margin

theorem Enters.rest_suffix (enters : r.Enters line) : line.rest <:+ r.rest := by
  cases enters with
  | inside => exact List.suffix_rfl
  | margin start begun => exact (lineStart_of_beginLine begun).rest_suffix

theorem Enters.skipped_suffix (enters : r.Enters line) : line.skipInsignificant.rest <:+ r.rest :=
  (line.consume_rest_suffix _).trans enters.rest_suffix

theorem lineEnd_rest (r : Reader) : r.lineEnd.rest = r.rest.drop 1 := by
  unfold lineEnd
  split <;> rfl

theorem Turn.rest_suffix (turn : r.Turn s) : s.rest <:+ r.rest := by
  cases turn with
  | blank start passed => exact (lineStart_of_beginLine passed).rest_suffix
  | lineEnd enters at_ =>
    rw [lineEnd_rest]
    exact (List.drop_suffix ..).trans enters.skipped_suffix
  | token enters at_ noLineEnd read =>
    obtain ⟨_, _, _, _, _, rfl⟩ := token_of_ok read
    exact (consume_rest_suffix ..).trans enters.skipped_suffix

theorem Turns.rest_suffix (turns : r.Turns s) : s.rest <:+ r.rest := by
  induction turns with
  | refl => exact List.suffix_rfl
  | tail _ turn ih => exact turn.rest_suffix.trans ih

/-! ## All turns -/

theorem atLineStart_of_beginLine (begun : r.beginLine = .ok (.logical line)) :
    line.atLineStart = false := by
  cases lineStart_of_beginLine begun with
  | ended | lastComment => rfl
  | indented at_ noLineEnd noComment applied =>
    rw [applyIndentation_eq] at applied
    split at applied
    · cases applied
      rfl
    · split at applied
      · cases applied
        rfl
      · cases applied

/-- Within a line a reader goes on where it is. -/
theorem enters_of_inLine (inLine : r.atLineStart = false) : r.Enters r := by
  apply Enters.inside
  rintro ⟨atStart, -⟩
  cases inLine.symm.trans atStart

theorem Enters.inside_line (enters : r.Enters line) : ¬line.AtLogicalLine := by
  cases enters with
  | margin start begun =>
    rintro ⟨atStart, -⟩
    rw [atLineStart_of_beginLine begun] at atStart
    cases atStart
  | inside inside => exact inside

theorem isEmpty_iff {r : Reader} :
    (r.atLineStart && r.brackets.isEmpty) = true ↔ r.AtLogicalLine := by
  rw [Bool.and_eq_true, List.isEmpty_iff, AtLogicalLine]

theorem readAll_of_blank (start : r.AtLogicalLine) (passed : r.beginLine = .ok (.blank s)) :
    r.readAll = s.readAll := by
  rw [readAll.eq_def r, if_pos (isEmpty_iff.mpr start)]
  split <;> simp_all

theorem readAll_of_inside (inside : ¬r.AtLogicalLine) : r.readAll =
    match r.skipInsignificant.rest with
    | [] => .ok r.skipInsignificant
    | c :: text =>
      if c = '\n' then r.skipInsignificant.lineEnd.readAll
      else (r.skipInsignificant.token c text).bind readAll := by
  rw [readAll.eq_def r, if_neg fun start => inside (isEmpty_iff.mp start)]
  split
  · rename_i atEnd
    rw [atEnd]
  · rename_i c text at_
    rw [at_]
    dsimp only
    split
    · rfl
    · split <;> simp_all [Except.bind]

/-- Going on within a line reads what is read from there on. -/
theorem Enters.readAll (enters : r.Enters line) : r.readAll = line.readAll := by
  have inside := enters.inside_line
  cases enters with
  | inside => rfl
  | margin start begun =>
    rw [Reader.readAll.eq_def r, if_pos (isEmpty_iff.mpr start), Reader.readAll.eq_def line,
      if_neg fun start => inside (isEmpty_iff.mp start)]
    split
    · simp_all
    · simp_all
    · rename_i same
      rw [begun] at same
      cases same
      rfl

theorem Turn.readAll (turn : r.Turn s) : r.readAll = s.readAll := by
  cases turn with
  | blank start passed => exact readAll_of_blank start passed
  | lineEnd enters at_ =>
    rw [enters.readAll, readAll_of_inside enters.inside_line, at_]
    exact if_pos rfl
  | token enters at_ noLineEnd read =>
    rw [enters.readAll, readAll_of_inside enters.inside_line, at_]
    dsimp only
    rw [if_neg noLineEnd, read]
    rfl

theorem Turns.readAll (turns : r.Turns s) : r.readAll = s.readAll := by
  induction turns with
  | refl => rfl
  | tail _ turn ih => exact ih.trans turn.readAll

theorem Stops.readAll (stops : r.Stops outcome) : r.readAll = outcome := by
  cases stops with
  | margin start failed =>
    rw [Reader.readAll.eq_def, if_pos (isEmpty_iff.mpr start)]
    split <;> simp_all
  | token enters at_ noLineEnd failed =>
    rw [enters.readAll, readAll_of_inside enters.inside_line, at_]
    dsimp only
    rw [if_neg noLineEnd, failed]
    rfl
  | ended enters at_ =>
    rw [enters.readAll, readAll_of_inside enters.inside_line, at_]

/-- A reader that goes on within a line takes a turn or stops. -/
theorem Enters.turn_or_stops (enters : r.Enters line) :
    (∃ s, r.Turn s) ∨ ∃ outcome, r.Stops outcome := by
  cases at_ : line.skipInsignificant.rest with
  | nil => exact .inr ⟨_, .ended enters at_⟩
  | cons first text =>
    by_cases lineEnd : first = '\n'
    · subst lineEnd
      exact .inl ⟨_, .lineEnd enters at_⟩
    · cases read : line.skipInsignificant.token first text with
      | error e => exact .inr ⟨_, .token enters at_ lineEnd read⟩
      | ok s => exact .inl ⟨s, .token enters at_ lineEnd read⟩

theorem turn_or_stops (r : Reader) : (∃ s, r.Turn s) ∨ ∃ outcome, r.Stops outcome := by
  by_cases start : r.AtLogicalLine
  · cases begun : r.beginLine with
    | error e => exact .inr ⟨_, .margin start begun⟩
    | ok begun_ =>
      cases begun_ with
      | blank s => exact .inl ⟨s, .blank start begun⟩
      | logical line => exact (Enters.margin start begun).turn_or_stops
  · exact (Enters.inside start).turn_or_stops

theorem Enters.rest_length (enters : r.Enters line) : line.rest.length ≤ r.rest.length := by
  cases enters with
  | inside => exact Nat.le_refl _
  | margin start begun => exact beginLine_logical_rest_length begun

/-- Each turn leaves less text. -/
theorem Turn.rest_length (turn : r.Turn s) : s.rest.length < r.rest.length := by
  cases turn with
  | blank start passed => exact beginLine_blank_rest_length passed
  | lineEnd enters at_ =>
    apply Nat.lt_of_lt_of_le (lineEnd_rest_length at_)
    exact Nat.le_trans (skipInsignificant_rest_length _) enters.rest_length
  | token enters at_ noLineEnd read =>
    apply Nat.lt_of_lt_of_le (token_rest_length at_ read)
    exact Nat.le_trans (skipInsignificant_rest_length _) enters.rest_length

/-- A reader stops after finitely many turns, and then it has read everything. -/
theorem exists_turns (r : Reader) : ∃ s, r.Turns s ∧ s.Stops r.readAll := by
  induction length : r.rest.length using Nat.strongRecOn generalizing r with
  | ind n ih =>
    rcases turn_or_stops r with ⟨s, turn⟩ | ⟨outcome, stops⟩
    · obtain ⟨last, turns, stops⟩ := ih s.rest.length (length ▸ turn.rest_length) s rfl
      rw [turn.readAll]
      exact ⟨last, Relation.ReflTransGen.head turn turns, stops⟩
    · rw [stops.readAll]
      exact ⟨r, Relation.ReflTransGen.refl, stops⟩

end PixelApplet.Reader
