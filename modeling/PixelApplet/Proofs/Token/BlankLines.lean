import PixelApplet.Proofs.Token.Layout
import PixelApplet.Proofs.Token.Lookahead

/-!
# Blank lines and comment lines

A line without tokens leaves no trace but in the places of what follows.  Two readers that differ in
places alone go on alike, turn by turn; and where a text leaves the reader at the start of a logical
line, the reader of a longer text comes by there too.
-/

namespace PixelApplet

/-- White space within a line. -/
def lineBlanks : List Char :=
  [' ', '\t', '\r', '\x0c']

/-- A line without tokens: white space, perhaps a comment, and the line end. -/
def IsBlankLine (line : List Char) : Prop :=
  ∃ margin comment, line = margin ++ (comment ++ ['\n']) ∧ (∀ c ∈ margin, c ∈ lineBlanks)
    ∧ (comment = [] ∨ ∃ text, comment = '#' :: text ∧ '\n' ∉ text)

/-- Both results are related, or both fail with the same fault. -/
inductive Agree {α : Type} (related : α → α → Prop) :
    Except LexError α → Except LexError α → Prop where
  | ok {a b : α} (holds : related a b) : Agree related (.ok a) (.ok b)
  | error {e f : LexError} (same : e.fault = f.fault) : Agree related (.error e) (.error f)

section

variable {α β : Type} {related : α → α → Prop} {outcome other : Except LexError α}

theorem Agree.ok_left {a : α} (agree : Agree related (.ok a) other) :
    ∃ b, other = .ok b ∧ related a b := by
  cases agree with
  | ok holds => exact ⟨_, rfl, holds⟩

theorem Agree.error_left {e : LexError} (agree : Agree related (.error e) other) :
    ∃ f, other = .error f ∧ e.fault = f.fault := by
  cases agree with
  | error same => exact ⟨_, rfl, same⟩

theorem Agree.bind {related' : β → β → Prop} {next : α → Except LexError β}
    (agree : Agree related outcome other)
    (goesOn : ∀ a b, related a b → Agree related' (next a) (next b)) :
    Agree related' (outcome.bind next) (other.bind next) := by
  cases agree with
  | ok holds => exact goesOn _ _ holds
  | error same => exact .error same

theorem Agree.map {related' : β → β → Prop} {f : α → β} (agree : Agree related outcome other)
    (goesOn : ∀ a b, related a b → related' (f a) (f b)) :
    Agree related' (outcome.map f) (other.map f) := by
  cases agree with
  | ok holds => exact .ok (goesOn _ _ holds)
  | error same => exact .error same

end

namespace Reader

variable {r s line : Reader} {first : Char} {text further : List Char}

/-! ## Readers that differ in places alone -/

/-- The readers stand alike, whatever the places. -/
structure Alike (r s : Reader) : Prop where
  rest : r.rest = s.rest
  indents : r.indents = s.indents
  brackets : r.brackets.map Prod.fst = s.brackets.map Prod.fst
  atLineStart : r.atLineStart = s.atLineStart
  kinds : r.tokens.map Token.kind = s.tokens.map Token.kind

/-- The starts of two lines are alike. -/
inductive Line.Alike : Line → Line → Prop where
  | blank {r s : Reader} (alike : r.Alike s) : Alike (.blank r) (.blank s)
  | logical {r s : Reader} (alike : r.Alike s) : Alike (.logical r) (.logical s)

theorem Alike.consume (alike : r.Alike s) (count : Nat) :
    (r.consume count).Alike (s.consume count) :=
  ⟨congrArg (List.drop count) alike.rest, alike.indents, alike.brackets, alike.atLineStart,
    alike.kinds⟩

theorem Alike.pushLayout (alike : r.Alike s) (kind : TokenKind) :
    (r.pushLayout kind).Alike (s.pushLayout kind) :=
  ⟨alike.rest, alike.indents, alike.brackets, alike.atLineStart, congrArg (kind :: ·) alike.kinds⟩

theorem Alike.inLine (alike : r.Alike s) : r.inLine.Alike s.inLine :=
  ⟨alike.rest, alike.indents, alike.brackets, rfl, alike.kinds⟩

theorem Alike.margin (alike : r.Alike s) : r.margin.Alike s.margin := by
  rw [Reader.margin, Reader.margin, ← alike.rest]
  exact alike.consume _

theorem Alike.skipInsignificant (alike : r.Alike s) :
    r.skipInsignificant.Alike s.skipInsignificant := by
  rw [Reader.skipInsignificant, Reader.skipInsignificant, ← alike.rest]
  exact alike.consume _

theorem Alike.closed_iff (alike : r.Alike s) : r.brackets = [] ↔ s.brackets = [] := by
  rw [← List.map_eq_nil_iff (f := Prod.fst), alike.brackets, List.map_eq_nil_iff]

theorem Alike.atLogicalLine_iff (alike : r.Alike s) : r.AtLogicalLine ↔ s.AtLogicalLine := by
  rw [AtLogicalLine, AtLogicalLine, alike.atLineStart, alike.closed_iff]

theorem Alike.atStatementStart (alike : r.Alike s) : r.atStatementStart = s.atStatementStart := by
  rw [Bool.eq_iff_iff, atStatementStart_iff, atStatementStart_iff, alike.kinds]

theorem Alike.applyIndentation (alike : r.Alike s) (width : Nat) :
    Agree Alike (r.applyIndentation width) (s.applyIndentation width) := by
  rw [applyIndentation_eq, applyIndentation_eq, ← alike.indents]
  split_ifs
  · have pushed := alike.pushLayout .indent
    exact .ok ⟨alike.rest, rfl, alike.brackets, alike.atLineStart, pushed.kinds⟩
  · refine .ok ⟨alike.rest, rfl, alike.brackets, alike.atLineStart, ?_⟩
    rw [List.map_append, List.map_append, alike.kinds]
    simp only [List.map_replicate]
  · exact .error rfl

theorem Alike.beginLine (alike : r.Alike s) : Agree Line.Alike r.beginLine s.beginLine := by
  have margin := alike.margin
  rw [beginLine_eq, beginLine_eq s, ← margin.rest, ← alike.rest]
  split
  · exact .ok (.logical margin.inLine)
  split
  · exact .ok (.blank (margin.consume 1))
  split
  · split
    · exact .ok (.blank (margin.consume _))
    · exact .ok (.logical (margin.consume _).inLine)
  · exact (margin.inLine.applyIndentation _).map fun _ _ => .logical

theorem Alike.lineEnd (alike : r.Alike s) : r.lineEnd.Alike s.lineEnd := by
  have behind := alike.consume 1
  have closed : r.brackets.isEmpty = s.brackets.isEmpty := by
    rw [Bool.eq_iff_iff, List.isEmpty_iff, List.isEmpty_iff, alike.closed_iff]
  unfold Reader.lineEnd
  rw [closed, alike.atStatementStart]
  split
  · refine ⟨behind.rest, alike.indents, alike.brackets, rfl, ?_⟩
    dsimp only
    split
    · exact alike.kinds
    · exact congrArg (.newline :: ·) alike.kinds
  · exact behind

theorem Alike.trackBracket (alike : r.Alike s) (first : Char) (kind : TokenKind) :
    Agree Alike (r.trackBracket first kind) (s.trackBracket first kind) := by
  have brackets := alike.brackets
  unfold Reader.trackBracket
  split
  · split
    · exact .ok ⟨alike.rest, alike.indents, congrArg (first :: ·) brackets, alike.atLineStart,
        alike.kinds⟩
    split
    · exact .ok alike
    · cases opened : r.brackets with
      | nil =>
        rw [alike.closed_iff.mp opened]
        exact .error rfl
      | cons bracket outer =>
        cases opened' : s.brackets with
        | nil =>
          rw [alike.closed_iff.mpr opened'] at opened
          cases opened
        | cons bracket' outer' =>
          rw [opened, opened'] at brackets
          obtain ⟨top, behind⟩ := List.cons.inj brackets
          dsimp only
          rw [← top]
          split
          · exact .ok ⟨alike.rest, alike.indents, behind, alike.atLineStart, alike.kinds⟩
          · exact .error rfl
  · exact .ok alike

theorem Alike.token (alike : r.Alike s) (first : Char) (text : List Char) :
    Agree Alike (r.token first text) (s.token first text) := by
  unfold Reader.token
  split
  · exact .error rfl
  · rename_i kind width lexeme
    have tracks := alike.trackBracket first kind
    split
    · rename_i failed
      rw [failed] at tracks
      obtain ⟨f, failed, same⟩ := tracks.error_left
      rw [failed]
      exact .error same
    · rename_i tracked track
      rw [track] at tracks
      obtain ⟨tracked', track, alike'⟩ := tracks.ok_left
      have behind := alike'.consume (width - 1 + 1)
      rw [track]
      exact .ok ⟨behind.rest, behind.indents, behind.brackets, behind.atLineStart,
        congrArg (kind :: ·) alike.kinds⟩

/-! ## Alike turns -/

theorem Alike.enters (alike : r.Alike s) (enters : r.Enters line) :
    ∃ line', s.Enters line' ∧ line.Alike line' := by
  cases enters with
  | inside inside => exact ⟨s, .inside (alike.atLogicalLine_iff.not.mp inside), alike⟩
  | margin start begun =>
    have begins := alike.beginLine
    rw [begun] at begins
    obtain ⟨begun', begun, alikeLine⟩ := begins.ok_left
    cases alikeLine with
    | logical alike' => exact ⟨_, .margin (alike.atLogicalLine_iff.mp start) begun, alike'⟩

theorem Alike.skips (alike : r.Alike s) (enters : r.Enters line) :
    ∃ line', s.Enters line' ∧ line.skipInsignificant.Alike line'.skipInsignificant := by
  obtain ⟨line', enters, alike⟩ := alike.enters enters
  exact ⟨line', enters, alike.skipInsignificant⟩

theorem Alike.turn {r' : Reader} (alike : r.Alike s) (turn : r.Turn r') :
    ∃ s', s.Turn s' ∧ r'.Alike s' := by
  cases turn with
  | blank start passed =>
    have begins := alike.beginLine
    rw [passed] at begins
    obtain ⟨begun', begun, alikeLine⟩ := begins.ok_left
    cases alikeLine with
    | blank alike' => exact ⟨_, .blank (alike.atLogicalLine_iff.mp start) begun, alike'⟩
  | lineEnd enters at_ =>
    obtain ⟨line', enters, skipped⟩ := alike.skips enters
    exact ⟨_, .lineEnd enters (skipped.rest.symm.trans at_), skipped.lineEnd⟩
  | @token _ _ first text enters at_ noLineEnd read =>
    obtain ⟨line', enters, skipped⟩ := alike.skips enters
    have reads := skipped.token first text
    rw [read] at reads
    obtain ⟨s', read, alike'⟩ := reads.ok_left
    exact ⟨s', .token enters (skipped.rest.symm.trans at_) noLineEnd read, alike'⟩

theorem Alike.turns {r' : Reader} (alike : r.Alike s) (turns : r.Turns r') :
    ∃ s', s.Turns s' ∧ r'.Alike s' := by
  induction turns with
  | refl => exact ⟨s, .refl, alike⟩
  | tail _ turn ih =>
    obtain ⟨_, turns, alike⟩ := ih
    obtain ⟨s', turn, alike⟩ := alike.turn turn
    exact ⟨s', turns.tail turn, alike⟩

theorem Alike.stops {outcome : Except LexError Reader} (alike : r.Alike s)
    (stops : r.Stops outcome) : ∃ other, s.Stops other ∧ Agree Alike outcome other := by
  cases stops with
  | margin start failed =>
    have begins := alike.beginLine
    rw [failed] at begins
    obtain ⟨f, failed, same⟩ := begins.error_left
    exact ⟨_, .margin (alike.atLogicalLine_iff.mp start) failed, .error same⟩
  | @token _ first text _ enters at_ noLineEnd failed =>
    obtain ⟨line', enters, skipped⟩ := alike.skips enters
    have reads := skipped.token first text
    rw [failed] at reads
    obtain ⟨f, failed, same⟩ := reads.error_left
    exact ⟨_, .token enters (skipped.rest.symm.trans at_) noLineEnd failed, .error same⟩
  | ended enters at_ =>
    obtain ⟨line', enters, skipped⟩ := alike.skips enters
    exact ⟨_, .ended enters (skipped.rest.symm.trans at_), .ok skipped⟩

theorem Alike.readAll (alike : r.Alike s) : Agree Alike r.readAll s.readAll := by
  obtain ⟨last, turns, stops⟩ := exists_turns r
  obtain ⟨last', turns', alike⟩ := alike.turns turns
  obtain ⟨other, stops', agree⟩ := alike.stops stops
  rw [turns'.readAll, stops'.readAll]
  exact agree

theorem Alike.finish (alike : r.Alike s) :
    Agree (fun tokens others => tokens.map Token.kind = others.map Token.kind)
      r.finish s.finish := by
  cases opened : r.brackets with
  | nil =>
    have ended : r.ended.tokens.map Token.kind = s.ended.tokens.map Token.kind := by
      unfold Reader.ended
      rw [alike.atStatementStart]
      split
      · exact alike.kinds
      · exact congrArg (.newline :: ·) alike.kinds
    rw [finish_of_closed opened, finish_of_closed (alike.closed_iff.mp opened)]
    apply Agree.ok
    simp [alike.indents, ended]
  | cons bracket outer =>
    have brackets := alike.brackets
    cases opened' : s.brackets with
    | nil =>
      rw [alike.closed_iff.mpr opened'] at opened
      cases opened
    | cons bracket' outer' =>
      rw [opened, opened'] at brackets
      rw [finish_of_open opened, finish_of_open opened']
      exact .error (congrArg LexFault.unbalanced (List.cons.inj brackets).1)

/-! ## Over a line without tokens -/

theorem indentation_of_blanks {margin : List Char} {width : Nat}
    (blanks : ∀ c ∈ margin, c ∈ lineBlanks) (other : first ∉ lineBlanks) :
    (indentation width (margin ++ first :: text)).2 = margin.length := by
  induction margin generalizing width with
  | nil =>
    simp only [lineBlanks, List.mem_cons, List.not_mem_nil, or_false, not_or] at other
    simp [indentation, other]
  | cons c margin ih =>
    have goesOn {width : Nat} :
        (indentation width (margin ++ first :: text)).2 = margin.length :=
      ih fun c member => blanks c (List.mem_cons_of_mem _ member)
    have blank := blanks c List.mem_cons_self
    simp only [lineBlanks, List.mem_cons, List.not_mem_nil, or_false] at blank
    rw [List.cons_append, indentation]
    rcases blank with rfl | rfl | rfl | rfl <;> simp [goesOn]

/-- A reader at the start of a logical line passes over a line without tokens. -/
theorem turn_of_blankLine {line : List Char} (start : r.AtLogicalLine) (blank : IsBlankLine line)
    (at_ : r.rest = line ++ text) : ∃ s, r.Turn s ∧ s.Alike { r with rest := text } := by
  obtain ⟨margin, comment, rfl, blanks, comments⟩ := blank
  have begins : r.margin.rest = comment ++ '\n' :: text := by
    have rest : r.rest = margin ++ (comment ++ '\n' :: text) := by
      simpa using at_
    have width : (indentation 0 r.rest).2 = margin.length := by
      rw [rest]
      obtain rfl | ⟨words, rfl, -⟩ := comments
      · exact indentation_of_blanks blanks (by decide)
      · exact indentation_of_blanks blanks (by decide)
    rw [Reader.margin, width, Reader.consume, rest, List.drop_left]
  have passes (count : Nat) (all : r.margin.rest.drop count = text) :
      (r.margin.consume count).Alike { r with rest := text } :=
    ⟨all, rfl, rfl, rfl, rfl⟩
  obtain rfl | ⟨words, rfl, inLine⟩ := comments
  · refine ⟨_, .blank start (LineStart.empty begins).beginLine, passes _ ?_⟩
    rw [begins]
    rfl
  · have isComment : r.margin.rest = '#' :: (words ++ '\n' :: text) := begins
    have ends : '\n' ∈ words ++ '\n' :: text := by simp
    have noLineEnd : '\n' ∉ '#' :: words := List.not_mem_cons_of_ne_of_not_mem (by decide) inLine
    exact ⟨_, .blank start (LineStart.comment isComment ends).beginLine,
      passes _ (rest_behind_comment noLineEnd begins)⟩

/-- Where a turn ends at the start of a logical line, it has passed over a line end last. -/
theorem Turn.lineEnd_suffix {awaited : List Symbol} (turn : r.Turn s) (laid : r.LaysOut awaited)
    (start : s.AtLogicalLine) : '\n' :: s.rest <:+ r.rest := by
  cases turn with
  | blank _ passed =>
    have margin : r.margin.rest <:+ r.rest := r.consume_rest_suffix _
    cases lineStart_of_beginLine passed with
    | empty at_ =>
      rw [at_] at margin
      simpa [Reader.consume, at_] using margin
    | comment at_ ends =>
      obtain ⟨words, after, rfl, inLine⟩ := List.eq_append_cons_of_mem ends
      have noLineEnd : '\n' ∉ '#' :: words := List.not_mem_cons_of_ne_of_not_mem (by decide) inLine
      rw [rest_behind_comment noLineEnd at_]
      rw [at_] at margin
      exact (List.suffix_append ('#' :: words) ('\n' :: after)).trans margin
  | lineEnd enters at_ =>
    have suffix := enters.skipped_suffix
    rw [lineEnd_rest, at_]
    rw [at_] at suffix
    exact suffix
  | token enters at_ noLineEnd read =>
    obtain ⟨kind, width, brackets, -, -, rfl⟩ := token_of_ok read
    have inside := (laid.enters enters).2
    cases inside.symm.trans start.1

end Reader

/-! ## Blank lines in a script -/

/-- Reading the text leaves the reader at the start of a logical line: no bracket, no string and no
statement goes on behind it. -/
def LeavesAtLine (text : List Char) : Prop :=
  ∃ r, (Reader.start text).Turns r ∧ r.rest = [] ∧ r.AtLogicalLine

theorem LeavesAtLine.isWholeLines {text : List Char} (leaves : LeavesAtLine text) :
    IsWholeLines text := by
  obtain ⟨r, turns, atEnd, start⟩ := leaves
  obtain rfl | ⟨last, turns, turn⟩ := Relation.ReflTransGen.cases_tail turns
  · have none_ : text = [] := atEnd
    rw [none_]
    exact nofun
  · obtain ⟨awaited, laid⟩ := Reader.Turns.laysOut turns (Reader.laysOut_start text)
    have lineEnd := turn.lineEnd_suffix laid start
    rw [atEnd] at lineEnd
    obtain ⟨before, rfl⟩ := lineEnd.trans (Reader.Turns.rest_suffix turns)
    intro last isLast
    simpa using isLast.symm

/-- What is read of a longer text is read on from where the reader was left. -/
theorem LeavesAtLine.readAll {text : List Char} (leaves : LeavesAtLine text) :
    ∃ r : Reader, r.AtLogicalLine ∧ ∀ further,
      (Reader.start (text ++ further)).readAll = { r with rest := further }.readAll := by
  have whole := leaves.isWholeLines
  obtain ⟨r, turns, atEnd, start⟩ := leaves
  refine ⟨r, start, fun further => ?_⟩
  have turns := Reader.Turns.followedBy further turns whole
  have all := turns.readAll
  rw [Reader.followedBy, Reader.followedBy, atEnd] at all
  exact all

/-- A line without tokens, put between two logical lines, changes no token and no fault, but for
their places. -/
theorem tokenize_blankLine {before line after : String} (leaves : LeavesAtLine before.toList)
    (blank : IsBlankLine line.toList) :
    Agree (fun tokens others => tokens.map Token.kind = others.map Token.kind)
      (tokenize (before ++ line ++ after)) (tokenize (before ++ after)) := by
  obtain ⟨r, start, all⟩ := leaves.readAll
  obtain ⟨s, turn, alike⟩ := Reader.turn_of_blankLine
    (r := { r with rest := line.toList ++ after.toList }) start blank rfl
  have agree : Agree Reader.Alike
      (Reader.start (before.toList ++ (line.toList ++ after.toList))).readAll
      (Reader.start (before.toList ++ after.toList)).readAll := by
    rw [all, all, turn.readAll]
    exact alike.readAll
  unfold tokenize
  rw [String.toList_append, String.toList_append, String.toList_append, List.append_assoc]
  exact agree.bind fun _ _ => Reader.Alike.finish

/-- Behind the first line of a block, a comment to the left of the block. -/
theorem tokenize_comment_in_block :
    LeavesAtLine "if x:\n  y\n".toList ∧ IsBlankLine " # z\n".toList
      ∧ Agree (fun tokens others => tokens.map Token.kind = others.map Token.kind)
        (tokenize ("if x:\n  y\n" ++ " # z\n" ++ "  z"))
        (tokenize ("if x:\n  y\n" ++ "  z")) := by
  have leaves : LeavesAtLine "if x:\n  y\n".toList := by
    have text : "if x:\n  y\n".toList = ['i', 'f', ' ', 'x', ':', '\n', ' ', ' ', 'y', '\n'] := rfl
    rw [text]
    exact ⟨_, Relation.ReflTransGen.refl.tail
      (.token (.margin ⟨rfl, rfl⟩ rfl) rfl (by decide) rfl) |>.tail
      (.token (Reader.enters_of_inLine rfl) rfl (by decide) rfl) |>.tail
      (.token (Reader.enters_of_inLine rfl) rfl (by decide) rfl) |>.tail
      (.lineEnd (Reader.enters_of_inLine rfl) rfl) |>.tail
      (.token (.margin ⟨rfl, rfl⟩ rfl) rfl (by decide) rfl) |>.tail
      (.lineEnd (Reader.enters_of_inLine rfl) rfl), rfl, rfl, rfl⟩
  have blank : IsBlankLine " # z\n".toList :=
    ⟨[' '], ['#', ' ', 'z'], rfl, by simp [lineBlanks], .inr ⟨[' ', 'z'], rfl, by decide⟩⟩
  exact ⟨leaves, blank, @tokenize_blankLine "if x:\n  y\n" " # z\n" "  z" leaves blank⟩

end PixelApplet
