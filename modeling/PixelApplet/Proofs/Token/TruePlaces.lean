import Mathlib.Data.List.Chain
import PixelApplet.Proofs.Token.Turns

/-!
# The places of tokens are true

A place in a text is told by the text in front of it: its bytes, its line ends, and its characters
since the last line end.  Every place that the reader gives to a token or to a fault is of this
kind, the tokens stand behind each other, and between two of them stands nothing but white space,
comments, continued line ends and line ends.
-/

namespace PixelApplet

/-! ## Places in a text -/

/-- The place behind a stretch of text, told from the text. -/
structure Position.StandsBehind (place : Position) (before : List Char) : Prop where
  offset : place.offset = (String.ofList before).utf8ByteSize
  line : place.line = 1 + before.count '\n'
  column : place.column = 1 + (before.reverse.takeWhile (· ≠ '\n')).length

/-- The place stands between two characters of the text, or at one of its ends. -/
def Position.IsTrueIn (place : Position) (source : List Char) : Prop :=
  ∃ before after, source = before ++ after ∧ place.StandsBehind before

variable {source read gap : List Char} {place next : Position}

theorem Position.standsBehind_start : start.StandsBehind [] :=
  ⟨rfl, rfl, rfl⟩

theorem Position.StandsBehind.advance (stands : place.StandsBehind read) (c : Char) :
    (place.advance c).StandsBehind (read ++ [c]) := by
  obtain ⟨offset, line, column⟩ := stands
  by_cases lineEnd : c = '\n'
  · subst lineEnd
    refine ⟨?_, ?_, ?_⟩
    · simp [Position.advance, String.ofList_append, offset]
      rfl
    · simp [Position.advance, line, Nat.add_assoc]
    · simp [Position.advance]
  · refine ⟨?_, ?_, ?_⟩
    · simp [Position.advance, lineEnd, String.ofList_append, offset]
    · simp [Position.advance, lineEnd, line]
    · simp [Position.advance, lineEnd, column, Nat.add_assoc]

theorem Position.StandsBehind.after (stands : place.StandsBehind read) (text : List Char) :
    (place.after text).StandsBehind (read ++ text) := by
  induction text generalizing place read with
  | nil => rwa [List.append_nil]
  | cons c text ih =>
    rw [List.append_cons]
    exact ih (stands.advance c)

/-! ## What stands between tokens -/

/-- White space, comments, continued line ends and line ends, with the given text behind them. -/
inductive IsGap (after : List Char) : List Char → Prop where
  | nil : IsGap after []
  | blank {c : Char} {gap : List Char} (blank : c ∈ [' ', '\t', '\r', '\x0c', '\n'])
    (isGap : IsGap after gap) : IsGap after (c :: gap)
  | continuation {gap : List Char} (isGap : IsGap after gap) : IsGap after ('\\' :: '\n' :: gap)
  | comment {text gap : List Char} (inLine : '\n' ∉ text)
    (ends : ∀ c ∈ (gap ++ after).head?, c = '\n') (isGap : IsGap after gap) :
    IsGap after ('#' :: (text ++ gap))

theorem IsGap.append {further after : List Char} (first : IsGap (further ++ after) gap)
    (second : IsGap after further) : IsGap after (gap ++ further) := by
  induction first with
  | nil => exact second
  | blank blank _ ih => exact .blank blank ih
  | continuation _ ih => exact .continuation ih
  | comment inLine ends _ ih =>
    rw [List.cons_append, List.append_assoc]
    rw [← List.append_assoc] at ends
    exact .comment inLine ends ih

/-- One place stands behind the other in the text, with nothing but a gap between them. -/
def Adjoins (source : List Char) (place next : Position) : Prop :=
  ∃ before gap after, source = before ++ (gap ++ after) ∧ place.StandsBehind before
    ∧ next.StandsBehind (before ++ gap) ∧ IsGap after gap

/-- Tokens at true places of a text, one behind the other. -/
structure TruePlaces (source : List Char) (tokens : List Token) : Prop where
  places : ∀ token ∈ tokens, token.start.IsTrueIn source ∧ token.stop.IsTrueIn source
  forward : ∀ token ∈ tokens, token.start.offset ≤ token.stop.offset
  consecutive : tokens.IsChain fun token next =>
    token.stop.offset ≤ next.start.offset ∧ Adjoins source token.stop next.start

/-- What is made of a text has the given property, or else a fault is found at a true place. -/
def Yields {α : Type} (source : List Char) (property : α → Prop) : Except LexError α → Prop
  | .ok result => property result
  | .error e => e.position.IsTrueIn source

/-! ## Gaps that the reader passes over -/

namespace Reader

theorem isGap_indentation (width : Nat) (text : List Char) :
    IsGap (text.drop (indentation width text).2) (text.take (indentation width text).2) := by
  induction text generalizing width with
  | nil => exact .nil
  | cons c text ih =>
    unfold indentation
    dsimp only
    split
    · rename_i blank
      exact .blank (by simp [blank]) (ih _)
    split
    · rename_i blank
      exact .blank (by simp [blank]) (ih _)
    split
    · rename_i blank
      exact .blank (by rcases blank with blank | blank <;> simp [blank]) (ih _)
    · exact .nil

/-- A comment goes on up to the line end. -/
theorem take_commentLength (text : List Char) :
    '\n' ∉ text.take (commentLength text)
      ∧ ∀ c ∈ (text.drop (commentLength text)).head?, c = '\n' := by
  induction text with
  | nil => simp
  | cons c text ih =>
    by_cases lineEnd : c = '\n'
    · simp [commentLength, lineEnd]
    · simpa [commentLength, lineEnd, Ne.symm lineEnd] using ih

theorem insignificant_comment (text : List Char) :
    insignificant true text = commentLength text := by
  induction text with
  | nil => simp [insignificant, commentLength]
  | cons c text ih =>
    rw [insignificant.eq_def]
    by_cases lineEnd : c = '\n'
    · simp [commentLength, lineEnd]
    · simpa [commentLength, lineEnd] using ih

theorem isGap_comment (text : List Char) :
    IsGap (text.drop (commentLength text)) ('#' :: text.take (commentLength text)) := by
  obtain ⟨inLine, ends⟩ := take_commentLength text
  have isGap := IsGap.comment inLine ends .nil
  rwa [List.append_nil] at isGap

theorem isGap_commentLine {text : List Char} (ends : '\n' ∈ text) :
    IsGap (text.drop (commentLength text + 1)) ('#' :: text.take (commentLength text + 1)) := by
  obtain ⟨comment, after, rfl, inLine⟩ := List.eq_append_cons_of_mem ends
  rw [commentLength_append inLine, List.append_cons, ← List.length_singleton (a := '\n'),
    ← List.length_append, List.take_left, List.drop_left]
  exact .comment inLine (by simp) (.blank (by decide) .nil)

theorem isGap_insignificant (text : List Char) :
    IsGap (text.drop (insignificant false text)) (text.take (insignificant false text)) := by
  induction length : text.length using Nat.strongRecOn generalizing text with
  | ind n ih =>
    cases text with
    | nil => exact .nil
    | cons c text =>
      rw [insignificant.eq_def]
      dsimp only
      rw [if_neg Bool.false_ne_true]
      split
      · rename_i blank
        apply IsGap.blank _ (ih text.length (by simp [← length]) text rfl)
        rcases blank with blank | blank | blank | blank <;> simp [blank]
      split
      · rename_i comment
        rw [comment, insignificant_comment]
        exact isGap_comment text
      split
      · rename_i backslash
        subst backslash
        split
        · rename_i more
          have shorter : more.length < n := by
            rw [← length, List.length_cons, List.length_cons]
            omega
          exact .continuation (ih more.length shorter more rfl)
        · exact .nil
      · exact .nil

/-! ## Where the reader stands -/

variable {r s line : Reader}

/-- The text read so far ends at the reader's place, and all its places are true; behind the last
token it has passed over nothing but a gap. -/
structure Follows (source : List Char) (r : Reader) (read : List Char) : Prop where
  text : source = read ++ r.rest
  place : r.position.StandsBehind read
  brackets : ∀ bracket ∈ r.brackets, bracket.2.IsTrueIn source
  places : ∀ token ∈ r.tokens, token.start.IsTrueIn source ∧ token.stop.IsTrueIn source
  forward : ∀ token ∈ r.tokens, token.start.offset ≤ token.stop.offset
  consecutive : r.tokens.IsChain fun next token =>
    token.stop.offset ≤ next.start.offset ∧ Adjoins source token.stop next.start
  gap : ∀ last ∈ r.tokens.head?, ∃ before gap, read = before ++ gap
    ∧ last.stop.StandsBehind before ∧ IsGap r.rest gap

theorem Follows.isTrueIn (follows : r.Follows source read) : r.position.IsTrueIn source :=
  ⟨read, r.rest, follows.text, follows.place⟩

theorem Follows.isTrueIn_after (follows : r.Follows source read) (count : Nat) :
    (r.position.after (r.rest.take count)).IsTrueIn source := by
  refine ⟨read ++ r.rest.take count, r.rest.drop count, ?_, follows.place.after _⟩
  rw [List.append_assoc, List.take_append_drop]
  exact follows.text

/-- The reader passes over a gap. -/
theorem Follows.consume (follows : r.Follows source read) {count : Nat}
    (isGap : IsGap (r.rest.drop count) (r.rest.take count)) :
    (r.consume count).Follows source (read ++ r.rest.take count) where
  text := by
    rw [List.append_assoc]
    exact (List.take_append_drop count r.rest).symm ▸ follows.text
  place := follows.place.after _
  brackets := follows.brackets
  places := follows.places
  forward := follows.forward
  consecutive := follows.consecutive
  gap := by
    intro last isLast
    obtain ⟨before, gap, rfl, stop, first⟩ := follows.gap last isLast
    refine ⟨before, gap ++ r.rest.take count, List.append_assoc .., stop, ?_⟩
    apply IsGap.append _ isGap
    rwa [List.take_append_drop]

theorem offset_le {before text : List Char} (first : place.StandsBehind before)
    (second : next.StandsBehind (before ++ text)) : place.offset ≤ next.offset := by
  rw [first.offset, second.offset, String.ofList_append, String.utf8ByteSize_append]
  exact Nat.le_add_right ..

/-- The reader passes over a token. -/
theorem Follows.push (follows : r.Follows source read) (kind : TokenKind) (count : Nat) :
    Follows source { r.consume count with
      tokens := ⟨kind, r.position, (r.consume count).position⟩ :: r.tokens }
      (read ++ r.rest.take count) where
  text := by
    rw [List.append_assoc]
    exact (List.take_append_drop count r.rest).symm ▸ follows.text
  place := follows.place.after _
  brackets := follows.brackets
  places := by
    intro token member
    obtain rfl | member := List.mem_cons.mp member
    · exact ⟨follows.isTrueIn, follows.isTrueIn_after count⟩
    · exact follows.places token member
  forward := by
    intro token member
    obtain rfl | member := List.mem_cons.mp member
    · exact offset_le follows.place (follows.place.after _)
    · exact follows.forward token member
  consecutive := by
    apply List.isChain_cons.mpr
    refine ⟨?_, follows.consecutive⟩
    intro last isLast
    obtain ⟨before, gap, rfl, stop, isGap⟩ := follows.gap last isLast
    refine ⟨offset_le stop follows.place, before, gap, r.rest, ?_, stop, follows.place, isGap⟩
    rw [← List.append_assoc]
    exact follows.text
  gap := by
    intro last isLast
    cases isLast
    exact ⟨_, [], (List.append_nil _).symm, follows.place.after _, .nil⟩

theorem Follows.pushLayout (follows : r.Follows source read) (kind : TokenKind) :
    (r.pushLayout kind).Follows source read := by
  have pushed := follows.push kind 0
  rw [List.take_zero, List.append_nil] at pushed
  exact pushed

theorem Follows.pushLayouts (follows : r.Follows source read) (kind : TokenKind) (n : Nat) :
    Follows source { r with
      tokens := List.replicate n ⟨kind, r.position, r.position⟩ ++ r.tokens } read := by
  induction n with
  | zero => exact follows
  | succ n ih => exact ih.pushLayout kind

/-! ## Turns of the reader -/

theorem Follows.inLine (follows : r.Follows source read) : r.inLine.Follows source read :=
  ⟨follows.text, follows.place, follows.brackets, follows.places, follows.forward,
    follows.consecutive, follows.gap⟩

theorem Follows.withIndents (follows : r.Follows source read) (indents : List Nat) :
    Follows source { r with indents := indents } read :=
  ⟨follows.text, follows.place, follows.brackets, follows.places, follows.forward,
    follows.consecutive, follows.gap⟩

theorem Follows.margin (follows : r.Follows source read) : ∃ read, r.margin.Follows source read :=
  ⟨_, follows.consume (isGap_indentation 0 r.rest)⟩

theorem Follows.skipInsignificant (follows : r.Follows source read) :
    ∃ read, r.skipInsignificant.Follows source read :=
  ⟨_, follows.consume (isGap_insignificant r.rest)⟩

theorem Follows.applyIndentation (follows : r.Follows source read) (width : Nat) :
    Yields source (fun line => line.Follows source read) (r.applyIndentation width) := by
  rw [applyIndentation_eq]
  split_ifs
  · exact (follows.pushLayout .indent).withIndents _
  · exact (follows.pushLayouts .dedent _).withIndents _
  · exact follows.isTrueIn

/-- Behind the margin the reader follows the text, or it has found a fault at a true place. -/
theorem Follows.lineStart {outcome : Except LexError Line} (follows : r.Follows source read)
    (start : r.LineStart outcome) :
    Yields source (fun begun => ∃ read, begun.reader.Follows source read) outcome := by
  obtain ⟨read, margin⟩ := follows.margin
  have comment {text : List Char} (at_ : r.margin.rest = '#' :: text) :
      commentLength r.margin.rest = commentLength text + 1 := by
    simp [at_, commentLength]
  cases start with
  | ended => exact ⟨read, margin.inLine⟩
  | empty at_ =>
    refine ⟨_, margin.consume ?_⟩
    rw [at_]
    exact .blank (by decide) .nil
  | comment at_ ends =>
    refine ⟨_, margin.consume ?_⟩
    rw [comment at_, at_]
    exact isGap_commentLine ends
  | @lastComment text at_ =>
    refine ⟨_, (margin.consume ?_).inLine⟩
    rw [comment at_, at_]
    exact isGap_comment text
  | indented at_ noLineEnd noComment applied =>
    have applied_ := margin.inLine.applyIndentation (indentation 0 r.rest).1
    rw [applied] at applied_
    exact ⟨read, applied_⟩
  | misaligned at_ noLineEnd noComment applied =>
    have applied_ := margin.inLine.applyIndentation (indentation 0 r.rest).1
    rw [applied] at applied_
    exact applied_

theorem Follows.enters (follows : r.Follows source read) (enters : r.Enters line) :
    ∃ read, line.Follows source read := by
  cases enters with
  | inside => exact ⟨read, follows⟩
  | margin start begun => exact follows.lineStart (lineStart_of_beginLine begun)

theorem Follows.skips (follows : r.Follows source read) (enters : r.Enters line) :
    ∃ read, line.skipInsignificant.Follows source read := by
  obtain ⟨_, inLine⟩ := follows.enters enters
  exact inLine.skipInsignificant

theorem Follows.lineEnd {text : List Char} (follows : r.Follows source read)
    (at_ : r.rest = '\n' :: text) : ∃ read, r.lineEnd.Follows source read := by
  have isGap : IsGap (r.rest.drop 1) (r.rest.take 1) := by
    rw [at_]
    exact .blank (by decide) .nil
  have passed := follows.consume isGap
  unfold Reader.lineEnd
  split
  · split
    · exact ⟨_, passed.text, passed.place, passed.brackets, passed.places, passed.forward,
        passed.consecutive, passed.gap⟩
    · have pushed := follows.push .newline 1
      exact ⟨_, pushed.text, pushed.place, pushed.brackets, pushed.places, pushed.forward,
        pushed.consecutive, pushed.gap⟩
  · exact ⟨_, passed⟩

/-- Of the brackets that are open behind a token, those were open before it, or it opens them. -/
theorem Brackets.isTrueIn {first : Char} {kind : TokenKind} {brackets : List (Char × Position)}
    (tracked : r.Brackets first kind brackets) (follows : r.Follows source read) :
    ∀ bracket ∈ brackets, bracket.2.IsTrueIn source := by
  cases tracked with
  | plain => exact follows.brackets
  | opening => exact List.forall_mem_cons.mpr ⟨follows.isTrueIn, follows.brackets⟩
  | closing noOpening answers opened =>
    intro bracket member
    apply follows.brackets bracket
    rw [opened]
    exact List.mem_cons_of_mem _ member

theorem Follows.token {first : Char} {text : List Char} (follows : r.Follows source read)
    (token : r.token first text = .ok s) : ∃ read, s.Follows source read := by
  obtain ⟨kind, width, brackets, -, tracked, rfl⟩ := token_of_ok token
  have pushed := follows.push kind (width - 1 + 1)
  exact ⟨_, pushed.text, pushed.place, tracked.isTrueIn follows, pushed.places, pushed.forward,
    pushed.consecutive, pushed.gap⟩

/-- A turn goes on in the text. -/
theorem Turn.follows (turn : r.Turn s) (follows : r.Follows source read) :
    ∃ read, s.Follows source read := by
  cases turn with
  | blank start passed => exact follows.lineStart (lineStart_of_beginLine passed)
  | lineEnd enters at_ =>
    obtain ⟨_, skipped⟩ := follows.skips enters
    exact skipped.lineEnd at_
  | token enters at_ noLineEnd token =>
    obtain ⟨_, skipped⟩ := follows.skips enters
    exact skipped.token token

theorem Turns.follows (turns : r.Turns s) (follows : r.Follows source read) :
    ∃ read, s.Follows source read := by
  induction turns with
  | refl => exact ⟨read, follows⟩
  | tail _ turn ih =>
    obtain ⟨_, follows⟩ := ih
    exact turn.follows follows

theorem follows_start (source : List Char) : (start source).Follows source [] where
  text := rfl
  place := Position.standsBehind_start
  brackets := List.forall_mem_nil _
  places := List.forall_mem_nil _
  forward := List.forall_mem_nil _
  consecutive := .nil
  gap := nofun

/-! ## The end of the text -/

theorem position_of_trackBracket {first : Char} {kind : TokenKind} {e : LexError}
    (failed : r.trackBracket first kind = .error e) : e.position = r.position := by
  unfold trackBracket at failed
  repeat' split at failed
  all_goals cases failed
  all_goals rfl

/-- The fault of a token lies behind some characters of its text. -/
theorem position_of_error {first : Char} {text : List Char} {e : LexError}
    (failed : r.token first text = .error e) :
    ∃ distance, e.position = r.position.after ((first :: text).take distance) := by
  unfold Reader.token at failed
  split at failed
  · rename_i distance _
    cases failed
    exact ⟨distance, rfl⟩
  · rename_i kind width lexeme
    split at failed
    · rename_i tracked
      cases failed
      exact ⟨0, position_of_trackBracket tracked⟩
    · cases failed

/-- Where the reader stops at a fault, the fault has a true place. -/
theorem Stops.follows {outcome : Except LexError Reader} (stops : r.Stops outcome)
    (follows : r.Follows source read) :
    Yields source (fun s => ∃ read, s.Follows source read) outcome := by
  cases stops with
  | margin start failed => exact follows.lineStart (lineStart_of_beginLine failed)
  | @token _ first text e enters at_ noLineEnd failed =>
    obtain ⟨_, skipped⟩ := follows.skips enters
    obtain ⟨distance, place⟩ := position_of_error failed
    have isTrue := skipped.isTrueIn_after distance
    rw [at_, ← place] at isTrue
    exact isTrue
  | ended enters => exact follows.skips enters

theorem Follows.truePlaces (follows : r.Follows source read) :
    TruePlaces source r.tokens.reverse where
  places := by
    intro token member
    exact follows.places token (List.mem_reverse.mp member)
  forward := by
    intro token member
    exact follows.forward token (List.mem_reverse.mp member)
  consecutive := List.isChain_reverse.mpr follows.consecutive

theorem Follows.finish (follows : r.Follows source read) :
    Yields source (TruePlaces source) r.finish := by
  cases brackets : r.brackets with
  | cons bracket outer =>
    rw [finish_of_open brackets]
    apply follows.brackets bracket
    rw [brackets]
    exact List.mem_cons_self
  | nil =>
    have ended : r.ended.Follows source read ∧ r.ended.position = r.position := by
      unfold Reader.ended
      split
      · exact ⟨follows, rfl⟩
      · exact ⟨follows.pushLayout .newline, rfl⟩
    obtain ⟨ended, place⟩ := ended
    have all := (ended.pushLayouts .dedent r.indents.length).pushLayout .endOfFile
    have truePlaces := all.truePlaces
    simp only [Reader.pushLayout, place] at truePlaces
    rw [finish_of_closed brackets]
    exact truePlaces

end Reader

/-- All places that are given to tokens and faults are true. -/
theorem tokenize_truePlaces (source : String) :
    Yields source.toList (TruePlaces source.toList) (tokenize source) := by
  obtain ⟨last, turns, stops⟩ := Reader.exists_turns (.start source.toList)
  obtain ⟨_, follows⟩ := turns.follows (Reader.follows_start source.toList)
  have stopped := stops.follows follows
  unfold tokenize
  cases all : (Reader.start source.toList).readAll with
  | error e =>
    rw [all] at stopped
    exact stopped
  | ok r =>
    rw [all] at stopped
    obtain ⟨_, follows⟩ := stopped
    exact follows.finish

end PixelApplet
