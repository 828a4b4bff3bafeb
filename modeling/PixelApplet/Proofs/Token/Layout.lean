import Mathlib.Data.List.Basic
import PixelApplet.Proofs.Token.Turns
import PixelApplet.Proofs.Token.WrittenTokens

/-!
# The layout of a script's tokens

The tokens of a script stand in statements and blocks: line ends and changes of the indentation
stand outside all brackets, every indentation is left again, and no statement is empty.  Each turn
of the reader adds to its tokens in such a way that the closing marks still awaited are those of its
open brackets, and that the blocks still open are those of its columns.
-/

namespace PixelApplet

namespace TokenKind

/-- Line ends and changes of the indentation. -/
def isLayout : TokenKind → Bool
  | newline | indent | dedent => true
  | _ => false

/-- The mark in front of a block. -/
def isIndent : TokenKind → Bool
  | indent => true
  | _ => false

/-- The mark behind a block. -/
def isDedent : TokenKind → Bool
  | dedent => true
  | _ => false

/-- What is read from a stretch of text: neither layout nor the end of the file. -/
def isLexical : TokenKind → Bool
  | newline | indent | dedent | endOfFile => false
  | _ => true

/-- An opening bracket. -/
def isOpening : TokenKind → Bool
  | symbol mark => Reader.isOpening mark
  | _ => false

/-- A closing bracket. -/
def isClosing : TokenKind → Bool
  | symbol mark => (Reader.openingOf? mark).isSome
  | _ => false

end TokenKind

open TokenKind

/-- The tokens of a script, well laid out. -/
structure WellLaidOut (kinds : List TokenKind) : Prop where
  ends : ∃ before, kinds = before ++ [.endOfFile] ∧ .endOfFile ∉ before
  balanced : Balanced kinds
  unbroken : ∀ {before inner after opening closing},
    kinds = before ++ .symbol opening :: (inner ++ .symbol closing :: after) →
      (opening, closing) ∈ bracketPairs → Balanced inner → ∀ kind ∈ inner, kind.isLayout = false
  level : kinds.countP isIndent = kinds.countP isDedent
  nested : ∀ {before after}, kinds = before ++ after →
    before.countP isDedent ≤ before.countP isIndent
  apart : ∀ {before after}, kinds ≠ before ++ .newline :: .newline :: after
  settled : ∀ {before kind after}, kinds = before ++ kind :: after →
    kind = .indent ∨ kind = .dedent ∨ kind = .endOfFile →
      before = [] ∨ ∃ earlier last, before = earlier ++ [last] ∧ last.isLayout = true

/-! ## Tokens still to be completed -/

/-- Whether tokens, last first, leave nothing for a line end to finish. -/
def IsSettled (words : List TokenKind) : Prop :=
  ∀ last ∈ words.head?, last.isLayout = true

/-- Tokens, last first, that are well laid out so far: the given closing marks are awaited,
innermost first, and the given number of blocks is open. -/
inductive LaidOut : List TokenKind → List Symbol → Nat → Prop where
  | nil : LaidOut [] [] 0
  | newline {words : List TokenKind} {depth : Nat} (laid : LaidOut words [] depth)
    (unsettled : ¬IsSettled words) : LaidOut (.newline :: words) [] depth
  | indent {words : List TokenKind} {depth : Nat} (laid : LaidOut words [] depth)
    (settled : IsSettled words) : LaidOut (.indent :: words) [] (depth + 1)
  | dedent {words : List TokenKind} {depth : Nat} (laid : LaidOut words [] (depth + 1))
    (settled : IsSettled words) : LaidOut (.dedent :: words) [] depth
  | plain {word : TokenKind} {words : List TokenKind} {awaited : List Symbol} {depth : Nat}
    (laid : LaidOut words awaited depth) (lexical : word.isLexical = true)
    (plain : ¬word.IsBracket) : LaidOut (word :: words) awaited depth
  | opening {opening closing : Symbol} {words : List TokenKind} {awaited : List Symbol}
    {depth : Nat} (laid : LaidOut words awaited depth) (pair : (opening, closing) ∈ bracketPairs) :
    LaidOut (.symbol opening :: words) (closing :: awaited) depth
  | closing {opening closing : Symbol} {words : List TokenKind} {awaited : List Symbol}
    {depth : Nat} (laid : LaidOut words (closing :: awaited) depth)
    (pair : (opening, closing) ∈ bracketPairs) : LaidOut (.symbol closing :: words) awaited depth

variable {words later : List TokenKind} {kind word : TokenKind} {awaited : List Symbol}
  {depth : Nat}

theorem isSettled_nil : IsSettled [] :=
  nofun

theorem isSettled_cons : IsSettled (kind :: words) ↔ kind.isLayout = true := by
  simp [IsSettled]

theorem LaidOut.of_cons (laid : LaidOut (kind :: words) awaited depth) :
    ∃ awaited depth, LaidOut words awaited depth := by
  cases laid with
  | newline laid | indent laid | dedent laid => exact ⟨_, _, laid⟩
  | plain laid | opening laid | closing laid => exact ⟨_, _, laid⟩

theorem LaidOut.of_append (laid : LaidOut (later ++ words) awaited depth) :
    ∃ awaited depth, LaidOut words awaited depth := by
  induction later generalizing awaited depth with
  | nil => exact ⟨_, _, laid⟩
  | cons kind later ih =>
    obtain ⟨_, _, laid⟩ := laid.of_cons
    exact ih laid

/-- Tokens that stand in front of others in a stream are laid out as well. -/
theorem LaidOut.of_split {before after : List TokenKind} (laid : LaidOut words awaited depth)
    (split : words.reverse = before ++ after) :
    ∃ awaited depth, LaidOut before.reverse awaited depth := by
  rw [List.reverse_eq_iff.mp split, List.reverse_append] at laid
  exact laid.of_append

/-- The two marks of a pair. -/
theorem pair_isOpening {opening closing : Symbol} (pair : (opening, closing) ∈ bracketPairs) :
    isOpening (.symbol opening) = true ∧ isClosing (.symbol opening) = false
      ∧ isOpening (.symbol closing) = false ∧ isClosing (.symbol closing) = true := by
  obtain ⟨rfl, rfl⟩ | ⟨rfl, rfl⟩ | ⟨rfl, rfl⟩ := mem_bracketPairs.mp pair
  all_goals decide

theorem not_isBracket (plain : ¬word.IsBracket) :
    word.isOpening = false ∧ word.isClosing = false := by
  cases word with
  | symbol mark => cases mark <;> first | exact ⟨rfl, rfl⟩ | exact absurd (by decide) plain
  | _ => exact ⟨rfl, rfl⟩

theorem isLexical_iff : word.isLexical = true ↔ word.isLayout = false ∧ word ≠ .endOfFile := by
  cases word <;> simp [isLexical, isLayout]

/-- The blocks that are open are those that are not closed. -/
theorem LaidOut.count_indents (laid : LaidOut words awaited depth) :
    words.countP isIndent = words.countP isDedent + depth := by
  induction laid with
  | nil => rfl
  | newline laid _ ih | opening laid _ ih | closing laid _ ih =>
    simpa [List.countP_cons, isIndent, isDedent] using ih
  | indent laid _ ih | dedent laid _ ih =>
    simp [List.countP_cons, isIndent, isDedent]
    omega
  | @plain word _ _ _ laid lexical _ ih =>
    have noIndent : word.isIndent = false ∧ word.isDedent = false := by
      cases word <;> first | exact ⟨rfl, rfl⟩ | cases lexical
    simpa [List.countP_cons, noIndent] using ih

/-- The closing marks that are awaited are those of the brackets that are not closed. -/
theorem LaidOut.count_brackets (laid : LaidOut words awaited depth) :
    words.countP TokenKind.isOpening = words.countP isClosing + awaited.length := by
  induction laid with
  | nil => rfl
  | newline laid _ ih | indent laid _ ih | dedent laid _ ih =>
    simpa [List.countP_cons, TokenKind.isOpening, isClosing] using ih
  | plain laid _ plain ih =>
    simpa [List.countP_cons, not_isBracket plain] using ih
  | opening laid pair ih | closing laid pair ih =>
    simp [pair_isOpening pair, ih]
    omega

/-- In front of any place among balanced tokens no more brackets are closed than opened. -/
theorem Balanced.count_take {kinds : List TokenKind} (balanced : Balanced kinds) (n : Nat) :
    (kinds.take n).countP isClosing ≤ (kinds.take n).countP TokenKind.isOpening := by
  induction balanced generalizing n with
  | nil => simp
  | cons plain _ ih =>
    cases n with
    | zero => simp
    | succ n => simpa [not_isBracket plain] using ih n
  | @enclosed _ _ inner rest pair _ _ ihInner ihRest =>
    cases n with
    | zero => simp
    | succ n =>
      have inside := ihInner n
      simp only [List.take_succ_cons, List.take_append, List.countP_cons, List.countP_append,
        pair_isOpening pair]
      cases n - inner.length with
      | zero =>
        simp
        omega
      | succ m =>
        have behind := ihRest m
        simp [pair_isOpening pair]
        omega

/-! ## Completed tokens -/

/-- What follows closes the awaited brackets, innermost first, and no others. -/
inductive Completes : List Symbol → List TokenKind → Prop where
  | nil {rest : List TokenKind} (balanced : Balanced rest) : Completes [] rest
  | cons {closing : Symbol} {awaited : List Symbol} {inner rest : List TokenKind}
    (balanced : Balanced inner) (completes : Completes awaited rest) :
    Completes (closing :: awaited) (inner ++ .symbol closing :: rest)

theorem Completes.cons_plain {rest : List TokenKind} (completes : Completes awaited rest)
    (plain : ¬word.IsBracket) : Completes awaited (word :: rest) := by
  cases completes with
  | nil balanced => exact .nil (.cons plain balanced)
  | cons balanced completes => exact .cons (.cons plain balanced) completes

theorem Completes.cons_opening {rest : List TokenKind} {opening closing : Symbol}
    (completes : Completes (closing :: awaited) rest) (pair : (opening, closing) ∈ bracketPairs) :
    Completes awaited (.symbol opening :: rest) := by
  cases completes with
  | cons balanced completes =>
    cases completes with
    | nil balanced' => exact .nil (.enclosed pair balanced balanced')
    | @cons outer _ _ _ balanced' completes =>
      have further : Completes (outer :: _) _ :=
        .cons (.enclosed pair balanced balanced') completes
      simpa using further

/-- Tokens that are laid out are balanced with what completes them. -/
theorem LaidOut.balanced {rest : List TokenKind} (laid : LaidOut words awaited depth)
    (completes : Completes awaited rest) : Balanced (words.reverse ++ rest) := by
  induction laid generalizing rest with
  | nil =>
    cases completes with
    | nil balanced => exact balanced
  | newline laid _ ih | indent laid _ ih | dedent laid _ ih =>
    simpa using ih (completes.cons_plain (by decide))
  | plain laid _ plain ih => simpa using ih (completes.cons_plain plain)
  | opening laid pair ih => simpa using ih (completes.cons_opening pair)
  | closing laid pair ih => simpa using ih (.cons .nil completes)

theorem LaidOut.awaited_nil (laid : LaidOut (kind :: words) awaited depth)
    (layout : kind.isLayout = true) : awaited = [] := by
  cases laid with
  | newline | indent | dedent => rfl
  | plain laid lexical =>
    rw [(isLexical_iff.mp lexical).1] at layout
    cases layout
  | opening | closing => cases layout

theorem LaidOut.endOfFile_notMem (laid : LaidOut words awaited depth) :
    .endOfFile ∉ words := by
  induction laid with
  | nil => exact List.not_mem_nil
  | newline laid _ ih | indent laid _ ih | dedent laid _ ih => simpa using ih
  | opening laid _ ih | closing laid _ ih => simpa using ih
  | plain laid lexical _ ih => simp [ih, Ne.symm (isLexical_iff.mp lexical).2]

theorem LaidOut.settled_of_cons (laid : LaidOut (kind :: words) awaited depth)
    (change : kind = .indent ∨ kind = .dedent) : IsSettled words := by
  cases laid with
  | indent _ settled | dedent _ settled => exact settled
  | plain laid lexical => obtain rfl | rfl := change <;> cases lexical
  | newline | opening | closing => simp at change

theorem LaidOut.unsettled_of_cons (laid : LaidOut (.newline :: words) awaited depth) :
    ¬IsSettled words := by
  cases laid with
  | newline _ unsettled => exact unsettled
  | plain _ lexical => cases lexical

theorem IsSettled.eq_nil_or_last {before : List TokenKind} (settled : IsSettled before.reverse) :
    before = [] ∨ ∃ earlier last, before = earlier ++ [last] ∧ last.isLayout = true := by
  obtain rfl | ⟨earlier, last, rfl⟩ := before.eq_nil_or_concat
  · exact .inl rfl
  · rw [List.concat_eq_append, List.reverse_append, List.reverse_singleton, List.singleton_append,
      isSettled_cons] at settled
    exact .inr ⟨earlier, last, List.concat_eq_append, settled⟩

/-- The marks that close columns close as many blocks. -/
theorem LaidOut.dedents {n : Nat} (laid : LaidOut words [] (n + depth))
    (settled : IsSettled words) : LaidOut (List.replicate n .dedent ++ words) [] depth
      ∧ IsSettled (List.replicate n .dedent ++ words) := by
  induction n generalizing depth with
  | zero =>
    rw [Nat.zero_add] at laid
    exact ⟨laid, settled⟩
  | succ n ih =>
    rw [Nat.succ_add_eq_add_succ] at laid
    obtain ⟨laid, settled⟩ := ih laid
    exact ⟨.dedent laid settled, isSettled_cons.mpr rfl⟩

/-- Between a bracket and its match no layout is read: the match is still awaited there. -/
theorem LaidOut.unbroken {before inner after : List TokenKind} {opening closing : Symbol}
    (laid : LaidOut words awaited depth) (pair : (opening, closing) ∈ bracketPairs)
    (balanced : Balanced (inner ++ after))
    (split : words.reverse = before ++ .symbol opening :: (inner ++ kind :: later)) :
    kind.isLayout = false := by
  rw [← Bool.not_eq_true]
  intro layout
  obtain ⟨_, _, outside⟩ := laid.of_split split
  have here : words.reverse = (before ++ .symbol opening :: (inner ++ [kind])) ++ later := by
    simp [split]
  obtain ⟨_, _, laid⟩ := laid.of_split here
  have inside := balanced.count_take inner.length
  have noBracket : kind.isOpening = false ∧ kind.isClosing = false := by
    cases kind <;> first | exact ⟨rfl, rfl⟩ | cases layout
  have noneAwaited := laid.count_brackets
  have awaitedBefore := outside.count_brackets
  rw [List.take_left] at inside
  simp only [List.reverse_append, List.reverse_cons, List.reverse_nil, List.nil_append,
    List.cons_append, List.append_assoc] at laid
  rw [laid.awaited_nil layout] at noneAwaited
  simp [List.countP_append, List.countP_reverse, pair_isOpening pair, noBracket]
    at noneAwaited awaitedBefore
  omega

/-- A token of a list stands at its end, or in front of it. -/
theorem eq_last_or_split {before after : List TokenKind} {last : TokenKind}
    (split : words ++ [last] = before ++ kind :: after) :
    before = words ∧ kind = last ∨ ∃ further, words = before ++ kind :: further := by
  obtain rfl | ⟨further, _, rfl⟩ := after.eq_nil_or_concat
  · obtain ⟨rfl, same⟩ := List.append_inj' split rfl
    cases same
    exact .inl ⟨rfl, rfl⟩
  · rw [List.concat_eq_append, ← List.cons_append, ← List.append_assoc] at split
    exact .inr ⟨further, (List.append_inj' split rfl).1⟩

/-- With the end of the file behind them, tokens that leave nothing open are well laid out. -/
theorem LaidOut.wellLaidOut (laid : LaidOut words [] 0) (settled : IsSettled words) :
    WellLaidOut (words.reverse ++ [.endOfFile]) where
  ends := by
    refine ⟨words.reverse, rfl, ?_⟩
    rw [List.mem_reverse]
    exact laid.endOfFile_notMem
  balanced := laid.balanced (.nil (.cons (by decide) .nil))
  unbroken := by
    intro before inner after opening closing split pair balanced kind member
    obtain ⟨inner, rest, rfl⟩ := List.append_of_mem member
    have here : words.reverse ++ [.endOfFile] = (before ++ .symbol opening :: inner) ++ kind
        :: (rest ++ .symbol closing :: after) := by
      simpa using split
    obtain ⟨-, rfl⟩ | ⟨further, split⟩ := eq_last_or_split here
    · rfl
    · apply laid.unbroken pair balanced
      simpa using split
  level := by
    have level := laid.count_indents
    simpa [List.countP_append, isIndent, isDedent] using level
  nested := by
    intro before after split
    have inFront (rest : List TokenKind) (split : words.reverse = before ++ rest) :
        before.countP isDedent ≤ before.countP isIndent := by
      obtain ⟨_, depth, laid⟩ := laid.of_split split
      have counted := laid.count_indents
      rw [List.countP_reverse, List.countP_reverse] at counted
      omega
    cases after with
    | nil =>
      have counted := laid.count_indents
      rw [List.append_nil] at split
      simp [← split, List.countP_append, isIndent, isDedent]
      omega
    | cons kind after =>
      obtain ⟨rfl, -⟩ | ⟨further, split⟩ := eq_last_or_split split
      · exact inFront [] (List.append_nil _).symm
      · exact inFront _ split
  apart := by
    intro before after split
    rw [List.append_cons before] at split
    obtain ⟨-, same⟩ | ⟨further, split⟩ := eq_last_or_split split
    · cases same
    · rw [List.append_cons] at split
      obtain ⟨_, _, laid⟩ := laid.of_split split
      simp only [List.reverse_append, List.reverse_singleton, List.singleton_append] at laid
      exact laid.unsettled_of_cons (isSettled_cons.mpr rfl)
  settled := by
    intro before kind after split change
    obtain ⟨rfl, -⟩ | ⟨further, split⟩ := eq_last_or_split split
    · apply IsSettled.eq_nil_or_last
      rwa [List.reverse_reverse]
    · rw [List.append_cons] at split
      obtain ⟨_, _, laid⟩ := laid.of_split split
      rw [List.reverse_append, List.reverse_singleton, List.singleton_append] at laid
      obtain indent | dedent | rfl := change
      · exact (laid.settled_of_cons (.inl indent)).eq_nil_or_last
      · exact (laid.settled_of_cons (.inr dedent)).eq_nil_or_last
      · exact absurd List.mem_cons_self laid.endOfFile_notMem

/-! ## Lexemes -/

/-- Words and literals. -/
def TokenKind.isWord : TokenKind → Bool
  | keyword _ | identifier _ | int _ | float _ | string _ => true
  | _ => false

namespace Lexeme

variable {first : Char} {text : List Char} {width : Nat}

theorem stringLiteral_isWord {quote : Char} {raw : Bool} {opened : Nat}
    (read : stringLiteral quote raw opened text = .ok (kind, width)) : kind.isWord = true := by
  unfold stringLiteral at read
  simp only [Except.map] at read
  split at read <;> cases read
  rfl

theorem word_isWord (read : Lexeme.word first text = .ok (kind, width)) : kind.isWord = true := by
  unfold Lexeme.word at read
  split at read
  · exact stringLiteral_isWord read
  · exact stringLiteral_isWord read
  · dsimp only at read
    split at read <;> cases read <;> rfl

theorem decimal_isWord (read : number.decimal first text = .ok (kind, width)) :
    kind.isWord = true := by
  unfold number.decimal at read
  dsimp only at read
  split at read
  · rename_i some_
    cases read
    split at some_
    · cases value : Numeral.unsignedFloat? _ <;> rw [value] at some_ <;> cases some_
      rfl
    · cases value : Numeral.word? 10 _ <;> rw [value] at some_ <;> cases some_
      rfl
  · cases read

theorem number_isWord (read : number first text = .ok (kind, width)) : kind.isWord = true := by
  unfold number at read
  split at read
  · split at read
    · dsimp only at read
      split at read <;> cases read
      rfl
    · exact decimal_isWord read
  · exact decimal_isWord read

/-- A lexeme is a word, a literal or a mark. -/
theorem isWord_or_symbol (read : read first text = .ok (kind, width)) :
    kind.isWord = true
      ∨ ∃ symbol, kind = .symbol symbol ∧ mark first text = .ok (symbol, width) := by
  unfold Lexeme.read at read
  split at read
  · exact .inl (word_isWord read)
  split at read
  · exact .inl (number_isWord read)
  split at read
  · exact .inl (number_isWord read)
  split at read
  · exact .inl (stringLiteral_isWord read)
  · cases marked : mark first text <;> rw [marked] at read <;> cases read
    exact .inr ⟨_, rfl, rfl⟩

theorem mark_opening {symbol : Symbol} (read : mark first text = .ok (symbol, width))
    (opens : Reader.isOpening symbol = true) :
    ∃ closing, (symbol, closing) ∈ bracketPairs ∧ Reader.openingOf? closing = some first := by
  unfold mark at read
  dsimp only at read
  split at read
  all_goals try split at read
  all_goals try split at read
  all_goals cases read
  all_goals try cases opens
  · exact ⟨.rightParen, by decide, rfl⟩
  · exact ⟨.rightBracket, by decide, rfl⟩
  · exact ⟨.rightBrace, by decide, rfl⟩

end Lexeme

/-! ## Turns of the reader -/

namespace Reader

variable {r s line : Reader} {first : Char} {text : List Char} {width : Nat}

/-- A bracket is open, and the mark that closes it is awaited. -/
def Answers (bracket : Char × Position) (closing : Symbol) : Prop :=
  openingOf? closing = some bracket.1

/-- The tokens so far are laid out as the open columns and brackets say, and a line that begins
outside all brackets finds nothing unfinished. -/
structure LaysOut (r : Reader) (awaited : List Symbol) : Prop where
  laid : LaidOut (r.tokens.map Token.kind) awaited r.indents.length
  answered : List.Forall₂ Answers r.brackets awaited
  margin : r.atLineStart = true → r.brackets = [] ∧ IsSettled (r.tokens.map Token.kind)

theorem atStatementStart_iff : r.atStatementStart = true ↔ IsSettled (r.tokens.map Token.kind) := by
  unfold atStatementStart
  cases tokens : r.tokens with
  | nil => simp [isSettled_nil]
  | cons last _ =>
    rw [List.map_cons, isSettled_cons]
    cases last with
    | mk kind => cases kind <;> simp [isLayout]

theorem LaysOut.consume (laid : r.LaysOut awaited) (count : Nat) :
    (r.consume count).LaysOut awaited :=
  ⟨laid.laid, laid.answered, laid.margin⟩

theorem LaysOut.inLine (laid : r.LaysOut awaited) : r.inLine.LaysOut awaited :=
  ⟨laid.laid, laid.answered, nofun⟩

theorem LaysOut.awaited_nil (laid : r.LaysOut awaited) (closed : r.brackets = []) :
    awaited = [] := by
  have answered := laid.answered
  rw [closed] at answered
  cases answered
  rfl

theorem LaysOut.applyIndentation (laid : r.LaysOut [])
    (settled : IsSettled (r.tokens.map Token.kind)) (inside : r.atLineStart = false)
    (applied : r.applyIndentation width = .ok line) :
    line.LaysOut [] ∧ line.atLineStart = false := by
  rw [applyIndentation_eq] at applied
  split at applied
  · cases applied
    refine ⟨⟨.indent laid.laid settled, laid.answered, ?_⟩, inside⟩
    intro atStart
    cases inside.symm.trans atStart
  · split at applied
    · cases applied
      refine ⟨⟨?_, laid.answered, ?_⟩, inside⟩
      · rw [List.map_append, List.map_replicate]
        have columns := congrArg List.length
          (List.takeWhile_append_dropWhile (p := (width < ·)) (l := r.indents))
        rw [List.length_append] at columns
        apply (LaidOut.dedents _ settled).1
        rw [columns]
        exact laid.laid
      · intro atStart
        cases inside.symm.trans atStart
    · cases applied

/-- Behind the margin the reader is within a line. -/
theorem LaysOut.enters (laid : r.LaysOut awaited) (enters : r.Enters line) :
    line.LaysOut awaited ∧ line.atLineStart = false := by
  cases enters with
  | inside inside =>
    refine ⟨laid, ?_⟩
    rw [← Bool.not_eq_true]
    intro atStart
    exact inside ⟨atStart, (laid.margin atStart).1⟩
  | margin start begun =>
    cases lineStart_of_beginLine begun with
    | ended => exact ⟨(laid.consume _).inLine, rfl⟩
    | lastComment => exact ⟨((laid.consume _).consume _).inLine, rfl⟩
    | indented at_ noLineEnd noComment applied =>
      obtain rfl := laid.awaited_nil start.2
      exact (laid.consume _).inLine.applyIndentation (laid.margin start.1).2 rfl applied

theorem LaysOut.lineEnd (laid : r.LaysOut awaited) : r.lineEnd.LaysOut awaited := by
  unfold Reader.lineEnd
  split
  · rename_i closed
    rw [List.isEmpty_iff] at closed
    obtain rfl := laid.awaited_nil closed
    split
    · rename_i settled
      exact ⟨laid.laid, laid.answered, fun _ => ⟨closed, atStatementStart_iff.mp settled⟩⟩
    · rename_i unsettled
      rw [atStatementStart_iff] at unsettled
      exact ⟨.newline laid.laid unsettled, laid.answered,
        fun _ => ⟨closed, isSettled_cons.mpr rfl⟩⟩
  · exact laid.consume 1

theorem isLexical_of_isWord (word_ : kind.isWord = true) :
    kind.isLexical = true ∧ ¬kind.IsBracket := by
  cases kind with
  | keyword | identifier | int | float | string => exact ⟨rfl, id⟩
  | _ => cases word_

theorem isLexical_of_read (read : Lexeme.read first text = .ok (kind, width)) :
    kind.isLexical = true := by
  obtain word_ | ⟨_, rfl, -⟩ := Lexeme.isWord_or_symbol read
  · exact (isLexical_of_isWord word_).1
  · rfl

theorem not_isBracket_of_plain
    (plain : ∀ mark, kind = .symbol mark → isOpening mark = false ∧ openingOf? mark = none) :
    ¬kind.IsBracket := by
  cases kind with
  | symbol mark =>
    have plain := plain mark rfl
    cases mark <;> first
      | decide
      | exact absurd plain.1 (by decide)
      | exact absurd plain.2 (by decide)
  | _ => exact id

theorem pair_of_openingOf? {closing : Symbol} {bracket : Char}
    (answers : openingOf? closing = some bracket) :
    ∃ opening, (opening, closing) ∈ bracketPairs := by
  cases closing <;> cases answers
  · exact ⟨.leftParen, by decide⟩
  · exact ⟨.leftBracket, by decide⟩
  · exact ⟨.leftBrace, by decide⟩

theorem openingOf?_injective {closing other : Symbol} {bracket : Char}
    (answers : openingOf? closing = some bracket) (answers' : openingOf? other = some bracket) :
    closing = other := by
  cases closing <;> cases answers <;> cases other <;> cases answers' <;> rfl

theorem LaysOut.token (laid : r.LaysOut awaited) (inside : r.atLineStart = false)
    (read : r.token first text = .ok s) : ∃ awaited, s.LaysOut awaited := by
  obtain ⟨kind, width, brackets, lexeme, tracked, rfl⟩ := token_of_ok read
  have notAtStart {p : Prop} (atStart : r.atLineStart = true) : p := by
    cases inside.symm.trans atStart
  have lexical := isLexical_of_read lexeme
  cases tracked with
  | plain plain =>
    exact ⟨awaited, .plain laid.laid lexical (not_isBracket_of_plain plain), laid.answered,
      notAtStart⟩
  | opening opens =>
    obtain word_ | ⟨_, same, marked⟩ := Lexeme.isWord_or_symbol lexeme
    · cases word_
    · cases same
      obtain ⟨closing, pair, answers⟩ := Lexeme.mark_opening marked opens
      exact ⟨closing :: awaited, .opening laid.laid pair, .cons answers laid.answered, notAtStart⟩
  | closing noOpening answers opened =>
    have answered := laid.answered
    rw [opened] at answered
    cases answered with
    | cons answers' answered =>
      obtain rfl := openingOf?_injective answers' answers
      obtain ⟨opening, pair⟩ := pair_of_openingOf? answers
      exact ⟨_, .closing laid.laid pair, answered, notAtStart⟩

/-- What a turn reads is laid out behind what was read before. -/
theorem Turn.laysOut (turn : r.Turn s) (laid : r.LaysOut awaited) :
    ∃ awaited, s.LaysOut awaited := by
  cases turn with
  | blank start passed =>
    cases lineStart_of_beginLine passed with
    | empty | comment => exact ⟨awaited, (laid.consume _).consume _⟩
  | lineEnd enters => exact ⟨awaited, ((laid.enters enters).1.consume _).lineEnd⟩
  | token enters at_ noLineEnd read =>
    obtain ⟨laid, inside⟩ := laid.enters enters
    exact (laid.consume _).token inside read

theorem Turns.laysOut (turns : r.Turns s) (laid : r.LaysOut awaited) :
    ∃ awaited, s.LaysOut awaited := by
  induction turns with
  | refl => exact ⟨awaited, laid⟩
  | tail _ turn ih =>
    obtain ⟨_, laid⟩ := ih
    exact turn.laysOut laid

theorem laysOut_start (text : List Char) : (start text).LaysOut [] :=
  ⟨.nil, .nil, fun _ => ⟨rfl, isSettled_nil⟩⟩

/-- All that is read of a text is laid out. -/
theorem laysOut_readAll (all : (start text).readAll = .ok s) : ∃ awaited, s.LaysOut awaited := by
  obtain ⟨last, turns, stops⟩ := exists_turns (start text)
  obtain ⟨awaited, laid⟩ := turns.laysOut (laysOut_start text)
  rw [all] at stops
  cases stops with
  | ended enters => exact ⟨awaited, (laid.enters enters).1.consume _⟩

theorem LaysOut.ended (laid : r.LaysOut []) :
    LaidOut (r.ended.tokens.map Token.kind) [] r.indents.length
      ∧ IsSettled (r.ended.tokens.map Token.kind) := by
  unfold Reader.ended
  split
  · rename_i settled
    exact ⟨laid.laid, atStatementStart_iff.mp settled⟩
  · rename_i unsettled
    rw [atStatementStart_iff] at unsettled
    exact ⟨.newline laid.laid unsettled, isSettled_cons.mpr rfl⟩

theorem LaysOut.finish {tokens : List Token} (laid : r.LaysOut awaited)
    (finished : r.finish = .ok tokens) : WellLaidOut (tokens.map Token.kind) := by
  cases brackets : r.brackets with
  | cons bracket outer =>
    rw [finish_of_open brackets] at finished
    cases finished
  | nil =>
    rw [finish_of_closed brackets] at finished
    cases finished
    obtain rfl := laid.awaited_nil brackets
    obtain ⟨laid, settled⟩ := laid.ended
    have laid : LaidOut (r.ended.tokens.map Token.kind) [] (r.indents.length + 0) := laid
    obtain ⟨laid, settled⟩ := laid.dedents settled
    have wellLaidOut := laid.wellLaidOut settled
    simpa using wellLaidOut

end Reader

/-- Whatever text is accepted, its tokens are well laid out. -/
theorem tokenize_wellLaidOut {source : String} {tokens : List Token}
    (accepted : tokenize source = .ok tokens) : WellLaidOut (tokens.map Token.kind) := by
  unfold tokenize at accepted
  cases all : (Reader.start source.toList).readAll with
  | error e =>
    rw [all] at accepted
    cases accepted
  | ok r =>
    rw [all] at accepted
    obtain ⟨_, laid⟩ := Reader.laysOut_readAll all
    exact laid.finish accepted

/-- A bracket over two lines, a comment to the left of a block, and a block that ends the text. -/
theorem tokenize_block_wellLaidOut : ∃ tokens,
    tokenize "if f(\n1):\n  x\n# c\n  y" = .ok tokens
      ∧ tokens.map (·.kind.describe) = ["'if'", "identifier 'f'", "'('", "int literal 1", "')'",
        "':'", "newline", "indent", "identifier 'x'", "newline", "identifier 'y'", "newline",
        "outdent", "end of file"]
      ∧ WellLaidOut (tokens.map Token.kind) := by
  have read : (tokenize "if f(\n1):\n  x\n# c\n  y").toOption.map (List.map (·.kind.describe))
      = some ["'if'", "identifier 'f'", "'('", "int literal 1", "')'", "':'", "newline", "indent",
        "identifier 'x'", "newline", "identifier 'y'", "newline", "outdent", "end of file"] := by
    decide +kernel
  cases accepted : tokenize "if f(\n1):\n  x\n# c\n  y" with
  | error e =>
    rw [accepted] at read
    cases read
  | ok tokens =>
    rw [accepted] at read
    exact ⟨tokens, rfl, Option.some.inj read, tokenize_wellLaidOut accepted⟩

end PixelApplet
