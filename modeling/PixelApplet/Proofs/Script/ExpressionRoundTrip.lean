import PixelApplet.Proofs.Script.Rendering

/-!
# Reading back written expressions

What a parser reads is described by where it starts and stops.  Every parser of expressions gets
exactly to the end of a written expression.
-/

namespace PixelApplet.Parser

/-!
## What a parser reads

A parser is described by where it starts and where it ends: the kinds of the tokens still to be
read, the number of open function bodies and the number of open nesting levels.  Descriptions of a
sequence of parsers are put together step by step.
-/

/-- Where a parser stands, the places of its tokens left out. -/
structure Situation where
  kinds : List TokenKind
  functionDepth : Nat
  depth : Nat

/-- Where a parser stands in a state. -/
def situation (s : ParserState) : Situation :=
  ⟨s.tokens.map Token.kind, s.functionDepth, s.depth⟩

/-- From one situation a parser gets to another, with a result that has a property. -/
def Reads {α : Type} (p : Parser α) (start stop : Situation) (property : α → Prop) : Prop :=
  ∀ s, situation s = start → ∃ x s', p s = .ok (x, s') ∧ situation s' = stop ∧ property x

section Situations

variable {α β : Type}

namespace Reads

theorem pure {start : Situation} {property : α → Prop} {x : α} (holds : property x) :
    Reads (Pure.pure x) start start property :=
  fun s at_ => ⟨x, s, rfl, at_, holds⟩

theorem bind {p : Parser α} {f : α → Parser β} {start middle stop : Situation}
    {first : α → Prop} {second : β → Prop}
    (reads : Reads p start middle first)
    (next : ∀ x, first x → Reads (f x) middle stop second) :
    Reads (p >>= f) start stop second := by
  intro s at_
  obtain ⟨x, s₁, ran, at₁, holds⟩ := reads s at_
  obtain ⟨y, s₂, ran₂, at₂, holds₂⟩ := next x holds s₁ at₁
  refine ⟨y, s₂, ?_, at₂, holds₂⟩
  simp only [Bind.bind, StateT.bind, ran, Except.bind]
  exact ran₂

/-- Two steps with the situation between them and what the first one finds. -/
theorem through {p : Parser α} {f : α → Parser β} {start stop : Situation} {second : β → Prop}
    (middle : Situation) (first : α → Prop) (reads : Reads p start middle first)
    (next : ∀ x, first x → Reads (f x) middle stop second) :
    Reads (p >>= f) start stop second :=
  bind reads next

/-- A step whose result is known. -/
theorem step {p : Parser α} {f : α → Parser β} {start middle stop : Situation} {v : α}
    {second : β → Prop} (reads : Reads p start middle (· = v))
    (next : Reads (f v) middle stop second) :
    Reads (p >>= f) start stop second :=
  bind reads fun _ known => known ▸ next

theorem weaken {p : Parser α} {start stop : Situation} {strong weak : α → Prop}
    (reads : Reads p start stop strong) (implies : ∀ x, strong x → weak x) :
    Reads p start stop weak := by
  intro s at_
  obtain ⟨x, s', ran, at', holds⟩ := reads s at_
  exact ⟨x, s', ran, at', implies x holds⟩

theorem otherwise {condition : Prop} [Decidable condition] {p q : Parser α}
    {start stop : Situation} {property : α → Prop} (fails : ¬condition)
    (reads : Reads q start stop property) :
    Reads (if condition then p else q) start stop property := by
  rw [if_neg fails]
  exact reads

/-- A check that refuses nothing. -/
theorem passing {refused : Bool} {p q : Parser α} {start stop : Situation} {property : α → Prop}
    (passes : refused = false) (reads : Reads q start stop property) :
    Reads (if refused = true then p else q) start stop property :=
  otherwise (Bool.eq_false_iff.mp passes) reads

end Reads

section Steps

variable {k : TokenKind} {ks : List TokenKind} {f d : Nat}

theorem reads_position (c : Situation) : Reads position c c fun _ => True := by
  intro s at_
  unfold position
  cases tokens : s.tokens with
  | nil => exact ⟨s.lastPosition, s, rfl, at_, trivial⟩
  | cons token rest => exact ⟨token.start, s, rfl, at_, trivial⟩

theorem reads_kind : Reads kind ⟨k :: ks, f, d⟩ ⟨k :: ks, f, d⟩ (· = k) := by
  intro s at_
  refine ⟨k, s, ?_, at_, rfl⟩
  cases s with
  | mk tokens last functionDepth depth =>
    cases tokens with
    | nil => simp [situation] at at_
    | cons token rest =>
      simp only [situation, List.map_cons, Situation.mk.injEq, List.cons.injEq] at at_
      simp [kind, at_.1.1]

theorem reads_kindAfter :
    Reads kindAfter ⟨k :: ks, f, d⟩ ⟨k :: ks, f, d⟩ (· = ks.headD .endOfFile) := by
  intro s at_
  refine ⟨_, s, ?_, at_, rfl⟩
  cases s with
  | mk tokens last functionDepth depth =>
    match tokens with
    | [] => simp [situation] at at_
    | [first] =>
      simp only [situation, List.map_cons, Situation.mk.injEq, List.cons.injEq] at at_
      simp [kindAfter, ← at_.1.2]
    | first :: second :: rest =>
      simp only [situation, List.map_cons, Situation.mk.injEq, List.cons.injEq] at at_
      simp [kindAfter, ← at_.1.2]

theorem reads_advance : Reads advance ⟨k :: ks, f, d⟩ ⟨ks, f, d⟩ fun _ => True := by
  intro s at_
  refine ⟨(), _, rfl, ?_, trivial⟩
  simp only [situation, Situation.mk.injEq] at at_ ⊢
  exact ⟨by rw [List.map_tail, at_.1, List.tail_cons], at_.2⟩

theorem reads_enter (room : d < maxNesting) :
    Reads enter ⟨ks, f, d⟩ ⟨ks, f, d + 1⟩ fun _ => True := by
  intro s at_
  simp only [situation, Situation.mk.injEq] at at_
  refine ⟨(), { s with depth := s.depth + 1 }, ?_, ?_, trivial⟩
  · unfold enter
    rw [if_neg (by omega)]
  · simp [situation, at_]

theorem reads_depth : Reads depth ⟨ks, f, d⟩ ⟨ks, f, d⟩ (· = d) := by
  intro s at_
  refine ⟨s.depth, s, rfl, at_, ?_⟩
  simp only [situation, Situation.mk.injEq] at at_
  exact at_.2.2

theorem reads_restoreDepth {d' : Nat} :
    Reads (restoreDepth d) ⟨ks, f, d'⟩ ⟨ks, f, d⟩ fun _ => True := by
  intro s at_
  simp only [situation, Situation.mk.injEq] at at_
  exact ⟨(), { s with depth := d }, rfl, by simp [situation, at_], trivial⟩

/-- A parser that runs one level deeper. -/
theorem reads_nested {p : Parser α} {ks' : List TokenKind} {f' : Nat} {property : α → Prop}
    (room : d < maxNesting) (reads : Reads p ⟨ks, f, d + 1⟩ ⟨ks', f', d + 1⟩ property) :
    Reads (nested p) ⟨ks, f, d⟩ ⟨ks', f', d⟩ property := by
  refine Reads.bind (reads_enter room) fun _ _ => Reads.bind reads fun x holds => ?_
  intro s at_
  simp only [situation, Situation.mk.injEq] at at_
  exact ⟨x, { s with depth := s.depth - 1 }, rfl, by simp [situation, at_], holds⟩

theorem reads_atSymbol (mark : Symbol) :
    Reads (atSymbol mark) ⟨k :: ks, f, d⟩ ⟨k :: ks, f, d⟩ (· = k.isSymbol mark) :=
  Reads.step reads_kind (Reads.pure rfl)

theorem reads_atKeyword (word : Keyword) :
    Reads (atKeyword word) ⟨k :: ks, f, d⟩ ⟨k :: ks, f, d⟩ (· = k.isKeyword word) :=
  Reads.step reads_kind (Reads.pure rfl)

theorem reads_skipSymbol (mark : Symbol) :
    Reads (skipSymbol mark) ⟨.symbol mark :: ks, f, d⟩ ⟨ks, f, d⟩ (· = true) := by
  refine Reads.step (reads_atSymbol mark) ?_
  simp only [TokenKind.isSymbol, decide_true, if_true]
  exact Reads.bind reads_advance fun _ _ => Reads.pure rfl

theorem reads_skipSymbol_other {mark : Symbol} (other : k.isSymbol mark = false) :
    Reads (skipSymbol mark) ⟨k :: ks, f, d⟩ ⟨k :: ks, f, d⟩ (· = false) := by
  refine Reads.step (reads_atSymbol mark) ?_
  rw [other]
  exact Reads.pure rfl

theorem reads_skipKeyword (word : Keyword) :
    Reads (skipKeyword word) ⟨.keyword word :: ks, f, d⟩ ⟨ks, f, d⟩ (· = true) := by
  refine Reads.step (reads_atKeyword word) ?_
  simp only [TokenKind.isKeyword, decide_true, if_true]
  exact Reads.bind reads_advance fun _ _ => Reads.pure rfl

theorem reads_skipKeyword_other {word : Keyword} (other : k.isKeyword word = false) :
    Reads (skipKeyword word) ⟨k :: ks, f, d⟩ ⟨k :: ks, f, d⟩ (· = false) := by
  refine Reads.step (reads_atKeyword word) ?_
  rw [other]
  exact Reads.pure rfl

theorem reads_skipNewline :
    Reads skipNewline ⟨.newline :: ks, f, d⟩ ⟨ks, f, d⟩ (· = true) :=
  Reads.step reads_kind (Reads.bind reads_advance fun _ _ => Reads.pure rfl)

theorem reads_expectSymbol (mark : Symbol) :
    Reads (expectSymbol mark) ⟨.symbol mark :: ks, f, d⟩ ⟨ks, f, d⟩ fun _ => True :=
  Reads.step (reads_skipSymbol mark) (Reads.pure trivial)

theorem reads_expectKeyword (word : Keyword) :
    Reads (expectKeyword word) ⟨.keyword word :: ks, f, d⟩ ⟨ks, f, d⟩ fun _ => True :=
  Reads.step (reads_skipKeyword word) (Reads.pure trivial)

theorem reads_expectNewline :
    Reads expectNewline ⟨.newline :: ks, f, d⟩ ⟨ks, f, d⟩ fun _ => True :=
  Reads.step reads_skipNewline (Reads.pure trivial)

theorem reads_expectIndent :
    Reads expectIndent ⟨.indent :: ks, f, d⟩ ⟨ks, f, d⟩ fun _ => True :=
  Reads.step reads_kind reads_advance

theorem reads_expectIdentifier (name : String) :
    Reads expectIdentifier ⟨.identifier name :: ks, f, d⟩ ⟨ks, f, d⟩ (· = name) :=
  Reads.step reads_kind (Reads.bind reads_advance fun _ _ => Reads.pure rfl)

theorem reads_expectString (text : String) :
    Reads expectString ⟨.string text :: ks, f, d⟩ ⟨ks, f, d⟩ (· = text) :=
  Reads.step reads_kind (Reads.bind reads_advance fun _ _ => Reads.pure rfl)

theorem reads_operator? :
    Reads operator? ⟨k :: ks, f, d⟩ ⟨k :: ks, f, d⟩
      (· = operatorOf? k (ks.headD .endOfFile)) :=
  Reads.step reads_kind (Reads.step reads_kindAfter (Reads.pure rfl))

end Steps

end Situations

/-!
## Levels of precedence

Every parser of expressions gets exactly to the end of a written expression.  The proof goes up the
levels of precedence once, for expressions in parentheses; each form of expression then needs only
the parsers that know the form.
-/

/-- Expressions that differ in positions only. -/
def Like (e read : Expr) : Prop :=
  read.unplaced = e.unplaced

/-- Tokens behind which no suffix of an operand follows. -/
def endsOperand : TokenKind → Bool
  | .symbol .dot | .symbol .leftParen | .symbol .leftBracket => false
  | _ => true

/-- Tokens that continue no operator expression. -/
def endsOperators (k : TokenKind) : Prop :=
  endsOperand k = true ∧ ∀ after, operatorOf? k after = none

/-- Tokens that begin an operand without a prefixed operator. -/
def beginsOperand (k : TokenKind) : Prop :=
  k.isKeyword .lambda = false ∧ k.isKeyword .not_ = false ∧ k.isSymbol .minus = false
    ∧ k.isSymbol .plus = false ∧ k.isSymbol .rightParen = false

section Levels

variable {k next : TokenKind} {ks rest : List TokenKind} {f d fuel : Nat} {P : Expr → Prop}

theorem reads_suffixes_none (object : Expr) (ends : endsOperand next = true) :
    Reads (suffixes (fuel + 1) object) ⟨next :: rest, f, d⟩ ⟨next :: rest, f, d⟩ (· = object) := by
  unfold suffixes
  refine Reads.bind (reads_position _) fun pos _ => Reads.step reads_kind ?_
  cases next with
  | symbol symbol =>
    cases symbol with
    | dot => cases ends
    | leftParen => cases ends
    | leftBracket => cases ends
    | _ => exact Reads.pure rfl
  | _ => exact Reads.pure rfl

theorem reads_operand_of_atom
    (reads : Reads (atom (fuel + 1)) ⟨ks, f, d⟩ ⟨next :: rest, f, d⟩ P)
    (ends : endsOperand next = true) :
    Reads (operand (fuel + 2)) ⟨ks, f, d⟩ ⟨next :: rest, f, d⟩ P := by
  unfold operand
  refine Reads.bind reads fun first holds => Reads.step reads_depth ?_
  refine Reads.step (reads_suffixes_none first ends) ?_
  exact Reads.bind reads_restoreDepth fun _ _ => Reads.pure holds

theorem reads_unary_of_operand (begins : beginsOperand k)
    (reads : Reads (operand fuel) ⟨k :: ks, f, d⟩ ⟨next :: rest, f, d⟩ P) :
    Reads (unary (fuel + 1)) ⟨k :: ks, f, d⟩ ⟨next :: rest, f, d⟩ P := by
  unfold unary
  refine Reads.bind (reads_position _) fun pos _ => ?_
  refine Reads.step (reads_skipSymbol_other begins.2.2.1) ?_
  exact Reads.step (reads_skipSymbol_other begins.2.2.2.1) reads

theorem reads_binaryRest_none {power : Power} (left : Expr) (ends : endsOperators next) :
    Reads (binaryRest (fuel + 1) power left) ⟨next :: rest, f, d⟩ ⟨next :: rest, f, d⟩
      (· = left) := by
  unfold binaryRest
  refine Reads.step reads_operator? ?_
  rw [ends.2]
  exact Reads.pure rfl

theorem reads_binary_of_unary {power : Power} (notNot : k.isKeyword .not_ = false)
    (reads : Reads (unary (fuel + 1)) ⟨k :: ks, f, d⟩ ⟨next :: rest, f, d⟩ P)
    (ends : endsOperators next) :
    Reads (binary (fuel + 2) power) ⟨k :: ks, f, d⟩ ⟨next :: rest, f, d⟩ P := by
  unfold binary
  refine Reads.step (reads_atKeyword .not_) ?_
  rw [notNot]
  refine Reads.bind reads fun left holds => Reads.step reads_depth ?_
  refine Reads.step (reads_binaryRest_none left ends) ?_
  exact Reads.bind reads_restoreDepth fun _ _ => Reads.pure holds

theorem reads_test_of_binary (notLambda : k.isKeyword .lambda = false) (room : d < maxNesting)
    (reads : Reads (binary fuel orPower) ⟨k :: ks, f, d + 1⟩ ⟨next :: rest, f, d + 1⟩ P)
    (notIf : next.isKeyword .if_ = false) :
    Reads (test (fuel + 1)) ⟨k :: ks, f, d⟩ ⟨next :: rest, f, d⟩ P := by
  unfold test
  refine reads_nested room (Reads.step (reads_atKeyword .lambda) ?_)
  rw [notLambda]
  refine Reads.bind (reads_position _) fun pos _ => Reads.bind reads fun value holds => ?_
  exact Reads.step (reads_skipKeyword_other notIf) (Reads.pure holds)

/-- An operand is an expression where no operator follows it. -/
theorem reads_test_of_operand (begins : beginsOperand k) (room : d < maxNesting)
    (reads : Reads (operand fuel) ⟨k :: ks, f, d + 1⟩ ⟨next :: rest, f, d + 1⟩ P)
    (ends : endsOperators next) (notIf : next.isKeyword .if_ = false) :
    Reads (test (fuel + 3)) ⟨k :: ks, f, d⟩ ⟨next :: rest, f, d⟩ P :=
  reads_test_of_binary begins.1 room
    (reads_binary_of_unary begins.2.1 (reads_unary_of_operand begins reads) ends) notIf

theorem reads_testList_of_test
    (reads : Reads (test fuel) ⟨ks, f, d⟩ ⟨next :: rest, f, d⟩ P)
    (notComma : next.isSymbol .comma = false) :
    Reads (testList (fuel + 1)) ⟨ks, f, d⟩ ⟨next :: rest, f, d⟩ P := by
  unfold testList
  refine Reads.bind (reads_position _) fun pos _ => Reads.bind reads fun first holds => ?_
  refine Reads.step (reads_atSymbol .comma) ?_
  rw [notComma]
  exact Reads.pure holds

theorem reads_targetList_of_operand
    (reads : Reads (operand fuel) ⟨ks, f, d⟩ ⟨next :: rest, f, d⟩ P)
    (notComma : next.isSymbol .comma = false) :
    Reads (targetList (fuel + 1)) ⟨ks, f, d⟩ ⟨next :: rest, f, d⟩ P := by
  unfold targetList
  refine Reads.bind (reads_position _) fun pos _ => Reads.bind reads fun first holds => ?_
  refine Reads.step (reads_atSymbol .comma) ?_
  rw [notComma]
  exact Reads.pure holds

end Levels

/-- From its first to its last token an expression is read, where a parenthesis closes behind it. -/
def Readable (e : Expr) : Prop :=
  ∀ fuel f d ks, 16 * e.rendering.length ≤ fuel → d + 3 * e.height ≤ maxNesting + 2 →
    Reads (test fuel) ⟨e.rendering ++ .symbol .rightParen :: ks, f, d⟩
      ⟨.symbol .rightParen :: ks, f, d⟩ (Like e)

theorem beginsOperand_leftParen : beginsOperand (.symbol .leftParen) :=
  ⟨rfl, rfl, rfl, rfl, rfl⟩

namespace Readable

variable {next : TokenKind} {rest : List TokenKind} {f d fuel : Nat} {e : Expr}

theorem atom (readable : Readable e) (enough : 16 * e.rendering.length + 2 ≤ fuel)
    (room : d + 3 * e.height ≤ maxNesting + 2) :
    Reads (atom fuel) ⟨parenthesized e.rendering ++ rest, f, d⟩ ⟨rest, f, d⟩ (Like e) := by
  obtain ⟨k, ks, begins, notClose⟩ := e.rendering_begins
  obtain ⟨fuel, rfl⟩ : ∃ n, fuel = n + 2 := ⟨fuel - 2, by omega⟩
  have inside := readable fuel f d rest (by omega) room
  simp only [parenthesized, List.append_assoc, List.cons_append, List.nil_append]
  unfold Parser.atom
  refine Reads.bind (reads_position _) fun pos _ => Reads.step reads_kind ?_
  refine Reads.bind reads_advance fun _ _ => ?_
  rw [begins] at inside ⊢
  refine Reads.step (reads_skipSymbol_other notClose) ?_
  refine Reads.bind (reads_testList_of_test inside rfl) fun read like => ?_
  exact Reads.bind (reads_expectSymbol .rightParen) fun _ _ => Reads.pure like

theorem operand (readable : Readable e) (enough : 16 * e.rendering.length + 4 ≤ fuel)
    (room : d + 3 * e.height ≤ maxNesting + 2) (ends : endsOperand next = true) :
    Reads (operand fuel) ⟨parenthesized e.rendering ++ next :: rest, f, d⟩
      ⟨next :: rest, f, d⟩ (Like e) := by
  obtain ⟨fuel, rfl⟩ : ∃ n, fuel = n + 2 := ⟨fuel - 2, by omega⟩
  exact reads_operand_of_atom (readable.atom (by omega) room) ends

theorem unary (readable : Readable e) (enough : 16 * e.rendering.length + 5 ≤ fuel)
    (room : d + 3 * e.height ≤ maxNesting + 2) (ends : endsOperand next = true) :
    Reads (unary fuel) ⟨parenthesized e.rendering ++ next :: rest, f, d⟩
      ⟨next :: rest, f, d⟩ (Like e) := by
  obtain ⟨fuel, rfl⟩ : ∃ n, fuel = n + 1 := ⟨fuel - 1, by omega⟩
  exact reads_unary_of_operand beginsOperand_leftParen (readable.operand (by omega) room ends)

theorem binary {power : Power} (readable : Readable e)
    (enough : 16 * e.rendering.length + 6 ≤ fuel)
    (room : d + 3 * e.height ≤ maxNesting + 2) (ends : endsOperators next) :
    Reads (binary fuel power) ⟨parenthesized e.rendering ++ next :: rest, f, d⟩
      ⟨next :: rest, f, d⟩ (Like e) := by
  obtain ⟨fuel, rfl⟩ : ∃ n, fuel = n + 2 := ⟨fuel - 2, by omega⟩
  exact reads_binary_of_unary rfl (readable.unary (by omega) room ends.1) ends

theorem test (readable : Readable e) (enough : 16 * e.rendering.length + 7 ≤ fuel)
    (room : d + 1 + 3 * e.height ≤ maxNesting + 2) (ends : endsOperators next)
    (notIf : next.isKeyword .if_ = false) :
    Reads (test fuel) ⟨parenthesized e.rendering ++ next :: rest, f, d⟩
      ⟨next :: rest, f, d⟩ (Like e) := by
  obtain ⟨fuel, rfl⟩ : ∃ n, fuel = n + 1 := ⟨fuel - 1, by omega⟩
  have positive := e.height_pos
  exact reads_test_of_binary rfl (by omega) (readable.binary (by omega) room ends) notIf

theorem testList (readable : Readable e) (enough : 16 * e.rendering.length + 8 ≤ fuel)
    (room : d + 1 + 3 * e.height ≤ maxNesting + 2) (ends : endsOperators next)
    (notIf : next.isKeyword .if_ = false) (notComma : next.isSymbol .comma = false) :
    Reads (testList fuel) ⟨parenthesized e.rendering ++ next :: rest, f, d⟩
      ⟨next :: rest, f, d⟩ (Like e) := by
  obtain ⟨fuel, rfl⟩ : ∃ n, fuel = n + 1 := ⟨fuel - 1, by omega⟩
  exact reads_testList_of_test (readable.test (by omega) room ends notIf) notComma

theorem targetList (readable : Readable e) (enough : 16 * e.rendering.length + 5 ≤ fuel)
    (room : d + 3 * e.height ≤ maxNesting + 2) (ends : endsOperand next = true)
    (notComma : next.isSymbol .comma = false) :
    Reads (targetList fuel) ⟨parenthesized e.rendering ++ next :: rest, f, d⟩
      ⟨next :: rest, f, d⟩ (Like e) := by
  obtain ⟨fuel, rfl⟩ : ∃ n, fuel = n + 1 := ⟨fuel - 1, by omega⟩
  exact reads_targetList_of_operand (readable.operand (by omega) room ends) notComma

end Readable

end PixelApplet.Parser
