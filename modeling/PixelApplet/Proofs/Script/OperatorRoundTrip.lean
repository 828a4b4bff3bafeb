import PixelApplet.Proofs.Script.CallRoundTrip

/-!
# Reading back suffixes, operators and lambdas

A suffix opens a nesting level that stays open until its operand ends, and so does an operator.  One
written expression therefore opens at most three levels before the expressions in it begin.
-/

namespace PixelApplet.Parser

/-- An operand with one suffix is an expression where a parenthesis closes behind it. -/
theorem readable_of_suffix {e object : Expr} {tail : List TokenKind}
    (written : e.rendering = parenthesized object.rendering ++ tail)
    (readable : Readable object) (taller : object.height < e.height)
    (reads : ∀ fuel f d rest read, Like object read → 16 * e.rendering.length ≤ fuel + 4 →
      d + 3 * e.height ≤ maxNesting + 3 →
      Reads (suffixes fuel read) ⟨tail ++ .symbol .rightParen :: rest, f, d⟩
        ⟨.symbol .rightParen :: rest, f, d + 1⟩ (Like e)) :
    Readable e := by
  intro fuel f d rest enough room
  have longer : 16 * object.rendering.length + 32 ≤ 16 * e.rendering.length := by
    rw [written, List.length_append, length_parenthesized]
    omega
  obtain ⟨fuel, rfl⟩ : ∃ n, fuel = n + 4 := ⟨fuel - 4, by omega⟩
  have readsSuffix := fun read like =>
    reads fuel f (d + 1) rest read like (by omega) (by omega)
  rw [written, List.append_assoc]
  refine reads_test_of_operand beginsOperand_leftParen (by omega) ?_ endsOperators_rightParen rfl
  unfold operand
  refine Reads.bind (readable.atom (by omega) (by omega)) fun read like => ?_
  refine Reads.step reads_depth (Reads.bind (readsSuffix read like) fun value likeValue => ?_)
  exact Reads.bind reads_restoreDepth fun _ _ => Reads.pure likeValue

section Suffixes

variable (pos : Position) {object : Expr}

theorem readable_attribute (name : String) (readable : Readable object) :
    Readable (.attribute pos object name) := by
  refine readable_of_suffix (by rw [Expr.rendering]) readable (by rw [Expr.height]; omega)
    fun fuel f d rest read like enough room => ?_
  simp only [Expr.rendering, List.length_append, length_parenthesized, List.length_cons,
    List.length_nil] at enough
  simp only [Expr.height] at room
  have positive := object.height_pos
  obtain ⟨fuel, rfl⟩ : ∃ n, fuel = n + 2 := ⟨fuel - 2, by omega⟩
  unfold suffixes
  refine Reads.bind (reads_position _) fun pos _ => Reads.step reads_kind ?_
  refine Reads.bind (reads_enter (by omega)) fun _ _ => Reads.bind reads_advance fun _ _ => ?_
  refine Reads.step (reads_expectIdentifier name) ?_
  refine Reads.weaken (reads_suffixes_none _ rfl) fun value known => ?_
  rw [known]
  simp only [Like, Expr.unplaced, show read.unplaced = object.unplaced from like]

theorem readable_call {arguments : List Argument} (readable : Readable object)
    (arranged : Argument.Arranged arguments)
    (readableArguments : ∀ argument ∈ arguments, Argument.Readable argument) :
    Readable (.call pos object arguments) := by
  refine readable_of_suffix (by rw [Expr.rendering]) readable (by rw [Expr.height]; omega)
    fun fuel f d rest read like enough room => ?_
  simp only [Expr.rendering, List.length_append, length_parenthesized] at enough
  simp only [Expr.height] at room
  have positive := object.height_pos
  obtain ⟨fuel, rfl⟩ : ∃ n, fuel = n + 2 := ⟨fuel - 2, by omega⟩
  simp only [parenthesized, List.cons_append, List.append_assoc, List.nil_append]
  unfold suffixes
  refine Reads.bind (reads_position _) fun pos _ => Reads.step reads_kind ?_
  refine Reads.bind (reads_enter (by omega)) fun _ _ => Reads.bind reads_advance fun _ _ => ?_
  refine Reads.bind (reads_argumentList arguments [] rfl arranged readableArguments (by omega)
    (by omega)) fun readArguments likeArguments => ?_
  refine Reads.bind (reads_expectSymbol .rightParen) fun _ _ => ?_
  refine Reads.weaken (reads_suffixes_none _ rfl) fun value known => ?_
  rw [known]
  simp only [Like, Expr.unplaced, show read.unplaced = object.unplaced from like, likeArguments,
    List.nil_append]

/-- A subscript is a suffix. -/
theorem readable_of_subscript {e : Expr} {inside : List TokenKind}
    (written : e.rendering = parenthesized object.rendering ++ .symbol .leftBracket :: inside)
    (readable : Readable object) (taller : object.height < e.height)
    (reads : ∀ fuel f d rest pos read, Like object read → 16 * e.rendering.length ≤ fuel + 6 →
      d + 3 * e.height ≤ maxNesting + 4 →
      Reads (subscript fuel pos read) ⟨inside ++ rest, f, d⟩ ⟨rest, f, d⟩ (Like e)) :
    Readable e := by
  refine readable_of_suffix written readable taller fun fuel f d rest read like enough room => ?_
  have longer : 48 ≤ 16 * e.rendering.length := by
    rw [written, List.length_append, length_parenthesized, List.length_cons]
    omega
  have positive := object.height_pos
  obtain ⟨fuel, rfl⟩ : ∃ n, fuel = n + 2 := ⟨fuel - 2, by omega⟩
  rw [List.cons_append]
  unfold suffixes
  refine Reads.bind (reads_position _) fun pos _ => Reads.step reads_kind ?_
  refine Reads.bind (reads_enter (by omega)) fun _ _ => Reads.bind reads_advance fun _ _ => ?_
  refine Reads.bind (reads _ f (d + 1) (.symbol .rightParen :: rest) pos read like (by omega)
    (by omega)) fun value likeValue => ?_
  exact Reads.weaken (reads_suffixes_none value rfl) fun same known => known ▸ likeValue

theorem readable_index {key : Expr} (readable : Readable object) (readableKey : Readable key) :
    Readable (.index pos object key) := by
  refine readable_of_subscript (by rw [Expr.rendering]) readable (by rw [Expr.height]; omega)
    fun fuel f d rest pos read like enough room => ?_
  simp only [Expr.rendering, List.length_append, length_parenthesized, List.length_cons,
    List.length_nil] at enough
  simp only [Expr.height] at room
  obtain ⟨fuel, rfl⟩ : ∃ n, fuel = n + 2 := ⟨fuel - 2, by omega⟩
  simp only [List.append_assoc, List.cons_append, List.nil_append]
  unfold subscript subscriptParts
  refine Reads.through ⟨.symbol .rightBracket :: rest, f, d⟩
    (fun parts => ∃ readKey, Like key readKey ∧ parts = (0, some readKey, none, none)) ?_ ?_
  · refine Reads.step (reads_atSymbol .rightBracket) (Reads.step (reads_skipSymbol_other rfl) ?_)
    refine Reads.bind (readableKey.test (by omega) (by omega) endsOperators_rightBracket rfl)
      fun readKey likeKey => Reads.step (reads_atSymbol .colon) ?_
    exact Reads.pure ⟨readKey, likeKey, rfl⟩
  · rintro _ ⟨readKey, likeKey, rfl⟩
    refine Reads.bind (reads_expectSymbol .rightBracket) fun _ _ => Reads.pure ?_
    simp only [Like, Expr.unplaced, show read.unplaced = object.unplaced from like,
      show readKey.unplaced = key.unplaced from likeKey]

/-- The last part of a slice, behind its second colon. -/
theorem reads_lastPart {rest : List TokenKind} {f d fuel : Nat} (start stop part : Option Expr)
    (readable : ∀ e, part = some e → Readable e)
    (enough : 16 * (Expr.optionRendering part).length + 2 ≤ fuel)
    (room : d + 1 + 3 * Expr.heightOption part ≤ maxNesting + 2) :
    Reads (subscriptParts fuel pos 2 start stop none)
      ⟨Expr.optionRendering part ++ .symbol .rightBracket :: rest, f, d⟩
      ⟨.symbol .rightBracket :: rest, f, d⟩
      fun parts => ∃ step, parts = (2, start, stop, step)
        ∧ Expr.unplacedOption step = Expr.unplacedOption part := by
  obtain ⟨fuel, rfl⟩ : ∃ n, fuel = n + 1 := ⟨fuel - 1, by omega⟩
  unfold subscriptParts
  cases part with
  | none => exact Reads.step (reads_atSymbol .rightBracket) (Reads.pure ⟨none, rfl, rfl⟩)
  | some e =>
    simp only [Expr.optionRendering, length_parenthesized] at enough
    simp only [Expr.heightOption] at room
    refine Reads.step (reads_atSymbol .rightBracket) (Reads.step (reads_skipSymbol_other rfl) ?_)
    refine Reads.bind ((readable e rfl).test (by omega) (by omega) endsOperators_rightBracket rfl)
      fun read like => Reads.step (reads_atSymbol .colon) (Reads.pure ⟨some read, rfl, ?_⟩)
    simp only [Expr.unplacedOption, show read.unplaced = e.unplaced from like]

/-- The first or the middle part of a slice and the colon behind it: without colons before it, the
part is where the slice starts, and behind one colon where it stops. -/
theorem reads_partAndColon {rest : List TokenKind} {f d fuel colons : Nat} {after : Situation}
    {property : Nat × Option Expr × Option Expr × Option Expr → Prop}
    (few : colons = 0 ∨ colons = 1) (start part : Option Expr)
    (readable : ∀ e, part = some e → Readable e)
    (enough : 16 * (Expr.optionRendering part).length + 2 ≤ fuel)
    (room : d + 1 + 3 * Expr.heightOption part ≤ maxNesting + 2)
    (next : ∀ fuel' read, fuel ≤ fuel' + 2 → Expr.unplacedOption read = Expr.unplacedOption part →
      Reads (subscriptParts fuel' pos (colons + 1) (if colons = 0 then read else start)
        (if colons = 0 then none else read) none) ⟨rest, f, d⟩ after property) :
    Reads (subscriptParts fuel pos colons (if colons = 0 then none else start) none none)
      ⟨Expr.optionRendering part ++ .symbol .colon :: rest, f, d⟩ after property := by
  obtain ⟨fuel, rfl⟩ : ∃ n, fuel = n + 2 := ⟨fuel - 2, by omega⟩
  rcases few with rfl | rfl
  all_goals
    cases part with
    | none =>
      unfold subscriptParts
      refine Reads.step (reads_atSymbol .rightBracket) (Reads.step (reads_skipSymbol .colon) ?_)
      exact next (fuel + 1) none (by omega) rfl
    | some e =>
      simp only [Expr.optionRendering, length_parenthesized] at enough
      simp only [Expr.heightOption] at room
      unfold subscriptParts
      refine Reads.step (reads_atSymbol .rightBracket) (Reads.step (reads_skipSymbol_other rfl) ?_)
      refine Reads.bind ((readable e rfl).test (by omega) (by omega) endsOperators_colon rfl)
        fun read like => Reads.step (reads_atSymbol .colon) ?_
      simp only [TokenKind.isSymbol, decide_true, if_true]
      unfold subscriptParts
      refine Reads.step (reads_atSymbol .rightBracket) (Reads.step (reads_skipSymbol .colon) ?_)
      refine next fuel (some read) (by omega) ?_
      simp only [Expr.unplacedOption, show read.unplaced = e.unplaced from like]

theorem readable_slice {start stop step : Option Expr} (readable : Readable object)
    (readableStart : ∀ e, start = some e → Readable e)
    (readableStop : ∀ e, stop = some e → Readable e)
    (readableStep : ∀ e, step = some e → Readable e) :
    Readable (.slice pos object start stop step) := by
  refine readable_of_subscript (by rw [Expr.rendering]) readable (by rw [Expr.height]; omega)
    fun fuel f d rest pos read like enough room => ?_
  simp only [Expr.rendering, List.length_append, length_parenthesized, List.length_cons,
    List.length_nil] at enough
  simp only [Expr.height] at room
  obtain ⟨fuel, rfl⟩ : ∃ n, fuel = n + 1 := ⟨fuel - 1, by omega⟩
  simp only [List.append_assoc, List.cons_append, List.nil_append]
  unfold subscript
  refine Reads.through ⟨.symbol .rightBracket :: rest, f, d⟩
    (fun parts => ∃ readStart readStop readStep, parts = (2, readStart, readStop, readStep)
      ∧ Expr.unplacedOption readStart = Expr.unplacedOption start
      ∧ Expr.unplacedOption readStop = Expr.unplacedOption stop
      ∧ Expr.unplacedOption readStep = Expr.unplacedOption step) ?_ ?_
  · refine reads_partAndColon pos (.inl rfl) none start readableStart (by omega) (by omega)
      fun fuel₁ readStart enough₁ likeStart => ?_
    refine reads_partAndColon pos (.inr rfl) readStart stop readableStop (by omega) (by omega)
      fun fuel₂ readStop enough₂ likeStop => ?_
    refine Reads.weaken (reads_lastPart pos readStart readStop step readableStep (by omega)
      (by omega)) ?_
    rintro parts ⟨readStep, rfl, likeStep⟩
    exact ⟨readStart, readStop, readStep, rfl, likeStart, likeStop, likeStep⟩
  · rintro _ ⟨readStart, readStop, readStep, rfl, likeStart, likeStop, likeStep⟩
    refine Reads.bind (reads_expectSymbol .rightBracket) fun _ _ => Reads.pure ?_
    simp only [Like, Expr.unplaced, likeStart, likeStop, likeStep,
      show read.unplaced = object.unplaced from like]

end Suffixes

section Operators

variable (pos : Position)

/-- The tokens of an operator tell it, whatever follows them. -/
theorem operatorOf?_tokens (op : BinaryOp) (after : List TokenKind) :
    ∃ k power, orPower ≤ power ∧ endsOperand k = true
      ∧ (op.tokens = [k] ∧ operatorOf? k (after.headD .endOfFile) = some (op, power, 1)
        ∨ ∃ k', op.tokens = [k, k'] ∧ operatorOf? k k' = some (op, power, 2)) := by
  cases op with
  | notIn => exact ⟨_, _, by decide, rfl, .inr ⟨_, rfl, rfl⟩⟩
  | _ => exact ⟨_, _, by decide, rfl, .inl ⟨rfl, rfl⟩⟩

theorem readable_binary (op : BinaryOp) {left right : Expr} (readableLeft : Readable left)
    (readableRight : Readable right) : Readable (.binary pos op left right) := by
  intro fuel f d rest enough room
  simp only [Expr.rendering, List.length_append, length_parenthesized] at enough
  simp only [Expr.height] at room
  have positive := left.height_pos
  obtain ⟨fuel, rfl⟩ : ∃ n, fuel = n + 5 := ⟨fuel - 5, by omega⟩
  obtain ⟨k, power, looser, ends, tokens⟩ := operatorOf?_tokens op
    (parenthesized right.rendering ++ .symbol .rightParen :: rest)
  simp only [Expr.rendering, List.append_assoc]
  refine reads_test_of_binary rfl (by omega) ?_ rfl
  unfold binary
  refine Reads.step (reads_atKeyword .not_) ?_
  have readsRight := fun fuel (enough : 16 * right.rendering.length + 6 ≤ fuel) =>
    @Readable.binary (.symbol .rightParen) rest f (d + 2) fuel right (power + 1) readableRight
      enough (by omega) endsOperators_rightParen
  have finish : ∀ pos readLeft, Like left readLeft → Reads
      (do
        enter
        let readRight ← binary (fuel + 2) (power + 1)
        binaryRest (fuel + 2) orPower (.binary pos op readLeft readRight))
      ⟨parenthesized right.rendering ++ .symbol .rightParen :: rest, f, d + 1⟩
      ⟨.symbol .rightParen :: rest, f, d + 2⟩ (Like (.binary pos op left right)) := by
    intro pos readLeft likeLeft
    refine Reads.bind (reads_enter (by omega)) fun _ _ => ?_
    refine Reads.bind (readsRight (fuel + 2) (by omega)) fun readRight likeRight => ?_
    refine Reads.weaken (reads_binaryRest_none _ endsOperators_rightParen) fun same known => ?_
    rw [known]
    simp only [Like, Expr.unplaced, show readLeft.unplaced = left.unplaced from likeLeft,
      show readRight.unplaced = right.unplaced from likeRight]
  refine Reads.through ⟨op.tokens
    ++ (parenthesized right.rendering ++ .symbol .rightParen :: rest), f, d + 1⟩ (Like left) ?_
    fun readLeft likeLeft => Reads.step reads_depth ?_
  · rcases tokens with ⟨tokens, _⟩ | ⟨_, tokens, _⟩ <;>
    · rw [tokens]
      exact readableLeft.unary (by omega) (by omega) ends
  · refine Reads.through ⟨.symbol .rightParen :: rest, f, d + 2⟩
      (Like (.binary pos op left right)) ?_ fun value like =>
        Reads.bind reads_restoreDepth fun _ _ => Reads.pure like
    unfold binaryRest
    rcases tokens with ⟨tokens, operator⟩ | ⟨k', tokens, operator⟩
    · rw [tokens]
      refine Reads.step reads_operator? ?_
      simp only [List.append_eq, List.nil_append, operator, if_neg (Nat.not_lt.mpr looser)]
      refine Reads.bind (reads_position _) fun pos _ => Reads.bind reads_advance fun _ _ => ?_
      exact finish pos readLeft likeLeft
    · rw [tokens]
      refine Reads.step reads_operator? ?_
      simp only [List.append_eq, List.cons_append, List.nil_append, List.headD_cons, operator,
        if_neg (Nat.not_lt.mpr looser)]
      refine Reads.bind (reads_position _) fun pos _ => Reads.bind reads_advance fun _ _ => ?_
      exact Reads.bind reads_advance fun _ _ => finish pos readLeft likeLeft

theorem readable_unary (op : UnaryOp) {operand : Expr} (readable : Readable operand) :
    Readable (.unary pos op operand) := by
  intro fuel f d rest enough room
  simp only [Expr.rendering, List.length_cons, length_parenthesized] at enough
  simp only [Expr.height] at room
  have positive := operand.height_pos
  obtain ⟨fuel, rfl⟩ : ∃ n, fuel = n + 4 := ⟨fuel - 4, by omega⟩
  cases op with
  | neg =>
    refine reads_test_of_binary rfl (by omega) (reads_binary_of_unary rfl ?_
      endsOperators_rightParen) rfl
    unfold unary
    refine Reads.bind (reads_position _) fun pos _ => ?_
    refine Reads.step (reads_skipSymbol .minus) ?_
    refine Reads.bind (reads_nested (by omega) (readable.unary (by omega) (by omega) rfl))
      fun read like => Reads.pure ?_
    simp only [Like, Expr.unplaced, show read.unplaced = operand.unplaced from like]
  | pos =>
    refine reads_test_of_binary rfl (by omega) (reads_binary_of_unary rfl ?_
      endsOperators_rightParen) rfl
    unfold unary
    refine Reads.bind (reads_position _) fun pos _ => ?_
    refine Reads.step (reads_skipSymbol_other rfl) (Reads.step (reads_skipSymbol .plus) ?_)
    refine Reads.bind (reads_nested (by omega) (readable.unary (by omega) (by omega) rfl))
      fun read like => Reads.pure ?_
    simp only [Like, Expr.unplaced, show read.unplaced = operand.unplaced from like]
  | not =>
    refine reads_test_of_binary rfl (by omega) ?_ rfl
    unfold binary
    refine Reads.step (reads_atKeyword .not_) ?_
    refine Reads.bind (reads_position _) fun pos _ => Reads.bind reads_advance fun _ _ => ?_
    refine Reads.bind (reads_nested (by omega) (readable.binary (by omega) (by omega)
      endsOperators_rightParen)) fun read like => ?_
    refine Reads.step (Reads.pure rfl) (Reads.step reads_depth ?_)
    refine Reads.step (reads_binaryRest_none _ endsOperators_rightParen) ?_
    refine Reads.bind reads_restoreDepth fun _ _ => Reads.pure ?_
    simp only [Like, Expr.unplaced, show read.unplaced = operand.unplaced from like]

theorem readable_conditional {condition thenValue elseValue : Expr}
    (readableCondition : Readable condition) (readableThen : Readable thenValue)
    (readableElse : Readable elseValue) :
    Readable (.conditional pos condition thenValue elseValue) := by
  intro fuel f d rest enough room
  simp only [Expr.rendering, List.length_append, List.length_cons, length_parenthesized] at enough
  simp only [Expr.height] at room
  obtain ⟨fuel, rfl⟩ : ∃ n, fuel = n + 1 := ⟨fuel - 1, by omega⟩
  simp only [Expr.rendering, List.append_assoc, List.cons_append]
  unfold test
  refine reads_nested (by omega) (Reads.step (reads_atKeyword .lambda) ?_)
  refine Reads.bind (reads_position _) fun pos _ => ?_
  refine Reads.bind (readableThen.binary (by omega) (by omega) endsOperators_if)
    fun readThen likeThen => Reads.step (reads_skipKeyword .if_) ?_
  refine Reads.bind (readableCondition.binary (by omega) (by omega) endsOperators_else)
    fun readCondition likeCondition => Reads.bind (reads_expectKeyword .else_) fun _ _ => ?_
  refine Reads.bind (readableElse.test (by omega) (by omega) endsOperators_rightParen rfl)
    fun readElse likeElse => Reads.pure ?_
  simp only [Like, Expr.unplaced,
    show readCondition.unplaced = condition.unplaced from likeCondition,
    show readThen.unplaced = thenValue.unplaced from likeThen,
    show readElse.unplaced = elseValue.unplaced from likeElse]

theorem readable_lambda {declared : Position} {params : List Param} {bodyPos : Position}
    {body : Expr} (arranged : Param.Arranged params)
    (readableParams : ∀ param ∈ params, Param.Readable param) (readable : Readable body) :
    Readable (.lambda pos (.mk "lambda" declared params [.return_ bodyPos (some body)])) := by
  intro fuel f d rest enough room
  simp only [Expr.rendering, FunctionDecl.lambdaRendering, List.length_append, List.length_cons,
    length_parenthesized] at enough
  simp only [Expr.height, FunctionDecl.height, Stmt.heightAll, Stmt.height, Expr.heightOption]
    at room
  obtain ⟨fuel, rfl⟩ : ∃ n, fuel = n + 2 := ⟨fuel - 2, by omega⟩
  simp only [Expr.rendering, FunctionDecl.lambdaRendering, List.append_assoc, List.cons_append]
  unfold test
  refine reads_nested (by omega) (Reads.step (reads_atKeyword .lambda) ?_)
  simp only [TokenKind.isKeyword, decide_true, if_true]
  unfold lambda
  refine Reads.bind (reads_position _) fun pos _ => ?_
  refine Reads.bind (reads_expectKeyword .lambda) fun _ _ => ?_
  refine Reads.bind (reads_paramList params [] (.inr rfl) rfl arranged readableParams (by omega)
    (by omega)) fun readParams likeParams => ?_
  refine Reads.bind (reads_expectSymbol .colon) fun _ _ => ?_
  refine Reads.bind (reads_position _) fun bodyPos _ => ?_
  refine Reads.bind (readable.test (by omega) (by omega) endsOperators_rightParen rfl)
    fun readBody likeBody => Reads.pure ?_
  simp only [Like, Expr.unplaced, FunctionDecl.unplaced, Stmt.unplacedAll, Stmt.unplaced,
    Expr.unplacedOption, likeParams, List.nil_append,
    show readBody.unplaced = body.unplaced from likeBody]

end Operators

end PixelApplet.Parser
