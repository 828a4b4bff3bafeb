import PixelApplet.Proofs.Script.OperatorRoundTrip

/-!
# Reading back statements that take one line

Every written expression is read back.  So is every statement of one line, whose kind is told by its
first token.
-/

namespace PixelApplet.Parser

/-!
## Reading back every expression

The induction on the tree has one case for each form of expression and one for each kind of list in
which expressions stand.
-/

mutual

theorem readable_of_wellFormed (e : Expr) (wellFormed : e.WellFormed) : Readable e := by
  match e with
  | .literal pos value => exact readable_literal pos value
  | .name pos name => exact readable_name pos name
  | .list pos items =>
    rw [Expr.WellFormed] at wellFormed
    exact readable_list pos items (readableAll_of_wellFormed items wellFormed)
  | .tuple pos items =>
    rw [Expr.WellFormed] at wellFormed
    exact readable_tuple pos items (readableAll_of_wellFormed items wellFormed)
  | .dict pos entries =>
    rw [Expr.WellFormed] at wellFormed
    exact readable_dict pos entries (readableEntries_of_wellFormed entries wellFormed)
  | .listComp pos element clauses =>
    rw [Expr.WellFormed] at wellFormed
    exact readable_listComp pos (readable_of_wellFormed element wellFormed.1) wellFormed.2.1
      (readableClauses_of_wellFormed clauses wellFormed.2.2)
  | .dictComp pos key value clauses =>
    rw [Expr.WellFormed] at wellFormed
    exact readable_dictComp pos (readable_of_wellFormed key wellFormed.1)
      (readable_of_wellFormed value wellFormed.2.1) wellFormed.2.2.1
      (readableClauses_of_wellFormed clauses wellFormed.2.2.2)
  | .unary pos op operand =>
    rw [Expr.WellFormed] at wellFormed
    exact readable_unary pos op (readable_of_wellFormed operand wellFormed)
  | .binary pos op left right =>
    rw [Expr.WellFormed] at wellFormed
    exact readable_binary pos op (readable_of_wellFormed left wellFormed.1)
      (readable_of_wellFormed right wellFormed.2)
  | .conditional pos condition thenValue elseValue =>
    rw [Expr.WellFormed] at wellFormed
    exact readable_conditional pos (readable_of_wellFormed condition wellFormed.1)
      (readable_of_wellFormed thenValue wellFormed.2.1)
      (readable_of_wellFormed elseValue wellFormed.2.2)
  | .lambda pos (.mk name declared params [.return_ bodyPos (some body)]) =>
    rw [Expr.WellFormed, FunctionDecl.WellFormedLambda] at wellFormed
    obtain ⟨rfl, arranged, params', body'⟩ := wellFormed
    exact readable_lambda pos arranged (readableParams_of_wellFormed params params')
      (readable_of_wellFormed body body')
  | .call pos callee arguments =>
    rw [Expr.WellFormed] at wellFormed
    exact readable_call pos (readable_of_wellFormed callee wellFormed.1) wellFormed.2.1
      (readableArguments_of_wellFormed arguments wellFormed.2.2)
  | .attribute pos object name =>
    rw [Expr.WellFormed] at wellFormed
    exact readable_attribute pos name (readable_of_wellFormed object wellFormed)
  | .index pos object key =>
    rw [Expr.WellFormed] at wellFormed
    exact readable_index pos (readable_of_wellFormed object wellFormed.1)
      (readable_of_wellFormed key wellFormed.2)
  | .slice pos object start stop step =>
    rw [Expr.WellFormed] at wellFormed
    exact readable_slice pos (readable_of_wellFormed object wellFormed.1)
      (readableOption_of_wellFormed start wellFormed.2.1)
      (readableOption_of_wellFormed stop wellFormed.2.2.1)
      (readableOption_of_wellFormed step wellFormed.2.2.2)

theorem readableAll_of_wellFormed (items : List Expr) (wellFormed : Expr.WellFormedAll items) :
    ∀ e ∈ items, Readable e := by
  match items with
  | [] => exact fun e member => nomatch member
  | e :: items =>
    rw [Expr.WellFormedAll] at wellFormed
    rintro _ (_ | ⟨_, member⟩)
    · exact readable_of_wellFormed e wellFormed.1
    · exact readableAll_of_wellFormed items wellFormed.2 _ member

theorem readableEntries_of_wellFormed (entries : List (Expr × Expr))
    (wellFormed : Expr.WellFormedEntries entries) :
    ∀ entry ∈ entries, Readable entry.1 ∧ Readable entry.2 := by
  match entries with
  | [] => exact fun e member => nomatch member
  | (key, value) :: entries =>
    rw [Expr.WellFormedEntries] at wellFormed
    rintro _ (_ | ⟨_, member⟩)
    · exact ⟨readable_of_wellFormed key wellFormed.1, readable_of_wellFormed value wellFormed.2.1⟩
    · exact readableEntries_of_wellFormed entries wellFormed.2.2 _ member

theorem readableOption_of_wellFormed (part : Option Expr)
    (wellFormed : Expr.WellFormedOption part) : ∀ e, part = some e → Readable e := by
  match part with
  | none => exact fun e present => nomatch present
  | some e =>
    rw [Expr.WellFormedOption] at wellFormed
    rintro _ ⟨⟩
    exact readable_of_wellFormed e wellFormed

theorem readableClauses_of_wellFormed (clauses : List Clause)
    (wellFormed : Clause.WellFormedAll clauses) : ∀ clause ∈ clauses, Clause.Readable clause := by
  match clauses with
  | [] => exact fun e member => nomatch member
  | .for_ target iterable :: clauses =>
    rw [Clause.WellFormedAll] at wellFormed
    rintro _ (_ | ⟨_, member⟩)
    · exact ⟨readable_of_wellFormed target wellFormed.1,
        readable_of_wellFormed iterable wellFormed.2.1⟩
    · exact readableClauses_of_wellFormed clauses wellFormed.2.2 _ member
  | .if_ condition :: clauses =>
    rw [Clause.WellFormedAll] at wellFormed
    rintro _ (_ | ⟨_, member⟩)
    · exact readable_of_wellFormed condition wellFormed.1
    · exact readableClauses_of_wellFormed clauses wellFormed.2 _ member

theorem readableArguments_of_wellFormed (arguments : List Argument)
    (wellFormed : Argument.WellFormedAll arguments) :
    ∀ argument ∈ arguments, Argument.Readable argument := by
  match arguments with
  | [] => exact fun e member => nomatch member
  | .positional e :: arguments | .named _ e :: arguments | .spread e :: arguments
  | .spreadNamed e :: arguments =>
    rw [Argument.WellFormedAll, Argument.WellFormed] at wellFormed
    rintro _ (_ | ⟨_, member⟩)
    · exact readable_of_wellFormed e wellFormed.1
    · exact readableArguments_of_wellFormed arguments wellFormed.2 _ member

theorem readableParams_of_wellFormed (params : List Param)
    (wellFormed : Param.WellFormedAll params) : ∀ param ∈ params, Param.Readable param := by
  match params with
  | [] => exact fun e member => nomatch member
  | .mk _ _ (.optional e) :: params =>
    rw [Param.WellFormedAll, Param.WellFormed] at wellFormed
    rintro _ (_ | ⟨_, member⟩)
    · exact readable_of_wellFormed e wellFormed.1
    · exact readableParams_of_wellFormed params wellFormed.2 _ member
  | .mk _ _ .required :: params | .mk _ _ .rest :: params | .mk _ _ .restNamed :: params =>
    rw [Param.WellFormedAll] at wellFormed
    rintro _ (_ | ⟨_, member⟩)
    · trivial
    · exact readableParams_of_wellFormed params wellFormed.2 _ member

end

/-!
## Reading back statements that take one line

Where a statement begins is told by its first token.  Targets are checked after they were read, and
the check does not look at positions.
-/

mutual

theorem badTarget?_of_isTarget {nested : Bool} (e : Expr) (target : e.IsTarget nested) :
    badTarget? nested e = none := by
  match e with
  | .name _ _ | .index _ _ _ | .attribute _ _ _ => rfl
  | .tuple _ items | .list _ items =>
    rw [Expr.IsTarget] at target
    rw [badTarget?, if_pos target.1]
    exact badTargets?_of_areTargets items target.2

theorem badTargets?_of_areTargets (items : List Expr) (targets : Expr.AreTargets items) :
    badTargets? items = none := by
  match items with
  | [] => rfl
  | e :: items =>
    rw [Expr.AreTargets] at targets
    rw [badTargets?, badTarget?_of_isTarget e targets.1]
    exact badTargets?_of_areTargets items targets.2

end

mutual

theorem isTarget_unplaced {nested : Bool} (e : Expr) :
    e.unplaced.IsTarget nested ↔ e.IsTarget nested := by
  match e with
  | .tuple _ items | .list _ items =>
    rw [Expr.unplaced, Expr.IsTarget, Expr.IsTarget, areTargets_unplacedAll items]
  | .name _ _ | .index _ _ _ | .attribute _ _ _ | .literal _ _ | .dict _ _ | .listComp _ _ _
  | .dictComp _ _ _ _ | .unary _ _ _ | .binary _ _ _ _ | .conditional _ _ _ _ | .lambda _ _
  | .call _ _ _ | .slice _ _ _ _ _ => exact Iff.rfl

theorem areTargets_unplacedAll (items : List Expr) :
    Expr.AreTargets (Expr.unplacedAll items) ↔ Expr.AreTargets items := by
  match items with
  | [] => exact Iff.rfl
  | e :: items =>
    rw [Expr.unplacedAll, Expr.AreTargets, Expr.AreTargets, isTarget_unplaced e,
      areTargets_unplacedAll items]

end

section Steps

variable {k : TokenKind} {rest : List TokenKind} {f d fuel : Nat}

theorem reads_checkTarget {c : Situation} {nested : Bool} {e read : Expr}
    (target : e.IsTarget nested) (like : Like e read) :
    Reads (checkTarget read nested) c c fun _ => True := by
  have same : read.IsTarget nested := by
    rw [← isTarget_unplaced, show read.unplaced = e.unplaced from like, isTarget_unplaced]
    exact target
  unfold checkTarget
  rw [badTarget?_of_isTarget read same]
  exact Reads.pure trivial

theorem reads_get (c : Situation) : Reads get c c fun s => situation s = c :=
  fun s at_ => ⟨s, s, rfl, at_, at_⟩

theorem reads_loadBindings (bindings : List LoadBinding)
    (exported : ∀ b ∈ bindings, b.exported.toList.head? ≠ some '_')
    (enough : 16 * (commaLed (bindings.map LoadBinding.rendering)).length + 1 ≤ fuel) :
    Reads (loadBindings fuel)
      ⟨commaLed (bindings.map LoadBinding.rendering) ++ .symbol .rightParen :: rest, f, d⟩
      ⟨.symbol .rightParen :: rest, f, d⟩
      fun read => read.map (fun b => { b with pos := .nowhere })
        = bindings.map fun b => { b with pos := .nowhere } := by
  induction bindings generalizing fuel with
  | nil =>
    obtain ⟨fuel, rfl⟩ : ∃ n, fuel = n + 1 := ⟨fuel - 1, by omega⟩
    unfold loadBindings
    exact Reads.step (reads_skipSymbol_other rfl) (Reads.pure rfl)
  | cons binding bindings ih =>
    simp only [List.map_cons, commaLed, List.length_cons, List.length_append,
      LoadBinding.rendering, List.length_nil] at enough
    obtain ⟨fuel, rfl⟩ : ∃ n, fuel = n + 1 := ⟨fuel - 1, by omega⟩
    have remaining := @ih fuel (fun b member => exported b (.tail _ member)) (by omega)
    simp only [List.map_cons, commaLed, LoadBinding.rendering, List.cons_append, List.nil_append]
    unfold loadBindings
    refine Reads.step (reads_skipSymbol .comma) (Reads.step (reads_atSymbol .rightParen) ?_)
    refine Reads.bind (reads_position _) fun pos _ => Reads.step reads_kind ?_
    refine Reads.bind reads_advance fun _ _ => Reads.bind (reads_expectSymbol .assign) fun _ _ => ?_
    refine Reads.step (reads_expectString binding.exported) ?_
    refine Reads.step (Reads.pure rfl) (Reads.otherwise (exported binding (.head _)) ?_)
    refine Reads.bind remaining fun read like => Reads.pure ?_
    simp only [List.map_cons, like]

end Steps

/-- Statements that differ in positions only. -/
def LikeStmt (s read : Stmt) : Prop :=
  read.unplaced = s.unplaced

/-- The tokens of a simple statement are read, and what comes next is a line end. -/
def ReadableLine (inFunction : Bool) (s : Stmt) : Prop :=
  ∀ fuel f d ks, 16 * s.rendering.length ≤ fuel + 1 → d + 3 * s.height ≤ maxNesting + 2 →
    decide (0 < f) = inFunction →
    ∃ kinds, s.rendering = logicalLine kinds ∧
      Reads (simpleStatement fuel) ⟨kinds ++ .newline :: ks, f, d⟩ ⟨.newline :: ks, f, d⟩
        (LikeStmt s)

section Lines

variable (pos : Position) {inFunction : Bool}

theorem readableLine_pass : ReadableLine inFunction (.pass pos) := by
  intro fuel f d ks enough room _
  refine ⟨_, rfl, ?_⟩
  unfold simpleStatement
  refine Reads.bind (reads_position _) fun pos _ => Reads.step reads_kind ?_
  exact Reads.bind reads_advance fun _ _ => Reads.pure rfl

theorem readableLine_break : ReadableLine inFunction (.break_ pos) := by
  intro fuel f d ks enough room _
  refine ⟨_, rfl, ?_⟩
  unfold simpleStatement
  refine Reads.bind (reads_position _) fun pos _ => Reads.step reads_kind ?_
  exact Reads.bind reads_advance fun _ _ => Reads.pure rfl

theorem readableLine_continue : ReadableLine inFunction (.continue_ pos) := by
  intro fuel f d ks enough room _
  refine ⟨_, rfl, ?_⟩
  unfold simpleStatement
  refine Reads.bind (reads_position _) fun pos _ => Reads.step reads_kind ?_
  exact Reads.bind reads_advance fun _ _ => Reads.pure rfl

theorem readableLine_return {value : Option Expr} (readable : ∀ e, value = some e → Readable e) :
    ReadableLine true (.return_ pos value) := by
  intro fuel f d ks enough room inside
  simp only [Stmt.rendering, length_logicalLine, List.length_cons] at enough
  simp only [Stmt.height] at room
  refine ⟨_, by rw [Stmt.rendering], ?_⟩
  unfold simpleStatement
  refine Reads.bind (reads_position _) fun pos _ => Reads.step reads_kind ?_
  refine Reads.bind reads_advance fun _ _ => Reads.bind (reads_get _) fun s at_ => ?_
  have notOutside : ¬s.functionDepth = 0 := by
    rw [show s.functionDepth = f from congrArg Situation.functionDepth at_]
    exact Nat.pos_iff_ne_zero.mp (of_decide_eq_true inside)
  refine Reads.otherwise notOutside ?_
  cases value with
  | none => exact Reads.step reads_kind (Reads.pure rfl)
  | some e =>
    simp only [Expr.optionRendering, length_parenthesized] at enough
    simp only [Expr.heightOption] at room
    refine Reads.step reads_kind ?_
    refine Reads.bind
      ((readable e rfl).testList (by omega) (by omega) endsOperators_newline rfl rfl)
      fun read like => Reads.pure ?_
    simp only [LikeStmt, Stmt.unplaced, Expr.unplacedOption,
      show read.unplaced = e.unplaced from like]

theorem readableLine_load {module : String} {bindings : List LoadBinding} (some_ : bindings ≠ [])
    (exported : ∀ b ∈ bindings, b.exported.toList.head? ≠ some '_') :
    ReadableLine false (.load pos module bindings) := by
  intro fuel f d ks enough room outside
  simp only [Stmt.rendering, length_logicalLine, List.length_cons, length_parenthesized] at enough
  refine ⟨_, by rw [Stmt.rendering], ?_⟩
  simp only [parenthesized, List.cons_append, List.append_assoc, List.nil_append]
  unfold simpleStatement
  refine Reads.bind (reads_position _) fun pos _ => Reads.step reads_kind ?_
  refine Reads.bind (reads_get _) fun s at_ => ?_
  have notInside : ¬s.functionDepth > 0 := by
    rw [show s.functionDepth = f from congrArg Situation.functionDepth at_]
    exact of_decide_eq_false outside
  refine Reads.otherwise notInside ?_
  unfold loadStatement
  refine Reads.bind (reads_expectKeyword .load) fun _ _ => ?_
  refine Reads.bind (reads_expectSymbol .leftParen) fun _ _ => ?_
  refine Reads.step (reads_expectString module) ?_
  refine Reads.bind (reads_loadBindings bindings exported (by omega)) fun read like => ?_
  refine Reads.bind (reads_expectSymbol .rightParen) fun _ _ => ?_
  have present : read.isEmpty = false := by
    cases read with
    | nil => exact absurd (List.map_eq_nil_iff.mp like.symm) some_
    | cons _ _ => rfl
  refine Reads.passing present (Reads.pure ?_)
  simp only [LikeStmt, Stmt.unplaced, like]

theorem readableLine_expr {value : Expr} (readable : Readable value) :
    ReadableLine inFunction (.expr pos value) := by
  intro fuel f d ks enough room _
  simp only [Stmt.rendering, length_logicalLine, length_parenthesized] at enough
  simp only [Stmt.height] at room
  refine ⟨_, by rw [Stmt.rendering], ?_⟩
  unfold simpleStatement
  refine Reads.bind (reads_position _) fun pos _ => Reads.step reads_kind ?_
  unfold expressionStatement
  refine Reads.bind (readable.testList (by omega) (by omega) endsOperators_newline rfl rfl)
    fun read like => Reads.step reads_kind (Reads.step (reads_skipSymbol_other rfl) ?_)
  refine Reads.pure ?_
  simp only [LikeStmt, Stmt.unplaced, show read.unplaced = value.unplaced from like]

theorem readableLine_assign {target value : Expr} (isTarget : target.IsTarget true)
    (readableTarget : Readable target) (readable : Readable value) :
    ReadableLine inFunction (.assign pos target value) := by
  intro fuel f d ks enough room _
  simp only [Stmt.rendering, length_logicalLine, List.length_append, List.length_cons,
    length_parenthesized] at enough
  simp only [Stmt.height] at room
  refine ⟨_, by rw [Stmt.rendering], ?_⟩
  simp only [List.append_assoc, List.cons_append]
  unfold simpleStatement
  refine Reads.bind (reads_position _) fun pos _ => Reads.step reads_kind ?_
  unfold expressionStatement
  refine Reads.bind (readableTarget.testList (by omega) (by omega) endsOperators_assign rfl rfl)
    fun readTarget likeTarget => Reads.step reads_kind (Reads.step (reads_skipSymbol .assign) ?_)
  refine Reads.bind (reads_checkTarget isTarget likeTarget) fun _ _ => ?_
  refine Reads.bind (readable.testList (by omega) (by omega) endsOperators_newline rfl rfl)
    fun read like => Reads.pure ?_
  simp only [LikeStmt, Stmt.unplaced, show read.unplaced = value.unplaced from like,
    show readTarget.unplaced = target.unplaced from likeTarget]

/-- The mark of an augmented assignment ends its target and tells its operator. -/
theorem augmentedMark?_spec {op : BinaryOp} {mark : Symbol} (has : op.augmentedMark? = some mark) :
    endsOperators (.symbol mark) ∧ (TokenKind.symbol mark).isSymbol .comma = false
      ∧ augmentedOperator? (.symbol mark) = some op := by
  cases op <;> cases has <;> exact ⟨⟨rfl, fun _ => rfl⟩, rfl, rfl⟩

theorem readableLine_augAssign {target value : Expr} {op : BinaryOp}
    (has : op.augmentedMark?.isSome = true) (isTarget : target.IsTarget false)
    (readableTarget : Readable target) (readable : Readable value) :
    ReadableLine inFunction (.augAssign pos target op value) := by
  intro fuel f d ks enough room _
  obtain ⟨mark, marked⟩ := Option.isSome_iff_exists.mp has
  obtain ⟨ends, notComma, operator⟩ := augmentedMark?_spec marked
  simp only [Stmt.rendering, length_logicalLine, List.length_append, length_parenthesized] at enough
  simp only [Stmt.height] at room
  refine ⟨_, by rw [Stmt.rendering], ?_⟩
  simp only [marked, Option.map_some, Option.toList_some, List.append_assoc, List.cons_append,
    List.nil_append]
  unfold simpleStatement
  refine Reads.bind (reads_position _) fun pos _ => Reads.step reads_kind ?_
  unfold expressionStatement
  refine Reads.bind (readableTarget.testList (by omega) (by omega) ends rfl notComma)
    fun readTarget likeTarget => Reads.step reads_kind ?_
  rw [operator]
  refine Reads.bind reads_advance fun _ _ => ?_
  refine Reads.bind (reads_checkTarget isTarget likeTarget) fun _ _ => ?_
  refine Reads.bind (readable.testList (by omega) (by omega) endsOperators_newline rfl rfl)
    fun read like => Reads.pure ?_
  simp only [LikeStmt, Stmt.unplaced, show read.unplaced = value.unplaced from like,
    show readTarget.unplaced = target.unplaced from likeTarget]

end Lines

end PixelApplet.Parser
