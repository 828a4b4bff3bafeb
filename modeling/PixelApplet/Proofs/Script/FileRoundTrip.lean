import PixelApplet.Proofs.Script.StatementRoundTrip

/-!
# Reading back files

A block ends at the token that closes its indentation, and a file at its last token.  An `if`
without `else` looks one token further than its own last one, so a statement is read in front of a
token that could go on after it.
-/

namespace PixelApplet.Parser

/-- Tokens at which a statement, or the end of its block, can begin. -/
structure EndsStatement (k : TokenKind) : Prop where
  notElif : k.isKeyword .elif = false
  notElse : k.isKeyword .else_ = false

/-- The tokens of a statement are read, whatever statement comes next. -/
def ReadableStmt (inFunction : Bool) (s : Stmt) : Prop :=
  ∀ fuel f d k ks, 16 * s.rendering.length ≤ fuel → d + 3 * s.height ≤ maxNesting + 2 →
    decide (0 < f) = inFunction → EndsStatement k →
    Reads (statement fuel) ⟨s.rendering ++ k :: ks, f, d⟩ ⟨k :: ks, f, d⟩ (LikeStmt s)

/-- The tokens of a block are read up to the token behind it that closes it. -/
def ReadableBlock (inFunction : Bool) (block : Block) : Prop :=
  ∀ fuel f d ks, 16 * (Stmt.renderings block).length + 2 ≤ fuel →
    d + 3 * Stmt.heightAll block ≤ maxNesting + 2 → decide (0 < f) = inFunction →
    Reads (indentedBlock fuel) ⟨Stmt.renderings block ++ .dedent :: ks, f, d⟩ ⟨ks, f, d⟩
      fun read => Stmt.unplacedAll read = Stmt.unplacedAll block

/-- Tokens with which a statement in a block can begin. -/
structure BeginsStatement (k : TokenKind) : Prop extends EndsStatement k where
  notDedent : k ≠ .dedent
  notEnd : k ≠ .endOfFile
  notNewline : k ≠ .newline

theorem rendering_begins (s : Stmt) : ∃ k ks, s.rendering = k :: ks ∧ BeginsStatement k := by
  cases s <;>
  · refine ⟨_, _, by unfold Stmt.rendering; rfl, ?_⟩
    exact ⟨⟨rfl, rfl⟩, by rintro ⟨⟩, by rintro ⟨⟩, by rintro ⟨⟩⟩

theorem renderings_append_begins_statement (block : Block) {next : TokenKind}
    (ends : EndsStatement next) (rest : List TokenKind) :
    ∃ k ks, Stmt.renderings block ++ next :: rest = k :: ks ∧ EndsStatement k := by
  cases block with
  | nil => exact ⟨next, rest, rfl, ends⟩
  | cons s block =>
    obtain ⟨k, ks, begins, statement⟩ := rendering_begins s
    exact ⟨k, _, by rw [Stmt.renderings, begins]; rfl, statement.toEndsStatement⟩

/-- Tokens with which a simple statement can begin. -/
def beginsLine : TokenKind → Bool
  | .keyword .def_ | .keyword .if_ | .keyword .for_ | .indent => false
  | _ => true

/-- Whether a statement takes one line. -/
def Stmt.isLine : Stmt → Bool
  | .define _ _ | .if_ _ _ _ _ | .for_ _ _ _ _ => false
  | _ => true

theorem rendering_line_begins {s : Stmt} (isLine : Stmt.isLine s = true) :
    ∃ k ks, s.rendering = k :: ks ∧ beginsLine k = true := by
  cases s with
  | define | if_ | for_ => cases isLine
  | _ => exact ⟨_, _, by unfold Stmt.rendering; rfl, rfl⟩

/-- A simple statement is a statement. -/
theorem readableStmt_of_line {inFunction : Bool} {s : Stmt} (isLine : Stmt.isLine s = true)
    (readable : ReadableLine inFunction s) : ReadableStmt inFunction s := by
  intro fuel f d next rest enough room inside ends
  obtain ⟨k, ks, begins, line⟩ := rendering_line_begins isLine
  have nonempty : 0 < s.rendering.length := by
    rw [begins]
    exact Nat.succ_pos _
  obtain ⟨fuel, rfl⟩ : ∃ n, fuel = n + 1 := ⟨fuel - 1, by omega⟩
  obtain ⟨kinds, written, reads⟩ := readable fuel f d (next :: rest) enough room inside
  have same : s.rendering ++ next :: rest = kinds ++ .newline :: next :: rest := by
    rw [written, logicalLine, List.append_assoc, List.cons_append, List.nil_append]
  rw [← same, begins, List.cons_append] at reads
  rw [begins, List.cons_append]
  unfold statement
  refine Reads.step reads_kind ?_
  cases k with
  | indent => cases line
  | keyword keyword =>
    cases keyword with
    | def_ | if_ | for_ => cases line
    | _ =>
      refine Reads.bind reads fun read like => Reads.step reads_kind ?_
      exact Reads.bind reads_expectNewline fun _ _ => Reads.pure like
  | _ =>
    refine Reads.bind reads fun read like => Reads.step reads_kind ?_
    exact Reads.bind reads_expectNewline fun _ _ => Reads.pure like

theorem reads_inFunction {α : Type} {p : Parser α} {ks ks' : List TokenKind} {f d d' : Nat}
    {property : α → Prop} (reads : Reads p ⟨ks, f + 1, d⟩ ⟨ks', f + 1, d'⟩ property) :
    Reads (inFunction p) ⟨ks, f, d⟩ ⟨ks', f, d'⟩ property := by
  refine Reads.through ⟨ks, f + 1, d⟩ (fun _ => True) ?_ fun _ _ =>
    Reads.bind reads fun x holds => Reads.through ⟨ks', f, d'⟩ (fun _ => True) ?_
      fun _ _ => Reads.pure holds
  · intro s at_
    simp only [situation, Situation.mk.injEq] at at_
    exact ⟨(), { s with functionDepth := s.functionDepth + 1 }, rfl, by simp [situation, at_],
      trivial⟩
  · intro s at_
    simp only [situation, Situation.mk.injEq] at at_
    exact ⟨(), { s with functionDepth := s.functionDepth - 1 }, rfl, by simp [situation, at_],
      trivial⟩

section Blocks

variable {ks : List TokenKind} {f d fuel : Nat} {inFunction : Bool}

/-- The block behind a colon. -/
theorem reads_suite {block : Block} (readable : ReadableBlock inFunction block)
    (enough : 16 * (Stmt.renderings block).length + 3 ≤ fuel)
    (room : d + 1 + 3 * Stmt.heightAll block ≤ maxNesting + 2) (level : d < maxNesting)
    (inside : decide (0 < f) = inFunction) :
    Reads (suite fuel) ⟨.newline :: .indent :: (Stmt.renderings block ++ .dedent :: ks), f, d⟩
      ⟨ks, f, d⟩ fun read => Stmt.unplacedAll read = Stmt.unplacedAll block := by
  obtain ⟨fuel, rfl⟩ : ∃ n, fuel = n + 1 := ⟨fuel - 1, by omega⟩
  unfold suite
  refine reads_nested level (Reads.step reads_skipNewline ?_)
  exact Reads.bind reads_expectIndent fun _ _ => readable fuel f (d + 1) ks (by omega) room inside

theorem readableBlock_nil : ReadableBlock inFunction [] := by
  intro fuel f d ks enough room inside
  obtain ⟨fuel, rfl⟩ : ∃ n, fuel = n + 1 := ⟨fuel - 1, by omega⟩
  unfold indentedBlock
  exact Reads.step reads_kind (Reads.bind reads_advance fun _ _ => Reads.pure rfl)

theorem endsStatement_dedent : EndsStatement .dedent := ⟨rfl, rfl⟩

theorem readableBlock_cons {s : Stmt} {block : Block} (readable : ReadableStmt inFunction s)
    (readableBlock : ReadableBlock inFunction block) : ReadableBlock inFunction (s :: block) := by
  intro fuel f d ks enough room inside
  simp only [Stmt.renderings, List.length_append] at enough
  simp only [Stmt.heightAll] at room
  obtain ⟨first, others, begins, beginning⟩ := rendering_begins s
  obtain ⟨next, rest, follows, ends⟩ :=
    renderings_append_begins_statement block endsStatement_dedent ks
  have nonempty : 0 < s.rendering.length := by
    rw [begins]
    exact Nat.succ_pos _
  obtain ⟨fuel, rfl⟩ : ∃ n, fuel = n + 1 := ⟨fuel - 1, by omega⟩
  have readsFirst := readable fuel f d next rest (by omega) (by omega) inside ends
  have readsBlock := readableBlock fuel f d ks (by omega) (by omega) inside
  rw [follows] at readsBlock
  rw [begins] at readsFirst
  simp only [Stmt.renderings, List.append_assoc, follows, begins]
  unfold indentedBlock
  refine Reads.step reads_kind ?_
  split
  · exact absurd rfl beginning.notDedent
  · exact absurd rfl beginning.notEnd
  · exact absurd rfl beginning.notNewline
  · refine Reads.bind readsFirst fun read like => ?_
    refine Reads.bind readsBlock fun readBlock likeBlock => Reads.pure ?_
    simp only [Stmt.unplacedAll, likeBlock, show read.unplaced = s.unplaced from like]

end Blocks

section Compound

variable (pos : Position) {inFunction : Bool}

theorem readableStmt_for {target iterable : Expr} {body : Block} (isTarget : target.IsTarget true)
    (readableTarget : Readable target) (readableIterable : Readable iterable)
    (readableBody : ReadableBlock inFunction body) :
    ReadableStmt inFunction (.for_ pos target iterable body) := by
  intro fuel f d next rest enough room inside ends
  simp only [Stmt.rendering, List.length_append, List.length_cons, length_parenthesized,
    length_indented] at enough
  simp only [Stmt.height] at room
  obtain ⟨fuel, rfl⟩ : ∃ n, fuel = n + 2 := ⟨fuel - 2, by omega⟩
  simp only [Stmt.rendering, indented, List.append_assoc, List.cons_append, List.nil_append]
  have positive := target.height_pos
  unfold statement
  refine Reads.step reads_kind ?_
  simp only
  unfold forStatement
  refine Reads.bind (reads_position _) fun pos _ => ?_
  refine Reads.bind (reads_expectKeyword .for_) fun _ _ => ?_
  refine Reads.bind (readableTarget.targetList (by omega) (by omega) rfl rfl)
    fun readTarget likeTarget => Reads.bind (reads_checkTarget isTarget likeTarget) fun _ _ => ?_
  refine Reads.bind (reads_expectKeyword .in_) fun _ _ => ?_
  refine Reads.bind (readableIterable.testList (by omega) (by omega) endsOperators_colon rfl rfl)
    fun readIterable likeIterable => Reads.bind (reads_expectSymbol .colon) fun _ _ => ?_
  refine Reads.bind (reads_suite readableBody (by omega) (by omega) (by omega) inside)
    fun readBody likeBody => Reads.pure ?_
  simp only [LikeStmt, Stmt.unplaced, likeBody,
    show readTarget.unplaced = target.unplaced from likeTarget,
    show readIterable.unplaced = iterable.unplaced from likeIterable]

theorem readableStmt_define {name : String} {declared : Position} {params : List Param}
    {body : Block} (arranged : Param.Arranged params)
    (readableParams : ∀ param ∈ params, Param.Readable param)
    (readableBody : ReadableBlock true body) :
    ReadableStmt inFunction (.define pos (.mk name declared params body)) := by
  intro fuel f d next rest enough room inside ends
  simp only [Stmt.rendering, FunctionDecl.rendering, List.length_append, List.length_cons,
    length_parenthesized, length_indented] at enough
  simp only [Stmt.height, FunctionDecl.height] at room
  obtain ⟨fuel, rfl⟩ : ∃ n, fuel = n + 2 := ⟨fuel - 2, by omega⟩
  simp only [Stmt.rendering, FunctionDecl.rendering, parenthesized, indented, List.append_assoc,
    List.cons_append, List.nil_append]
  unfold statement
  refine Reads.step reads_kind ?_
  simp only
  unfold definition
  refine Reads.bind (reads_position _) fun pos _ => ?_
  refine Reads.bind (reads_expectKeyword .def_) fun _ _ => ?_
  refine Reads.step (reads_expectIdentifier name) ?_
  refine Reads.bind (reads_expectSymbol .leftParen) fun _ _ => ?_
  refine Reads.bind (reads_paramList params [] (.inl rfl) rfl arranged readableParams (by omega)
    (by omega)) fun readParams likeParams => ?_
  refine Reads.bind (reads_expectSymbol .rightParen) fun _ _ => ?_
  refine Reads.bind (reads_expectSymbol .colon) fun _ _ => ?_
  refine Reads.bind (reads_inFunction (reads_suite readableBody (by omega) (by omega) (by omega)
    (decide_eq_true (Nat.succ_pos f)))) fun readBody likeBody => Reads.pure ?_
  simp only [LikeStmt, Stmt.unplaced, FunctionDecl.unplaced, likeParams, likeBody, List.nil_append]

theorem readableStmt_if {condition : Expr} {thenBlock elseBlock : Block}
    (readableCondition : Readable condition) (readableThen : ReadableBlock inFunction thenBlock)
    (readableElse : ReadableBlock inFunction elseBlock) :
    ReadableStmt inFunction (.if_ pos condition thenBlock elseBlock) := by
  intro fuel f d next rest enough room inside ends
  simp only [Stmt.rendering, List.length_append, List.length_cons, length_parenthesized,
    length_indented] at enough
  simp only [Stmt.height] at room
  obtain ⟨fuel, rfl⟩ : ∃ n, fuel = n + 2 := ⟨fuel - 2, by omega⟩
  simp only [Stmt.rendering, indented, List.append_assoc, List.cons_append, List.nil_append]
  have positive := condition.height_pos
  unfold statement
  refine Reads.step reads_kind ?_
  simp only
  unfold ifStatement
  refine Reads.bind (reads_position _) fun pos _ => Reads.bind reads_advance fun _ _ => ?_
  refine Reads.bind (readableCondition.test (by omega) (by omega) endsOperators_colon rfl)
    fun readCondition likeCondition => Reads.bind (reads_expectSymbol .colon) fun _ _ => ?_
  refine Reads.bind (reads_suite readableThen (by omega) (by omega) (by omega) inside)
    fun readThen likeThen => ?_
  cases elseBlock with
  | nil =>
    refine Reads.step (reads_atKeyword .elif) (Reads.passing ends.notElif ?_)
    refine Reads.step (reads_skipKeyword_other ends.notElse) (Reads.pure ?_)
    simp only [LikeStmt, Stmt.unplaced, Stmt.unplacedAll, likeThen,
      show readCondition.unplaced = condition.unplaced from likeCondition]
  | cons s elseBlock =>
    simp only [List.isEmpty_cons, Bool.false_eq_true, if_false, List.length_cons,
      length_indented] at enough
    simp only [List.isEmpty_cons, Bool.false_eq_true, if_false, List.cons_append,
      List.append_assoc, List.nil_append]
    refine Reads.step (reads_atKeyword .elif) (Reads.step (reads_skipKeyword .else_) ?_)
    refine Reads.bind (reads_expectSymbol .colon) fun _ _ => ?_
    refine Reads.bind (reads_suite readableElse (by omega) (by omega) (by omega) inside)
      fun readElse likeElse => Reads.pure ?_
    simp only [LikeStmt, Stmt.unplaced, likeThen, likeElse,
      show readCondition.unplaced = condition.unplaced from likeCondition]

end Compound

mutual

theorem readableStmt_of_wellFormed {inFunction : Bool} (s : Stmt)
    (wellFormed : s.WellFormed inFunction) : ReadableStmt inFunction s := by
  match s with
  | .expr pos value =>
    rw [Stmt.WellFormed] at wellFormed
    exact readableStmt_of_line rfl
      (readableLine_expr pos (readable_of_wellFormed value wellFormed))
  | .assign pos target value =>
    rw [Stmt.WellFormed] at wellFormed
    exact readableStmt_of_line rfl (readableLine_assign pos wellFormed.1
      (readable_of_wellFormed target wellFormed.2.1) (readable_of_wellFormed value wellFormed.2.2))
  | .augAssign pos target op value =>
    rw [Stmt.WellFormed] at wellFormed
    exact readableStmt_of_line rfl (readableLine_augAssign pos wellFormed.1 wellFormed.2.1
      (readable_of_wellFormed target wellFormed.2.2.1)
      (readable_of_wellFormed value wellFormed.2.2.2))
  | .define pos (.mk name declared params body) =>
    rw [Stmt.WellFormed, FunctionDecl.WellFormed] at wellFormed
    exact readableStmt_define pos wellFormed.1
      (readableParams_of_wellFormed params wellFormed.2.1)
      (readableBlock_of_wellFormed body wellFormed.2.2.2)
  | .return_ pos value =>
    rw [Stmt.WellFormed] at wellFormed
    obtain ⟨rfl, wellFormed⟩ := wellFormed
    exact readableStmt_of_line rfl
      (readableLine_return pos (readableOption_of_wellFormed value wellFormed))
  | .if_ pos condition thenBlock elseBlock =>
    rw [Stmt.WellFormed] at wellFormed
    exact readableStmt_if pos (readable_of_wellFormed condition wellFormed.1)
      (readableBlock_of_wellFormed thenBlock wellFormed.2.2.1)
      (readableBlock_of_wellFormed elseBlock wellFormed.2.2.2)
  | .for_ pos target iterable body =>
    rw [Stmt.WellFormed] at wellFormed
    exact readableStmt_for pos wellFormed.1 (readable_of_wellFormed target wellFormed.2.1)
      (readable_of_wellFormed iterable wellFormed.2.2.1)
      (readableBlock_of_wellFormed body wellFormed.2.2.2.2)
  | .break_ pos => exact readableStmt_of_line rfl (readableLine_break pos)
  | .continue_ pos => exact readableStmt_of_line rfl (readableLine_continue pos)
  | .pass pos => exact readableStmt_of_line rfl (readableLine_pass pos)
  | .load pos module bindings =>
    rw [Stmt.WellFormed] at wellFormed
    obtain ⟨rfl, some_, exported⟩ := wellFormed
    exact readableStmt_of_line rfl (readableLine_load pos some_ exported)

theorem readableBlock_of_wellFormed {inFunction : Bool} (block : Block)
    (wellFormed : Stmt.WellFormedAll inFunction block) : ReadableBlock inFunction block := by
  match block with
  | [] => exact readableBlock_nil
  | s :: block =>
    rw [Stmt.WellFormedAll] at wellFormed
    exact readableBlock_cons (readableStmt_of_wellFormed s wellFormed.1)
      (readableBlock_of_wellFormed block wellFormed.2)

end

theorem reads_fileBlock {fuel : Nat} (block : Block) (wellFormed : Stmt.WellFormedAll false block)
    (enough : 16 * block.rendering.length ≤ fuel) (low : Stmt.heightAll block ≤ 60) :
    Reads (fileBlock fuel) ⟨block.rendering, 0, 0⟩ ⟨[.endOfFile], 0, 0⟩
      fun read => Stmt.unplacedAll read = Stmt.unplacedAll block := by
  induction block generalizing fuel with
  | nil =>
    simp only [Block.rendering, Stmt.renderings, List.nil_append, List.length_singleton] at enough
    obtain ⟨fuel, rfl⟩ : ∃ n, fuel = n + 1 := ⟨fuel - 1, by omega⟩
    unfold fileBlock
    exact Reads.step reads_kind (Reads.pure rfl)
  | cons s block ih =>
    simp only [Block.rendering, Stmt.renderings, List.length_append, List.length_singleton]
      at enough ih
    rw [Stmt.WellFormedAll] at wellFormed
    rw [Stmt.heightAll] at low
    obtain ⟨first, others, begins, beginning⟩ := rendering_begins s
    obtain ⟨next, rest, follows, ends⟩ :=
      @renderings_append_begins_statement block .endOfFile ⟨rfl, rfl⟩ []
    have nonempty : 0 < s.rendering.length := by
      rw [begins]
      exact Nat.succ_pos _
    obtain ⟨fuel, rfl⟩ : ∃ n, fuel = n + 1 := ⟨fuel - 1, by omega⟩
    have readsFirst := readableStmt_of_wellFormed s wellFormed.1 fuel 0 0 next rest (by omega)
      (by rw [maxNesting]; omega) rfl ends
    have readsBlock := @ih fuel wellFormed.2 (by omega) (by omega)
    rw [follows] at readsBlock
    rw [begins] at readsFirst
    simp only [Block.rendering, Stmt.renderings, List.append_assoc, follows, begins]
    unfold fileBlock
    refine Reads.step reads_kind ?_
    split
    · exact absurd rfl beginning.notEnd
    · exact absurd rfl beginning.notNewline
    · refine Reads.bind readsFirst fun read like => ?_
      refine Reads.bind readsBlock fun readBlock likeBlock => Reads.pure ?_
      simp only [Stmt.unplacedAll, likeBlock, show read.unplaced = s.unplaced from like]

/-- The parser inverts the writing of files: whatever the places of the tokens, the tree that is
read from the tokens of a tree is that tree, but for the positions in it. -/
theorem file_reads_rendering (block : Block) (wellFormed : Stmt.WellFormedAll false block)
    (low : Stmt.heightAll block ≤ 60) (tokens : List Token)
    (written : tokens.map Token.kind = block.rendering) :
    ∃ read, file tokens = .ok read ∧ Stmt.unplacedAll read = Stmt.unplacedAll block := by
  have enough : 16 * block.rendering.length ≤ fuelFor tokens := by
    rw [← written, List.length_map, fuelFor]
    omega
  obtain ⟨read, s', ran, _, like⟩ := reads_fileBlock block wellFormed enough low
    ⟨tokens, (tokens.getLast?.map Token.start).getD .nowhere, 0, 0⟩
    (by rw [situation, written])
  exact ⟨read, by rw [file, ran]; rfl, like⟩

/-- A file with a load statement and a function that loops, branches and calls. -/
def sampleFile : Block :=
  let name (s : String) := Expr.name .nowhere s
  [.load .nowhere "limits.star" [⟨"limit", "limit", .nowhere⟩],
    .define .nowhere (.mk "pick" .nowhere
      [.mk "rows" .nowhere .required, .mk "first" .nowhere (.optional (.literal .nowhere (.int 0))),
        .mk "more" .nowhere .restNamed]
      [.for_ .nowhere (.tuple .nowhere [name "key", name "row"])
        (.listComp .nowhere (name "pair") [.for_ (name "pair") (name "rows"), .if_ (name "pair")])
        [.if_ .nowhere (.binary .nowhere .notIn (name "key") (name "more"))
          [.return_ .nowhere (some (.slice .nowhere (name "row") (some (name "first")) none none))]
          [.augAssign .nowhere (name "first") .add (.call .nowhere (name "limit")
            [.positional (name "row"), .named "key" (name "key")])]]])]

theorem sampleFile_wellFormed : Stmt.WellFormedAll false sampleFile := by
  refine ⟨⟨rfl, nofun, by decide⟩, ⟨⟨by decide, by decide⟩, by trivial, nofun, ?_⟩, trivial⟩
  refine ⟨⟨⟨rfl, trivial, trivial, trivial⟩, ⟨trivial, trivial, trivial⟩, ?_, nofun, ?_⟩, trivial⟩
  · exact ⟨trivial, trivial, trivial, trivial, trivial, trivial⟩
  · refine ⟨⟨⟨trivial, trivial⟩, nofun, ⟨⟨rfl, trivial, trivial, trivial, trivial⟩, trivial⟩, ?_⟩,
      trivial⟩
    exact ⟨⟨rfl, trivial, trivial, trivial, by unfold Argument.Arranged; decide, trivial, trivial,
      trivial⟩, trivial⟩

theorem file_reads_sampleFile :
    Stmt.WellFormedAll false sampleFile ∧ Stmt.heightAll sampleFile ≤ 60 ∧
      ∃ read, file (sampleFile.rendering.map (⟨·, .nowhere, .nowhere⟩)) = .ok read
        ∧ Stmt.unplacedAll read = Stmt.unplacedAll sampleFile :=
  have low : Stmt.heightAll sampleFile ≤ 60 := by decide
  ⟨sampleFile_wellFormed, low, file_reads_rendering sampleFile sampleFile_wellFormed low _ (by
    rw [List.map_map]
    exact List.map_id _)⟩

end PixelApplet.Parser
