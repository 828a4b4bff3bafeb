import PixelApplet.Proofs.Script.DisplayRoundTrip
import PixelApplet.Proofs.Token.OutlineRoundTrip

/-!
# Nesting that takes no levels

The clauses of a comprehension are read as operands and operator expressions, and neither these nor
the brackets around the clauses hold a level while they are read.  So a comprehension that loops
over a comprehension, which loops over a comprehension, is read at the level of the outermost one:
the limit on levels puts no limit on the height of the trees of accepted scripts.
-/

namespace PixelApplet.Parser

/-- A name behind `n` comprehensions, each of which loops over the next. -/
def comprehensionChain (name : String) : (n : Nat) → List TokenKind
  | 0 => [.identifier name]
  | n + 1 =>
    .symbol .leftBracket :: .identifier name :: .keyword .for_ :: .identifier name
      :: .keyword .in_ :: (comprehensionChain name n ++ [.symbol .rightBracket])

theorem comprehensionChain_begins (name : String) (n : Nat) :
    ∃ k ks, comprehensionChain name n = k :: ks ∧ beginsOperand k := by
  cases n with
  | zero => exact ⟨_, _, rfl, rfl, rfl, rfl, rfl, rfl⟩
  | succ n => exact ⟨_, _, rfl, rfl, rfl, rfl, rfl, rfl⟩

section Chains

variable {name : String} {n f d fuel : Nat} {next : TokenKind} {rest : List TokenKind}

theorem reads_name :
    Reads (atom (fuel + 1)) ⟨.identifier name :: rest, f, d⟩ ⟨rest, f, d⟩
      fun e => 0 < e.height := by
  unfold atom
  refine Reads.bind (reads_position _) fun pos _ => Reads.step reads_kind ?_
  exact Reads.bind reads_advance fun _ _ => Reads.pure (Expr.height_pos _)

theorem reads_noClauses :
    Reads (comprehensionClauses (fuel + 1)) ⟨.symbol .rightBracket :: rest, f, d⟩
      ⟨.symbol .rightBracket :: rest, f, d⟩ (· = []) := by
  unfold comprehensionClauses
  exact Reads.step (reads_skipKeyword_other rfl) (Reads.step (reads_skipKeyword_other rfl)
    (Reads.pure rfl))

/-- What is read as an atom is read as the iterable of the last clause of a list comprehension. -/
theorem reads_lastClause {ks : List TokenKind} {P : Expr → Prop}
    (begins : ∃ k others, ks = k :: others ∧ beginsOperand k)
    (reads : Reads (atom (fuel + 1)) ⟨ks ++ .symbol .rightBracket :: rest, f, d⟩
      ⟨.symbol .rightBracket :: rest, f, d⟩ P) :
    Reads (comprehensionClauses (fuel + 5))
      ⟨.keyword .for_ :: .identifier name :: .keyword .in_
        :: (ks ++ .symbol .rightBracket :: rest), f, d⟩
      ⟨.symbol .rightBracket :: rest, f, d⟩
      fun clauses => ∃ target iterable, clauses = [.for_ target iterable] ∧ P iterable := by
  obtain ⟨k, others, rfl, beginsK⟩ := begins
  unfold comprehensionClauses
  refine Reads.step (reads_skipKeyword .for_) ?_
  refine Reads.bind (reads_targetList_of_operand (reads_operand_of_atom reads_name rfl) rfl)
    fun target _ => Reads.bind (reads_expectKeyword .in_) fun _ _ => ?_
  refine Reads.bind (reads_binary_of_unary beginsK.2.1
      (reads_unary_of_operand beginsK (reads_operand_of_atom reads rfl)) endsOperators_rightBracket)
    fun iterable holds => ?_
  exact Reads.step reads_noClauses (Reads.pure ⟨target, iterable, rfl, holds⟩)

/-- Below the greatest level a chain of any length is read, and higher than it is long. -/
theorem reads_comprehensionChain (n : Nat) (enough : 6 * n + 1 ≤ fuel) (room : d < maxNesting) :
    Reads (atom fuel) ⟨comprehensionChain name n ++ rest, f, d⟩ ⟨rest, f, d⟩
      fun e => n < e.height := by
  induction n generalizing fuel rest with
  | zero =>
    obtain ⟨fuel, rfl⟩ : ∃ m, fuel = m + 1 := ⟨fuel - 1, by omega⟩
    exact reads_name
  | succ n ih =>
    obtain ⟨fuel, rfl⟩ : ∃ m, fuel = m + 7 := ⟨fuel - 7, by omega⟩
    have inner := @ih (fuel + 1) (.symbol .rightBracket :: rest) (by omega)
    simp only [comprehensionChain, List.cons_append, List.append_assoc, List.nil_append]
    unfold atom
    refine Reads.bind (reads_position _) fun pos _ => Reads.step reads_kind ?_
    refine Reads.bind reads_advance fun _ _ => ?_
    unfold listDisplay
    refine Reads.step (reads_skipSymbol_other rfl) ?_
    refine Reads.bind (reads_test_of_operand ⟨rfl, rfl, rfl, rfl, rfl⟩ room
        (reads_operand_of_atom reads_name rfl) endsOperators_for rfl)
      fun element _ => Reads.step (reads_atKeyword .for_) ?_
    refine Reads.bind (reads_lastClause (comprehensionChain_begins name n) inner)
      fun clauses last => Reads.bind (reads_expectSymbol .rightBracket) fun _ _ => Reads.pure ?_
    obtain ⟨target, iterable, rfl, high⟩ := last
    simp only [Expr.height, Clause.heightAll]
    omega

/-- An expression that begins with a mark is a statement, where its line ends behind it. -/
theorem reads_expressionLine {mark : Symbol} {ks : List TokenKind} {P : Expr → Prop}
    (reads : Reads (testList fuel) ⟨.symbol mark :: ks, f, d⟩ ⟨.newline :: rest, f, d⟩ P) :
    Reads (statement (fuel + 1)) ⟨.symbol mark :: ks, f, d⟩ ⟨rest, f, d⟩
      fun s => ∃ pos e, s = .expr pos e ∧ P e := by
  have simple : Reads (simpleStatement fuel) ⟨.symbol mark :: ks, f, d⟩ ⟨.newline :: rest, f, d⟩
      fun s => ∃ pos e, s = .expr pos e ∧ P e := by
    unfold simpleStatement
    refine Reads.bind (reads_position _) fun pos _ => Reads.step reads_kind ?_
    unfold expressionStatement
    refine Reads.bind reads fun value holds => Reads.step reads_kind ?_
    exact Reads.step (reads_skipSymbol_other rfl) (Reads.pure ⟨pos, value, rfl, holds⟩)
  unfold statement
  refine Reads.step reads_kind (Reads.bind simple fun s holds => Reads.step reads_kind ?_)
  exact Reads.bind reads_expectNewline fun _ _ => Reads.pure holds

/-- A line with a chain alone is a file. -/
theorem reads_chainFile (n : Nat) (enough : 6 * n + 14 ≤ fuel) :
    Reads (fileBlock fuel) ⟨comprehensionChain name (n + 1) ++ [.newline, .endOfFile], 0, 0⟩
      ⟨[.endOfFile], 0, 0⟩ fun block => n < Stmt.heightAll block := by
  obtain ⟨fuel, rfl⟩ : ∃ m, fuel = m + 8 := ⟨fuel - 8, by omega⟩
  have chain := @reads_comprehensionChain name 0 1 (fuel + 1) [.newline, .endOfFile] (n + 1)
    (by omega) (by decide)
  simp only [comprehensionChain, List.cons_append] at chain ⊢
  have line := reads_testList_of_test (reads_test_of_operand ⟨rfl, rfl, rfl, rfl, rfl⟩ (by decide)
    (reads_operand_of_atom chain rfl) endsOperators_newline rfl) rfl
  unfold fileBlock
  refine Reads.step reads_kind (Reads.bind (reads_expressionLine line) fun s only => ?_)
  unfold fileBlock
  refine Reads.step (Reads.step reads_kind (Reads.pure rfl)) (Reads.pure ?_)
  obtain ⟨pos, value, rfl, high⟩ := only
  simp only [Stmt.heightAll, Stmt.height]
  omega

end Chains

theorem length_comprehensionChain (name : String) (n : Nat) :
    (comprehensionChain name n).length = 6 * n + 1 := by
  induction n with
  | zero => rfl
  | succ n ih =>
    simp only [comprehensionChain, List.length_cons, List.length_append, List.length_nil, ih]
    omega

theorem file_reads_chain {name : String} (n : Nat) (tokens : List Token)
    (written : tokens.map Token.kind = comprehensionChain name (n + 1) ++ [.newline, .endOfFile]) :
    ∃ block, file tokens = .ok block ∧ n < Stmt.heightAll block := by
  have count := congrArg List.length written
  simp only [List.length_map, List.length_append, List.length_cons, List.length_nil,
    length_comprehensionChain] at count
  have enough : 6 * n + 14 ≤ fuelFor tokens := by
    rw [fuelFor]
    omega
  obtain ⟨block, s, ran, _, high⟩ := reads_chainFile n enough
    ⟨tokens, (tokens.getLast?.map Token.start).getD .nowhere, 0, 0⟩
    (by rw [situation, written])
  exact ⟨block, by rw [file, ran]; rfl, high⟩

theorem balanced_comprehensionChain (name : String) (n : Nat) :
    Balanced (comprehensionChain name n) := by
  induction n with
  | zero => exact .cons id .nil
  | succ n ih =>
    have inner : Balanced (.identifier name :: .keyword .for_ :: .identifier name
        :: .keyword .in_ :: comprehensionChain name n) :=
      .cons id (.cons id (.cons id (.cons id ih)))
    exact .enclosed (by decide) inner .nil

theorem written_comprehensionChain {name : String} (isName : IsName name) (n : Nat) :
    ∀ word ∈ comprehensionChain name n, word.IsWritten := by
  induction n with
  | zero => simp [comprehensionChain, TokenKind.IsWritten, isName]
  | succ n ih =>
    simp only [comprehensionChain, List.forall_mem_cons, List.forall_mem_append]
    exact ⟨trivial, isName, trivial, isName, trivial, ih, trivial, List.forall_mem_nil _⟩

end PixelApplet.Parser

namespace PixelApplet

/-- No number bounds the heights of the trees of accepted scripts: the levels that
`Parser.maxNesting` bounds leave out the clauses of comprehensions. -/
theorem parseScript_height_unbounded (n : Nat) :
    ∃ source block, parseScript source = .ok block ∧ n < Stmt.heightAll block := by
  let chain := Parser.comprehensionChain "a" (n + 1)
  let line : Outline := .line [] chain .nil .nil
  have isName : IsName "a" :=
    ⟨⟨'a', [], rfl, rfl, List.forall_mem_nil _⟩, fun word => by cases word <;> decide⟩
  have isLine : IsLine chain :=
    ⟨List.cons_ne_nil _ _, Parser.written_comprehensionChain isName _,
      Parser.balanced_comprehensionChain _ _⟩
  have standsAt : line.StandsAt 0 :=
    ⟨List.forall_mem_nil _, rfl, isLine, ⟨1, by decide, trivial⟩, trivial⟩
  have scanned : (tokenize (String.ofList line.text)).map (List.map Token.kind)
      = .ok (chain ++ [.newline, .endOfFile]) := by
    rw [tokenize, String.toList_ofList, (Reader.settled_start line standsAt).finishes]
    simp only [line, Outline.kinds, Outline.indentedKinds, List.append_nil, List.append_assoc,
      List.cons_append, List.nil_append]
  cases found : tokenize (String.ofList line.text) with
  | error e =>
    rw [found] at scanned
    cases scanned
  | ok tokens =>
    rw [found] at scanned
    obtain ⟨block, read, high⟩ := Parser.file_reads_chain n tokens (Except.ok.inj scanned)
    refine ⟨String.ofList line.text, block, ?_, high⟩
    rw [parseScript, found]
    simp only [read]

end PixelApplet
