import PixelApplet.Proofs.Script.ExpressionRoundTrip

/-!
# Reading back names, literals and everything in brackets

The loops of the parser that read the items of a display are followed by an induction on the items;
the first item of each display is read before its loop begins.
-/

namespace PixelApplet.Parser

theorem endsOperators_comma : endsOperators (.symbol .comma) := ⟨rfl, fun _ => rfl⟩

theorem endsOperators_colon : endsOperators (.symbol .colon) := ⟨rfl, fun _ => rfl⟩

theorem endsOperators_rightParen : endsOperators (.symbol .rightParen) := ⟨rfl, fun _ => rfl⟩

theorem endsOperators_rightBracket : endsOperators (.symbol .rightBracket) := ⟨rfl, fun _ => rfl⟩

theorem endsOperators_rightBrace : endsOperators (.symbol .rightBrace) := ⟨rfl, fun _ => rfl⟩

theorem endsOperators_newline : endsOperators .newline := ⟨rfl, fun _ => rfl⟩

theorem endsOperators_assign : endsOperators (.symbol .assign) := ⟨rfl, fun _ => rfl⟩

theorem endsOperators_for : endsOperators (.keyword .for_) := ⟨rfl, fun _ => rfl⟩

theorem endsOperators_if : endsOperators (.keyword .if_) := ⟨rfl, fun _ => rfl⟩

theorem endsOperators_else : endsOperators (.keyword .else_) := ⟨rfl, fun _ => rfl⟩

/-- Tokens behind a finished item of a display. -/
structure EndsItem (k : TokenKind) : Prop where
  operators : endsOperators k
  notIf : k.isKeyword .if_ = false
  notFor : k.isKeyword .for_ = false

theorem endsItem_comma : EndsItem (.symbol .comma) := ⟨endsOperators_comma, rfl, rfl⟩

theorem endsItem_rightParen : EndsItem (.symbol .rightParen) :=
  ⟨endsOperators_rightParen, rfl, rfl⟩

theorem endsItem_rightBracket : EndsItem (.symbol .rightBracket) :=
  ⟨endsOperators_rightBracket, rfl, rfl⟩

theorem endsItem_rightBrace : EndsItem (.symbol .rightBrace) :=
  ⟨endsOperators_rightBrace, rfl, rfl⟩

/-- Behind a piece of a comma-separated sequence stands the next comma or what follows them all. -/
theorem commaLed_append_begins (pieces : List (List TokenKind)) {next : TokenKind}
    (ends : EndsItem next) (rest : List TokenKind) :
    ∃ k ks, commaLed pieces ++ next :: rest = k :: ks ∧ EndsItem k := by
  cases pieces with
  | nil => exact ⟨next, rest, rfl, ends⟩
  | cons piece pieces => exact ⟨.symbol .comma, _, rfl, endsItem_comma⟩

section Loops

variable {rest : List TokenKind} {f d fuel : Nat}

theorem reads_testListRest (items : List Expr) (readable : ∀ e ∈ items, Readable e)
    (enough : 16 * (commaLed (Expr.renderings items)).length + 1 ≤ fuel)
    (room : d + 1 + 3 * Expr.heightAll items ≤ maxNesting + 2) :
    Reads (testListRest fuel)
      ⟨commaLed (Expr.renderings items) ++ .symbol .rightParen :: rest, f, d⟩
      ⟨.symbol .rightParen :: rest, f, d⟩
      fun read => Expr.unplacedAll read = Expr.unplacedAll items := by
  induction items generalizing fuel with
  | nil =>
    obtain ⟨fuel, rfl⟩ : ∃ n, fuel = n + 1 := ⟨fuel - 1, by omega⟩
    unfold testListRest
    exact Reads.step (reads_skipSymbol_other rfl) (Reads.pure rfl)
  | cons e items ih =>
    simp only [Expr.renderings, commaLed, List.length_cons, List.length_append,
      length_parenthesized] at enough
    simp only [Expr.heightAll] at room
    obtain ⟨fuel, rfl⟩ : ∃ n, fuel = n + 1 := ⟨fuel - 1, by omega⟩
    have remaining := @ih fuel (fun e member => readable e (.tail _ member)) (by omega)
      (by omega)
    obtain ⟨k, ks, begins, ends⟩ := commaLed_append_begins (Expr.renderings items)
      endsItem_rightParen rest
    simp only [Expr.renderings, commaLed, List.cons_append, List.append_assoc]
    rw [begins] at remaining ⊢
    unfold testListRest
    refine Reads.step (reads_skipSymbol .comma) (Reads.step reads_kind ?_)
    refine Reads.bind ((readable e (.head _)).test (by omega) (by omega) ends.operators ends.notIf)
      fun item like => Reads.bind remaining fun items likeItems => Reads.pure ?_
    simp only [Expr.unplacedAll, likeItems, show item.unplaced = e.unplaced from like]

theorem reads_listItems (items : List Expr) (readable : ∀ e ∈ items, Readable e)
    (enough : 16 * (commaLed (Expr.renderings items)).length + 1 ≤ fuel)
    (room : d + 1 + 3 * Expr.heightAll items ≤ maxNesting + 2) :
    Reads (listItems fuel)
      ⟨commaLed (Expr.renderings items) ++ .symbol .rightBracket :: rest, f, d⟩
      ⟨.symbol .rightBracket :: rest, f, d⟩
      fun read => Expr.unplacedAll read = Expr.unplacedAll items := by
  induction items generalizing fuel with
  | nil =>
    obtain ⟨fuel, rfl⟩ : ∃ n, fuel = n + 1 := ⟨fuel - 1, by omega⟩
    unfold listItems
    exact Reads.step (reads_skipSymbol_other rfl) (Reads.pure rfl)
  | cons e items ih =>
    simp only [Expr.renderings, commaLed, List.length_cons, List.length_append,
      length_parenthesized] at enough
    simp only [Expr.heightAll] at room
    obtain ⟨fuel, rfl⟩ : ∃ n, fuel = n + 1 := ⟨fuel - 1, by omega⟩
    have remaining := @ih fuel (fun e member => readable e (.tail _ member)) (by omega)
      (by omega)
    obtain ⟨k, ks, begins, ends⟩ := commaLed_append_begins (Expr.renderings items)
      endsItem_rightBracket rest
    simp only [Expr.renderings, commaLed, List.cons_append, List.append_assoc]
    rw [begins] at remaining ⊢
    unfold listItems
    refine Reads.step (reads_skipSymbol .comma) (Reads.step (reads_atSymbol .rightBracket) ?_)
    refine Reads.bind ((readable e (.head _)).test (by omega) (by omega) ends.operators ends.notIf)
      fun item like => Reads.bind remaining fun items likeItems => Reads.pure ?_
    simp only [Expr.unplacedAll, likeItems, show item.unplaced = e.unplaced from like]

theorem reads_dictEntries (entries : List (Expr × Expr))
    (readable : ∀ entry ∈ entries, Readable entry.1 ∧ Readable entry.2)
    (enough : 16 * (commaLed (Expr.entryRenderings entries)).length + 1 ≤ fuel)
    (room : d + 1 + 3 * Expr.heightEntries entries ≤ maxNesting + 2) :
    Reads (dictEntries fuel)
      ⟨commaLed (Expr.entryRenderings entries) ++ .symbol .rightBrace :: rest, f, d⟩
      ⟨.symbol .rightBrace :: rest, f, d⟩
      fun read => Expr.unplacedEntries read = Expr.unplacedEntries entries := by
  induction entries generalizing fuel with
  | nil =>
    obtain ⟨fuel, rfl⟩ : ∃ n, fuel = n + 1 := ⟨fuel - 1, by omega⟩
    unfold dictEntries
    exact Reads.step (reads_skipSymbol_other rfl) (Reads.pure rfl)
  | cons entry entries ih =>
    obtain ⟨key, value⟩ := entry
    obtain ⟨readableKey, readableValue⟩ : Readable key ∧ Readable value :=
      readable (key, value) (.head _)
    simp only [Expr.entryRenderings, commaLed, List.length_cons, List.length_append,
      length_parenthesized] at enough
    simp only [Expr.heightEntries] at room
    obtain ⟨fuel, rfl⟩ : ∃ n, fuel = n + 1 := ⟨fuel - 1, by omega⟩
    have remaining := @ih fuel (fun e member => readable e (.tail _ member)) (by omega)
      (by omega)
    obtain ⟨k, ks, begins, ends⟩ := commaLed_append_begins (Expr.entryRenderings entries)
      endsItem_rightBrace rest
    simp only [Expr.entryRenderings, commaLed, List.cons_append, List.append_assoc]
    rw [begins] at remaining ⊢
    unfold dictEntries
    refine Reads.step (reads_skipSymbol .comma) (Reads.step (reads_atSymbol .rightBrace) ?_)
    refine Reads.bind (readableKey.test (by omega) (by omega) endsOperators_colon rfl)
      fun readKey likeKey => Reads.bind (reads_expectSymbol .colon) fun _ _ => ?_
    refine Reads.bind (readableValue.test (by omega) (by omega) ends.operators ends.notIf)
      fun readValue likeValue => Reads.bind remaining fun entries likeEntries => Reads.pure ?_
    simp only [Expr.unplacedEntries, likeEntries,
      show readKey.unplaced = key.unplaced from likeKey,
      show readValue.unplaced = value.unplaced from likeValue]

/-- The clauses of a comprehension end at its closing bracket. -/
theorem renderings_append_begins (clauses : List Clause) {close : Symbol}
    (ends : endsOperators (.symbol close)) (rest : List TokenKind) :
    ∃ k ks, Clause.renderings clauses ++ .symbol close :: rest = k :: ks ∧ endsOperators k := by
  match clauses with
  | [] => exact ⟨.symbol close, rest, rfl, ends⟩
  | .for_ target iterable :: clauses => exact ⟨.keyword .for_, _, rfl, endsOperators_for⟩
  | .if_ test :: clauses => exact ⟨.keyword .if_, _, rfl, endsOperators_if⟩

/-- Each expression in a clause can be read. -/
def Clause.Readable : Clause → Prop
  | .for_ target iterable => Parser.Readable target ∧ Parser.Readable iterable
  | .if_ test => Parser.Readable test

theorem reads_comprehensionClauses (clauses : List Clause) {close : Symbol}
    (ends : endsOperators (.symbol close)) (readable : ∀ clause ∈ clauses, Clause.Readable clause)
    (enough : 16 * (Clause.renderings clauses).length + 1 ≤ fuel)
    (room : d + 3 * Clause.heightAll clauses ≤ maxNesting + 2) :
    Reads (comprehensionClauses fuel)
      ⟨Clause.renderings clauses ++ .symbol close :: rest, f, d⟩
      ⟨.symbol close :: rest, f, d⟩
      fun read => Clause.unplacedAll read = Clause.unplacedAll clauses := by
  induction clauses generalizing fuel with
  | nil =>
    obtain ⟨fuel, rfl⟩ : ∃ n, fuel = n + 1 := ⟨fuel - 1, by omega⟩
    unfold comprehensionClauses
    exact Reads.step (reads_skipKeyword_other rfl) (Reads.step (reads_skipKeyword_other rfl)
      (Reads.pure rfl))
  | cons clause clauses ih =>
    have readableClause := readable clause (.head _)
    have remaining := fun fuel enough room => @ih fuel
      (fun e member => readable e (.tail _ member)) enough room
    obtain ⟨k, ks, begins, endsClause⟩ := renderings_append_begins clauses ends rest
    rw [begins] at remaining
    cases clause with
    | for_ target iterable =>
      obtain ⟨readableTarget, readableIterable⟩ := readableClause
      simp only [Clause.renderings, List.length_cons, List.length_append,
        length_parenthesized] at enough
      simp only [Clause.heightAll] at room
      obtain ⟨fuel, rfl⟩ : ∃ n, fuel = n + 1 := ⟨fuel - 1, by omega⟩
      simp only [Clause.renderings, List.cons_append, List.append_assoc, begins]
      unfold comprehensionClauses
      refine Reads.step (reads_skipKeyword .for_) ?_
      refine Reads.bind (readableTarget.targetList (by omega) (by omega) rfl rfl)
        fun readTarget likeTarget => Reads.bind (reads_expectKeyword .in_) fun _ _ => ?_
      refine Reads.bind (readableIterable.binary (by omega) (by omega) endsClause)
        fun readIterable likeIterable => ?_
      refine Reads.bind (remaining fuel (by omega) (by omega)) fun clauses likeClauses => ?_
      refine Reads.pure ?_
      simp only [Clause.unplacedAll, likeClauses,
        show readTarget.unplaced = target.unplaced from likeTarget,
        show readIterable.unplaced = iterable.unplaced from likeIterable]
    | if_ test =>
      simp only [Clause.renderings, List.length_cons, List.length_append,
        length_parenthesized] at enough
      simp only [Clause.heightAll] at room
      obtain ⟨fuel, rfl⟩ : ∃ n, fuel = n + 1 := ⟨fuel - 1, by omega⟩
      simp only [Clause.renderings, List.cons_append, List.append_assoc, begins]
      unfold comprehensionClauses
      refine Reads.step (reads_skipKeyword_other rfl) ?_
      refine Reads.step (reads_skipKeyword .if_) ?_
      refine Reads.bind (Readable.binary readableClause (by omega) (by omega) endsClause)
        fun readTest likeTest => ?_
      refine Reads.bind (remaining fuel (by omega) (by omega)) fun clauses likeClauses => ?_
      refine Reads.pure ?_
      simp only [Clause.unplacedAll, likeClauses,
        show readTest.unplaced = test.unplaced from likeTest]

end Loops

/-- An atom is an expression where a parenthesis closes behind it. -/
theorem readable_of_atom {e : Expr} (begins : ∃ k ks, e.rendering = k :: ks ∧ beginsOperand k)
    (reads : ∀ fuel f d rest, 16 * e.rendering.length ≤ fuel + 4 →
      d + 3 * e.height ≤ maxNesting + 3 →
      Reads (atom fuel) ⟨e.rendering ++ .symbol .rightParen :: rest, f, d⟩
        ⟨.symbol .rightParen :: rest, f, d⟩ (Like e)) :
    Readable e := by
  intro fuel f d rest enough room
  obtain ⟨k, ks, written, beginsK⟩ := begins
  have nonempty : 0 < e.rendering.length := by
    rw [written]
    exact Nat.succ_pos _
  have positive := e.height_pos
  obtain ⟨fuel, rfl⟩ : ∃ n, fuel = n + 5 := ⟨fuel - 5, by omega⟩
  have readsAtom := reads (fuel + 1) f (d + 1) rest (by omega) (by omega)
  rw [written] at readsAtom ⊢
  exact reads_test_of_operand beginsK (by omega) (reads_operand_of_atom readsAtom rfl)
    endsOperators_rightParen rfl

section Displays

variable (pos : Position)

theorem readable_name (name : String) : Readable (.name pos name) := by
  refine readable_of_atom ⟨_, _, rfl, rfl, rfl, rfl, rfl, rfl⟩ fun fuel f d rest enough room => ?_
  simp only [Expr.rendering, List.length_singleton] at enough
  obtain ⟨fuel, rfl⟩ : ∃ n, fuel = n + 1 := ⟨fuel - 1, by omega⟩
  unfold atom
  refine Reads.bind (reads_position _) fun pos _ => Reads.step reads_kind ?_
  exact Reads.bind reads_advance fun _ _ => Reads.pure rfl

theorem reads_adjacentStrings_none {fuel f d : Nat} {rest : List TokenKind} (text : String) :
    Reads (adjacentStrings fuel text) ⟨.symbol .rightParen :: rest, f, d⟩
      ⟨.symbol .rightParen :: rest, f, d⟩ (· = text) := by
  cases fuel with
  | zero => exact Reads.pure rfl
  | succ fuel => exact Reads.step reads_kind (Reads.pure rfl)

theorem readable_literal (value : Literal) : Readable (.literal pos value) := by
  have begins : beginsOperand value.token := by
    cases value with
    | bool b => cases b <;> exact ⟨rfl, rfl, rfl, rfl, rfl⟩
    | _ => exact ⟨rfl, rfl, rfl, rfl, rfl⟩
  refine readable_of_atom ⟨_, _, rfl, begins⟩ fun fuel f d rest enough room => ?_
  simp only [Expr.rendering, List.length_singleton] at enough
  obtain ⟨fuel, rfl⟩ : ∃ n, fuel = n + 1 := ⟨fuel - 1, by omega⟩
  unfold atom
  refine Reads.bind (reads_position _) fun pos _ => ?_
  cases value with
  | string text =>
    refine Reads.step reads_kind (Reads.bind reads_advance fun _ _ => ?_)
    exact Reads.step (reads_adjacentStrings_none text) (Reads.pure rfl)
  | bool b =>
    cases b <;>
    exact Reads.step reads_kind (Reads.bind reads_advance fun _ _ => Reads.pure rfl)
  | _ => exact Reads.step reads_kind (Reads.bind reads_advance fun _ _ => Reads.pure rfl)

theorem readable_list (items : List Expr) (readable : ∀ e ∈ items, Readable e) :
    Readable (.list pos items) := by
  refine readable_of_atom ⟨_, _, rfl, rfl, rfl, rfl, rfl, rfl⟩ fun fuel f d rest enough room => ?_
  cases items with
  | nil =>
    simp only [Expr.rendering, Expr.renderings, commaSeparated, List.nil_append,
      List.length_cons, List.length_nil] at enough
    obtain ⟨fuel, rfl⟩ : ∃ n, fuel = n + 2 := ⟨fuel - 2, by omega⟩
    unfold atom
    refine Reads.bind (reads_position _) fun pos _ => Reads.step reads_kind ?_
    refine Reads.bind reads_advance fun _ _ => ?_
    unfold listDisplay
    exact Reads.step (reads_skipSymbol .rightBracket) (Reads.pure rfl)
  | cons e items =>
    simp only [Expr.rendering, Expr.renderings, commaSeparated, List.length_cons,
      List.length_append, length_parenthesized, List.length_nil] at enough
    simp only [Expr.height, Expr.heightAll] at room
    obtain ⟨fuel, rfl⟩ : ∃ n, fuel = n + 2 := ⟨fuel - 2, by omega⟩
    have remaining := @reads_listItems (.symbol .rightParen :: rest) f d fuel items
      (fun e member => readable e (.tail _ member)) (by omega) (by omega)
    obtain ⟨k, ks, begins, ends⟩ := commaLed_append_begins (Expr.renderings items)
      endsItem_rightBracket (.symbol .rightParen :: rest)
    simp only [Expr.rendering, Expr.renderings, commaSeparated, List.append_assoc,
      List.cons_append, List.nil_append]
    rw [begins] at remaining ⊢
    unfold atom
    refine Reads.bind (reads_position _) fun pos _ => Reads.step reads_kind ?_
    refine Reads.bind reads_advance fun _ _ => ?_
    unfold listDisplay
    refine Reads.step (reads_skipSymbol_other rfl) ?_
    refine Reads.bind ((readable e (.head _)).test (by omega) (by omega) ends.operators ends.notIf)
      fun first like => ?_
    refine Reads.step (reads_atKeyword .for_) ?_
    rw [ends.notFor]
    refine Reads.bind remaining fun items likeItems => ?_
    refine Reads.bind (reads_expectSymbol .rightBracket) fun _ _ => Reads.pure ?_
    simp only [Like, Expr.unplaced, Expr.unplacedAll, likeItems,
      show first.unplaced = e.unplaced from like]

/-- Behind the first item of a tuple stands a comma, also where no further item follows. -/
theorem reads_tupleRest {fuel f d : Nat} {rest : List TokenKind} (items : List Expr)
    (readable : ∀ e ∈ items, Readable e)
    (enough : 16 * (commaLed (Expr.renderings items)).length + 1 ≤ fuel)
    (room : d + 1 + 3 * Expr.heightAll items ≤ maxNesting + 2) :
    ∃ ks, commaLed (Expr.renderings items)
        ++ ((if items.length + 1 = 1 then [.symbol .comma] else []) ++ .symbol .rightParen :: rest)
        = .symbol .comma :: ks
      ∧ Reads (testListRest fuel) ⟨.symbol .comma :: ks, f, d⟩ ⟨.symbol .rightParen :: rest, f, d⟩
        fun read => Expr.unplacedAll read = Expr.unplacedAll items := by
  cases items with
  | nil =>
    obtain ⟨fuel, rfl⟩ : ∃ n, fuel = n + 1 := ⟨fuel - 1, by omega⟩
    refine ⟨_, rfl, ?_⟩
    unfold testListRest
    exact Reads.step (reads_skipSymbol .comma) (Reads.step reads_kind (Reads.pure rfl))
  | cons e items =>
    rw [if_neg (by rw [List.length_cons]; omega)]
    exact ⟨_, rfl, reads_testListRest (e :: items) readable enough room⟩

theorem readable_tuple (items : List Expr) (readable : ∀ e ∈ items, Readable e) :
    Readable (.tuple pos items) := by
  refine readable_of_atom ⟨_, _, rfl, rfl, rfl, rfl, rfl, rfl⟩ fun fuel f d rest enough room => ?_
  cases items with
  | nil =>
    simp only [Expr.rendering, Expr.renderings, commaSeparated, length_parenthesized] at enough
    obtain ⟨fuel, rfl⟩ : ∃ n, fuel = n + 1 := ⟨fuel - 1, by omega⟩
    unfold atom
    refine Reads.bind (reads_position _) fun pos _ => Reads.step reads_kind ?_
    refine Reads.bind reads_advance fun _ _ => ?_
    exact Reads.step (reads_skipSymbol .rightParen) (Reads.pure rfl)
  | cons e items =>
    simp only [Expr.rendering, Expr.renderings, commaSeparated, List.length_append,
      length_parenthesized] at enough
    simp only [Expr.height, Expr.heightAll] at room
    obtain ⟨fuel, rfl⟩ : ∃ n, fuel = n + 2 := ⟨fuel - 2, by omega⟩
    obtain ⟨ks, begins, remaining⟩ := @reads_tupleRest fuel f d (.symbol .rightParen :: rest)
      items (fun e member => readable e (.tail _ member)) (by omega)
      (by omega)
    have written : (Expr.tuple pos (e :: items)).rendering ++ .symbol .rightParen :: rest
        = .symbol .leftParen :: (parenthesized e.rendering ++ .symbol .comma :: ks) := by
      rw [← begins]
      simp only [Expr.rendering, Expr.renderings, commaSeparated, List.length_cons, parenthesized,
        List.append_assoc, List.cons_append, List.nil_append]
    rw [written]
    unfold atom
    refine Reads.bind (reads_position _) fun pos _ => Reads.step reads_kind ?_
    refine Reads.bind reads_advance fun _ _ => Reads.step (reads_skipSymbol_other rfl) ?_
    unfold testList
    refine Reads.through ⟨.symbol .rightParen :: .symbol .rightParen :: rest, f, d⟩
      (Like (.tuple pos (e :: items))) ?_ fun read like =>
      Reads.bind (reads_expectSymbol .rightParen) fun _ _ => Reads.pure like
    refine Reads.bind (reads_position _) fun pos _ => ?_
    refine Reads.bind ((readable e (.head _)).test (by omega) (by omega) endsOperators_comma rfl)
      fun first like => Reads.step (reads_atSymbol .comma) ?_
    refine Reads.bind remaining fun items likeItems => Reads.pure ?_
    simp only [Like, Expr.unplaced, Expr.unplacedAll, likeItems,
      show first.unplaced = e.unplaced from like]

theorem readable_dict (entries : List (Expr × Expr))
    (readable : ∀ entry ∈ entries, Readable entry.1 ∧ Readable entry.2) :
    Readable (.dict pos entries) := by
  refine readable_of_atom ⟨_, _, rfl, rfl, rfl, rfl, rfl, rfl⟩ fun fuel f d rest enough room => ?_
  cases entries with
  | nil =>
    simp only [Expr.rendering, Expr.entryRenderings, commaSeparated, List.nil_append,
      List.length_cons, List.length_nil] at enough
    obtain ⟨fuel, rfl⟩ : ∃ n, fuel = n + 2 := ⟨fuel - 2, by omega⟩
    unfold atom
    refine Reads.bind (reads_position _) fun pos _ => Reads.step reads_kind ?_
    refine Reads.bind reads_advance fun _ _ => ?_
    unfold dictDisplay
    exact Reads.step (reads_skipSymbol .rightBrace) (Reads.pure rfl)
  | cons entry entries =>
    obtain ⟨key, value⟩ := entry
    obtain ⟨readableKey, readableValue⟩ : Readable key ∧ Readable value :=
      readable (key, value) (.head _)
    simp only [Expr.rendering, Expr.entryRenderings, commaSeparated, List.length_cons,
      List.length_append, length_parenthesized, List.length_nil] at enough
    simp only [Expr.height, Expr.heightEntries] at room
    obtain ⟨fuel, rfl⟩ : ∃ n, fuel = n + 2 := ⟨fuel - 2, by omega⟩
    have remaining := @reads_dictEntries (.symbol .rightParen :: rest) f d fuel entries
      (fun e member => readable e (.tail _ member)) (by omega) (by omega)
    obtain ⟨k, ks, begins, ends⟩ := commaLed_append_begins (Expr.entryRenderings entries)
      endsItem_rightBrace (.symbol .rightParen :: rest)
    simp only [Expr.rendering, Expr.entryRenderings, commaSeparated, List.append_assoc,
      List.cons_append, List.nil_append]
    rw [begins] at remaining ⊢
    unfold atom
    refine Reads.bind (reads_position _) fun pos _ => Reads.step reads_kind ?_
    refine Reads.bind reads_advance fun _ _ => ?_
    unfold dictDisplay
    refine Reads.step (reads_skipSymbol_other rfl) ?_
    refine Reads.bind (readableKey.test (by omega) (by omega) endsOperators_colon rfl)
      fun readKey likeKey => Reads.bind (reads_expectSymbol .colon) fun _ _ => ?_
    refine Reads.bind (readableValue.test (by omega) (by omega) ends.operators ends.notIf)
      fun readValue likeValue => Reads.step (reads_atKeyword .for_) ?_
    rw [ends.notFor]
    refine Reads.bind remaining fun entries likeEntries => ?_
    refine Reads.bind (reads_expectSymbol .rightBrace) fun _ _ => Reads.pure ?_
    simp only [Like, Expr.unplaced, Expr.unplacedEntries, likeEntries,
      show readKey.unplaced = key.unplaced from likeKey,
      show readValue.unplaced = value.unplaced from likeValue]

/-- The clauses of a comprehension begin with a word that no operator is. -/
theorem renderings_begin_with_for {clauses : List Clause} (loops : Clause.BeginWithFor clauses) :
    ∃ ks, Clause.renderings clauses = .keyword .for_ :: ks := by
  match clauses with
  | .for_ target iterable :: clauses => exact ⟨_, rfl⟩

theorem readable_listComp {element : Expr} {clauses : List Clause}
    (readableElement : Readable element) (loops : Clause.BeginWithFor clauses)
    (readable : ∀ clause ∈ clauses, Clause.Readable clause) :
    Readable (.listComp pos element clauses) := by
  refine readable_of_atom ⟨_, _, rfl, rfl, rfl, rfl, rfl, rfl⟩ fun fuel f d rest enough room => ?_
  simp only [Expr.rendering, List.length_cons, List.length_append, length_parenthesized,
    List.length_nil] at enough
  simp only [Expr.height] at room
  obtain ⟨fuel, rfl⟩ : ∃ n, fuel = n + 2 := ⟨fuel - 2, by omega⟩
  have remaining := @reads_comprehensionClauses (.symbol .rightParen :: rest) f d fuel clauses _
    endsOperators_rightBracket readable (by omega) (by omega)
  obtain ⟨ks, begins⟩ := renderings_begin_with_for loops
  simp only [Expr.rendering, List.append_assoc, List.cons_append, List.nil_append]
  rw [begins] at remaining ⊢
  unfold atom
  refine Reads.bind (reads_position _) fun pos _ => Reads.step reads_kind ?_
  refine Reads.bind reads_advance fun _ _ => ?_
  unfold listDisplay
  refine Reads.step (reads_skipSymbol_other rfl) ?_
  refine Reads.bind (readableElement.test (by omega) (by omega) endsOperators_for rfl)
    fun first like => Reads.step (reads_atKeyword .for_) ?_
  refine Reads.bind remaining fun clauses likeClauses => ?_
  refine Reads.bind (reads_expectSymbol .rightBracket) fun _ _ => Reads.pure ?_
  simp only [Like, Expr.unplaced, likeClauses, show first.unplaced = element.unplaced from like]

theorem readable_dictComp {key value : Expr} {clauses : List Clause}
    (readableKey : Readable key) (readableValue : Readable value)
    (loops : Clause.BeginWithFor clauses)
    (readable : ∀ clause ∈ clauses, Clause.Readable clause) :
    Readable (.dictComp pos key value clauses) := by
  refine readable_of_atom ⟨_, _, rfl, rfl, rfl, rfl, rfl, rfl⟩ fun fuel f d rest enough room => ?_
  simp only [Expr.rendering, List.length_cons, List.length_append, length_parenthesized,
    List.length_nil] at enough
  simp only [Expr.height] at room
  obtain ⟨fuel, rfl⟩ : ∃ n, fuel = n + 2 := ⟨fuel - 2, by omega⟩
  have remaining := @reads_comprehensionClauses (.symbol .rightParen :: rest) f d fuel clauses _
    endsOperators_rightBrace readable (by omega) (by omega)
  obtain ⟨ks, begins⟩ := renderings_begin_with_for loops
  simp only [Expr.rendering, List.append_assoc, List.cons_append, List.nil_append]
  rw [begins] at remaining ⊢
  unfold atom
  refine Reads.bind (reads_position _) fun pos _ => Reads.step reads_kind ?_
  refine Reads.bind reads_advance fun _ _ => ?_
  unfold dictDisplay
  refine Reads.step (reads_skipSymbol_other rfl) ?_
  refine Reads.bind (readableKey.test (by omega) (by omega) endsOperators_colon rfl)
    fun readKey likeKey => Reads.bind (reads_expectSymbol .colon) fun _ _ => ?_
  refine Reads.bind (readableValue.test (by omega) (by omega) endsOperators_for rfl)
    fun readValue likeValue => Reads.step (reads_atKeyword .for_) ?_
  refine Reads.bind remaining fun clauses likeClauses => ?_
  refine Reads.bind (reads_expectSymbol .rightBrace) fun _ _ => Reads.pure ?_
  simp only [Like, Expr.unplaced, likeClauses,
    show readKey.unplaced = key.unplaced from likeKey,
    show readValue.unplaced = value.unplaced from likeValue]

end Displays

end PixelApplet.Parser
