import PixelApplet.Proofs.Script.ExpressionRoundTrip

/-!
# Chains of operators

A chain is operands with operators between them.  Read in order, a tree of operators is a chain, and
how tightly the operators bind makes one of the trees that read as a chain the right one: it is
ranked.  The parser reads every chain of names and constants that keeps within the levels into its
ranked tree.  A `not` before a chain holds the comparison behind it, and a `not` behind a `not` is
refused.
-/

namespace PixelApplet

/-!
## Trees and chains
-/

/-- How tightly an operator binds: `or` is the loosest, then come `and`, comparisons with
membership, sums and products. -/
def BinaryOp.power : BinaryOp → Parser.Power
  | .or => Parser.orPower
  | .and => Parser.andPower
  | .eq | .ne | .lt | .le | .gt | .ge | .in_ | .notIn => Parser.comparePower
  | .add | .sub => Parser.sumPower
  | .mul | .div | .floorDiv | .mod => Parser.productPower

theorem BinaryOp.orPower_le (op : BinaryOp) : Parser.orPower ≤ op.power := by
  cases op <;> decide

/-- An operator of a chain with its place, and the operand behind it. -/
structure Link where
  pos : Position
  op : BinaryOp
  operand : Expr

/-- Operands with operators between them. -/
structure Chain where
  first : Expr
  links : List Link

namespace Expr

/-- The leftmost operand of a tree of operators. -/
def first : Expr → Expr
  | .binary _ _ left _ => left.first
  | e => e

/-- The operators of a tree of operators in order, each with the operand behind it. -/
def links : Expr → List Link
  | .binary pos op left right => left.links ++ ⟨pos, op, right.first⟩ :: right.links
  | _ => []

/-- The chain as which a tree of operators reads in order. -/
def reading (tree : Expr) : Chain :=
  ⟨tree.first, tree.links⟩

/-- The operator at the root of a tree. -/
def rootOperator? : Expr → Option BinaryOp
  | .binary _ op _ _ => some op
  | _ => none

/-- An operator at the root of the left operand of another binds at least as tightly as the other,
and one at the root of the right operand binds more tightly. -/
def Ranked : Expr → Prop
  | .binary _ op left right =>
    (∀ inner ∈ left.rootOperator?, op.power ≤ inner.power) ∧
      (∀ inner ∈ right.rootOperator?, op.power < inner.power) ∧ left.Ranked ∧ right.Ranked
  | _ => True

/-- What is no tree of operators is a chain without links. -/
theorem operand_of_rootOperator? {e : Expr} (operand : e.rootOperator? = none) :
    e.first = e ∧ e.links = [] ∧ e.Ranked := by
  cases e with
  | binary => cases operand
  | _ => exact ⟨rfl, rfl, trivial⟩

theorem first_of_links {tree : Expr} (single : tree.links = []) : tree.first = tree := by
  cases tree with
  | binary => simp [links] at single
  | _ => rfl

/-- In a ranked tree no operator binds looser than the one at the root. -/
theorem Ranked.power_le {power : Parser.Power} : {tree : Expr} → tree.Ranked →
    (∀ op ∈ tree.rootOperator?, power ≤ op.power) → ∀ link ∈ tree.links, power ≤ link.op.power
  | .binary _ op left right, ranked, root, link, member => by
    obtain ⟨leftRoot, rightRoot, rankedLeft, rankedRight⟩ := ranked
    have here : power ≤ op.power := root op rfl
    rcases List.mem_append.mp member with inLeft | inRight
    · exact rankedLeft.power_le (fun inner at_ => Nat.le_trans here (leftRoot inner at_)) link
        inLeft
    · rcases List.mem_cons.mp inRight with rfl | inRight
      · exact here
      · exact rankedRight.power_le
          (fun inner at_ => Nat.le_trans here (Nat.le_of_lt (rightRoot inner at_))) link inRight

/-- An operator that binds no tighter than those before it, and looser than those behind it, cuts a
chain in one place only. -/
theorem cut_unique {before before' after after' : List Link} {link link' : Link}
    (same : before ++ link :: after = before' ++ link' :: after')
    (loosest : ∀ other ∈ before, link.op.power ≤ other.op.power)
    (looser : ∀ other ∈ after, link.op.power < other.op.power)
    (loosest' : ∀ other ∈ before', link'.op.power ≤ other.op.power)
    (looser' : ∀ other ∈ after', link'.op.power < other.op.power) :
    before = before' ∧ link = link' ∧ after = after' := by
  rcases List.append_eq_append_iff.mp same with ⟨between, rfl, cut⟩ | ⟨between, rfl, cut⟩
  · cases between with
    | nil =>
      obtain ⟨rfl, rfl⟩ := List.cons.inj cut
      exact ⟨(List.append_nil _).symm, rfl, rfl⟩
    | cons other between =>
      obtain ⟨rfl, rfl⟩ := List.cons.inj cut
      have below := loosest' link (by simp)
      have above := looser link' (by simp)
      exact absurd above (Nat.not_lt.mpr below)
  · cases between with
    | nil =>
      obtain ⟨rfl, rfl⟩ := List.cons.inj cut
      exact ⟨List.append_nil _, rfl, rfl⟩
    | cons other between =>
      obtain ⟨rfl, rfl⟩ := List.cons.inj cut
      have below := loosest link' (by simp)
      have above := looser' link (by simp)
      exact absurd above (Nat.not_lt.mpr below)

theorem Ranked.eq_of_first_links {tree other : Expr} (ranked : tree.Ranked)
    (ranked' : other.Ranked) (first : tree.first = other.first)
    (links : tree.links = other.links) : tree = other := by
  cases tree with
  | binary pos op left right =>
    cases other with
    | binary pos' op' left' right' =>
      obtain ⟨leftRoot, rightRoot, rankedLeft, rankedRight⟩ := ranked
      obtain ⟨leftRoot', rightRoot', rankedLeft', rankedRight'⟩ := ranked'
      obtain ⟨sameLeft, sameLink, sameRight⟩ := cut_unique links
        (rankedLeft.power_le leftRoot) (rankedRight.power_le rightRoot)
        (rankedLeft'.power_le leftRoot') (rankedRight'.power_le rightRoot')
      obtain ⟨rfl, rfl, sameFirst⟩ := Link.mk.inj sameLink
      rw [rankedLeft.eq_of_first_links rankedLeft' first sameLeft,
        rankedRight.eq_of_first_links rankedRight' sameFirst sameRight]
    | _ => simp [Expr.links] at links
  | _ => exact first.trans (first_of_links links.symm)
termination_by structural tree

/-- A chain is the reading of one ranked tree at most. -/
theorem Ranked.eq_of_reading {tree other : Expr} (ranked : tree.Ranked) (ranked' : other.Ranked)
    (same : tree.reading = other.reading) : tree = other :=
  ranked.eq_of_first_links ranked' (congrArg Chain.first same) (congrArg Chain.links same)

end Expr

/-!
## Chains as tokens
-/

/-- The atom that a token is: a name or a constant. -/
def Token.atom? (token : Token) : Option Expr :=
  match token.kind with
  | .identifier name => some (.name token.start name)
  | .int value => some (.literal token.start (.int value))
  | .float value => some (.literal token.start (.float value))
  | .string text => some (.literal token.start (.string text))
  | .keyword .none => some (.literal token.start .none)
  | .keyword .true_ => some (.literal token.start (.bool true))
  | .keyword .false_ => some (.literal token.start (.bool false))
  | _ => none

/-- Tokens that spell links: for each the tokens of its operator, and an atom. -/
inductive Link.Spelling : List Token → List Link → Prop
  | nil : Spelling [] []
  | cons {mark token : Token} {marks tokens : List Token} {op : BinaryOp} {operand : Expr}
    {links : List Link} (operator : (mark :: marks).map Token.kind = op.tokens)
    (atom : token.atom? = some operand) (spelling : Spelling tokens links) :
    Spelling (mark :: (marks ++ token :: tokens)) (⟨mark.start, op, operand⟩ :: links)

section

variable {mark second token : Token} {tokens : List Token} {op : BinaryOp} {operand : Expr}
  {links : List Link}

theorem Link.Spelling.one (operator : [mark.kind] = op.tokens) (atom : token.atom? = some operand)
    (spelling : Spelling tokens links) :
    Spelling (mark :: token :: tokens) (⟨mark.start, op, operand⟩ :: links) :=
  @cons mark token [] tokens op operand links operator atom spelling

theorem Link.Spelling.two (operator : [mark.kind, second.kind] = op.tokens)
    (atom : token.atom? = some operand) (spelling : Spelling tokens links) :
    Spelling (mark :: second :: token :: tokens) (⟨mark.start, op, operand⟩ :: links) :=
  @cons mark token [second] tokens op operand links operator atom spelling

end

/-- Tokens that spell a chain of atoms. -/
inductive Chain.Spelling : List Token → Chain → Prop
  | mk {token : Token} {tokens : List Token} {first : Expr} {links : List Link}
    (atom : token.atom? = some first) (spelling : Link.Spelling tokens links) :
    Spelling (token :: tokens) ⟨first, links⟩

namespace Parser

/-- What the first of some tokens is. -/
def nextKind (tokens : List Token) : TokenKind :=
  (tokens.head?.map Token.kind).getD .endOfFile

/-- Tokens with which a chain does not go on, and which make nothing larger of it. -/
structure EndsChain (tokens : List Token) : Prop where
  suffix : endsOperand (nextKind tokens) = true
  operator : operatorOf? (nextKind tokens) (nextKind tokens.tail) = none
  conditional : (nextKind tokens).isKeyword .if_ = false
  literal : ∀ text, nextKind tokens ≠ .string text

section Atoms

variable {token : Token} {tokens : List Token} {e : Expr}

theorem isSymbol_of_atom {mark : Symbol} (atom : token.atom? = some e) :
    (nextKind (token :: tokens)).isSymbol mark = false := by
  obtain ⟨k, start, stop⟩ := token
  cases k with
  | symbol => cases atom
  | _ => rfl

theorem isKeyword_of_atom (atom : token.atom? = some e) :
    (nextKind (token :: tokens)).isKeyword .not_ = false ∧
      (nextKind (token :: tokens)).isKeyword .lambda = false := by
  obtain ⟨k, start, stop⟩ := token
  cases k with
  | keyword word =>
    cases word with
    | not_ | lambda => cases atom
    | _ => exact ⟨rfl, rfl⟩
  | _ => exact ⟨rfl, rfl⟩

theorem rootOperator?_of_atom (atom : token.atom? = some e) : e.rootOperator? = none := by
  obtain ⟨k, start, stop⟩ := token
  cases k with
  | identifier | int | float | string =>
    cases atom
    rfl
  | keyword word =>
    cases word with
    | none | true_ | false_ =>
      cases atom
      rfl
    | _ => cases atom
  | _ => cases atom

end Atoms

/-- The tokens of an operator are one or two, and the first one ends the operand before it. -/
theorem marks_of_operator {mark : Token} {marks : List Token} {op : BinaryOp}
    (operator : (mark :: marks).map Token.kind = op.tokens) :
    marks.length ≤ 1 ∧ endsOperand mark.kind = true ∧ ∀ text, mark.kind ≠ .string text := by
  obtain ⟨k, start, stop⟩ := mark
  have same := congrArg List.length operator
  cases op <;>
  · obtain ⟨rfl, _⟩ := List.cons.inj operator
    exact ⟨by simp_all [BinaryOp.tokens], rfl, nofun⟩

/-- What follows an atom of a chain does not belong to the atom. -/
theorem endsAtom_of_spelling {tokens rest : List Token} {links : List Link}
    (spelling : Link.Spelling tokens links) (ends : EndsChain rest) :
    endsOperand (nextKind (tokens ++ rest)) = true ∧
      ∀ text, nextKind (tokens ++ rest) ≠ .string text := by
  cases spelling with
  | nil => exact ⟨ends.suffix, ends.literal⟩
  | cons operator atom spelling => exact (marks_of_operator operator).2

/-!
## Running the parser

What the parsers of the lower levels do on given tokens, the state behind them included.
-/

section Running

variable {α β : Type} {tokens : List Token} {last : Position} {f d fuel : Nat}

theorem run_bind {p : Parser α} {next : α → Parser β} {s s' : ParserState} {x : α}
    (ran : p s = .ok (x, s')) : (p >>= next) s = next x s' := by
  simp only [bind, StateT.bind, ran, Except.bind]

theorem run_kind : kind ⟨tokens, last, f, d⟩ = .ok (nextKind tokens, ⟨tokens, last, f, d⟩) := by
  cases tokens <;> rfl

theorem run_kindAfter :
    kindAfter ⟨tokens, last, f, d⟩ = .ok (nextKind tokens.tail, ⟨tokens, last, f, d⟩) := by
  match tokens with
  | [] | [_] | _ :: _ :: _ => rfl

theorem run_operator? : operator? ⟨tokens, last, f, d⟩
    = .ok (operatorOf? (nextKind tokens) (nextKind tokens.tail), ⟨tokens, last, f, d⟩) :=
  (run_bind run_kind).trans (run_bind run_kindAfter)

theorem run_atKeyword {word : Keyword} : atKeyword word ⟨tokens, last, f, d⟩
    = .ok ((nextKind tokens).isKeyword word, ⟨tokens, last, f, d⟩) :=
  run_bind run_kind

theorem run_skipKeyword_other {word : Keyword}
    (other : (nextKind tokens).isKeyword word = false) :
    skipKeyword word ⟨tokens, last, f, d⟩ = .ok (false, ⟨tokens, last, f, d⟩) := by
  refine (run_bind run_atKeyword).trans ?_
  rw [other]
  rfl

theorem run_skipSymbol_other {mark : Symbol} (other : (nextKind tokens).isSymbol mark = false) :
    skipSymbol mark ⟨tokens, last, f, d⟩ = .ok (false, ⟨tokens, last, f, d⟩) := by
  refine (run_bind (run_bind run_kind)).trans ?_
  rw [other]
  rfl

theorem run_enter (room : d < maxNesting) :
    enter ⟨tokens, last, f, d⟩ = .ok ((), ⟨tokens, last, f, d + 1⟩) := by
  unfold enter
  rw [if_neg (Nat.not_le.mpr room)]

theorem run_nested {p : Parser α} {s' : ParserState} {x : α} (room : d < maxNesting)
    (ran : p ⟨tokens, last, f, d + 1⟩ = .ok (x, s')) :
    nested p ⟨tokens, last, f, d⟩ = .ok (x, { s' with depth := s'.depth - 1 }) :=
  (run_bind (run_enter room)).trans (run_bind ran)

theorem run_suffixes_none {object : Expr} (ends : endsOperand (nextKind tokens) = true) :
    suffixes (fuel + 1) object ⟨tokens, last, f, d⟩ = .ok (object, ⟨tokens, last, f, d⟩) := by
  obtain ⟨pos, at_⟩ : ∃ pos, position ⟨tokens, last, f, d⟩ = .ok (pos, ⟨tokens, last, f, d⟩) := by
    cases tokens <;> exact ⟨_, rfl⟩
  unfold suffixes
  refine (run_bind at_).trans ((run_bind run_kind).trans ?_)
  cases next : nextKind tokens with
  | symbol mark =>
    rw [next] at ends
    cases mark with
    | dot | leftParen | leftBracket => cases ends
    | _ => rfl
  | _ => rfl

theorem run_adjacentStrings {text : String} (other : ∀ more, nextKind tokens ≠ .string more) :
    adjacentStrings fuel text ⟨tokens, last, f, d⟩ = .ok (text, ⟨tokens, last, f, d⟩) := by
  cases fuel with
  | zero => rfl
  | succ fuel =>
    unfold adjacentStrings
    refine (run_bind run_kind).trans ?_
    cases next : nextKind tokens with
    | string more => exact absurd next (other more)
    | _ => rfl

variable {token : Token} {e : Expr}

theorem run_atom (atom : token.atom? = some e) (other : ∀ more, nextKind tokens ≠ .string more) :
    Parser.atom (fuel + 1) ⟨token :: tokens, last, f, d⟩ = .ok (e, ⟨tokens, last, f, d⟩) := by
  obtain ⟨k, start, stop⟩ := token
  unfold Parser.atom
  refine (run_bind rfl).trans ((run_bind run_kind).trans ?_)
  cases k with
  | identifier | int | float =>
    cases atom
    rfl
  | string text =>
    cases atom
    exact (run_bind rfl).trans (run_bind (run_adjacentStrings other))
  | keyword word =>
    cases word with
    | none | true_ | false_ =>
      cases atom
      rfl
    | _ => cases atom
  | _ => cases atom

theorem run_operand (atom : token.atom? = some e)
    (other : ∀ more, nextKind tokens ≠ .string more)
    (ends : endsOperand (nextKind tokens) = true) :
    operand (fuel + 2) ⟨token :: tokens, last, f, d⟩ = .ok (e, ⟨tokens, last, f, d⟩) := by
  unfold operand
  refine (run_bind (run_atom atom other)).trans ((run_bind rfl).trans ?_)
  exact run_bind (run_suffixes_none ends)

theorem run_unary (atom : token.atom? = some e) (other : ∀ more, nextKind tokens ≠ .string more)
    (ends : endsOperand (nextKind tokens) = true) :
    unary (fuel + 3) ⟨token :: tokens, last, f, d⟩ = .ok (e, ⟨tokens, last, f, d⟩) := by
  unfold unary
  refine (run_bind rfl).trans ((run_bind (run_skipSymbol_other (isSymbol_of_atom atom))).trans ?_)
  refine (run_bind (run_skipSymbol_other (isSymbol_of_atom atom))).trans ?_
  exact run_operand atom other ends

variable {mark : Token} {marks : List Token} {op : BinaryOp}

/-- The tokens of an operator tell it, whatever stands behind them. -/
theorem run_operator?_of_marks (operator : (mark :: marks).map Token.kind = op.tokens) :
    operator? ⟨mark :: (marks ++ tokens), last, f, d⟩
      = .ok (some (op, op.power, marks.length + 1), ⟨mark :: (marks ++ tokens), last, f, d⟩) := by
  refine run_operator?.trans ?_
  obtain ⟨k, start, stop⟩ := mark
  cases op with
  | notIn =>
    obtain ⟨rfl, ⟨second, place⟩, rfl, ⟨rfl, rfl⟩⟩ :
        k = .keyword .not_ ∧ ∃ second, marks = [second] ∧ second.kind = .keyword .in_ := by
      simpa [BinaryOp.tokens, List.map_eq_singleton_iff] using operator
    rfl
  | _ =>
    obtain ⟨rfl, rfl⟩ : k = _ ∧ marks = [] := by simpa [BinaryOp.tokens] using operator
    rfl

/-- Behind its first token an operator is passed over, with its second one if it has two. -/
theorem run_secondMark {next : Parser α} (short : marks.length ≤ 1) :
    (if marks.length + 1 = 2 then advance >>= fun _ => next else next)
      ⟨marks ++ tokens, last, f, d⟩ = next ⟨tokens, last, f, d⟩ := by
  match marks with
  | [] | [_] => rfl

end Running

/-!
## Reading chains

While a chain is read, the tree on the left and the link that comes next fit each other: the link
can take the tree as its left operand.  An operand on the right takes the links that bind more
tightly than the operator before it, so the tree with the operator at its root fits the next link
again.
-/

section Chains

variable {tokens rest : List Token} {links : List Link} {last : Position} {f d fuel : Nat}
  {power : Power} {left : Expr}

/-- A tree is made of the front of a chain: of the links up to the first one that binds too loosely
for a power. -/
structure TakesFront (power : Power) (first : Expr) (links : List Link) (tree : Expr)
    (others : List Link) : Prop where
  first : tree.first = first
  links : tree.links ++ others = links
  ranked : tree.Ranked
  tight : ∀ op ∈ tree.rootOperator?, power ≤ op.power
  stops : ∀ link ∈ others.head?, link.op.power < power

/-- A tree can be the left operand of the operator that comes next. -/
structure LeadsChain (power : Power) (left : Expr) (links : List Link) : Prop where
  ranked : left.Ranked
  tight : ∀ op ∈ left.rootOperator?, power ≤ op.power
  next : ∀ link ∈ links.head?, power ≤ link.op.power →
    ∀ op ∈ left.rootOperator?, link.op.power ≤ op.power

theorem TakesFront.length_le {first tree : Expr} {others : List Link}
    (takes : TakesFront power first links tree others) : others.length ≤ links.length := by
  rw [← takes.links, List.length_append]
  exact Nat.le_add_left _ _

/-- The loosest power takes the whole chain. -/
theorem TakesFront.whole {first tree : Expr} {others : List Link}
    (takes : TakesFront orPower first links tree others) : others = [] := by
  cases others with
  | nil => rfl
  | cons link others => exact absurd (takes.stops link rfl) (Nat.not_lt.mpr link.op.orPower_le)

theorem leadsChain_of_operand (operand : left.rootOperator? = none) :
    LeadsChain power left links where
  ranked := (Expr.operand_of_rootOperator? operand).2.2
  tight := by simp [operand]
  next := by simp [operand]

/-- With its right operand read, an operator can lead the rest of the chain. -/
theorem LeadsChain.binary {pos : Position} {op : BinaryOp} {operand right : Expr}
    {others : List Link} (leads : LeadsChain power left (⟨pos, op, operand⟩ :: links))
    (tight : power ≤ op.power) (takes : TakesFront (op.power + 1) operand links right others) :
    LeadsChain power (.binary pos op left right) others where
  ranked := ⟨leads.next _ rfl tight, takes.tight, leads.ranked, takes.ranked⟩
  tight := by
    rintro _ ⟨⟩
    exact tight
  next := by
    rintro link member - _ ⟨⟩
    exact Nat.le_of_lt_succ (takes.stops link member)

/-- What is made of the rest behind an operator is made of the chain before the operator. -/
theorem TakesFront.binary {pos : Position} {op : BinaryOp} {operand right tree : Expr}
    {between others : List Link}
    (takesRight : TakesFront (op.power + 1) operand links right between)
    (takes : TakesFront power (Expr.binary pos op left right).first
      ((Expr.binary pos op left right).links ++ between) tree others) :
    TakesFront power left.first (left.links ++ ⟨pos, op, operand⟩ :: links) tree others where
  first := takes.first
  links := by
    rw [takes.links, Expr.links, takesRight.first, ← takesRight.links, List.append_assoc,
      List.cons_append]
  ranked := takes.ranked
  tight := takes.tight
  stops := takes.stops

/-- With so much fuel the links behind a tree are read as long as they bind tightly enough. -/
def ReadsLinks (rest : List Token) (fuel : Nat) : Prop :=
  ∀ {tokens : List Token} {links : List Link} {last : Position} {f d : Nat} {power : Power}
    {left : Expr}, Link.Spelling tokens links → LeadsChain power left links →
    d + links.length ≤ maxNesting → 2 * links.length + 3 ≤ fuel →
    ∃ tree tokens' others d',
      binaryRest fuel power left ⟨tokens ++ rest, last, f, d⟩
        = .ok (tree, ⟨tokens' ++ rest, last, f, d'⟩) ∧
      Link.Spelling tokens' others ∧ TakesFront power left.first (left.links ++ links) tree others

/-- With so much fuel a chain is read from its first atom on, as long as its links bind tightly
enough. -/
def ReadsChain (rest : List Token) (fuel : Nat) : Prop :=
  ∀ {token : Token} {tokens : List Token} {links : List Link} {last : Position} {f d : Nat}
    {power : Power} {first : Expr}, token.atom? = some first → Link.Spelling tokens links →
    d + links.length ≤ maxNesting → 2 * links.length + 4 ≤ fuel →
    ∃ tree tokens' others,
      binary fuel power ⟨token :: (tokens ++ rest), last, f, d⟩
        = .ok (tree, ⟨tokens' ++ rest, last, f, d⟩) ∧
      Link.Spelling tokens' others ∧ TakesFront power first links tree others

theorem readsChain_succ (ends : EndsChain rest) (reads : ReadsLinks rest fuel) :
    ReadsChain rest (fuel + 1) := by
  intro token tokens links last f d power first atom spelling room enough
  obtain ⟨fuel, rfl⟩ : ∃ n, fuel = n + 3 := ⟨fuel - 3, by omega⟩
  obtain ⟨suffix, literal⟩ := endsAtom_of_spelling spelling ends
  have operand := rootOperator?_of_atom atom
  obtain ⟨tree, tokens', others, d', ran, spelling', takes⟩ :=
    @reads tokens links last f d power first spelling (leadsChain_of_operand operand) room
      (by omega)
  obtain ⟨sameFirst, noLinks, -⟩ := Expr.operand_of_rootOperator? operand
  rw [sameFirst, noLinks, List.nil_append] at takes
  refine ⟨tree, tokens', others, ?_, spelling', takes⟩
  unfold binary
  refine (run_bind run_atKeyword).trans ?_
  rw [(isKeyword_of_atom atom).1]
  refine (run_bind (run_unary atom literal suffix)).trans ((run_bind rfl).trans ?_)
  exact (run_bind ran).trans (run_bind rfl)

theorem readsLinks_succ (ends : EndsChain rest) (readsLinks : ReadsLinks rest fuel)
    (readsChain : ReadsChain rest fuel) : ReadsLinks rest (fuel + 1) := by
  intro tokens links last f d power left spelling leads room enough
  unfold binaryRest
  cases spelling with
  | nil =>
    have nothing : ∀ link ∈ ([] : List Link).head?, link.op.power < power :=
      fun link absent => absurd absent (Option.not_mem_none link)
    refine ⟨left, [], [], d, ?_, .nil, ⟨rfl, rfl, leads.ranked, leads.tight, nothing⟩⟩
    refine (run_bind run_operator?).trans ?_
    rw [List.nil_append, ends.operator]
    rfl
  | @cons mark token marks tokens op operand links operator atom spelling =>
    simp only [List.length_cons] at room enough
    simp only [List.cons_append, List.append_assoc]
    have found :=
      @run_operator?_of_marks (token :: (tokens ++ rest)) last f d mark marks op operator
    by_cases loose : op.power < power
    · refine ⟨left, _, _, d, ?_, .cons operator atom spelling,
        ⟨rfl, rfl, leads.ranked, leads.tight, ?_⟩⟩
      · refine (run_bind found).trans ?_
        dsimp only
        rw [if_pos loose]
        simp only [List.cons_append, List.append_assoc]
        rfl
      · rintro link ⟨⟩
        exact loose
    · have level : d < maxNesting := by omega
      obtain ⟨right, tokens₁, links₁, readsRight, spelling₁, takesRight⟩ :=
        @readsChain token tokens links last f (d + 1) (op.power + 1) operand atom spelling
          (by omega) (by omega)
      have fewer := takesRight.length_le
      obtain ⟨tree, tokens₂, links₂, d₂, readsTree, spelling₂, takes⟩ :=
        @readsLinks tokens₁ links₁ last f (d + 1) power (.binary mark.start op left right) spelling₁
          (leads.binary (Nat.le_of_not_lt loose) takesRight) (by omega) (by omega)
      refine ⟨tree, tokens₂, links₂, d₂, ?_, spelling₂, takesRight.binary takes⟩
      refine (run_bind found).trans ?_
      dsimp only
      rw [if_neg loose]
      refine (run_bind rfl).trans ((run_bind rfl).trans ?_)
      refine (run_secondMark (marks_of_operator operator).1).trans ?_
      exact (run_bind (run_enter level)).trans ((run_bind readsRight).trans readsTree)

theorem reads_chain (ends : EndsChain rest) (fuel : Nat) :
    ReadsLinks rest fuel ∧ ReadsChain rest fuel := by
  induction fuel with
  | zero =>
    constructor
    · intro _ _ _ _ _ _ _ _ _ _ enough
      omega
    · intro _ _ _ _ _ _ _ _ _ _ _ enough
      omega
  | succ fuel ih => exact ⟨readsLinks_succ ends ih.1 ih.2, readsChain_succ ends ih.1⟩

end Chains

/-- A chain of atoms that keeps within the levels is read to its end, and into the one ranked tree
that reads as the chain.  At the outermost level there is room for 199 operators. -/
theorem test_reads_chain {chain : Chain} {tokens rest : List Token} {last : Position}
    {f d fuel : Nat} (spelling : chain.Spelling tokens) (ends : EndsChain rest)
    (room : d + chain.links.length < maxNesting) (enough : 2 * chain.links.length + 5 ≤ fuel) :
    ∃ tree, test fuel ⟨tokens ++ rest, last, f, d⟩ = .ok (tree, ⟨rest, last, f, d⟩) ∧
      tree.reading = chain ∧ tree.Ranked ∧
      ∀ other : Expr, other.reading = chain → other.Ranked → other = tree := by
  obtain ⟨fuel, rfl⟩ : ∃ n, fuel = n + 1 := ⟨fuel - 1, by omega⟩
  have level : d < maxNesting := by omega
  obtain @⟨token, tokens, first, links, atom, spelling⟩ := spelling
  dsimp only at room enough
  obtain ⟨tree, tokens', others, ran, spelling', takes⟩ :=
    @(reads_chain ends fuel).2 token tokens links last f (d + 1) orPower first atom spelling
      (by omega) (by omega)
  cases takes.whole
  cases spelling'
  have reading : tree.reading = ⟨first, links⟩ := by
    rw [Expr.reading, takes.first, ← takes.links, List.append_nil]
  refine ⟨tree, ?_, reading, takes.ranked, fun other same ranked =>
    ranked.eq_of_reading takes.ranked (same.trans reading.symm)⟩
  unfold test
  refine @run_nested _ _ _ _ _ _ ⟨rest, last, f, d + 1⟩ tree level
    ((run_bind run_atKeyword).trans ?_)
  rw [List.cons_append, (isKeyword_of_atom atom).2]
  refine (run_bind rfl).trans ((run_bind ran).trans ?_)
  exact run_bind (run_skipKeyword_other ends.conditional)

/-- The words of `a or b and 1 not in c + "d" * e`. -/
def mixedWords : List TokenKind :=
  [.identifier "a", .keyword .or_, .identifier "b", .keyword .and_, .int 1, .keyword .not_,
    .keyword .in_, .identifier "c", .symbol .plus, .string "d", .symbol .star, .identifier "e"]

/-- A chain with an operator of every power, the one of two words among them. -/
def mixedTokens : List Token :=
  mixedWords.zipIdx.map fun (kind, i) => ⟨kind, ⟨1, i + 1, i⟩, ⟨1, i + 2, i + 1⟩⟩

/-- The operands and operators of `a or b and 1 not in c + "d" * e`. -/
def mixedChain : Chain :=
  ⟨.name ⟨1, 1, 0⟩ "a", [⟨⟨1, 2, 1⟩, .or, .name ⟨1, 3, 2⟩ "b"⟩,
    ⟨⟨1, 4, 3⟩, .and, .literal ⟨1, 5, 4⟩ (.int 1)⟩, ⟨⟨1, 6, 5⟩, .notIn, .name ⟨1, 8, 7⟩ "c"⟩,
    ⟨⟨1, 9, 8⟩, .add, .literal ⟨1, 10, 9⟩ (.string "d")⟩,
    ⟨⟨1, 11, 10⟩, .mul, .name ⟨1, 12, 11⟩ "e"⟩]⟩

theorem mixedChain_spelling : mixedChain.Spelling mixedTokens :=
  .mk rfl (.one rfl rfl (.one rfl rfl (.two rfl rfl (.one rfl rfl (.one rfl rfl .nil)))))

theorem endsChain_nil : EndsChain [] :=
  ⟨rfl, rfl, rfl, nofun⟩

theorem test_reads_mixedChain :
    mixedChain.Spelling mixedTokens ∧ EndsChain [] ∧ 0 + mixedChain.links.length < maxNesting ∧
      2 * mixedChain.links.length + 5 ≤ fuelFor mixedTokens ∧
      ∃ tree, test (fuelFor mixedTokens) ⟨mixedTokens ++ [], .nowhere, 0, 0⟩
          = .ok (tree, ⟨[], .nowhere, 0, 0⟩) ∧
        tree.reading = mixedChain ∧ tree.Ranked ∧
        ∀ other : Expr, other.reading = mixedChain → other.Ranked → other = tree :=
  ⟨mixedChain_spelling, endsChain_nil, by decide, by decide,
    test_reads_chain mixedChain_spelling endsChain_nil (by decide) (by decide)⟩

/-!
## Negation
-/

section Negation

variable {α β : Type} {mark : Token} {tokens rest : List Token} {last : Position}
  {f d fuel : Nat} {power : Power}

theorem exists_of_bind {p : Parser α} {next : α → Parser β} {s s' : ParserState} {y : β}
    (ran : (p >>= next) s = .ok (y, s')) :
    ∃ x s₁, p s = .ok (x, s₁) ∧ next x s₁ = .ok (y, s') := by
  cases first : p s with
  | error e =>
    simp only [bind, StateT.bind, first, Except.bind] at ran
    cases ran
  | ok outcome => exact ⟨outcome.1, outcome.2, rfl, (run_bind first).symm.trans ran⟩

theorem power_of_operatorOf? {k after : TokenKind} {op : BinaryOp} {width : Nat}
    (is : operatorOf? k after = some (op, power, width)) : power = op.power := by
  unfold operatorOf? at is
  cases k with
  | keyword word =>
    cases word with
    | or_ | and_ | in_ =>
      cases is
      rfl
    | not_ =>
      dsimp only at is
      split at is <;> cases is
      rfl
    | _ => cases is
  | symbol mark => cases mark <;> cases is <;> rfl
  | _ => cases is

theorem run_exhausted {s : ParserState} {x : α} {s' : ParserState} : exhausted s ≠ .ok (x, s') := by
  obtain ⟨tokens, last, f, d⟩ := s
  intro ran
  unfold exhausted unexpected at ran
  obtain ⟨_, _, _, ran⟩ := exists_of_bind ran
  obtain ⟨_, _, _, ran⟩ := exists_of_bind ran
  cases ran

/-- Behind an operator expression stands no operator that binds tightly enough to go on with it. -/
theorem stops_of_binaryRest {left e : Expr} {s s' : ParserState}
    (ran : binaryRest fuel power left s = .ok (e, s')) {op : BinaryOp} {opPower : Power}
    {width : Nat}
    (is : operatorOf? (nextKind s'.tokens) (nextKind s'.tokens.tail) = some (op, opPower, width)) :
    opPower < power := by
  induction fuel generalizing left s with
  | zero => exact absurd ran run_exhausted
  | succ fuel ih =>
    obtain ⟨tokens, last, f, d⟩ := s
    unfold binaryRest at ran
    rw [run_bind run_operator?] at ran
    cases found : operatorOf? (nextKind tokens) (nextKind tokens.tail) with
    | none =>
      rw [found] at ran
      cases ran
      rw [found] at is
      cases is
    | some operator =>
      obtain ⟨op', opPower', width'⟩ := operator
      rw [found] at ran
      dsimp only at ran
      split at ran
      · cases ran
        rw [found] at is
        cases is
        assumption
      · obtain ⟨_, _, _, ran⟩ := exists_of_bind ran
        obtain ⟨_, _, _, ran⟩ := exists_of_bind ran
        split at ran
        · obtain ⟨_, _, _, ran⟩ := exists_of_bind ran
          obtain ⟨_, _, _, ran⟩ := exists_of_bind ran
          obtain ⟨_, _, _, ran⟩ := exists_of_bind ran
          exact ih ran
        · obtain ⟨_, _, _, ran⟩ := exists_of_bind ran
          obtain ⟨_, _, _, ran⟩ := exists_of_bind ran
          exact ih ran

theorem stops_of_binary {e : Expr} {s s' : ParserState} (ran : binary fuel power s = .ok (e, s'))
    {op : BinaryOp} {opPower : Power} {width : Nat}
    (is : operatorOf? (nextKind s'.tokens) (nextKind s'.tokens.tail) = some (op, opPower, width)) :
    opPower < power := by
  cases fuel with
  | zero => exact absurd ran run_exhausted
  | succ fuel =>
    unfold binary at ran
    obtain ⟨notNext, s₁, _, ran⟩ := exists_of_bind ran
    have rest {left : Expr} {s : ParserState} (ran : (do
        let outer ← depth
        let value ← binaryRest fuel power left
        restoreDepth outer
        return value) s = .ok (e, s')) : opPower < power := by
      obtain ⟨_, _, _, ran⟩ := exists_of_bind ran
      obtain ⟨value, s₂, reads, ran⟩ := exists_of_bind ran
      cases ran
      exact stops_of_binaryRest reads is
    split at ran
    · obtain ⟨_, _, _, ran⟩ := exists_of_bind ran
      obtain ⟨_, _, _, ran⟩ := exists_of_bind ran
      obtain ⟨_, _, _, ran⟩ := exists_of_bind ran
      exact rest ran
    · obtain ⟨_, _, _, ran⟩ := exists_of_bind ran
      exact rest ran

theorem isKeyword_of_not (isNot : mark.kind = .keyword .not_) :
    (nextKind (mark :: tokens)).isKeyword .not_ = true := by
  rw [show nextKind (mark :: tokens) = mark.kind from rfl, isNot]
  rfl

/-- Where an operand of `or` or `and` may stand, a `not` takes the comparison behind it, and is the
left operand of what follows. -/
theorem binary_of_not (isNot : mark.kind = .keyword .not_) (loose : power ≤ notPower)
    (room : d < maxNesting) {e : Expr} {s' : ParserState}
    (ran : binary fuel comparePower ⟨tokens, last, f, d + 1⟩ = .ok (e, s')) :
    binary (fuel + 1) power ⟨mark :: tokens, last, f, d⟩ = (do
      let value ← binaryRest fuel power (.unary mark.start .not e)
      restoreDepth (s'.depth - 1)
      return value) { s' with depth := s'.depth - 1 } := by
  unfold binary
  refine (run_bind run_atKeyword).trans ?_
  rw [isKeyword_of_not isNot]
  simp only [Bool.true_and, loose, decide_true, if_true]
  refine (run_bind rfl).trans ((run_bind rfl).trans ?_)
  exact (run_bind (run_nested room ran)).trans (run_bind rfl)

/-- An operand of `and` may be a negated comparison. -/
theorem binary_reads_not (isNot : mark.kind = .keyword .not_) (room : d < maxNesting) {e : Expr}
    {s' : ParserState} (ran : binary fuel comparePower ⟨tokens, last, f, d + 1⟩ = .ok (e, s')) :
    binary (fuel + 1) notPower ⟨mark :: tokens, last, f, d⟩
      = .ok (.unary mark.start .not e, { s' with depth := s'.depth - 1 }) := by
  refine (binary_of_not isNot (Nat.le_refl _) room ran).trans ?_
  have stops := @stops_of_binary fuel comparePower e _ _ ran
  obtain ⟨fuel, rfl⟩ : ∃ n, fuel = n + 1 := by
    cases fuel with
    | zero => exact absurd ran run_exhausted
    | succ fuel => exact ⟨fuel, rfl⟩
  obtain ⟨tokens', last', f', d'⟩ := s'
  have alone : binaryRest (fuel + 1) notPower (.unary mark.start .not e)
      ⟨tokens', last', f', d' - 1⟩
        = .ok (.unary mark.start .not e, ⟨tokens', last', f', d' - 1⟩) := by
    unfold binaryRest
    refine (run_bind run_operator?).trans ?_
    cases found : operatorOf? (nextKind tokens') (nextKind tokens'.tail) with
    | none => rfl
    | some operator =>
      obtain ⟨op, opPower, width⟩ := operator
      have below : opPower < notPower := by
        -- no operator has the power of `not`: one looser than comparisons is looser than `not`
        have looser := stops found
        rw [power_of_operatorOf? found] at looser ⊢
        revert looser
        cases op <;> decide
      dsimp only
      rw [if_pos below]
      rfl
  exact (run_bind alone).trans (run_bind rfl)

/-- Behind a `not` an operator expression of the level of comparisons cannot begin with another
`not`. -/
theorem unary_refuses_not (isNot : mark.kind = .keyword .not_) :
    unary fuel ⟨mark :: tokens, last, f, d⟩
      = .error ⟨"expected expression, got 'not'", mark.start⟩ := by
  obtain ⟨k, start, stop⟩ := mark
  cases isNot
  match fuel with
  | 0 => rfl
  | 1 => rfl
  | 2 => rfl
  | fuel + 3 => rfl

theorem run_bind_error {p : Parser α} {next : α → Parser β} {s : ParserState} {e : ParseError}
    (refuses : p s = .error e) : (p >>= next) s = .error e := by
  simp only [bind, StateT.bind, refuses, Except.bind]

theorem run_nested_error {p : Parser α} {e : ParseError} (room : d < maxNesting)
    (refuses : p ⟨tokens, last, f, d + 1⟩ = .error e) :
    nested p ⟨tokens, last, f, d⟩ = .error e :=
  (run_bind (run_enter room)).trans (run_bind_error refuses)

variable {second : Token}

/-- Where a `not` may stand, a second one behind it is refused. -/
theorem binary_refuses_not_not (isNot : mark.kind = .keyword .not_)
    (isNot' : second.kind = .keyword .not_) (loose : power ≤ notPower) (room : d < maxNesting) :
    binary (fuel + 1) power ⟨mark :: second :: tokens, last, f, d⟩
      = .error ⟨"expected expression, got 'not'", second.start⟩ := by
  have operand : binary fuel comparePower ⟨second :: tokens, last, f, d + 1⟩
      = .error ⟨"expected expression, got 'not'", second.start⟩ := by
    cases fuel with
    | zero => exact @unary_refuses_not second tokens last f (d + 1) 0 isNot'
    | succ fuel =>
      unfold binary
      refine (run_bind run_atKeyword).trans ?_
      rw [show (decide (comparePower ≤ notPower)) = false from rfl, Bool.and_false]
      exact run_bind_error (unary_refuses_not isNot')
  unfold binary
  refine (run_bind run_atKeyword).trans ?_
  rw [isKeyword_of_not isNot]
  simp only [Bool.true_and, loose, decide_true, if_true]
  refine (run_bind rfl).trans ((run_bind rfl).trans ?_)
  exact run_bind_error (run_nested_error room operand)

/-- No expression begins with two or more `not`s. -/
theorem test_refuses_not_not (isNot : mark.kind = .keyword .not_)
    (isNot' : second.kind = .keyword .not_) (room : d + 1 < maxNesting) :
    test (fuel + 2) ⟨mark :: second :: tokens, last, f, d⟩
      = .error ⟨"expected expression, got 'not'", second.start⟩ := by
  have level : d < maxNesting := Nat.lt_of_succ_lt room
  unfold test
  refine run_nested_error level ((run_bind run_atKeyword).trans ?_)
  rw [show (nextKind (mark :: second :: tokens)).isKeyword .lambda = false by
    rw [show nextKind (mark :: second :: tokens) = mark.kind from rfl, isNot]
    rfl]
  refine (run_bind rfl).trans (run_bind_error ?_)
  exact binary_refuses_not_not isNot isNot' (by decide) room

end Negation

end Parser

end PixelApplet
