import PixelApplet.Proofs.Script.Rendering
import PixelApplet.Script.Tree

/-!
# Where statements and parameters stand

A return statement stands inside a function, a load statement outside of all functions, and the
parameters of a function are arranged: their names differ, and those without a default come first.
A loop may be left from anywhere: no rule says where `break` and `continue` stand.
-/

/-!
## Load statements

The rule for a tree is that none stands in the body of a function in it; whether one may stand in a
statement itself depends on where the statement is.
-/

namespace PixelApplet

mutual

/-- No load statement stands in a function inside an expression. -/
@[simp]
def Expr.LoadsOutside : Expr → Prop
  | .literal _ _ | .name _ _ => True
  | .list _ items | .tuple _ items => Expr.LoadsOutsideAll items
  | .dict _ entries => Expr.LoadsOutsideEntries entries
  | .listComp _ element clauses => element.LoadsOutside ∧ Clause.LoadsOutsideAll clauses
  | .dictComp _ key value clauses =>
    key.LoadsOutside ∧ value.LoadsOutside ∧ Clause.LoadsOutsideAll clauses
  | .unary _ _ operand => operand.LoadsOutside
  | .binary _ _ left right => left.LoadsOutside ∧ right.LoadsOutside
  | .conditional _ test thenValue elseValue =>
    test.LoadsOutside ∧ thenValue.LoadsOutside ∧ elseValue.LoadsOutside
  | .lambda _ function => function.LoadsOutside
  | .call _ callee arguments => callee.LoadsOutside ∧ Argument.LoadsOutsideAll arguments
  | .attribute _ object _ => object.LoadsOutside
  | .index _ object key => object.LoadsOutside ∧ key.LoadsOutside
  | .slice _ object start stop step =>
    object.LoadsOutside ∧ Expr.LoadsOutsideOption start ∧ Expr.LoadsOutsideOption stop
      ∧ Expr.LoadsOutsideOption step

/-- The rule for several expressions. -/
@[simp]
def Expr.LoadsOutsideAll : List Expr → Prop
  | [] => True
  | e :: rest => e.LoadsOutside ∧ Expr.LoadsOutsideAll rest

/-- The rule for the entries of a dict. -/
@[simp]
def Expr.LoadsOutsideEntries : List (Expr × Expr) → Prop
  | [] => True
  | (key, value) :: rest =>
    key.LoadsOutside ∧ value.LoadsOutside ∧ Expr.LoadsOutsideEntries rest

/-- The rule for an expression that may be missing. -/
@[simp]
def Expr.LoadsOutsideOption : Option Expr → Prop
  | none => True
  | some e => e.LoadsOutside

/-- The rule for clauses. -/
@[simp]
def Clause.LoadsOutsideAll : List Clause → Prop
  | [] => True
  | .for_ target iterable :: rest =>
    target.LoadsOutside ∧ iterable.LoadsOutside ∧ Clause.LoadsOutsideAll rest
  | .if_ test :: rest => test.LoadsOutside ∧ Clause.LoadsOutsideAll rest

/-- The rule for arguments. -/
@[simp]
def Argument.LoadsOutsideAll : List Argument → Prop
  | [] => True
  | .positional e :: rest | .named _ e :: rest | .spread e :: rest | .spreadNamed e :: rest =>
    e.LoadsOutside ∧ Argument.LoadsOutsideAll rest

/-- The rule for how a parameter takes its argument. -/
@[simp]
def ParamKind.LoadsOutside : ParamKind → Prop
  | .optional e => e.LoadsOutside
  | .required | .rest | .restNamed => True

/-- The rule for parameters. -/
@[simp]
def Param.LoadsOutsideAll : List Param → Prop
  | [] => True
  | .mk _ _ kind :: rest => kind.LoadsOutside ∧ Param.LoadsOutsideAll rest

/-- No load statement stands in a function. -/
@[simp]
def FunctionDecl.LoadsOutside : FunctionDecl → Prop
  | .mk _ _ params body => Param.LoadsOutsideAll params ∧ Stmt.LoadsOutsideAll false body

/-- The rule for a statement, which stands outside of all functions or inside one. -/
@[simp]
def Stmt.LoadsOutside (outside : Bool) : Stmt → Prop
  | .expr _ value => value.LoadsOutside
  | .assign _ target value | .augAssign _ target _ value =>
    target.LoadsOutside ∧ value.LoadsOutside
  | .define _ function => function.LoadsOutside
  | .return_ _ value => Expr.LoadsOutsideOption value
  | .if_ _ test thenBlock elseBlock =>
    test.LoadsOutside ∧ Stmt.LoadsOutsideAll outside thenBlock
      ∧ Stmt.LoadsOutsideAll outside elseBlock
  | .for_ _ target iterable body =>
    target.LoadsOutside ∧ iterable.LoadsOutside ∧ Stmt.LoadsOutsideAll outside body
  | .break_ _ | .continue_ _ | .pass _ => True
  | .load _ _ _ => outside = true

/-- The rule for several statements. -/
@[simp]
def Stmt.LoadsOutsideAll (outside : Bool) : List Stmt → Prop
  | [] => True
  | s :: rest => s.LoadsOutside outside ∧ Stmt.LoadsOutsideAll outside rest

end

theorem FunctionDecl.LoadsOutside.body {decl : FunctionDecl} (placed : decl.LoadsOutside) :
    Stmt.LoadsOutsideAll false decl.body := by
  cases decl with
  | mk name pos params body =>
    rw [FunctionDecl.LoadsOutside] at placed
    exact placed.2

end PixelApplet

/-! ## All rules -/

namespace PixelApplet

mutual

/-- The rules for the functions inside an expression. -/
@[simp]
def Expr.Placed : Expr → Prop
  | .literal _ _ | .name _ _ => True
  | .list _ items | .tuple _ items => Expr.PlacedAll items
  | .dict _ entries => Expr.PlacedEntries entries
  | .listComp _ element clauses => element.Placed ∧ Clause.PlacedAll clauses
  | .dictComp _ key value clauses => key.Placed ∧ value.Placed ∧ Clause.PlacedAll clauses
  | .unary _ _ operand => operand.Placed
  | .binary _ _ left right => left.Placed ∧ right.Placed
  | .conditional _ test thenValue elseValue => test.Placed ∧ thenValue.Placed ∧ elseValue.Placed
  | .lambda _ function => function.Placed
  | .call _ callee arguments => callee.Placed ∧ Argument.PlacedAll arguments
  | .attribute _ object _ => object.Placed
  | .index _ object key => object.Placed ∧ key.Placed
  | .slice _ object start stop step =>
    object.Placed ∧ Expr.PlacedOption start ∧ Expr.PlacedOption stop ∧ Expr.PlacedOption step

/-- The rules for several expressions. -/
@[simp]
def Expr.PlacedAll : List Expr → Prop
  | [] => True
  | e :: rest => e.Placed ∧ Expr.PlacedAll rest

/-- The rules for the entries of a dict. -/
@[simp]
def Expr.PlacedEntries : List (Expr × Expr) → Prop
  | [] => True
  | (key, value) :: rest => key.Placed ∧ value.Placed ∧ Expr.PlacedEntries rest

/-- The rules for an expression that may be missing. -/
@[simp]
def Expr.PlacedOption : Option Expr → Prop
  | none => True
  | some e => e.Placed

/-- The rules for clauses. -/
@[simp]
def Clause.PlacedAll : List Clause → Prop
  | [] => True
  | .for_ target iterable :: rest => target.Placed ∧ iterable.Placed ∧ Clause.PlacedAll rest
  | .if_ test :: rest => test.Placed ∧ Clause.PlacedAll rest

/-- The rules for arguments. -/
@[simp]
def Argument.PlacedAll : List Argument → Prop
  | [] => True
  | .positional e :: rest | .named _ e :: rest | .spread e :: rest | .spreadNamed e :: rest =>
    e.Placed ∧ Argument.PlacedAll rest

/-- The rules for the default of a parameter. -/
@[simp]
def ParamKind.Placed : ParamKind → Prop
  | .optional e => e.Placed
  | .required | .rest | .restNamed => True

/-- The rules for the defaults of parameters. -/
@[simp]
def Param.PlacedAll : List Param → Prop
  | [] => True
  | .mk _ _ kind :: rest => kind.Placed ∧ Param.PlacedAll rest

/-- The rules for a function. -/
@[simp]
def FunctionDecl.Placed : FunctionDecl → Prop
  | .mk _ _ params body =>
    Param.Arranged params ∧ Param.PlacedAll params ∧ Stmt.PlacedAll true body

/-- The rules for a statement, which stands inside a function or outside of all. -/
@[simp]
def Stmt.Placed (inFunction : Bool) : Stmt → Prop
  | .expr _ value => value.Placed
  | .assign _ target value | .augAssign _ target _ value => target.Placed ∧ value.Placed
  | .define _ function => function.Placed
  | .return_ _ value => inFunction = true ∧ Expr.PlacedOption value
  | .if_ _ test thenBlock elseBlock =>
    test.Placed ∧ Stmt.PlacedAll inFunction thenBlock ∧ Stmt.PlacedAll inFunction elseBlock
  | .for_ _ target iterable body =>
    target.Placed ∧ iterable.Placed ∧ Stmt.PlacedAll inFunction body
  | .break_ _ | .continue_ _ | .pass _ => True
  | .load _ _ _ => inFunction = false

/-- The rules for several statements. -/
@[simp]
def Stmt.PlacedAll (inFunction : Bool) : List Stmt → Prop
  | [] => True
  | s :: rest => s.Placed inFunction ∧ Stmt.PlacedAll inFunction rest

end

theorem Stmt.placedAll_iff {inFunction : Bool} {block : List Stmt} :
    Stmt.PlacedAll inFunction block ↔ ∀ s ∈ block, s.Placed inFunction := by
  induction block with
  | nil => simp [Stmt.PlacedAll]
  | cons s rest ih => simp [Stmt.PlacedAll, ih]

mutual

/-- Where load statements stand is among the rules. -/
theorem Expr.Placed.loadsOutside : {e : Expr} → e.Placed → e.LoadsOutside
  | .literal _ _, _ | .name _ _, _ => by rw [Expr.LoadsOutside]; trivial
  | .list _ _, placed | .tuple _ _, placed => by
    rw [Expr.LoadsOutside]
    exact Expr.PlacedAll.loadsOutside placed
  | .dict _ _, placed => by
    rw [Expr.LoadsOutside]
    exact Expr.PlacedEntries.loadsOutside placed
  | .listComp _ _ _, placed => by
    rw [Expr.LoadsOutside]
    exact ⟨Expr.Placed.loadsOutside placed.1, Clause.PlacedAll.loadsOutside placed.2⟩
  | .dictComp _ _ _ _, placed => by
    rw [Expr.LoadsOutside]
    exact ⟨Expr.Placed.loadsOutside placed.1, Expr.Placed.loadsOutside placed.2.1,
      Clause.PlacedAll.loadsOutside placed.2.2⟩
  | .unary _ _ _, placed | .attribute _ _ _, placed => by
    rw [Expr.LoadsOutside]
    exact Expr.Placed.loadsOutside placed
  | .binary _ _ _ _, placed | .index _ _ _, placed => by
    rw [Expr.LoadsOutside]
    exact ⟨Expr.Placed.loadsOutside placed.1, Expr.Placed.loadsOutside placed.2⟩
  | .conditional _ _ _ _, placed => by
    rw [Expr.LoadsOutside]
    exact ⟨Expr.Placed.loadsOutside placed.1, Expr.Placed.loadsOutside placed.2.1,
      Expr.Placed.loadsOutside placed.2.2⟩
  | .lambda _ _, placed => by
    rw [Expr.LoadsOutside]
    exact FunctionDecl.Placed.loadsOutside placed
  | .call _ _ _, placed => by
    rw [Expr.LoadsOutside]
    exact ⟨Expr.Placed.loadsOutside placed.1, Argument.PlacedAll.loadsOutside placed.2⟩
  | .slice _ _ _ _ _, placed => by
    rw [Expr.LoadsOutside]
    exact ⟨Expr.Placed.loadsOutside placed.1, Expr.PlacedOption.loadsOutside placed.2.1,
      Expr.PlacedOption.loadsOutside placed.2.2.1, Expr.PlacedOption.loadsOutside placed.2.2.2⟩

theorem Expr.PlacedAll.loadsOutside :
    {items : List Expr} → Expr.PlacedAll items → Expr.LoadsOutsideAll items
  | [], _ => by rw [Expr.LoadsOutsideAll]; trivial
  | _ :: _, placed => by
    rw [Expr.LoadsOutsideAll]
    exact ⟨Expr.Placed.loadsOutside placed.1, Expr.PlacedAll.loadsOutside placed.2⟩

theorem Expr.PlacedEntries.loadsOutside :
    {entries : List (Expr × Expr)} → Expr.PlacedEntries entries →
      Expr.LoadsOutsideEntries entries
  | [], _ => by rw [Expr.LoadsOutsideEntries]; trivial
  | (_, _) :: _, placed => by
    rw [Expr.LoadsOutsideEntries]
    exact ⟨Expr.Placed.loadsOutside placed.1, Expr.Placed.loadsOutside placed.2.1,
      Expr.PlacedEntries.loadsOutside placed.2.2⟩

theorem Expr.PlacedOption.loadsOutside :
    {e : Option Expr} → Expr.PlacedOption e → Expr.LoadsOutsideOption e
  | none, _ => by rw [Expr.LoadsOutsideOption]; trivial
  | some _, placed => by
    rw [Expr.LoadsOutsideOption]
    exact Expr.Placed.loadsOutside placed

theorem Clause.PlacedAll.loadsOutside :
    {clauses : List Clause} → Clause.PlacedAll clauses → Clause.LoadsOutsideAll clauses
  | [], _ => by rw [Clause.LoadsOutsideAll]; trivial
  | .for_ _ _ :: _, placed => by
    rw [Clause.LoadsOutsideAll]
    exact ⟨Expr.Placed.loadsOutside placed.1, Expr.Placed.loadsOutside placed.2.1,
      Clause.PlacedAll.loadsOutside placed.2.2⟩
  | .if_ _ :: _, placed => by
    rw [Clause.LoadsOutsideAll]
    exact ⟨Expr.Placed.loadsOutside placed.1, Clause.PlacedAll.loadsOutside placed.2⟩

theorem Argument.PlacedAll.loadsOutside :
    {arguments : List Argument} → Argument.PlacedAll arguments →
      Argument.LoadsOutsideAll arguments
  | [], _ => by rw [Argument.LoadsOutsideAll]; trivial
  | .positional _ :: _, placed | .named _ _ :: _, placed | .spread _ :: _, placed
  | .spreadNamed _ :: _, placed => by
    rw [Argument.LoadsOutsideAll]
    exact ⟨Expr.Placed.loadsOutside placed.1, Argument.PlacedAll.loadsOutside placed.2⟩

theorem ParamKind.Placed.loadsOutside : {kind : ParamKind} → kind.Placed → kind.LoadsOutside
  | .optional _, placed => by
    rw [ParamKind.LoadsOutside]
    exact Expr.Placed.loadsOutside placed
  | .required, _ | .rest, _ | .restNamed, _ => by rw [ParamKind.LoadsOutside]; trivial

theorem Param.PlacedAll.loadsOutside :
    {params : List Param} → Param.PlacedAll params → Param.LoadsOutsideAll params
  | [], _ => by rw [Param.LoadsOutsideAll]; trivial
  | .mk _ _ _ :: _, placed => by
    rw [Param.LoadsOutsideAll]
    exact ⟨ParamKind.Placed.loadsOutside placed.1, Param.PlacedAll.loadsOutside placed.2⟩

theorem FunctionDecl.Placed.loadsOutside :
    {decl : FunctionDecl} → decl.Placed → decl.LoadsOutside
  | .mk _ _ _ _, placed => by
    rw [FunctionDecl.LoadsOutside]
    exact ⟨Param.PlacedAll.loadsOutside placed.2.1, Stmt.PlacedAll.loadsOutside placed.2.2⟩

theorem Stmt.Placed.loadsOutside :
    {inFunction : Bool} → {s : Stmt} → s.Placed inFunction → s.LoadsOutside (!inFunction)
  | _, .expr _ _, placed => by
    rw [Stmt.LoadsOutside]
    exact Expr.Placed.loadsOutside placed
  | _, .assign _ _ _, placed | _, .augAssign _ _ _ _, placed => by
    rw [Stmt.LoadsOutside]
    exact ⟨Expr.Placed.loadsOutside placed.1, Expr.Placed.loadsOutside placed.2⟩
  | _, .define _ _, placed => by
    rw [Stmt.LoadsOutside]
    exact FunctionDecl.Placed.loadsOutside placed
  | _, .return_ _ _, placed => by
    rw [Stmt.LoadsOutside]
    exact Expr.PlacedOption.loadsOutside placed.2
  | _, .if_ _ _ _ _, placed => by
    rw [Stmt.LoadsOutside]
    exact ⟨Expr.Placed.loadsOutside placed.1, Stmt.PlacedAll.loadsOutside placed.2.1,
      Stmt.PlacedAll.loadsOutside placed.2.2⟩
  | _, .for_ _ _ _ _, placed => by
    rw [Stmt.LoadsOutside]
    exact ⟨Expr.Placed.loadsOutside placed.1, Expr.Placed.loadsOutside placed.2.1,
      Stmt.PlacedAll.loadsOutside placed.2.2⟩
  | _, .break_ _, _ | _, .continue_ _, _ | _, .pass _, _ => by rw [Stmt.LoadsOutside]; trivial
  | _, .load _ _ _, outside => by
    rw [Stmt.LoadsOutside, show _ = false from outside]
    rfl

theorem Stmt.PlacedAll.loadsOutside :
    {inFunction : Bool} → {block : List Stmt} → Stmt.PlacedAll inFunction block →
      Stmt.LoadsOutsideAll (!inFunction) block
  | _, [], _ => by rw [Stmt.LoadsOutsideAll]; trivial
  | _, _ :: _, placed => by
    rw [Stmt.LoadsOutsideAll]
    exact ⟨Stmt.Placed.loadsOutside placed.1, Stmt.PlacedAll.loadsOutside placed.2⟩

end

end PixelApplet
