import TemplateServer.Template.Path

/-!
# Expressions of templates

What may stand between the braces of a template: paths into the values that a template sees,
literals, calculations and conditions, each followed by the filters that it passes through.
-/

namespace TemplateServer.Template

inductive MathOp
  | add
  | sub
  | mul
  | div
  | mod
deriving DecidableEq, Repr

inductive LogicOp
  | or
  | and
  | eq
  | ne
  | lt
  | le
  | gt
  | ge
deriving DecidableEq, Repr

mutual

/-- An expression: what it starts from, whether it is negated, and the filters. -/
inductive Expr
  | mk (operand : Operand) (negated : Bool) (filters : List Call)

/-- What an expression starts from. -/
inductive Operand
  | path (p : Path)
  | text (s : String)
  | int (n : Int)
  | float (x : Float)
  | bool (b : Bool)
  /-- Texts and numbers one after the other. -/
  | concat (items : List Operand)
  | call (c : Call)
  | list (items : List Expr)
  | math (op : MathOp) (left right : Expr)
  | logic (op : LogicOp) (left right : Expr)
  /-- Whether a value is in another one. -/
  | member (negated : Bool) (left right : Expr)

/-- A filter or a function with its named arguments. -/
inductive Call
  | mk (name : String) (args : List (String × Expr))

end

namespace Call

def name : Call → String
  | mk name _ => name

def args : Call → List (String × Expr)
  | mk _ args => args

end Call

namespace Expr

def operand : Expr → Operand
  | mk operand _ _ => operand

def filters : Expr → List Call
  | mk _ _ filters => filters

/-- An expression without filters. -/
def plain (operand : Operand) : Expr := mk operand false []

/-- The same expression, negated or not, whatever it was before. -/
def withNegation (negated : Bool) : Expr → Expr
  | mk operand _ filters => mk operand negated filters

end Expr

mutual

/-- The whole numbers that are written in an expression. -/
def Expr.integers : Expr → List Int
  | .mk operand _ filters => operand.integers ++ Call.integersOf filters

def Operand.integers : Operand → List Int
  | .int n => [n]
  | .concat items => Operand.integersOf items
  | .call c => c.integers
  | .list items => Expr.integersOf items
  | .math _ l r | .logic _ l r | .member _ l r => l.integers ++ r.integers
  | .path _ | .text _ | .float _ | .bool _ => []

def Operand.integersOf : List Operand → List Int
  | [] => []
  | o :: os => o.integers ++ Operand.integersOf os

def Expr.integersOf : List Expr → List Int
  | [] => []
  | e :: es => e.integers ++ Expr.integersOf es

def Call.integers : Call → List Int
  | .mk _ args => Call.integersOfArgs args

def Call.integersOfArgs : List (String × Expr) → List Int
  | [] => []
  | (_, e) :: args => e.integers ++ Call.integersOfArgs args

def Call.integersOf : List Call → List Int
  | [] => []
  | c :: cs => c.integers ++ Call.integersOf cs

end

end TemplateServer.Template
