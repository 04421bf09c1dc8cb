import TemplateServer.Template.Expr
import TemplateServer.Template.Filter

/-!
# Calculations in templates

Numbers are whole, of 64 bits, or have a point. Two whole numbers give a whole one, which has to
fit; a quotient is whole if it can be; and a result that is not finite is no number.
-/

namespace TemplateServer.Template

/-- What an evaluation answers, or why it fails. -/
abbrev Result (α : Type) := Except String α

inductive Number
  | int (n : Int)
  | float (x : Float)

namespace Number

def toValue : Number → Value
  | int n => .int n
  | float x => .float x

def toFloat : Number → Float
  | int n => .ofInt n
  | float x => x

/-- The number that a value is. -/
def ofValue? : Value → Option Number
  | .int n => some (int n)
  | .float x => some (float x)
  | _ => none

/-- A result that is a number. -/
def finite? (x : Float) : Option Number := if x.isFinite then some (float x) else none

/-- A whole result has to fit into 64 bits. -/
def whole (sign : String) (m n r : Int) : Result (Option Number) :=
  if Filter.fits r then .ok (some (int r))
  else .error s!"{m} {sign} {n} results in an out of bounds i64"

/-- The remainder of a division toward zero, computed exactly. -/
def remainder (x y : Float) : Option Number :=
  match Decimal.Double.ofBits x.toBits, Decimal.Double.ofBits y.toBits with
  | .zero _, .finite .. => some (float x)
  | .finite negative a, .finite _ b =>
    let e := min a.exponent b.exponent
    let m := a.mantissa * Nat.pow 2 (a.exponent - e).toNat
      % (b.mantissa * Nat.pow 2 (b.exponent - e).toNat)
    let r := Float.scaleB (Float.ofNat m) e
    some (float (if negative then -r else r))
  | _, _ => none

/-- A quotient, whole if it can be. -/
def quotient (x y : Float) : Option Number :=
  let r := x / y
  if r.isNaN then none
  else if r.isFinite && r.round == r then some (int r.toInt64.toInt)
  else finite? r

/-- A calculation. Its result may be no number. -/
def calculate : MathOp → Number → Number → Result (Option Number)
  | .add, int m, int n => whole "+" m n (m + n)
  | .sub, int m, int n => whole "-" m n (m - n)
  | .mul, int m, int n => whole "x" m n (m * n)
  | .mod, int m, int n =>
    if n = 0 then .error s!"Tried to do a modulo by zero: {m}/{n}"
    else .ok (some (int (Int.tmod m n)))
  | .add, x, y => .ok (finite? (x.toFloat + y.toFloat))
  | .sub, x, y => .ok (finite? (x.toFloat - y.toFloat))
  | .mul, x, y => .ok (finite? (x.toFloat * y.toFloat))
  | .div, x, y => .ok (quotient x.toFloat y.toFloat)
  | .mod, x, y => .ok (remainder x.toFloat y.toFloat)

end Number

end TemplateServer.Template
