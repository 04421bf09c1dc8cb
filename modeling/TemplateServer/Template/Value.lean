import TemplateServer.Decimal.Shortest
import TemplateServer.RenderContext
import TemplateServer.Text.Json

/-!
# Values in templates

What the expressions of a template stand for, how such a value is written into a page, and when it
counts as true.
-/

namespace TemplateServer.Template

/-- A value. The members of an object stand in the order of their keys. -/
inductive Value
  | null
  | bool (b : Bool)
  | int (n : Int)
  | float (x : Float)
  | text (s : String)
  | list (items : List Value)
  | object (members : List (String × Value))

/-- A finite number without exponent, and without a point if it is whole. Of two equally near texts
the greater one is written. -/
def floatText (x : Float) : String :=
  match Decimal.Double.ofBits x.toBits with
  | .zero negative => if negative then "-0" else "0"
  | .finite negative b =>
    (if negative then "-" else "") ++ String.ofList (Decimal.shortest .greater b).positional
  | .infinite negative => if negative then "-inf" else "inf"
  | .nan => "NaN"

/-- How a number with a point is written so that it reads back as one. -/
structure FloatStyle where
  /-- Which of two equally near texts is written. -/
  tie : Decimal.Tie
  /-- The least and the greatest exponent of the first digit for which no exponent is written. -/
  least : Int
  greatest : Int
  /-- An exponent that is not negative has a plus sign. -/
  plusSign : Bool
deriving DecidableEq, Repr

/-- JSON has an exponent for numbers that are very small or very large. -/
def FloatStyle.json : FloatStyle := ⟨.even, -5, 15, true⟩

/-- Messages about expressions have an exponent for somewhat more numbers. -/
def FloatStyle.message : FloatStyle := ⟨.greater, -4, 15, false⟩

/-- A finite number with a point or an exponent. -/
def FloatStyle.write (style : FloatStyle) (x : Float) : String :=
  match Decimal.Double.ofBits x.toBits with
  | .zero negative => if negative then "-0.0" else "0.0"
  | .finite negative b =>
    let d := Decimal.shortest style.tie b
    let written :=
      if style.least ≤ d.leading && d.leading ≤ style.greatest then
        d.positional ++ (if 0 ≤ d.exponent then ['.', '0'] else [])
      else d.scientific style.plusSign
    (if negative then "-" else "") ++ String.ofList written
  | .infinite _ | .nan => "null"

namespace Value

/-- Whether a value counts as true: all values do but null, false, zero and what is empty. -/
def isTruthy : Value → Bool
  | null => false
  | bool b => b
  | int n => n != 0
  | float x => x != 0.0 && !x.isNaN
  | text s => !s.isEmpty
  | list items => !items.isEmpty
  | object members => !members.isEmpty

mutual

/-- A value as it is written into a page. -/
def render : Value → String
  | null => ""
  | bool b => if b then "true" else "false"
  | int n => toString n
  | float x => floatText x
  | text s => s
  | list items => "[" ++ ", ".intercalate (renderItems items) ++ "]"
  | object _ => "[object]"

def renderItems : List Value → List String
  | [] => []
  | v :: vs => render v :: renderItems vs

end

mutual

def toJson : Value → Text.Json
  | null => .null
  | bool b => .bool b
  | int n => .number (toString n)
  | float x => .number (FloatStyle.json.write x)
  | text s => .string s
  | list items => .array (toJsonItems items)
  | object members => .object (toJsonMembers members)

def toJsonItems : List Value → List Text.Json
  | [] => []
  | v :: vs => toJson v :: toJsonItems vs

def toJsonMembers : List (String × Value) → List (String × Text.Json)
  | [] => []
  | (k, v) :: rest => (k, toJson v) :: toJsonMembers rest

end

/-- A value as it is quoted in messages. -/
def shown (v : Value) : String := v.toJson.compact

mutual

/-- Whether two values are the same. A whole number is never the same as one with a point. -/
def same : Value → Value → Bool
  | null, null => true
  | bool a, bool b => a == b
  | int a, int b => a == b
  | float a, float b => a == b
  | text a, text b => a == b
  | list a, list b => sameItems a b
  | object a, object b => sameMembers a b
  | _, _ => false

def sameItems : List Value → List Value → Bool
  | [], [] => true
  | a :: as, b :: bs => same a b && sameItems as bs
  | _, _ => false

def sameMembers : List (String × Value) → List (String × Value) → Bool
  | [], [] => true
  | (k, a) :: as, (l, b) :: bs => k == l && same a b && sameMembers as bs
  | _, _ => false

end

/-- The number that a key writes as an index: digits without a zero in front. -/
def indexOfKey? (key : String) : Option Nat :=
  let ds := key.toList
  if ds.isEmpty || !ds.all Char.isDigit || (ds.head? == some '0' && ds.length != 1) then none
  else some (ds.foldl (fun n d => n * 10 + (d.toNat - 0x30)) 0)

/-- What stands under a key of an object, or at an index of a list. -/
def under? (key : String) : Value → Option Value
  | object members => members.lookup key
  | list items => (indexOfKey? key).bind fun i => items[i]?
  | _ => none

/-- What keys lead to, one after the other. -/
def follow? (v : Value) (keys : List String) : Option Value :=
  keys.foldlM (fun v key => v.under? key) v

/-- A text that may be missing. -/
def ofOption : Option String → Value
  | none => null
  | some s => text s

/-- A dictionary of texts. -/
def ofDict (d : Dict String) : Value := object (d.map fun (k, v) => (k, text v))

/-- What a template sees, by the names of its variables. -/
def ofContext (c : RenderContext) : List (String × Value) :=
  [("attributes", ofDict c.attributes),
    ("error", ofOption c.error),
    ("headers", ofDict c.headers),
    ("params", object (c.params.map fun (k, vs) => (k, list (vs.map text)))),
    ("request", object
      [("identity", text c.identity), ("method", text c.method),
        ("path_info", ofOption c.pathInfo), ("query", ofOption c.query),
        ("servlet_path", text c.servletPath), ("uri", text c.uri)])]

end Value

end TemplateServer.Template
