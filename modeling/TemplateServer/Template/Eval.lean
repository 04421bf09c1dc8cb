import TemplateServer.Template.Number
import TemplateServer.Template.Scope

/-!
# Evaluating expressions

An expression is read in three ways: as a value, as a truth value and as a number. Texts are escaped
at the end of an evaluation for a page of markup, unless the last filter says that they are safe;
inside of arguments, memberships, assignments and loops nothing is escaped.

The evaluation descends along the expression, and each function may call those listed before it on
the same part; the second component of each measure is that order.
-/

namespace TemplateServer.Template

/-- What follows the point in place of an inner path, by its value. -/
def textOfKey? : Value → Option String
  | .text s => some s
  | .int n => some (toString n)
  | .float x => some (FloatStyle.json.write x)
  | _ => none

namespace Path

/-- The message for a value that is no key. -/
def notKey (path inner : List Char) : String :=
  "Only variables evaluating to String or Number can be used as index "
    ++ s!"(\x60{String.ofList inner}\x60 of \x60{String.ofList path}\x60)"

/-- The message for a path with an inner path that leads nowhere. -/
def unevaluated (path : List Char) (reason : String) : String :=
  s!"Variable {String.ofList path} can not be evaluated because: {reason}"

/-- Puts a point and the text of a key in place of the first brackets around an inner path. -/
def withKey (inner : List Char) (key : String) (path : List Char) : List Char :=
  let (before, after) := Text.cutAt ('[' :: inner ++ [']']) path
  before ++ '.' :: key.toList ++ after.getD []

/-- The value at a path. Inner paths come first, at most `depth` of them inside of each other. -/
def valueAt (env : Env) : Nat → List Char → Result Value
  | 0, path => .error (env.missing (String.ofList path))
  | depth + 1, path =>
    if path.contains '[' then
      let evaluated : Result (List Char) := (innerPaths path.length path).foldlM
        (fun written inner =>
          match valueAt env depth inner with
          | .error message => .error (unevaluated path message)
          | .ok v =>
            match textOfKey? v with
            | some key => .ok (withKey inner key written)
            | none => .error (notKey path inner))
        path
      match evaluated with
      | .error message => .error message
      | .ok written =>
        let written := withPoints written
        match env.find? written with
        | some v => .ok v
        | none => .error (env.missing (String.ofList path)
            ++ s!": the evaluated version was \x60{String.ofList written}\x60. "
            ++ "Maybe the index is out of bounds?")
    else
      match env.find? path with
      | some v => .ok v
      | none => .error (env.missing (String.ofList path))

def value (env : Env) (p : Path) : Result Value :=
  let path := p.text.toList
  valueAt env (path.length + 1) path

end Path

/-- The message for a value that texts cannot be joined with. -/
def notJoined (p : Path) : String :=
  s!"Tried to concat a value that is not a string or a number from ident {p.text}"

/-- A value in a row of joined texts. -/
def joinedText? : Value → Option String
  | .text s => some s
  | .int n => some (toString n)
  | .float x => some (FloatStyle.json.write x)
  | _ => none

/-- Whether a value is in another one. -/
def isMember (v container : Value) : Result Bool :=
  match container, v with
  | .list items, v => .ok (items.any (·.same v))
  | .text s, .text t => .ok (Text.suffixFrom? t.toList s.toList).isSome
  | .object members, .text k => .ok (members.any (·.1 == k))
  | .text _, v => .error s!"Tried to check if {v.shown} is in a string, but it isn't a string"
  | .object _, v => .error s!"Tried to check if {v.shown} is in a object, but it isn't a string"
  | _, _ => .error "The \x60in\x60 operator only supports strings, arrays and objects."

/-- Whether two values are equal, unless only one of them is a number. -/
def areEqual? (v w : Value) : Option Bool :=
  match Number.ofValue? v, Number.ofValue? w with
  | some m, some n => some (m.toFloat == n.toFloat)
  | none, none => some (v.same w)
  | _, _ => none

/-- Whether a condition holds, negated or not. A comparison of things that are not compared never
does. -/
def holds (negated : Bool) (condition : Option Bool) : Bool := condition.any (· != negated)

/-- Whether the last filter says that a text is safe. -/
def isMarkedSafe (filters : List Call) : Bool :=
  match filters.getLast? with
  | some f => f.name == "safe"
  | none => false

/-- Whether the first filter says what stands for a missing value. -/
def hasDefault : List Call → Bool
  | f :: _ => f.name == "default"
  | [] => false

/-- A text as it is written into markup; other values are written as they are. -/
def escapeText : Value → Value
  | .text s => Filter.ofChars (Filter.escaped s.toList)
  | v => v

/-- The order of two numbers, neither of which may be missing. -/
def compareNumbers (op : LogicOp) (m n : Option Number) : Result Bool :=
  match m, n with
  | some m, some n =>
    let x := m.toFloat
    let y := n.toFloat
    .ok (match op with
      | .lt => x < y
      | .le => x ≤ y
      | .gt => x > y
      | _ => x ≥ y)
  | _, _ => .error "Comparison to NaN"

/-- The message for a function. There are none. -/
def noFunction (name : String) : String := s!"Function '{name}' not found"

mutual

def evalConcat (env : Env) : List Operand → Result String
  | [] => .ok ""
  | item :: items =>
    let here : Result String :=
      match item with
      | .text s => .ok s
      | .int n => .ok (toString n)
      | .float x => .ok (floatText x)
      | .path p =>
        match p.value env with
        | .error message => .error message
        | .ok v => (joinedText? v).elim (.error (notJoined p)) .ok
      | .call c => .error (noFunction c.name)
      | _ => .ok ""
    match here with
    | .error message => .error message
    | .ok s => (evalConcat env items).map (s ++ ·)

def evalNumber (env : Env) : Operand → Result (Option Number)
  | .path p =>
    match p.value env with
    | .error message => .error message
    | .ok v =>
      match Number.ofValue? v with
      | some n => .ok (some n)
      | none => .error
          s!"Variable \x60{p.text}\x60 was used in a math operation but is not a number"
  | .int n => .ok (some (.int n))
  | .float x => .ok (some (.float x))
  | .math op l r =>
    match evalExprNumber env l, evalExprNumber env r with
    | .error message, _ => .error message
    | .ok _, .error message => .error message
    | .ok (some m), .ok (some n) => m.calculate op n
    | .ok _, .ok _ => .ok none
  | .call c => .error (noFunction c.name)
  | .text s => .error s!"Tried to do math with a string: \x60{s}\x60"
  | .bool b => .error s!"Tried to do math with a boolean: \x60{b}\x60"
  | .concat _ => .error "Tried to do math with a string concatenation"
  | .list _ | .logic .. | .member .. =>
    .error "Tried to do math with an expression not resulting in a number"
termination_by o => (sizeOf o, 0)

def evalExprNumber (env : Env) : Expr → Result (Option Number)
  | .mk operand _ [] => evalNumber env operand
  | .mk operand negated (f :: fs) =>
    match evalExpr env false (.mk operand negated (f :: fs)) with
    | .error message => .error message
    | .ok v =>
      match Number.ofValue? v with
      | some n => .ok (some n)
      | none => .error "Tried to do math with an expression not resulting in a number"
termination_by e => (sizeOf e, 3)

/-- A condition with a connective or a comparison. A number is not compared with anything else. -/
def evalLogic (env : Env) (escape : Bool) (op : LogicOp) (l r : Expr) : Result (Option Bool) :=
  match op with
  | .or =>
    match evalTruth env escape l with
    | .ok false => (evalTruth env escape r).map some
    | done => done.map some
  | .and =>
    match evalTruth env escape l with
    | .ok true => (evalTruth env escape r).map some
    | done => done.map some
  | .eq | .ne =>
    match evalExpr env escape l, evalExpr env escape r with
    | .error message, _ => .error message
    | .ok _, .error message => .error message
    | .ok v, .ok w =>
      .ok ((areEqual? v w).map fun equal => equal == (op == .eq))
  | .lt | .le | .gt | .ge =>
    match evalExprNumber env l, evalExprNumber env r with
    | .error message, _ => .error message
    | .ok _, .error message => .error message
    | .ok m, .ok n => (compareNumbers op m n).map some
termination_by (sizeOf l + sizeOf r + 1, 0)

/-- A membership, for which no text is escaped. -/
def evalMember (env : Env) (negated : Bool) (l r : Expr) : Result Bool :=
  match evalExpr env false l, evalExpr env false r with
  | .error message, _ => .error message
  | .ok _, .error message => .error message
  | .ok v, .ok w => (isMember v w).map (· != negated)
termination_by (sizeOf l + sizeOf r + 1, 0)

/-- A path as a truth value, with its filters. What cannot be evaluated is false. -/
def evalTruth (env : Env) (escape : Bool) : Expr → Result Bool
  | .mk operand negated filters =>
    match operand with
    | .path p =>
      match evalExpr env escape (.mk (.path p) negated filters) with
      | .ok v => .ok v.isTruthy
      | .error _ => .ok false
    | .logic op l r => (evalLogic env escape op l r).map (holds negated)
    | .member negated' l r => (evalMember env negated' l r).map (· != negated)
    | .bool b => .ok (b != negated)
    | .text s => .ok (!s.isEmpty != negated)
    | .call c => .error (noFunction c.name)
    | .concat items => (evalExpr env escape (.mk (.concat items) negated filters)).map (·.isTruthy)
    | .list items => .ok (!items.isEmpty != negated)
    | .math op l r =>
      (evalNumber env (.math op l r)).map fun n => (n.any fun n => n.toFloat != 0.0) != negated
    | .int n => .ok ((n != 0) != negated)
    | .float x => .ok ((x != 0.0) != negated)
termination_by e => (sizeOf e, 3)

/-- The value of an argument, the last one of its name. -/
def evalArg? (env : Env) (escape : Bool) (name : String) :
    List (String × Expr) → Option (Result Value)
  | [] => none
  | (n, e) :: args =>
    match evalArg? env escape name args with
    | some r => some r
    | none => if n == name then some (evalExpr env escape e) else none
termination_by args => (sizeOf args, 0)

/-- The values of arguments, of which the last one counts if several have one name. -/
def evalArgs (env : Env) : List (String × Expr) → Result Args
  | [] => .ok []
  | (n, e) :: args =>
    if args.any (·.1 == n) then evalArgs env args
    else
      match evalExpr env false e, evalArgs env args with
      | .error message, _ => .error message
      | .ok _, .error message => .error message
      | .ok v, .ok vs => .ok ((n, v) :: vs)
termination_by args => (sizeOf args, 0)

/-- Sends a value through filters. Two of them only say how the expression is read. -/
def applyFilters (env : Env) (v : Value) : List Call → Result Value
  | [] => .ok v
  | .mk name args :: fs =>
    if name == "safe" || name == "default" then applyFilters env v fs
    else
      match Filter.named? name with
      | none => .error s!"Filter '{name}' not found"
      | some filter =>
        match (evalArgs env args).bind fun args => filter args v with
        | .error message => .error s!"Filter call '{name}' failed: {message}"
        | .ok w => applyFilters env w fs
termination_by fs => (sizeOf fs, 0)

/-- What stands for a missing value. -/
def evalDefault (env : Env) (escape : Bool) : List Call → Result Value
  | .mk _ args :: _ =>
    match evalArg? env escape "value" args with
    | some r => r
    | none => .error "The \x60default\x60 filter requires a \x60value\x60 argument."
  | [] => .ok .null
termination_by fs => (sizeOf fs, 1)

def evalItems (env : Env) (escape : Bool) : List Expr → Result (List Value)
  | [] => .ok []
  | e :: es =>
    match evalExpr env escape e with
    | .error message => .error message
    | .ok v => (evalItems env escape es).map (v :: ·)
termination_by es => (sizeOf es, 0)

/-- An expression as a value. With `escape` a text is escaped at the end, but not if it was only
joined from others. A negated condition is a truth value first, so that it is negated once more as a
value. -/
def evalExpr (env : Env) (escape : Bool) : Expr → Result Value
  | .mk operand negated filters =>
    let finish (needsEscape : Bool) (v : Value) : Result Value :=
      match applyFilters env v filters with
      | .error message => .error message
      | .ok w =>
        let filtered := filters.any fun f => f.name != "safe" && f.name != "default"
        if negated then .ok (.bool !w.isTruthy)
        else if escape && (needsEscape || filtered) && !isMarkedSafe filters then .ok (escapeText w)
        else .ok w
    match operand with
    | .path p =>
      match p.value env with
      | .ok v => finish true v
      | .error message =>
        if hasDefault filters then
          match evalDefault env escape filters with
          | .error message => .error message
          | .ok v => finish true v
        else if negated then .ok (.bool true)
        else .error message
    | .text s => finish true (.text s)
    | .int n => finish false (.int n)
    | .float x => finish false (.float x)
    | .bool b => finish false (.bool b)
    | .concat items =>
      match evalConcat env items with
      | .error message => .error message
      | .ok s => finish false (.text s)
    | .call c => .error (noFunction c.name)
    | .list items =>
      match evalItems env escape items with
      | .error message => .error message
      | .ok vs => finish false (.list vs)
    | .member negated' l r =>
      match evalMember env negated' l r with
      | .error message => .error message
      | .ok b => finish false (.bool b)
    | .logic op l r =>
      match evalLogic env escape op l r with
      | .error message => .error message
      | .ok b => finish false (.bool (holds negated b))
    | .math op l r =>
      match evalNumber env (.math op l r) with
      | .error message => .error message
      | .ok (some n) => finish false n.toValue
      | .ok none => finish false (.text "NaN")
termination_by e => (sizeOf e, 2)

end

end TemplateServer.Template
