import TemplateServer.Template.Path
import TemplateServer.Template.Value

/-!
# Variables of templates

A loop opens a scope of its own, in which the element that it stands at has a name, and in which
`loop` is nothing but the state of the loop. A name is looked up from the innermost scope outwards,
and last among what the whole page sees.
-/

namespace TemplateServer.Template

/-- The element that a loop stands at. -/
structure LoopState where
  /-- The name of the key and the key, in a loop over an object. -/
  key : Option (String × String)
  name : String
  /-- The element. There may be more steps than elements. -/
  value : Option Value
  index : Nat
  length : Nat

/-- The variables of one part of a template. -/
structure Scope where
  assigned : List (String × Value)
  loop : Option LoopState

/-- What an evaluation depends on. -/
structure Env where
  /-- The name of the template. -/
  template : String
  globals : List (String × Value)
  /-- The innermost scope comes first. -/
  scopes : List Scope

/-- What the way on from a value leads to: the text after the point behind its name, if there is
one. -/
def Value.along? (v : Value) : Option (List Char) → Option Value
  | none => some v
  | some way => (Path.keysOf way).bind v.follow?

/-- What a loop says about itself. -/
def LoopState.about? (l : LoopState) (way : Option (List Char)) : Option Value :=
  match way.map String.ofList with
  | some "index" => some (.int (l.index + 1))
  | some "index0" => some (.int l.index)
  | some "first" => some (.bool (l.index == 0))
  | some "last" => some (.bool (l.index + 1 == l.length))
  | _ => none

/-- What a name that is not the key and the way on from it lead to in a loop. -/
def LoopState.findUnkeyed? (l : LoopState) (root : String) (way : Option (List Char)) :
    Option Value :=
  if root == "loop" then l.about? way
  else if root == l.name && way != some [] then l.value.bind (·.along? way)
  else none

/-- What a name and the way on from it lead to in a loop: the key comes first, the loop itself next,
and the element last. The way on from an element is not empty. -/
def LoopState.find? (l : LoopState) (root : String) (way : Option (List Char)) : Option Value :=
  match l.key, way with
  | some (name, key), none => if root == name then some (.text key) else l.findUnkeyed? root way
  | _, _ => l.findUnkeyed? root way

namespace Env

/-- What a name and the way on from it lead to in one scope. -/
def inScope? (root : String) (way : Option (List Char)) (s : Scope) : Option Value :=
  ((s.assigned.lookup root).bind (·.along? way)).or (s.loop.bind (·.find? root way))

/-- What a path without brackets leads to. -/
def find? (env : Env) (path : List Char) : Option Value :=
  let (root, way) := Text.cut (· == '.') path
  let root := String.ofList root
  (env.scopes.findSome? (inScope? root way)).or ((env.globals.lookup root).bind (·.along? way))

/-- The message for a path that leads nowhere. -/
def missing (env : Env) (path : String) : String :=
  s!"Variable \x60{path}\x60 not found in context while rendering '{env.template}'"

/-- Opens a scope, for a loop if its state is given. -/
def enter (loop : Option LoopState) (env : Env) : Env :=
  { env with scopes := ⟨[], loop⟩ :: env.scopes }

/-- Sets a variable in the innermost scope. -/
def assign (name : String) (v : Value) (env : Env) : Env :=
  match env.scopes with
  | [] => env
  | s :: scopes => { env with scopes := { s with assigned := (name, v) :: s.assigned } :: scopes }

end Env

end TemplateServer.Template
