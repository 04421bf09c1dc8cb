import TemplateServer.Template.Eval
import TemplateServer.Template.Node
import TemplateServer.Text.Cluster
import TemplateServer.Text.Quoted

/-!
# Rendering templates

The parts of a template are written one after the other, and each part hands the variables on to the
next. A loop and an included template have a scope of their own, so that they leave the variables
around them as they are. A block is written as the template defines its name, wherever it stands. A
template knows no other template than itself; how deep it may include itself and blocks may stand
inside of each other is bounded.
-/

namespace TemplateServer.Template

/-- How an expression is called in messages about loops. -/
def containerName (e : Expr) : Result String :=
  let refused (shown : String) : Result String :=
    .error ("Forloop containers have to be an ident or a function call "
      ++ s!"(tried to iterate on '{shown}')")
  match e.operand with
  | .path p => .ok p.text
  | .call c => .ok c.name
  | .list _ => .ok "an array literal"
  | .text s => refused s!"String({Text.quoted s})"
  | .int n => refused s!"Int({n})"
  | .float x => refused s!"Float({FloatStyle.message.write x})"
  | .bool b => refused s!"Bool({b})"
  | .concat _ => refused "StringConcat"
  | .math .. => refused "Math"
  | .logic .. => refused "Logic"
  | .member .. => refused "In"

/-- What a loop runs over. -/
structure Steps where
  /-- The elements, with their keys in an object. -/
  elements : List (Option String × Value)
  /-- The number of steps, of which the last ones may be without an element. -/
  count : Nat

/-- One step for each element. -/
def Steps.ofElements (elements : List (Option String × Value)) : Steps :=
  ⟨elements, elements.length⟩

/-- What a loop over a value runs over. A loop names a key exactly if it runs over an object. A text
has a step for each character, but its elements are whole clusters of characters. -/
def Steps.ofValue (name : String) (namesKey : Bool) (container : Value) : Result Steps :=
  let refusedKey : Result Steps :=
    .error ("Tried to iterate using key value on variable "
      ++ s!"\x60{name}\x60, but it isn't an object/map")
  match container with
  | .list items => if namesKey then refusedKey else .ok (.ofElements (items.map fun v => (none, v)))
  | .text s =>
    if namesKey then refusedKey
    else .ok ⟨(Text.clusters s.toList).map fun cs => (none, .text (String.ofList cs)), s.length⟩
  | .object members =>
    if namesKey then .ok (.ofElements (members.map fun (k, v) => (some k, v)))
    else .error ("Tried to iterate using key value on variable "
      ++ s!"\x60{name}\x60, but it is missing a key")
  | _ => .error s!"Tried to iterate on a container (\x60{name}\x60) that has a unsupported type"

/-- The states that a loop goes through. -/
def Steps.states (key : Option String) (name : String) (steps : Steps) : List LoopState :=
  let state (element : Option (Option String × Value)) (i : Nat) : LoopState :=
    { key := do some (← key, ← (← element).1)
      name := name
      value := element.map (·.2)
      index := i
      length := steps.count }
  let missing := List.replicate (steps.count - steps.elements.length) none
  (steps.elements.map some ++ missing).zipIdx.map fun (element, i) => state element i

/-- The message for an inclusion. -/
def notIncluded (names : List String) : String :=
  "Template '[" ++ ", ".intercalate names ++ "]' not found"

/-- The message for a block that stands inside of itself. -/
def endlessBlock (name : String) : String := s!"Block \x60{name}\x60 is nested too deeply"

/-- A template while it is rendered. -/
structure Page where
  /-- Whether texts are escaped. -/
  escape : Bool
  nodes : List Node
  /-- The blocks that are found by their names. -/
  blocks : List (String × List Node)

/-- The page of a template. -/
def Page.ofNodes (escape : Bool) (nodes : List Node) : Page := ⟨escape, nodes, Node.blocksOf nodes⟩

/-- What rendering a part answers: the text written and the variables after it. -/
abbrev Rendering := Result (String × Env)

mutual

/-- Renders a part of a page. `depth` bounds how deep the page and its blocks may still be rendered
inside of each other. -/
def renderNode (page : Page) (depth : Nat) (env : Env) : Node → Rendering
  | .text cs | .raw cs => .ok (String.ofList cs, env)
  | .output e => (evalExpr env page.escape e).map fun v => (v.render, env)
  | .assign name e => (evalExpr env false e).map fun v => ("", env.assign name v)
  | .inclusion names optional =>
    if names.contains env.template then
      match depth with
      | 0 => .error (notIncluded names)
      | depth + 1 => (renderNodes page depth (env.enter none) page.nodes).map fun (t, _) => (t, env)
    else if optional then .ok ("", env)
    else .error (notIncluded names)
  | .block name body =>
    match page.blocks.lookup name with
    | none => renderNodes page depth env body
    | some definition =>
      match depth with
      | 0 => .error (endlessBlock name)
      | depth + 1 => renderNodes page depth env definition
  | .branch cases otherwise => renderCases page depth env otherwise cases
  | .loop key name container body otherwise =>
    match containerName container, evalExpr env false container with
    | .error message, _ => .error message
    | .ok _, .error message => .error message
    | .ok shown, .ok v =>
      match Steps.ofValue shown key.isSome v with
      | .error message => .error message
      | .ok steps =>
        if steps.count = 0 then renderNodes page depth env otherwise
        else
          ((steps.states key name).mapM fun state =>
              (renderNodes page depth (env.enter (some state)) body).map (·.1)).map
            fun texts => (String.join texts, env)
termination_by n => (depth, sizeOf n)

def renderNodes (page : Page) (depth : Nat) (env : Env) : List Node → Rendering
  | [] => .ok ("", env)
  | n :: ns =>
    match renderNode page depth env n with
    | .error message => .error message
    | .ok (text, env) =>
      (renderNodes page depth env ns).map fun (texts, env) => (text ++ texts, env)
termination_by ns => (depth, sizeOf ns)

/-- Renders the first case whose condition holds, or else the last part. -/
def renderCases (page : Page) (depth : Nat) (env : Env) (otherwise : List Node) :
    List (Expr × List Node) → Rendering
  | [] => renderNodes page depth env otherwise
  | (condition, body) :: cases =>
    match evalTruth env page.escape condition with
    | .error message => .error message
    | .ok true => renderNodes page depth env body
    | .ok false => renderCases page depth env otherwise cases
termination_by cases => (depth, sizeOf otherwise + sizeOf cases)

end

end TemplateServer.Template
