import TemplateServer.Template.Render

/-!
# Template documents

A document is a template that was read and may be rendered any number of times. Reading says where a
text is no template. A document stands alone: it extends no other template, because there is none.
-/

namespace TemplateServer.Template

/-- A template that may be rendered. -/
structure Document where
  name : String
  nodes : List Node

/-- The line that a text ends in, and how many lines stand before it. -/
def lastLine (cs : List Char) : Nat × List Char :=
  (cs.count '\n', (cs.reverse.takeWhile (· != '\n')).reverse)

/-- Points to the place behind the first `read` characters of a text. -/
def pointer (cs : List Char) (read : Nat) : String :=
  let (before, front) := lastLine (cs.take read)
  let line := front ++ (cs.drop read).takeWhile (· != '\n')
  let number := toString (before + 1)
  let margin := "".pushn ' ' number.length
  let indent := "".pushn ' ' front.length
  s!" --> {number}:{front.length + 1}\n{margin} |\n{number} | {String.ofList line}\n"
    ++ s!"{margin} | {indent}^---\n{margin} |\n{margin} = unexpected text"

namespace Document

/-- Whether texts are escaped: in documents of markup, by the end of their name. -/
def escapes (name : String) : Bool :=
  name.endsWith ".html" || name.endsWith ".htm" || name.endsWith ".xml"

/-- Reads a document, or says why the text is none. -/
def ofSource (name source : String) : Except String Document :=
  let cs := source.toList
  let refused (reason : String) : Except String Document :=
    .error s!"Failed to parse '{name}': {reason}"
  match Parsed.ofChars cs with
  | .error left => refused (pointer cs (cs.length - left))
  | .ok parsed =>
    let large := (Node.integersOf parsed.nodes).find? fun n => !Filter.fits n
    let names := (Node.blocksOf parsed.nodes).map (·.1)
    match large, firstRepeated? [] names with
    | some n, _ => refused s!"Integer out of bounds: \x60{n}\x60"
    | none, some block => refused s!"Block \x60{block}\x60 is duplicated"
    | none, none =>
      match parsed.parent with
      | none => .ok ⟨name, parsed.nodes⟩
      | some parent =>
        if parent == name then
          .error (s!"Circular extend detected for template '{name}'. "
            ++ s!"Inheritance chain: \x60[{Text.quoted name}]\x60")
        else
          .error (s!"Template '{name}' is inheriting from '{parent}', "
            ++ "which doesn't exist or isn't loaded.")

/-- How deep a document may include itself. -/
def maxDepth : Nat := 1000

/-- The text of a document for what it sees, or why there is none. Each time that the document is
rendered inside of itself, all its blocks may stand inside of each other. -/
def render (d : Document) (globals : List (String × Value)) : Except String String :=
  let env : Env := ⟨d.name, globals, [⟨[], none⟩]⟩
  let page := Page.ofNodes (escapes d.name) d.nodes
  match renderNodes page (maxDepth * (page.blocks.length + 1)) env d.nodes with
  | .ok (text, _) => .ok text
  | .error reason => .error s!"Failed to render '{d.name}': {reason}"

end Document

end TemplateServer.Template
