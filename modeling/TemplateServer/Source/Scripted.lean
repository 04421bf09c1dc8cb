import TemplateServer.Source

/-!
# Sources with chosen answers

A store whose answers about each source are chosen one by one, even against each other, and which
records the questions that it is asked.
-/

namespace TemplateServer

/-- The answers about a source. -/
structure ScriptedSource where
  text : String
  /-- Reading the source fails with this text. -/
  readError : Option String
  modified : Option Nat
  /-- What is answered when it is asked whether there is a source. -/
  visible : Bool

/-- The answers, and the questions asked so far. -/
structure Script where
  sources : List (Identity × ScriptedSource)
  calls : List String

namespace Script

def empty : Script := ⟨[], []⟩

def remove (identity : Identity) (s : Script) : Script :=
  { s with sources := s.sources.filter fun source => source.1 ≠ identity }

/-- Puts in the answers about a source, in place of those that were there. -/
def put (identity : Identity) (source : ScriptedSource) (s : Script) : Script :=
  { s with sources := (identity, source) :: (s.remove identity).sources }

/-- Records a question. -/
def record (question : String) (identity : Identity) (s : Script) : Script :=
  { s with calls := s.calls ++ [s!"{question} {identity}"] }

def store : SourceStore Script where
  has identity s :=
    (((s.sources.lookup identity).map (·.visible)).getD false, s.record "exists" identity)
  read identity s :=
    let answer :=
      match s.sources.lookup identity with
      | none => .error (.sourceNotFound identity.text)
      | some source =>
        match source.readError with
        | some message => .error (.io ⟨.other, message⟩)
        | none => .ok source.text
    (answer, s.record "read" identity)
  modified identity s :=
    ((s.sources.lookup identity).bind (·.modified), s.record "modified" identity)

end Script

end TemplateServer
