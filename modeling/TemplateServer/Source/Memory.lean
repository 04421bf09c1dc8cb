import TemplateServer.Source

/-!
# Sources held in memory

A store whose sources are put into it. Every source that is put takes the next number of a counter,
and that number is its time of change, so that a source put later is always newer.
-/

namespace TemplateServer

/-- The sources, each with its number, and the last number given. -/
structure Memory where
  sources : List (Identity × String × Nat)
  version : Nat

namespace Memory

def empty : Memory := ⟨[], 0⟩

def remove (identity : Identity) (m : Memory) : Memory :=
  { m with sources := m.sources.filter fun s => s.1 ≠ identity }

/-- Puts in a source, in place of any other of its identity. -/
def put (identity : Identity) (source : String) (m : Memory) : Memory :=
  ⟨(identity, source, m.version + 1) :: (m.remove identity).sources, m.version + 1⟩

/-- The source of an identity and its number. -/
def find? (identity : Identity) (m : Memory) : Option (String × Nat) := m.sources.lookup identity

/-- The store. Questions change nothing. -/
def store : SourceStore Memory where
  has identity m := ((m.find? identity).isSome, m)
  read identity m :=
    match m.find? identity with
    | some (source, _) => (.ok source, m)
    | none => (.error (.sourceNotFound identity.text), m)
  modified identity m := ((m.find? identity).map (·.2), m)

end Memory

end TemplateServer
