import TemplateServer.Entry

/-!
# The cache of entries

The cache finds the one entry of each identity. Entries are known by handles, and a handle stays
good after the cache was closed. What happens to a request for an entry is decided in one place,
`admission`: an entry that is there is used, a closed cache makes no new one, and otherwise an entry
is made if there is a source. That there is none is not remembered.
-/

namespace TemplateServer

/-- What an entry is known by. -/
abbrev Handle := Nat

structure Cache (α : Type) where
  /-- Every entry that was ever made, in the order of the handles. -/
  entries : List (Entry α)
  /-- The entries that are loaded. -/
  index : List (Identity × Handle)
  /-- The cache makes no more entries. -/
  closed : Bool

/-- What is to be done about a request for an entry. -/
inductive Admission
  | present (handle : Handle)
  | refused
  /-- An entry is made if there is a source. -/
  | needsSource
deriving DecidableEq, Repr

namespace Cache

variable {α : Type}

def empty : Cache α := ⟨[], [], false⟩

/-- The entry of an identity, if it is loaded. -/
def lookup (identity : Identity) (c : Cache α) : Option Handle := c.index.lookup identity

def admission (identity : Identity) (c : Cache α) : Admission :=
  match c.lookup identity with
  | some handle => .present handle
  | none => if c.closed then .refused else .needsSource

/-- Makes an entry and loads it under its identity. -/
def insert (identity : Identity) (isErrorPage : Bool) (c : Cache α) : Handle × Cache α :=
  (c.entries.length,
    { c with
      entries := c.entries ++ [.fresh identity isErrorPage]
      index := c.index ++ [(identity, c.entries.length)] })

def entry? (handle : Handle) (c : Cache α) : Option (Entry α) := c.entries[handle]?

def set (handle : Handle) (e : Entry α) (c : Cache α) : Cache α :=
  { c with entries := c.entries.set handle e }

def size (c : Cache α) : Nat := c.index.length

def identities (c : Cache α) : List Identity := Identity.sort (c.index.map (·.1))

/-- Closes the cache and hands back what was loaded: nothing, if it was closed before. -/
def close (c : Cache α) : List Handle × Cache α :=
  if c.closed then ([], c) else (c.index.map (·.2), { c with index := [], closed := true })

end Cache

end TemplateServer
