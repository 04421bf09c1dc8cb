import TemplateServer.Cache

/-!
# The engine

The engine owns the cache and what the entries work with, counts the reloads of the process, and
takes everything down once, at the end. After that no entry is made or compiled any more.
-/

namespace TemplateServer

/-- The cache, and the state of what its entries work with. -/
structure Engine (σ κ α : Type) where
  cache : Cache α
  backend : Backend σ κ

structure TeardownReport where
  released : Nat
  failed : Nat
deriving DecidableEq, Repr

namespace Engine

variable {σ κ α β : Type}

def start (store : σ) (compiler : κ) : Engine σ κ α :=
  ⟨.empty, { store := store, compiler := compiler, reloads := 0, log := [] }⟩

def note (events : List Log.Event) (s : Engine σ κ α) : Engine σ κ α :=
  { s with backend := s.backend.note events }

/-- Puts a question to the store. -/
def onStore (ask : StateM σ β) (s : Engine σ κ α) : β × Engine σ κ α :=
  let (answer, store) := ask s.backend.store
  (answer, { s with backend := { s.backend with store := store } })

def onCache (f : Cache α → β × Cache α) (s : Engine σ κ α) : β × Engine σ κ α :=
  let (answer, cache) := f s.cache
  (answer, { s with cache := cache })

/-- Has the entry behind a handle do something. A handle without an entry does nothing. -/
def onEntry (handle : Handle) (act : Entry.Focus σ κ α → β × Entry.Focus σ κ α)
    (s : Engine σ κ α) : Option β × Engine σ κ α :=
  match s.cache.entry? handle with
  | none => (none, s)
  | some e =>
    let (answer, focus) := act ⟨e, s.backend⟩
    (some answer, ⟨s.cache.set handle focus.entry, focus.backend⟩)

/-- Asks for a compilation by the next request to an entry. -/
def markForReload (handle : Handle) (s : Engine σ κ α) : Engine σ κ α :=
  (s.onEntry handle fun focus => ((), focus.update Entry.markForReload)).2

def loadedCount (s : Engine σ κ α) : Nat := s.cache.size

def reloadCount (s : Engine σ κ α) : Nat := s.backend.reloads.toNat

/-- Sets the count of reloads, modulo 2^64. -/
def setReloadCount (count : Nat) (s : Engine σ κ α) : Engine σ κ α :=
  { s with backend := { s.backend with reloads := UInt64.ofNat count } }

/-- What an engine does and may fail in. The state that was reached is kept then. -/
abbrev Action (σ κ α : Type) := ExceptT Failure (StateM (Engine σ κ α))

/--
The entry of an identity, which is made if it is not there and `hasSource` answers that there is a
source. `isErrorPage` concerns an entry that is made.
-/
def getOrCreate (identity : Identity) (isErrorPage : Bool)
    (hasSource : Engine σ κ α → Bool × Engine σ κ α) : Action σ κ α Handle := do
  match (← get).cache.admission identity with
  | .present handle => return handle
  | .refused => throw .shutDown
  | .needsSource =>
    if ← modifyGet hasSource then
      let handle ← modifyGet (onCache (Cache.insert identity isErrorPage))
      modify fun s => s.note [⟨.debug, .cache,
        s!"Created wrapper for {identity} (error page: {isErrorPage}, loaded: {s.loadedCount})"⟩]
      return handle
    modify (note [⟨.debug, .cache, s!"No source for {identity}"⟩])
    throw (.sourceNotFound identity.text)

/-- Takes down the entry behind a handle and adds to a report how that went. -/
def destroyEntry (setup : Setup σ κ α) (report : TeardownReport) (handle : Handle)
    (s : Engine σ κ α) : TeardownReport × Engine σ κ α :=
  match s.onEntry handle (Entry.Focus.destroy setup) with
  | (some (.error reason), s') =>
    let identity := (s.cache.entry? handle).elim "" (·.identity.text)
    ({ report with failed := report.failed + 1 },
      s'.note [⟨.warn, .runtime, s!"Failed to release {identity}: {reason}"⟩])
  | (_, s') => ({ report with released := report.released + 1 }, s')

/-- Takes down the entries behind the handles, one after the other. -/
def destroyAll (setup : Setup σ κ α) :
    List Handle → TeardownReport → Engine σ κ α → TeardownReport × Engine σ κ α
  | [], report, s => (report, s)
  | handle :: handles, report, s =>
    let (report, s) := destroyEntry setup report handle s
    destroyAll setup handles report s

/-- Closes the cache and releases everything. A release that fails is noted and stops nothing. -/
def teardown (setup : Setup σ κ α) (s : Engine σ κ α) : TeardownReport × Engine σ κ α :=
  let (handles, s) := s.onCache Cache.close
  let (report, s) := destroyAll setup handles ⟨0, 0⟩ s
  (report, s.note [⟨.debug, .runtime,
    s!"Teardown released {report.released} wrapper(s), {report.failed} failure(s)"⟩])

end Engine

end TemplateServer
