import TemplateServer.Compiler
import TemplateServer.Source

/-!
# Entries

An `Entry` services the requests for one template. It is made without compiling anything; the first
request compiles the source, and later ones use the artifact again. In development mode an entry
looks at most once per check interval whether its source has changed, and compiles it again if so.

A request goes through these steps, each of which has a definition of its own:

* `needsCompile` decides whether the source has to be compiled;
* `compileSource` reads and compiles it, changing nothing in the entry;
* `Focus.publish` puts the new artifact in place and releases the one before;
* `Focus.advance` counts the generation, `Focus.settle` takes back a reload request;
* `run` executes the artifact.

Steps that cannot fail are functions on the state; those that can are actions.

A compilation that fails publishes nothing, so the next request that finds a reason to compile
tries again. Generation 0 means that nothing was ever compiled; every successful compilation after
the first is a reload.
-/

namespace TemplateServer

/-- When sources are compiled again. -/
structure Options where
  /-- Look whether sources have changed. -/
  development : Bool
  /-- The least time between two looks at one source, in milliseconds. -/
  checkInterval : Nat
deriving DecidableEq, Repr

/-- In development mode every source is looked at no more often than every four seconds. -/
def Options.standard : Options := ⟨true, 4000⟩

/-- The collaborators of all entries, and what they are told. -/
structure Setup (σ κ α : Type) where
  store : SourceStore σ
  compiler : Compiler κ α
  options : Options

/-- The states of the collaborators, the reloads counted by the process, and the log. -/
structure Backend (σ κ : Type) where
  store : σ
  compiler : κ
  /-- Counts modulo 2^64. -/
  reloads : UInt64
  log : List Log.Event

def Backend.note {σ κ : Type} (events : List Log.Event) (b : Backend σ κ) : Backend σ κ :=
  { b with log := b.log ++ events }

/-- An artifact that is held, and when its source had been changed before it was compiled. -/
structure Held (α : Type) where
  artifact : α
  modified : Option Nat

/-- What services the requests for one template. -/
structure Entry (α : Type) where
  identity : Identity
  /-- The entry was made to show an error. -/
  isErrorPage : Bool
  held : Option (Held α)
  /-- How often the source was compiled. -/
  generation : Nat
  /-- How often it was compiled again. -/
  reloads : Nat
  /-- The next request compiles, changed or not. -/
  reloadRequested : Bool
  /-- The entry was taken down and compiles no more. -/
  destroyed : Bool
  /-- When the entry last looked at its source. -/
  lastCheck : Option Nat

namespace Entry

variable {σ κ α β : Type}

/-- An entry that has compiled nothing. -/
def fresh (identity : Identity) (isErrorPage : Bool) : Entry α :=
  { identity := identity, isErrorPage := isErrorPage, held := none, generation := 0, reloads := 0
    reloadRequested := false, destroyed := false, lastCheck := none }

def isCompiled (e : Entry α) : Bool := e.held.isSome

/-- Asks for a compilation by the next request. -/
def markForReload (e : Entry α) : Entry α := { e with reloadRequested := true }

/-- Whether a look at the source is due. -/
def checkDue (options : Options) (now : Nat) (e : Entry α) : Bool :=
  options.development && e.lastCheck.all fun last => options.checkInterval ≤ now - last

/-- One entry and what it works with. -/
structure Focus (σ κ α : Type) where
  entry : Entry α
  backend : Backend σ κ

namespace Focus

def update (f : Entry α → Entry α) (s : Focus σ κ α) : Focus σ κ α := { s with entry := f s.entry }

def note (events : List Log.Event) (s : Focus σ κ α) : Focus σ κ α :=
  { s with backend := s.backend.note events }

/-- Puts a question to the store. -/
def onStore (ask : StateM σ β) (s : Focus σ κ α) : β × Focus σ κ α :=
  let (answer, store) := ask s.backend.store
  (answer, { s with backend := { s.backend with store := store } })

/-- Has the compiler do something. -/
def onCompiler (act : StateM κ β) (s : Focus σ κ α) : β × Focus σ κ α :=
  let (answer, compiler) := act s.backend.compiler
  (answer, { s with backend := { s.backend with compiler := compiler } })

/-- Puts an artifact in place, and releases the one before. -/
def publish (setup : Setup σ κ α) (held : Held α) (s : Focus σ κ α) : Focus σ κ α :=
  let published := s.update fun e => { e with held := some held }
  match s.entry.held with
  | none => published
  | some previous =>
    match published.onCompiler (setup.compiler.release previous.artifact) with
    | (.ok (), s') => s'
    | (.error reason, s') =>
      s'.note [⟨.warn, .cache, s!"Releasing stale artifact of {s.entry.identity} failed: {reason}"⟩]

def advance (s : Focus σ κ α) : Focus σ κ α :=
  s.update fun e => { e with generation := e.generation + 1 }

def settle (s : Focus σ κ α) : Focus σ κ α := s.update fun e => { e with reloadRequested := false }

/-- Counts a reload, in the entry and in the process. -/
def countReload (s : Focus σ κ α) : Focus σ κ α :=
  let counted : Focus σ κ α :=
    { entry := { s.entry with reloads := s.entry.reloads + 1 }
      backend := { s.backend with reloads := s.backend.reloads + 1 } }
  counted.note [⟨.info, .cache, s!"Reloaded {s.entry.identity}"⟩]

/-- Takes the entry down and releases what it holds. Answers why a release failed. -/
def destroy (setup : Setup σ κ α) (s : Focus σ κ α) : Except String Unit × Focus σ κ α :=
  let empty := s.update fun e => { e with destroyed := true, held := none }
  match s.entry.held with
  | none => (.ok (), empty)
  | some held => empty.onCompiler (setup.compiler.release held.artifact)

end Focus

/-- What an entry does and may fail in. The state that was reached is kept then. -/
abbrev Action (σ κ α : Type) := ExceptT Failure (StateM (Focus σ κ α))

section

variable (setup : Setup σ κ α)

/-- Whether the source has to be compiled. A look at the source is remembered before it is made. -/
def needsCompile (now : Nat) : Action σ κ α Bool := do
  let e := (← get).entry
  match e.held with
  | none => return true
  | some held =>
    if e.reloadRequested then return true
    if !e.checkDue setup.options now then return false
    modify (Focus.update fun e => { e with lastCheck := some now })
    match ← modifyGet (Focus.onStore (setup.store.modified e.identity)) with
    | some current => return held.modified.all fun earlier => earlier < current
    | none =>
      if ← modifyGet (Focus.onStore (setup.store.has e.identity)) then return false
      throw (.sourceNotFound e.identity.text)

/-- Reads the source and compiles it. -/
def compileSource : Action σ κ α (Held α) := do
  let identity := (← get).entry.identity
  let modified ← modifyGet (Focus.onStore (setup.store.modified identity))
  let source ← ExceptT.mk (modifyGet (Focus.onStore (setup.store.read identity)))
  match ← modifyGet (Focus.onCompiler (setup.compiler.compile identity source)) with
  | .ok artifact =>
    modify (Focus.note (setup.compiler.notes identity source))
    return ⟨artifact, modified⟩
  | .error failure =>
    modify (Focus.note
      [⟨.warn, .cache, s!"Compilation of {identity} failed: {failure.message}"⟩])
    throw failure

/-- Compiles, unless the entry was taken down or its generation is no longer the one observed. -/
def recompile (observed : Nat) : Action σ κ α Unit := do
  let e := (← get).entry
  if e.destroyed then throw .shutDown
  if e.generation = observed then
    let held ← compileSource setup
    modify fun s => ((s.publish setup held).advance).settle
    if 0 < observed then modify Focus.countReload

/-- Sees to it that the entry holds the artifact that a request is to use. -/
def refresh (now : Nat) : Action σ κ α Unit := do
  let observed := (← get).entry.generation
  if ← needsCompile setup now then recompile setup observed

/-- Executes the artifact that is held. -/
def run (request : Request) (error : Option String) : Action σ κ α Response := do
  let e := (← get).entry
  match e.held with
  | none => throw .shutDown
  | some held =>
    let context := .ofRequest e.identity request error
    let act := Focus.onCompiler (setup.compiler.execute held.artifact context)
    return .html (← ExceptT.mk (modifyGet act))

/-- Answers a request. One that asks for compilation only is answered without executing. -/
def service (now : Nat) (request : Request) (precompile : Bool) (error : Option String) :
    Action σ κ α Response := do
  refresh setup now
  if precompile then
    modify fun s => s.note [⟨.debug, .cache, s!"Precompiled {s.entry.identity}"⟩]
    return .compiled
  run setup request error

end

end Entry

end TemplateServer
