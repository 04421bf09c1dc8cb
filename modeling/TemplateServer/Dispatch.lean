import TemplateServer.Directive
import TemplateServer.Engine
import TemplateServer.Resolve
import TemplateServer.Text.Quoted

/-!
# Dispatch

A request is resolved, its directive is looked for, its entry is found or made, and the entry
answers. Resolution and detection come first, so a request that fails there has touched nothing.

`service` answers a response or the failure. `respond` turns failures into responses: a failure of
the caller is answered by its text; any other is shown by the error page if there is one and it
works, and by its text if not. The status is the failure's in each case.
-/

namespace TemplateServer

/-- The collaborators of an engine and the page that shows failures. -/
structure Dispatcher (σ κ α : Type) where
  setup : Setup σ κ α
  errorPage : Option Identity

namespace Dispatcher

variable {σ κ α : Type}

def event (level : Log.Level) (message : String) : Log.Event := ⟨level, .dispatch, message⟩

/-- What is noted about a request that is going to be dispatched. -/
def requestNotes (r : Request) (identity : Identity) (precompile : Bool) : List Log.Event :=
  [ s!"Template --> {identity}",
    s!"\t ServletPath: {r.servletPath}",
    s!"\t    PathInfo: {Text.quotedOption r.pathInfo}",
    s!"\t  RequestURI: {r.uri}",
    s!"\t QueryString: {Text.quotedOption r.query}",
    s!"\t  Precompile: {precompile}" ].map (event .debug)

/-- A failure to read a source is reported with the identity of the source. -/
def named (identity : Identity) : Failure → Failure
  | .io error => .dispatch s!"{identity}: {error.message}"
  | failure => failure

section

variable (d : Dispatcher σ κ α) (now : Nat)

/-- Has the entry of an identity answer a request. -/
def serviceIdentity (request : Request) (identity : Identity) (precompile : Bool)
    (error : Option String) : Engine.Action σ κ α Response := do
  modify (Engine.note [event .trace s!"CacheLookup {identity}"])
  let hasSource := Engine.onStore (d.setup.store.has identity)
  let handle ← Engine.getOrCreate identity error.isSome hasSource
  modify (Engine.note [event .trace s!"Dispatching {identity}"])
  let act := (Entry.service d.setup now request precompile error).run
  match ← modifyGet (Engine.onEntry handle act) with
  | none => throw .shutDown
  | some (.error failure) => throw failure
  | some (.ok response) =>
    modify (Engine.note [event .trace s!"Done {identity} -> {response.status}"])
    return response

/-- The identity that a request resolves to and whether it asks for compilation only. -/
def examine (request : Request) : Except Failure (Identity × Bool) := do
  let identity ← request.resolve
  let precompile ← Directive.detect request.query
  return (identity, precompile)

/-- What is noted while a request is examined. -/
def examineNotes (request : Request) : List Log.Event :=
  event .trace "Resolving" :: request.resolveNotes
    ++ match request.resolve with
      | .error _ => []
      | .ok identity =>
        event .trace "Detecting"
          :: match Directive.detect request.query with
            | .error _ => []
            | .ok precompile => requestNotes request identity precompile

def service (request : Request) (s : Engine σ κ α) : Except Failure Response × Engine σ κ α :=
  let s := s.note (examineNotes request)
  match examine request with
  | .error failure => (.error failure, s)
  | .ok (identity, precompile) =>
    match (d.serviceIdentity now request identity precompile none).run s with
    | (.ok response, s) => (.ok response, s)
    | (.error failure, s) => (.error (named identity failure), s)

def errorResponse (request : Request) (failure : Failure) (s : Engine σ κ α) :
    Response × Engine σ κ α :=
  let plain := Response.plain failure.status failure.message
  let line := s!"{request.method} {request.uri}"
  if failure.isClientError then
    (plain, s.note [event .debug s!"{line} -> {failure.status}: {failure.message}"])
  else
    let s := s.note [event .error s!"{line} failed: {failure.message}"]
    match d.errorPage with
    | none => (plain, s)
    | some page =>
      match (d.serviceIdentity now request page false (some failure.message)).run s with
      | (.ok response, s) => ({ response with status := failure.status }, s)
      | (.error pageFailure, s) =>
        (plain, s.note [event .warn s!"Error page {page} failed: {pageFailure.message}"])

/-- Answers a request by a response in every case. -/
def respond (request : Request) (s : Engine σ κ α) : Response × Engine σ κ α :=
  match d.service now request s with
  | (.ok response, s) => (response, s)
  | (.error failure, s) => d.errorResponse now request failure s

end

end Dispatcher

end TemplateServer
