import TemplateServer.Identity

/-!
# Failures of a request

Everything that can go wrong between resolving a request and executing its template, each with the
status that answers it. A failure is the caller's fault exactly when its status is in the 400s, and
only those failures are answered in full to the caller without being logged as errors.
-/

namespace TemplateServer

/-- The kinds of operating system errors that are told apart. -/
inductive IoKind
  | permissionDenied
  | addrInUse
  | notFound
  | invalidData
  | other
deriving DecidableEq, Repr

structure IoError where
  kind : IoKind
  message : String
deriving DecidableEq, Repr

/-- Why a request was not answered. -/
inductive Failure
  /-- The request names no template that could be served. -/
  | identityResolution (reason : String)
  /-- The precompile directive has a value that it cannot take. -/
  | malformedDirective (directive value : String)
  /-- There is no source for the identity. -/
  | sourceNotFound (identity : String)
  /-- The compiler refused the source. -/
  | compile (identity reason : String)
  /-- The compiled template failed while it ran. -/
  | execution (identity reason : String)
  /-- The runtime was torn down. -/
  | shutDown
  /-- Any other failure. -/
  | dispatch (message : String)
  /-- A source could not be read. -/
  | io (error : IoError)
deriving DecidableEq, Repr

namespace Failure

def message : Failure → String
  | identityResolution reason => s!"Cannot resolve template identity: {reason}"
  | malformedDirective directive value =>
    s!"Cannot have request parameter {directive} set to {value}"
  | sourceNotFound identity => identity
  | compile identity reason => s!"Failed to compile '{identity}': {reason}"
  | execution identity reason => s!"Failed to execute '{identity}': {reason}"
  | shutDown => "Template runtime is shut down"
  | dispatch message => s!"Dispatch failed: {message}"
  | io error => s!"IO error: {error.message}"

def status : Failure → Nat
  | malformedDirective .. => 400
  | sourceNotFound _ => 404
  | shutDown => 503
  | identityResolution _ | compile .. | execution .. | dispatch _ | io _ => 500

/-- Whether the caller is at fault. -/
def isClientError (f : Failure) : Bool := 400 ≤ f.status && f.status ≤ 499

end Failure

/-- The identity that a path leads to, for a caller that answers requests. -/
def Identity.parse (path : String) : Except Failure Identity :=
  match Identity.normalize path with
  | .ok identity => .ok identity
  | .error e => .error (.identityResolution e.message)

end TemplateServer
