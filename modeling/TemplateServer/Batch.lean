import TemplateServer.Dispatch

/-!
# Compiling many templates

Each identity of a batch is sent a request that asks for compilation only, so that a batch goes the
way of all other requests.
-/

namespace TemplateServer

structure BatchReport where
  compiled : Nat
  /-- The identities that failed, with the reasons. -/
  failures : List (Identity × String)

/-- Adds the outcome for one identity. -/
def BatchReport.add (identity : Identity) (outcome : Except Failure Response)
    (report : BatchReport) : BatchReport :=
  match outcome with
  | .ok _ => { report with compiled := report.compiled + 1 }
  | .error failure => { report with failures := report.failures ++ [(identity, failure.message)] }

namespace Batch

variable {σ κ α : Type}

def request (identity : Identity) : Request :=
  (Request.forPath identity.text).withQuery Directive.name

/-- Failures are listed by identity, and those of one identity by their texts. -/
def failureLe (p q : Identity × String) : Bool :=
  if p.1 = q.1 then !decide (q.2 < p.2) else Identity.le p.1 q.1

/-- Compiles the templates one after the other. -/
def compileEach (d : Dispatcher σ κ α) (now : Nat) :
    List Identity → BatchReport → Engine σ κ α → BatchReport × Engine σ κ α
  | [], report, s => (report, s)
  | identity :: rest, report, s =>
    let (outcome, s) := d.service now (request identity) s
    let s := if outcome.isOk then s.note [⟨.debug, .cli, s!"Precompiled {identity}"⟩] else s
    compileEach d now rest (report.add identity outcome) s

def compileAll (d : Dispatcher σ κ α) (now : Nat) (identities : List Identity)
    (s : Engine σ κ α) : BatchReport × Engine σ κ α :=
  let (report, s) := compileEach d now identities ⟨0, []⟩ s
  ({ report with failures := report.failures.mergeSort failureLe }, s)

end Batch

end TemplateServer
