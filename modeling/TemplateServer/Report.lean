import TemplateServer.Failure

/-!
# Reporting errors to a user

Outside a request an error travels up through the commands, and each of them may say in a context
what it was doing. A `Fault` is such an error: its cause, and the contexts it collected.
`Fault.report` turns it into what the user is shown: a failure, and where it is known a detail and a
suggestion. The cause decides; contexts are only shown where nothing better is known, as a numbered
list of causes.
-/

namespace TemplateServer

/-- What went wrong in the first place. -/
inductive Cause
  /-- A request failed. -/
  | failure (failure : Failure)
  /-- The operating system refused something; `beneath` are the texts of the errors beneath it. -/
  | io (error : IoError) (beneath : List String := [])
  /-- A configuration is not valid; the text says where and why. -/
  | config (diagnostic : String)
  /-- Any other error, with the texts of the errors beneath it. -/
  | message (text : String) (beneath : List String)
deriving DecidableEq, Repr

def Cause.texts : Cause → List String
  | failure (.io error) => [Failure.message (.io error), error.message]
  | failure f => [f.message]
  | io error beneath => error.message :: beneath
  | config diagnostic => [diagnostic]
  | message text beneath => text :: beneath

/-- An error on its way to the user. -/
structure Fault where
  cause : Cause
  /-- What was being done, outermost first. -/
  contexts : List String
deriving DecidableEq, Repr

namespace Fault

/-- An error without contexts. -/
def ofCause (cause : Cause) : Fault := ⟨cause, []⟩

/-- An error that is a text alone. -/
def ofText (text : String) : Fault := ofCause (.message text [])

/-- Says what was being done when the error came up. -/
def inContext (context : String) (fault : Fault) : Fault :=
  { fault with contexts := context :: fault.contexts }

def texts (fault : Fault) : List String := fault.contexts ++ fault.cause.texts

end Fault

/-- What a user is shown of an error. -/
structure Report where
  failure : Failure
  suggestion : Option String
  details : Option String
deriving DecidableEq, Repr

namespace Report

/-- The error text, then details and suggestion where there are any. -/
def text (r : Report) : String :=
  r.failure.message
    ++ (r.details.map (fun d => s!"\nDetails: {d}")).getD ""
    ++ (r.suggestion.map (fun s => s!"\nSuggestion: {s}")).getD ""

/-- The report as it is printed on a terminal. -/
def terminal (r : Report) : String :=
  s!"error: {r.failure.message}\n"
    ++ (r.details.map (fun d => s!"details: {d}\n")).getD ""
    ++ (r.suggestion.map (fun s => s!"suggestion: {s}\n")).getD ""

end Report

/-- What is shown of a failed request. An error of the operating system is shown as any other. -/
def Failure.report : Failure → Report
  | sourceNotFound identity =>
    { failure := .sourceNotFound identity
      suggestion := some "Check the request path against the files under the document root"
      details := some s!"No template source exists for '{identity}'" }
  | malformedDirective directive value =>
    { failure := .malformedDirective directive value
      suggestion := some s!"Use '{directive}', '{directive}=true' or '{directive}=false'"
      details := none }
  | compile identity reason =>
    { failure := .compile identity reason
      suggestion := some ("Check template syntax: variables use \x7b\x7b var \x7d\x7d, "
        ++ "comments use \x7b# #\x7d, control flow uses \x7b% %\x7d")
      details := none }
  | shutDown =>
    { failure := .shutDown
      suggestion := none
      details := some "Teardown released every compiled template" }
  | io error => ⟨.dispatch (Failure.message (.io error)), none, none⟩
  | f => ⟨f, none, none⟩

/-- Numbers texts from `n` on, each on a line of its own. -/
def numberedLines (n : Nat) : List String → String
  | [] => ""
  | t :: ts => s!"\n  {n}: {t}" ++ numberedLines (n + 1) ts

/-- The outermost text, followed by the numbered causes if there are any. -/
def causeList : List String → String
  | [] => ""
  | [text] => text
  | text :: causes => text ++ "\n\nCaused by:" ++ numberedLines 1 causes

/-- What is shown of an error. -/
def Fault.report (fault : Fault) : Report :=
  match fault.cause with
  | .failure f => f.report
  | .io ⟨.permissionDenied, message⟩ _ =>
    { failure := .dispatch s!"permission denied: {message}"
      suggestion := some "Check that the document root and config file are readable"
      details := some "tplserve could not read a file it needs" }
  | .io ⟨.addrInUse, message⟩ _ =>
    { failure := .dispatch s!"listen address unavailable: {message}"
      suggestion := some "Pick another address with --listen"
      details := some "Another process is already bound to the requested address" }
  | .config diagnostic =>
    { failure := .dispatch s!"invalid configuration: {diagnostic}"
      suggestion := some "Check the TOML syntax of the configuration file"
      details := some "Unknown keys and wrongly typed values are rejected" }
  | _ => ⟨.dispatch (causeList fault.texts), none, none⟩

end TemplateServer
