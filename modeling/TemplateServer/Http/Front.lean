import TemplateServer.Dispatch
import TemplateServer.Http.Target

/-!
# The HTTP front end

An HTTP request becomes a request of the dispatcher: its path is percent-decoded once and becomes
the servlet path, while request URI and query string stay as they were sent. A path that names no
template is answered here and never reaches the dispatcher, and so is a method other than GET, POST
and HEAD.
-/

namespace TemplateServer.Http

/-- Characters of methods and header names. -/
def isTokenChar (c : Char) : Bool :=
  c.isAlphanum || c == '\x27' || c == '\x60' || "!#$%&*+-.^_|~".toList.contains c

def isToken (s : String) : Bool := !s.isEmpty && s.toList.all isTokenChar

/-- Characters that a header value may hold. -/
def isValueChar (c : Char) : Bool := (0x20 ≤ c.toNat && c != '\x7f') || c == '\t'

/-- Characters that a header value is shown to templates with. -/
def isPlainValueChar (c : Char) : Bool := (0x20 ≤ c.toNat && c.toNat ≤ 0x7E) || c == '\t'

/-- An HTTP request, as far as it matters here. -/
structure HttpRequest where
  method : String
  target : Target
  /-- The names are in lower case. -/
  headers : List (String × String)

/-- Builds a request from its parts, if each of them is well formed. -/
def HttpRequest.build? (method target : String) (headers : List (String × String)) :
    Option HttpRequest := do
  let target ← Target.parse? target
  if isToken method && headers.all (fun h => isToken h.1 && h.2.toList.all isValueChar) then
    some ⟨method, target, headers.map fun h => (h.1.map Char.toLower, h.2)⟩
  else none

/-- Why a request is not dispatched. -/
inductive Rejection
  /-- The decoded path is no text, or holds NUL. -/
  | encoding (path : String)
  /-- The decoded path names no template. -/
  | refused (error : PathError)
deriving DecidableEq, Repr

namespace Rejection

def message : Rejection → String
  | encoding path => s!"path '{path}' is not valid UTF-8 once decoded"
  | refused error => error.message

def status : Rejection → Nat
  | refused (.noTemplate _) => 404
  | refused (.escapesRoot _) | encoding _ => 400

end Rejection

/-- The path of a request, percent-decoded. -/
def decodePath (path : String) : Except Rejection String :=
  match Utf8.decode? (Text.decodePercent path.toUTF8.toList) with
  | none => .error (.encoding path)
  | some cs => if cs.contains '\x00' then .error (.encoding path) else .ok (String.ofList cs)

namespace HttpRequest

/-- The headers that templates may see. -/
def plainHeaders (r : HttpRequest) : List (String × String) :=
  r.headers.filter fun h => h.2.toList.all isPlainValueChar

/-- The request as the dispatcher sees it. -/
def toRequest (r : HttpRequest) : Except Rejection Request := do
  let servletPath ← decodePath r.target.path
  match Identity.normalize servletPath with
  | .error e => .error (.refused e)
  | .ok _ =>
    let request := (Request.forPath servletPath).withMethod r.method
    return { request with uri := r.target.path, query := r.target.query, headers := r.plainHeaders }

end HttpRequest

/-- The methods that are dispatched. -/
def dispatchedMethods : List String := ["GET", "POST", "HEAD"]

variable {σ κ α : Type}

/-- Answers an HTTP request. -/
def answer (d : Dispatcher σ κ α) (now : Nat) (r : HttpRequest) (s : Engine σ κ α) :
    Response × Engine σ κ α :=
  if !dispatchedMethods.contains r.method then (.plain 405 "Method not allowed", s)
  else
    match r.toRequest with
    | .error rejection =>
      (.plain rejection.status rejection.message,
        s.note [⟨.debug, .server,
          s!"{r.method} {r.target.text} rejected: {rejection.message}"⟩])
    | .ok request => d.respond now request s

/-- Takes the engine down at the end of serving. -/
def shutDown (d : Dispatcher σ κ α) (s : Engine σ κ α) : TeardownReport × Engine σ κ α :=
  let (report, s) := s.teardown d.setup
  (report, s.note [⟨.info, .server,
    s!"Shut down, released {report.released} template(s) ({report.failed} failed)"⟩])

end TemplateServer.Http
