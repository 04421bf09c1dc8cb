import TemplateServer.Batch
import TemplateServer.CommandLine
import TemplateServer.Discover
import TemplateServer.Http.Address
import TemplateServer.Http.Front
import TemplateServer.Site

/-!
# Commands

What the commands do to the files that the program sees. A command writes texts and may fail; the
fault is then reported behind everything else. Only a server goes on: it is handed out, to be asked
until it is told to stop.
-/

namespace TemplateServer.Program

open CommandLine

/-- The name and the version of the program. -/
def versionLine : String := "tplserve 0.1.0\n"

/-- What a command leaves behind. -/
structure Outcome where
  output : String
  errors : String
  fault : Option Fault
  /-- What was noted on the way. -/
  log : List Log.Event

namespace Outcome

/-- A command that has written something and is done. -/
def written (output : String) (log : List Log.Event) : Outcome := ⟨output, "", none, log⟩

/-- A command that has failed before it could write anything. -/
def failed (fault : Fault) (log : List Log.Event) : Outcome := ⟨"", "", some fault, log⟩

def exitCode (o : Outcome) : Nat := if o.fault.isSome then 1 else 0

/-- All that is written about what went wrong. -/
def errorText (o : Outcome) : String :=
  o.errors ++ (o.fault.map fun fault => fault.report.terminal).getD ""

def ofExcept (o : Except Fault Outcome) : Outcome :=
  match o with
  | .ok o => o
  | .error fault => failed fault []

end Outcome

/-- Where the settings are looked for if no file is named. -/
def standardConfigPath (home : String) : String :=
  Files.joinPath (Files.joinPath home ".tplserve") "config.toml"

/-- The settings of a command. -/
def loadConfig (path : String) (root : Option String) (files : Files.Tree) : Except Fault Config :=
  (Config.loadIfPresent path files).map (·.withRoot root)

/-- A server that is ready to answer. -/
structure Server where
  address : Http.SocketAddress
  site : Site

/-- Starts a server. -/
def serve (config : Config) (files : Files.Tree) : Except Fault Server :=
  match Http.SocketAddress.parse? config.listen with
  | none =>
    .error ((Fault.ofText "invalid socket address syntax").inContext
      s!"Invalid listen address '{config.listen}'")
  | some address => (Site.load config files).map fun site => ⟨address, site⟩

/-- Answers one request of a client. -/
def Server.answer (now : Nat) (request : Http.HttpRequest) (server : Server) : Response × Server :=
  let (response, engine) := Http.answer server.site.dispatcher now request server.site.engine
  (response, { server with site.engine := engine })

/-- Stops a server, and answers what was noted while it ran. -/
def Server.stop (server : Server) : List Log.Event :=
  (Http.shutDown server.site.dispatcher server.site.engine).2.backend.log

/-- Prints the answer to one request. -/
def render (now : Nat) (uri : String) (attributes : List (String × String)) (config : Config)
    (files : Files.Tree) : Except Fault Outcome := do
  let site ← Site.load config files
  let request := attributes.foldl (fun r (name, value) => r.withAttribute name value) (.get uri)
  let (outcome, site) := site.service now request
  let log := site.engine.backend.log
  match outcome with
  | .ok response => return .written response.body log
  | .error failure => return .failed (.ofCause (.failure failure)) log

/-- The templates that a batch is made of, and the site that compiles them. -/
def batchOf (config : Config) (files : Files.Tree) : Except Fault (List Identity × Site) := do
  let patterns ← config.patterns
  let site ← Site.load config files
  return (← discover config.root patterns files, site)

/-- What is written about a batch. -/
def Outcome.ofBatch (report : BatchReport) (log : List Log.Event) : Outcome :=
  let failed := report.failures.length
  let mark := if failed = 0 then "✓" else "✗"
  { output := s!"{mark} {report.compiled} template(s) compiled, {failed} failed\n"
    errors := String.join
      (report.failures.map fun (identity, reason) => s!"✗ {identity}: {reason}\n")
    fault := if failed = 0 then none else some (.ofText s!"{failed} template(s) failed to compile")
    log := log }

/-- Compiles all templates. -/
def precompile (now : Nat) (config : Config) (files : Files.Tree) : Except Fault Outcome := do
  let (identities, site) ← batchOf config files
  let (report, engine) := Batch.compileAll site.dispatcher now identities site.engine
  return .ofBatch report engine.backend.log

def statsText (s : Stats) : String :=
  let mode :=
    if s.development then s!"development (checks every {s.checkIntervalSecs}s)" else "production"
  let page := (s.errorPage.map Identity.text).getD "none"
  let patterns := ", ".intercalate s.patterns
  s!"Root: {s.root}\nMode: {mode}\nError page: {page}\nPatterns: {patterns}\n"
    ++ s!"Templates: {s.templates.length}\n"
    ++ String.join (s.templates.map fun identity => s!"  {identity}\n")

def statsJson (s : Stats) : Text.Json :=
  .object
    [("root", .string s.root), ("development", .bool s.development),
      ("check_interval_secs", .number (toString s.checkIntervalSecs)),
      ("error_page", (s.errorPage.map fun page => .string page.text).getD .null),
      ("patterns", .array (s.patterns.map .string)),
      ("templates", .array (s.templates.map fun identity => .string identity.text))]

/-- Prints what there is to tell about a site. -/
def stats (format : Format) (config : Config) (files : Files.Tree) : Except Fault Outcome := do
  let s ← Stats.collect config files
  match format with
  | .text => return .written (statsText s) []
  | .json => return .written ((statsJson s).pretty "" ++ "\n") []

/-- What running a command comes to. -/
inductive Run
  | finished (outcome : Outcome)
  | serving (server : Server)

/-- Runs a command at an instant. `home` is the directory of the user. -/
def run (now : Nat) (home : String) (invocation : Invocation) (files : Files.Tree) : Run :=
  let config (root : Option String) : Except Fault Config :=
    loadConfig (invocation.config.getD (standardConfigPath home)) root files
  match invocation.command with
  | .serve root listen production =>
    let settings := (config root).map fun c =>
      { c with listen := listen.getD c.listen, development := c.development && !production }
    match settings.bind fun c => serve c files with
    | .ok server => .serving server
    | .error fault => .finished (.failed fault [])
  | .render uri root attributes =>
    .finished (.ofExcept ((config root).bind fun c => render now uri attributes c files))
  | .precompile root _ => .finished (.ofExcept ((config root).bind fun c => precompile now c files))
  | .stats root format => .finished (.ofExcept ((config root).bind fun c => stats format c files))

end TemplateServer.Program
