import TemplateServer.Program

/-!
# The program

Reads the files that a command may need, runs the command on them and writes what it answers. A
server is asked by lines on the standard input, each of them the target of a request, until the
input ends.
-/

namespace TemplateServer.Program

/-- How the program is called. -/
def usage : String :=
  "Usage: tplserve [-v | -q] [-c PATH] COMMAND\n\n"
    ++ "Commands:\n"
    ++ "  serve [--root DIR] [--listen ADDR] [--production]\n"
    ++ "  render URI [--root DIR] [--attr NAME=VALUE]...\n"
    ++ "  precompile [--root DIR] [--jobs NUMBER]\n"
    ++ "  stats [--root DIR] [--format text|json]\n"

/-- The names in a path that starts from the top. -/
def placeOf (path : String) : Files.Place := (Files.namesOf path).filter fun name => name != ""

def pathOf (place : Files.Place) : String := "/" ++ "/".intercalate place

/-- A link that leads nowhere: no file has this name. -/
def nowhere : Files.Node := .link "\x00"

/-- What stands at a place, if it can be read. -/
def nodeAt? (place : Files.Place) : IO (Option Files.Node) := do
  let path := (← IO.currentDir) / pathOf place
  try
    let info ← path.symlinkMetadata
    let modified := info.modified.sec.toNat * 1000000000 + info.modified.nsec.toNat
    match info.type with
    | .dir => return some (.directory modified)
    | .file => return some (.file (← IO.FS.readBinFile path).toList modified)
    | .symlink =>
      try return some (.link (← IO.FS.realPath path).toString)
      catch _ => return some nowhere
    | .other => return none
  catch _ => return none

/-- Adds a node unless there is one at its place. -/
def addMissing (place : Files.Place) (node : Files.Node) (t : Files.Tree) : Files.Tree :=
  if (t.node? place).isSome then t
  else (t.addDirectories 0 [] place.dropLast).add place node

/-- Adds what stands on the way along names, at most `steps` of them. -/
def lookAlong : Nat → Files.Place → List String → Files.Tree → IO Files.Tree
  | 0, _, _, t | _, _, [], t => return t
  | steps + 1, place, name :: names, t => do
    if name == "" || name == "." then lookAlong steps place names t
    else if name == ".." then lookAlong steps place.dropLast names t
    else
      let place := place ++ [name]
      match ← nodeAt? place with
      | none => return t
      | some node =>
        let t := addMissing place node t
        match node with
        | .link target => lookAlong steps [] (Files.namesOf target ++ names) t
        | _ => lookAlong steps place names t

/-- Adds what stands at and below places, and where links there lead, at most `steps` nodes. -/
def lookBelow : Nat → List Files.Place → List Files.Place → Files.Tree → IO Files.Tree
  | 0, _, _, t | _, _, [], t => return t
  | steps + 1, seen, place :: rest, t => do
    if seen.contains place then lookBelow steps seen rest t
    else
      let seen := place :: seen
      match ← nodeAt? place with
      | none => lookBelow steps seen rest t
      | some node =>
        let t := addMissing place node t
        match node with
        | .file .. => lookBelow steps seen rest t
        | .link target => lookBelow steps seen (placeOf target :: rest) t
        | .directory _ =>
          let entries ← ((← IO.currentDir) / pathOf place).readDir
          lookBelow steps seen (entries.toList.map (fun e => place ++ [e.fileName]) ++ rest) t

/-- The most names and nodes that are looked at. -/
def maxSteps : Nat := 1000000

/-- The files that a command may need: its settings and what stands under the document root. -/
def lookAt (home : String) (invocation : CommandLine.Invocation) : IO Files.Tree := do
  let t := Files.Tree.workingIn (placeOf (← IO.currentDir).toString)
  let path := invocation.config.getD (standardConfigPath home)
  let t ← lookAlong maxSteps (t.start path) (Files.namesOf path) t
  match loadConfig path invocation.command.root? t with
  | .error _ => return t
  | .ok config =>
    let t ← lookAlong maxSteps (t.start config.root) (Files.namesOf config.root) t
    match t.resolve config.root with
    | .error _ => return t
    | .ok place => lookBelow maxSteps [] [place] t

/-- Writes those of the events that are asked for. -/
def writeLog (filter : String) (events : List Log.Event) : IO Unit := do
  for e in Log.atLeast ((Log.Level.ofName? filter).getD .info) events do
    IO.eprintln e.line

/-- Answers the targets on the standard input. -/
partial def answerLines (server : Server) : IO Server := do
  let line ← (← IO.getStdin).getLine
  if line.isEmpty then return server
  match Http.HttpRequest.build? "GET" line.trimAscii.toString [] with
  | none =>
    IO.println "400"
    answerLines server
  | some request =>
    let (response, server) := server.answer (← IO.monoMsNow) request
    IO.println s!"{response.status} {response.contentType}\n{response.body}"
    (← IO.getStdout).flush
    answerLines server

/-- Runs a command, and answers the exit code. -/
def execute (invocation : CommandLine.Invocation) : IO Nat := do
  let home := (← IO.getEnv "HOME").getD "~"
  let filter := invocation.settings.filter
  match run (← IO.monoMsNow) home invocation (← lookAt home invocation) with
  | .finished outcome =>
    writeLog filter outcome.log
    IO.print outcome.output
    IO.eprint outcome.errorText
    return outcome.exitCode
  | .serving server =>
    writeLog filter (← answerLines server).stop
    return 0

end TemplateServer.Program

open TemplateServer in
/-- Reads the command line and runs it. -/
def main (args : List String) : IO UInt32 := do
  match CommandLine.parse args with
  | .error .version =>
    IO.print Program.versionLine
    return 0
  | .error .help =>
    IO.print Program.usage
    return 0
  | .error stop =>
    IO.eprint s!"error: {stop.message}\n\n{Program.usage}"
    return UInt32.ofNat stop.exitCode
  | .ok invocation => return UInt32.ofNat (← Program.execute invocation)
