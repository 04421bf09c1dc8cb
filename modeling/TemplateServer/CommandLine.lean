import TemplateServer.Text.Pieces

/-!
# The command line

A command line has two levels: options that any command takes, and a command with options of its
own. `parse` reads it from left to right and answers the command to run, or why none is run.

Three rules decide which error wins. What is wrong with a level is found out where it stands; what
is missing or does not go together, at the end of the level; and a command is read to its end before
the level above it. An option that waits for its value is looked at when the next option or operand
comes, so an unknown option behind it is found first.
-/

namespace TemplateServer.CommandLine

/-- Why no command is run. -/
inductive Stop
  | help
  | version
  /-- There is nothing but the name of the program. -/
  | empty
  | missingCommand
  | unknownCommand
  | unknownArgument
  /-- An operand that a command needs is not there. -/
  | missingOperand
  /-- A value is missing, empty where it may not be, or none of those listed. -/
  | invalidValue
  /-- A value is not written as it has to be. -/
  | malformedValue
  /-- A value was given to an option that takes none. -/
  | unexpectedValue
  /-- An option is repeated, or two options do not go together. -/
  | conflict
deriving DecidableEq, Repr

/-- The exit code of a program that runs no command. -/
def Stop.exitCode : Stop → Nat
  | help | version => 0
  | _ => 2

/-- What a user is told who did not ask for help or the version. -/
def Stop.message : Stop → String
  | help | version | empty => ""
  | missingCommand => "a command is missing"
  | unknownCommand => "there is no such command"
  | unknownArgument => "an argument is not expected"
  | missingOperand => "a required argument is missing"
  | invalidValue => "a value is missing or not allowed"
  | malformedValue => "a value is not well formed"
  | unexpectedValue => "an option takes no value"
  | conflict => "options are repeated or do not go together"

inductive Switch
  | verbose
  | quiet
  | config
  | root
  | listen
  | production
  | attr
  | jobs
  | format
  | help
  | version
deriving DecidableEq, Repr

namespace Switch

def name : Switch → String
  | verbose => "verbose"
  | quiet => "quiet"
  | config => "config"
  | root => "root"
  | listen => "listen"
  | production => "production"
  | attr => "attr"
  | jobs => "jobs"
  | format => "format"
  | help => "help"
  | version => "version"

/-- The letter behind one hyphen. -/
def letter? : Switch → Option Char
  | verbose => some 'v'
  | quiet => some 'q'
  | config => some 'c'
  | help => some 'h'
  | version => some 'V'
  | _ => none

/-- Whether a value belongs to the option. -/
def takesValue : Switch → Bool
  | config | root | listen | attr | jobs | format => true
  | verbose | quiet | production | help | version => false

/-- Whether the option may be given more than once. -/
def repeats : Switch → Bool
  | attr => true
  | _ => false

end Switch

/-- The greatest number that is taken. -/
def maxCount : Nat := 18446744073709551615

/-- The number that decimal digits write, behind a plus sign if there is one. -/
def jobs? (value : String) : Option Nat :=
  let ds := match value.toList with
    | '+' :: ds => ds
    | ds => ds
  let n := ds.foldl (fun n d => n * 10 + (d.toNat - 0x30)) 0
  if ds.isEmpty || !ds.all Char.isDigit || maxCount < n then none else some n

/-- The name and the value of an attribute, which the first equals sign divides. -/
def attribute? (value : String) : Option (String × String) :=
  match Text.cut (· == '=') value.toList with
  | (name, some value) => some (String.ofList name, String.ofList value)
  | (_, none) => none

/-- How statistics are written. -/
inductive Format
  | text
  | json
deriving DecidableEq, Repr

def Format.ofName? : String → Option Format
  | "text" => some text
  | "json" => some json
  | _ => none

/-- What is wrong with a value of an option, if anything is. -/
def Switch.flaw? (value : String) : Switch → Option Stop
  | config | root => if value.isEmpty then some .invalidValue else none
  | format => if (Format.ofName? value).isNone then some .invalidValue else none
  | attr => if (attribute? value).isNone then some .malformedValue else none
  | jobs => if (jobs? value).isNone then some .malformedValue else none
  | _ => none

/-- The commands by their names. -/
inductive CommandName
  | serve
  | render
  | precompile
  | stats
deriving DecidableEq, Repr

namespace CommandName

def ofName? : String → Option CommandName
  | "serve" => some serve
  | "render" => some render
  | "precompile" => some precompile
  | "stats" => some stats
  | _ => none

/-- How many operands a command takes. -/
def operandCount : CommandName → Nat
  | render => 1
  | _ => 0

end CommandName

/-- The options of the level above the commands, or of a command. -/
def switchesOf : Option CommandName → List Switch
  | none => [.verbose, .quiet, .config, .help, .version]
  | some command =>
    [.verbose, .quiet, .config, .help, .root] ++
      match command with
      | .serve => [.listen, .production]
      | .render => [.attr]
      | .precompile => [.jobs]
      | .stats => [.format]

/-- Whether a word above the commands is a command or asks for help. -/
def isCommandWord (word : String) : Bool := word == "help" || (CommandName.ofName? word).isSome

/-- What was given at one level, in its order. -/
structure Given where
  switches : List (Switch × String)
  operands : List String
deriving DecidableEq, Repr

namespace Given

def has (s : Switch) (g : Given) : Bool := g.switches.any (·.1 == s)

def value? (s : Switch) (g : Given) : Option String := g.switches.lookup s

def values (s : Switch) (g : Given) : List String := (g.switches.filter (·.1 == s)).map (·.2)

end Given

/-- A level that is being read. -/
structure Progress where
  given : Given
  /-- The last option if nobody has looked at it yet, with its value if that came. -/
  pending : Option (Switch × Option String)
  /-- Whether everything that follows is an operand. -/
  onlyOperands : Bool

namespace Progress

def start : Progress := ⟨⟨[], []⟩, none, false⟩

def take (s : Switch) (value : String) (p : Progress) : Except Stop Progress :=
  match s with
  | .help => .error .help
  | .version => .error .version
  | _ =>
    if !s.repeats && p.given.has s then .error .conflict
    else
      match s.flaw? value with
      | some stop => .error stop
      | none => .ok { p with given.switches := p.given.switches ++ [(s, value)] }

/-- Looks at the option that waits. -/
def settle (p : Progress) : Except Stop Progress :=
  match p.pending with
  | none => .ok p
  | some (_, none) => .error .invalidValue
  | some (s, some value) => { p with pending := none }.take s value

/-- Whether the next argument is the value of an option, if it looks like one. -/
def awaitsValue (p : Progress) : Bool :=
  match p.pending with
  | some (_, none) => true
  | _ => false

/-- Begins an option, with the value that is attached to it if there is one. -/
def begin (s : Switch) (attached : Option String) (p : Progress) : Except Stop Progress := do
  match s.takesValue, attached with
  | false, some _ => .error .unexpectedValue
  | false, none => (← p.settle).take s ""
  | true, some value => (← p.settle).take s value
  | true, none => return { (← p.settle) with pending := some (s, none) }

/-- Reads letters behind one hyphen. What follows the letter of an option with a value is the value,
with or without an equals sign. -/
def letters (level : Option CommandName) : List Char → Progress → Except Stop Progress
  | [], p => .ok p
  | c :: cs, p =>
    match (switchesOf level).find? (·.letter? == some c) with
    | none => .error .unknownArgument
    | some s =>
      if s.takesValue then
        p.begin s (match cs with
          | [] => none
          | '=' :: value => some (String.ofList value)
          | value => some (String.ofList value))
      else
        match p.begin s none with
        | .error stop => .error stop
        | .ok p => letters level cs p

/-- Reads an operand. Above the commands there are none. -/
def operand (level : Option CommandName) (word : String) (p : Progress) : Except Stop Progress :=
  match level with
  | none =>
    if p.onlyOperands && isCommandWord word then .error .unknownArgument else .error .unknownCommand
  | some command =>
    if p.given.operands.length < command.operandCount then
      p.settle.map fun p => { p with given.operands := p.given.operands ++ [word] }
    else .error .unknownArgument

/-- Reads an argument that is no command. -/
def argument (level : Option CommandName) (arg : String) (p : Progress) : Except Stop Progress :=
  if p.onlyOperands then p.operand level arg
  else
    match arg.toList with
    | ['-', '-'] => .ok { p with onlyOperands := true }
    | '-' :: '-' :: text =>
      let (name, value) := Text.cut (· == '=') text
      match (switchesOf level).find? (·.name == String.ofList name) with
      | none => .error .unknownArgument
      | some s => p.begin s (value.map String.ofList)
    | '-' :: c :: cs => p.letters level (c :: cs)
    | _ =>
      match p.pending with
      | some (s, none) => .ok { p with pending := some (s, some arg) }
      | _ => p.operand level arg

def finish (p : Progress) : Except Stop Given := p.settle.map (·.given)

end Progress

/-- Two options of a level that do not go together. -/
def conflicts (g : Given) : Bool := g.has .verbose && g.has .quiet

/-- Reads the options and operands of a command. -/
def readCommand (command : CommandName) (args : List String) : Except Stop Given := do
  let p ← args.foldlM (fun p arg => p.argument (some command) arg) Progress.start
  let g ← p.finish
  if conflicts g then .error .conflict
  else if g.operands.length < command.operandCount then .error .missingOperand
  else return g

/-- Reads up to the name of a command, and answers the name with the arguments behind it. -/
def readAbove : List String → Progress → Except Stop (Progress × Option (String × List String))
  | [], p => .ok (p, none)
  | arg :: args, p =>
    if !p.onlyOperands && !p.awaitsValue && isCommandWord arg then .ok (p, some (arg, args))
    else
      match p.argument none arg with
      | .error stop => .error stop
      | .ok p => readAbove args p

/-- What is answered to a user who asks for help on a command. -/
def helpOn : List String → Stop
  | [] => .help
  | [word] => if isCommandWord word then .help else .unknownCommand
  | _ => .unknownCommand

/-- A command with what was given for it. -/
inductive Command
  /-- Answers requests that come in at an address. -/
  | serve (root listen : Option String) (production : Bool)
  /-- Prints the answer to one request. -/
  | render (uri : String) (root : Option String) (attributes : List (String × String))
  /-- Compiles all templates. -/
  | precompile (root : Option String) (jobs : Option Nat)
  /-- Prints what there is to tell about a site. -/
  | stats (root : Option String) (format : Format)
deriving DecidableEq, Repr

/-- The document root that a command names. -/
def Command.root? : Command → Option String
  | serve root _ _ | render _ root _ | precompile root _ | stats root _ => root

/-- The command that was given. -/
def Command.of (g : Given) : CommandName → Command
  | .serve => serve (g.value? .root) (g.value? .listen) (g.has .production)
  | .render =>
    render (g.operands.headD "") (g.value? .root) ((g.values .attr).filterMap attribute?)
  | .precompile => precompile (g.value? .root) ((g.value? .jobs).bind jobs?)
  | .stats => stats (g.value? .root) (((g.value? .format).bind Format.ofName?).getD .text)

structure Invocation where
  verbose : Bool
  quiet : Bool
  config : Option String
  command : Command
deriving DecidableEq, Repr

/-- Reads the arguments behind the name of the program. Of an option on both levels the value of the
command counts. -/
def parse (args : List String) : Except Stop Invocation := do
  match ← readAbove args .start with
  | (p, none) =>
    let g ← p.finish
    if g.switches.isEmpty then .error .empty else .error .missingCommand
  | (p, some (word, rest)) =>
    match CommandName.ofName? word with
    | none => .error (helpOn rest)
    | some command =>
      let own ← readCommand command rest
      let above ← p.finish
      if conflicts above then .error .conflict
      else
        return {
          verbose := above.has .verbose || own.has .verbose
          quiet := above.has .quiet || own.has .quiet
          config := (own.value? .config).or (above.value? .config)
          command := .of own command }

/-- What the options of any command say. -/
structure Settings where
  /-- The least important events that are written. -/
  logLevel : Option String
  /-- The file with the settings of the server. -/
  configPath : Option String
deriving DecidableEq, Repr

namespace Settings

def standard : Settings := ⟨none, none⟩

def withLogLevel (level : String) (s : Settings) : Settings := { s with logLevel := some level }

def withConfigPath (path : String) (s : Settings) : Settings := { s with configPath := some path }

/-- The events that are written where nothing is said. -/
def filter (s : Settings) : String := s.logLevel.getD "info"

end Settings

/-- What a command line says. Much is written if both much and little is asked for. -/
def Invocation.settings (i : Invocation) : Settings :=
  { logLevel := if i.verbose then some "debug" else if i.quiet then some "error" else none
    configPath := i.config }

end TemplateServer.CommandLine
