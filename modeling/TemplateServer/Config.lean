import TemplateServer.Entry
import TemplateServer.Files.Tree
import TemplateServer.Glob
import TemplateServer.Report
import TemplateServer.Toml.Printer
import TemplateServer.Toml.Reader

/-!
# Settings of a server

Every setting has a default, so a document gives only those that differ. `Config.document` writes
settings and `Config.ofDocument` reads them, and a document with a key that is no setting is refused
as a whole.
-/

namespace TemplateServer

/-- The settings of one server. -/
structure Config where
  root : String
  listen : String
  /-- Look whether sources have changed. -/
  development : Bool
  /-- Seconds between two looks at one source. -/
  checkIntervalSecs : Nat
  /-- The path of the page that shows failures. -/
  errorPage : Option String
  /-- Patterns for the templates under the root. -/
  templates : List String
deriving DecidableEq, Repr

namespace Config

/-- The settings that hold where nothing else is said. -/
def standard : Config :=
  { root := ".", listen := "127.0.0.1:8080", development := true, checkIntervalSecs := 4
    errorPage := none, templates := ["**/*.html", "**/*.tpl"] }

/-- When sources are compiled again. -/
def options (c : Config) : Options := ⟨c.development, c.checkIntervalSecs * 1000⟩

def document (c : Config) : Toml.Document :=
  [("root", .text c.root), ("listen", .text c.listen), ("development", .flag c.development),
    ("check_interval_secs", .integer c.checkIntervalSecs)]
    ++ (c.errorPage.map fun page => ("error_page", Toml.Value.text page)).toList
    ++ [("templates", .texts c.templates)]

/-- The most seconds that can be set. -/
def maxSeconds : Int := 18446744073709551615

/-- Sets one setting, if there is one of that name and it takes the value. -/
def set? (c : Config) (name : String) (value : Toml.Value) : Option Config :=
  match name, value with
  | "root", .text s => some { c with root := s }
  | "listen", .text s => some { c with listen := s }
  | "development", .flag b => some { c with development := b }
  | "check_interval_secs", .integer n =>
    if 0 ≤ n && n ≤ maxSeconds then some { c with checkIntervalSecs := n.toNat } else none
  | "error_page", .text s => some { c with errorPage := some s }
  | "templates", .texts ss => some { c with templates := ss }
  | _, _ => none

/-- The settings that a document gives, and the defaults for all others. Answers the key of the
first setting that cannot be taken. -/
def ofDocument (document : Toml.Document) : Except String Config :=
  document.foldlM
    (fun c (name, value) => match c.set? name value with
      | some c => .ok c
      | none => .error name)
    standard

/-- Why a text gives no settings. -/
inductive ParseError
  /-- The text is not well formed. -/
  | malformed
  /-- A setting that does not exist, or not with such a value. -/
  | refused (key : String)
deriving DecidableEq, Repr

/-- The head of the diagnostic, which is the same for every text. What the reader of the format says
after it, the place and what was expected there, is left out. -/
def ParseError.message (_ : ParseError) : String := "TOML parse error"

/-- The settings that a text gives. -/
def parse (text : String) : Except ParseError Config :=
  match Toml.read text with
  | .error _ => .error .malformed
  | .ok document =>
    match ofDocument document with
    | .ok config => .ok config
    | .error key => .error (.refused key)

/-- The settings in a file. -/
def load (path : String) (files : Files.Tree) : Except Fault Config :=
  match files.readText path with
  | .error refusal =>
    .error ((Fault.ofCause (.io refusal.error)).inContext s!"Failed to read config from {path}")
  | .ok text =>
    match parse text with
    | .error e =>
      .error ((Fault.ofCause (.config e.message)).inContext s!"Failed to parse config from {path}")
    | .ok config => .ok config

/-- The settings in a file, or the defaults if it does not exist. -/
def loadIfPresent (path : String) (files : Files.Tree) : Except Fault Config :=
  match files.follow path with
  | .error _ => .ok standard
  | .ok _ => load path files

/-- The settings with another document root, if one is given. -/
def withRoot (root : Option String) (c : Config) : Config := { c with root := root.getD c.root }

/-- The text of a file with the settings. -/
def write (c : Config) : Except Fault String :=
  if Toml.maxInteger < c.checkIntervalSecs then
    .error ((Fault.ofText "out-of-range value for u64 type").inContext "Failed to serialize config")
  else .ok (Toml.write c.document)

/-- Writes the settings into a file, and makes the directories that it stands in. -/
def save (path : String) (c : Config) (files : Files.Tree) : Except Fault Files.Tree :=
  let parent := (Files.parent? path).getD ""
  match files.makeDirectories parent with
  | .error refusal =>
    .error ((Fault.ofCause (.io refusal.error)).inContext
      s!"Failed to create config directory: {parent}")
  | .ok files =>
    c.write.bind fun text =>
      match files.writeText path text with
      | .ok files => .ok files
      | .error refusal =>
        .error ((Fault.ofCause (.io refusal.error)).inContext s!"Failed to write config to {path}")

def errorPageIdentity (c : Config) : Except Fault (Option Identity) :=
  match c.errorPage with
  | none => .ok none
  | some page =>
    match Identity.parse page with
    | .ok identity => .ok (some identity)
    | .error failure =>
      .error ((Fault.ofCause (.failure failure)).inContext s!"Invalid error_page '{page}'")

def patterns (c : Config) : Except Fault (List Glob.Pattern) :=
  c.templates.mapM fun text =>
    match Glob.Pattern.parse text with
    | .ok pattern => .ok pattern
    | .error e => .error ((Fault.ofText e.message).inContext s!"Invalid template pattern '{text}'")

end Config

end TemplateServer
