import TemplateServer.Config
import TemplateServer.Files.Walk

/-!
# Finding the templates of a site

The templates of a site are the regular files under the document root whose path from there matches
one of the patterns. `Stats` is what a user is told about a site.
-/

namespace TemplateServer

/-- The path of a file from the document root. -/
def relativePath (names : List String) : String :=
  String.ofList (Text.joinWith '/' (names.map String.toList))

/-- The identities of those of the files that a pattern matches, in order. -/
def discoverAmong (patterns : List Glob.Pattern) (files : List (List String)) :
    Except Failure (List Identity) := do
  let selected := (files.map relativePath).filter fun path => patterns.any (·.matches path)
  return Identity.sort (← selected.mapM Identity.parse)

/-- The identities of the templates under a root, in order. -/
def discover (root : String) (patterns : List Glob.Pattern) (files : Files.Tree) :
    Except Fault (List Identity) :=
  match files.walk root with
  | .error e => .error ((Fault.ofCause e.cause).inContext s!"Failed to walk {root}")
  | .ok found =>
    match discoverAmong patterns found with
    | .error failure => .error (.ofCause (.failure failure))
    | .ok identities => .ok identities

/-- What a user is told about a site. -/
structure Stats where
  root : String
  development : Bool
  checkIntervalSecs : Nat
  errorPage : Option Identity
  patterns : List String
  templates : List Identity

def Stats.collect (config : Config) (files : Files.Tree) : Except Fault Stats := do
  let patterns ← config.patterns
  let templates ← discover config.root patterns files
  let errorPage ← config.errorPageIdentity
  return {
    root := config.root
    development := config.development
    checkIntervalSecs := config.checkIntervalSecs
    errorPage := errorPage
    patterns := config.templates
    templates := templates }

end TemplateServer
