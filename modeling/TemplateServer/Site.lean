import TemplateServer.Compiler.Template
import TemplateServer.Config
import TemplateServer.Dispatch
import TemplateServer.Source.Files

/-!
# Sites

A site is a document root that is served: the templates in the files under it, with the settings
that say how.
-/

namespace TemplateServer

/-- A site that answers requests. -/
structure Site where
  dispatcher : Dispatcher Files.Tree Unit Template.Document
  engine : Engine Files.Tree Unit Template.Document

namespace Site

/-- What answers the requests to a site, or why there is none: the document root has to be a
directory, and the page that shows failures has to be a path. -/
def dispatcherOf (config : Config) (files : Files.Tree) :
    Except Fault (Dispatcher Files.Tree Unit Template.Document) :=
  if !files.hasDirectory config.root then
    .error (.ofText s!"Document root {config.root} is not a directory")
  else
    config.errorPageIdentity.map fun page =>
      ⟨⟨Files.store config.root, Template.compiler, config.options⟩, page⟩

/-- The site of some settings, which has answered nothing yet. -/
def load (config : Config) (files : Files.Tree) : Except Fault Site :=
  (dispatcherOf config files).map fun dispatcher =>
    { dispatcher := dispatcher
      engine := (Engine.start files ()).note [⟨.debug, .cli,
        s!"Serving {config.root} (development: {config.development}, "
          ++ s!"check interval: {config.checkIntervalSecs}s)"⟩] }

/-- Answers a request, or says why not. -/
def service (now : Nat) (request : Request) (site : Site) : Except Failure Response × Site :=
  let (outcome, engine) := site.dispatcher.service now request site.engine
  (outcome, { site with engine := engine })

end Site

end TemplateServer
