import TemplateServer.Log
import TemplateServer.RenderContext
import TemplateServer.Failure

/-!
# Compilers

A `Compiler` turns the text of a source into an artifact, executes artifacts and releases what they
hold. Artifacts are opaque to everything else in the library. Like a store, a compiler is a machine
over a state of its own.
-/

namespace TemplateServer

/-- What is done with the text of a source. -/
structure Compiler (κ α : Type) where
  /-- Makes an artifact of a source. -/
  compile : Identity → String → StateM κ (Except Failure α)
  /-- The text that an artifact answers. -/
  execute : α → RenderContext → StateM κ (Except Failure String)
  /-- Gives back what an artifact holds, or says why it could not. -/
  release : α → StateM κ (Except String Unit)
  /-- What is noted when a source was compiled. -/
  notes : Identity → String → List Log.Event

end TemplateServer
