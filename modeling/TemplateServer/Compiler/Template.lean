import TemplateServer.Compiler
import TemplateServer.Template.Document

/-!
# The template compiler

Its artifacts are documents. Compiling and executing change nothing, and there is nothing to give
back.
-/

namespace TemplateServer.Template

def compiler : Compiler Unit Document where
  compile identity source :=
    pure ((Document.ofSource identity.text source).mapError (.compile identity.text))
  execute document context :=
    pure ((document.render (Value.ofContext context)).mapError (.execution document.name))
  release _ := pure (.ok ())
  notes identity source :=
    [⟨.debug, .compiler, s!"Compiled {identity.text} ({source.utf8ByteSize} bytes)"⟩]

end TemplateServer.Template
