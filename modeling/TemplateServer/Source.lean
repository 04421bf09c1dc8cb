import TemplateServer.Failure

/-!
# Where sources come from

A `SourceStore` answers three questions about an identity: whether there is a source, what its text
is, and when it was last changed. Every answer may depend on all that happened before it, so a store
is a machine over a state of its own; a store that changes between two questions of one request is
such a machine as well.
-/

namespace TemplateServer

/-- The questions that a store of sources answers. -/
structure SourceStore (σ : Type) where
  has : Identity → StateM σ Bool
  read : Identity → StateM σ (Except Failure String)
  /-- When a source was last changed, if that is known. -/
  modified : Identity → StateM σ (Option Nat)

end TemplateServer
