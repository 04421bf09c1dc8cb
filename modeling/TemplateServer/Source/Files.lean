import TemplateServer.Files.Tree
import TemplateServer.Source

/-!
# Sources in files

A store that finds the source of an identity in the file under the document root that the identity
names.
-/

namespace TemplateServer

/-- The failure to read the file of an identity. -/
def Files.Refusal.failure (identity : Identity) : Files.Refusal → Failure
  | .missing => .sourceNotFound identity.text
  | refusal => .io refusal.error

/-- The store of the files under a document root. Questions change nothing. -/
def Files.store (root : String) : SourceStore Files.Tree where
  has identity t := (t.hasFile (identity.fileUnder root), t)
  read identity t :=
    match t.readText (identity.fileUnder root) with
    | .ok text => (.ok text, t)
    | .error refusal => (.error (refusal.failure identity), t)
  modified identity t := (t.modified? (identity.fileUnder root), t)

end TemplateServer
