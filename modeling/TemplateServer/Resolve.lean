import TemplateServer.Failure
import TemplateServer.Log
import TemplateServer.Request

/-!
# Which template a request asks for

One of three signals names the template, and the first one present decides alone: the alias
attribute, then the include attribute, then the path of the request itself.

An include that was delegated further can leave its path behind the request URI that goes with it.
Where the path occurs in that URI, the URI from there on is the path that was meant.
-/

namespace TemplateServer

/-- The attribute that names a template directly. -/
def aliasAttribute : String := "template.file"

/-- The attribute that holds the path of an include. -/
def includePathAttribute : String := "include.servlet_path"

/-- The attribute that holds the request URI of an include. -/
def includeUriAttribute : String := "include.request_uri"

/-- The path that an include means: the longest suffix of its request URI that starts with the
path, if the path is not empty and there is one, and the path otherwise. -/
def includeTarget (path : String) (uri : Option String) : String :=
  if path.isEmpty then path
  else
    match uri.bind fun u => Text.suffixFrom? path.toList u.toList with
    | some current => String.ofList current
    | none => path

namespace Request

/-- The path that names the template. -/
def target (r : Request) : String :=
  match r.attribute? aliasAttribute, r.attribute? includePathAttribute with
  | some path, _ => path
  | none, some path => includeTarget path (r.attribute? includeUriAttribute)
  | none, none => r.servletPath ++ r.pathInfo.getD ""

/-- The identity of the template. -/
def resolve (r : Request) : Except Failure Identity := Identity.parse r.target

/-- A path of an include that was corrected is noted. -/
def resolveNotes (r : Request) : List Log.Event :=
  match r.attribute? aliasAttribute, r.attribute? includePathAttribute,
      r.attribute? includeUriAttribute with
  | none, some path, some uri =>
    let current := includeTarget path (some uri)
    if current == path then []
    else
      [⟨.trace, .resolver, s!"Include path {path} corrected to {current} from request URI {uri}"⟩]
  | _, _, _ => []

end Request

end TemplateServer
