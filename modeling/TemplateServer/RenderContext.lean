import TemplateServer.Identity
import TemplateServer.Request

/-!
# What a template sees of a request

A `RenderContext` holds everything that a template may use while it runs. Header names are in lower
case, and of several headers of one name the last one counts.
-/

namespace TemplateServer

/-- What a template sees. -/
structure RenderContext where
  identity : String
  uri : String
  method : String
  servletPath : String
  pathInfo : Option String
  query : Option String
  params : Dict (List String)
  attributes : Dict String
  headers : Dict String
  /-- The failure that an error page reports. -/
  error : Option String

namespace RenderContext

/-- What the template of an identity sees of a request. -/
def ofRequest (identity : Identity) (r : Request) (error : Option String) : RenderContext :=
  { identity := identity.text
    uri := r.uri
    method := r.method
    servletPath := r.servletPath
    pathInfo := r.pathInfo
    query := r.query
    params := r.params
    attributes := r.attributes
    headers := .ofPairs (r.headers.map fun (name, value) => (name.map Char.toLower, value))
    error := error }

end RenderContext

end TemplateServer
