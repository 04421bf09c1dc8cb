import TemplateServer.Dict
import TemplateServer.Text.Percent

/-!
# Requests and responses

A `Request` is one request as the dispatcher sees it, whatever it came in by: its path in the two
parts that a servlet container distinguishes, the query string as it was sent, the attributes that
an include or a forward has set, and the headers in the order of their arrival. The query string is
decoded only by `Request.params`, when a template runs.
-/

namespace TemplateServer

structure Request where
  method : String
  /-- The path as it was sent. -/
  uri : String
  servletPath : String
  pathInfo : Option String
  /-- The query string as it was sent, without the question mark. -/
  query : Option String
  attributes : Dict String
  headers : List (String × String)

namespace Request

/-- A request for a path. A question mark in it is part of the path. -/
def forPath (path : String) : Request :=
  { method := "GET", uri := path, servletPath := path, pathInfo := none, query := none
    attributes := [], headers := [] }

def withQuery (query : String) (r : Request) : Request := { r with query := some query }

/-- A request for a path and, after the first question mark if there is one, a query string. -/
def get (uri : String) : Request :=
  match Text.cut (· == '?') uri.toList with
  | (_, none) => forPath uri
  | (path, some query) => (forPath (String.ofList path)).withQuery (String.ofList query)

def withMethod (method : String) (r : Request) : Request :=
  { r with method := method.map Char.toUpper }

def withPathInfo (servletPath info : String) (r : Request) : Request :=
  { r with servletPath := servletPath, pathInfo := some info }

def withAttribute (name value : String) (r : Request) : Request :=
  { r with attributes := r.attributes.insert name value }

/-- Adds a header after those that are there. -/
def withHeader (name value : String) (r : Request) : Request :=
  { r with headers := r.headers ++ [(name, value)] }

def attribute? (name : String) (r : Request) : Option String := r.attributes.find? name

/-- The parameters: every value of every name, in the order of the query string. -/
def params (r : Request) : Dict (List String) :=
  match r.query with
  | none => []
  | some query =>
    .group <| (Text.formPairs query.toUTF8.toList).map fun (name, value) =>
      (String.ofList name, String.ofList value)

end Request

/-- The type of a page. -/
def htmlContentType : String := "text/html; charset=utf-8"

/-- The type of a message. -/
def textContentType : String := "text/plain; charset=utf-8"

/-- What answers a request. -/
structure Response where
  status : Nat
  contentType : String
  body : String
deriving DecidableEq, Repr

namespace Response

def html (body : String) : Response := ⟨200, htmlContentType, body⟩

/-- The template was compiled and not executed. -/
def compiled : Response := ⟨200, textContentType, ""⟩

/-- A message under a status. -/
def plain (status : Nat) (message : String) : Response := ⟨status, textContentType, message⟩

def isSuccess (r : Response) : Bool := 200 ≤ r.status && r.status < 300

end Response

end TemplateServer
