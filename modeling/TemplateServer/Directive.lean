import TemplateServer.Failure
import TemplateServer.Text.Pieces

/-!
# The precompile directive

A request that carries the directive asks for its template to be compiled and not executed. The
directive is looked for in the query string as it was sent. Only the first place where its name
occurs is looked at: it is the directive if a parameter ends there or `=` follows, and part of some
other name or value otherwise.
-/

namespace TemplateServer.Directive

def name : String := "jsp_precompile"

/-- What follows the name decides. -/
def ofRest : List Char → Except Failure Bool
  | [] => .ok true
  | c :: rest =>
    if c == '&' then .ok true
    else if c == '=' then
      let value := String.ofList (Text.cut (· == '&') rest).1
      if value == "true" || value == "false" then .ok true
      else .error (.malformedDirective name value)
    else .ok false

/-- Whether a query string asks for compilation only. -/
def detect (query : Option String) : Except Failure Bool :=
  match query.bind fun q => Text.suffixFrom? name.toList q.toList with
  | none => .ok false
  | some found => ofRest (found.drop name.length)

end TemplateServer.Directive
