/-!
# Sets of code points

A property of characters cuts the code points of Unicode into runs, which have it and lack it by
turns. A set of code points is therefore written as the list of the code points at which a run
starts, in ascending order; the first run listed has the property, and what stands before it lacks
it.
-/

namespace TemplateServer.Text

/-- Whether a code point has the property whose runs start at the code points listed. -/
def inRuns : List Nat → Nat → Bool
  | [], _ => false
  | start :: starts, n => if n < start then false else !inRuns starts n

end TemplateServer.Text
