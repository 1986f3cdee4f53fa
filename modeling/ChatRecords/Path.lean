/-!
# Paths

Where in a payload something is: the keys and positions that lead to it from the root.

## Main definitions

* `Step`, `Path`: one step and a row of them.
* `Path.render`: the text of a path.
-/

namespace ChatRecords

/-- One step into a payload. -/
inductive Step where
  | key (name : String)
  | index (position : Int)
deriving DecidableEq

/-- The steps that lead from the root of a payload to one of its parts. -/
abbrev Path := List Step

namespace Path

def renderStep : Step → String
  | .key name => "." ++ name
  | .index position => "[" ++ toString position ++ "]"

/-- The text of a path, where the root is a dollar sign. -/
def render (path : Path) : String := "$" ++ String.join (path.map renderStep)

end Path
end ChatRecords
