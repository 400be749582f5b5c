/-
# Places

Where in a list of values something happened: the index of the top-level value, then the indices
of the nested arrays down to the value itself.  A place may also be named by a label where there
is no list, as for a single value.
-/
namespace RuntimeBridge

/-- Indices from the outermost inwards. -/
abbrev IndexPath := List Nat

/-- The text of a path: each index in square brackets, `<root>` when there is none. -/
def IndexPath.toText : IndexPath → String
  | [] => "<root>"
  | path => String.join (path.map fun i => "[" ++ i.repr ++ "]")

inductive Place where
  | path (p : IndexPath)
  | label (s : String)
  deriving DecidableEq, Repr

def Place.toText : Place → String
  | .path p => p.toText
  | .label s => s

/-- The place of a value converted on its own. -/
def Place.single : Place := .label "<value>"

end RuntimeBridge
