/-
# The environment

Variables, and the directory in which the process works.  Each variable is an entry, its name and its
value with an equals sign between them; asking for a name finds the first entry that begins with the
name and the sign.  Two names stand for the directory, whatever their letter case.
-/
import RuntimeBridge.Environment.Expansion
import RuntimeBridge.Text.Blank
namespace RuntimeBridge

structure Environment where
  entries : List (String × String) := []
  directory : String := "/"

namespace Environment

/-- What follows `front` in `cs`, if `cs` begins so. -/
def behind? (front cs : List Char) : Option (List Char) :=
  if front.isPrefixOf cs then some (cs.drop front.length) else none

/-- The value of a variable. -/
def get? (env : Environment) (name : String) : Option String :=
  if name.isEmpty then none
  else
    env.entries.findSome? fun e =>
      (behind? (name.toList ++ ['=']) (e.1.toList ++ '=' :: e.2.toList)).map String.ofList

/-- The value of a name in a reference. -/
def lookup (env : Environment) (name : String) : Option String :=
  if sameIgnoringCase name "CD" || sameIgnoringCase name "PWD" then some env.directory
  else env.get? name

/-- A text with its references replaced by what the environment knows. -/
def expand (env : Environment) (text : String) : String :=
  RuntimeBridge.expand env.lookup text

end Environment

end RuntimeBridge
