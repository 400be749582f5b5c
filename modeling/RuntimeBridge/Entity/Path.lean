/-
# Entity paths

An entity path says which entity of a module is meant: a list of items with commas between them, each
a key, or a key and a value with an equals sign between them.  Values may refer to the environment.
Blanks around items, keys and values do not count, nor do empty items, and of items with one key the
last one counts.

The items of a path are kept in the order of their keys, so that a path has one text.
-/
import RuntimeBridge.Environment.Basic
import RuntimeBridge.Error.Basic
namespace RuntimeBridge

/-- The parts of a list between occurrences of `sep`. -/
def splitChars (sep : Char) : List Char → List (List Char)
  | [] => [[]]
  | c :: cs =>
    if c == sep then [] :: splitChars sep cs
    else
      match splitChars sep cs with
      | [] => [[c]]
      | first :: rest => (c :: first) :: rest

/-- Keys with values, in the order of the keys. -/
structure EntityPath where
  items : List (String × String) := []
  deriving DecidableEq, Repr

namespace EntityPath

/-! ## 1. Items -/

/-- Insert a value under a key, in order, in place of an older value. -/
def insertItem (key value : String) : List (String × String) → List (String × String)
  | [] => [(key, value)]
  | (k, v) :: rest =>
    if key = k then (key, value) :: rest
    else if key < k then (key, value) :: (k, v) :: rest
    else (k, v) :: insertItem key value rest

def insert (p : EntityPath) (key value : String) : EntityPath :=
  ⟨insertItem key value p.items⟩

def get? (p : EntityPath) (key : String) : Option String :=
  p.items.lookup key

def contains (p : EntityPath) (key : String) : Bool :=
  (p.get? key).isSome

def size (p : EntityPath) : Nat := p.items.length

def isEmpty (p : EntityPath) : Bool := p.items.isEmpty

/-! ## 2. Reading -/

/-- Key and value of a trimmed item; the value of a lone key is empty. -/
def parseItem (item : List Char) : Except BridgeError (String × String) :=
  let quoted := "'" ++ String.ofList item ++ "'"
  match (splitChars '=' item).map trimChars with
  | key :: rest =>
    if rest.length > 1 then .error (.invalidEntityPath (quoted ++ " contains too many '='"))
    else if key.isEmpty then .error (.invalidEntityPath (quoted ++ " has an empty key"))
    else .ok (String.ofList key, String.ofList (rest.head?.getD []))
  | [] => .error (.invalidEntityPath (quoted ++ " has an empty key"))

/-- The items of a text that are not blank, without the blanks around them. -/
def itemsOf (text : String) : List (List Char) :=
  ((splitChars ',' text.toList).map trimChars).filter fun item => !item.isEmpty

/-- Put read items into a path, one after the other. -/
def addItems (env : Environment) : EntityPath → List (List Char) → Except BridgeError EntityPath
  | p, [] => .ok p
  | p, item :: rest =>
    match parseItem item with
    | .ok (key, value) => addItems env (p.insert key (env.expand value)) rest
    | .error e => .error e

/-- The path of a text. -/
def parse (env : Environment) (text : String) : Except BridgeError EntityPath :=
  addItems env {} (itemsOf text)

/-! ## 3. Text -/

/-- The text of an item. -/
def itemText (item : String × String) : String :=
  if item.2.isEmpty then item.1 else item.1 ++ "=" ++ item.2

/-- The text of a path. -/
def toText (p : EntityPath) : String :=
  ",".intercalate (p.items.map itemText)

end EntityPath

end RuntimeBridge
