/-
# TOML

The data of a TOML document.  Numbers in floating point and dates keep nothing but the fact that they
are there; no setting is one of them.
-/
namespace RuntimeBridge

inductive Toml where
  | text (s : String)
  | integer (n : Int)
  | float
  | boolean (b : Bool)
  /-- A date, a time, or both. -/
  | moment
  | array (items : List Toml)
  | table (entries : List (String × Toml))

namespace Toml

def text? : Toml → Option String
  | text s => some s
  | _ => none

def integer? : Toml → Option Int
  | integer n => some n
  | _ => none

def boolean? : Toml → Option Bool
  | boolean b => some b
  | _ => none

def items? : Toml → Option (List Toml)
  | array items => some items
  | _ => none

def entries? : Toml → Option (List (String × Toml))
  | table entries => some entries
  | _ => none

end Toml

end RuntimeBridge
