/-
# Sample programs

A program made of sample bodies, given by the identities of their functions, and the sample routines
of other runtimes.
-/
import RuntimeBridge.Sample.Body
import RuntimeBridge.Sample.Routine
import RuntimeBridge.Call.Invoke
namespace RuntimeBridge

/-- The bodies of functions, by identity. -/
abbrev SampleTable := List (Nat × SampleBody)

/-- The program of a table; a function that is not in it returns nothing. -/
def SampleTable.program (table : SampleTable) : Program where
  body f args := ((table.lookup f.identity).getD .tick).action args
  remote := SampleRoutine.run

/-- A depth that no run of sample bodies uses up.  A body calls with fewer arguments than it was
given, or with results of such a call, so calls nest no deeper than there are arguments. -/
def sampleDepth : Nat := 1000

end RuntimeBridge
