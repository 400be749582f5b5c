/-
# Sample bodies

A catalogue of function bodies that exercise every way through a call: arithmetic, moving values
around, errors, panics, calls of callables passed as arguments, and questions to the process.
-/
import RuntimeBridge.Call.Program
import RuntimeBridge.Value.Native
namespace RuntimeBridge

inductive SampleBody where
  /-- Sum of the first two arguments as 64-bit integers; overflow wraps. -/
  | add
  /-- Quotient of the first two arguments as 64-bit integers. -/
  | div
  /-- Sum of a list of 64-bit integers; overflow wraps. -/
  | sum
  /-- The arguments. -/
  | echo
  /-- The arguments, last one first. -/
  | reverse
  /-- One array of all arguments. -/
  | pack
  | give (values : List Value)
  | raise (e : BridgeError)
  | panic (p : Panic)
  /-- The first argument, called with the others. -/
  | apply
  /-- The first argument, called with the others and then with its own results. -/
  | twice
  /-- How many round trips are under way. -/
  | pinDepth
  /-- How often the function has run. -/
  | count
  | tick
  /-- The types of the arguments, as one text. -/
  | types
  /-- Each argument, converted to a native type and back. -/
  | convert (targets : List NativeType)

namespace SampleBody

/-- A 64-bit integer as the only result. -/
def giveInt (n : Int) : Action :=
  .done [.scalar (.int .int64 (Fixed.wrap .int64 n))]

/-- Go on with argument `k` converted to a native type; a missing argument is a panic. -/
def withArg (args : List Value) (k : Nat) (t : NativeType) (next : t.Data → Action) : Action :=
  match args[k]? with
  | some v => .andThen (t.ofValue v) next
  | none =>
    .panic (.text ("index out of bounds: the len is " ++ args.length.repr ++
      " but the index is " ++ k.repr))

/-- What a body does with its arguments. -/
def action (body : SampleBody) (args : List Value) : Action :=
  match body with
  | add =>
    withArg args 0 (.int .int64) fun a => withArg args 1 (.int .int64) fun b =>
      giveInt (Fixed.val a + Fixed.val b)
  | div =>
    withArg args 0 (.int .int64) fun a => withArg args 1 (.int .int64) fun b =>
      if Fixed.val b = 0 then .fail (.invocation "division by zero")
      else giveInt (Int.tdiv (Fixed.val a) (Fixed.val b))
  | sum =>
    withArg args 0 (.list (.int .int64)) fun (ns : List (Fixed .int64)) =>
      giveInt (ns.foldl (fun total n => total + n.val) 0)
  | echo => .done args
  | reverse => .done args.reverse
  | pack => .done [.array args]
  | give values => .done values
  | raise e => .fail e
  | panic p => .panic p
  | apply => withArg args 0 .callable fun c => .call c args.tail .finish
  | twice =>
    withArg args 0 .callable fun c =>
      .call c args.tail fun
        | .ok results => .call c results .finish
        | .error e => .fail e
  | pinDepth => .pinDepth fun depth => giveInt depth
  | count => .runs fun times => giveInt times
  | tick => .done []
  | types => .done [.string .w8 (",".intercalate (args.map fun v => v.typeInfo.toText))]
  | convert targets =>
    .andThen ((args.zip targets).mapM fun pair => pair.2.convert pair.1) .done

end SampleBody

end RuntimeBridge
