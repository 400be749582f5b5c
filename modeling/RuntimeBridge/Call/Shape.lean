/-
# Call shapes

There are four calling conventions, one for each answer to two questions: does the callee take
parameters, and does it return values?
-/
namespace RuntimeBridge

inductive CallShape where
  | paramsRet
  | paramsNoRet
  | noParamsRet
  | noParamsNoRet
  deriving DecidableEq, Repr

namespace CallShape

/-- The shape of a callee with so many parameters and return values. -/
def ofCounts (params retvals : Nat) : CallShape :=
  if params > 0 then
    if retvals > 0 then paramsRet else paramsNoRet
  else
    if retvals > 0 then noParamsRet else noParamsNoRet

def hasParams : CallShape → Bool
  | paramsRet | paramsNoRet => true
  | noParamsRet | noParamsNoRet => false

def hasRetvals : CallShape → Bool
  | paramsRet | noParamsRet => true
  | paramsNoRet | noParamsNoRet => false

def name : CallShape → String
  | paramsRet => "params_ret"
  | paramsNoRet => "params_no_ret"
  | noParamsRet => "no_params_ret"
  | noParamsNoRet => "no_params_no_ret"

/-- The name of a shape in descriptions of entities. -/
def title : CallShape → String
  | paramsRet => "ParamsRet"
  | paramsNoRet => "ParamsNoRet"
  | noParamsRet => "NoParamsRet"
  | noParamsNoRet => "NoParamsNoRet"

def all : List CallShape := [paramsRet, paramsNoRet, noParamsRet, noParamsNoRet]

theorem hasParams_ofCounts (p r : Nat) : (ofCounts p r).hasParams = decide (0 < p) := by
  unfold ofCounts
  split <;> split <;> simp_all [hasParams]

theorem hasRetvals_ofCounts (p r : Nat) : (ofCounts p r).hasRetvals = decide (0 < r) := by
  unfold ofCounts
  split <;> split <;> simp_all [hasRetvals]

end CallShape

end RuntimeBridge
