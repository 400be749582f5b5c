/-
# Values that conform to a signature

Values conform to declared types when each has the declared type or is declared as `any`, can be sent,
and returns as what it is.  Whether they do is a matter of the values and not of which handles of other
runtimes they hold, so values that came back conform as those that were sent.
-/
import RuntimeBridge.Proofs.Value.Leaves
import RuntimeBridge.Proofs.Wire.RoundTrip
namespace RuntimeBridge

/-! ## 1. What does not depend on identities -/

namespace Value

theorem keepsKinds_anonymous : KeepsKinds anonymous := by
  intro v leaf
  cases v with
  | array items => cases leaf
  | _ => exact ⟨rfl, rfl⟩

theorem mapLeaves_anonymous : mapLeaves anonymous = anonymous := by
  funext v
  induction v using induct with
  | leaf v leaf => exact mapLeaves_leaf anonymous leaf
  | array items ih => rw [mapLeaves_array, anonymous_array, List.map_congr_left ih]

theorem sendable_anonymous (v : Value) : v.anonymous.Sendable ↔ v.Sendable := by
  cases v with
  | array items =>
    rw [anonymous_array]
    exact Iff.rfl
  | _ => exact Iff.rfl

theorem returns_anonymous (v : Value) : v.anonymous.Returns ↔ v.Returns := by
  cases v with
  | array items =>
    rw [anonymous_array]
    exact Iff.rfl
  | _ => exact Iff.rfl

theorem leavesOf_anonymous (items : List Value) :
    leavesOf (items.map anonymous) = (leavesOf items).map anonymous := by
  have mapped := leavesOf_mapLeaves keepsKinds_anonymous items
  rwa [mapLeaves_anonymous] at mapped

/-- The type that inspection finds does not depend on identities. -/
theorem typeInfo_anonymous (v : Value) : v.anonymous.typeInfo = v.typeInfo := by
  rw [← mapLeaves_anonymous, typeInfo_mapLeaves keepsKinds_anonymous]

end Value

/-! ## 2. Conforming values -/

/-- The values can cross the wire under the declared types and are the same behind it. -/
structure Conforms (declared : List TypeInfo) (values : List Value) : Prop where
  suited : Suited declared values
  returns : ∀ leaf ∈ Value.leavesOf values, leaf.Returns
  sendable : ∀ leaf ∈ Value.leavesOf values, leaf.Sendable

theorem conforms_anonymous (declared : List TypeInfo) (values : List Value) :
    Conforms declared (values.map Value.anonymous) ↔ Conforms declared values := by
  have suits : ∀ (info : TypeInfo) v, info.Suits (Value.anonymous v) ↔ info.Suits v := by
    intro info v
    rw [TypeInfo.Suits, TypeInfo.Suits, v.typeInfo_anonymous]
  constructor
  · rintro ⟨suited, returns, sendable⟩
    rw [Value.leavesOf_anonymous] at returns sendable
    refine ⟨fun i info v declares atIndex => ?_, fun leaf mem => ?_, fun leaf mem => ?_⟩
    · exact (suits info v).mp (suited i info _ declares (by rw [List.getElem?_map, atIndex]; rfl))
    · exact leaf.returns_anonymous.mp (returns _ (List.mem_map_of_mem mem))
    · exact leaf.sendable_anonymous.mp (sendable _ (List.mem_map_of_mem mem))
  · rintro ⟨suited, returns, sendable⟩
    refine ⟨fun i info v declares atIndex => ?_, ?_, ?_⟩
    · rw [List.getElem?_map, Option.map_eq_some_iff] at atIndex
      obtain ⟨u, found, rfl⟩ := atIndex
      exact (suits info u).mpr (suited i info u declares found)
    · rw [Value.leavesOf_anonymous, List.forall_mem_map]
      exact fun leaf mem => leaf.returns_anonymous.mpr (returns leaf mem)
    · rw [Value.leavesOf_anonymous, List.forall_mem_map]
      exact fun leaf mem => leaf.sendable_anonymous.mpr (sendable leaf mem)

/-- Values that differ in identities conform alike. -/
theorem Conforms.of_same {declared : List TypeInfo} {us vs : List Value}
    (same : us.map Value.anonymous = vs.map Value.anonymous) (conforms : Conforms declared vs) :
    Conforms declared us := by
  rw [← conforms_anonymous, same, conforms_anonymous]
  exact conforms

theorem length_eq_of_same {us vs : List Value}
    (same : us.map Value.anonymous = vs.map Value.anonymous) : us.length = vs.length := by
  simpa using congrArg List.length same

/-- **Conforming values cross the wire**: they are constructed in a fresh array, and whatever is
registered in between, decoding the array gives the same values. -/
theorem Conforms.sent {declared : List TypeInfo} {values : List Value} (c : Conforms declared values)
    {a : CellArray} (fresh : a.cells = List.replicate values.length .null) (w : World) :
    ∃ b after, ValueSource.construct ⟨values, declared⟩ a w = (.ok (), b, after) ∧ w.Keeps after ∧
      b.cells.length = values.length ∧
      ∀ later, after.Keeps later → ∃ d next, later.decode b.cells values.length = (.ok d, next) ∧
        later.Keeps next ∧ d.slots.map Value.anonymous = values.map Value.anonymous := by
  obtain ⟨ok_iff, keeps, sent⟩ := construct_decode c.suited fresh c.returns w
  have ok := ok_iff.mpr c.sendable
  obtain ⟨form, back⟩ := sent ok
  refine ⟨(ValueSource.construct ⟨values, declared⟩ a w).2.1,
    (ValueSource.construct ⟨values, declared⟩ a w).2.2, Prod.ext ok rfl, keeps,
    by simpa using congrArg List.length form, ?_⟩
  intro later kept
  obtain ⟨d, next, decoded, keeps', same⟩ := back later kept values.length
  rw [Nat.sub_self, List.replicate_zero, List.append_nil] at same
  exact ⟨d, next, decoded, keeps', same⟩

end RuntimeBridge
