import Switchyard.Proofs.Context.Sizes
import Switchyard.Proofs.Execution.Delivery
import Switchyard.Proofs.Execution.Sightings
set_option autoImplicit false

/-! The size limit along a walk. Contexts are written from many places: the request, the flag of the
engine, parameters, outputs, the previous result, capability replies, apologies. All of them write
through `Context.set`, and what they write is cut down even where it is put together from values
that are each within the limit. Main statement: `contexts_stay_within_limit`. -/
namespace Switchyard

theorem Controller.prepare_within (request : Request) : (Controller.prepare request).Within :=
  (Context.within_ofRequest request.correlationId request.input request.context).set _ _

section Nodes

variable {context : Context}

theorem withParameters_within (within : context.Within) (action : NodeAction) :
    (withParameters action context).Within := by
  unfold withParameters
  split
  · exact within
  · exact within.set _ _

/-- The outputs are cut down one by one, and once more all together as the previous result. -/
theorem contextAfterLeaf_within (within : context.Within) (action : NodeAction)
    (leaf : DataFlowNode) (outputs : Dict Json) :
    (contextAfterLeaf action leaf outputs context).Within := by
  have merged := (withParameters_within within action).setAll (Leaves.complete leaf outputs).entries
  exact (merged.set _ _).remove _

theorem Executor.Leaves.within {executor : Executor} {node : DecisionNode} {outcome : NodeOutcome}
    (leaves : executor.Leaves node context outcome) (within : context.Within) :
    outcome.context.Within := by
  cases leaves with
  | decided _ _ => exact within
  | passed _ _ => exact within
  | ran _ _ _ => exact contextAfterLeaf_within within _ _ _
  | asked _ _ => exact within.set _ _
  | apologised _ _ => exact (within.set _ _).set _ _
  | fellBack _ _ _ => exact (contextAfterLeaf_within within _ _ _).set _ _

theorem Executor.handedOut_within {executor : Executor} {node : DecisionNode} {work : Work}
    (within : context.Within) (handedOut : (executor.enter node context).1 = .handedOut work) :
    work.context.Within := by
  rcases executor.handedOut_cases handedOut with ⟨action, leaf, -, -, rfl⟩ | ⟨action, -, rfl⟩
  · exact withParameters_within within action
  · exact within

end Nodes

/-- The limit along a walk is an invariant that does not depend on what has been begun. -/
theorem kept_within (executor : Executor) : Kept executor fun _ context => context.Within := by
  intro begun node given outcome within leaves
  exact leaves.within within

/-- Whatever the graph, the request, the parameters of the actions, the leaves and the capability
replies, and whenever the walk is cancelled: every value is within the limit in every context that a
condition is evaluated in or a capability request is made up from, and in every context that work is
handed out in; and so is every value that an answer tells of. What is set is held as it is if its
compact text is within the limit, and otherwise as the marker of its size, and nothing else changes. -/
theorem contexts_stay_within_limit (controller : Controller) (request : Request)
    (told : List (Timestamp × Bool)) :
    (∀ sighting ∈ (Walk.start controller.root (Controller.prepare request)).sightsAlong
        controller.executor told,
      sighting.given.Within ∧
      ∀ work, (controller.executor.enter sighting.node sighting.given).1 = .handedOut work →
        work.context.Within) ∧
    (∀ result now answer values,
      (Walk.start controller.root (Controller.prepare request)).advanceAll
        controller.executor told = .ended result →
      (controller.conclude now request result).1 = .ok answer → answer.context = some values →
      ∀ key value, values.get? key = some value → Context.Fits value) ∧
    ∀ (context : Context) (key : String) (value : Json),
      (value.compact.utf8ByteSize ≤ Context.sizeLimit →
        (context.set key value).get? key = some value) ∧
      (Context.sizeLimit < value.compact.utf8ByteSize →
        (context.set key value).get? key =
          some (.obj [("_original_size", .int value.compact.utf8ByteSize),
            ("_truncated", .bool true)])) ∧
      ∀ other, other ≠ key → (context.set key value).get? other = context.get? other := by
  have begins : (Controller.prepare request).Within := Controller.prepare_within request
  obtain ⟨shown, stands⟩ := (kept_within controller.executor).along begins told
  refine ⟨?_, ?_, ?_⟩
  · intro sighting inside
    obtain ⟨earlier, later, split⟩ := List.append_of_mem inside
    have within := shown earlier sighting later split
    refine ⟨within, ?_⟩
    intro work handedOut
    exact Executor.handedOut_within within handedOut
  · intro result now answer values ended concluded tells
    rcases Controller.walked_or_unwalked concluded with
      ⟨context, rfl, rfl⟩ | ⟨response, rfl⟩ | rfl
    · obtain rfl := Option.some.inj tells
      exact stands context ended
    · cases tells
    · cases tells
  · intro context key value
    rw [Json.utf8ByteSize_compact]
    refine ⟨?_, ?_, ?_⟩
    · intro small
      rw [Context.get?_set, if_pos rfl, Context.stored_of_small small]
    · intro large
      rw [Context.get?_set, if_pos rfl, Context.stored_of_large large]
      rfl
    · intro other different
      rw [Context.get?_set, if_neg (Ne.symm different)]

end Switchyard
