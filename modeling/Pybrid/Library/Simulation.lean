import Mathlib.Data.List.Forall2
import Mathlib.Tactic.TypeStar

/-! A computation without a state, and one that keeps a state and does the same work. -/

namespace Simulation

variable {ε σ α β α' β' γ : Type}

/-- The run ends as the computation does: both raise the same, or both return, and related values. -/
inductive Simulates (related : β → α → σ → Prop) : Except ε β → EStateM.Result ε σ α → Prop
  | returns {value : β} {returned : α} {state : σ} (here : related value returned state) :
    Simulates related (.ok value) (.ok returned state)
  | raises {error : ε} {state : σ} : Simulates related (.error error) (.error error state)

/-- Related values, and the state that the run started in. -/
def Kept (related : β → α → Prop) (start : σ) (value : β) (returned : α) (state : σ) : Prop :=
  related value returned ∧ start = state

/-- More may be known of what is returned than is needed. -/
theorem Simulates.weaken {related wanted : β → α → σ → Prop} {result : Except ε β}
    {run : EStateM.Result ε σ α} (simulates : Simulates related result run)
    (enough : ∀ value returned state, related value returned state → wanted value returned state) :
    Simulates wanted result run := by
  -- Only when both return is there anything to relate.
  cases simulates with
  | returns here => exact .returns (enough _ _ _ here)
  | raises => exact .raises

/-- Sequences do the same work if their first parts do, and their second parts from there. -/
theorem Simulates.bind {related : β → α → σ → Prop} {wanted : β' → α' → σ → Prop}
    {result : Except ε β} {run : EStateM ε σ α} {start : σ} {next : β → Except ε β'}
    {next' : α → EStateM ε σ α'} (first : Simulates related result (run start))
    (second : ∀ value returned state, related value returned state →
      Simulates wanted (next value) (next' returned state)) :
    Simulates wanted (result >>= next) ((run >>= next') start) := by
  show Simulates wanted (Except.bind result next) (EStateM.bind run next' start)
  unfold EStateM.bind
  generalize run start = ended at first
  -- An error of the first parts is that of the sequences.
  cases first with
  | returns here => exact second _ _ _ here
  | raises => exact .raises

/-- What is made of returned values on both sides is related if the values are. -/
theorem Simulates.map {related : β → α → σ → Prop} {wanted : β' → α' → σ → Prop}
    {result : Except ε β} {run : EStateM ε σ α} {start : σ} {make : β → β'} {make' : α → α'}
    (first : Simulates related result (run start))
    (made : ∀ value returned state, related value returned state →
      wanted (make value) (make' returned) state) :
    Simulates wanted (result.map make) ((do return make' (← run)) start) := by
  -- Making something is a sequence whose second part cannot raise.
  have sequence : result.map make = result >>= fun value => pure (make value) := by
    cases result <;> rfl
  rw [sequence]
  exact first.bind fun value returned state here => .returns (made value returned state here)

/-- Loops do the same work if each round does, from related values to related values. -/
theorem foldlM_simulates {related : β → α → σ → Prop} {round : β → γ → Except ε β}
    {round' : α → γ → EStateM ε σ α} {elements : List γ}
    (each : ∀ element ∈ elements, ∀ value returned state, related value returned state →
      Simulates related (round value element) (round' returned element state))
    {value : β} {returned : α} {start : σ} (initially : related value returned start) :
    Simulates related (elements.foldlM round value) (elements.foldlM round' returned start) := by
  -- The induction is on the elements still to come.
  induction elements generalizing value returned start with
  | nil => exact .returns initially
  | cons element later ih =>
    rw [List.foldlM_cons, List.foldlM_cons]
    refine (each element List.mem_cons_self _ _ _ initially).bind fun _ _ _ here => ?_
    exact ih (fun other member => each other (List.mem_cons_of_mem _ member)) here

/-- A loop that only works on the state does the work of one that hands a value on. -/
theorem forM_simulates {holds : β → σ → Prop} {round : β → γ → Except ε β}
    {body : γ → EStateM ε σ PUnit} {elements : List γ}
    (each : ∀ element ∈ elements, ∀ value state, holds value state →
      Simulates (fun after _ => holds after) (round value element) (body element state))
    {value : β} {start : σ} (initially : holds value start) :
    Simulates (fun after _ => holds after) (elements.foldlM round value)
      (elements.forM body start) := by
  -- The value goes along with the state, one element after the other.
  induction elements generalizing value start with
  | nil => exact .returns initially
  | cons element later ih =>
    rw [List.foldlM_cons]
    show Simulates _ _ ((body element >>= fun _ => later.forM body) start)
    refine (each element List.mem_cons_self _ _ initially).bind fun _ _ _ here => ?_
    exact ih (fun other member => each other (List.mem_cons_of_mem _ member)) here

/-- A loop that collects does the same work if each round does, and leaves the state as it was. -/
theorem mapM_simulates {related : β → α → Prop} {start : σ} {round : γ → Except ε β}
    {body : γ → EStateM ε σ α} {elements : List γ}
    (each : ∀ element ∈ elements,
      Simulates (Kept related start) (round element) (body element start)) :
    Simulates (Kept (List.Forall₂ related) start) (elements.mapM round)
      (elements.mapM body start) := by
  -- Every round starts from the same state, so that the induction needs to know only of that one.
  induction elements with
  | nil => exact .returns ⟨.nil, rfl⟩
  | cons element later ih =>
    rw [List.mapM_cons, List.mapM_cons]
    refine (each element List.mem_cons_self).bind ?_
    rintro value returned _ ⟨here, rfl⟩
    refine (ih fun other member => each other (List.mem_cons_of_mem _ member)).bind ?_
    rintro values collected _ ⟨behind, rfl⟩
    exact .returns ⟨.cons here behind, rfl⟩

end Simulation
