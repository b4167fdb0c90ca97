import Mathlib

/-! Runs of a partial step function, and the induction rules for what they preserve. -/

namespace Transition

variable {σ α : Type*}

/-- Perform the actions in order, failing at the first one that is not enabled. -/
def run (step : σ → α → Option σ) : σ → List α → Option σ
  | state, [] => some state
  | state, action :: later => (step state action).bind fun next => run step next later

/-- Every action of the run is taken in a state that meets the condition. -/
def Meets (step : σ → α → Option σ) (condition : σ → α → Prop) : σ → List α → Prop
  -- An action that is not enabled ends the run, and nothing is asked of the ones behind it.
  | _, [] => True
  | state, action :: later =>
    condition state action ∧
      ∀ next, step state action = some next → Meets step condition next later

/-- Whether a given run meets a condition can be found out by performing it. -/
instance decidableMeets (step : σ → α → Option σ) (condition : σ → α → Prop)
    [∀ state action, Decidable (condition state action)] :
    ∀ state actions, Decidable (Meets step condition state actions)
  | _, [] => isTrue trivial
  | state, action :: later =>
    match stepped : step state action with
    | none => decidable_of_iff (condition state action) (by simp [Meets, stepped])
    | some next =>
      have := decidableMeets step condition next later
      decidable_of_iff (condition state action ∧ Meets step condition next later)
        (by simp [Meets, stepped])

/-- Some run from the initial state leads to this state. -/
def Reachable (step : σ → α → Option σ) (initial state : σ) : Prop :=
  ∃ actions, run step initial actions = some state

@[simp] theorem run_nil (step : σ → α → Option σ) (state : σ) : run step state [] = some state :=
  rfl

/-- A run over a concatenation is a run over its first part followed by one over its second. -/
theorem run_append (step : σ → α → Option σ) (first second : List α) (state : σ) :
    run step state (first ++ second) = (run step state first).bind (run step · second) := by
  induction first generalizing state with
  | nil => rfl
  | cons action first ih =>
    simp only [List.cons_append, run]
    cases step state action with
    | none => rfl
    | some next => exact ih next

/-- A run that meets a condition meets it in its first part. -/
theorem Meets.left {step : σ → α → Option σ} {condition : σ → α → Prop} {second : List α} :
    ∀ {first : List α} {state : σ}, Meets step condition state (first ++ second) →
      Meets step condition state first := by
  intro first
  -- The condition is asked of each action at the state before it.
  induction first with
  | nil => intro _ _; trivial
  | cons action first ih => exact fun meets => ⟨meets.1, fun next stepped => ih (meets.2 next stepped)⟩

/-- A run that meets a condition meets it in its second part. -/
theorem Meets.right {step : σ → α → Option σ} {condition : σ → α → Prop} {second : List α}
    {middle : σ} : ∀ {first : List α} {state : σ}, Meets step condition state (first ++ second) →
      run step state first = some middle → Meets step condition middle second := by
  intro first
  induction first with
  | nil =>
    intro state meets ran
    simp only [run, Option.some.injEq] at ran
    exact ran ▸ meets
  | cons action first ih =>
    intro state meets ran
    obtain ⟨next, stepped, ran⟩ := Option.bind_eq_some_iff.mp ran
    exact ih (meets.2 next stepped) ran

/-- A run of actions that are all allowed meets the condition that they are. -/
theorem meets_allowed {step : σ → α → Option σ} {allowed : α → Prop} :
    ∀ {actions : List α} {state : σ}, (∀ action ∈ actions, allowed action) →
      Meets step (fun _ action => allowed action) state actions := by
  intro actions
  induction actions with
  | nil => intro _ _; trivial
  | cons action later ih =>
    exact fun all => ⟨all action List.mem_cons_self,
      fun next _ => ih fun other member => all other (List.mem_cons_of_mem _ member)⟩

/-- A system that can follow every step of another one can follow every run of it. -/
theorem run_simulates {τ : Type*} {step : σ → α → Option σ} {follow : τ → α → Option τ}
    {related : σ → τ → Prop}
    (simulates : ∀ state shadow action next, related state shadow → step state action = some next →
      ∃ followed, follow shadow action = some followed ∧ related next followed) :
    ∀ (actions : List α) (state final : σ) (shadow : τ), related state shadow →
      run step state actions = some final →
      ∃ followed, run follow shadow actions = some followed ∧ related final followed := by
  -- The induction is on the actions still to be followed.
  intro actions
  induction actions with
  | nil =>
    intro state final shadow start ran
    simp only [run, Option.some.injEq] at ran
    exact ⟨shadow, rfl, ran ▸ start⟩
  | cons action later ih =>
    intro state final shadow start ran
    obtain ⟨next, stepped, ran⟩ := Option.bind_eq_some_iff.mp ran
    obtain ⟨followed, stepped', start'⟩ := simulates state shadow action next start stepped
    obtain ⟨last, ran', related'⟩ := ih next final followed start' ran
    exact ⟨last, by simp [run, stepped', ran'], related'⟩

/-- What every conditioned step preserves holds at the end of every run that meets the condition. -/
theorem run_preserves {step : σ → α → Option σ} {condition : σ → α → Prop} {holds : σ → Prop}
    (keeps : ∀ state action next, holds state → condition state action →
      step state action = some next → holds next) :
    ∀ (actions : List α) (state final : σ), holds state → Meets step condition state actions →
      run step state actions = some final → holds final := by
  -- The induction is on the actions still to be performed.
  intro actions
  induction actions with
  | nil =>
    intro state final start _ ran
    simp only [run, Option.some.injEq] at ran
    exact ran ▸ start
  | cons action later ih =>
    intro state final start meets ran
    obtain ⟨next, stepped, ran⟩ := Option.bind_eq_some_iff.mp ran
    exact ih next final (keeps state action next start meets.1 stepped) (meets.2 next stepped) ran

/-- Some step of the run was an event of this kind. -/
def Brought (step : σ → α → Option σ) (event : σ → α → σ → Prop) (initial : σ)
    (actions : List α) : Prop :=
  ∃ before action after state next, actions = before ++ action :: after ∧
    run step initial before = some state ∧ step state action = some next ∧ event state action next

/-- The first step brings something about, or a later one does. -/
theorem brought_cons {step : σ → α → Option σ} {event : σ → α → σ → Prop} {state next : σ}
    {action : α} {later : List α} (stepped : step state action = some next) :
    Brought step event state (action :: later) ↔
      event state action next ∨ Brought step event next later := by
  constructor
  · rintro ⟨before, at_, after, middle, reached, whole, ran, moved, happened⟩
    cases before with
    | nil =>
      -- The step in question is the first one.
      cases whole
      simp only [run, Option.some.injEq] at ran
      subst ran
      rw [stepped, Option.some.injEq] at moved
      exact .inl (moved ▸ happened)
    | cons first before =>
      cases whole
      simp only [run, stepped, Option.bind_some] at ran
      exact .inr ⟨before, at_, after, middle, reached, rfl, ran, moved, happened⟩
  · rintro (happened | ⟨before, at_, after, middle, reached, whole, ran, moved, happened⟩)
    · exact ⟨[], action, later, state, next, rfl, rfl, stepped, happened⟩
    · refine ⟨action :: before, at_, after, middle, reached, by rw [whole]; rfl, ?_, moved, happened⟩
      simp only [run, stepped, Option.bind_some]
      exact ran

/-- A flag that only certain events set holds at the end of a run, if one of them has happened. -/
theorem run_flag_iff {step : σ → α → Option σ} {holds flag : σ → Prop}
    {event : σ → α → σ → Prop}
    (keeps : ∀ state action next, holds state → step state action = some next → holds next)
    (sets : ∀ state action next, holds state → step state action = some next →
      (flag next ↔ flag state ∨ event state action next)) :
    ∀ (actions : List α) (state final : σ), holds state → run step state actions = some final →
      (flag final ↔ flag state ∨ Brought step event state actions) := by
  -- The induction is on the actions still to be performed.
  intro actions
  induction actions with
  | nil =>
    intro state final _ ran
    simp only [run, Option.some.injEq] at ran
    subst ran
    have nothing : ¬ Brought step event state [] := by
      rintro ⟨before, action, after, _, _, whole, _⟩
      simp at whole
    simp [nothing]
  | cons action later ih =>
    intro state final start ran
    obtain ⟨next, stepped, ran⟩ := Option.bind_eq_some_iff.mp ran
    rw [ih next final (keeps state action next start stepped) ran,
      sets state action next start stepped, brought_cons stepped, or_assoc]

/-- What every step preserves holds in every reachable state. -/
theorem reachable_preserves {step : σ → α → Option σ} {holds : σ → Prop} {initial state : σ}
    (start : holds initial)
    (keeps : ∀ state action next, holds state → step state action = some next → holds next)
    (reached : Reachable step initial state) : holds state := by
  obtain ⟨actions, ran⟩ := reached
  have free : ∀ (actions : List α) (from_ : σ), Meets step (fun _ _ => True) from_ actions := by
    intro actions
    induction actions with
    | nil => intro _; trivial
    | cons action later ih => intro _; exact ⟨trivial, fun next _ => ih next⟩
  exact run_preserves (fun state action next held _ => keeps state action next held)
    actions initial state start (free actions initial) ran

/-- Where some allowed action always brings the goal closer, a run of such actions reaches it. -/
theorem run_reaches {step : σ → α → Option σ} {holds goal : σ → Prop} {allowed : α → Prop}
    (distance : σ → Nat)
    (advance : ∀ state, holds state → ¬goal state → ∃ action next, allowed action ∧
      step state action = some next ∧ holds next ∧ distance next < distance state) :
    ∀ state, holds state → ∃ actions final, (∀ action ∈ actions, allowed action) ∧
      run step state actions = some final ∧ holds final ∧ goal final := by
  -- The induction is on the distance still to go.
  intro state
  induction bound : distance state using Nat.strong_induction_on generalizing state with
  | _ bound' ih =>
    intro held
    by_cases arrived : goal state
    · exact ⟨[], state, by simp, rfl, held, arrived⟩
    · obtain ⟨action, next, permitted, stepped, held', closer⟩ := advance state held arrived
      obtain ⟨actions, final, permitted', ran, last⟩ :=
        ih (distance next) (by omega) next rfl held'
      refine ⟨action :: actions, final, ?_, by simp [run, stepped, ran], last⟩
      intro other member
      rcases List.mem_cons.mp member with rfl | later
      · exact permitted
      · exact permitted' other later

section Answers

variable {τ β : Type*}

/-- Perform the calls in order, and keep the answer to each of them. -/
def answers (step : σ → α → β × σ) : σ → List α → List β
  | _, [] => []
  | state, call :: later => (step state call).1 :: answers step (step state call).2 later

/-- A system refines another one when it gives the same answers and stays related. -/
theorem answers_refines {step : σ → α → β × σ} {follow : τ → α → β × τ} {related : σ → τ → Prop}
    (refines : ∀ state shadow call, related state shadow →
      (step state call).1 = (follow shadow call).1 ∧
        related (step state call).2 (follow shadow call).2) :
    ∀ (calls : List α) (state : σ) (shadow : τ), related state shadow →
      answers step state calls = answers follow shadow calls := by
  -- The induction is on the calls still to be made.
  intro calls
  induction calls with
  | nil => exact fun _ _ _ => rfl
  | cons call later ih =>
    intro state shadow start
    obtain ⟨answer, next⟩ := refines state shadow call start
    rw [answers, answers, answer, ih _ _ next]

end Answers

end Transition
