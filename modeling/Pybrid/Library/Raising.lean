import Mathlib

/-! Computations that raise and keep their state, and the rules for the runs that return. -/

namespace Raising

variable {ε σ α β : Type}

/-- A sequence returns when its first part returns and its second returns from there. -/
theorem bind_eq_ok {first : EStateM ε σ α} {second : α → EStateM ε σ β} {start final : σ} {b : β} :
    (first >>= second) start = .ok b final ↔
      ∃ a middle, first start = .ok a middle ∧ second a middle = .ok b final := by
  -- Either the first part raises and nothing follows, or its result is handed on.
  show EStateM.bind first second start = _ ↔ _
  unfold EStateM.bind
  cases first start <;> simp

/-- A sequence goes on from where its first part has returned. -/
theorem bind_of_ok {first : EStateM ε σ α} {second : α → EStateM ε σ β} {start middle : σ} {a : α}
    (returned : first start = .ok a middle) : (first >>= second) start = second a middle := by
  -- The first part has returned, so the second one decides.
  show EStateM.bind first second start = _
  simp only [EStateM.bind, returned]

/-- A sequence raises what its first part has raised. -/
theorem bind_of_error {first : EStateM ε σ α} {second : α → EStateM ε σ β} {start middle : σ}
    {error : ε} (raised : first start = .error error middle) :
    (first >>= second) start = .error error middle := by
  show EStateM.bind first second start = _
  simp only [EStateM.bind, raised]

/-- The state a computation ends in, whether it returned or raised. -/
def final : EStateM.Result ε σ α → σ
  | .ok _ state => state
  | .error _ state => state

/-- Reading the state hands it on. -/
theorem get_bind {second : σ → EStateM ε σ β} {start : σ} :
    (get >>= second) start = second start start := rfl

/-- Raising does not return. -/
theorem throw_ne_ok {error : ε} {start final : σ} {a : α} :
    (throw error : EStateM ε σ α) start ≠ .ok a final := by
  -- The two results are built by different constructors.
  simp [throw, throwThe, MonadExceptOf.throw, EStateM.throw]

/-- Doing nothing returns in the state it started in. -/
theorem pure_eq_ok {a b : α} {start final : σ} :
    (pure a : EStateM ε σ α) start = .ok b final ↔ a = b ∧ start = final := by
  show EStateM.pure a start = _ ↔ _
  simp [EStateM.pure]

/-- What every round of a loop establishes for one more element holds for the whole list. -/
theorem forM_invariant {body : α → EStateM ε σ Unit} (holds : List α → σ → Prop) {all : List α}
    (keeps : ∀ done next later before after, all = done ++ next :: later → holds done before →
      body next before = .ok () after → holds (done ++ [next]) after) {start final : σ}
    (initially : holds [] start) (ran : all.forM body start = .ok () final) : holds all final := by
  -- The induction is on the elements still to come, behind those already done.
  have general : ∀ (later done : List α) (middle : σ), all = done ++ later → holds done middle →
      later.forM body middle = .ok () final → holds all final := by
    intro later
    induction later with
    | nil =>
      intro done middle whole held ran
      obtain ⟨_, rfl⟩ := pure_eq_ok.mp ran
      simpa [whole] using held
    | cons next later ih =>
      intro done middle whole held ran
      obtain ⟨_, after, stepped, rest⟩ := bind_eq_ok.mp ran
      exact ih (done ++ [next]) after (by simp [whole])
        (keeps done next later middle after whole held stepped) rest
  exact general all [] start rfl initially ran

/-- What every step of a loop keeps holds of the value and the state the loop returns. -/
theorem foldlM_invariant {step : β → α → EStateM ε σ β} (holds : β → σ → Prop)
    (keeps : ∀ b a before b' after, holds b before → step b a before = .ok b' after → holds b' after)
    {elements : List α} {b b' : β} {start final : σ} (initially : holds b start)
    (ran : elements.foldlM step b start = .ok b' final) : holds b' final := by
  -- The induction is on the elements, from whatever value and state the loop has got to.
  induction elements generalizing b start with
  | nil =>
    obtain ⟨rfl, rfl⟩ := pure_eq_ok.mp ran
    exact initially
  | cons a later ih =>
    rw [List.foldlM_cons] at ran
    obtain ⟨middle, after, stepped, rest⟩ := bind_eq_ok.mp ran
    exact ih (keeps b a start middle after initially stepped) rest

/-- A computation leaves a view of the state alone, whether it returns or raises. -/
def Leaves {γ : Type} (view : σ → γ) (m : EStateM ε σ α) : Prop :=
  ∀ start, view (final (m start)) = view start

namespace Leaves

variable {γ : Type} {view : σ → γ}

/-- What is read off a view that is left alone is left alone, too. -/
theorem map {γ' : Type} {m : EStateM ε σ α} (leaves : Leaves view m) (read : γ → γ') :
    Leaves (fun s => read (view s)) m := fun start => congrArg read (leaves start)

/-- A sequence leaves alone what both of its parts do. -/
theorem bind {first : EStateM ε σ α} {second : α → EStateM ε σ β} (here : Leaves view first)
    (behind : ∀ a, Leaves view (second a)) : Leaves view (first >>= second) := by
  intro start
  have before := here start
  -- An error of the first part ends the sequence where it was raised.
  cases ran : first start with
  | ok a middle =>
    rw [ran] at before
    rw [bind_of_ok ran, behind a middle]
    exact before
  | error error middle =>
    rw [ran] at before
    rw [bind_of_error ran]
    exact before

/-- Raising leaves everything alone. -/
theorem throw (error : ε) : Leaves view (throw error : EStateM ε σ α) := fun _ => rfl

/-- Doing nothing leaves everything alone. -/
theorem pure (a : α) : Leaves view (pure a : EStateM ε σ α) := fun _ => rfl

/-- A loop leaves alone what each of its rounds does. -/
theorem forM {body : α → EStateM ε σ Unit} (each : ∀ a, Leaves view (body a)) (elements : List α) :
    Leaves view (elements.forM body) := by
  induction elements with
  | nil => exact pure ()
  | cons a later ih => exact bind (each a) fun _ => ih

end Leaves

/-- A sequence without state returns when its first part does and the second one goes on from it. -/
theorem except_bind_eq_ok {first : Except ε α} {second : α → Except ε β} {b : β} :
    (first >>= second) = .ok b ↔ ∃ a, first = .ok a ∧ second a = .ok b := by
  cases first <;> simp [bind, Except.bind]

/-- Returning a value returns just that one. -/
theorem except_pure_eq_ok {a b : α} : (pure a : Except ε α) = .ok b ↔ a = b := by
  simp [pure, Except.pure]

/-- A changed value is returned when the value is. -/
theorem except_map_eq_ok {first : Except ε α} {change : α → β} {b : β} :
    (change <$> first) = .ok b ↔ ∃ a, first = .ok a ∧ change a = b := by
  cases first <;> simp [Functor.map, Except.map]

/-- A value that is changed twice is changed once by both. -/
theorem except_map_map {γ : Type} (first : Except ε α) (change : α → β) (further : β → γ) :
    (first.map change).map further = first.map fun a => further (change a) := by
  cases first <;> rfl

/-- Elements that change nothing can be left out of a loop. -/
theorem foldlM_filter_idle {step : σ → α → Except ε σ} {keep : α → Bool}
    (idle : ∀ state a, keep a = false → step state a = .ok state) (elements : List α) (start : σ) :
    (elements.filter keep).foldlM step start = elements.foldlM step start := by
  induction elements generalizing start with
  | nil => rfl
  | cons a later ih =>
    -- An element that is left out would have changed nothing.
    cases kept : keep a with
    | true => simp [kept, ih]
    | false =>
      rw [List.filter_cons_of_neg (by simp [kept]), List.foldlM_cons, idle start a kept, ih]
      rfl

/-- A loop returns when the computation for each of its elements does. -/
theorem mapM_eq_ok {body : α → Except ε β} {elements : List α} {values : List β} :
    elements.mapM body = .ok values ↔
      List.Forall₂ (fun element value => body element = .ok value) elements values := by
  induction elements generalizing values with
  | nil =>
    rw [List.forall₂_nil_left_iff, List.mapM_nil]
    exact ⟨fun same => (Except.ok.inj same).symm, fun same => congrArg Except.ok same.symm⟩
  | cons element later ih =>
    rw [List.forall₂_cons_left_iff, List.mapM_cons]
    -- The loop raises with the first element that does.
    cases first : body element with
    | error error => simp [bind, Except.bind]
    | ok value =>
      cases rest : later.mapM body with
      | error error =>
        have never : ∀ values, ¬ List.Forall₂ (fun element value => body element = .ok value)
            later values := fun values all => by simpa [rest] using ih.mpr all
        simp [bind, Except.bind, never]
      | ok others =>
        have unique : ∀ values, List.Forall₂ (fun element value => body element = .ok value)
            later values ↔ others = values := fun values => by rw [← ih, rest, Except.ok.injEq]
        simp [bind, Except.bind, pure, Except.pure, unique, eq_comm]

/-- A loop whose elements each return a known value under a condition returns all of them. -/
theorem mapM_eq_ok_iff {body : α → Except ε β} {elements : List α} {meets : α → Prop} {value : α → β}
    (each : ∀ element ∈ elements, ∀ returned,
      body element = .ok returned ↔ meets element ∧ returned = value element)
    {values : List β} :
    elements.mapM body = .ok values ↔
      (∀ element ∈ elements, meets element) ∧ values = elements.map value := by
  rw [mapM_eq_ok]
  induction elements generalizing values with
  | nil => simp
  | cons element later ih =>
    -- The condition is one on each element alone.
    have others := fun other member => each other (List.mem_cons_of_mem element member)
    simp only [List.forall₂_cons_left_iff, each element List.mem_cons_self, ih others,
      List.forall_mem_cons, List.map_cons]
    constructor
    · rintro ⟨_, _, ⟨here, rfl⟩, ⟨behind, rfl⟩, rfl⟩
      exact ⟨⟨here, behind⟩, rfl⟩
    · rintro ⟨⟨here, behind⟩, rfl⟩
      exact ⟨_, _, ⟨here, rfl⟩, ⟨behind, rfl⟩, rfl⟩

/-- A loop that changes each of its values changes the list of them. -/
theorem mapM_change {γ : Type} (body : α → Except ε β) (change : β → γ) (elements : List α) :
    elements.mapM (fun a => (body a).map change) = (elements.mapM body).map (List.map change) := by
  -- The change is made to each value, and an error is left as it is.
  induction elements with
  | nil => rfl
  | cons a later ih =>
    rw [List.mapM_cons, List.mapM_cons, ih]
    cases body a with
    | error error => rfl
    | ok value => cases later.mapM body <;> rfl

/-- What belongs to one of the elements, such as what a loop computed for it, is among the values. -/
theorem forall₂_target {related : α → β → Prop} {elements : List α} {values : List β}
    (all : List.Forall₂ related elements values) {element : α} (member : element ∈ elements) :
    ∃ value ∈ values, related element value := by
  -- The two lists are gone through side by side.
  induction all with
  | nil => simp at member
  | cons first _ ih =>
    rcases List.mem_cons.mp member with rfl | later
    · exact ⟨_, List.mem_cons_self, first⟩
    · obtain ⟨value, found, same⟩ := ih later
      exact ⟨value, List.mem_cons_of_mem _ found, same⟩

/-- Each of the values, such as those a loop computed, belongs to one of the elements. -/
theorem forall₂_source {related : α → β → Prop} {elements : List α} {values : List β}
    (all : List.Forall₂ related elements values) {value : β} (member : value ∈ values) :
    ∃ element ∈ elements, related element value := by
  -- The two lists are gone through side by side.
  induction all with
  | nil => simp at member
  | cons first _ ih =>
    rcases List.mem_cons.mp member with rfl | later
    · exact ⟨_, List.mem_cons_self, first⟩
    · obtain ⟨element, found, same⟩ := ih later
      exact ⟨element, List.mem_cons_of_mem _ found, same⟩

/-- A loop over elements that all return returns. -/
theorem mapM_ok {body : α → Except ε β} {elements : List α}
    (each : ∀ element ∈ elements, ∃ value, body element = .ok value) :
    ∃ values, elements.mapM body = .ok values := by
  -- No element raises, so that the loop gets to the end.
  induction elements with
  | nil => exact ⟨[], rfl⟩
  | cons element later ih =>
    obtain ⟨value, here⟩ := each element List.mem_cons_self
    obtain ⟨values, rest⟩ := ih fun other member => each other (List.mem_cons_of_mem _ member)
    exact ⟨value :: values, mapM_eq_ok.mpr (.cons here (mapM_eq_ok.mp rest))⟩

end Raising
