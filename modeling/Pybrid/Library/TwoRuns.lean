import Pybrid.Library.Raising

/-! Two runs side by side, and what one of two users of a system notices of the other. -/

namespace TwoRuns

section Computations

variable {ε σ τ α β : Type} {related : σ → τ → Prop}

/-- Both computations ended alike: with the same value or error, in related states. -/
def Alike (related : σ → τ → Prop) : EStateM.Result ε σ α → EStateM.Result ε τ α → Prop
  | .ok a s, .ok b t => a = b ∧ related s t
  | .error error s, .error other t => error = other ∧ related s t
  | _, _ => False

/-- Sequences end alike when their parts do. -/
theorem Alike.bind {between : σ → τ → Prop} {first : EStateM ε σ α} {first' : EStateM ε τ α}
    {second : α → EStateM ε σ β} {second' : α → EStateM ε τ β} {s : σ} {t : τ}
    (begins : Alike between (first s) (first' t)) (implied : ∀ s t, between s t → related s t)
    (goesOn : ∀ a s t, between s t → Alike related (second a s) (second' a t)) :
    Alike related ((first >>= second) s) ((first' >>= second') t) := by
  -- Both first parts return or both raise, and what follows starts from related states.
  cases ended : first s with
  | ok a middle =>
    cases ended' : first' t with
    | ok b middle' =>
      rw [ended, ended'] at begins
      obtain ⟨rfl, states⟩ := begins
      rw [Raising.bind_of_ok ended, Raising.bind_of_ok ended']
      exact goesOn a middle middle' states
    | error error middle' =>
      rw [ended, ended'] at begins
      exact begins.elim
  | error error middle =>
    cases ended' : first' t with
    | ok b middle' =>
      rw [ended, ended'] at begins
      exact begins.elim
    | error other middle' =>
      rw [ended, ended'] at begins
      rw [Raising.bind_of_error ended, Raising.bind_of_error ended']
      exact ⟨begins.1, implied _ _ begins.2⟩

/-- Loops end alike when their rounds do. -/
theorem Alike.forM {body : α → EStateM ε σ Unit} {body' : α → EStateM ε τ Unit} {all : List α}
    (round : ∀ a ∈ all, ∀ s t, related s t → Alike related (body a s) (body' a t)) :
    ∀ s t, related s t → Alike related (all.forM body s) (all.forM body' t) := by
  -- The states stay related from one round to the next.
  induction all with
  | nil => exact fun s t states => ⟨rfl, states⟩
  | cons next later ih =>
    intro s t states
    have head := round next List.mem_cons_self s t states
    exact head.bind (fun _ _ => id) fun _ =>
      ih fun a member => round a (List.mem_cons_of_mem next member)

/-- What is said of the states in which computations ended alike can be weakened. -/
theorem Alike.weaken {weaker : σ → τ → Prop} (implied : ∀ s t, related s t → weaker s t)
    {result : EStateM.Result ε σ α} {result' : EStateM.Result ε τ α}
    (alike : Alike related result result') : Alike weaker result result' := by
  -- A run that returns is never like one that raises.
  cases result <;> cases result'
  · exact ⟨alike.1, implied _ _ alike.2⟩
  · exact alike.elim
  · exact alike.elim
  · exact ⟨alike.1, implied _ _ alike.2⟩

/-- The states in which alike computations end are related. -/
theorem Alike.final {result : EStateM.Result ε σ α} {result' : EStateM.Result ε τ α}
    (alike : Alike related result result') :
    related (Raising.final result) (Raising.final result') := by
  -- A run that returns is never like one that raises.
  cases result <;> cases result'
  · exact alike.2
  · exact alike.elim
  · exact alike.elim
  · exact alike.2

/-- What was handed on when a computation ended. -/
def outcome : EStateM.Result ε σ α → Except ε α
  | .ok a _ => .ok a
  | .error error _ => .error error

/-- Alike computations hand on the same. -/
theorem Alike.outcome {result : EStateM.Result ε σ α} {result' : EStateM.Result ε τ α}
    (alike : Alike related result result') :
    TwoRuns.outcome result = TwoRuns.outcome result' := by
  -- A run that returns is never like one that raises.
  cases result <;> cases result'
  · exact congrArg Except.ok alike.1
  · exact alike.elim
  · exact alike.elim
  · exact congrArg Except.error alike.1

/-- The computation leads from states with one property to states with another one. -/
def Leads (before after : σ → Prop) (program : EStateM ε σ α) : Prop :=
  ∀ s, before s → after (Raising.final (program s))

/-- A sequence leads on from where its first part has led. -/
theorem Leads.bind {before between after : σ → Prop} {first : EStateM ε σ α}
    {second : α → EStateM ε σ β} (begins : Leads before between first)
    (implied : ∀ s, between s → after s) (goesOn : ∀ a, Leads between after (second a)) :
    Leads before after (first >>= second) := by
  intro s held
  have middle := begins s held
  -- A first part that raises ends the sequence.
  cases ended : first s with
  | ok a next =>
    rw [ended] at middle
    rw [Raising.bind_of_ok ended]
    exact goesOn a next middle
  | error error next =>
    rw [ended] at middle
    rw [Raising.bind_of_error ended]
    exact implied next middle

/-- A loop keeps what its rounds keep. -/
theorem Leads.forM {holds : σ → Prop} {body : α → EStateM ε σ Unit} {all : List α}
    (round : ∀ a ∈ all, Leads holds holds (body a)) : Leads holds holds (all.forM body) := by
  induction all with
  | nil => exact fun s held => held
  | cons next later ih =>
    -- What one round needs is what it leaves behind.
    have head := round next List.mem_cons_self
    exact head.bind (fun _ => id) fun _ =>
      ih fun a member => round a (List.mem_cons_of_mem next member)

end Computations

section Users

variable {σ α : Type} {step : σ → α → σ} {condition : σ → α → Prop}

/-- Every step of the run meets the condition in the state it starts from. -/
def Throughout (step : σ → α → σ) (condition : σ → α → Prop) : σ → List α → Prop
  | _, [] => True
  | s, a :: later => condition s a ∧ Throughout step condition (step s a) later

/-- What holds all along a run holds at its start, and all along the rest of it. -/
theorem along_cons {holds : σ → Prop} {s : σ} {a : α} {later : List α} :
    (∀ run, run <+: a :: later → holds (run.foldl step s)) ↔
      holds s ∧ ∀ run, run <+: later → holds (run.foldl step (step s a)) := by
  constructor
  · intro held
    exact ⟨held [] List.nil_prefix,
      fun run begun => held (a :: run) (List.cons_prefix_cons.mpr ⟨rfl, begun⟩)⟩
  · rintro ⟨here, held⟩ run begun
    -- A part of the run is empty, or goes on behind the first step.
    rcases List.prefix_cons_iff.mp begun with rfl | ⟨rest, rfl, shorter⟩
    · exact here
    · exact held rest shorter

/-- The other users go unnoticed, if every single step of theirs does. -/
theorem unnoticed {own : α → Bool} {related : σ → σ → Prop}
    (ours : ∀ s t a, related s t → condition s a → own a = true → related (step s a) (step t a))
    (theirs : ∀ s t a, related s t → condition s a → own a = false → related (step s a) t)
    {run : List α} : ∀ s t, related s t → Throughout step condition s run →
      related (run.foldl step s) ((run.filter own).foldl step t) := by
  -- The run without the others stands still while they take their steps.
  induction run with
  | nil => exact fun s t states _ => states
  | cons a later ih =>
    intro s t states ⟨now, rest⟩
    cases mine : own a with
    | true =>
      rw [List.filter_cons_of_pos mine]
      exact ih _ _ (ours s t a states now mine) rest
    | false =>
      rw [List.filter_cons_of_neg (by simp [mine])]
      exact ih _ _ (theirs s t a states now mine) rest

end Users

end TwoRuns
