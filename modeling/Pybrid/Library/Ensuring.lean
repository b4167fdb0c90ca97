import Pybrid.Library.Raising

/-! Computations that clean up after themselves, and rules for how computations end. -/

namespace Raising

variable {ε σ α β : Type}

/-- Perform the cleanup whether the body returns or raises; what the cleanup raises comes first. -/
def ensure (body : EStateM ε σ α) (cleanup : EStateM ε σ Unit) : EStateM ε σ α := fun start =>
  match body start with
  | .ok a middle =>
    match cleanup middle with
    | .ok _ final => .ok a final
    | .error error final => .error error final
  | .error error middle =>
    -- An error of the cleanup takes the place of the body's.
    match cleanup middle with
    | .ok _ final => .error error final
    | .error later final => .error later final

/-- Perform the body, and hand on what it raises as a value. -/
def attempt (body : EStateM ε σ α) : EStateM ε σ (Except ε α) := fun start =>
  match body start with
  | .ok a final => .ok (.ok a) final
  | .error error final => .ok (.error error) final

/-- Perform the body, and let the handler go on from what it raises. -/
def recover (body : EStateM ε σ α) (handler : ε → EStateM ε σ α) : EStateM ε σ α := fun start =>
  match body start with
  | .ok a final => .ok a final
  | .error error middle => handler error middle

/-- From every state, a return is as the first relation says and a raise as the second one says. -/
def Ends (returns : σ → σ → Prop) (raises : σ → ε → σ → Prop) (program : EStateM ε σ α) : Prop :=
  ∀ start, match program start with
    | .ok _ final => returns start final
    | .error error final => raises start error final

/-- Relations that are kept when one computation follows another. -/
structure Sequential (returns : σ → σ → Prop) (raises : σ → ε → σ → Prop) : Prop where
  /-- Doing nothing is a return. -/
  refl : ∀ state, returns state state
  /-- Two returns in a row are a return. -/
  trans : ∀ {start middle final}, returns start middle → returns middle final → returns start final
  /-- A raise behind a return is a raise. -/
  follow : ∀ {start middle error final},
    returns start middle → raises middle error final → raises start error final

/-- The way a computation ends holds of what it returns. -/
theorem Ends.ok {returns : σ → σ → Prop} {raises : σ → ε → σ → Prop} {program : EStateM ε σ α}
    (ends : Ends returns raises program) {start final : σ} {a : α}
    (returned : program start = .ok a final) : returns start final := by
  have ended := ends start
  rwa [returned] at ended

/-- The way a computation ends holds of what it raises. -/
theorem Ends.error {returns : σ → σ → Prop} {raises : σ → ε → σ → Prop} {program : EStateM ε σ α}
    (ends : Ends returns raises program) {start final : σ} {error : ε}
    (raised : program start = .error error final) : raises start error final := by
  have ended := ends start
  rwa [raised] at ended

/-- What is said of how a computation ends can be weakened. -/
theorem Ends.weaken {returns returns' : σ → σ → Prop} {raises raises' : σ → ε → σ → Prop}
    {program : EStateM ε σ α} (ends : Ends returns raises program)
    (returned : ∀ start final, returns start final → returns' start final)
    (raised : ∀ start error final, raises start error final → raises' start error final) :
    Ends returns' raises' program := by
  intro start
  -- What holds at an end holds whichever of the two it is.
  cases ended : program start with
  | ok a final => exact returned start final (ends.ok ended)
  | error error final => exact raised start error final (ends.error ended)

/-- Raising at once ends as a raise without a change does. -/
theorem Ends.throw {returns : σ → σ → Prop} {raises : σ → ε → σ → Prop} {error : ε}
    (raised : ∀ state, raises state error state) :
    Ends returns raises (throw error : EStateM ε σ α) := fun state => raised state

namespace Sequential

variable {returns : σ → σ → Prop} {raises : σ → ε → σ → Prop}

/-- Doing nothing ends well. -/
theorem pure (sequential : Sequential returns raises) (a : α) :
    Ends returns raises (Pure.pure a : EStateM ε σ α) := fun state => sequential.refl state

/-- A sequence ends as its parts do. -/
theorem bind (sequential : Sequential returns raises) {first : EStateM ε σ α}
    {second : α → EStateM ε σ β} (firstEnds : Ends returns raises first)
    (secondEnds : ∀ a, Ends returns raises (second a)) : Ends returns raises (first >>= second) := by
  -- Either the first part raises and that is all, or the second part goes on from there.
  intro start
  cases began : first start with
  | error error middle =>
    rw [bind_of_error began]
    exact firstEnds.error began
  | ok a middle =>
    rw [bind_of_ok began]
    have returned := firstEnds.ok began
    cases ended : second a middle with
    | ok b final => exact sequential.trans returned ((secondEnds a).ok ended)
    | error error final => exact sequential.follow returned ((secondEnds a).error ended)

/-- A loop ends as its rounds do. -/
theorem forM (sequential : Sequential returns raises) {all : List α}
    {body : α → EStateM ε σ Unit} (each : ∀ x ∈ all, Ends returns raises (body x)) :
    Ends returns raises (all.forM body) := by
  -- The induction is on the rounds still to come.
  induction all with
  | nil => exact sequential.pure ()
  | cons x later ih =>
    refine sequential.bind (each x (List.mem_cons_self ..)) fun _ => ?_
    exact ih fun y member => each y (List.mem_cons_of_mem x member)

end Sequential

/-- What a round establishes for its element, and later rounds keep, a loop establishes for all. -/
theorem forM_each (returns : σ → σ → Prop) (each : α → σ → σ → Prop) {all : List α}
    {body : α → EStateM ε σ Unit}
    (establishes : ∀ x ∈ all, ∀ start final, body x start = .ok () final →
      returns start final ∧ each x start final)
    (after : ∀ x start middle final, each x start middle → returns middle final → each x start final)
    (before : ∀ x start middle final, returns start middle → each x middle final → each x start final)
    (refl : ∀ state, returns state state)
    (trans : ∀ start middle final, returns start middle → returns middle final → returns start final) :
    ∀ start final, all.forM body start = .ok () final →
      returns start final ∧ ∀ x ∈ all, each x start final := by
  -- The induction is on the rounds still to come; what they keep is carried along.
  induction all with
  | nil =>
    intro start final ran
    obtain ⟨_, rfl⟩ := pure_eq_ok.mp ran
    exact ⟨refl start, by simp⟩
  | cons x later ih =>
    intro start final ran
    obtain ⟨_, middle, stepped, rest⟩ := bind_eq_ok.mp ran
    obtain ⟨kept, established⟩ := establishes x (List.mem_cons_self ..) start middle stepped
    obtain ⟨keptLater, others⟩ :=
      ih (fun y member => establishes y (List.mem_cons_of_mem x member)) middle final rest
    refine ⟨trans start middle final kept keptLater, fun y member => ?_⟩
    rcases List.mem_cons.mp member with rfl | member
    · exact after y start middle final established keptLater
    · exact before y start middle final kept (others y member)

/-- A loop of checks that change nothing returns just if every check is passed. -/
theorem forM_checks {all : List α} {body : α → EStateM ε σ Unit} {passes : α → Prop} {state : σ}
    (each : ∀ x ∈ all, (passes x ∧ body x state = .ok () state) ∨
      (¬passes x ∧ ∃ error, body x state = .error error state)) :
    ((∀ x ∈ all, passes x) ∧ all.forM body state = .ok () state) ∨
      ((¬∀ x ∈ all, passes x) ∧ ∃ error, all.forM body state = .error error state) := by
  -- The induction is on the checks still to come.
  induction all with
  | nil => exact .inl ⟨by simp, rfl⟩
  | cons x later ih =>
    have unfolded : (x :: later).forM body state = (body x >>= fun _ => later.forM body) state := rfl
    rcases each x (List.mem_cons_self ..) with ⟨passed, returned⟩ | ⟨failed, error, raised⟩
    · rw [unfolded, bind_of_ok returned]
      rcases ih fun y member => each y (List.mem_cons_of_mem x member) with ⟨others, rest⟩ | ⟨others, rest⟩
      · exact .inl ⟨by simpa [passed] using others, rest⟩
      · exact .inr ⟨by simpa [passed] using others, rest⟩
    · rw [unfolded, bind_of_error raised]
      exact .inr ⟨fun all_pass => failed (all_pass x (List.mem_cons_self ..)), error, rfl⟩

/-- A body that returns is not handled. -/
theorem recover_of_ok {body : EStateM ε σ α} {handler : ε → EStateM ε σ α} {start final : σ} {a : α}
    (returned : body start = .ok a final) : recover body handler start = .ok a final := by
  simp only [recover, returned]

/-- The handler goes on from where the body has raised. -/
theorem recover_of_error {body : EStateM ε σ α} {handler : ε → EStateM ε σ α} {start middle : σ}
    {error : ε} (raised : body start = .error error middle) :
    recover body handler start = handler error middle := by
  simp only [recover, raised]

/-- A handled computation ends as its body or its handler does. -/
theorem Sequential.recover {returns : σ → σ → Prop}
    (sequential : Sequential returns fun start (_ : ε) final => returns start final)
    {body : EStateM ε σ α} {handler : ε → EStateM ε σ α}
    (bodyEnds : Ends returns (fun start _ final => returns start final) body)
    (handlerEnds : ∀ error, Ends returns (fun start _ final => returns start final) (handler error)) :
    Ends returns (fun start _ final => returns start final) (recover body handler) := by
  intro start
  -- The handler goes on from the state in which the body has raised.
  cases began : body start with
  | ok a final =>
    rw [recover_of_ok began]
    exact bodyEnds.ok began
  | error error middle =>
    rw [recover_of_error began]
    have first := bodyEnds.error began
    cases ended : handler error middle with
    | ok a final => exact sequential.trans first ((handlerEnds error).ok ended)
    | error later final => exact sequential.trans first ((handlerEnds error).error ended)

/-- A cleanup is performed however the body ends. -/
theorem final_ensure (body : EStateM ε σ α) (cleanup : EStateM ε σ Unit) (start : σ) :
    final (ensure body cleanup start) = final (cleanup (final (body start))) := by
  -- The two branches differ in what is handed on and not in the state.
  unfold ensure
  cases body start with
  | ok a middle => simp only [final]; cases cleanup middle <;> rfl
  | error error middle => simp only [final]; cases cleanup middle <;> rfl

/-- A computation with a cleanup returns when both of them do. -/
theorem ensure_eq_ok {body : EStateM ε σ α} {cleanup : EStateM ε σ Unit} {start last : σ} {a : α}
    (returned : ensure body cleanup start = .ok a last) :
    ∃ middle, body start = .ok a middle ∧ cleanup middle = .ok () last := by
  unfold ensure at returned
  -- A body that raises is raised again behind the cleanup.
  cases ran : body start with
  | ok b middle =>
    simp only [ran] at returned
    cases cleaned : cleanup middle with
    | ok _ final =>
      simp only [cleaned] at returned
      cases returned
      exact ⟨middle, rfl, cleaned⟩
    | error error final =>
      simp only [cleaned] at returned
      cases returned
  | error error middle =>
    simp only [ran] at returned
    cases cleaned : cleanup middle with
    | ok _ final =>
      simp only [cleaned] at returned
      cases returned
    | error later final =>
      simp only [cleaned] at returned
      cases returned

/-- Handing on a value computed from the result leaves the state as it is. -/
theorem final_bind_pure (body : EStateM ε σ α) (f : α → β) (start : σ) :
    final ((body >>= fun a => pure (f a)) start) = final (body start) := by
  cases ended : body start with
  | ok a middle => rw [bind_of_ok ended]; rfl
  | error error middle => rw [bind_of_error ended]; rfl

end Raising
