import Pybrid.Library.Raising

/-! Steps that raise or overwrite: runs of them that are made twice, and in another order. -/

namespace Overwriting

variable {σ τ α β ε : Type}

/-- The step returns from this state. -/
def Accepts (step : σ → α → Except ε σ) (state : σ) (a : α) : Prop :=
  ∃ next, step state a = .ok next

/-- Steps that overwrite: what a step did is undone by nothing but later steps on the same place. -/
structure Law (step : σ → α → Except ε σ) : Prop where
  /-- Whether a step returns does not depend on the steps before it. -/
  steady : ∀ {s s' a b}, step s a = .ok s' → (Accepts step s' b ↔ Accepts step s b)
  /-- A step that is repeated at once changes nothing. -/
  again : ∀ {s s' a}, step s a = .ok s' → step s' a = .ok s'
  /-- A step that is repeated after another one could have been left out the first time. -/
  shadowed : ∀ {s s₁ s₂ s₃ t a b}, step s a = .ok s₁ → step s₁ b = .ok s₂ → step s₂ a = .ok s₃ →
    step s b = .ok t → step t a = .ok s₃

/-- Steps that are told apart like this can change places. -/
def Exchange (apart : α → α → Prop) (step : σ → α → Except ε σ) : Prop :=
  ∀ ⦃s s₁ s₂ a b⦄, apart a b → step s a = .ok s₁ → step s₁ b = .ok s₂ →
    ∃ t, step s b = .ok t ∧ step t a = .ok s₂

section Runs

variable {step : σ → α → Except ε σ}

/-- A run makes its first step and goes on from there. -/
theorem foldlM_cons_eq_ok {a : α} {later : List α} {s t : σ} :
    (a :: later).foldlM step s = .ok t ↔ ∃ m, step s a = .ok m ∧ later.foldlM step m = .ok t := by
  rw [List.foldlM_cons]
  exact Raising.except_bind_eq_ok

/-- Two runs make one run. -/
theorem foldlM_append_eq_ok {first second : List α} {s t : σ} :
    (first ++ second).foldlM step s = .ok t ↔
      ∃ m, first.foldlM step s = .ok m ∧ second.foldlM step m = .ok t := by
  rw [List.foldlM_append]
  exact Raising.except_bind_eq_ok

/-- A whole run does not change which steps return. -/
theorem Law.steady_run (law : Law step) {steps : List α} {s t : σ} {b : α}
    (ran : steps.foldlM step s = .ok t) : Accepts step t b ↔ Accepts step s b := by
  induction steps generalizing s with
  | nil => rw [Except.ok.inj ran]
  | cons a later ih =>
    obtain ⟨m, stepped, rest⟩ := foldlM_cons_eq_ok.mp ran
    -- No step changes what is accepted.
    rw [ih rest, law.steady stepped]

/-- A run returns if each of its steps would return by itself. -/
theorem Law.returns_iff (law : Law step) {steps : List α} {s : σ} :
    (∃ t, steps.foldlM step s = .ok t) ↔ ∀ a ∈ steps, Accepts step s a := by
  induction steps generalizing s with
  | nil => exact ⟨fun _ _ member => absurd member List.not_mem_nil, fun _ => ⟨s, rfl⟩⟩
  | cons a later ih =>
    rw [List.forall_mem_cons]
    constructor
    · rintro ⟨t, ran⟩
      obtain ⟨m, stepped, rest⟩ := foldlM_cons_eq_ok.mp ran
      refine ⟨⟨m, stepped⟩, fun b member => ?_⟩
      -- The later steps were accepted behind the first one, and so they are in front of it.
      exact (law.steady stepped).mp (ih.mp ⟨t, rest⟩ b member)
    · rintro ⟨⟨m, stepped⟩, others⟩
      obtain ⟨t, rest⟩ := (ih (s := m)).mpr fun b member => (law.steady stepped).mpr (others b member)
      exact ⟨t, foldlM_cons_eq_ok.mpr ⟨m, stepped, rest⟩⟩

/-- A step that comes again at the end of a run can be left out before it. -/
theorem Law.absorb (law : Law step) {a : α} {steps : List α} {s s' t : σ}
    (stepped : step s a = .ok s') (ran : (steps ++ [a]).foldlM step s' = .ok t) :
    (steps ++ [a]).foldlM step s = .ok t := by
  induction steps generalizing s s' t with
  | nil =>
    -- The step is repeated at once.
    obtain ⟨m, repeated, ended⟩ := foldlM_cons_eq_ok.mp ran
    rw [law.again stepped] at repeated
    cases repeated
    exact foldlM_cons_eq_ok.mpr ⟨_, stepped, ended⟩
  | cons b later ih =>
    obtain ⟨s₂, other, rest⟩ := foldlM_cons_eq_ok.mp ran
    obtain ⟨s₃, alone⟩ := (law.steady stepped).mp ⟨s₂, other⟩
    obtain ⟨s₄, back⟩ := (law.steady other).mpr ⟨s', law.again stepped⟩
    -- Without the first step one arrives at the same state once the step has been made after b.
    have meets := law.shadowed stepped other back alone
    have accepted : ∀ c ∈ later ++ [a], Accepts step s₄ c := fun c member =>
      (law.steady back).mpr (law.returns_iff.mp ⟨t, rest⟩ c member)
    obtain ⟨t', behind⟩ := law.returns_iff.mpr accepted
    have same : t' = t := Except.ok.inj ((ih back behind).symm.trans rest)
    exact foldlM_cons_eq_ok.mpr ⟨s₃, alone, ih meets (same ▸ behind)⟩

/-- Steps that all come again later can be left out. -/
theorem Law.leave_out (law : Law step) {early later : List α} (repeated : ∀ a ∈ early, a ∈ later)
    {s t : σ} (ran : (early ++ later).foldlM step s = .ok t) : later.foldlM step s = .ok t := by
  induction early generalizing s with
  | nil => exact ran
  | cons a rest ih =>
    obtain ⟨others, split⟩ := List.append_of_mem (repeated a List.mem_cons_self)
    obtain ⟨behind, rfl⟩ := split
    refine ih (fun b member => repeated b (List.mem_cons_of_mem a member)) ?_
    -- The part up to the repetition absorbs the step, and the part behind it is the same.
    obtain ⟨m, stepped, ran⟩ := foldlM_cons_eq_ok.mp ran
    have grouped : rest ++ (others ++ a :: behind) = ((rest ++ others) ++ [a]) ++ behind := by simp
    replace ran : (rest ++ (others ++ a :: behind)).foldlM step m = .ok t := ran
    rw [grouped] at ran ⊢
    obtain ⟨n, front, back⟩ := foldlM_append_eq_ok.mp ran
    exact foldlM_append_eq_ok.mpr ⟨n, law.absorb stepped front, back⟩

/-- A run that is made twice leaves what it left the first time. -/
theorem Law.twice (law : Law step) {steps : List α} {s t : σ} (ran : steps.foldlM step s = .ok t) :
    steps.foldlM step t = .ok t := by
  -- Whether a step is accepted does not change along the run.
  have accepted : ∀ a ∈ steps, Accepts step t a := fun a member =>
    (law.steady_run ran).mpr (law.returns_iff.mp ⟨t, ran⟩ a member)
  obtain ⟨t', repeated⟩ := law.returns_iff.mpr accepted
  have once := law.leave_out (fun _ member => member) (foldlM_append_eq_ok.mpr ⟨t, ran, repeated⟩)
  rw [ran] at once
  cases once
  exact repeated

/-- A run of steps that can change places ends in the same state in any order. -/
theorem foldlM_perm {apart : α → α → Prop} (exchange : Exchange apart step)
    (symm : ∀ {a b}, apart a b → apart b a) {steps shuffled : List α} (perm : steps.Perm shuffled)
    (pairwise : steps.Pairwise apart) {s t : σ} (ran : steps.foldlM step s = .ok t) :
    shuffled.foldlM step s = .ok t := by
  -- The induction is on how the order was changed.
  induction perm generalizing s with
  | nil => exact ran
  | cons a _ ih =>
    obtain ⟨m, stepped, rest⟩ := foldlM_cons_eq_ok.mp ran
    exact foldlM_cons_eq_ok.mpr ⟨m, stepped, ih pairwise.of_cons rest⟩
  | swap a b later =>
    obtain ⟨m, first, ran⟩ := foldlM_cons_eq_ok.mp ran
    obtain ⟨n, second, rest⟩ := foldlM_cons_eq_ok.mp ran
    have told : apart b a := (List.pairwise_cons.mp pairwise).1 a List.mem_cons_self
    obtain ⟨m', moved, meets⟩ := exchange told first second
    exact foldlM_cons_eq_ok.mpr ⟨m', moved, foldlM_cons_eq_ok.mpr ⟨n, meets, rest⟩⟩
  | trans front _ ih ih' =>
    exact ih' (pairwise.perm front symm) (ih pairwise ran)

end Runs

section Rules

variable {step : σ → α → Except ε σ}

/-- Steps that write all there is, whatever was there before, overwrite. -/
theorem Law.ofConstant (result : α → Except ε σ) : Law fun (_ : σ) a => result a where
  steady _ := Iff.rfl
  again stepped := stepped
  shadowed _ _ last _ := last

/-- Steps that each write one slot overwrite. -/
theorem Law.ofSlots {κ ω : Type} [DecidableEq κ] (get : σ → κ → ω)
    (ext : ∀ {s t}, (∀ k, get s k = get t k) → s = t) (allowed : α → Prop) (slot : α → κ)
    (value : α → ω) (accepts : ∀ {s a}, Accepts step s a ↔ allowed a)
    (writes : ∀ {s s' a}, step s a = .ok s' →
      ∀ k, get s' k = if k = slot a then value a else get s k) : Law step where
  steady _ := accepts.trans accepts.symm
  again {s s' a} stepped := by
    obtain ⟨t, repeated⟩ : Accepts step s' a := accepts.mpr (accepts.mp ⟨s', stepped⟩)
    have same : t = s' := by
      refine ext fun k => ?_
      rw [writes repeated, writes stepped]
      split <;> rfl
    rw [repeated, same]
  shadowed {s s₁ s₂ s₃ t a b} first middle last alone := by
    obtain ⟨u, written⟩ : Accepts step t a := accepts.mpr (accepts.mp ⟨s₁, first⟩)
    have same : u = s₃ := by
      refine ext fun k => ?_
      rw [writes written, writes alone, writes last, writes middle, writes first]
      -- A slot that the last step leaves alone was left alone by the first one as well.
      by_cases own : k = slot a
      · rw [if_pos own, if_pos own]
      · rw [if_neg own, if_neg own, if_neg own]
    rw [written, same]

/-- A list of steps taken as one step overwrites. -/
theorem Law.list (law : Law step) : Law fun s (steps : List α) => steps.foldlM step s where
  steady {s s' a b} ran := by
    show (∃ t, _) ↔ ∃ t, _
    rw [law.returns_iff, law.returns_iff]
    exact forall₂_congr fun c _ => law.steady_run ran
  again ran := law.twice ran
  shadowed {s s₁ s₂ s₃ t a b} first middle last alone := by
    -- The three runs are one run over the joined list.
    have whole : (a ++ (b ++ a)).foldlM step s = .ok s₃ := foldlM_append_eq_ok.mpr
      ⟨s₁, first, foldlM_append_eq_ok.mpr ⟨s₂, middle, last⟩⟩
    have short := law.leave_out (fun c member => List.mem_append_right b member) whole
    obtain ⟨m, other, rest⟩ := foldlM_append_eq_ok.mp short
    rw [alone] at other
    cases other
    exact rest

/-- A run on a whole is one on its part, where each step is. -/
theorem foldlM_whole {π : Type} {step : σ → α → Except ε σ} {part : π → α → Except ε π}
    (whole : π → σ) (same : ∀ p a, step (whole p) a = (part p a).map whole) (steps : List α) (p : π) :
    steps.foldlM step (whole p) = (steps.foldlM part p).map whole := by
  -- The steps follow each other inside the part as they do on the whole.
  induction steps generalizing p with
  | nil => rfl
  | cons a later ih =>
    rw [List.foldlM_cons, List.foldlM_cons, same]
    cases held : part p a with
    | error error => rfl
    | ok p' => exact ih p'

/--
A run that is made twice on a part that overwrites changes nothing the second time.

Each step of the whole makes a step of the part, does nothing, or raises whatever the part is.
-/
theorem Law.twice_part {π ω : Type} {step : σ → α → Except ε σ} {part : π → ω → Except ε π}
    (law : Law part) (whole : π → σ) (p : π)
    (acts : ∀ a, (∃ w, ∀ p, step (whole p) a = (part p w).map whole) ∨
      (∀ p, step (whole p) a = .ok (whole p)) ∨ ∀ p t, step (whole p) a ≠ .ok t)
    {steps : List α} {t : σ} (ran : steps.foldlM step (whole p) = .ok t) :
    steps.foldlM step t = .ok t := by
  -- The run is one of the part, which stands for it from every other state of the part as well.
  have inside : ∃ (ws : List ω) (p' : π), t = whole p' ∧ ws.foldlM part p = .ok p' ∧
      ∀ q q', ws.foldlM part q = .ok q' → steps.foldlM step (whole q) = .ok (whole q') := by
    induction steps generalizing p with
    | nil =>
      cases ran
      exact ⟨[], p, rfl, rfl, fun q q' done => by rw [Except.ok.inj done]; rfl⟩
    | cons a later ih =>
      obtain ⟨m, stepped, rest⟩ := foldlM_cons_eq_ok.mp ran
      rcases acts a with ⟨w, same⟩ | idle | never
      · rw [same] at stepped
        obtain ⟨p', inner, rfl⟩ := Raising.except_map_eq_ok.mp stepped
        obtain ⟨ws, p'', reached, ran', back⟩ := ih p' rest
        refine ⟨w :: ws, p'', reached, foldlM_cons_eq_ok.mpr ⟨p', inner, ran'⟩, fun q q' done => ?_⟩
        obtain ⟨n, first, others⟩ := foldlM_cons_eq_ok.mp done
        exact foldlM_cons_eq_ok.mpr ⟨whole n, by rw [same, first]; rfl, back n q' others⟩
      · cases (idle p).symm.trans stepped
        obtain ⟨ws, p', reached, ran', back⟩ := ih p rest
        exact ⟨ws, p', reached, ran', fun q q' done =>
          foldlM_cons_eq_ok.mpr ⟨whole q, idle q, back q q' done⟩⟩
      · exact absurd stepped (never p m)
  obtain ⟨ws, p', rfl, ran', back⟩ := inside
  exact back p' p' (law.twice ran')

/-- A step that is made on each of two components. -/
def both (left : σ → α → Except ε σ) (right : τ → α → Except ε τ) (s : σ × τ) (a : α) :
    Except ε (σ × τ) := do
  let x ← left s.1 a
  let y ← right s.2 a
  return (x, y)

/-- A run on two components is one on each of them. -/
theorem both_run {left : σ → α → Except ε σ} {right : τ → α → Except ε τ} {steps : List α}
    {s t : σ × τ} : steps.foldlM (both left right) s = .ok t ↔
      steps.foldlM left s.1 = .ok t.1 ∧ steps.foldlM right s.2 = .ok t.2 := by
  induction steps generalizing s with
  | nil => simp [pure, Except.pure, Prod.ext_iff]
  | cons a later ih =>
    simp only [foldlM_cons_eq_ok, ih]
    -- A step of the pair is a step on either side.
    constructor
    · rintro ⟨m, stepped, first, second⟩
      obtain ⟨x, one, stepped⟩ := Raising.except_bind_eq_ok.mp stepped
      obtain ⟨y, other, stepped⟩ := Raising.except_bind_eq_ok.mp stepped
      cases stepped
      exact ⟨⟨x, one, first⟩, y, other, second⟩
    · rintro ⟨⟨x, one, first⟩, y, other, second⟩
      exact ⟨(x, y), Raising.except_bind_eq_ok.mpr ⟨x, one,
        Raising.except_bind_eq_ok.mpr ⟨y, other, rfl⟩⟩, first, second⟩

/-- Steps on either of two components, which raise or overwrite that one. -/
def either (left : σ → α → Except ε σ) (right : τ → β → Except ε τ) (s : σ × τ) :
    α ⊕ β → Except ε (σ × τ)
  | .inl a => (left s.1 a).map fun x => (x, s.2)
  | .inr b => (right s.2 b).map fun y => (s.1, y)

/-- Steps that overwrite each of two components overwrite both together. -/
theorem Law.either {left : σ → α → Except ε σ} {right : τ → β → Except ε τ} (law : Law left)
    (law' : Law right) : Law (either left right) := by
  have returned : ∀ {s s'} {a : α ⊕ β}, Overwriting.either left right s a = .ok s' →
      (∃ a' x, a = .inl a' ∧ left s.1 a' = .ok x ∧ s' = (x, s.2)) ∨
        ∃ b' y, a = .inr b' ∧ right s.2 b' = .ok y ∧ s' = (s.1, y) := by
    intro s s' a stepped
    cases a with
    | inl a =>
      obtain ⟨x, inner, rfl⟩ := Raising.except_map_eq_ok.mp stepped
      exact .inl ⟨a, x, rfl, inner, rfl⟩
    | inr b =>
      obtain ⟨y, inner, rfl⟩ := Raising.except_map_eq_ok.mp stepped
      exact .inr ⟨b, y, rfl, inner, rfl⟩
  have accepts : ∀ {s : σ × τ} {a : α ⊕ β}, Accepts (Overwriting.either left right) s a ↔
      a.elim (Accepts left s.1) (Accepts right s.2) := by
    intro s a
    cases a with
    | inl a => cases held : left s.1 a <;> simp [Accepts, Overwriting.either, Except.map, held]
    | inr b => cases held : right s.2 b <;> simp [Accepts, Overwriting.either, Except.map, held]
  constructor
  · intro s s' a b stepped
    rw [accepts, accepts]
    obtain ⟨a', x, rfl, inner, rfl⟩ | ⟨b', y, rfl, inner, rfl⟩ := returned stepped
    · cases b with
      | inl b => exact law.steady inner
      | inr b => exact Iff.rfl
    · cases b with
      | inl b => exact Iff.rfl
      | inr b => exact law'.steady inner
  · intro s s' a stepped
    obtain ⟨a', x, rfl, inner, rfl⟩ | ⟨b', y, rfl, inner, rfl⟩ := returned stepped
    · simp [Overwriting.either, law.again inner, Except.map]
    · simp [Overwriting.either, law'.again inner, Except.map]
  · intro s s₁ s₂ s₃ t a b first middle last alone
    -- Steps on the same component shadow each other; steps on different ones do not meet.
    cases a with
    | inl a =>
      obtain ⟨x₁, inner₁, rfl⟩ := Raising.except_map_eq_ok.mp first
      obtain ⟨x₃, inner₃, rfl⟩ := Raising.except_map_eq_ok.mp last
      cases b with
      | inl b =>
        obtain ⟨x₂, inner₂, rfl⟩ := Raising.except_map_eq_ok.mp middle
        obtain ⟨x, inner, rfl⟩ := Raising.except_map_eq_ok.mp alone
        simp [Overwriting.either, law.shadowed inner₁ inner₂ inner₃ inner, Except.map]
      | inr b =>
        obtain ⟨y₂, inner₂, rfl⟩ := Raising.except_map_eq_ok.mp middle
        obtain ⟨y, inner, rfl⟩ := Raising.except_map_eq_ok.mp alone
        cases inner₂.symm.trans inner
        cases (law.again inner₁).symm.trans inner₃
        simp [Overwriting.either, inner₁, Except.map]
    | inr a =>
      obtain ⟨y₁, inner₁, rfl⟩ := Raising.except_map_eq_ok.mp first
      obtain ⟨y₃, inner₃, rfl⟩ := Raising.except_map_eq_ok.mp last
      cases b with
      | inl b =>
        obtain ⟨x₂, inner₂, rfl⟩ := Raising.except_map_eq_ok.mp middle
        obtain ⟨x, inner, rfl⟩ := Raising.except_map_eq_ok.mp alone
        cases inner₂.symm.trans inner
        cases (law'.again inner₁).symm.trans inner₃
        simp [Overwriting.either, inner₁, Except.map]
      | inr b =>
        obtain ⟨y₂, inner₂, rfl⟩ := Raising.except_map_eq_ok.mp middle
        obtain ⟨y, inner, rfl⟩ := Raising.except_map_eq_ok.mp alone
        simp [Overwriting.either, law'.shadowed inner₁ inner₂ inner₃ inner, Except.map]

end Rules

end Overwriting
