import Mathlib.Data.Set.Lattice
import Pybrid.Library.Overwriting

/-! Steps that are refused where they clash with what is there, and runs of them that are made twice. -/

namespace Guarded

open Overwriting

variable {σ α β φ ε : Type}

/--
Steps that only ever add to the facts a state holds, and are refused where a fact clashes with them.

Two steps clash with each other or not, whichever of them comes first, and no step clashes with itself.
-/
structure Law (facts : σ → Set φ) (adds : α → Set φ) (sound : α → Prop) (clash : φ → α → Prop)
    (step : σ → α → Except ε σ) : Prop where
  accepts : ∀ {s a}, Accepts step s a ↔ sound a ∧ ∀ f ∈ facts s, ¬clash f a
  grows : ∀ {s t a}, step s a = .ok t → facts t = facts s ∪ adds a
  /-- A step that has nothing to add changes nothing. -/
  idle : ∀ {s t a}, step s a = .ok t → adds a ⊆ facts s → t = s
  own : ∀ {a}, ∀ f ∈ adds a, ¬clash f a
  symm : ∀ {a b}, (∀ f ∈ adds a, ¬clash f b) → ∀ f ∈ adds b, ¬clash f a

/-- What the steps of a list add. -/
def added (adds : α → Set φ) (steps : List α) : Set φ := {f | ∃ a ∈ steps, f ∈ adds a}

section Runs

variable {facts : σ → Set φ} {adds : α → Set φ} {sound : α → Prop} {clash : φ → α → Prop}
  {step : σ → α → Except ε σ}

/-- A run adds what each of its steps adds. -/
theorem Law.run_facts (law : Law facts adds sound clash step) {steps : List α} {s t : σ}
    (ran : steps.foldlM step s = .ok t) : facts t = facts s ∪ added adds steps := by
  -- Each step adds its own facts and keeps the others.
  induction steps generalizing s with
  | nil =>
    cases ran
    simp [added]
  | cons a later ih =>
    obtain ⟨m, stepped, rest⟩ := foldlM_cons_eq_ok.mp ran
    rw [ih rest, law.grows stepped, Set.union_assoc]
    congr 1
    ext f
    simp [added]

/-- A run returns if no step clashes with a fact that was there, or with a step before it. -/
theorem Law.returns_iff (law : Law facts adds sound clash step) {steps : List α} {s : σ} :
    (∃ t, steps.foldlM step s = .ok t) ↔
      (∀ a ∈ steps, sound a ∧ ∀ f ∈ facts s, ¬clash f a) ∧
        steps.Pairwise fun a b => ∀ f ∈ adds a, ¬clash f b := by
  induction steps generalizing s with
  | nil => exact ⟨fun _ => ⟨fun _ member => absurd member List.not_mem_nil, .nil⟩, fun _ => ⟨s, rfl⟩⟩
  | cons a later ih =>
    rw [List.forall_mem_cons, List.pairwise_cons]
    constructor
    · rintro ⟨t, ran⟩
      obtain ⟨m, stepped, rest⟩ := foldlM_cons_eq_ok.mp ran
      obtain ⟨each, pairwise⟩ := ih.mp ⟨t, rest⟩
      rw [law.grows stepped] at each
      -- What the first step has added does not clash with the others either.
      exact ⟨⟨law.accepts.mp ⟨m, stepped⟩, fun b member => ⟨(each b member).1, fun f held =>
        (each b member).2 f (.inl held)⟩⟩, fun b member f held => (each b member).2 f (.inr held),
        pairwise⟩
    · rintro ⟨⟨first, others⟩, apart, pairwise⟩
      obtain ⟨m, stepped⟩ := law.accepts.mpr first
      obtain ⟨t, rest⟩ := (ih (s := m)).mpr ⟨fun b member => ⟨(others b member).1, fun f held => by
        rw [law.grows stepped] at held
        exact held.elim ((others b member).2 f) (apart b member f)⟩, pairwise⟩
      exact ⟨t, foldlM_cons_eq_ok.mpr ⟨m, stepped, rest⟩⟩

/-- A run whose additions are all there changes nothing. -/
theorem Law.run_idle (law : Law facts adds sound clash step) {steps : List α} {s t : σ}
    (ran : steps.foldlM step s = .ok t) (there : added adds steps ⊆ facts s) : t = s := by
  induction steps generalizing s with
  | nil => exact (Except.ok.inj ran).symm
  | cons a later ih =>
    obtain ⟨m, stepped, rest⟩ := foldlM_cons_eq_ok.mp ran
    -- A step whose facts are all there already changes nothing.
    have same : m = s := law.idle stepped fun f held => there ⟨a, List.mem_cons_self, held⟩
    rw [ih rest fun f ⟨b, member, held⟩ => same ▸ there ⟨b, List.mem_cons_of_mem a member, held⟩, same]

/-- Steps that have been accepted once are accepted where no fact clashes with them. -/
theorem Law.elsewhere_iff (law : Law facts adds sound clash step) {steps : List α} {s t s' : σ}
    (ran : steps.foldlM step s = .ok t) :
    (∃ u, steps.foldlM step s' = .ok u) ↔ ∀ a ∈ steps, ∀ f ∈ facts s', ¬clash f a := by
  -- The steps agree among themselves, since they have run; only the start may be in the way.
  obtain ⟨each, pairwise⟩ := law.returns_iff.mp ⟨t, ran⟩
  rw [law.returns_iff]
  exact ⟨fun ⟨clear, _⟩ a member => (clear a member).2,
    fun clear => ⟨fun a member => ⟨(each a member).1, clear a member⟩, pairwise⟩⟩

/-- A run that is made twice changes nothing the second time. -/
theorem Law.twice (law : Law facts adds sound clash step) {steps : List α} {s t : σ}
    (ran : steps.foldlM step s = .ok t) : steps.foldlM step t = .ok t := by
  obtain ⟨each, pairwise⟩ := law.returns_iff.mp ⟨t, ran⟩
  have held := law.run_facts ran
  -- No step clashes with what any of them adds: not with earlier ones, later ones or itself.
  have mutual_ : ∀ a ∈ steps, ∀ f ∈ added adds steps, ¬clash f a := by
    rintro a member f ⟨b, member', there⟩
    have symmetric : Std.Symm fun a b => ∀ f ∈ adds a, ¬clash f b := ⟨fun _ _ => law.symm⟩
    refine pairwise.forall_of_forall (fun _ _ => law.own) member' member f there
  obtain ⟨u, again⟩ := (law.elsewhere_iff ran).mpr fun a member f there => by
    rw [held] at there
    exact there.elim ((each a member).2 f) (mutual_ a member f)
  have same := law.run_idle again (by rw [held]; exact Set.subset_union_right)
  exact same ▸ again

end Runs

section Resets

variable {resets : α → Bool} {step : σ → α → Except ε σ}

/--
Steps of which some build the state anew, whatever it was.

A run of the others that is made twice changes nothing the second time.
-/
structure Resetting (resets : α → Bool) (step : σ → α → Except ε σ) : Prop where
  anew : ∀ {a}, resets a = true → ∀ s s', step s a = step s' a
  twice : ∀ {steps : List α} {s t : σ}, (∀ a ∈ steps, resets a = false) →
    steps.foldlM step s = .ok t → steps.foldlM step t = .ok t

/-- The last step that builds the state anew, and the steps behind it. -/
def sinceReset (resets : α → Bool) : List α → Option (α × List α)
  | [] => none
  | a :: later =>
    match sinceReset resets later with
    | some found => some found
    | none => if resets a then some (a, later) else none

/-- The steps in front of the first one that builds the state anew. -/
def beforeReset (resets : α → Bool) (steps : List α) : List α := steps.takeWhile fun a => !resets a

/-- There is no last reset where there is none. -/
theorem sinceReset_eq_none {steps : List α} :
    sinceReset resets steps = none ↔ ∀ a ∈ steps, resets a = false := by
  induction steps with
  | nil => simp [sinceReset]
  | cons a later ih =>
    rw [sinceReset, List.forall_mem_cons]
    -- A reset further behind is the one that counts.
    cases found : sinceReset resets later with
    | some last =>
      have other : ¬∀ a ∈ later, resets a = false := fun none => by simp [ih.mpr none] at found
      simp [other]
    | none => simpa using fun _ => ih.mp found

/-- The last reset splits a run, and no reset is behind it. -/
theorem sinceReset_eq_some {steps : List α} {a : α} {behind : List α}
    (last : sinceReset resets steps = some (a, behind)) :
    resets a = true ∧ (∀ b ∈ behind, resets b = false) ∧ ∃ front, steps = front ++ a :: behind := by
  induction steps with
  | nil => simp [sinceReset] at last
  | cons b later ih =>
    rw [sinceReset] at last
    -- The last reset is found behind this step, or it is this step.
    cases found : sinceReset resets later with
    | some entry =>
      rw [found] at last
      cases last
      obtain ⟨reset, none, front, rfl⟩ := ih found
      exact ⟨reset, none, b :: front, rfl⟩
    | none =>
      rw [found] at last
      by_cases own : resets b = true
      · simp only [own, if_true, Option.some.injEq, Prod.mk.injEq] at last
        obtain ⟨rfl, rfl⟩ := last
        exact ⟨own, sinceReset_eq_none.mp found, [], rfl⟩
      · simp [own] at last

/-- A run ends with what its last reset and the steps behind it make of any state. -/
theorem Resetting.run_since (law : Resetting resets step) {steps : List α} {a : α} {behind : List α}
    (last : sinceReset resets steps = some (a, behind)) {s t : σ} (ran : steps.foldlM step s = .ok t)
    (s' : σ) : ∃ m, step s' a = .ok m ∧ behind.foldlM step m = .ok t := by
  obtain ⟨reset, -, front, rfl⟩ := sinceReset_eq_some last
  -- Whatever the steps before the last reset have done is forgotten.
  obtain ⟨n, -, rest⟩ := foldlM_append_eq_ok.mp ran
  obtain ⟨m, stepped, later⟩ := foldlM_cons_eq_ok.mp rest
  exact ⟨m, (law.anew reset s' n).trans stepped, later⟩

/--
A run with a reset changes nothing the second time if the steps in front of its first reset return.

What they do then is lost with the reset.
-/
theorem Resetting.twice_iff (law : Resetting resets step) {steps : List α} {s t : σ}
    (ran : steps.foldlM step s = .ok t) :
    steps.foldlM step t = .ok t ↔
      ((∃ a ∈ steps, resets a = true) → ∃ u, (beforeReset resets steps).foldlM step t = .ok u) := by
  by_cases reset : ∃ a ∈ steps, resets a = true
  · rw [forall_prop_of_true reset]
    -- The first reset splits the run.
    obtain ⟨a, rest, split⟩ : ∃ a rest, steps.dropWhile (fun a => !resets a) = a :: rest := by
      cases dropped : steps.dropWhile fun a => !resets a with
      | nil =>
        obtain ⟨a, member, own⟩ := reset
        simpa [own] using List.dropWhile_eq_nil_iff.mp dropped a member
      | cons a rest => exact ⟨a, rest, rfl⟩
    have own : resets a = true := by
      have head := List.head?_dropWhile_not (fun a => !resets a) steps
      simpa [split] using head
    have whole : steps = beforeReset resets steps ++ a :: rest := by
      rw [beforeReset, ← split, List.takeWhile_append_dropWhile]
    generalize beforeReset resets steps = early at whole
    subst whole
    obtain ⟨m, -, later⟩ := foldlM_append_eq_ok.mp ran
    obtain ⟨n, stepped, behind⟩ := foldlM_cons_eq_ok.mp later
    constructor
    · intro again
      obtain ⟨u, front, -⟩ := foldlM_append_eq_ok.mp again
      exact ⟨u, front⟩
    · rintro ⟨u, front⟩
      exact foldlM_append_eq_ok.mpr ⟨u, front,
        foldlM_cons_eq_ok.mpr ⟨n, (law.anew own u m).trans stepped, behind⟩⟩
  · refine ⟨fun _ there => absurd there reset, fun _ => law.twice (fun a member => ?_) ran⟩
    simpa using fun own => reset ⟨a, member, own⟩

section Split

variable {facts : σ → Set φ} {adds : β → Set φ} {sound : β → Prop} {clash : φ → β → Prop}
  {inner : σ → β → Except ε σ} {check : α → Except ε Unit} {parts : α → List β}

/-- Steps that are checked and then made in parts make one run of all parts. -/
theorem run_parts {steps : List α}
    (splits : ∀ a ∈ steps, ∀ s, step s a = (check a).bind fun _ => (parts a).foldlM inner s)
    {s t : σ} : steps.foldlM step s = .ok t ↔
      (∀ a ∈ steps, check a = .ok ()) ∧ (steps.flatMap parts).foldlM inner s = .ok t := by
  induction steps generalizing s with
  | nil => simp
  | cons a later ih =>
    rw [List.forall_mem_cons, List.flatMap_cons, foldlM_append_eq_ok, foldlM_cons_eq_ok]
    simp only [splits a List.mem_cons_self,
      ih fun b member => splits b (List.mem_cons_of_mem a member)]
    cases check a with
    | error error => simp [Except.bind]
    | ok passed =>
      -- A check that is passed has nothing to return.
      simp only [Except.bind, true_and]
      exact ⟨fun ⟨m, first, checked, rest⟩ => ⟨checked, m, first, rest⟩,
        fun ⟨checked, m, first, rest⟩ => ⟨m, first, checked, rest⟩⟩

variable (law : Law facts adds sound clash inner)
  (splits : ∀ a, resets a = false → ∀ s, step s a = (check a).bind fun _ => (parts a).foldlM inner s)
  (anew : ∀ {a}, resets a = true → ∀ s s', step s a = step s' a)

include law splits anew in
/-- Guarded additions that are made in parts repeat, and resets build the state anew. -/
theorem Law.resetting : Resetting resets step where
  anew := anew
  twice none ran := by
    -- Without a reset each step is a check and an addition.
    have split := fun a member => splits a (none a member)
    obtain ⟨checked, inside⟩ := (run_parts split).mp ran
    exact (run_parts split).mpr ⟨checked, law.twice inside⟩

include law splits anew in
/--
A run of guarded additions and resets changes nothing the second time exactly if none of the
additions in front of its first reset clashes with what its last reset and those behind it add.
-/
theorem Law.twice_iff {steps : List α} {s t : σ} (ran : steps.foldlM step s = .ok t) :
    steps.foldlM step t = .ok t ↔ ∀ a behind m, sinceReset resets steps = some (a, behind) →
      step s a = .ok m → ∀ b ∈ (beforeReset resets steps).flatMap parts,
        ∀ f ∈ facts m ∪ added adds (behind.flatMap parts), ¬clash f b := by
  have resetting : Resetting resets step := law.resetting splits anew
  rw [resetting.twice_iff ran]
  -- In front of the first reset the run consists of parts.
  have early : ∀ a ∈ beforeReset resets steps, ∀ s,
      step s a = (check a).bind fun _ => (parts a).foldlM inner s := by
    intro a member
    exact splits a (by simpa using List.mem_takeWhile_imp member)
  obtain ⟨m, first, -⟩ : ∃ m, (beforeReset resets steps).foldlM step s = .ok m ∧
      (steps.dropWhile fun a => !resets a).foldlM step m = .ok t := by
    rw [← foldlM_append_eq_ok, beforeReset, List.takeWhile_append_dropWhile]
    exact ran
  obtain ⟨checked, inside⟩ := (run_parts early).mp first
  have again : (∃ u, (beforeReset resets steps).foldlM step t = .ok u) ↔
      ∀ b ∈ (beforeReset resets steps).flatMap parts, ∀ f ∈ facts t, ¬clash f b := by
    rw [← law.elsewhere_iff inside]
    exact exists_congr fun u => (run_parts early).trans (and_iff_right checked)
  rw [again]
  cases last : sinceReset resets steps with
  | none =>
    have none := sinceReset_eq_none.mp last
    constructor
    · intro _ a behind m held
      cases held
    · rintro _ ⟨a, member, own⟩
      rw [none a member] at own
      cases own
  | some entry =>
    obtain ⟨a, behind⟩ := entry
    obtain ⟨reset, others, start, split⟩ := sinceReset_eq_some last
    obtain ⟨m', stepped, rest⟩ := resetting.run_since last ran s
    -- What is there in the end was added since the last reset.
    have held : facts t = facts m' ∪ added adds (behind.flatMap parts) :=
      law.run_facts ((run_parts fun b member => splits b (others b member)).mp rest).2
    have there : ∃ a ∈ steps, resets a = true := ⟨a, by rw [split]; simp, reset⟩
    rw [forall_prop_of_true there, held]
    constructor
    · rintro clear a' behind'' m'' same stepped'
      cases same
      cases stepped.symm.trans stepped'
      exact clear
    · intro clear
      exact clear a behind m' rfl stepped

end Split

end Resets

end Guarded
