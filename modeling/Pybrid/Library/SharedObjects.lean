import Mathlib

/-! Tables that refer to shared objects, and users of a table that do not notice each other. -/

namespace Shared

variable {κ β : Type}

/-- A table of references to objects. -/
structure Store (κ β : Type) where
  table : κ → Option ℕ
  /-- The objects by reference; what is not in the table is found as the stand-in, `none`. -/
  object : Option ℕ → β

namespace Store

/-- The object found under a key. -/
def find (s : Store κ β) (key : κ) : β := s.object (s.table key)

/-- Let a key refer to an object. -/
def register [DecidableEq κ] (s : Store κ β) (key : κ) (ref : ℕ) : Store κ β :=
  { s with table := Function.update s.table key (some ref) }

/-- Change an object in place. -/
def assign (s : Store κ β) (ref : Option ℕ) (content : β) : Store κ β :=
  { s with object := Function.update s.object ref content }

/-- Change objects in place, one after the other. -/
def changeAll (s : Store κ β) (refs : List ℕ) (change : β → β) : Store κ β :=
  refs.foldl (fun store ref => store.assign (some ref) (change (store.object (some ref)))) s

@[simp] theorem register_object [DecidableEq κ] (s : Store κ β) (key : κ) (ref : ℕ) :
    (s.register key ref).object = s.object := rfl

@[simp] theorem assign_table (s : Store κ β) (ref : Option ℕ) (content : β) :
    (s.assign ref content).table = s.table := rfl

end Store

/-- What one user of a table works with. -/
structure Part (κ : Type) where
  keys : κ → Prop
  /-- The user may come upon the stand-in. -/
  standIn : Prop
  /-- The objects of the user, and those of the other users. -/
  owned : ℕ → Prop
  others : ℕ → Prop

namespace Part

variable {part : Part κ} {s t : Store κ β}

/-- The object belongs to the user, or is found under one of the user's keys. -/
def Holds (part : Part κ) (s : Store κ β) (ref : ℕ) : Prop :=
  part.owned ref ∨ ∃ key, part.keys key ∧ s.table key = some ref

/-- No object that the user holds can be reached by the others. -/
structure Apart (part : Part κ) (s : Store κ β) : Prop where
  outside : ∀ key ref, ¬ part.keys key → s.table key = some ref → ¬ part.Holds s ref
  foreign : ∀ ref, part.others ref → ¬ part.Holds s ref

/-- The user finds the same in both stores. -/
structure Agree (part : Part κ) (s t : Store κ β) : Prop where
  table : ∀ key, part.keys key → s.table key = t.table key
  object : ∀ ref, part.Holds s ref → s.object (some ref) = t.object (some ref)
  standIn : part.standIn → s.object none = t.object none

/-- Looking this key up stays within the part. -/
def Uses (part : Part κ) (s : Store κ β) (key : κ) : Prop :=
  part.keys key ∧ (s.table key = none → part.standIn)

/-- Looking this key up stays clear of the part. -/
def Spares (part : Part κ) (s : Store κ β) (key : κ) : Prop :=
  ¬ part.keys key ∧ (s.table key = none → ¬ part.standIn)

/-- A store agrees with itself. -/
theorem Agree.refl (part : Part κ) (s : Store κ β) : part.Agree s s :=
  ⟨fun _ _ => rfl, fun _ _ => rfl, fun _ => rfl⟩

/-- The user finds the same object under a key. -/
theorem Agree.find (agree : part.Agree s t) {key : κ} (uses : part.Uses s key) :
    s.find key = t.find key := by
  unfold Store.find
  rw [← agree.table key uses.1]
  -- Without an entry both stores find the stand-in.
  cases found : s.table key with
  | none => exact agree.standIn (uses.2 found)
  | some ref => exact agree.object ref (.inr ⟨key, uses.1, found⟩)

/-- A change of an object made in both stores keeps them in agreement. -/
theorem Agree.assign (agree : part.Agree s t) (ref : Option ℕ) (content : β) :
    part.Agree (s.assign ref content) (t.assign ref content) where
  table := agree.table
  object other holds := by
    -- The object that is assigned is the same in both stores afterwards.
    by_cases same : some other = ref
    · simp [Store.assign, same]
    · simpa [Store.assign, same] using agree.object other holds
  standIn inside := by
    by_cases same : none = ref
    · simp [Store.assign, ← same]
    · simpa [Store.assign, same] using agree.standIn inside

/-- Changing an object changes nothing about who can reach it. -/
theorem Apart.assign (apart : part.Apart s) (ref : Option ℕ) (content : β) :
    part.Apart (s.assign ref content) :=
  ⟨apart.outside, apart.foreign⟩

/-- The user does not notice changes of objects it does not hold. -/
theorem Agree.assign_foreign (agree : part.Agree s t) {ref : Option ℕ} (content : β)
    (unheld : ∀ other, ref = some other → ¬ part.Holds s other)
    (unmet : ref = none → ¬ part.standIn) : part.Agree (s.assign ref content) t where
  table := agree.table
  object other holds := by
    -- An object of the part is another one than the one that is assigned.
    have different : some other ≠ ref := fun same => unheld other same.symm holds
    simpa [Store.assign, different] using agree.object other holds
  standIn inside := by
    have different : none ≠ ref := fun same => unmet same.symm inside
    simpa [Store.assign, different] using agree.standIn inside

/-- The user does not notice changes made through keys that spare its part. -/
theorem Agree.assign_spared (agree : part.Agree s t) (apart : part.Apart s) {key : κ}
    (spares : part.Spares s key) (content : β) : part.Agree (s.assign (s.table key) content) t :=
  agree.assign_foreign content (fun other found => apart.outside key other spares.1 found) spares.2

/-- The user changes its own objects alike in both stores. -/
theorem Agree.changeAll (agree : part.Agree s t) {refs : List ℕ}
    (owned : ∀ ref ∈ refs, part.owned ref) (change : β → β) :
    part.Agree (s.changeAll refs change) (t.changeAll refs change) := by
  -- Both stores change the same object in the same way, one after the other.
  refine List.foldl_rel agree fun ref member s t agree => ?_
  rw [agree.object ref (.inl (owned ref member))]
  exact agree.assign (some ref) _

/-- The user does not notice what others change of their own objects, and they stay apart. -/
theorem Agree.changeAll_foreign (agree : part.Agree s t) (apart : part.Apart s) {refs : List ℕ}
    (theirs : ∀ ref ∈ refs, part.others ref) (change : β → β) :
    part.Agree (s.changeAll refs change) t ∧ part.Apart (s.changeAll refs change) := by
  refine List.foldlRecOn refs _ (motive := fun s => part.Agree s t ∧ part.Apart s) ⟨agree, apart⟩ ?_
  -- Each of the objects belongs to others, before and after it is changed.
  rintro s ⟨agree, apart⟩ ref member
  refine ⟨agree.assign_foreign _ ?_ nofun, apart.assign _ _⟩
  intro other same
  obtain rfl := Option.some.inj same
  exact apart.foreign _ (theirs _ member)

/-- Who can reach what does not depend on the contents of the objects. -/
theorem Apart.changeAll (apart : part.Apart s) (refs : List ℕ) (change : β → β) :
    part.Apart (s.changeAll refs change) :=
  List.foldlRecOn refs _ (motive := part.Apart) apart fun _ apart _ _ => apart.assign _ _

variable [DecidableEq κ]

/-- The user's own registrations bring in nothing the user does not hold. -/
theorem holds_of_register {key : κ} {ref other : ℕ} (owned : part.owned ref)
    (holds : part.Holds (s.register key ref) other) : part.Holds s other := by
  rcases holds with own | ⟨place, inside, found⟩
  · exact .inl own
  -- What is newly found under the key was owned already.
  · by_cases same : place = key
    · subst same
      simp only [Store.register, Function.update_self, Option.some.injEq] at found
      exact .inl (found ▸ owned)
    · simp only [Store.register, Function.update_of_ne same] at found
      exact .inr ⟨place, inside, found⟩

/-- Both stores stay in agreement when the user registers an object of its own. -/
theorem Agree.register (agree : part.Agree s t) (key : κ) {ref : ℕ} (owned : part.owned ref) :
    part.Agree (s.register key ref) (t.register key ref) where
  table place inside := by
    -- The new entry is made in both stores.
    by_cases same : place = key
    · simp [Store.register, same]
    · simpa [Store.register, same] using agree.table place inside
  object other holds := agree.object other (holds_of_register owned holds)
  standIn := agree.standIn

/-- Registering an object of its own under one of its keys keeps the user apart. -/
theorem Apart.register (apart : part.Apart s) {key : κ} {ref : ℕ} (inside : part.keys key)
    (owned : part.owned ref) : part.Apart (s.register key ref) where
  outside place other outer found holds := by
    -- The new entry is one of the part's own keys.
    have different : place ≠ key := fun same => outer (same ▸ inside)
    simp only [Store.register, Function.update_of_ne different] at found
    exact apart.outside place other outer found (holds_of_register owned holds)
  foreign other theirs holds := apart.foreign other theirs (holds_of_register owned holds)

/-- What is registered outside the part adds nothing to what the user holds. -/
theorem holds_of_register_outside {key : κ} {ref other : ℕ} (outer : ¬ part.keys key)
    (holds : part.Holds (s.register key ref) other) : part.Holds s other := by
  rcases holds with own | ⟨place, inside, found⟩
  · exact .inl own
  -- The new entry is under none of the part's keys.
  · have different : place ≠ key := fun same => outer (same ▸ inside)
    simp only [Store.register, Function.update_of_ne different] at found
    exact .inr ⟨place, inside, found⟩

/-- The user does not notice what others register outside the part. -/
theorem Agree.register_outside (agree : part.Agree s t) {key : κ} (outer : ¬ part.keys key)
    (ref : ℕ) : part.Agree (s.register key ref) t where
  table place inside := by
    -- The new entry is under none of the part's keys.
    have different : place ≠ key := fun same => outer (same ▸ inside)
    simpa [Store.register, different] using agree.table place inside
  object other holds := agree.object other (holds_of_register_outside outer holds)
  standIn := agree.standIn

/-- Others that register their own objects outside the part stay apart. -/
theorem Apart.register_outside (apart : part.Apart s) {key : κ} {ref : ℕ}
    (outer : ¬ part.keys key) (theirs : part.others ref) : part.Apart (s.register key ref) where
  outside place other outerPlace found holds := by
    have before := holds_of_register_outside outer holds
    -- Under the key of the new entry there is an object of others.
    by_cases same : place = key
    · subst same
      simp only [Store.register, Function.update_self, Option.some.injEq] at found
      exact apart.foreign other (found ▸ theirs) before
    · simp only [Store.register, Function.update_of_ne same] at found
      exact apart.outside place other outerPlace found before
  foreign other theirs holds := apart.foreign other theirs (holds_of_register_outside outer holds)

end Part

end Shared
