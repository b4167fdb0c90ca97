import Pybrid.Library.Overwriting

/-! Steps that each change one part of a state, the one under their key: whole runs, part by part. -/

namespace Keyed

open Overwriting

variable {σ κ ν τ α ε : Type}

/--
Reading the part under a key, and putting another one in its place.

A part is only ever replaced by one of its own kind.
-/
structure Laws (get : σ → κ → Except ε ν) (put : σ → κ → ν → σ) (kind : ν → τ) : Prop where
  get_put : ∀ {s k v w}, get s k = .ok v → kind w = kind v → get (put s k w) k = .ok w
  get_put_other : ∀ {s k k' w}, k' ≠ k → get (put s k w) k' = get s k'
  put_put : ∀ {s k v w}, kind v = kind w → put (put s k v) k w = put s k w
  put_comm : ∀ {s k k' v w}, k ≠ k' → put (put s k v) k' w = put (put s k' w) k v

/-- Change the part under a key. -/
def step (get : σ → κ → Except ε ν) (put : σ → κ → ν → σ) (change : ν → α → Except ε ν) (s : σ)
    (entry : κ × α) : Except ε σ := do
  let part ← get s entry.1
  let changed ← change part entry.2
  return put s entry.1 changed

/-- What is done under one key, in its order. -/
def under [DecidableEq κ] (k : κ) (entries : List (κ × α)) : List α :=
  (entries.filter fun entry => entry.1 = k).map Prod.snd

section Under

variable [DecidableEq κ]

/-- An entry under the key comes first. -/
theorem under_cons_self (k : κ) (a : α) (later : List (κ × α)) :
    under k ((k, a) :: later) = a :: under k later := by
  simp [under]

/-- An entry under another key does not count. -/
theorem under_cons_other {k k' : κ} (apart : k' ≠ k) (a : α) (later : List (κ × α)) :
    under k ((k', a) :: later) = under k later := by
  simp [under, apart]

/-- Nothing is done under a key that no entry has. -/
theorem under_eq_nil {k : κ} {entries : List (κ × α)} (absent : ∀ entry ∈ entries, entry.1 ≠ k) :
    under k entries = [] := by
  simpa [under] using fun k' a member => absent (k', a) member

/-- What is done under a key in two lists comes one after the other. -/
theorem under_append (k : κ) (first second : List (κ × α)) :
    under k (first ++ second) = under k first ++ under k second := by
  simp [under]

/-- Everything is done under the one key of a list. -/
theorem under_own (k : κ) (steps : List α) : under k (steps.map fun a => (k, a)) = steps := by
  simp [under, List.filter_map, Function.comp_def]

end Under

section Runs

variable {get : σ → κ → Except ε ν} {put : σ → κ → ν → σ} {kind : ν → τ}
  {change : ν → α → Except ε ν}

/-- A step reads a part that is there, changes it and puts it back. -/
theorem step_eq_ok {s t : σ} {entry : κ × α} :
    step get put change s entry = .ok t ↔ ∃ v w, get s entry.1 = .ok v ∧
      change v entry.2 = .ok w ∧ t = put s entry.1 w := by
  -- A step reads the part, changes it and puts it back, and may raise in the first two.
  constructor
  · intro ran
    obtain ⟨v, found, ran⟩ := Raising.except_bind_eq_ok.mp ran
    obtain ⟨w, changed, stored⟩ := Raising.except_bind_eq_ok.mp ran
    exact ⟨v, w, found, changed, (Raising.except_pure_eq_ok.mp stored).symm⟩
  · rintro ⟨v, w, found, changed, rfl⟩
    exact Raising.except_bind_eq_ok.mpr ⟨v, found, Raising.except_bind_eq_ok.mpr ⟨w, changed, rfl⟩⟩

variable (laws : Laws get put kind) (kept : ∀ {v a w}, change v a = .ok w → kind w = kind v)

include laws kept in
/-- Steps that are apart, or under different keys, can change places. -/
theorem exchange {apart : α → α → Prop} (inner : Exchange apart change) :
    Exchange (fun a b : κ × α => a.1 = b.1 → apart a.2 b.2) (step get put change) := by
  intro s s₁ s₂ a b told first second
  obtain ⟨v, w, found, changed, rfl⟩ := step_eq_ok.mp first
  obtain ⟨v', w', found', changed', rfl⟩ := step_eq_ok.mp second
  by_cases same : a.1 = b.1
  · -- Both change one part, whose own steps can change places.
    rw [← same, laws.get_put found (kept changed)] at found'
    cases found'
    obtain ⟨x, alone, last⟩ := inner (told same) changed changed'
    refine ⟨put s b.1 x, step_eq_ok.mpr ⟨v, x, same ▸ found, alone, rfl⟩, ?_⟩
    refine step_eq_ok.mpr ⟨x, w', ?_, last, ?_⟩
    · rw [← same]
      exact laws.get_put found (kept alone)
    · rw [← same, laws.put_put (kept changed').symm, laws.put_put (kept last).symm]
  · -- Two parts do not get in each other's way.
    rw [laws.get_put_other (Ne.symm same)] at found'
    refine ⟨put s b.1 w', step_eq_ok.mpr ⟨v', w', found', changed', rfl⟩, ?_⟩
    refine step_eq_ok.mpr ⟨v, w, ?_, changed, laws.put_comm same⟩
    rw [laws.get_put_other same]
    exact found

variable [DecidableEq κ]

include laws kept in
/-- A run changes each part by what is done under its key. -/
theorem run_get {entries : List (κ × α)} {s t : σ}
    (ran : entries.foldlM (step get put change) s = .ok t) (k : κ) {v : ν} (found : get s k = .ok v) :
    ∃ w, get t k = .ok w ∧ (under k entries).foldlM change v = .ok w := by
  -- The induction is on the entries, of which only those under the key count.
  induction entries generalizing s v with
  | nil =>
    cases ran
    exact ⟨v, found, rfl⟩
  | cons entry later ih =>
    obtain ⟨k', a⟩ := entry
    obtain ⟨m, stepped, rest⟩ := foldlM_cons_eq_ok.mp ran
    obtain ⟨v', w', found', changed, rfl⟩ := step_eq_ok.mp stepped
    by_cases own : k' = k
    · subst own
      cases found'.symm.trans found
      obtain ⟨w, reached, inner⟩ := ih rest (laws.get_put found (kept changed))
      exact ⟨w, reached, under_cons_self k' a later ▸ foldlM_cons_eq_ok.mpr ⟨w', changed, inner⟩⟩
    · rw [under_cons_other own]
      exact ih rest ((laws.get_put_other (Ne.symm own)).trans found)

include laws kept in
/-- A run returns if what is done under each of its keys does. -/
theorem run_accepted {entries : List (κ × α)} {s : σ}
    (each : ∀ entry ∈ entries, ∃ v w, get s entry.1 = .ok v ∧
      (under entry.1 entries).foldlM change v = .ok w) :
    ∃ t, entries.foldlM (step get put change) s = .ok t := by
  induction entries generalizing s with
  | nil => exact ⟨s, rfl⟩
  | cons entry later ih =>
    obtain ⟨k, a⟩ := entry
    obtain ⟨v, w, found, inner⟩ := each (k, a) List.mem_cons_self
    rw [under_cons_self] at inner
    obtain ⟨x, changed, rest⟩ := foldlM_cons_eq_ok.mp inner
    -- What is left to do under a key is done on the part that the first step has left there.
    have others : ∀ entry ∈ later, ∃ v w, get (put s k x) entry.1 = .ok v ∧
        (under entry.1 later).foldlM change v = .ok w := by
      rintro ⟨k', b⟩ member
      by_cases own : k' = k
      · subst own
        exact ⟨x, w, laws.get_put found (kept changed), rest⟩
      · obtain ⟨v', w', found', inner'⟩ := each (k', b) (List.mem_cons_of_mem _ member)
        rw [under_cons_other (Ne.symm own)] at inner'
        exact ⟨v', w', (laws.get_put_other own).trans found', inner'⟩
    obtain ⟨t, ran⟩ := ih others
    exact ⟨t, foldlM_cons_eq_ok.mpr ⟨_, step_eq_ok.mpr ⟨v, x, found, changed, rfl⟩, ran⟩⟩

include laws in
omit [DecidableEq κ] in
/-- A part that is there after a run was there before it. -/
theorem run_found {entries : List (κ × α)} {s t : σ}
    (ran : entries.foldlM (step get put change) s = .ok t) {k : κ} {w : ν} (held : get t k = .ok w) :
    ∃ v, get s k = .ok v := by
  -- The induction goes back from the end of the run to its start.
  induction entries generalizing s with
  | nil =>
    cases ran
    exact ⟨w, held⟩
  | cons entry later ih =>
    obtain ⟨m, stepped, rest⟩ := foldlM_cons_eq_ok.mp ran
    obtain ⟨v', w', found, -, rfl⟩ := step_eq_ok.mp stepped
    by_cases own : k = entry.1
    · exact ⟨v', own ▸ found⟩
    · -- The step has not put anything under this key.
      obtain ⟨v, before⟩ := ih rest
      exact ⟨v, (laws.get_put_other own).symm.trans before⟩

include laws kept in
/-- A run returns exactly if what is done under each of its keys does. -/
theorem run_accepted_iff {entries : List (κ × α)} {s : σ} :
    (∃ t, entries.foldlM (step get put change) s = .ok t) ↔ ∀ entry ∈ entries, ∃ v w,
      get s entry.1 = .ok v ∧ (under entry.1 entries).foldlM change v = .ok w := by
  refine ⟨fun ⟨t, ran⟩ entry member => ?_, run_accepted laws kept⟩
  obtain ⟨front, behind, rfl⟩ := List.append_of_mem member
  obtain ⟨m, early, late⟩ := foldlM_append_eq_ok.mp ran
  obtain ⟨n, stepped, -⟩ := foldlM_cons_eq_ok.mp late
  obtain ⟨v, -, reached, -⟩ := step_eq_ok.mp stepped
  -- The part is there when its entry is reached, and so it was there at the start.
  obtain ⟨v, found⟩ := run_found laws early reached
  obtain ⟨w, -, inner⟩ := run_get laws kept ran entry.1 found
  exact ⟨v, w, found, inner⟩

/-- Putting the part under a key back changes nothing. -/
def Settled (get : σ → κ → Except ε ν) (put : σ → κ → ν → σ) (s : σ) (k : κ) : Prop :=
  ∃ v, get s k = .ok v ∧ put s k v = s

include laws kept in
omit [DecidableEq κ] in
/-- A run leaves the parts under its keys as they were put there last. -/
theorem run_settled {entries : List (κ × α)} {s t : σ}
    (ran : entries.foldlM (step get put change) s = .ok t) :
    (∀ k, Settled get put s k → Settled get put t k) ∧
      ∀ entry ∈ entries, Settled get put t entry.1 := by
  induction entries generalizing s with
  | nil =>
    cases ran
    exact ⟨fun _ => id, fun _ member => absurd member List.not_mem_nil⟩
  | cons entry later ih =>
    obtain ⟨m, stepped, rest⟩ := foldlM_cons_eq_ok.mp ran
    obtain ⟨v, w, found, changed, rfl⟩ := step_eq_ok.mp stepped
    obtain ⟨stays, others⟩ := ih rest
    -- A part that was put is found again, and putting it once more changes nothing.
    have own : Settled get put (put s entry.1 w) entry.1 :=
      ⟨w, laws.get_put found (kept changed), laws.put_put rfl⟩
    refine ⟨fun k settled => stays k ?_, List.forall_mem_cons.mpr ⟨stays entry.1 own, others⟩⟩
    by_cases same : k = entry.1
    · exact same ▸ own
    · -- What was put under another key before is still there.
      obtain ⟨x, held, back⟩ := settled
      exact ⟨x, (laws.get_put_other same).trans held, by
        rw [laws.put_comm (Ne.symm same), back]⟩

/-- Put these parts under these keys. -/
def putAll (put : σ → κ → ν → σ) (part : κ → ν) (keys : List κ) (s : σ) : σ :=
  keys.foldl (fun s k => put s k (part k)) s

omit [DecidableEq κ] in
/-- Parts that are put back where they are settled change nothing. -/
theorem putAll_settled {part : κ → ν} {keys : List κ} {s : σ}
    (settled : ∀ k ∈ keys, Settled get put s k) (parts : ∀ k ∈ keys, get s k = .ok (part k)) :
    putAll put part keys s = s := by
  -- Every key holds its own part already.
  induction keys with
  | nil => rfl
  | cons k later ih =>
    obtain ⟨v, held, back⟩ := settled k List.mem_cons_self
    cases held.symm.trans (parts k List.mem_cons_self)
    rw [putAll, List.foldl_cons, back]
    exact ih (fun j member => settled j (List.mem_cons_of_mem k member))
      fun j member => parts j (List.mem_cons_of_mem k member)

include laws in
/-- What is put under a key does not matter where that key is put again. -/
theorem putAll_put {part : κ → ν} {keys : List κ} {s : σ} {k : κ} {w : ν} (among : k ∈ keys)
    (same : kind w = kind (part k)) : putAll put part keys (put s k w) = putAll put part keys s := by
  induction keys generalizing s with
  | nil => cases among
  | cons j later ih =>
    rw [putAll, putAll, List.foldl_cons, List.foldl_cons]
    -- What was put under the key is replaced when its turn comes.
    by_cases own : k = j
    · rw [← own, laws.put_put same]
    · rw [laws.put_comm own]
      exact ih ((List.mem_cons.mp among).resolve_left own)

include laws kept in
/-- A run puts the parts it ends with under its keys, and does nothing else. -/
theorem run_eq_putAll {entries : List (κ × α)} {s t : σ} {part : κ → ν} {keys : List κ}
    (ran : entries.foldlM (step get put change) s = .ok t)
    (among : ∀ entry ∈ entries, entry.1 ∈ keys) (settled : ∀ k ∈ keys, Settled get put t k)
    (parts : ∀ k ∈ keys, get t k = .ok (part k)) : t = putAll put part keys s := by
  induction entries generalizing s with
  | nil =>
    cases ran
    exact (putAll_settled settled parts).symm
  | cons entry later ih =>
    obtain ⟨m, stepped, rest⟩ := foldlM_cons_eq_ok.mp ran
    obtain ⟨v, w, found, changed, rfl⟩ := step_eq_ok.mp stepped
    have own := among entry List.mem_cons_self
    rw [ih rest fun other member => among other (List.mem_cons_of_mem _ member)]
    -- The part that the step has put there is of the kind of the one that the run ends with.
    refine putAll_put laws own ?_
    obtain ⟨x, reached, inner⟩ := run_get laws kept rest entry.1 (laws.get_put found (kept changed))
    cases reached.symm.trans (parts _ own)
    have whole : ∀ {as : List α} {v w : ν}, as.foldlM change v = .ok w → kind w = kind v := by
      intro as
      induction as with
      | nil =>
        intro v w ran
        cases ran
        rfl
      | cons a as ih =>
        intro v w ran
        obtain ⟨x, first, rest⟩ := foldlM_cons_eq_ok.mp ran
        rw [ih rest, kept first]
    exact (whole inner).symm

include laws kept in
/--
A run that is made twice changes nothing the second time if that holds under each of its keys.

What is done under a key then starts from the part that the first run has left there.
-/
theorem run_twice_iff {entries : List (κ × α)} {s t : σ}
    (ran : entries.foldlM (step get put change) s = .ok t) :
    entries.foldlM (step get put change) t = .ok t ↔ ∀ entry ∈ entries, ∀ v,
      get t entry.1 = .ok v → (under entry.1 entries).foldlM change v = .ok v := by
  constructor
  · intro again entry _ v held
    obtain ⟨w, reached, inner⟩ := run_get laws kept again entry.1 held
    cases held.symm.trans reached
    exact inner
  · intro each
    obtain ⟨-, settled⟩ := run_settled laws kept ran
    obtain ⟨u, again⟩ := (run_accepted_iff laws kept (s := t)).mpr fun entry member => by
      obtain ⟨v, held, -⟩ := settled entry member
      exact ⟨v, v, held, each entry member v held⟩
    obtain ⟨-, settled'⟩ := run_settled laws kept again
    -- The second run ends with the parts of the first one, which were settled before it.
    have same : ∀ k ∈ entries.map Prod.fst, get u k = get t k := by
      intro k among
      obtain ⟨entry, member, rfl⟩ := List.mem_map.mp among
      obtain ⟨v, held, -⟩ := settled entry member
      obtain ⟨w, reached, inner⟩ := run_get laws kept again entry.1 held
      cases inner.symm.trans (each entry member v held)
      rw [reached, held]
    have there : ∀ k ∈ entries.map Prod.fst, ∃ v, get t k = .ok v := by
      intro k among
      obtain ⟨entry, member, rfl⟩ := List.mem_map.mp among
      obtain ⟨v, held, -⟩ := settled entry member
      exact ⟨v, held⟩
    by_cases none : entries = []
    · subst none
      rfl
    · -- Some part is there, which stands for the keys that the run does not have.
      obtain ⟨entry, member⟩ := List.exists_mem_of_ne_nil _ none
      obtain ⟨v₀, -⟩ := there entry.1 (List.mem_map_of_mem member)
      classical
      let part : κ → ν := fun k => if h : ∃ v, get t k = .ok v then h.choose else v₀
      have parts : ∀ k ∈ entries.map Prod.fst, get t k = .ok (part k) := by
        intro k among
        have found := there k among
        simp only [part, dif_pos found]
        exact found.choose_spec
      have keyed : ∀ {state}, (∀ entry ∈ entries, Settled get put state entry.1) →
          ∀ k ∈ entries.map Prod.fst, Settled get put state k := by
        intro state held k among
        obtain ⟨entry, member, rfl⟩ := List.mem_map.mp among
        exact held entry member
      have whole := run_eq_putAll laws kept again (fun entry member => List.mem_map_of_mem member)
        (keyed settled') fun k among => (same k among).trans (parts k among)
      rw [putAll_settled (keyed settled) parts] at whole
      rwa [whole] at again

end Runs

end Keyed
