import Mathlib.Data.List.Perm.Basic

/-! Lists made of one stream for each key, whose order counts within a stream only. -/

namespace Streams

variable {α κ : Type} [DecidableEq κ] {key : α → κ}

/-- The elements with one key, in their order. -/
def ofKey (key : α → κ) (k : κ) (l : List α) : List α := l.filter fun a => key a = k

/-- Two lists hold the same streams. -/
def Same (key : α → κ) (l l' : List α) : Prop := ∀ k, ofKey key k l = ofKey key k l'

/-- Each stream of one list is the beginning of the other list's. -/
def Begins (key : α → κ) (l l' : List α) : Prop := ∀ k, ofKey key k l <+: ofKey key k l'

/-- The oldest element with a key, and the others. -/
def takeFirst (key : α → κ) (k : κ) (l : List α) : Option (α × List α) :=
  (l.find? fun a => key a = k).map fun a => (a, l.eraseP fun a => key a = k)

/-- The streams of a concatenation are concatenated. -/
@[simp] theorem ofKey_append (k : κ) (l l' : List α) :
    ofKey key k (l ++ l') = ofKey key k l ++ ofKey key k l' :=
  List.filter_append ..

/-- A list holds the streams it holds. -/
theorem Same.refl (l : List α) : Same key l l := fun _ => rfl

/-- Lists that hold the same streams as a third one hold the same streams. -/
theorem Same.trans {l l' l'' : List α} (first : Same key l l') (second : Same key l' l'') :
    Same key l l'' := fun k => (first k).trans (second k)

/-- The order in which two lists are compared does not matter. -/
theorem Same.symm {l l' : List α} (same : Same key l l') : Same key l' l := fun k => (same k).symm

/-- Parts that hold the same streams make up lists that do. -/
theorem Same.append {l l' m m' : List α} (front : Same key l l') (back : Same key m m') :
    Same key (l ++ m) (l' ++ m') := fun k => by
  rw [ofKey_append, ofKey_append, front k, back k]

/-- An element is counted in the stream of its key. -/
theorem count_ofKey [DecidableEq α] (a : α) (l : List α) :
    (ofKey key (key a) l).count a = l.count a :=
  List.count_filter (by simp)

/-- Lists with the same streams hold the same elements. -/
theorem Same.perm {l l' : List α} (same : Same key l l') : l.Perm l' := by
  classical
  -- An element is counted among those of its own key.
  refine List.perm_iff_count.mpr fun a => ?_
  have counts : (ofKey key (key a) l).count a = (ofKey key (key a) l').count a := by rw [same]
  rwa [count_ofKey, count_ofKey] at counts

/-- One more element in front of both lists. -/
theorem Same.cons {l l' : List α} (same : Same key l l') (a : α) : Same key (a :: l) (a :: l') :=
  (Same.refl [a]).append same

/-- Elements of different streams can change places. -/
theorem same_swap {a b : α} (apart : key a ≠ key b) (l : List α) :
    Same key (a :: b :: l) (b :: a :: l) := by
  intro k
  simp only [ofKey, List.filter_cons]
  -- At most one of the two is in the stream.
  by_cases mine : key a = k
  · have other : ¬key b = k := fun same => apart (mine.trans same.symm)
    simp [mine, other]
  · simp [mine]

/-- The oldest element with a key can be put before all others, as far as the streams go. -/
theorem takeFirst_same {k : κ} {l rest : List α} {a : α} (taken : takeFirst key k l = some (a, rest)) :
    key a = k ∧ Same key l (a :: rest) := by
  obtain ⟨first, found, same⟩ := Option.map_eq_some_iff.mp taken
  obtain ⟨rfl, rfl⟩ := Prod.mk.inj same
  have own : key first = k := by simpa using List.find?_some found
  refine ⟨own, ?_⟩
  -- The induction is on the elements before it, which have other keys.
  clear taken same
  induction l with
  | nil => cases found
  | cons b later ih =>
    rw [List.find?_cons] at found
    by_cases here : key b = k
    · obtain rfl : b = first := by simpa [here] using found
      rw [List.eraseP_cons_of_pos (by simpa using here)]
      exact .refl _
    · have found : later.find? (fun a => key a = k) = some first := by simpa [here] using found
      rw [List.eraseP_cons_of_neg (by simpa using here)]
      exact ((ih found).cons b).trans (same_swap (fun same => here (same.trans own)) _)

/-- Where every stream has one element, each of them can be put before all others. -/
theorem same_cons_erase [DecidableEq α] {l : List α} (distinct : (l.map key).Nodup) {a : α}
    (member : a ∈ l) : Same key l (a :: l.erase a) := by
  -- The element is brought to the front past others, none of which has its key.
  induction l with
  | nil => cases member
  | cons b later ih =>
    rw [List.map_cons, List.nodup_cons] at distinct
    by_cases here : b = a
    · subst here
      rw [List.erase_cons_head]
      exact .refl _
    · have behind : a ∈ later := (List.mem_cons.mp member).resolve_left (Ne.symm here)
      have apart : key b ≠ key a := fun same =>
        distinct.1 (same ▸ List.mem_map_of_mem behind)
      rw [List.erase_cons_tail (by simpa using here)]
      exact ((ih distinct.2 behind).cons b).trans (same_swap apart _)

/-- A stream has an oldest element if the list has one with its key. -/
theorem exists_takeFirst {l : List α} {a : α} (member : a ∈ l) :
    ∃ first rest, takeFirst key (key a) l = some (first, rest) := by
  cases found : l.find? fun b => key b = key a with
  | none =>
    -- The element itself would have been found.
    have passed := List.find?_eq_none.mp found a member
    simp at passed
  | some first => exact ⟨first, l.eraseP fun b => key b = key a, by rw [takeFirst, found]; rfl⟩

/-- What comes first in a list begins its streams. -/
theorem Same.begins {l front back : List α} (same : Same key l (front ++ back)) :
    Begins key front l := fun k => by
  -- For every key the front comes first in what both have.
  rw [same k, ofKey_append]
  exact List.prefix_append ..

/-- The beginning of a beginning is a beginning. -/
theorem Begins.trans {l l' l'' : List α} (first : Begins key l l') (second : Begins key l' l'') :
    Begins key l l'' := fun k => (first k).trans (second k)

/-- The first elements of a list begin its streams. -/
theorem begins_of_front {l l' : List α} (front : l <+: l') : Begins key l l' := fun _ =>
  front.filter _

end Streams
