import Mathlib

/-! Queues served from the front, seen through the lists of who was admitted, served and dropped. -/

namespace Fifo

variable {α : Type*}

/-- Who has come, who is waiting, who has been served and who has given up, each in order. -/
structure Ledger (α : Type*) where
  admitted : List α
  waiting : List α
  served : List α
  dropped : List α

/-- Everybody is served in the order of admission, unless dropped while waiting. -/
structure Ledger.Fair (q : Ledger α) : Prop where
  distinct : q.admitted.Nodup
  order : (q.served ++ q.waiting).Sublist q.admitted
  complete : ∀ x ∈ q.admitted, x ∈ q.served ++ q.waiting ∨ x ∈ q.dropped
  apart : ∀ x ∈ q.dropped, x ∈ q.admitted ∧ x ∉ q.served ++ q.waiting

/-- Two different entries of a list without duplicates cannot be in both orders. -/
theorem not_sublist_swap {entries : List α} (distinct : entries.Nodup) {x y : α}
    (forth : [x, y].Sublist entries) : ¬[y, x].Sublist entries := by
  -- Sublists of a list without duplicates are ordered by position.
  intro back
  induction entries with
  | nil => simp at forth
  | cons entry entries ih =>
    obtain ⟨new, distinct⟩ := List.nodup_cons.mp distinct
    rcases List.sublist_cons_iff.mp forth with behind | ⟨rest, split, tail⟩
    · -- The first order lies behind the head, so the second one must as well.
      rcases List.sublist_cons_iff.mp back with other | ⟨rest, split, _⟩
      · exact ih distinct behind other
      · have same : y = entry := (List.cons.inj split).1
        exact new (same ▸ behind.subset (by simp))
    · -- The head comes first, and does not occur again behind itself.
      obtain ⟨rfl, rfl⟩ := List.cons.inj split
      rcases List.sublist_cons_iff.mp back with other | ⟨rest, split, _⟩
      · exact new (other.subset (by simp))
      · have same : y = x := (List.cons.inj split).1
        exact new (same ▸ tail.subset (by simp))

/-- Two members of a list, the first before the second or the second before the first. -/
theorem sublist_or_swap {entries : List α} {x y : α} (different : x ≠ y) (first : x ∈ entries)
    (second : y ∈ entries) : [x, y].Sublist entries ∨ [y, x].Sublist entries := by
  -- The induction is on the list; whichever is its head comes first.
  induction entries with
  | nil => simp at first
  | cons entry entries ih =>
    rcases List.mem_cons.mp first with rfl | inside
    · have behind : y ∈ entries := (List.mem_cons.mp second).resolve_left (Ne.symm different)
      exact .inl (List.Sublist.cons_cons _ (List.singleton_sublist.mpr behind))
    · rcases List.mem_cons.mp second with rfl | behind
      · exact .inr (List.Sublist.cons_cons _ (List.singleton_sublist.mpr inside))
      · rcases ih inside behind with forth | back
        · exact .inl (forth.cons _)
        · exact .inr (back.cons _)

namespace Ledger.Fair

variable {q : Ledger α}

/-- Nobody who waits has been served. -/
theorem nodup (fair : q.Fair) : (q.served ++ q.waiting).Nodup :=
  fair.distinct.sublist fair.order

/-- Whoever is served had been admitted. -/
theorem admitted_of_served (fair : q.Fair) {x : α} (served : x ∈ q.served) : x ∈ q.admitted :=
  fair.order.subset (List.mem_append_left _ served)

/-- Those who wait are the ones admitted and neither served nor dropped. -/
theorem waiting_iff (fair : q.Fair) (x : α) :
    x ∈ q.waiting ↔ x ∈ q.admitted ∧ x ∉ q.served ∧ x ∉ q.dropped := by
  -- Whoever was admitted waits, has been served or was dropped.
  constructor
  · intro waits
    refine ⟨fair.order.subset (List.mem_append_right _ waits), fun served => ?_, fun dropped => ?_⟩
    · exact (List.disjoint_of_nodup_append fair.nodup) served waits
    · exact (fair.apart x dropped).2 (List.mem_append_right _ waits)
  · rintro ⟨admitted, unserved, undropped⟩
    have present := (fair.complete x admitted).resolve_right undropped
    exact (List.mem_append.mp present).resolve_left unserved

/-- A newcomer waits behind everybody. -/
theorem enter (fair : q.Fair) {x : α} (new : x ∉ q.admitted) :
    Fair { q with admitted := q.admitted ++ [x], waiting := q.waiting ++ [x] } := by
  refine ⟨?_, ?_, ?_, ?_⟩
  · -- The newcomer has not been admitted before.
    exact List.nodup_append.mpr ⟨fair.distinct, List.nodup_singleton x, by
      intro a member b single
      rw [List.mem_singleton.mp single]
      exact fun same => new (same ▸ member)⟩
  · rw [← List.append_assoc]
    exact fair.order.append (List.Sublist.refl _)
  · intro y member
    rw [← List.append_assoc]
    rcases List.mem_append.mp member with old | last
    · exact (fair.complete y old).imp_left (List.mem_append_left _)
    · exact .inl (List.mem_append_right _ last)
  · intro y dropped
    obtain ⟨admitted, absent⟩ := fair.apart y dropped
    refine ⟨List.mem_append_left _ admitted, ?_⟩
    rw [← List.append_assoc]
    intro present
    rcases List.mem_append.mp present with old | last
    · exact absent old
    · exact new (List.mem_singleton.mp last ▸ admitted)

/-- Serving the front of the queue moves nobody. -/
theorem serve (fair : q.Fair) {x : α} {rest : List α} (front : q.waiting = x :: rest) :
    Fair { q with waiting := rest, served := q.served ++ [x] } := by
  -- Those served and those waiting are the same list as before, cut one place further.
  have same : (q.served ++ [x]) ++ rest = q.served ++ q.waiting := by simp [front]
  refine ⟨fair.distinct, ?_, ?_, ?_⟩
  · simpa only [same] using fair.order
  · simpa only [same] using fair.complete
  · simpa only [same] using fair.apart

/-- One entry leaves the queue from wherever it is. -/
theorem drop [DecidableEq α] (fair : q.Fair) {x : α} (waits : x ∈ q.waiting) :
    Fair { q with waiting := q.waiting.erase x, dropped := q.dropped ++ [x] } := by
  have unserved : x ∉ q.served := ((fair.waiting_iff x).mp waits).2.1
  have distinct : q.waiting.Nodup := (List.nodup_append.mp fair.nodup).2.1
  refine ⟨fair.distinct, ?_, ?_, ?_⟩
  · exact (List.Sublist.append (List.Sublist.refl _) List.erase_sublist).trans fair.order
  · -- Everybody but the one dropped is where he was.
    intro y admitted
    by_cases same : y = x
    · exact .inr (by simp [same])
    · rcases fair.complete y admitted with present | dropped
      · refine .inl ?_
        rcases List.mem_append.mp present with served | waiting
        · exact List.mem_append_left _ served
        · exact List.mem_append_right _ ((List.mem_erase_of_ne same).mpr waiting)
      · exact .inr (List.mem_append_left _ dropped)
  · intro y dropped
    rcases List.mem_append.mp dropped with old | last
    · obtain ⟨admitted, absent⟩ := fair.apart y old
      refine ⟨admitted, fun present => absent ?_⟩
      rcases List.mem_append.mp present with served | waiting
      · exact List.mem_append_left _ served
      · exact List.mem_append_right _ (List.mem_of_mem_erase waiting)
    · -- The one dropped had not been served, and waited in one place only.
      rw [List.mem_singleton.mp last]
      refine ⟨fair.order.subset (List.mem_append_right _ waits), fun present => ?_⟩
      rcases List.mem_append.mp present with served | waiting
      · exact unserved served
      · exact distinct.not_mem_erase waiting

/-- Nobody is overtaken: who came before somebody served, and never was dropped, was served first. -/
theorem no_overtaking (fair : q.Fair) {x y : α} (before : [x, y].Sublist q.admitted)
    (served : y ∈ q.served) (stays : x ∉ q.dropped) : [x, y].Sublist q.served := by
  have admitted : x ∈ q.admitted := before.subset (by simp)
  have different : x ≠ y := by
    rintro rfl
    exact not_sublist_swap fair.distinct before before
  -- Serving and waiting keep the order of admission, so the other order cannot be found in them.
  have never : ¬[y, x].Sublist (q.served ++ q.waiting) :=
    fun back => not_sublist_swap fair.distinct before (back.trans fair.order)
  have first : x ∈ q.served := by
    -- Somebody still waiting would be behind everybody served.
    rcases List.mem_append.mp ((fair.complete x admitted).resolve_right stays) with first | waits
    · exact first
    · exact absurd (List.Sublist.append (List.singleton_sublist.mpr served)
        (List.singleton_sublist.mpr waits)) never
  rcases sublist_or_swap different first served with forth | back
  · exact forth
  · exact absurd (back.trans (List.sublist_append_left _ _)) never

end Ledger.Fair

end Fifo
