import Mathlib.Data.List.Perm.Basic
import Mathlib.Data.List.Nodup
import Mathlib.Data.List.Flatten

/-! Entries of several sources in one list, each with the source it came from. -/

namespace Merge

variable {ι β : Type*} [DecidableEq ι]

/-- The entries of one source, in their order. -/
def of (source : ι) (merged : List (ι × β)) : List β :=
  merged.filterMap fun entry => if entry.1 = source then some entry.2 else none

@[simp] theorem of_nil (source : ι) : of source ([] : List (ι × β)) = [] := rfl

@[simp] theorem of_append (source : ι) (first second : List (ι × β)) :
    of source (first ++ second) = of source first ++ of source second :=
  List.filterMap_append

theorem of_cons (source : ι) (entry : ι × β) (later : List (ι × β)) :
    of source (entry :: later) =
      if entry.1 = source then entry.2 :: of source later else of source later := by
  by_cases own : entry.1 = source <;> simp [of, own]

/-- What came from a source are the entries with its tag. -/
theorem mem_of {source : ι} {merged : List (ι × β)} {entry : β} :
    entry ∈ of source merged ↔ (source, entry) ∈ merged := by
  simp only [of, List.mem_filterMap, Option.ite_none_right_eq_some, Option.some.injEq]
  -- The entries of a source are those that it is merged under.
  constructor
  · rintro ⟨⟨_, _⟩, listed, rfl, rfl⟩
    exact listed
  · exact fun listed => ⟨(source, entry), listed, rfl, rfl⟩

/-- Entries that all came from one source. -/
theorem of_tagged (source own : ι) (entries : List β) :
    of source (entries.map fun entry => (own, entry)) = if own = source then entries else [] := by
  by_cases same : own = source <;> simp [of, same]

/-- A source that no entry came from has none. -/
theorem of_eq_nil {source : ι} {merged : List (ι × β)} (absent : ∀ entry ∈ merged, entry.1 ≠ source) :
    of source merged = [] :=
  List.filterMap_eq_nil_iff.mpr fun entry member => if_neg (absent entry member)

/-- A list is made of what came from each of its sources. -/
theorem perm_sources {sources : List ι} (distinct : sources.Nodup) {merged : List (ι × β)}
    (known : ∀ entry ∈ merged, entry.1 ∈ sources) :
    (merged.map Prod.snd).Perm (sources.flatMap fun source => of source merged) := by
  -- The induction is on the merged list; its head comes first among those of its source.
  induction merged with
  | nil => simp
  | cons entry later ih =>
    obtain ⟨before, after, split⟩ := List.append_of_mem (known entry List.mem_cons_self)
    have rest := ih fun other member => known other (List.mem_cons_of_mem _ member)
    subst split
    have alone := List.nodup_middle.mp distinct
    have fresh : entry.1 ∉ before ++ after := (List.nodup_cons.mp alone).1
    have elsewhere : ∀ sources : List ι, (∀ source ∈ sources, source ∈ before ++ after) →
        (sources.flatMap fun source => of source (entry :: later)) =
          sources.flatMap fun source => of source later := by
      intro sources inside
      refine List.flatMap_congr fun source member => ?_
      rw [of_cons, if_neg]
      rintro rfl
      exact fresh (inside _ member)
    rw [List.flatMap_append, List.flatMap_cons] at rest ⊢
    rw [elsewhere before fun _ member => List.mem_append_left _ member,
      elsewhere after fun _ member => List.mem_append_right _ member, of_cons, if_pos rfl,
      List.cons_append]
    exact (rest.cons entry.2).trans List.perm_middle.symm

end Merge
