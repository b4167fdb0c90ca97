import Pybrid.Library.Positions
import Pybrid.Proxy.Wiring

/-! Sorting the entity specifications of a module among the slots they are in. -/

namespace Pybrid.Wiring

/-- The order of pairs: by the first parts, and by the second ones if those are the same. -/
def pairBefore (a b : UInt32 × UInt32) : Bool :=
  a.1 < b.1 || (!(b.1 < a.1) && a.2 < b.2)

/-- The key of the item at an index. -/
def keyAt (module : Module) (index : Nat) : UInt32 × UInt32 :=
  ((module[index]?).map locationKey).getD (0, 0)

/-- The indices of the entity specifications. -/
def specIndices (module : Module) : List Nat :=
  (List.range module.length).filter fun index => (module[index]?).any Item.hasEntitySpecification

/-- Sort the entity specifications of a module, by way of their indices. -/
def sortModuleByIndices (module : Module) : Module :=
  let specIndices := specIndices module
  if specIndices.length ≤ 1 then module
  else
    -- The indices are sorted by the keys of their items, and the sort is stable.
    let sorted := specIndices.mergeSort fun a b => !pairBefore (keyAt module b) (keyAt module a)
    let sortedSpecs := sorted.filterMap fun index => module[index]?
    -- The slots are the same indices in ascending order.
    let slots := sorted.mergeSort (· ≤ ·)
    Positions.write module slots sortedSpecs

/-- The order on items is the one the comparison of their keys gives. -/
theorem notBehind_eq (first second : Item) :
    notBehind first second = !pairBefore (locationKey second) (locationKey first) := by
  -- The order of pairs is compared number by number.
  rw [Bool.eq_iff_iff]
  simp only [notBehind, pairBefore, Bool.or_eq_true, Bool.and_eq_true,
    Bool.not_eq_true', Bool.not_eq_false', Bool.or_eq_false_iff, Bool.and_eq_false_iff, decide_eq_true_eq,
    decide_eq_false_iff_not, UInt32.lt_iff_toNat_lt, UInt32.le_iff_toNat_le, ← UInt32.toNat_inj]
  omega

/-- Sorting by way of the indices sorts the specifications. -/
theorem sortedSpecs_eq (module : Module) :
    ((specIndices module).mergeSort fun a b => !pairBefore (keyAt module b) (keyAt module a)).filterMap
        (fun index => module[index]?) =
      (module.filter Item.hasEntitySpecification).mergeSort notBehind := by
  -- The comparison of two indices is a comparison of what is found there.
  let compare (first second : Option Item) : Bool :=
    !pairBefore ((second.map locationKey).getD (0, 0)) ((first.map locationKey).getD (0, 0))
  have found : ((specIndices module).mergeSort
      fun a b => !pairBefore (keyAt module b) (keyAt module a)).map (fun index => module[index]?) =
      ((module.filter Item.hasEntitySpecification).mergeSort notBehind).map some := by
    have specified : (specIndices module).map (fun index => module[index]?) =
        (module.filter Item.hasEntitySpecification).map some := by
      rw [specIndices, Positions.filter_range, Positions.map_positions]
    have mapped : ((specIndices module).mergeSort
        fun a b => !pairBefore (keyAt module b) (keyAt module a)).map (fun index => module[index]?) =
        ((specIndices module).map fun index => module[index]?).mergeSort compare :=
      List.map_mergeSort fun _ _ _ _ => rfl
    rw [mapped, specified]
    exact (List.map_mergeSort fun first _ second _ => notBehind_eq first second).symm
  have flattened := congrArg (List.filterMap id) found
  simpa [List.filterMap_map, Function.comp_def] using flattened

/-- The slots are the indices of the specifications again. -/
theorem slots_eq (module : Module) (le : Nat → Nat → Bool) :
    ((specIndices module).mergeSort le).mergeSort (· ≤ ·) = specIndices module := by
  -- The indices were collected from the front.
  have ascending : (specIndices module).Pairwise (· ≤ ·) := by
    rw [specIndices, Positions.filter_range]
    exact (Positions.pairwise_positions _ module).imp Nat.le_of_lt
  have permuted := (List.mergeSort_perm ((specIndices module).mergeSort le) (· ≤ ·)).trans
    (List.mergeSort_perm (specIndices module) le)
  have sorted : (((specIndices module).mergeSort le).mergeSort (· ≤ ·)).Pairwise
      fun a b => decide (a ≤ b) = true :=
    List.pairwise_mergeSort (fun a b c => by simpa using Nat.le_trans)
      (fun a b => by simpa using Nat.le_total a b) _
  exact List.Perm.eq_of_pairwise (fun a b _ _ => Nat.le_antisymm) (sorted.imp of_decide_eq_true)
    ascending permuted

/-- Sorting by way of the indices writes the sorted specifications to their slots. -/
theorem sortModuleByIndices_write (module : Module) :
    sortModuleByIndices module =
      Positions.write module (Positions.positions Item.hasEntitySpecification module)
        ((module.filter Item.hasEntitySpecification).mergeSort notBehind) := by
  have indices : specIndices module = Positions.positions Item.hasEntitySpecification module :=
    Positions.filter_range _ module
  simp only [sortModuleByIndices]
  split
  case isTrue few =>
    -- A single specification is in order, and is written to where it is.
    rw [indices, Positions.length_positions] at few
    have ordered : (module.filter Item.hasEntitySpecification).mergeSort notBehind =
        module.filter Item.hasEntitySpecification := by
      match specifications : module.filter Item.hasEntitySpecification, few with
      | [], _ => exact List.mergeSort_nil
      | [single], _ => exact List.mergeSort_singleton single
    rw [ordered, Positions.write_self]
  case isFalse => rw [sortedSpecs_eq, slots_eq, indices]

/-- Writing to the slots one by one refills them. -/
theorem refill_eq_write (module : Module) : ∀ {specifications : List Item},
    specifications.length = (module.filter Item.hasEntitySpecification).length →
    refill module specifications = Positions.write module
      (Positions.positions Item.hasEntitySpecification module) specifications := by
  induction module with
  | nil => intro specifications _; cases specifications <;> rfl
  | cons item items ih =>
    intro specifications fits
    -- A specification takes the next one from the list, any other item stays.
    cases specified : item.hasEntitySpecification with
    | true =>
      cases specifications with
      | nil => simp [specified] at fits
      | cons specification rest =>
        rw [Positions.write_positions_pos specified, ← ih (by simpa [specified] using fits)]
        simp [refill, specified]
    | false =>
      rw [Positions.write_positions_neg specified, ← ih (by simpa [specified] using fits)]
      simp [refill, specified]

/-- Sorting by way of the indices is sorting. -/
theorem sortModuleByIndices_eq (module : Module) :
    sortModuleByIndices module = sortModuleByLocation module := by
  have permuted := List.mergeSort_perm (module.filter Item.hasEntitySpecification) notBehind
  rw [sortModuleByIndices_write, ← refill_eq_write module permuted.length_eq,
    sortModuleByLocation]
  split
  -- With at most one specification the sorting is left out.
  case isTrue few =>
    rw [refill_eq_write module permuted.length_eq, ← sortModuleByIndices_write,
      sortModuleByIndices, specIndices, Positions.filter_range, Positions.length_positions,
      if_pos few]
  case isFalse => rfl

/-- The order in which specifications are to appear, with those that have no location last. -/
def InOrder (first second : Item) : Prop :=
  match first.location, second.location with
  | some a, some b => a.stack < b.stack ∨ a.stack = b.stack ∧ a.carrier ≤ b.carrier
  | _, none => True
  -- A specification without a location counts as one at the last location there can be.
  | none, some b => b.stack = 4294967295 ∧ b.carrier = 4294967295

/-- The module is sorted within the slots of its entity specifications. -/
structure SortedInSlots (module sorted : Module) : Prop where
  perm : sorted.Perm module
  /-- The other items keep their index. -/
  others : ∀ (index : Nat) (item : Item), module[index]? = some item →
    item.hasEntitySpecification = false → sorted[index]? = some item
  /-- The specifications occupy the same indices. -/
  slots : sorted.map Item.hasEntitySpecification = module.map Item.hasEntitySpecification
  /-- The specifications are in order. -/
  ordered : (sorted.filter Item.hasEntitySpecification).Pairwise InOrder
  /-- The specifications of one key are in the order they were in. -/
  stable : ∀ key,
    (sorted.filter fun item => item.hasEntitySpecification && (locationKey item == key)) =
      module.filter fun item => item.hasEntitySpecification && (locationKey item == key)

/-- The comparison of items as one of numbers. -/
theorem notBehind_iff (first second : Item) :
    notBehind first second = true ↔
      (locationKey first).1.toNat < (locationKey second).1.toNat ∨
        (locationKey first).1.toNat = (locationKey second).1.toNat ∧
          (locationKey first).2.toNat ≤ (locationKey second).2.toNat := by
  -- Keys are compared as numbers, the stack before the carrier.
  simp only [notBehind, Bool.or_eq_true, Bool.and_eq_true, decide_eq_true_eq,
    UInt32.lt_iff_toNat_lt, UInt32.le_iff_toNat_le, ← UInt32.toNat_inj]

/-- The order of items is transitive. -/
theorem notBehind_trans (first second third : Item) (here : notBehind first second = true)
    (there : notBehind second third = true) : notBehind first third = true := by
  rw [notBehind_iff] at *
  omega

/-- Any two items are comparable. -/
theorem notBehind_total (first second : Item) :
    (notBehind first second || notBehind second first) = true := by
  rw [Bool.or_eq_true, notBehind_iff, notBehind_iff]
  omega

/-- Items that are not behind one another are in order. -/
theorem inOrder_of_notBehind {first second : Item} (before : notBehind first second = true) :
    InOrder first second := by
  rw [notBehind_iff] at before
  unfold InOrder
  unfold locationKey at before
  cases here : first.location with
  | none =>
    cases there : second.location with
    | none => trivial
    | some b =>
      -- Nothing is behind the last location.
      simp only [here, there] at before
      have stack := b.stack.toNat_lt
      have carrier := b.carrier.toNat_lt
      have top : UInt32.toNat 4294967295 = 4294967295 := rfl
      simp only [← UInt32.toNat_inj, top] at before ⊢
      omega
  | some a =>
    cases there : second.location with
    | none => trivial
    | some b =>
      simp only [here, there] at before
      simpa only [UInt32.lt_iff_toNat_lt, UInt32.le_iff_toNat_le, ← UInt32.toNat_inj] using before

/-- A stable sort keeps the order of the items with the same key. -/
theorem filter_mergeSort (items : List Item) (key : UInt32 × UInt32) :
    (items.mergeSort notBehind).filter (fun item => locationKey item == key) =
      items.filter fun item => locationKey item == key := by
  have tied : (items.filter fun item => locationKey item == key).Pairwise
      fun first second => notBehind first second = true := by
    refine List.Pairwise.imp_of_mem ?_ (List.pairwise_of_forall (R := fun _ _ => True) fun _ _ => trivial)
    intro first second here there _
    rw [notBehind_iff, beq_iff_eq.mp (List.mem_filter.mp here).2,
      beq_iff_eq.mp (List.mem_filter.mp there).2]
    omega
  -- They are found in the same order in the sorted list, and there are no more of them.
  have found := List.sublist_mergeSort notBehind_trans notBehind_total tied List.filter_sublist
  have kept := found.filter fun item => locationKey item == key
  rw [List.filter_filter] at kept
  simp only [Bool.and_self] at kept
  have count := ((List.mergeSort_perm items notBehind).filter
    fun item => locationKey item == key).length_eq
  exact (kept.eq_of_length count.symm).symm

/-- Every module is sorted within the slots of its entity specifications. -/
theorem module_sorted (module : Module) : SortedInSlots module (sortModuleByIndices module) := by
  have permuted := List.mergeSort_perm (module.filter Item.hasEntitySpecification) notBehind
  have specified : ∀ item ∈ (module.filter Item.hasEntitySpecification).mergeSort notBehind,
      item.hasEntitySpecification = true := fun item member =>
    (List.mem_filter.mp (permuted.subset member)).2
  have rearranged := Positions.write_rearranged Item.hasEntitySpecification module
    permuted.length_eq specified
  rw [← sortModuleByIndices_write] at rearranged
  constructor
  case perm => exact rearranged.perm permuted
  case others => exact rearranged.others
  case slots => exact rearranged.slots
  case ordered =>
    rw [rearranged.replaced]
    exact (List.pairwise_mergeSort notBehind_trans notBehind_total _).imp inOrder_of_notBehind
  case stable =>
    intro key
    -- The specifications are sorted, and the key is looked at among them.
    have split : ∀ items : Module,
        (items.filter fun item => item.hasEntitySpecification && (locationKey item == key)) =
          (items.filter Item.hasEntitySpecification).filter fun item => locationKey item == key := by
      intro items
      rw [List.filter_filter]
      simp only [Bool.and_comm]
    rw [split, split, rearranged.replaced, filter_mergeSort]

/-- A specification at the last location there can be, and one without. -/
def lastLocated : Module :=
  [⟨"a", .entitySpecification "a" none⟩,
    ⟨"b", .entitySpecification "b" (some ⟨4294967295, 4294967295⟩)⟩]

/-- A specification without a location stays in front of one at the last location. -/
theorem unlocated_not_last :
    (sortModuleByIndices lastLocated).map Item.location =
      [none, some ⟨4294967295, 4294967295⟩] := by
  -- Both keys are the greatest pair, so that the two stay in their order.
  have ordered : (lastLocated.filter Item.hasEntitySpecification).mergeSort notBehind =
      lastLocated.filter Item.hasEntitySpecification :=
    List.mergeSort_of_pairwise (by decide)
  rw [sortModuleByIndices_write, ordered, Positions.write_self]
  rfl

end Pybrid.Wiring
