import Pybrid.Library.Simulation
import Pybrid.Redac.Discovery
import Pybrid.Redac.SpecificationRoundTrip

/-! The two deserializers compared: below a location, that of a LUCIDAC builds what the other does. -/

namespace Pybrid

variable {C : Type}

/-- Two carriers are the same, apart from the front plane and the clusters. -/
structure CarrierTree.Matches {K K' : Type} (carrier : CarrierTree K C)
    (fronted : FrontedCarrier K' C) : Prop where
  path : carrier.path = fronted.path
  location : carrier.location = fronted.location
  entityType : carrier.entityType = fronted.entityType
  tblock : carrier.tblock = fronted.tblock
  st0block : carrier.st0block = fronted.st0block
  st1block : carrier.st1block = fronted.st1block
  st2block : carrier.st2block = fronted.st2block

/-- The two deserializers built the same, apart from front planes. -/
inductive Built.SameAs : Built C → Found C → Prop
  | block (block : BlockTree C) : Built.SameAs (.block block) (.block block)
  | cluster (cluster : ClusterTree C) : Built.SameAs (.cluster cluster) (.cluster cluster)
  | carrier {carrier : CarrierTree (Built C) C} {fronted : FrontedCarrier (Found C) C}
      (same : carrier.Matches fronted)
      (clusters : List.Forall₂ Built.SameAs carrier.clusters fronted.clusters) :
      Built.SameAs (.carrier carrier) (.carrier fronted)
  | device {plain : List (Built C)} {carriers : List (Found C)} (path : Path)
      (same : List.Forall₂ Built.SameAs plain carriers) :
      Built.SameAs (.device path plain) (.device path carriers)

namespace LucidacDeserializer

open Simulation

variable {registry : List (EntityType × C)}

/-- Something that does not count does the same work as without a counter. -/
theorem CounterM.ofExcept_simulates {α : Type} (result : Except PyError α) (counter : Nat) :
    Simulates (Kept Eq counter) result (CounterM.ofExcept result counter) := by
  -- The counter is not touched.
  cases result with
  | ok value => exact .returns ⟨rfl, rfl⟩
  | error error => exact .raises

/-- Every carrier of a device reports its location, so that none is counted. -/
def Reports : Nat → PbEntity → Prop
  | 0, _ => True
  | depth + 1, entity =>
    (EntityClass.ofValue entity.class_ = .ok .carrier → entity.locationV0 ≠ none) ∧
    (EntityClass.ofValue entity.class_ = .ok .device → ∀ child ∈ entity.children, Reports depth child)

/-- Two carriers under construction are the same and at this location, and nothing was counted. -/
def Alike (loc : EntityLoc) (counter : Nat) (carrier : CarrierTree (Built C) C)
    (fronted : FrontedCarrier (Found C) C) (after : Nat) : Prop :=
  Kept (fun carrier fronted => (Built.carrier carrier).SameAs (.carrier fronted)) counter carrier
    fronted after ∧ carrier.location = some loc

variable {plain : PbEntity → Path → Option EntityLoc → Except PyError (Built C)}
  {dispatch : PbEntity → Path → Option EntityLoc → CounterM (Found C)}

/-- A child is added to both carriers alike; only a front plane is added to one of them alone. -/
theorem addChild_simulates (below : ∀ entity path loc counter,
      Simulates (Kept Built.SameAs counter) (plain entity path (some loc))
        (dispatch entity path (some loc) counter))
    {loc : EntityLoc} {counter after : Nat} {carrier : CarrierTree (Built C) C}
    {fronted : FrontedCarrier (Found C) C} (alike : Alike loc counter carrier fronted after)
    (child : PbEntity) :
    Simulates (Alike loc counter) (RedacDeserializer.addChild registry plain carrier child)
      (addChild registry dispatch fronted child after) := by
  -- Apart from clusters and front planes, the two carriers are one and the same.
  obtain ⟨⟨same, rfl⟩, located⟩ := alike
  obtain ⟨path, location, type, clusters, t, st0, st1, st2⟩ := carrier
  obtain ⟨⟨_, _, _, clusters', _, _, _, _⟩, front, acl⟩ := fronted
  obtain - | - | ⟨⟨rfl, rfl, rfl, rfl, rfl, rfl, rfl⟩, same⟩ := same
  obtain rfl : location = some loc := located
  have kept : ∀ {clusters clusters'}, List.Forall₂ Built.SameAs clusters clusters' →
      ∀ t st0 st1 st2 front acl,
        Alike loc counter (⟨path, some loc, type, clusters, t, st0, st1, st2⟩ : CarrierTree (Built C) C)
          ⟨⟨path, some loc, type, clusters', t, st0, st1, st2⟩, front, acl⟩ counter :=
    fun same _ _ _ _ _ _ => ⟨⟨.carrier ⟨rfl, rfl, rfl, rfl, rfl, rfl, rfl⟩ same, rfl⟩, rfl⟩
  unfold RedacDeserializer.addChild addChild
  refine (CounterM.ofExcept_simulates _ _).bind ?_
  rintro below' _ _ ⟨rfl, rfl⟩
  refine (CounterM.ofExcept_simulates _ _).bind ?_
  rintro id _ _ ⟨rfl, rfl⟩
  -- The name of the child decides what it is added as, and it is the same name.
  split_ifs
  · exact .returns (kept same _ _ _ _ _ _)
  · refine (CounterM.ofExcept_simulates _ _).bind ?_
    rintro block _ _ ⟨rfl, rfl⟩
    exact .returns (kept same _ _ _ _ _ _)
  · refine (CounterM.ofExcept_simulates _ _).bind ?_
    rintro block _ _ ⟨rfl, rfl⟩
    exact .returns (kept same _ _ _ _ _ _)
  · refine (CounterM.ofExcept_simulates _ _).bind ?_
    rintro block _ _ ⟨rfl, rfl⟩
    exact .returns (kept same _ _ _ _ _ _)
  · refine (CounterM.ofExcept_simulates _ _).bind ?_
    rintro block _ _ ⟨rfl, rfl⟩
    exact .returns (kept same _ _ _ _ _ _)
  -- The front plane is no part of what is compared.
  · exact .returns (kept same _ _ _ _ _ _)
  -- A cluster is built below the location of the carrier.
  · refine (below _ _ _ _).bind ?_
    rintro built found _ ⟨cluster, rfl⟩
    exact .returns (kept (List.rel_append same (.cons cluster .nil)) _ _ _ _ _ _)
  · exact .returns (kept same _ _ _ _ _ _)

/-- Carriers with a location are built alike. -/
theorem specCarrier_simulates (below : ∀ entity path loc counter,
      Simulates (Kept Built.SameAs counter) (plain entity path (some loc))
        (dispatch entity path (some loc) counter))
    {entity : PbEntity} {location : Option EntityLoc}
    (placed : location ≠ none ∨ entity.locationV0 ≠ none) (path : Path) (counter : Nat) :
    ∃ loc, Simulates (Alike loc counter)
      (RedacDeserializer.specCarrier registry plain entity path location)
      (specCarrier registry dispatch entity path location counter) := by
  -- No location has to be made up, so that the counter is left alone.
  have given : defaultLocation entity location counter = .ok location counter := by
    unfold defaultLocation
    rw [if_neg (by tauto)]
    rfl
  obtain ⟨loc, there⟩ : ∃ loc, reportedLocation entity location = some loc := by
    unfold reportedLocation
    cases reported : entity.locationV0 with
    | some loc => exact ⟨_, rfl⟩
    | none => exact Option.ne_none_iff_exists'.mp (placed.resolve_right (by simp [reported]))
  refine ⟨loc, ?_⟩
  unfold RedacDeserializer.specCarrier specCarrier
  rw [Raising.bind_of_ok given]
  refine (CounterM.ofExcept_simulates _ _).bind ?_
  rintro type _ _ ⟨rfl, rfl⟩
  by_cases kind : type.class_ = .carrier
  · simp only [kind, ne_eq, not_true_eq_false, if_false]
    refine foldlM_simulates (fun child _ carrier fronted after alike => ?_) ?_
    · exact addChild_simulates below alike child
    · exact ⟨⟨.carrier ⟨rfl, rfl, rfl, rfl, rfl, rfl, rfl⟩ .nil, rfl⟩, there⟩
  · simp only [kind, ne_eq, not_false_eq_true, if_true]
    exact .raises

/-- Devices are built alike if their carriers are. -/
theorem specDevice_simulates {entity : PbEntity} (counter : Nat)
    {location : Option EntityLoc} (each : location = none → ∀ child ∈ entity.children, ∀ path,
      Simulates (Kept Built.SameAs counter) (plain child path none)
        (dispatch child path none counter)) (path : Path) :
    Simulates (Kept Built.SameAs counter) (RedacDeserializer.specDevice plain entity path location)
      (specDevice dispatch entity path location counter) := by
  unfold RedacDeserializer.specDevice specDevice
  by_cases located : location = none
  · simp only [located, ne_eq, not_true_eq_false, if_false]
    have each' : ∀ child ∈ entity.children, Simulates (Kept Built.SameAs counter)
        (do
          let below ← Path.parse child.id
          plain child below none)
        ((do
          let below ← CounterM.ofExcept (Path.parse child.id)
          dispatch child below none : CounterM (Found C)) counter) := by
      intro child member
      refine (CounterM.ofExcept_simulates _ _).bind ?_
      rintro below _ _ ⟨rfl, rfl⟩
      exact each located child member below
    refine (mapM_simulates each').bind ?_
    rintro built found _ ⟨same, rfl⟩
    exact .returns ⟨.device path same, rfl⟩
  · simp only [located, ne_eq, not_false_eq_true, if_true]
    exact .raises

/-- Below a location, or where every carrier reports one, both deserializers build the same. -/
theorem deserializeSpecification_simulates (depth : Nat) (entity : PbEntity) (path : Path)
    (location : Option EntityLoc) (placed : location ≠ none ∨ Reports depth entity) (counter : Nat) :
    Simulates (Kept Built.SameAs counter)
      (RedacDeserializer.deserializeSpecification registry depth entity path location)
      (deserializeSpecification registry depth entity path location counter) := by
  -- The induction is on the depth of the calls; every handler calls itself one level deeper.
  induction depth generalizing entity path location counter with
  | zero => exact .raises
  | succ depth ih =>
    unfold RedacDeserializer.deserializeSpecification deserializeSpecification
    have below : ∀ entity path loc counter, Simulates (Kept Built.SameAs counter)
        (RedacDeserializer.deserializeSpecification registry depth entity path (some loc))
        (deserializeSpecification registry depth entity path (some loc) counter) :=
      fun entity path loc counter => ih entity path (some loc) (.inl (Option.some_ne_none loc)) counter
    cases classified : EntityClass.ofValue entity.class_ with
    | error error => exact .raises
    | ok kind =>
      -- Without a location there is a condition only on devices and carriers.
      cases kind with
      | device =>
        refine specDevice_simulates counter (fun unlocated child member path => ?_) path
        have reports := (placed.resolve_left (not_not_intro unlocated)).2 classified child member
        exact ih child path none (.inr reports) counter
      | carrier =>
        have located : location ≠ none ∨ entity.locationV0 ≠ none :=
          placed.imp_right fun reports => reports.1 classified
        obtain ⟨loc, built⟩ := specCarrier_simulates below located path counter
        exact built.map fun carrier fronted after alike => alike.1
      | cluster =>
        exact (CounterM.ofExcept_simulates _ _).map (by
          rintro cluster _ _ ⟨rfl, rfl⟩
          exact ⟨.cluster cluster, rfl⟩)
      | _ =>
        exact (CounterM.ofExcept_simulates _ _).map (by
          rintro block _ _ ⟨rfl, rfl⟩
          exact ⟨.block block, rfl⟩)

open SpecificationRoundTrip in
/-- A sound carrier with a location that was sent is built by this deserializer as well, uncounted. -/
theorem deserializeSpecification_sent {carrier : CarrierTree (ClusterTree C) C}
    (sound : carrier.Sound registry) (fits : carrier.Fits) (located : carrier.location ≠ none)
    (depth counter : Nat) :
    ∃ found, deserializeSpecification registry (depth + 2) (sentCarrier carrier) carrier.path none
        counter = .ok found counter ∧ (Built.carrier (rebuiltCarrier carrier)).SameAs found := by
  have reported : (sentCarrier carrier).locationV0 ≠ none := by
    intro missing
    have location := location_sentCarrier sound fits
    rw [missing] at location
    exact located location.symm
  -- What was sent is a carrier, so that it reports as a device of its own would.
  obtain ⟨type, typed, -, kind⟩ := sound.typed
  have class_ : EntityClass.ofValue (sentCarrier carrier).class_ = .ok .carrier := by
    simp [sentCarrier, sentEntity, typed, kind, EntityClass.ofValue_value]
  have reports : Reports (depth + 2) (sentCarrier carrier) :=
    ⟨fun _ => reported, fun device => absurd (class_.symm.trans device) (by simp)⟩
  have simulates : Simulates (Kept Built.SameAs counter)
      (RedacDeserializer.deserializeSpecification registry (depth + 2) (sentCarrier carrier)
        carrier.path none) _ :=
    deserializeSpecification_simulates (depth + 2) _ carrier.path none (.inr reports) counter
  rw [SpecificationRoundTrip.deserializeSpecification_sent sound fits depth] at simulates
  generalize deserializeSpecification registry (depth + 2) (sentCarrier carrier) carrier.path none
    counter = ended at simulates ⊢
  cases simulates with
  | returns here =>
    obtain ⟨same, rfl⟩ := here
    exact ⟨_, rfl, same⟩

end LucidacDeserializer

end Pybrid
