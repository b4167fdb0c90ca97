import Pybrid.Redac.Serializer
import Pybrid.Redac.Specification

/-! Modules: the items a computer is described and configured with, and how they are applied. -/

namespace Pybrid

/-- The pins that have names. -/
inductive NamedPin where
  | aux0
  | aux1
  | gen0
  | gen1
  deriving DecidableEq, Repr

/-- The pin of a wire, by its name or by its number. -/
inductive Pin where
  | named (pin : NamedPin)
  | indexed (index : Nat)
  deriving DecidableEq, Repr

/-- A pin on the wire, whose name can be any text. -/
inductive WirePin where
  | namedPin (name : String)
  | indexedPin (index : Nat)
  deriving DecidableEq, Repr

/-- One end of a wire on the wire; its pin may be left out. -/
structure WiringPin where
  entityPath : String
  kind : Option WirePin
  deriving DecidableEq, Repr

/-- A wire between two pins. -/
structure WiringSpec where
  sourceEntityPath : String
  sourcePin : Pin
  targetEntityPath : String
  targetPin : Pin
  deriving DecidableEq, Repr

/-- The kinds of payload that a REDAC has no handler for. -/
inductive UnhandledKind where
  | clusterConfig
  | mulConfig
  | shiftHoldConfig
  | deviceConfig
  | frontPanelConfig
  | signalGeneratorConfig
  | backpanelConfig
  | cmpConfig
  | ipLookupTable
  | simConfig
  deriving DecidableEq, Repr

/-- What kind of payload an item has. -/
inductive ItemKind where
  | adcConfig
  | portConfig
  | frontPanelIoConfig
  | coefConfig
  | mdrConfig
  | itorConfig
  | limiterConfig
  | sumConfig
  | selectConfig
  | switchConfig
  | bplSwitchConfig
  | dependencyInfo
  | entitySpecification
  | wiringSpecification
  | unhandled (kind : UnhandledKind)
  deriving DecidableEq, Repr

/-- The kind of a configuration payload. -/
def Wire.Payload.kind : Wire.Payload → ItemKind
  | .adcConfig _ => .adcConfig
  | .portConfig _ => .portConfig
  | .frontPanelIoConfig _ => .frontPanelIoConfig
  | .coefConfig _ => .coefConfig
  | .mdrConfig _ => .mdrConfig
  | .itorConfig _ => .itorConfig
  | .limiterConfig _ => .limiterConfig
  | .sumConfig _ _ => .sumConfig
  | .selectConfig _ _ _ => .selectConfig
  | .switchConfig _ => .switchConfig
  | .bplSwitchConfig _ => .bplSwitchConfig
  | .dependencyInfo _ => .dependencyInfo

/-- The payload of an item. -/
inductive ItemPayload where
  | entitySpecification (entity : PbEntity)
  | wiringSpecification (source target : WiringPin)
  | configuration (payload : Wire.Payload)
  | unhandled (kind : UnhandledKind)

/-- The kind of a payload. -/
def ItemPayload.kind : ItemPayload → ItemKind
  | .entitySpecification _ => .entitySpecification
  | .wiringSpecification _ _ => .wiringSpecification
  | .configuration payload => payload.kind
  | .unhandled kind => .unhandled kind

/-- An item of a module; one whose payload was never written to has none. -/
structure ModuleItem where
  path : Path
  payload : Option ItemPayload

/-- The kind of an item's payload. -/
def ModuleItem.kind (item : ModuleItem) : Option ItemKind := item.payload.map ItemPayload.kind

/--
A computer with the wires that are specified for it.

A summation block that was given a selection keeps it beside the tree, which then has no sums there.
-/
structure WiredRedac where
  redac : Redac
  selections : Path → Option (Vector (Option Int) 16)
  wiringSpecs : List WiringSpec

/-- The state of an entity of the tree, with the selection beside it if there is one. -/
def EntityConfig.withSelection (entity : EntityConfig) (selection : Option (Vector (Option Int) 16)) :
    EntityState :=
  match entity, selection with
  | .iBlock block, some outputs => .selected outputs block.upscaling
  | other, _ => .typed other

namespace EntityState

/-- The entity in the tree. -/
def inTree : EntityState → EntityConfig
  | .typed entity => entity
  -- A selection stands beside a block without sums.
  | .selected _ upscaling => .iBlock ⟨Vector.replicate 16 ∅, upscaling⟩

/-- The selection beside the tree. -/
def beside : EntityState → Option (Vector (Option Int) 16)
  | .typed _ => none
  | .selected outputs _ => some outputs

end EntityState

namespace WiredRedac

/-- The state of the entity at a path. -/
def entityState (computer : WiredRedac) (path : Path) : Except PyError EntityState :=
  (computer.redac.getEntity path).map fun entity => entity.withSelection (computer.selections path)

/-- Put another state in the place of the entity at a path. -/
def storeState (computer : WiredRedac) (path : Path) (state : EntityState) : WiredRedac :=
  { computer with
    redac := computer.redac.store path state.inTree
    selections := Function.update computer.selections path state.beside }

end WiredRedac

namespace RedacDeserializer

/-- The pin of one end of a wire, which has to be set. -/
def requirePin (pin : WiringPin) : Except PyError WirePin :=
  match pin.kind with
  | some pin => .ok pin
  | none => .error ⟨.value, "unknown WiringPin oneof kind None"⟩

/-- The text names no pin. -/
def invalidNamedPin (name : String) : PyError :=
  ⟨.value, "invalid named pin '" ++ name ++ "'; expected one of aux0/aux1/gen0/gen1 or an int"⟩

/-- Check the name of a pin, if it has one. -/
def validateNamedPin : WirePin → Except PyError Pin
  | .indexedPin index => .ok (.indexed index)
  | .namedPin name =>
    if name = "aux0" then .ok (.named .aux0)
    else if name = "aux1" then .ok (.named .aux1)
    else if name = "gen0" then .ok (.named .gen0)
    else if name = "gen1" then .ok (.named .gen1)
    else .error (invalidNamedPin name)

/-- A wire, the names of whose pins are checked when it is built. -/
def wiringSpec (source target : WiringPin) : Except PyError WiringSpec := do
  let sourcePin ← requirePin source
  let targetPin ← requirePin target
  let sourcePin ← validateNamedPin sourcePin
  let targetPin ← validateNamedPin targetPin
  return ⟨source.entityPath, sourcePin, target.entityPath, targetPin⟩

/-- Whether an item describes the computer, instead of configuring it. -/
def isSpecification (item : ModuleItem) : Bool :=
  match item.payload with
  | some (.entitySpecification _) => true
  | some (.wiringSpecification _ _) => true
  | _ => false

variable {C : Type} (registry : List (EntityType × C)) (depth : Nat)

/-- Apply an item that describes the computer. -/
def applySpecification (computer : WiredRedac) (item : ModuleItem) : Except PyError WiredRedac :=
  match item.payload with
  | some (.entitySpecification entity) => do
    -- The entity is built, but nothing is done with it.
    let _ ← deserializeSpecification registry depth entity item.path none
    return computer
  | some (.wiringSpecification source target) => do
    let spec ← wiringSpec source target
    return { computer with wiringSpecs := computer.wiringSpecs ++ [spec] }
  | _ => .ok computer

/-- Apply an item that configures the computer. -/
def applyConfiguration (computer : WiredRedac) (item : ModuleItem) : Except PyError WiredRedac :=
  match item.payload with
  -- Dependency information is not read back.
  | some (.configuration (.dependencyInfo _)) => .ok computer
  | some (.configuration payload) => do
    let entity ← computer.entityState item.path
    let configured ← entity.configure payload
    return computer.storeState item.path configured
  -- Items without a payload, and payloads without a handler, are passed over.
  | _ => .ok computer

/-- Apply a module: what describes the computer comes first, wherever it stands. -/
def deserialize (computer : WiredRedac) (items : List ModuleItem) : Except PyError WiredRedac := do
  let specItems := items.filter isSpecification
  let opConfigs := items.filter fun item => ¬ isSpecification item
  let computer ← specItems.foldlM (applySpecification registry depth) computer
  opConfigs.foldlM applyConfiguration computer

end RedacDeserializer

namespace RedacSerializer

/-- A pin on the wire. -/
def wirePin : Pin → WirePin
  | .named .aux0 => .namedPin "aux0"
  | .named .aux1 => .namedPin "aux1"
  | .named .gen0 => .namedPin "gen0"
  | .named .gen1 => .namedPin "gen1"
  | .indexed index => .indexedPin index

/-- One item for each wire. -/
def serializeSpecificationPayloads (computer : WiredRedac) : List ModuleItem :=
  computer.wiringSpecs.map fun spec =>
    ⟨[], some (.wiringSpecification ⟨spec.sourceEntityPath, some (wirePin spec.sourcePin)⟩
      ⟨spec.targetEntityPath, some (wirePin spec.targetPin)⟩)⟩

end RedacSerializer

end Pybrid
