import Pybrid.Lucipy.Elements
import Pybrid.Redac.Blocks
import Pybrid.Redac.Computer

/-! A circuit: greedy allocation of elements and lanes on one cluster. -/

namespace Pybrid

/-- A circuit, with its allocation tracking and the blocks it configures. -/
structure Circuit where
  circuitId : Nat
  integratorsUsed : Vector Bool 8
  multipliersUsed : Vector Bool 4
  constantsAllocated : Nat
  aclInUsed : Vector Bool 8
  aclOutUsed : Vector Bool 8
  /-- The lanes general signals use; the last eight are shared with the analog ports. -/
  generalLanesUsed : Vector Bool 32
  identityOutputsConnected : Finset Nat
  adcConfig : Vector (Option ADCChannel) 8
  nextProbeIndex : Nat
  aclSelect : Vector String 8
  m0block : MIntBlock
  ublock : UBlock
  cblock : CBlock
  iblock : IBlock

/-- Calls on a circuit raise, and keep what they changed before. -/
abbrev CircuitM := EStateM PyError Circuit

/-- The first slot that is not occupied. -/
def nextFree {n : Nat} (occupied : Vector Bool n) : Option (Fin n) :=
  -- Slots are tried in their order.
  (List.finRange n).find? fun index => !occupied.get index

/-- The output of the constant giver that reaches a lane. -/
def constantOutputForLane (lane : Nat) : Nat :=
  -- The constant giver sits on a different input of each of the two chips.
  if lane < 16 then 15 else 14

/-- Eight elements have a first one. -/
theorem first_lt : 0 < 8 := by decide

/-- The lane of an analog port. -/
def aclLane (port : Fin 8) : Fin 32 := ⟨24 + port.val, by omega⟩

namespace Circuit

/-- A fresh circuit. -/
def new (circuitId : Nat) : Circuit where
  circuitId := circuitId
  integratorsUsed := Vector.replicate 8 false
  multipliersUsed := Vector.replicate 4 false
  constantsAllocated := 0
  aclInUsed := Vector.replicate 8 false
  aclOutUsed := Vector.replicate 8 false
  generalLanesUsed := Vector.replicate 32 false
  identityOutputsConnected := ∅
  adcConfig := Vector.replicate 8 none
  nextProbeIndex := 0
  aclSelect := Vector.replicate 8 "INTERNAL"
  m0block := ⟨Vector.replicate 8 ⟨0, 10000⟩, Vector.replicate 8 false⟩
  ublock := .new
  cblock := ⟨Vector.replicate 32 Factor.default⟩
  iblock := .new

/-- An element of this circuit. -/
def own (c : Circuit) (kind : ElementKind) : Element := ⟨kind, some c.circuitId⟩

/-- Allocate an integrator. -/
def int (ic : ℚ) (slow : Bool) : CircuitM Element := do
  let c ← get
  match nextFree c.integratorsUsed with
  | none => throw ⟨.value, "No free integrators available, all 8 are occupied."⟩
  | some idx =>
    -- The initial value is not checked here.
    set { c with
      integratorsUsed := c.integratorsUsed.set idx.val true idx.isLt
      m0block := { c.m0block with
        elements := c.m0block.elements.set idx.val ⟨ic, if slow then 100 else 10000⟩ idx.isLt } }
    return c.own (.integrator idx)

/-- Allocate a multiplier. -/
def mul : CircuitM Element := do
  let c ← get
  match nextFree c.multipliersUsed with
  | none => throw ⟨.value, "No free multipliers available, all 4 are occupied."⟩
  | some idx =>
    set { c with multipliersUsed := c.multipliersUsed.set idx.val true idx.isLt }
    return c.own (.multiplier idx)

/-- Allocate a constant; the value is that of the one constant giver. -/
def const (value : ConstantValue) : CircuitM Element := do
  let c ← get
  if 2 ≤ c.constantsAllocated then
    throw ⟨.value, "No free constant slots available, all 2 are occupied."⟩
  -- Identities on outputs 14 and 15 are shadowed from here on, with a warning only.
  set { c with
    constantsAllocated := c.constantsAllocated + 1
    ublock := c.ublock.setConstant value }
  return c.own (.constant c.constantsAllocated)

/-- The port that is asked for, or the first free one. -/
def choosePort (direction : String) (used : Vector Bool 8) (port : Option (Fin 8)) :
    Except PyError (Fin 8) :=
  match port with
  | none =>
    match nextFree used with
    | none => .error ⟨.value, s!"No free {direction} port available, all 8 are occupied."⟩
    | some free => .ok free
  | some port =>
    if used.get port then .error ⟨.value, s!"{direction} port {port} is already allocated."⟩
    else .ok port

/-- The message for a port whose lane carries a general signal. -/
def occupiedLane (direction : String) (port : Fin 8) : PyError :=
  let lane := (aclLane port).val
  ⟨.value, s!"{direction} port {port} (lane {lane}) is already used by a general signal. " ++
    "Try a different port whose lane is not occupied."⟩

/-- Allocate an analog input port. -/
def input (port : Option (Fin 8)) : CircuitM Element := do
  let c ← get
  -- The allocation of the port comes first, then the use of its lane.
  match choosePort "ACL_IN" c.aclInUsed port with
  | .error error => throw error
  | .ok port =>
    if c.generalLanesUsed.get (aclLane port) then throw (occupiedLane "ACL_IN" port)
    set { c with
      aclInUsed := c.aclInUsed.set port.val true port.isLt
      aclSelect := c.aclSelect.set port.val "EXTERNAL" port.isLt }
    return c.own (.input port)

/-- Allocate an analog output port. -/
def output (port : Option (Fin 8)) : CircuitM Element := do
  let c ← get
  match choosePort "ACL_OUT" c.aclOutUsed port with
  | .error error => throw error
  | .ok port =>
    if c.generalLanesUsed.get (aclLane port) then throw (occupiedLane "ACL_OUT" port)
    set { c with
      aclOutUsed := c.aclOutUsed.set port.val true port.isLt
      aclSelect := c.aclSelect.set port.val "EXTERNAL" port.isLt }
    return c.own (.output port)

/-- The lane is reserved by an analog port. -/
def reserved (c : Circuit) (lane : Fin 32) : Bool :=
  if high : 24 ≤ lane.val then
    c.aclInUsed.get ⟨lane.val - 24, by omega⟩ || c.aclOutUsed.get ⟨lane.val - 24, by omega⟩
  else false

/-- The lanes that are neither used nor reserved. -/
def availableLanes (c : Circuit) : List (Fin 32) :=
  -- The order of the lanes is the order in which they are taken.
  (List.finRange 32).filter fun lane => !c.generalLanesUsed.get lane && !c.reserved lane

/-- Keep the result of a block operation, or raise its error. -/
def keep {β : Type} (result : Except PyError β) (update : β → Circuit) : CircuitM Unit := fun c =>
  match result with
  | .ok block => .ok () (update block)
  | .error error => .error error c

/-- Connect a lane on the selection block. -/
def connectU (source : Nat) (lane : Fin 32) : CircuitM Unit := fun c =>
  keep (c.ublock.connect source [(lane.val : Int)] false) (fun ublock => { c with ublock := ublock })
    c

/-- Connect a lane on the summation block. -/
def connectI (lane : Fin 32) (target : Nat) : CircuitM Unit := fun c =>
  keep (c.iblock.connect {lane.val} target false) (fun iblock => { c with iblock := iblock }) c

/-- Take the result of a calculation, or raise its error. -/
def calculated {α : Type} (result : Except PyError α) : CircuitM α := fun c =>
  match result with
  | .ok value => .ok value c
  | .error error => .error error c

/-- Set the coefficient of a lane. -/
def setFactor (lane : Fin 32) (value : Number) : CircuitM Unit := fun c =>
  keep (Factor.validate value) (fun factor =>
    { c with cblock := ⟨c.cblock.elements.set lane.val factor (lane_lt lane)⟩ }) c

/-- Enable the upscaling of a lane. -/
def setUpscaling (lane : Fin 32) : CircuitM Unit :=
  modify fun c => { c with
    iblock := { c.iblock with upscaling := c.iblock.upscaling.set lane.val true (lane_lt lane) } }

/-- Configure one lane of a general connection. -/
def commitLane (laneSource : Fin 32 → Nat) (target : Nat) (weightPerLane : Number)
    (lane : Fin 32) : CircuitM Unit := do
  modify fun c => { c with generalLanesUsed := c.generalLanesUsed.set lane.val true (lane_lt lane) }
  connectU (laneSource lane) lane
  -- A share above one does not fit a coefficient, and is upscaled behind it.
  if 1 < |weightPerLane.value| then
    let scaledFactor ← calculated (weightPerLane.divide 8)
    setFactor lane scaledFactor
    setUpscaling lane
  else setFactor lane weightPerLane
  connectI lane target

/-- The number of lanes a weight is spread over. -/
def lanesNeeded (weight : Number) : Except PyError Nat :=
  -- One lane carries up to eight times the range of a coefficient; the quotient is a float already.
  (weight.abs.divide 8).map fun quotient => max 1 ⌈quotient.value⌉₊

/-- Spread a weight over as many free lanes as it needs. -/
def connectGeneral (laneSource : Fin 32 → Nat) (target : Nat) (weight : Number) :
    CircuitM Unit := do
  let c ← get
  let needed ← calculated (lanesNeeded weight)
  let available := c.availableLanes
  -- All lanes are counted before the first one is configured.
  if available.length < needed then
    let count := available.length
    let shown := weight.shown
    throw ⟨.value, s!"Not enough free lanes for connection with weight={shown} " ++
      s!"(need {needed} lanes, only {count} available)."⟩
  else
    let weightPerLane ← calculated (weight.divide needed)
    (available.take needed).forM (commitLane laneSource target weightPerLane)

/-- The M-block output of a source on a lane. -/
def laneSource (kind : ElementKind) (lane : Fin 32) : Nat :=
  match kind with
  -- The constant giver has one output for each half of the lanes.
  | .constant _ => constantOutputForLane lane.val
  | kind => kind.sourceOutputLane.getD 0

/-- Reject elements without a circuit and elements of another one. -/
def checkOwnership (c : Circuit) (source target : Element) : Except PyError Unit :=
  if source.circuitId = none ∨ target.circuitId = none then
    .error ⟨.value, "Dangling elements without a circuit reference found!"⟩
  else if source.circuitId ≠ some c.circuitId then
    let name := source.kind.typeName
    .error ⟨.value, s!"Source {name} belongs to a different Circuit. " ++
      "All elements in a connect() call must belong to the same circuit."⟩
  else if target.circuitId ≠ some c.circuitId then
    let name := target.kind.typeName
    .error ⟨.value, s!"Target {name} belongs to a different Circuit. " ++
      "All elements in a connect() call must belong to the same circuit."⟩
  else .ok ()

/-- The element can be asked for its output, or is a constant. -/
def checkSource (kind : ElementKind) : Except PyError Unit :=
  match kind, kind.sourceOutputLane with
  | .constant _, _ => .ok ()
  | _, some _ => .ok ()
  | _, none =>
    let name := kind.typeName
    .error ⟨.type, s!"Unsupported source type: <class 'pybrid.lucipy.elements.{name}'>"⟩

/-- The M-block input of a target. -/
def checkTarget (kind : ElementKind) : Except PyError Nat :=
  match kind.targetMInput with
  | some lane => .ok lane
  | none =>
    let name := kind.typeName
    .error ⟨.type, s!"Unsupported target type: <class 'pybrid.lucipy.elements.{name}'>"⟩

/-- Remember identities on the outputs that are shared with the constant giver. -/
def noteIdentity (kind : ElementKind) : CircuitM Unit :=
  match kind with
  | .identity offset =>
    if offset.val = 2 ∨ offset.val = 3 then
      modify fun c => { c with
        identityOutputsConnected := insert (12 + offset.val) c.identityOutputsConnected }
    else pure ()
  | _ => pure ()

/-- Connect a source to an analog output port, over the lane of the port. -/
def connectAclOut (source : ElementKind) (port : Fin 8) (weight : Number) : CircuitM Unit := do
  if 1 < |weight.value| then
    let shown := weight.shown
    throw ⟨.value, "ACL_OUT weight must be in [-1, 1] (no I-block upscaling " ++
      s!"available on output path), got {shown}."⟩
  -- The summation block is left alone: the lane ends at the port.
  connectU (laneSource source (aclLane port)) (aclLane port)
  setFactor (aclLane port) weight

/-- The checks on a source and a target, with the M-block input of the target. -/
def checkConnection (c : Circuit) (source target : Element) : Except PyError Nat := do
  -- The first check that fails is the one that is reported.
  c.checkOwnership source target
  checkSource source.kind
  checkTarget target.kind

/-- Configure a connection over the lanes of its kind. -/
def route (source target : ElementKind) (targetMInput : Nat) (weight : Number) : CircuitM Unit :=
  match source, target with
  -- Analog inputs bypass the selection and the coefficient block.
  | .input port, _ => connectI (aclLane port) targetMInput
  | source, .output port => connectAclOut source port weight
  | source, _ => connectGeneral (laneSource source) targetMInput weight

/-- Connect a source to a target with a weight. -/
def connect (source target : Element) (weight : Number) : CircuitM Unit := do
  let c ← get
  match c.checkConnection source target with
  | .error error => throw error
  | .ok targetMInput =>
    noteIdentity source.kind
    route source.kind target.kind targetMInput weight

/-- The channel that is asked for, or the first free one. -/
def chooseChannel (c : Circuit) (adcChannel : Option Int) : Except PyError Int :=
  match adcChannel with
  | some channel => .ok channel
  | none =>
    match nextFree (c.adcConfig.map Option.isSome) with
    | some free => .ok free.val
    | none => .error ⟨.value, "No free ADC channel available, all 8 are occupied."⟩

/-- Assign a source to an analog-to-digital channel. -/
def probeAdc (source : Element) (adcChannel : Option Int) : CircuitM Nat := do
  let c ← get
  match c.chooseChannel adcChannel with
  | .error error => throw error
  | .ok channel =>
    if inside : 0 ≤ channel ∧ channel < 8 then
      match c.adcConfig.get ⟨channel.toNat, by omega⟩, source.kind.sourceOutputLane with
      | some _, _ => throw ⟨.value, s!"ADC channel {channel} is already occupied."⟩
      -- Multiplier inputs, constants and output ports cannot be asked for their output.
      | none, none =>
        let name := source.kind.typeName
        throw ⟨.attribute, s!"'{name}' object has no attribute 'source_output_lane'"⟩
      | none, some lane =>
        set { c with
          nextProbeIndex := c.nextProbeIndex + 1
          adcConfig := c.adcConfig.set channel.toNat
            (some ⟨lane, 1, 0, c.nextProbeIndex⟩) (by omega) }
        return channel.toNat
    else throw ⟨.value, s!"ADC channel must be in range 0-7, got {channel}"⟩

/-- Measure a source of this circuit. -/
def probe (source : Element) (adcChannel : Option Int) : CircuitM Nat := do
  let c ← get
  if source.circuitId = none then
    throw ⟨.value, "Dangling element without a circuit reference found!"⟩
  else if source.circuitId ≠ some c.circuitId then
    let name := source.kind.typeName
    throw ⟨.value, s!"Source {name} belongs to a different Circuit. " ++
      "All elements in a probe() call must belong to the same circuit."⟩
  else probeAdc source adcChannel

end Circuit

end Pybrid
