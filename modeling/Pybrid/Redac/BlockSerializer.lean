import Pybrid.Library.Slots
import Pybrid.Redac.Blocks
import Pybrid.Redac.TBlock
import Pybrid.Redac.Wire

/-! The configuration of single blocks, to protobuf payloads and back. -/

namespace Pybrid

open Slots

namespace CBlock

/-- The factors of all lanes. -/
def coefElements (c : CBlock) : List Wire.CoefElement :=
  -- Every lane is listed, also one that was never touched.
  (enumerate c.elements).map fun element => ⟨element.1, element.2.val⟩

/-- The coefficient payload. -/
def serializeConfiguration (c : CBlock) : Wire.Payload := .coefConfig c.coefElements

/-- Assign one factor, which validates it. -/
def setFactor (elements : Vector Factor 32) (element : Wire.CoefElement) :
    Except PyError (Vector Factor 32) :=
  -- The element is looked up before its validator sees the value, a float that was received.
  if inside : element.idx < 32 then
    (Factor.validate (.fraction element.factor)).map fun factor => elements.set element.idx factor inside
  else .error Python.indexError

/-- Apply received factors. -/
def deserializeConfiguration (c : CBlock) (elements : List Wire.CoefElement) :
    Except PyError CBlock :=
  (elements.foldlM setFactor c.elements).map fun factors => { c with elements := factors }

end CBlock

namespace MdrOperation

/-- The operation on the wire. -/
def toWire : MdrOperation → Wire.MdrOperation
  | .multiplication => .multiply
  | .square => .square
  | .division => .divide
  | .squareRoot => .sqrt
  | .identity => .ident

/-- The operation a wire value stands for. -/
def ofWire : Wire.MdrOperation → MdrOperation
  | .multiply => .multiplication
  | .square => .square
  | .divide => .division
  | .sqrt => .squareRoot
  | .ident => .identity

/-- An operation is recovered from the wire. -/
@[simp] theorem ofWire_toWire (operation : MdrOperation) : ofWire operation.toWire = operation := by
  -- The two tables are inverse, row by row.
  cases operation <;> rfl

end MdrOperation

namespace MMDRBlock

/-- The operations of all elements, in their order. -/
def operations (m : MMDRBlock) : List Wire.MdrOperation :=
  m.elements.toList.map MdrOperation.toWire

/-- The operation payload. -/
def serializeConfiguration (m : MMDRBlock) : Wire.Payload := .mdrConfig m.operations

/-- Apply received operations, numbered by their position. -/
def deserializeConfiguration (m : MMDRBlock) (operations : List Wire.MdrOperation) :
    Except PyError MMDRBlock :=
  (operations.zipIdx.foldlM
    (fun elements entry =>
      assign Python.indexError elements entry.2 (MdrOperation.ofWire entry.1))
    m.elements).map fun elements => { m with elements := elements }

end MMDRBlock

namespace MIntBlock

/-- The initial values and time constants of all integrators. -/
def itorElements (m : MIntBlock) : List Wire.ItorElement :=
  (enumerate m.elements).map fun element => ⟨element.1, element.2.ic, element.2.k⟩

/-- The limiters of all integrators. -/
def limiterElements (m : MIntBlock) : List Wire.LimiterElement :=
  (enumerate m.limiters).map fun limiter => ⟨limiter.1, limiter.2⟩

/-- The integrator payload and the limiter payload. -/
def serializeConfiguration (m : MIntBlock) : List Wire.Payload :=
  [.itorConfig m.itorElements, .limiterConfig m.limiterElements]

/-- Apply received integrators. -/
def deserializeItors (m : MIntBlock) (elements : List Wire.ItorElement) :
    Except PyError MIntBlock :=
  (elements.foldlM
    (fun current element =>
      assign Python.indexError current element.idx ⟨element.ic, element.k⟩)
    m.elements).map fun itors => { m with elements := itors }

/-- Apply received limiters; those not mentioned are disabled. -/
def deserializeLimiters (m : MIntBlock) (elements : List Wire.LimiterElement) :
    Except PyError MIntBlock :=
  -- The list of limiters is built anew before the received ones are assigned.
  (elements.foldlM
    (fun current element =>
      assign Python.assignmentError current element.idx element.enable)
    (Vector.replicate 8 false)).map fun limiters => { m with limiters := limiters }

end MIntBlock

namespace IBlock

/-- The outputs that sum something. -/
def sumConnections (i : IBlock) : List Wire.SumConnection :=
  -- An output without lanes has no entry.
  ((enumerate i.outputs).filter fun output => output.2 ≠ ∅).map fun output =>
    ⟨output.2.sort (· ≤ ·), output.1⟩

/-- The upscaling of all lanes. -/
def upscales (i : IBlock) : List Wire.Upscale :=
  (enumerate i.upscaling).map fun lane => ⟨lane.1, lane.2⟩

/-- The summation payload. -/
def serializeConfiguration (i : IBlock) : Wire.Payload := .sumConfig i.sumConnections i.upscales

/-- Apply received sums; outputs and lanes not mentioned are reset. -/
def deserializeConfiguration (i : IBlock) (connections : List Wire.SumConnection)
    (upscales : List Wire.Upscale) : Except PyError IBlock := do
  -- Both lists start out reset, whatever the block was configured to before.
  let outputs ← connections.foldlM
    (fun current connection =>
      assign Python.assignmentError current connection.output connection.inputs.toFinset)
    (Vector.replicate 16 ∅)
  let upscaling ← upscales.foldlM
    (fun current upscale =>
      assign Python.assignmentError current upscale.lane upscale.enabled)
    (Vector.replicate 32 false)
  return { i with outputs := outputs, upscaling := upscaling }

end IBlock

namespace UBlock

/-- The connected lanes. -/
def connections (u : UBlock) : List Wire.SelectConnection :=
  -- Only lanes that carry an input have an entry.
  (enumerate u.outputs).filterMap fun output => output.2.map fun input => ⟨input, output.1⟩

/-- The sign of the constant on the wire. -/
def constantConfig (u : UBlock) : Wire.ConstantConfig :=
  -- A boolean compares like zero or one.
  if u.constant.value = 0 then .ground
  else if 0 < u.constant.value then .posRef else .negRef

/-- The magnitude of the constant on the wire. -/
def magnitude (u : UBlock) : Wire.Magnitude :=
  -- The magnitude is not set for a disabled constant, and then reads as its default.
  if u.constant.value = 0 then .one
  else if u.constant.value = 1 then .one else .oneTenth

/-- The constant and the connected lanes; without any the item is dropped again. -/
def serializeConfiguration (u : UBlock) : Option Wire.Payload :=
  if u.connections.length = 0 then none
  else some (.selectConfig u.constantConfig u.magnitude u.connections)

/-- The constant a sign and a magnitude stand for. -/
def decodeConstant (constant : Wire.ConstantConfig) (magnitude : Wire.Magnitude) : ConstantValue :=
  -- Everything that is neither ground nor positive counts as negative.
  if constant = .ground then .flag false
  else
    let sign : ℚ := if constant = .posRef then 1 else -1
    let magnitude : ℚ := if magnitude = .one then 1 else 1 / 10
    .number (sign * magnitude)

/-- Apply a received selection; lanes not mentioned are disconnected. -/
def deserializeConfiguration (u : UBlock) (constant : Wire.ConstantConfig)
    (magnitude : Wire.Magnitude) (connections : List Wire.SelectConnection) :
    Except PyError UBlock :=
  -- The old outputs are given up, also where the received ones are silent.
  (connections.foldlM
    (fun current connection =>
      assign Python.assignmentError current connection.output (some connection.input))
    (Vector.replicate 32 none)).map fun outputs =>
      { u with constant := decodeConstant constant magnitude, outputs := outputs }

end UBlock

namespace TBlock

/-- The multiplexers that are set. -/
def setMuxes (t : TBlock) : List Wire.Mux :=
  -- A multiplexer that is not set has no entry.
  (enumerate t.muxes).filterMap fun mux => mux.2.map fun state => ⟨state, mux.1⟩

/-- The switch payload; without a multiplexer that is set the item is dropped again. -/
def serializeConfiguration (t : TBlock) : Option Wire.Payload :=
  if t.setMuxes.length = 0 then none else some (.switchConfig t.setMuxes)

/-- Apply received multiplexer states. -/
def deserializeConfiguration (t : TBlock) (muxes : List Wire.Mux) : Except PyError TBlock :=
  -- When every index is zero, the states are numbered by their position.
  let states := if muxes.all fun mux => mux.index = 0 then
      muxes.zipIdx.foldlM
        (fun current entry => assign Python.assignmentError current entry.2 (some entry.1.state))
        t.muxes
    else
      muxes.foldlM
        (fun current mux => assign Python.assignmentError current mux.index (some mux.state))
        t.muxes
  states.map fun muxes => { t with muxes := muxes }

end TBlock

namespace BackplaneTBlock

/-- The state that stands for one table entry. -/
def encodeSource (sectorOut : Fin 9) (sectorIn : Option (Fin 9)) : Int :=
  match sectorIn with
  -- An unset entry is handed to the message like a number, and reads as its default.
  | none => 0
  | some source => if source.val = 8 then sectorOut.val else source.val

/-- All entries of the table. -/
def muxes (t : BackplaneTBlock) : List Wire.Mux :=
  -- The rows are the destination sectors, and the index counts by lanes first.
  (List.finRange 9).flatMap fun sectorOut => (List.finRange 8).map fun lane =>
    ⟨encodeSource sectorOut ((t.sectors.get sectorOut).get lane), 9 * lane.val + sectorOut.val⟩

/-- The table; it has entries, so the item is never dropped. -/
def serializeConfiguration (t : BackplaneTBlock) : Option Wire.Payload :=
  if t.muxes.length = 0 then none else some (.bplSwitchConfig t.muxes)

/-- Connect what a received state stands for. -/
def connectState (t : BackplaneTBlock) (inSector : Int) (index : Nat) :
    Except PyError BackplaneTBlock :=
  -- A state that names its own sector stands for the front plane.
  let lane : Int := (index / 9 : Nat)
  let outSector : Int := (index % 9 : Nat)
  let inSector := if outSector = inSector then 8 else inSector
  t.connect inSector outSector lane

/-- Apply received states. -/
def deserializeConfiguration (t : BackplaneTBlock) (muxes : List Wire.Mux) :
    Except PyError BackplaneTBlock :=
  -- When every index is zero, the states are numbered by their position.
  if muxes.all fun mux => mux.index = 0 then
    muxes.zipIdx.foldlM (fun current entry => current.connectState entry.1.state entry.2) t
  else muxes.foldlM (fun current mux => current.connectState mux.state mux.index) t

end BackplaneTBlock

end Pybrid
