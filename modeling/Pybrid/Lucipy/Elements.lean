import Mathlib

/-! The element wrappers a circuit hands out. -/

namespace Pybrid

/-- The kinds of elements, with the resource each of them wraps. -/
inductive ElementKind where
  /-- One of eight integrators. -/
  | integrator (id : Fin 8)
  /-- One of four multipliers. -/
  | multiplier (id : Fin 4)
  /-- The first or the second input of a multiplier. -/
  | mulInput (mulId : Fin 4) (inputIdx : Fin 2)
  /-- A read-tap of an input of the first two multipliers. -/
  | identity (offset : Fin 4)
  /-- The constant giver. -/
  | constant (id : Nat)
  /-- An analog input port. -/
  | input (port : Fin 8)
  /-- An analog output port. -/
  | output (port : Fin 8)
  deriving DecidableEq, Repr

/-- An element, with the identifier of the circuit it belongs to. -/
structure Element where
  kind : ElementKind
  circuitId : Option Nat
  deriving DecidableEq, Repr

namespace ElementKind

/-- The M-block output an element appears on, for those that can be asked. -/
def sourceOutputLane : ElementKind → Option Nat
  | .integrator id => some id.val
  | .multiplier id => some (8 + id.val)
  | .identity offset => some (12 + offset.val)
  | .input port => some (24 + port.val)
  -- A multiplier input, a constant and an output port have no such method.
  | .mulInput _ _ | .constant _ | .output _ => none

/-- The M-block input an element listens on, for those that can be asked. -/
def targetMInput : ElementKind → Option Nat
  | .integrator id => some id.val
  -- A multiplier stands for its first input.
  | .multiplier id => some (8 + 2 * id.val)
  | .mulInput mulId inputIdx => some (8 + 2 * mulId.val + inputIdx.val)
  | .output port => some (24 + port.val)
  | .identity _ | .constant _ | .input _ => none

/-- The class of an element, as it is shown in messages. -/
def typeName : ElementKind → String
  | .integrator _ => "Integrator"
  | .multiplier _ => "Multiplier"
  | .mulInput _ _ => "_MulInput"
  | .identity _ => "Identity"
  | .constant _ => "Constant"
  | .input _ => "Input"
  | .output _ => "Output"

end ElementKind

namespace Element

/-- The inputs of a multiplier. -/
def mulInput (element : Element) (inputIdx : Fin 2) : Option Element :=
  match element.kind with
  | .multiplier id => some { element with kind := .mulInput id inputIdx }
  | _ => none

/-- The identity of a multiplier input; only the first two multipliers have them. -/
def identity (element : Element) : Option Element :=
  match element.kind with
  | .mulInput mulId inputIdx =>
    if first : mulId.val < 2 then
      some { element with kind := .identity ⟨2 * mulId.val + inputIdx.val, by omega⟩ }
    else none
  | _ => none

end Element

end Pybrid
