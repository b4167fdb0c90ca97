import Mathlib

/-! The configuration items of a module, as they travel in protobuf messages. -/

namespace Pybrid

/-- The path of an entity, part by part. -/
abbrev Path := List String

namespace Wire

/-- An analog-to-digital channel of a carrier. -/
structure AdcChannel where
  idx : Int
  gain : ℚ
  offset : ℚ
  probe : Int
  deriving DecidableEq, Repr

/-- Whether a port is taken from inside or outside. -/
inductive AclState where
  | internal
  | external
  deriving DecidableEq, Repr

/-- The direction and the kind of a front panel port. -/
inductive FrontPanelIOMode where
  | analogOut
  | analogIn
  | digitalOut
  | digitalIn
  deriving DecidableEq, Repr

/-- The coefficient of one lane. -/
structure CoefElement where
  idx : Nat
  factor : ℚ
  deriving DecidableEq, Repr

/-- The configuration of one integrator. -/
structure ItorElement where
  idx : Nat
  ic : ℚ
  k : Int
  deriving DecidableEq, Repr

/-- The limiter of one integrator. -/
structure LimiterElement where
  idx : Nat
  enable : Bool
  deriving DecidableEq, Repr

/-- The operation of one MDR element. -/
inductive MdrOperation where
  | multiply
  | square
  | divide
  | sqrt
  | ident
  deriving DecidableEq, Repr

/-- The lanes summed into one output. -/
structure SumConnection where
  inputs : List Nat
  output : Nat
  deriving DecidableEq, Repr

/-- The upscaling switch of one lane. -/
structure Upscale where
  lane : Nat
  enabled : Bool
  deriving DecidableEq, Repr

/-- The source of the constant. -/
inductive ConstantConfig where
  | ground
  | posRef
  | negRef
  | analogInput
  deriving DecidableEq, Repr

/-- The magnitude of the constant. -/
inductive Magnitude where
  | one
  | oneTenth
  deriving DecidableEq, Repr

/-- The input forked to one lane. -/
structure SelectConnection where
  input : Int
  output : Nat
  deriving DecidableEq, Repr

/-- The state of one multiplexer. -/
structure Mux where
  state : Int
  index : Nat
  deriving DecidableEq, Repr

/-- One end of a traced signal. -/
structure TraceLane where
  carrier : Nat
  cluster : Int
  lane : Int
  deriving DecidableEq, Repr

/-- A signal between two coefficient lanes. -/
structure Trace where
  source : TraceLane
  sink : TraceLane
  sinkUpscaled : Bool
  deriving DecidableEq, Repr

/-- Where signals come from and go to, for calibration beyond a carrier. -/
structure DependencyInfo where
  entityIds : List Path
  traces : List Trace
  activeLanes : Nat
  deriving DecidableEq, Repr

/-- The payload of a configuration item. -/
inductive Payload where
  | adcConfig (channels : List AdcChannel)
  | portConfig (states : List AclState)
  | frontPanelIoConfig (ioModes : List FrontPanelIOMode)
  | coefConfig (elements : List CoefElement)
  | mdrConfig (operations : List MdrOperation)
  | itorConfig (elements : List ItorElement)
  | limiterConfig (elements : List LimiterElement)
  | sumConfig (connections : List SumConnection) (upscales : List Upscale)
  | selectConfig (constant : ConstantConfig) (magnitude : Magnitude)
      (connections : List SelectConnection)
  | switchConfig (muxes : List Mux)
  | bplSwitchConfig (muxes : List Mux)
  | dependencyInfo (info : DependencyInfo)
  deriving DecidableEq, Repr

/-- A configuration item; one whose payload was never written to has no kind. -/
structure Item where
  path : Path
  kind : Option Payload
  deriving DecidableEq, Repr

end Wire

end Pybrid
