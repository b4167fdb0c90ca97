import Pybrid.Library.TwoRuns
import Pybrid.Lucipy.Session

/-! What a connection that raises leaves behind, for every weight a float can have. -/

namespace Pybrid

/-- The floats that are no numbers. -/
inductive Special where
  | infinite (negative : Bool)
  | nan
  deriving DecidableEq, Repr

/-- A weight is a float. -/
inductive Weight where
  | finite (value : Number)
  | special (weight : Special)

/-- How a float that is no number is shown. -/
def Special.shown : Special → String
  | .infinite negative => if negative then "-inf" else "inf"
  | .nan => "nan"

namespace Circuit

/-- Rounding up raises for a float that is no number. -/
def ceilError : Special → PyError
  | .infinite _ => ⟨.overflow, "cannot convert float infinity to integer"⟩
  | .nan => ⟨.value, "cannot convert float NaN to integer"⟩

/-- Connect a source to an analog output port with a weight that is no number. -/
def connectAclOutSpecial (source : ElementKind) (port : Fin 8) (weight : Special) :
    CircuitM Unit := do
  match weight with
  | .infinite _ =>
    throw ⟨.value, "ACL_OUT weight must be in [-1, 1] (no I-block upscaling " ++
      s!"available on output path), got {weight.shown}."⟩
  -- No comparison holds for it: the range check lets it pass, and the coefficient refuses it.
  | .nan =>
    connectU (laneSource source (aclLane port)) (aclLane port)
    throw ⟨.value, s!"Value must be between -1.0 and 1.0, not {weight.shown}. " ++
      "Your analog computer may support upscaling to increase this range."⟩

/-- Configure a connection, whatever its weight. -/
def routeWeight (source target : ElementKind) (targetMInput : Nat) : Weight → CircuitM Unit
  | .finite weight => route source target targetMInput weight
  | .special weight =>
    match source, target with
    -- Analog inputs have no coefficient, and do not look at the weight.
    | .input port, _ => connectI (aclLane port) targetMInput
    | source, .output port => connectAclOutSpecial source port weight
    -- The number of lanes is a weight rounded up.
    | _, _ => throw (ceilError weight)

/-- Connect a source to a target, whatever the weight. -/
def connectWeight (source target : Element) (weight : Weight) : CircuitM Unit := do
  let c ← get
  match c.checkConnection source target with
  | .error error => throw error
  | .ok targetMInput =>
    noteIdentity source.kind
    routeWeight source.kind target.kind targetMInput weight

/-- With a number for a weight, this is connect. -/
theorem connectWeight_finite (source target : Element) (weight : Number) :
    connectWeight source target (.finite weight) = connect source target weight :=
  rfl

/-- The identities the constant giver is going to warn about. -/
def shadowed (c : Circuit) : Finset Nat := c.identityOutputsConnected ∩ {14, 15}

/-- The output of an identity that is shared with the constant giver. -/
def sharedOutput : ElementKind → Option Nat
  | .identity offset => if offset.val = 2 ∨ offset.val = 3 then some (12 + offset.val) else none
  | _ => none

/-- The circuit with an identity noted. -/
def noted (c : Circuit) (kind : ElementKind) : Circuit :=
  match sharedOutput kind with
  | some output => { c with identityOutputsConnected := insert output c.identityOutputsConnected }
  | none => c

/-- An identity that is going to be noted for the first time. -/
def Unnoted (c : Circuit) (kind : ElementKind) : Prop :=
  ∃ output, sharedOutput kind = some output ∧ output ∉ c.identityOutputsConnected

/-- The lane carries the output of another element. -/
def CarriesOther (c : Circuit) (lane : Fin 32) (source : ElementKind) : Prop :=
  ∃ output, c.ublock.outputs.get lane = some output ∧ output ≠ laneSource source lane

/-- An analog output port or the lanes refuse a connection with this weight. -/
def Refused (c : Circuit) (source target : ElementKind) (weight : Weight) : Prop :=
  match target, weight with
  | .output port, .finite weight => 1 < |weight.value| ∨ c.CarriesOther (aclLane port) source
  | .output _, .special _ => True
  | _, .finite weight => c.availableLanes.length < lanesFor weight.value
  | _, .special _ => True

/-- A free lane of an analog output port gets a source before its coefficient is refused. -/
def HalfSet (c : Circuit) (source target : ElementKind) (weight : Weight) : Prop :=
  weight = .special .nan ∧ (∀ port, source ≠ .input port) ∧
    ∃ port, target = .output port ∧ c.ublock.outputs.get (aclLane port) = none

/--
Nothing is changed in front of a check that refuses.

Elements that are no source and target of this circuit are refused before anything else.
-/
def ValidatesFirst (c : Circuit) (source target : Element) (weight : Weight) : Prop :=
  (∃ input, c.checkConnection source target = .ok input) →
    (c.Unnoted source.kind → ¬ c.Refused source.kind target.kind weight) ∧
      ¬ c.HalfSet source.kind target.kind weight

/-- Noting an identity always returns. -/
theorem noteIdentity_noted (c : Circuit) (kind : ElementKind) :
    noteIdentity kind c = .ok () (c.noted kind) := by
  -- Only two of the identities are noted.
  cases kind with
  | identity offset =>
    rw [noteIdentity, noted, sharedOutput]
    by_cases shared : offset.val = 2 ∨ offset.val = 3
    · rw [if_pos shared, if_pos shared]
      rfl
    · rw [if_neg shared, if_neg shared]
      rfl
  | _ => rfl

/-- The note changes the circuit when it is new. -/
theorem noted_eq_iff {c : Circuit} {kind : ElementKind} : c.noted kind = c ↔ ¬ c.Unnoted kind := by
  unfold noted Unnoted
  cases sharedOutput kind with
  | none => simp
  | some output =>
    -- An element joins a set without change exactly if it was in it.
    constructor
    · intro same fresh
      obtain ⟨other, shared, fresh⟩ := fresh
      cases shared
      apply fresh
      rw [← same]
      exact Finset.mem_insert_self _ _
    · intro old
      have member : output ∈ c.identityOutputsConnected := by
        by_contra fresh
        exact old ⟨output, rfl, fresh⟩
      simp only [Finset.insert_eq_of_mem member]

/-- The note is all that changes. -/
theorem noted_eq (c : Circuit) (kind : ElementKind) :
    ∃ connected, c.noted kind = { c with identityOutputsConnected := connected } := by
  unfold noted
  cases sharedOutput kind with
  | none => exact ⟨_, rfl⟩
  | some output => exact ⟨_, rfl⟩

/-- A connection is routed after its checks, with the identity noted. -/
theorem connectWeight_routed {c : Circuit} {source target : Element} {input : Nat}
    (checked : c.checkConnection source target = .ok input) (weight : Weight) :
    connectWeight source target weight c =
      routeWeight source.kind target.kind input weight (c.noted source.kind) := by
  rw [connectWeight, Raising.get_bind, checked]
  -- The identity output is noted before the weight is looked at.
  exact Raising.bind_of_ok (noteIdentity_noted c source.kind)

/-- A connection that fails its checks changes nothing. -/
theorem connectWeight_unchecked {c : Circuit} {source target : Element} {error : PyError}
    (refused : c.checkConnection source target = .error error) (weight : Weight) :
    connectWeight source target weight c = .error error c := by
  rw [connectWeight, Raising.get_bind, refused]
  rfl

/-- A lane that carries another output refuses a source. -/
theorem connectU_refused {c : Circuit} {lane : Fin 32} {source : ElementKind}
    (busy : c.CarriesOther lane source) :
    ∃ error, connectU (laneSource source lane) lane c = .error error c := by
  obtain ⟨output, carried, other⟩ := busy
  -- The U-block refuses a second source on the lane.
  obtain ⟨error, refused⟩ := UBlock.connect_lane_error carried other
  refine ⟨error, ?_⟩
  show keep (c.ublock.connect _ [(lane.val : Int)] false) _ c = _
  rw [refused]
  rfl

/-- Any other lane takes it. -/
theorem connectU_accepted {c : Circuit} {lane : Fin 32} {source : ElementKind}
    (free : ¬ c.CarriesOther lane source) :
    connectU (laneSource source lane) lane c = .ok () { c with ublock := { c.ublock with
      outputs := c.ublock.outputs.set lane.val (some (laneSource source lane : Int)) lane.isLt } } := by
  apply connectU_eq
  apply UBlock.connect_lane
  -- The lane carries nothing, or this source already.
  cases carried : c.ublock.outputs.get lane with
  | none => exact .inl rfl
  | some output =>
    right
    by_contra differs
    exact free ⟨output, carried, fun same => differs (by rw [same])⟩

/-- What routing a connection can do. -/
inductive Routes (c : Circuit) (source target : ElementKind) (weight : Weight) :
    EStateM.Result PyError Circuit Unit → Prop
  /-- The connection was made. -/
  | made {after : Circuit}
    (accepted : (∀ port, source ≠ .input port) → ¬ c.Refused source target weight)
    (whole : ¬ c.HalfSet source target weight) :
    Routes c source target weight (.ok () after)
  /-- The connection was refused as a whole. -/
  | refused {error : PyError}
    (refused : (∀ port, source ≠ .input port) → c.Refused source target weight)
    (whole : ¬ c.HalfSet source target weight) :
    Routes c source target weight (.error error c)
  /-- The connection was refused half way. -/
  | half {error : PyError} {after : Circuit} (half : c.HalfSet source target weight)
    (changed : after ≠ c)
    (notes : after.identityOutputsConnected = c.identityOutputsConnected) :
    Routes c source target weight (.error error after)

/-- A connection from an analog input is not half set. -/
theorem not_halfSet_input (c : Circuit) (port : Fin 8) (target : ElementKind) (weight : Weight) :
    ¬ c.HalfSet (.input port) target weight :=
  fun half => half.2.1 port rfl

/-- A connection with a number for its weight is not half set. -/
theorem not_halfSet_finite (c : Circuit) (source target : ElementKind) (weight : Number) :
    ¬ c.HalfSet source target (.finite weight) :=
  fun half => by cases half.1

/-- Signals of an analog input are refused as a whole, if at all. -/
theorem connectI_routes (c : Circuit) (port : Fin 8) (target : ElementKind) (input : Nat)
    (weight : Weight) :
    Routes c (.input port) target weight (connectI (aclLane port) input c) := by
  -- Only the summation may refuse, and a port of the panel is never set half.
  obtain ⟨error, raised⟩ | ⟨index, returned⟩ := connectI_cases c (aclLane port) input
  · rw [raised]
    exact .refused (fun internal => absurd rfl (internal port)) (c.not_halfSet_input port _ _)
  · rw [returned]
    exact .made (fun internal => absurd rfl (internal port)) (c.not_halfSet_input port _ _)

/-- A number for a weight is checked before the lane of an analog output. -/
theorem connectAclOut_routes (c : Circuit) (source : ElementKind) (port : Fin 8)
    (weight : Number) :
    Routes c source (.output port) (.finite weight) (connectAclOut source port weight c) := by
  rw [connectAclOut]
  -- The weight is checked first, then the lane.
  by_cases large : 1 < |weight.value|
  · simp only [if_pos large]
    exact .refused (fun _ => .inl large) (c.not_halfSet_finite _ _ _)
  · simp only [if_neg large]
    by_cases busy : c.CarriesOther (aclLane port) source
    · obtain ⟨error, raised⟩ := connectU_refused busy
      rw [show _ = EStateM.Result.error error c from Raising.bind_of_error raised]
      exact .refused (fun _ => .inr busy) (c.not_halfSet_finite _ _ _)
    · -- A weight in range has a coefficient, so that nothing else can raise.
      obtain ⟨factor, valid, _⟩ := factor_small large
      rw [show _ = EStateM.Result.ok () _ from
        (Raising.bind_of_ok (connectU_accepted busy)).trans (setFactor_eq valid)]
      exact .made (fun _ refused => refused.elim large busy) (c.not_halfSet_finite _ _ _)

/-- Without a number for a weight, the lane of an analog output is set before the coefficient. -/
theorem connectAclOutSpecial_routes {c : Circuit} {source : ElementKind}
    (internal : ∀ port, source ≠ .input port) (port : Fin 8) (weight : Special) :
    Routes c source (.output port) (.special weight) (connectAclOutSpecial source port weight c) := by
  cases weight with
  | infinite negative => exact .refused (fun _ => trivial) fun half => by cases half.1
  | nan =>
    rw [connectAclOutSpecial]
    by_cases busy : c.CarriesOther (aclLane port) source
    · obtain ⟨error, raised⟩ := connectU_refused busy
      rw [show _ = EStateM.Result.error error c from Raising.bind_of_error raised]
      refine .refused (fun _ => trivial) fun half => ?_
      obtain ⟨_, _, other, same, free⟩ := half
      cases same
      obtain ⟨output, carried, _⟩ := busy
      rw [free] at carried
      cases carried
    · rw [Raising.bind_of_ok (connectU_accepted busy)]
      cases carried : c.ublock.outputs.get (aclLane port) with
      | none =>
        refine .half ⟨rfl, internal, port, rfl, carried⟩ ?_ rfl
        intro same
        have lane := congrArg (fun c : Circuit => c.ublock.outputs.get (aclLane port)) same
        simp [Slots.get_set, carried] at lane
      | some output =>
        -- Setting the lane to what it carries changes nothing.
        have output_eq : output = laneSource source (aclLane port) := by
          by_contra other
          exact busy ⟨output, carried, other⟩
        have outputs_eq : c.ublock.outputs.set (aclLane port).val
            (some (laneSource source (aclLane port) : Int)) (aclLane port).isLt =
            c.ublock.outputs := by
          rw [← output_eq, ← carried]
          exact Vector.set_getElem_self _
        rw [outputs_eq]
        refine .refused (fun _ => trivial) fun half => ?_
        obtain ⟨_, _, other, same, free⟩ := half
        cases same
        rw [free] at carried
        cases carried

/-- Without a number for a weight, the lanes cannot be counted. -/
theorem routeWeight_special {source target : ElementKind}
    (internal : ∀ port, source ≠ .input port) (inside : ∀ port, target ≠ .output port)
    (input : Nat) (weight : Special) :
    routeWeight source target input (.special weight) = throw (ceilError weight) := by
  -- Neither end is a port, so that the general connection takes the ceiling.
  cases source with
  | input port => exact absurd rfl (internal port)
  | _ =>
    cases target with
    | output port => exact absurd rfl (inside port)
    | _ => rfl

/-- Other connections count their lanes first. -/
theorem LanesTracked.routeWeight_general {c : Circuit} (tracked : c.LanesTracked)
    {source target : ElementKind} (internal : ∀ port, source ≠ .input port)
    (inside : ∀ port, target ≠ .output port) {input : Nat}
    (listens : target.targetMInput = some input) (weight : Weight) :
    Routes c source target weight (routeWeight source target input weight c) := by
  -- Neither an analog output nor an analog input is involved.
  have whole : ¬ c.HalfSet source target weight := by
    intro half
    obtain ⟨_, _, port, analog, _⟩ := half
    exact inside port analog
  cases weight with
  | finite weight =>
    have refused_iff : c.Refused source target (.finite weight) ↔
        c.availableLanes.length < lanesFor weight.value := by
      cases target with
      | output port => exact absurd rfl (inside port)
      | _ => rfl
    rw [routeWeight, route_general internal inside]
    obtain ⟨slot, rfl⟩ : ∃ slot : Fin 16, slot.val = input :=
      ⟨⟨input, targetMInput_lt listens inside⟩, rfl⟩
    by_cases short : c.availableLanes.length < lanesFor weight.value
    · obtain ⟨error, raised, _⟩ := connectGeneral_error short (laneSource source) slot
      rw [raised]
      exact .refused (fun _ => refused_iff.mpr short) whole
    · obtain ⟨after, returned, _⟩ :=
        tracked.connectGeneral_ok (not_lt.mp short) (laneSource source) slot
      rw [returned]
      exact .made (fun _ refused => short (refused_iff.mp refused)) whole
  | special weight =>
    have refused : c.Refused source target (.special weight) := by
      cases target <;> trivial
    rw [routeWeight_special internal inside]
    exact .refused (fun _ => refused) whole

/-- Behind its checks, a connection is made, refused, or refused half way. -/
theorem LanesTracked.routeWeight_routes {c : Circuit} (tracked : c.LanesTracked)
    {source target : ElementKind} {input : Nat} (listens : target.targetMInput = some input)
    (weight : Weight) : Routes c source target weight (routeWeight source target input weight c) := by
  -- The port that the code looks at first is that of the source.
  by_cases analogIn : ∃ port, source = .input port
  · obtain ⟨port, rfl⟩ := analogIn
    cases weight with
    | finite weight => exact c.connectI_routes port target input _
    | special weight => exact c.connectI_routes port target input _
  have internal : ∀ port, source ≠ .input port := fun port equal => analogIn ⟨port, equal⟩
  by_cases analogOut : ∃ port, target = .output port
  · obtain ⟨port, rfl⟩ := analogOut
    cases weight with
    | finite weight =>
      rw [routeWeight, route_output internal]
      exact c.connectAclOut_routes source port weight
    | special weight =>
      have routed : routeWeight source (.output port) input (.special weight) =
          connectAclOutSpecial source port weight := by
        cases source with
        | input port => exact absurd rfl (internal port)
        | _ => rfl
      rw [routed]
      exact connectAclOutSpecial_routes internal port weight
  exact tracked.routeWeight_general internal (fun port equal => analogOut ⟨port, equal⟩) listens
    weight

/-- The connections that are refused, and those that are set by half, do not depend on the notes. -/
theorem routes_noted {c : Circuit} {kind : ElementKind} {source target : ElementKind}
    {weight : Weight} :
    ((c.noted kind).Refused source target weight ↔ c.Refused source target weight) ∧
      ((c.noted kind).HalfSet source target weight ↔ c.HalfSet source target weight) := by
  -- Neither looks at the outputs that are noted.
  obtain ⟨connected, same⟩ := c.noted_eq kind
  rw [same]
  exact ⟨Iff.rfl, Iff.rfl⟩

/-- A noted identity is not an analog input. -/
theorem Unnoted.internal {c : Circuit} {kind : ElementKind} (fresh : c.Unnoted kind)
    (port : Fin 8) : kind ≠ .input port := by
  intro same
  -- A port of the panel has no output to share.
  obtain ⟨output, shared, _⟩ := fresh
  rw [same] at shared
  cases shared

/-- A connection that raises changes nothing, exactly if nothing is changed in front of a check. -/
theorem LanesTracked.connectWeight_error_iff {c : Circuit} (tracked : c.LanesTracked)
    (source target : Element) (weight : Weight) :
    (∀ error after, connectWeight source target weight c = .error error after → after = c) ↔
      c.ValidatesFirst source target weight := by
  cases checked : c.checkConnection source target with
  | error refusal =>
    -- Nothing comes before the first checks.
    rw [connectWeight_unchecked checked]
    refine ⟨fun _ passed => ?_, fun _ error after raised => by cases raised; rfl⟩
    obtain ⟨input, passed⟩ := passed
    rw [checked] at passed
    cases passed
  | ok input =>
    rw [connectWeight_routed checked]
    have listens := (checkConnection_ok.mp checked).2.2
    have noted : (c.noted source.kind).LanesTracked := by
      obtain ⟨connected, same⟩ := c.noted_eq source.kind
      rw [same]
      exact { tracked with }
    have routes : Routes (c.noted source.kind) source.kind target.kind weight _ :=
      noted.routeWeight_routes listens weight
    generalize routeWeight source.kind target.kind input weight (c.noted source.kind) = result
      at routes
    have validates_iff : c.ValidatesFirst source target weight ↔
        (c.Unnoted source.kind → ¬ c.Refused source.kind target.kind weight) ∧
          ¬ c.HalfSet source.kind target.kind weight :=
      ⟨fun validates => validates ⟨input, checked⟩, fun both _ => both⟩
    rw [validates_iff]
    cases routes with
    | made accepted whole =>
      rw [routes_noted.1] at accepted
      rw [routes_noted.2] at whole
      refine ⟨fun _ => ⟨fun fresh => accepted fresh.internal, whole⟩, fun _ error after raised => ?_⟩
      cases raised
    | refused refused whole =>
      rw [routes_noted.1] at refused
      rw [routes_noted.2] at whole
      constructor
      · intro clean
        have same := clean _ _ rfl
        exact ⟨fun fresh => absurd fresh (noted_eq_iff.mp same), whole⟩
      · -- The note was not new, for a new one is not refused.
        rintro ⟨unrefused, _⟩ error after raised
        cases raised
        rw [noted_eq_iff]
        exact fun fresh => unrefused fresh (refused fresh.internal)
    | half half changed notes =>
      rw [routes_noted.2] at half
      refine ⟨fun clean => ?_, fun both => absurd half both.2⟩
      have same := clean _ _ rfl
      -- The circuit was changed, whether the note was new or not.
      rw [same] at changed notes
      obtain ⟨connected, other⟩ := c.noted_eq source.kind
      rw [other] at changed notes
      have notes : c.identityOutputsConnected = connected := notes
      subst notes
      exact absurd rfl changed

/-- An analog output that is set by half keeps the general signals. -/
theorem connectAclOutSpecial_kept {c : Circuit} {port : Fin 8}
    (held : c.aclOutUsed.get port = true) (source : ElementKind) (weight : Special) :
    LanesKept c (Raising.final (connectAclOutSpecial source port weight c)) := by
  cases weight with
  | infinite negative => exact .refl c
  | nan =>
    have reserved : c.reserved (aclLane port) = true := reserved_iff.mpr ⟨port, rfl, .inr held⟩
    rw [connectAclOutSpecial]
    obtain ⟨error, raised⟩ | ⟨agrees, returned⟩ :=
      connectU_cases c (laneSource source (aclLane port)) (aclLane port)
    · rw [Raising.bind_of_error raised]
      exact .refl c
    · rw [Raising.bind_of_ok returned]
      -- The coefficient is the one that was there.
      have kept := selected_kept reserved agrees (c.cblock.elements.get (aclLane port))
      rw [Vector.get_eq_getElem, Vector.set_getElem_self] at kept
      exact kept

/-- Routing a weight that is no number keeps the general signals. -/
theorem routeWeight_kept {c : Circuit} {source target : ElementKind}
    (sourceHeld : c.PortAllocated source) (targetHeld : c.PortAllocated target) (input : Nat)
    (weight : Special) :
    LanesKept c (Raising.final (routeWeight source target input (.special weight) c)) := by
  -- A reserved lane carries the signal of its port, and no other is touched.
  cases source with
  | input port => exact connectI_kept (reserved_iff.mpr ⟨port, rfl, .inl sourceHeld⟩) input
  | _ =>
    cases target with
    | output port => exact connectAclOutSpecial_kept targetHeld _ weight
    | _ => exact .refl c

/-- Connecting with a weight that is no number keeps the general signals. -/
theorem connectWeight_kept {c : Circuit} {source target : Element}
    (sourceHeld : source.circuitId = some c.circuitId → c.PortAllocated source.kind)
    (targetHeld : target.circuitId = some c.circuitId → c.PortAllocated target.kind)
    (weight : Special) :
    LanesKept c (Raising.final (connectWeight source target (.special weight) c)) := by
  cases checked : c.checkConnection source target with
  | error refusal =>
    rw [connectWeight_unchecked checked]
    exact .refl c
  | ok input =>
    obtain ⟨⟨ownSource, ownTarget⟩, _⟩ := checkConnection_ok.mp checked
    rw [connectWeight_routed checked]
    obtain ⟨connected, same⟩ := c.noted_eq source.kind
    rw [same]
    -- The note is not part of what is kept.
    have kept := routeWeight_kept (c := { c with identityOutputsConnected := connected })
      (sourceHeld ownSource) (targetHeld ownTarget) input weight
    exact { kept with }

end Circuit

/-- What a program does with a circuit, with any weight. -/
inductive CircuitAction where
  | call (call : CircuitCall)
  | connect (source target : Element) (weight : Special)

namespace Session

/-- Perform an action; a connection without a number for its weight adds to no sum. -/
def act (s : Session) : CircuitAction → Option Session
  | .call call => s.perform call
  | .connect source target weight =>
    if s.Holds source ∧ s.Holds target then
      some { s with
        circuit := Raising.final (Circuit.connectWeight source target (.special weight) s.circuit) }
    else none

/-- What an action does to a session: it performs a call, or connects what the program has. -/
inductive Acted (s : Session) : CircuitAction → Session → Prop
  | performs {call : CircuitCall} {next : Session} (performed : s.Performed call next) :
    Acted s (.call call) next
  | connects {source target : Element} {weight : Special}
    (holds : s.Holds source ∧ s.Holds target) :
    Acted s (.connect source target weight) { s with
      circuit := Raising.final (Circuit.connectWeight source target (.special weight) s.circuit) }

/-- There is nothing else an action does. -/
theorem act_cases {s next : Session} {action : CircuitAction} (acted : s.act action = some next) :
    s.Acted action next := by
  -- A connection asks for elements that were handed out.
  cases action with
  | call call => exact .performs (perform_cases acted)
  | connect source target weight =>
    rw [act] at acted
    split at acted
    case isTrue holds =>
      cases acted
      exact .connects holds
    case isFalse => cases acted

/-- Every action keeps what holds all along. -/
theorem Sound.act {s next : Session} (sound : s.Sound) {action : CircuitAction}
    (acted : s.act action = some next) : next.Sound := by
  -- Connections with any weight keep what was reserved.
  cases act_cases acted with
  | performs =>
    rw [Session.act] at acted
    exact sound.perform acted
  | connects holds =>
    exact sound.kept (Circuit.connectWeight_kept (sound.portAllocated holds.1)
      (sound.portAllocated holds.2) _)

/-- What holds all along holds wherever a program gets, whatever its weights. -/
theorem acted_sound {circuitId : Nat} {s : Session}
    (reached : Transition.Reachable act (start circuitId) s) : s.Sound :=
  Transition.reachable_preserves (start_sound circuitId)
    (fun _ _ _ sound acted => sound.act acted) reached

/-- Wherever a program gets, a connection that raises changes nothing, exactly if it checks first. -/
theorem connect_raises_unchanged_iff (circuitId : Nat) (s : Session)
    (reached : Transition.Reachable act (start circuitId) s) (source target : Element)
    (weight : Weight) :
    (∀ error after, Circuit.connectWeight source target weight s.circuit = .error error after →
      after = s.circuit) ↔ s.circuit.ValidatesFirst source target weight :=
  (acted_sound reached).tracked.connectWeight_error_iff source target weight

/-- Two multipliers and an analog output. -/
def tapped : List CircuitAction := [.call .mul, .call .mul, .call (.output (some ⟨0, first_lt⟩))]

/-- The identity of the second multiplier's first input. -/
def tap : Element := ⟨.identity 2, some 0⟩

/-- An identity is connected to the input of a multiplier, or the call changes nothing. -/
theorem connect_raises_unchanged_tapped :
    ∃ s, Transition.Reachable act (start 0) s ∧ ∀ error after,
      Circuit.connectWeight tap ⟨.mulInput 0 0, some 0⟩ (.finite (.float .one)) s.circuit =
        .error error after → after = s.circuit := by
  have lanes : (Transition.run act (start 0) tapped).map
      (fun s => s.circuit.availableLanes.length) = some 31 := by
    decide +kernel
  obtain ⟨s, ran, lanes⟩ := Option.map_eq_some_iff.mp lanes
  refine ⟨s, ⟨tapped, ran⟩, (connect_raises_unchanged_iff 0 s ⟨tapped, ran⟩ _ _ _).mpr ?_⟩
  -- One lane is needed, and there are more.
  intro _
  refine ⟨fun _ refused => ?_, s.circuit.not_halfSet_finite _ _ _⟩
  have refused : s.circuit.availableLanes.length < Circuit.lanesFor 1 := refused
  rw [lanes] at refused
  revert refused
  decide +kernel

/-- A connection to an analog output is refused for its weight, and its identity noted. -/
theorem refused_connection_noted :
    ∃ s, Transition.Reachable act (start 0) s ∧ ∃ error after,
      Circuit.connectWeight tap ⟨.output 0, some 0⟩ (.finite (.float .two)) s.circuit =
        .error error after ∧ s.circuit.shadowed = ∅ ∧ after.shadowed = {14} := by
  let connected (s : Session) :=
    Circuit.connectWeight tap ⟨.output 0, some 0⟩ (.finite (.float .two)) s.circuit
  -- The set of noted outputs is compared before and after the refusal.
  have noted : (Transition.run act (start 0) tapped).map (fun s =>
      (s.circuit.shadowed, (TwoRuns.outcome (connected s)).isOk,
        (Raising.final (connected s)).shadowed)) = some (∅, false, {14}) := by
    decide +kernel
  obtain ⟨s, ran, observed⟩ := Option.map_eq_some_iff.mp noted
  obtain ⟨before, raised, after⟩ : s.circuit.shadowed = ∅ ∧
      (TwoRuns.outcome (connected s)).isOk = false ∧
        (Raising.final (connected s)).shadowed = {14} := by
    simpa only [Prod.mk.injEq] using observed
  refine ⟨s, ⟨tapped, ran⟩, ?_⟩
  cases result : connected s with
  | ok _ _ =>
    rw [result] at raised
    cases raised
  | error error circuit =>
    rw [result] at after
    exact ⟨error, circuit, result, before, after⟩

end Session

end Pybrid
