import Pybrid.Library.Transition
import Pybrid.Lucipy.Calls

/-! Programs that build a circuit, and the weighted sums their connections amount to. -/

namespace Pybrid

/-- The calls a program makes on a circuit. -/
inductive CircuitCall where
  | int (ic : ℚ) (slow : Bool)
  | mul
  | const (value : ConstantValue)
  | input (port : Option (Fin 8))
  | output (port : Option (Fin 8))
  | connect (source target : Element) (weight : Number)
  | probe (source : Element) (adcChannel : Option Int)

/-- What a call that allocates an element computes on the circuit. -/
def CircuitCall.allocation : CircuitCall → Option (EStateM PyError Circuit Element)
  | .int ic slow => some (Circuit.int ic slow)
  | .mul => some Circuit.mul
  | .const value => some (Circuit.const value)
  | .input port => some (Circuit.input port)
  | .output port => some (Circuit.output port)
  -- The other calls are given elements.
  | .connect _ _ _ | .probe _ _ => none

/-- A connection that succeeded, with the lanes it took. -/
structure Connection where
  source : ElementKind
  target : ElementKind
  weight : Number
  lanes : List (Fin 32)

/-- A circuit under construction, with what was handed out and connected so far. -/
structure Session where
  circuit : Circuit
  handed : List Element
  log : List Connection

/-- An element, with the inputs and the identities that can be read off it. -/
def Element.parts (element : Element) : List Element :=
  -- Only multipliers have inputs, and only two of them have identities.
  let inputs := [0, 1].filterMap element.mulInput
  element :: (inputs ++ inputs.filterMap Element.identity)

/-- Only inputs and identities are read off an element. -/
theorem Element.mem_parts {part element : Element} (member : part ∈ element.parts) :
    part = element ∨ (∃ mulId inputIdx, part.kind = .mulInput mulId inputIdx) ∨
      ∃ offset, part.kind = .identity offset := by
  -- The element itself, then its inputs, then the identities of these.
  rcases List.mem_cons.mp member with same | read
  · exact .inl same
  rcases List.mem_append.mp read with input | tap
  · obtain ⟨inputIdx, _, found⟩ := List.mem_filterMap.mp input
    unfold Element.mulInput at found
    split at found
    case h_1 mulId _ =>
      cases found
      exact .inr (.inl ⟨mulId, inputIdx, rfl⟩)
    case h_2 => cases found
  · obtain ⟨input, _, found⟩ := List.mem_filterMap.mp tap
    unfold Element.identity at found
    split at found
    case h_1 mulId inputIdx _ =>
      split at found
      case isTrue =>
        cases found
        exact .inr (.inr ⟨_, rfl⟩)
      case isFalse => cases found
    case h_2 => cases found

/-- Every allocation keeps the lanes, and what it returns is allocated. -/
theorem Circuit.allocation_allocates (c : Circuit) {call : CircuitCall}
    {code : EStateM PyError Circuit Element} (asked : call.allocation = some code) :
    c.Allocates (code c) := by
  cases call with
  | int ic slow =>
    cases asked
    exact c.int_allocates ic slow
  | mul =>
    cases asked
    exact c.mul_allocates
  | const value =>
    cases asked
    exact c.const_allocates value
  | input port =>
    cases asked
    exact c.input_allocates port
  | output port =>
    cases asked
    exact c.output_allocates port
  | connect source target weight => cases asked
  | probe source adcChannel => cases asked

namespace Session

/-- A session on a fresh circuit. -/
def start (circuitId : Nat) : Session := ⟨.new circuitId, [], []⟩

/-- A program has the elements that were handed out, and any that are not of this circuit. -/
def Holds (s : Session) (element : Element) : Prop :=
  -- Foreign and dangling elements can be passed too, and are refused by the call.
  element.circuitId ≠ some s.circuit.circuitId ∨ ∃ handed ∈ s.handed, element ∈ handed.parts

instance (s : Session) (element : Element) : Decidable (s.Holds element) :=
  inferInstanceAs (Decidable (_ ∨ _))

/-- Keep the element an allocation has handed out. -/
def handOut (s : Session) : EStateM.Result PyError Circuit Element → Session
  | .ok element circuit => { s with circuit := circuit, handed := s.handed ++ [element] }
  | .error _ circuit => { s with circuit := circuit }

/-- The lanes a connection took: that of an output port, or those that became used. -/
def lanesTaken (before after : Circuit) (target : ElementKind) : List (Fin 32) :=
  match target with
  | .output port => [aclLane port]
  | _ => (List.finRange 32).filter fun lane =>
    after.generalLanesUsed.get lane && !before.generalLanesUsed.get lane

/-- Log a connection that succeeded. -/
def record (s : Session) (source target : ElementKind) (weight : Number) :
    EStateM.Result PyError Circuit Unit → Session
  | .ok _ circuit =>
    { s with
      circuit := circuit
      log := s.log ++ [⟨source, target, weight, lanesTaken s.circuit circuit target⟩] }
  | .error _ circuit => { s with circuit := circuit }

/-- Perform a call, whether it returns or raises; elements have to come from somewhere. -/
def perform (s : Session) : CircuitCall → Option Session
  | .int ic slow => some (s.handOut (Circuit.int ic slow s.circuit))
  | .mul => some (s.handOut (Circuit.mul s.circuit))
  | .const value => some (s.handOut (Circuit.const value s.circuit))
  | .input port => some (s.handOut (Circuit.input port s.circuit))
  | .output port => some (s.handOut (Circuit.output port s.circuit))
  -- A program cannot pass an element of this circuit that it was never given.
  | .connect source target weight =>
    if s.Holds source ∧ s.Holds target then
      some (s.record source.kind target.kind weight
        (Circuit.connect source target weight s.circuit))
    else none
  | .probe source adcChannel =>
    if s.Holds source then
      some { s with circuit := Raising.final (Circuit.probe source adcChannel s.circuit) }
    else none

/-- What a call does to a session: it allocates an element, or is given some that the program has. -/
inductive Performed (s : Session) : CircuitCall → Session → Prop
  | allocates {call : CircuitCall} {code : EStateM PyError Circuit Element}
    (asked : call.allocation = some code) : Performed s call (s.handOut (code s.circuit))
  | connects {source target : Element} {weight : Number} (holds : s.Holds source ∧ s.Holds target) :
    Performed s (.connect source target weight)
      (s.record source.kind target.kind weight (Circuit.connect source target weight s.circuit))
  | measures {source : Element} {adcChannel : Option Int} (holds : s.Holds source) :
    Performed s (.probe source adcChannel)
      { s with circuit := Raising.final (Circuit.probe source adcChannel s.circuit) }

/-- There is nothing else a call does. -/
theorem perform_cases {s next : Session} {call : CircuitCall}
    (performed : s.perform call = some next) : s.Performed call next := by
  cases call with
  | connect source target weight =>
    rw [perform] at performed
    split at performed
    case isTrue holds =>
      cases performed
      exact .connects holds
    case isFalse => cases performed
  | probe source adcChannel =>
    rw [perform] at performed
    split at performed
    case isTrue holds =>
      cases performed
      exact .measures holds
    case isFalse => cases performed
  | _ =>
    cases performed
    exact .allocates rfl

/-- What the logged connections from some sources to an input amount to, each by its weight. -/
def weightSum (amount : ℚ → ℚ) (log : List Connection) (counts : ElementKind → Bool)
    (input : Fin 16) : ℚ :=
  ((log.filter fun connection =>
    counts connection.source && connection.target.targetMInput == some input.val).map
      fun connection => amount connection.weight.value).sum

/-- Weights that amount to the same add up to the same. -/
theorem weightSum_congr {amount other : ℚ → ℚ} {log : List Connection}
    (same : ∀ connection ∈ log, amount connection.weight.value = other connection.weight.value)
    (counts : ElementKind → Bool) (input : Fin 16) :
    weightSum amount log counts input = weightSum other log counts input := by
  -- Only the weights of the connections that are counted enter the sum.
  rw [weightSum, weightSum, List.map_congr_left fun connection member =>
    same connection (List.mem_of_mem_filter member)]

/-- Sources on the outputs that the constant giver shares with two of the identities. -/
def onSharedOutput : ElementKind → Bool
  | .constant _ => true
  | .identity offset => 2 ≤ offset.val
  | _ => false

/-- The sources that are counted are those that emit on these outputs, on whatever lane. -/
structure Covers (outputs : Finset Int) (counts : ElementKind → Bool) : Prop where
  emits : ∀ kind, Circuit.IsSource kind → ∀ lane,
    ((Circuit.laneSource kind lane : Int) ∈ outputs ↔ counts kind = true)
  /-- Analog inputs are not on the outputs of the math blocks. -/
  internal : ∀ output ∈ outputs, output < 16

/-- What holds all along a session. -/
structure Sound (s : Session) : Prop where
  tracked : s.circuit.LanesTracked
  held : ∀ element ∈ s.handed, s.circuit.PortAllocated element.kind
  sums : ∀ outputs counts, Covers outputs counts → ∀ input,
    s.circuit.laneSum outputs input = weightSum Circuit.carried s.log counts input
  constants : ∀ connection ∈ s.log, (∃ id, connection.source = .constant id) →
    ∀ lane ∈ connection.lanes,
      s.circuit.ublock.outputs.get lane = some (constantOutputForLane lane.val : Int)

/-- A new session. -/
theorem start_sound (circuitId : Nat) : (start circuitId).Sound where
  -- A new circuit has no element to own and no lane to sum.
  tracked := Circuit.new_tracked circuitId
  held _ member := by cases member
  sums outputs counts _ input := Circuit.new_laneSum circuitId outputs input
  constants _ member := by cases member

namespace Sound

variable {s : Session}

/-- Calls that keep the general signals. -/
theorem kept (sound : s.Sound) {circuit : Circuit} (kept : s.circuit.LanesKept circuit) :
    Sound { s with circuit := circuit } where
  tracked := kept.tracked sound.tracked
  held element member := kept.portAllocated (sound.held element member)
  sums outputs counts covers input := by
    rw [kept.laneSum_eq sound.tracked]
    exact sound.sums outputs counts covers input
  constants connection member constant lane taken :=
    kept.grown lane _ (sound.constants connection member constant lane taken)

/-- Calls that hand out an element. -/
theorem handOut (sound : s.Sound) {result : EStateM.Result PyError Circuit Element}
    (allocates : s.circuit.Allocates result) : (s.handOut result).Sound := by
  have kept := sound.kept allocates.kept
  cases result with
  | error error circuit => exact kept
  | ok element circuit =>
    refine { kept with held := ?_ }
    intro other member
    -- Earlier elements keep their ports, and the new one has just been given its own.
    rcases List.mem_append.mp member with old | new
    · exact kept.held other old
    · rw [List.mem_singleton.mp new]
      exact allocates.handed element circuit rfl

/-- Analog ports of this circuit that a program has are allocated. -/
theorem portAllocated (sound : s.Sound) {element : Element} (holds : s.Holds element)
    (own : element.circuitId = some s.circuit.circuitId) :
    s.circuit.PortAllocated element.kind := by
  obtain ⟨handed, member, part⟩ := holds.resolve_left (not_not.mpr own)
  have allocated := sound.held handed member
  -- Inputs of multipliers and identities are not ports, so that a port was itself handed out.
  rcases Element.mem_parts part with same | ⟨mulId, inputIdx, input⟩ | ⟨offset, tap⟩
  · exact same ▸ allocated
  · rw [input]
    trivial
  · rw [tap]
    trivial

end Sound

/-- The lanes a connection to an M-block input took became used. -/
theorem used_of_mem_lanesTaken {before after : Circuit} {target : ElementKind} {slot : Fin 16}
    (listens : target.targetMInput = some slot.val) {lane : Fin 32}
    (taken : lane ∈ lanesTaken before after target) :
    after.generalLanesUsed.get lane = true ∧ before.generalLanesUsed.get lane = false := by
  -- An analog output would listen beyond the M-block inputs.
  cases target with
  | output port =>
    simp only [ElementKind.targetMInput, Option.some.injEq] at listens
    omega
  | _ => simpa [lanesTaken] using taken

/-- A logged connection counts with its weight. -/
theorem weightSum_append (amount : ℚ → ℚ) (log : List Connection) (connection : Connection)
    (counts : ElementKind → Bool) (input : Fin 16) :
    weightSum amount (log ++ [connection]) counts input = weightSum amount log counts input +
      if counts connection.source = true ∧ connection.target.targetMInput = some input.val then
        amount connection.weight.value
      else 0 := by
  -- The filter looks at each entry on its own.
  rw [weightSum, List.filter_append, List.map_append, List.sum_append, ← weightSum]
  congr 1
  by_cases counted : counts connection.source = true ∧
      connection.target.targetMInput = some input.val
  · simp [counted]
  · rw [if_neg counted]
    rw [not_and_or] at counted
    rcases counted with other | elsewhere
    · simp [other]
    · simp [elsewhere]

namespace Sound

variable {s : Session}

/-- A successful connection over an analog port counts for no sum. -/
theorem record_port (sound : s.Sound) {circuit : Circuit} (kept : s.circuit.LanesKept circuit)
    (connection : Connection)
    (analog : (∃ port, connection.source = .input port) ∨ ∃ port, connection.target = .output port)
    (constants : (∃ id, connection.source = .constant id) → ∀ lane ∈ connection.lanes,
      circuit.ublock.outputs.get lane = some (constantOutputForLane lane.val : Int)) :
    Sound { s with circuit := circuit, log := s.log ++ [connection] } := by
  have kept := sound.kept kept
  -- The lanes are as before, so that the new entry must not count.
  refine { kept with sums := ?_, constants := ?_ }
  · intro outputs counts covers input
    have apart : ¬ (counts connection.source = true ∧
        connection.target.targetMInput = some input.val) := by
      intro found
      obtain ⟨counted, listens⟩ := found
      rcases analog with ⟨port, source⟩ | ⟨port, target⟩
      · -- Analog inputs have numbers above those of the M-block outputs.
        rw [source] at counted
        have emits : Circuit.IsSource (.input port) := .inl (Option.some_ne_none _)
        have inside := covers.internal _ ((covers.emits (.input port) emits 0).mpr counted)
        simp only [Circuit.laneSource, ElementKind.sourceOutputLane, Option.getD_some] at inside
        omega
      · -- And analog outputs above those of the M-block inputs.
        rw [target] at listens
        simp only [ElementKind.targetMInput, Option.some.injEq] at listens
        omega
    rw [weightSum_append, if_neg apart, add_zero]
    exact kept.sums outputs counts covers input
  · intro other member constant lane taken
    rcases List.mem_append.mp member with old | new
    · exact kept.constants other old constant lane taken
    · rw [List.mem_singleton.mp new] at constant taken
      exact constants constant lane taken

/-- Spreading a weight over lanes counts for the sums of its source and its target. -/
theorem sums_spread (sound : s.Sound) {circuit : Circuit} {source target : ElementKind}
    {weight : Number} {slot : Fin 16} {lanes : List (Fin 32)} (emits : Circuit.IsSource source)
    (listens : target.targetMInput = some slot.val)
    (count : lanes.length = Circuit.lanesFor weight.value)
    (spread : s.circuit.Spread circuit (Circuit.laneSource source) slot
      (Doubles.round (weight.value / Circuit.lanesFor weight.value)) lanes) (taken : List (Fin 32))
    {outputs : Finset Int} {counts : ElementKind → Bool} (covers : Covers outputs counts)
    (input : Fin 16) :
    circuit.laneSum outputs input =
      weightSum Circuit.carried (s.log ++ [⟨source, target, weight, taken⟩]) counts input := by
  rw [weightSum_append, spread.sums, sound.sums outputs counts covers input]
  congr 1
  simp only [listens, Option.some.injEq, covers.emits source emits]
  -- Either all lanes count, and their shares add up, or none does.
  by_cases counted : counts source = true ∧ slot.val = input.val
  · simpa [counted, Fin.ext counted.2.symm] using Circuit.sum_shares count
  · have elsewhere : ¬ (input = slot ∧ counts source = true) :=
      fun both => counted ⟨both.2, by rw [both.1]⟩
    simp [counted, elsewhere]

/-- A successful connection over free lanes counts with its weight. -/
theorem record_general (sound : s.Sound) {circuit : Circuit} {source target : ElementKind}
    {weight : Number} {slot : Fin 16} (emits : Circuit.IsSource source)
    (listens : target.targetMInput = some slot.val)
    (enough : Circuit.lanesFor weight.value ≤ s.circuit.availableLanes.length)
    (spread : s.circuit.Spread circuit (Circuit.laneSource source) slot
      (Doubles.round (weight.value / Circuit.lanesFor weight.value))
      (s.circuit.availableLanes.take (Circuit.lanesFor weight.value))) :
    Sound (s.record source target weight (.ok () circuit)) where
  -- Every clause is about the lanes of the spread, or about the others.
  tracked := spread.tracked
  held element member := spread.portAllocated (sound.held element member)
  sums outputs counts covers input :=
    sound.sums_spread emits listens (by rw [List.length_take, min_eq_left enough]) spread _ covers
      input
  constants connection member constant lane taken := by
    show circuit.ublock.outputs.get lane = _
    rcases List.mem_append.mp member with old | new
    · have before := sound.constants connection old constant lane taken
      exact spread.grown sound.tracked (fun _ => List.mem_of_mem_take) before
    · obtain rfl := List.mem_singleton.mp new
      obtain ⟨id, rfl⟩ := constant
      -- The lanes that became used are those of the spread.
      obtain ⟨used, unused⟩ := used_of_mem_lanesTaken listens taken
      have member : lane ∈ s.circuit.availableLanes.take (Circuit.lanesFor weight.value) := by
        simpa [spread.used, unused] using used
      rw [spread.selected, if_pos member]
      rfl

/-- A connection is logged if it succeeds. -/
theorem record (sound : s.Sound) {source target : ElementKind} {weight : Number}
    {result : EStateM.Result PyError Circuit Unit}
    (connects : s.circuit.Connects source target weight result) :
    Sound (s.record source target weight result) := by
  -- A connect has four ways to end, and only the last one adds to a sum.
  cases connects with
  | raised kept => exact sound.kept kept
  | input port analog kept =>
    refine sound.record_port kept _ (.inl ⟨port, analog⟩) ?_
    intro found
    obtain ⟨id, constant⟩ := found
    rw [analog] at constant
    cases constant
  | output port analog kept carries =>
    refine sound.record_port kept _ (.inr ⟨port, analog⟩) ?_
    intro constant lane taken
    obtain ⟨id, rfl⟩ := constant
    subst analog
    rw [List.mem_singleton.mp taken]
    exact carries
  | general slot emits listens enough spread => exact sound.record_general emits listens enough spread

/-- Every call keeps what holds all along. -/
theorem perform (sound : s.Sound) {call : CircuitCall} {next : Session}
    (performed : s.perform call = some next) : next.Sound := by
  -- Allocations hand out an element; a connect and a probe are given some.
  cases perform_cases performed with
  | allocates asked => exact sound.handOut (s.circuit.allocation_allocates asked)
  | connects holds =>
    exact sound.record (sound.tracked.connect_connects (sound.portAllocated holds.1)
      (sound.portAllocated holds.2) _)
  | measures => exact sound.kept (s.circuit.probe_kept _ _)

end Sound

/-- What holds all along holds wherever a program gets. -/
theorem reachable_sound {circuitId : Nat} {s : Session}
    (reached : Transition.Reachable perform (start circuitId) s) : s.Sound :=
  -- The induction over the run is the library's.
  Transition.reachable_preserves (start_sound circuitId)
    (fun _ _ _ sound performed => sound.perform performed) reached

/-- Below the outputs of the constant giver, a source emits on one output whatever the lane. -/
theorem covers_single {output : Nat} (below : output < 14) :
    Covers {(output : Int)} fun kind => decide (kind.sourceOutputLane = some output) where
  -- A source below output 14 is not the constant giver, and has its own number.
  emits kind source lane := by
    simp only [Finset.mem_singleton, Nat.cast_inj, decide_eq_true_eq]
    cases kind with
    | constant id =>
      simp only [Circuit.laneSource, constantOutputForLane, ElementKind.sourceOutputLane]
      split <;> simp <;> omega
    | mulInput mulId inputIdx => rcases source with none | ⟨id, other⟩ <;> contradiction
    | output port => rcases source with none | ⟨id, other⟩ <;> contradiction
    | _ => simp [Circuit.laneSource, ElementKind.sourceOutputLane]
  internal other member := by
    rw [Finset.mem_singleton.mp member]
    omega

/-- The constant giver and two of the identities emit on the shared outputs. -/
theorem covers_shared : Covers {14, 15} onSharedOutput where
  -- The constant giver switches between both outputs, and identities are counted by their number.
  emits kind source lane := by
    simp only [Finset.mem_insert, Finset.mem_singleton]
    cases kind with
    | constant id =>
      simp only [Circuit.laneSource, constantOutputForLane, onSharedOutput]
      split <;> simp
    | mulInput mulId inputIdx => rcases source with none | ⟨id, other⟩ <;> contradiction
    | output port => rcases source with none | ⟨id, other⟩ <;> contradiction
    | integrator id | multiplier id | input port | identity offset =>
      simp [Circuit.laneSource, ElementKind.sourceOutputLane, onSharedOutput]
      omega
  internal other member := by
    simp only [Finset.mem_insert, Finset.mem_singleton] at member
    omega

/-- The lanes that are neither used nor reserved. -/
def freeLanes (c : Circuit) : Finset (Fin 32) :=
  -- A lane can be taken when neither flag is set.
  Finset.univ.filter fun lane => c.generalLanesUsed.get lane = false ∧ c.reserved lane = false

/--
The weighted sums a circuit computes are those that were asked for, in floats.

The shares of a connection add up over its lanes, for each of the outputs that only one element
has, and for the two outputs of the constant giver together.
-/
structure WeightedSums (s : Session) : Prop where
  /-- Integrators, multipliers and the first two identities. -/
  single : ∀ output : Nat, output < 14 → ∀ input,
    s.circuit.laneSum {(output : Int)} input = weightSum Circuit.carried s.log
      (fun kind => decide (kind.sourceOutputLane = some output)) input
  /-- The constant giver and the last two identities. -/
  shared : ∀ input, s.circuit.laneSum {14, 15} input =
    weightSum Circuit.carried s.log onSharedOutput input
  /-- Where all shares are floats, as those of floats up to eight, the weights themselves add up. -/
  exact : (∀ connection ∈ s.log, Circuit.ExactShare connection.weight.value ∨
      Doubles.round connection.weight.value = connection.weight.value ∧
        |connection.weight.value| ≤ 8) →
    ∀ counts input, weightSum Circuit.carried s.log counts input = weightSum id s.log counts input
  /-- A constant takes the output that reaches the lane. -/
  constant : ∀ connection ∈ s.log, (∃ id, connection.source = .constant id) →
    ∀ lane ∈ connection.lanes,
      s.circuit.ublock.outputs.get lane = some (if lane.val < 16 then 15 else 14)
  /-- Factors stay in the range of the coefficient block. -/
  factor : ∀ lane, |(s.circuit.cblock.elements.get lane).val| ≤ 1
  /-- A general connection raises for the lack of lanes, and for nothing else. -/
  lack : ∀ source target weight, source.circuitId = some s.circuit.circuitId →
    target.circuitId = some s.circuit.circuitId → (∀ port, source.kind ≠ .input port) →
    (∀ port, target.kind ≠ .output port) → Circuit.IsSource source.kind →
    target.kind.targetMInput ≠ none →
      ((∃ error after, Circuit.connect source target weight s.circuit = .error error after ∧
          error.kind = .value) ↔
        (freeLanes s.circuit).card < max 1 ⌈|weight.value| / 8⌉₊ ∧
          ¬ Circuit.Overflows weight) ∧
      (Circuit.Overflows weight →
        ∃ error after, Circuit.connect source target weight s.circuit = .error error after ∧
          error.kind = .overflow) ∧
      (max 1 ⌈|weight.value| / 8⌉₊ ≤ (freeLanes s.circuit).card →
        ∃ after, Circuit.connect source target weight s.circuit = .ok () after)
  /-- Elements that cannot be connected are refused by their type instead. -/
  unsupported : ∀ source target weight, source.circuitId = some s.circuit.circuitId →
    target.circuitId = some s.circuit.circuitId →
    ¬ (Circuit.IsSource source.kind ∧ target.kind.targetMInput ≠ none) →
      ∃ error, Circuit.connect source target weight s.circuit = .error error s.circuit ∧
        error.kind = .type

/-- A general connection with enough lanes returns, and without them raises. -/
theorem Sound.lack {s : Session} (sound : s.Sound) {source target : Element} (weight : Number)
    (ownSource : source.circuitId = some s.circuit.circuitId)
    (ownTarget : target.circuitId = some s.circuit.circuitId)
    (internal : ∀ port, source.kind ≠ .input port)
    (inside : ∀ port, target.kind ≠ .output port) (emits : Circuit.IsSource source.kind)
    (listens : target.kind.targetMInput ≠ none) :
    (∃ error after, Circuit.connect source target weight s.circuit = .error error after ∧
        Circuit.ShortKind weight error.kind ∧
        (freeLanes s.circuit).card < Circuit.lanesFor weight.value) ∨
      (Circuit.lanesFor weight.value ≤ (freeLanes s.circuit).card ∧
        ∃ after, Circuit.connect source target weight s.circuit = .ok () after) := by
  -- The identity is noted in front of the lanes, and the lanes do not depend on the note.
  obtain ⟨input, listens⟩ := Option.ne_none_iff_exists'.mp listens
  obtain ⟨connected, general⟩ := Circuit.connect_general ownSource ownTarget emits internal listens
    inside weight
  have tracked : Circuit.LanesTracked
      { s.circuit with identityOutputsConnected := connected } := { sound.tracked with }
  have count : (freeLanes s.circuit).card = s.circuit.availableLanes.length :=
    s.circuit.length_availableLanes.symm
  rw [general, count]
  by_cases short : s.circuit.availableLanes.length < Circuit.lanesFor weight.value
  · obtain ⟨error, raised, kind⟩ := Circuit.connectGeneral_error
      (c := { s.circuit with identityOutputsConnected := connected }) short
      (Circuit.laneSource source.kind) input
    exact .inl ⟨error, _, raised, kind, short⟩
  · have enough := not_lt.mp short
    obtain ⟨after, returned, _⟩ := tracked.connectGeneral_ok enough
      (Circuit.laneSource source.kind) ⟨input, Circuit.targetMInput_lt listens inside⟩
    exact .inr ⟨enough, after, returned⟩

/-- A weight that overflows needs more lanes than are free. -/
theorem card_lt_of_overflows (c : Circuit) {weight : Number} (overflows : Circuit.Overflows weight) :
    (freeLanes c).card < Circuit.lanesFor weight.value := by
  -- There are no more than 32 lanes, free or not.
  have lanes : (freeLanes c).card ≤ 32 := by
    simpa using Finset.card_le_univ (freeLanes c)
  exact lanes.trans_lt overflows.lt_lanesFor

/-- Wherever a program gets, the circuit computes the weighted sums that were asked for. -/
theorem weightedSums (circuitId : Nat) (s : Session)
    (reached : Transition.Reachable perform (start circuitId) s) : s.WeightedSums := by
  have sound := reachable_sound reached
  constructor
  case single => exact fun output below input => sound.sums _ _ (covers_single below) input
  case shared => exact fun input => sound.sums _ _ covers_shared input
  case exact =>
    intro exact counts input
    apply weightSum_congr
    intro connection member
    exact ((exact connection member).elim id fun both =>
      Circuit.exactShare_of_small both.1 both.2).carried_eq
  case constant =>
    intro connection member constant lane taken
    rw [sound.constants connection member constant lane taken, constantOutputForLane]
    split <;> rfl
  case factor => exact fun lane => abs_le.mpr (s.circuit.cblock.elements.get lane).property.1
  case lack =>
    intro source target weight ownSource ownTarget internal inside emits listens
    obtain ⟨error, after, raised, kind, short⟩ | ⟨enough, after, returned⟩ :=
      sound.lack weight ownSource ownTarget internal inside emits listens
    · refine ⟨⟨?_, ?_⟩, ?_, fun enough => absurd short (not_lt.mpr enough)⟩
      · -- The one error that is raised has a single kind.
        rintro ⟨other, after', raised', value⟩
        rw [raised] at raised'
        cases raised'
        rcases kind with ⟨overflow, _⟩ | ⟨_, counted⟩
        · rw [overflow] at value
          cases value
        · exact ⟨short, counted⟩
      · rintro ⟨_, counted⟩
        exact ⟨error, after, raised, (kind.resolve_left fun both => counted both.2).1⟩
      · intro overflows
        exact ⟨error, after, raised, (kind.resolve_right fun both => both.2 overflows).1⟩
    · -- A connection that returns has enough lanes, and raises nothing.
      have quiet : ∀ error after',
          Circuit.connect source target weight s.circuit ≠ .error error after' := by
        intro error after' raised
        rw [returned] at raised
        cases raised
      refine ⟨⟨?_, fun both => absurd both.1 (not_lt.mpr enough)⟩, ?_, fun _ => ⟨after, returned⟩⟩
      · rintro ⟨error, after', raised, _⟩
        exact absurd raised (quiet error after')
      · exact fun overflows => absurd (card_lt_of_overflows _ overflows) (not_lt.mpr enough)
  case unsupported =>
    exact fun source target weight ownSource ownTarget unsupported =>
      Circuit.connect_unsupported ownSource ownTarget unsupported weight

/-- Two integrators and a constant, connected with each other and to an analog output. -/
def sample : List CircuitCall :=
  let own (kind : ElementKind) : Element := ⟨kind, some 0⟩
  [.int 0 false, .int 0 false, .const (.flag true), .output (some 1),
    -- This weight needs three lanes, and leaves each of them upscaled.
    .connect (own (.integrator 0)) (own (.integrator 1)) (.int 20),
    .connect (own (.constant 0)) (own (.integrator 1)) (.fraction (-1 / 2)),
    .connect (own (.constant 0)) (own (.output 1)) (.float .half)]

/-- The sample run computes both of its sums, the first of them a little too large. -/
theorem weightedSums_sample :
    ∃ s, Transition.Reachable perform (start 0) s ∧
      s.circuit.laneSum {0} 1 = 20 + 1 / 2 ^ 50 ∧ s.circuit.laneSum {14, 15} 1 = -1 / 2 := by
  -- The log of the run is computed, and the sums follow from the theorem.
  have logged : (Transition.run perform (start 0) sample).map (fun s =>
      (weightSum Circuit.carried s.log (fun kind => decide (kind.sourceOutputLane = some 0)) 1,
        weightSum Circuit.carried s.log onSharedOutput 1)) = some (20 + 1 / 2 ^ 50, -1 / 2) := by
    decide +kernel
  obtain ⟨s, ran, weights⟩ := Option.map_eq_some_iff.mp logged
  obtain ⟨single, shared⟩ := Prod.mk.inj weights
  have sums := weightedSums 0 s ⟨sample, ran⟩
  exact ⟨s, ⟨sample, ran⟩, (sums.single 0 (by decide) 1).trans single,
    (sums.shared 1).trans shared⟩

/-- The kind of error that a call raises, if it does. -/
def raisedKind : EStateM.Result PyError Circuit Unit → Option ErrorKind
  | .ok _ _ => none
  | .error error _ => some error.kind

/-- An integer that is too large for a float. -/
def googols : Number := .int (10 ^ 400)

/-- A third of twenty is no float, so that the lanes add up to more than the weight. -/
theorem weight_rounded_sample :
    ∃ s, Transition.run perform (start 0) sample = some s ∧
      s.circuit.laneSum {0} 1 = 20 + 1 / 2 ^ 50 ∧
      weightSum id s.log (fun kind => decide (kind.sourceOutputLane = some 0)) 1 = 20 ∧
      raisedKind (Circuit.connect ⟨.integrator 0, some 0⟩ ⟨.integrator 1, some 0⟩ googols
        s.circuit) = some .overflow := by
  have computed : (Transition.run perform (start 0) sample).map (fun s =>
      (s.circuit.laneSum {0} 1,
        weightSum id s.log (fun kind => decide (kind.sourceOutputLane = some 0)) 1,
        raisedKind (Circuit.connect ⟨.integrator 0, some 0⟩ ⟨.integrator 1, some 0⟩ googols
          s.circuit))) = some (20 + 1 / 2 ^ 50, 20, some .overflow) := by
    decide +kernel
  obtain ⟨s, ran, observed⟩ := Option.map_eq_some_iff.mp computed
  obtain ⟨lanes, rest⟩ := Prod.mk.inj observed
  obtain ⟨asked, raised⟩ := Prod.mk.inj rest
  exact ⟨s, ran, lanes, asked, raised⟩

end Session

end Pybrid
