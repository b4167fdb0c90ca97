import Pybrid.Library.Guarded
import Pybrid.Redac.EntityRuns

/-! Which payloads can be applied to an entity a second time without changing it. -/

namespace Pybrid

open Slots Overwriting Guarded

/-- What the outputs of a block hold: inputs, or a selection in the place of sums. -/
inductive Held where
  | connected (output : Nat) (input : Int)
  | selection
  deriving DecidableEq, Repr

/-- The payload replaces the outputs of a block, whatever they were. -/
def Wire.Payload.rebuilds : Wire.Payload → Bool
  | .sumConfig _ _ | .selectConfig _ _ _ => true
  | _ => false

/-- The connections that a payload makes in a block, on top of those that are there. -/
def Wire.Payload.connects : Wire.Payload → List SectorConnection
  | .bplSwitchConfig muxes => sectorConnections muxes
  | _ => []

namespace EntityKind

/-- What a block holds after its outputs have been replaced: the last entry for an output counts. -/
def leaves : EntityKind → Wire.Payload → Set Held
  -- The last entry for an output is the one that stays.
  | .uBlock, .selectConfig _ _ connections => {held | ∃ entry,
    (connections.reverse.find? fun connection => connection.output = entry.output) = some entry ∧
      held = .connected entry.output entry.input}
  | .iBlock, .sumConfig connections _ => {held | ∃ entry,
    (connections.reverse.find? fun connection => connection.output = entry.output) = some entry ∧
      ∃ input ∈ entry.inputs, held = .connected entry.output input}
  | .iBlock, .selectConfig _ _ _ => {.selection}
  | _, _ => ∅

/-- What a connection adds to a block: one input at two outputs, or two inputs at one output. -/
def adds : EntityKind → SectorConnection → Set Held
  | .uBlock, c => {.connected c.outSector c.inSector, .connected c.lane c.inSector}
  | .iBlock, c => {.connected c.lane c.inSector.toNat, .connected c.lane c.outSector}
  | _, _ => ∅

/--
What is held keeps a block from making a connection.

An output carries one input only, and an input is summed by one output only.
-/
def Clash : EntityKind → Held → SectorConnection → Prop
  | .uBlock, .connected output input, c =>
    (output = c.outSector ∨ output = c.lane) ∧ input ≠ c.inSector
  | .iBlock, .connected output input, c =>
    output ≠ c.lane ∧ (input = c.inSector.toNat ∨ input = c.outSector)
  -- Numbers do not make sums, and every connection needs one.
  | .iBlock, .selection, _ => True
  | _, _, _ => False

/-- What is checked before the connections of a payload are made. -/
def check (kind : EntityKind) : Wire.Payload → Except PyError Unit
  | .bplSwitchConfig _ => .ok ()
  | other => kind.takeStray other

/--
Payloads that have been accepted by an entity of this class can be applied once more without effect.

The connections in front of the first replacement of the outputs then meet what the last one has left.
-/
def Repeats (kind : EntityKind) (payloads : List Wire.Payload) : Prop :=
  ∀ last behind, sinceReset Wire.Payload.rebuilds payloads = some (last, behind) →
    ∀ early ∈ (beforeReset Wire.Payload.rebuilds payloads).flatMap Wire.Payload.connects,
      ∀ held ∈ kind.leaves last ∪ added kind.adds (behind.flatMap Wire.Payload.connects),
        ¬kind.Clash held early

end EntityKind

namespace UBlock

/-- What the lanes of a selection block hold. -/
def held (block : UBlock) : Set Held :=
  {held | ∃ (output : Nat) (input : Int), block.outputs[output]? = some (some input) ∧
    held = .connected output input}

/-- Make what a payload does to a selection block. -/
def take (block : UBlock) (payload : Wire.Payload) : Except PyError UBlock :=
  match payload with
  | .selectConfig constant magnitude connections =>
    block.deserializeConfiguration constant magnitude connections
  | .bplSwitchConfig muxes => (sectorConnections muxes).foldlM connectSector block
  | other => (EntityKind.uBlock.takeStray other).map fun _ => block

/-- A selection block stays one. -/
theorem take_configure (block : UBlock) (payload : Wire.Payload) :
    (EntityState.typed (.uBlock block)).configure payload =
      (block.take payload).map fun block => .typed (.uBlock block) := by
  -- Only two kinds of payloads reach the block, the others are refused on both sides.
  cases payload <;>
    first | rfl | (simp only [EntityState.configure, take, Raising.except_map_map]; rfl)

/-- A lane that exists is subscripted by its number. -/
theorem subscript_lane {output : Nat} (inside : output < 32) :
    Python.subscript 32 (output : Int) = .ok ⟨output, inside⟩ := by
  rw [Python.subscript_of_bounds (by omega)]
  simp

/-- A lane can carry an input if it exists, and carries no other one. -/
theorem checkOutput_eq_ok {block : UBlock} {input : Int} {output : Nat} {passed : Unit} :
    block.checkOutput input output = .ok passed ↔
      output < 32 ∧ ∀ carried, block.outputs[output]? = some (some carried) → carried = input := by
  by_cases inside : output < 32
  · have there : block.outputs[output]? = some (block.outputs.get ⟨output, inside⟩) := by
      simp [Vector.get_eq_getElem, inside]
    rw [checkOutput, subscript_lane inside, there]
    cases carries : block.outputs.get ⟨output, inside⟩ with
    | none => simp [carries, inside, bind, Except.bind, pure, Except.pure]
    | some carried =>
      -- A lane that carries the same input is accepted again.
      by_cases same : carried = input <;>
        simp [carries, inside, same, bind, Except.bind, pure, Except.pure, throw, throwThe,
          MonadExceptOf.throw]
  · have outside : ¬((0 : Int) ≤ output ∧ (output : Int) < (32 : Nat)) := by omega
    have behind : ¬(-(32 : Nat) ≤ (output : Int) ∧ (output : Int) < 0) := by omega
    have refused : Python.subscript 32 (output : Int) = .error Python.indexError := by
      rw [Python.subscript, dif_neg outside, dif_neg behind]
    simp [checkOutput, refused, inside, bind, Except.bind]

/-- The two lanes that a connection sets. -/
def setLanes (block : UBlock) (c : SectorConnection) (first : c.outSector < 32)
    (second : c.lane < 32) : UBlock :=
  { block with outputs :=
      (block.outputs.set c.outSector (some c.inSector)).set c.lane (some c.inSector) }

/-- A connection is made if its two lanes exist and carry no other input. -/
theorem connectSector_eq_ok {block block' : UBlock} {c : SectorConnection} :
    block.connectSector c = .ok block' ↔ ∃ (first : c.outSector < 32) (second : c.lane < 32),
      (∀ held ∈ block.held, ¬EntityKind.uBlock.Clash held c) ∧
        block' = block.setLanes c first second := by
  have clear : (∀ held ∈ block.held, ¬EntityKind.uBlock.Clash held c) ↔
      ∀ output, output = c.outSector ∨ output = c.lane → ∀ carried,
        block.outputs[output]? = some (some carried) → carried = c.inSector := by
    constructor
    · intro free output place carried there
      by_contra other
      exact free _ ⟨output, carried, there, rfl⟩ ⟨place, other⟩
    · rintro free _ ⟨output, carried, there, rfl⟩ ⟨place, other⟩
      exact other (free output place carried there)
  have assigned : ∀ (first : c.outSector < 32) (second : c.lane < 32),
      [(c.outSector : Int), (c.lane : Int)].foldlM
        (fun current output => current.setOutput c.inSector output) block =
          .ok (block.setLanes c first second) := by
    intro first second
    simp [setOutput, setLanes, subscript_lane first, subscript_lane second, bind, Except.bind, pure,
      Except.pure]
  have bound : block.connectSector c = (do
      block.checkOutput c.inSector c.outSector
      block.checkOutput c.inSector c.lane
      [(c.outSector : Int), (c.lane : Int)].foldlM
        (fun current output => current.setOutput c.inSector output) block) := by
    simp [connectSector, connect]
  rw [bound, clear]
  constructor
  · intro connected
    -- Both lanes are checked on the block as it was, and then assigned.
    obtain ⟨_, one, connected⟩ := Raising.except_bind_eq_ok.mp connected
    obtain ⟨_, other, connected⟩ := Raising.except_bind_eq_ok.mp connected
    obtain ⟨first, free⟩ := checkOutput_eq_ok.mp one
    obtain ⟨second, free'⟩ := checkOutput_eq_ok.mp other
    rw [assigned first second] at connected
    cases connected
    refine ⟨first, second, ?_, rfl⟩
    rintro output (rfl | rfl)
    · exact free
    · exact free'
  · rintro ⟨first, second, free, rfl⟩
    exact Raising.except_bind_eq_ok.mpr ⟨(), checkOutput_eq_ok.mpr ⟨first, free _ (.inl rfl)⟩,
      Raising.except_bind_eq_ok.mpr ⟨(), checkOutput_eq_ok.mpr ⟨second, free _ (.inr rfl)⟩,
        assigned first second⟩⟩

/-- The lanes of a block after a connection. -/
theorem setLanes_getElem? (block : UBlock) {c : SectorConnection} (first : c.outSector < 32)
    (second : c.lane < 32) (output : Nat) : (block.setLanes c first second).outputs[output]? =
      if output = c.outSector ∨ output = c.lane then some (some c.inSector)
      else block.outputs[output]? := by
  -- The two lanes of a connection may be one.
  simp only [setLanes, getElem?_set]
  grind

/-- What a block holds after a connection that does not clash with what it held. -/
theorem held_setLanes {block : UBlock} {c : SectorConnection} (first : c.outSector < 32)
    (second : c.lane < 32) (clear : ∀ held ∈ block.held, ¬EntityKind.uBlock.Clash held c) :
    (block.setLanes c first second).held = block.held ∪ EntityKind.uBlock.adds c := by
  ext found
  constructor
  · rintro ⟨output, input, there, rfl⟩
    rw [setLanes_getElem?] at there
    split at there
    · rename_i place
      cases there
      rcases place with rfl | rfl
      · exact .inr (.inl rfl)
      · exact .inr (.inr rfl)
    · exact .inl ⟨output, input, there, rfl⟩
  · rintro (⟨output, input, there, rfl⟩ | rfl | rfl)
    · refine ⟨output, input, ?_, rfl⟩
      rw [setLanes_getElem?]
      split
      · -- A lane that is set once more carries this input already.
        rename_i place
        by_contra other
        exact clear _ ⟨output, input, there, rfl⟩ ⟨place, fun same => other (by rw [same])⟩
      · exact there
    · exact ⟨c.outSector, c.inSector, by simp [setLanes_getElem?], rfl⟩
    · exact ⟨c.lane, c.inSector, by simp [setLanes_getElem?], rfl⟩

/-- Connections are additions, refused where a lane carries another input. -/
theorem connectSector_law : Guarded.Law held EntityKind.uBlock.adds
    (fun c => c.outSector < 32 ∧ c.lane < 32) EntityKind.uBlock.Clash connectSector where
  accepts := by
    intro block c
    unfold Accepts
    simp only [connectSector_eq_ok]
    exact ⟨fun ⟨_, first, second, clear, _⟩ => ⟨⟨first, second⟩, clear⟩,
      fun ⟨⟨first, second⟩, clear⟩ => ⟨_, first, second, clear, rfl⟩⟩
  grows := by
    intro block block' c connected
    obtain ⟨first, second, clear, rfl⟩ := connectSector_eq_ok.mp connected
    exact held_setLanes first second clear
  idle := by
    intro block block' c connected there
    obtain ⟨first, second, clear, rfl⟩ := connectSector_eq_ok.mp connected
    have carried : ∀ {output}, Held.connected output c.inSector ∈ block.held →
        block.outputs[output]? = some (some c.inSector) := by
      rintro output ⟨_, _, there, same⟩
      cases same
      exact there
    have same : (block.setLanes c first second).outputs = block.outputs := by
      refine ext_getElem? fun output => ?_
      rw [setLanes_getElem?]
      split
      · rename_i place
        rcases place with rfl | rfl
        · exact (carried (there (.inl rfl))).symm
        · exact (carried (there (.inr rfl))).symm
      · rfl
    calc block.setLanes c first second
        = { block with outputs := (block.setLanes c first second).outputs } := rfl
      _ = block := by rw [same]
  own := by
    rintro c _ (rfl | rfl) ⟨-, other⟩ <;> exact other rfl
  symm := by
    intro a b clear
    -- If the two share a lane, then they have the same input.
    have shared : ∀ output, output = a.outSector ∨ output = a.lane →
        output = b.outSector ∨ output = b.lane → a.inSector = b.inSector := by
      intro output own other
      by_contra different
      refine clear (.connected output a.inSector) ?_ ⟨other, different⟩
      rcases own with rfl | rfl
      · exact .inl rfl
      · exact .inr rfl
    rintro _ (rfl | rfl) ⟨place, different⟩
    · exact different (shared _ place (.inl rfl)).symm
    · exact different (shared _ place (.inr rfl)).symm

/-- A selection gives the lanes of a block what it lists last for them. -/
theorem held_selected {block block' : UBlock} {constant : Wire.ConstantConfig}
    {magnitude : Wire.Magnitude} {connections : List Wire.SelectConnection}
    (selected : block.take (.selectConfig constant magnitude connections) = .ok block') :
    block'.held = EntityKind.uBlock.leaves (.selectConfig constant magnitude connections) := by
  obtain ⟨outputs, ran, rfl⟩ := Raising.except_map_eq_ok.mp selected
  -- Every lane is set by the last connection that names it.
  have lanes : ∀ (output : Nat) (inside : output < 32), outputs[output] =
      (connections.reverse.find? fun connection => connection.output = output).map
        fun connection => connection.input := by
    intro output inside
    rw [assigns_getElem? ran output inside]
    cases connections.reverse.find? fun connection => connection.output = output <;> simp
  -- The payload was accepted, so that its outputs are lanes.
  have place : ∀ {output : Nat} {entry : Wire.SelectConnection},
      (connections.reverse.find? fun connection => connection.output = output) = some entry →
        entry.output = output ∧ output < 32 := by
    intro output entry found
    have same : entry.output = output := by simpa using List.find?_some found
    have listed : entry ∈ connections := List.mem_reverse.mp (List.mem_of_find?_eq_some found)
    exact ⟨same, same ▸ assigns_accepts.mp ⟨_, ran⟩ entry listed⟩
  ext found
  constructor
  · rintro ⟨output, input, there, rfl⟩
    obtain ⟨inside, carried⟩ := Vector.getElem?_eq_some_iff.mp there
    rw [lanes output inside] at carried
    obtain ⟨entry, last, rfl⟩ := Option.map_eq_some_iff.mp carried
    obtain ⟨rfl, -⟩ := place last
    exact ⟨entry, last, rfl⟩
  · rintro ⟨entry, last, rfl⟩
    obtain ⟨-, inside⟩ := place last
    refine ⟨entry.output, entry.input, ?_, rfl⟩
    rw [Vector.getElem?_eq_some_iff]
    exact ⟨inside, by rw [lanes _ inside, last]; rfl⟩

/-- Sums are refused, whatever they are. -/
theorem take_sums (block block' : UBlock) (connections : List Wire.SumConnection)
    (upscales : List Wire.Upscale) :
    block.take (.sumConfig connections upscales) ≠ .ok block' := by
  intro taken
  obtain ⟨passed, checked, -⟩ := Raising.except_map_eq_ok.mp taken
  -- The outputs are there to be replaced, but the upscaling is missing.
  simp only [EntityKind.takeStray, if_true] at checked
  split at checked <;> cases checked

/-- What is held after the outputs have been replaced is what the payload leaves. -/
theorem held_rebuilt {block block' : UBlock} {payload : Wire.Payload} (rebuilt : payload.rebuilds = true)
    (taken : block.take payload = .ok block') : block'.held = EntityKind.uBlock.leaves payload := by
  -- A selection replaces the sums, and sums are assigned one by one.
  cases payload with
  | selectConfig constant magnitude connections => exact held_selected taken
  | sumConfig connections upscales => exact absurd taken (take_sums block block' connections upscales)
  | _ => cases rebuilt

/-- A run of payloads changes nothing the second time unless early connections meet the last outputs. -/
theorem take_twice_iff {block block' : UBlock} {payloads : List Wire.Payload}
    (ran : payloads.foldlM take block = .ok block') :
    payloads.foldlM take block' = .ok block' ↔ EntityKind.uBlock.Repeats payloads := by
  -- A payload that does not rebuild connects sectors one by one.
  have splits : ∀ payload : Wire.Payload, payload.rebuilds = false → ∀ block : UBlock,
      block.take payload = (EntityKind.uBlock.check payload).bind fun _ =>
        payload.connects.foldlM connectSector block := by
    intro payload kept block
    cases payload <;> first | rfl | cases kept
  -- A payload that rebuilds does not look at what was there.
  have anew : ∀ {payload : Wire.Payload}, payload.rebuilds = true → ∀ block block' : UBlock,
      block.take payload = block'.take payload := by
    intro payload rebuilt block block'
    cases payload with
    | selectConfig constant magnitude connections => rfl
    | sumConfig connections upscales =>
      simp only [take]
      cases checked : EntityKind.uBlock.takeStray (.sumConfig connections upscales) with
      | error error => rfl
      | ok passed =>
        exact absurd (congrArg (Except.map fun _ => block) checked)
          (take_sums block block connections upscales)
    | _ => cases rebuilt
  rw [connectSector_law.twice_iff splits anew ran]
  refine forall₂_congr fun last behind => ?_
  constructor
  · intro clear found
    obtain ⟨rebuilt, -⟩ := sinceReset_eq_some found
    obtain ⟨middle, taken, -⟩ := (connectSector_law.resetting splits anew).run_since found ran block
    rw [← held_rebuilt rebuilt taken]
    exact clear middle found taken
  · intro clear middle found taken
    rw [held_rebuilt (sinceReset_eq_some found).1 taken]
    exact clear found

end UBlock

/-- The outputs of a summation block: the inputs they sum, or those that a selection gives them. -/
abbrev SumOutputs := Vector (Finset Nat) 16 ⊕ Vector (Option Int) 16

namespace SumOutputs

/-- The summation block with these outputs. -/
def block (outputs : SumOutputs) (upscaling : Vector Bool 32) : EntityState :=
  match outputs with
  | .inl sums => .typed (.iBlock ⟨sums, upscaling⟩)
  | .inr selection => .selected selection upscaling

/-- What the outputs hold. -/
def held : SumOutputs → Set Held
  | .inl sums => {held | ∃ (output : Nat) (inputs : Finset Nat), sums[output]? = some inputs ∧
    ∃ input ∈ inputs, held = .connected output input}
  | .inr _ => {.selection}

/-- Make a connection. -/
def connectSector (outputs : SumOutputs) (c : SectorConnection) : Except PyError SumOutputs :=
  match outputs with
  -- The upscaling is not looked at.
  | .inl sums => (IBlock.connectSector ⟨sums, Vector.replicate 32 false⟩ c).map fun block =>
    .inl block.outputs
  | .inr selection => .error (EntityState.selectedError selection c.lane)

/-- Make what a payload does to the outputs of a summation block. -/
def take (outputs : SumOutputs) (payload : Wire.Payload) : Except PyError SumOutputs :=
  match payload with
  | .sumConfig connections _ =>
    (connections.foldlM (fun current connection =>
      assign Python.assignmentError current connection.output connection.inputs.toFinset)
      (Vector.replicate 16 ∅)).map .inl
  | .selectConfig _ _ connections => (EntityState.selection connections).map .inr
  | .bplSwitchConfig muxes => (sectorConnections muxes).foldlM connectSector outputs
  | other => (EntityKind.iBlock.takeStray other).map fun _ => outputs

/-- Make what a payload does to the upscaling of a summation block. -/
def upscale (upscaling : Vector Bool 32) (payload : Wire.Payload) : Except PyError (Vector Bool 32) :=
  match payload with
  | .sumConfig _ upscales =>
    upscales.foldlM (fun current upscale =>
      assign Python.assignmentError current upscale.lane upscale.enabled) (Vector.replicate 32 false)
  | _ => .ok upscaling

/-- A connection on a block is made on its outputs. -/
theorem connectSector_whole (sums : Vector (Finset Nat) 16) (upscaling : Vector Bool 32)
    (c : SectorConnection) : IBlock.connectSector ⟨sums, upscaling⟩ c =
      (IBlock.connectSector ⟨sums, Vector.replicate 32 false⟩ c).map fun block =>
        ⟨block.outputs, upscaling⟩ := by
  -- Which other outputs sum the inputs does not depend on the upscaling.
  have same : IBlock.otherOutput ⟨sums, upscaling⟩ =
      IBlock.otherOutput ⟨sums, Vector.replicate 32 false⟩ := rfl
  simp only [IBlock.connectSector, IBlock.connect, same]
  split
  · rfl
  · cases Python.subscript 16 (c.lane : Int) <;> rfl

/-- Connections on a block are made on its outputs. -/
theorem connectSectors_whole (sums : Vector (Finset Nat) 16) (upscaling : Vector Bool 32)
    (cs : List SectorConnection) :
    (cs.foldlM IBlock.connectSector ⟨sums, upscaling⟩).map
        (fun block => EntityState.typed (.iBlock block)) =
      (cs.foldlM connectSector (.inl sums)).map fun outputs => outputs.block upscaling := by
  -- Both runs are one of the sums alone.
  let part : Vector (Finset Nat) 16 → SectorConnection → Except PyError (Vector (Finset Nat) 16) :=
    fun sums c => (IBlock.connectSector ⟨sums, Vector.replicate 32 false⟩ c).map IBlock.outputs
  have blocks : cs.foldlM IBlock.connectSector ⟨sums, upscaling⟩ =
      (cs.foldlM part sums).map fun sums => ⟨sums, upscaling⟩ := by
    refine foldlM_whole (fun sums => (⟨sums, upscaling⟩ : IBlock)) (fun sums c => ?_) cs sums
    rw [connectSector_whole, Raising.except_map_map]
  have outputs : cs.foldlM connectSector (.inl sums) = (cs.foldlM part sums).map .inl := by
    refine foldlM_whole Sum.inl (fun sums c => ?_) cs sums
    rw [connectSector, Raising.except_map_map]
  rw [blocks, outputs, Raising.except_map_map, Raising.except_map_map]
  rfl

/-- A payload changes the outputs and the upscaling of a summation block, each by itself. -/
theorem configure_block (outputs : SumOutputs) (upscaling : Vector Bool 32) (payload : Wire.Payload) :
    (outputs.block upscaling).configure payload =
      (both take upscale (outputs, upscaling) payload).map fun changed => changed.1.block changed.2 := by
  have kept : upscale upscaling payload = .ok upscaling →
      (both take upscale (outputs, upscaling) payload).map (fun changed => changed.1.block changed.2) =
        (outputs.take payload).map fun outputs => outputs.block upscaling := by
    intro same
    simp only [both, same]
    cases outputs.take payload <;> rfl
  cases payload with
  | sumConfig connections upscales =>
    -- Sums are read in both cases as if the block had been made anew.
    have anew : (outputs.block upscaling).configure (.sumConfig connections upscales) =
        (IBlock.new.deserializeConfiguration connections upscales).map fun block =>
          .typed (.iBlock block) := by
      cases outputs <;> rfl
    rw [anew, IBlock.deserializeConfiguration]
    simp only [both, take, upscale]
    cases connections.foldlM (fun current connection =>
        assign Python.assignmentError current connection.output connection.inputs.toFinset)
        (Vector.replicate 16 ∅) with
    | error error => rfl
    | ok sums =>
      cases upscales.foldlM (fun current upscale =>
        assign Python.assignmentError current upscale.lane upscale.enabled)
        (Vector.replicate 32 false) <;> rfl
  | selectConfig constant magnitude connections =>
    rw [kept rfl, take, Raising.except_map_map]
    cases outputs <;> rfl
  | bplSwitchConfig muxes =>
    rw [kept rfl, take]
    cases outputs with
    | inl sums => exact connectSectors_whole sums upscaling (sectorConnections muxes)
    | inr selection =>
      -- The first connection on a selection raises.
      simp only [block, EntityState.configure]
      cases sectorConnections muxes <;> rfl
  | _ =>
    rw [kept rfl, take, Raising.except_map_map] <;> cases outputs <;>
      first | rfl | (intros; contradiction)

/-- An output that exists is subscripted by its number. -/
theorem subscript_output {output : Nat} (inside : output < 16) :
    Python.subscript 16 (output : Int) = .ok ⟨output, inside⟩ := by
  rw [Python.subscript_of_bounds (by omega)]
  simp

/-- No other output sums one of the inputs of a connection. -/
theorem otherOutput_eq_none {sums : Vector (Finset Nat) 16} {upscaling : Vector Bool 32}
    {c : SectorConnection} :
    IBlock.otherOutput ⟨sums, upscaling⟩ {c.inSector.toNat, c.outSector} c.lane = none ↔
      ∀ taken ∈ held (.inl sums), ¬EntityKind.iBlock.Clash taken c := by
  simp only [IBlock.otherOutput, List.find?_eq_none, List.mem_finRange, true_implies,
    decide_eq_true_eq, not_and, Finset.not_nonempty_iff_eq_empty]
  constructor
  · rintro apart _ ⟨output, inputs, there, input, summed, rfl⟩ ⟨other, among⟩
    obtain ⟨inside, rfl⟩ := Vector.getElem?_eq_some_iff.mp there
    have disjoint := apart ⟨output, inside⟩ (by simpa using other)
    -- The input is summed by the other output, and is one of the connection.
    have common : input ∈ sums[output] ∩ {c.inSector.toNat, c.outSector} := by
      simp only [Finset.mem_inter, Finset.mem_insert, Finset.mem_singleton]
      exact ⟨summed, by omega⟩
    rw [Vector.get_eq_getElem] at disjoint
    simp [disjoint] at common
  · intro clear other different
    refine Finset.eq_empty_of_forall_notMem fun input shared => ?_
    obtain ⟨summed, among⟩ := Finset.mem_inter.mp shared
    simp only [Finset.mem_insert, Finset.mem_singleton] at among
    refine clear (.connected other.val input) ⟨other.val, sums.get other, ?_, input, summed, rfl⟩
      ⟨by omega, by omega⟩
    simp [Vector.get_eq_getElem]

/-- A connection is made if its output exists, and no other output sums one of its inputs. -/
theorem connectSector_eq_ok {outputs outputs' : SumOutputs} {c : SectorConnection} :
    outputs.connectSector c = .ok outputs' ↔ ∃ inside : c.lane < 16,
      (∀ taken ∈ outputs.held, ¬EntityKind.iBlock.Clash taken c) ∧ ∃ sums, outputs = .inl sums ∧
        outputs' = .inl (sums.set c.lane (sums[c.lane] ∪ {c.inSector.toNat, c.outSector})) := by
  -- A selection has no sums to connect to.
  cases outputs with
  | inr selection =>
    constructor
    · intro connected
      cases connected
    · rintro ⟨-, -, sums, same, -⟩
      cases same
  | inl sums =>
    have free := @otherOutput_eq_none sums (Vector.replicate 32 false) c
    rw [← free]
    constructor
    · intro connected
      obtain ⟨block, made, rfl⟩ := Raising.except_map_eq_ok.mp connected
      simp only [IBlock.connectSector, IBlock.connect, Bool.false_eq_true, if_false] at made
      split at made
      · cases made
      · rename_i clear
        obtain ⟨index, position, made⟩ := Raising.except_bind_eq_ok.mp made
        cases made
        by_cases inside : c.lane < 16
        · rw [subscript_output inside] at position
          cases position
          exact ⟨inside, clear, sums, rfl, rfl⟩
        · have outside : ¬((0 : Int) ≤ c.lane ∧ (c.lane : Int) < (16 : Nat)) := by omega
          have behind : ¬(-(16 : Nat) ≤ (c.lane : Int) ∧ (c.lane : Int) < 0) := by omega
          rw [Python.subscript, dif_neg outside, dif_neg behind] at position
          cases position
    · rintro ⟨inside, clear, _, same, rfl⟩
      cases same
      simp only [connectSector, IBlock.connectSector, IBlock.connect, Bool.false_eq_true, if_false,
        clear, subscript_output inside]
      rfl

/-- What is held after a connection. -/
theorem held_set {sums : Vector (Finset Nat) 16} {c : SectorConnection} (inside : c.lane < 16) :
    held (.inl (sums.set c.lane (sums[c.lane] ∪ {c.inSector.toNat, c.outSector}))) =
      held (.inl sums) ∪ EntityKind.iBlock.adds c := by
  ext found
  constructor
  · rintro ⟨output, inputs, there, input, summed, rfl⟩
    rw [getElem?_set] at there
    split at there
    · rename_i own
      cases there
      subst own
      simp only [Finset.mem_union, Finset.mem_insert, Finset.mem_singleton] at summed
      obtain old | rfl | rfl := summed
      · exact .inl ⟨c.lane, sums[c.lane], by simp [inside], input, old, rfl⟩
      · exact .inr (.inl rfl)
      · exact .inr (.inr rfl)
    · exact .inl ⟨output, inputs, there, input, summed, rfl⟩
  -- Whatever the sum of this output holds is held.
  · have grown : ∀ {input}, input ∈ sums[c.lane] ∪ {c.inSector.toNat, c.outSector} →
        Held.connected c.lane (input : Nat) ∈
          held (.inl (sums.set c.lane (sums[c.lane] ∪ {c.inSector.toNat, c.outSector}))) := by
      intro input summed
      exact ⟨c.lane, _, by simp [inside], input, summed, rfl⟩
    rintro (⟨output, inputs, there, input, summed, rfl⟩ | rfl | rfl)
    · by_cases own : output = c.lane
      · subst own
        obtain ⟨_, rfl⟩ := Vector.getElem?_eq_some_iff.mp there
        exact grown (Finset.mem_union_left _ summed)
      · refine ⟨output, inputs, ?_, input, summed, rfl⟩
        rw [getElem?_set, if_neg own]
        exact there
    · exact grown (by simp)
    · exact grown (by simp)

/-- Connections are additions, refused where another output sums one of the inputs. -/
theorem connectSector_law : Guarded.Law held EntityKind.iBlock.adds (fun c => c.lane < 16)
    EntityKind.iBlock.Clash connectSector where
  accepts := by
    intro outputs c
    unfold Accepts
    simp only [connectSector_eq_ok]
    constructor
    · rintro ⟨_, inside, clear, -⟩
      exact ⟨inside, clear⟩
    · rintro ⟨inside, clear⟩
      cases outputs with
      | inl sums => exact ⟨_, inside, clear, sums, rfl, rfl⟩
      | inr selection => exact absurd trivial (clear .selection rfl)
  grows := by
    intro outputs outputs' c connected
    obtain ⟨inside, -, sums, rfl, rfl⟩ := connectSector_eq_ok.mp connected
    exact held_set inside
  idle := by
    intro outputs outputs' c connected there
    obtain ⟨inside, -, sums, rfl, rfl⟩ := connectSector_eq_ok.mp connected
    have summed : ∀ {input : Nat}, Held.connected c.lane input ∈ held (.inl sums) →
        input ∈ sums[c.lane] := by
      rintro input ⟨_, inputs, held, number, among, same⟩
      simp only [Held.connected.injEq, Nat.cast_inj] at same
      obtain ⟨rfl, rfl⟩ := same
      obtain ⟨_, rfl⟩ := Vector.getElem?_eq_some_iff.mp held
      exact among
    have known : ({c.inSector.toNat, c.outSector} : Finset Nat) ⊆ sums[c.lane] := by
      intro input among
      simp only [Finset.mem_insert, Finset.mem_singleton] at among
      rcases among with rfl | rfl
      · exact summed (there (.inl rfl))
      · exact summed (there (.inr rfl))
    rw [Finset.union_eq_left.mpr known, Vector.set_getElem_self]
  own := by
    rintro c _ (rfl | rfl) ⟨other, -⟩ <;> exact other rfl
  symm := by
    intro a b clear
    -- Two connections with a common input have the same output.
    have shared : ∀ input : Int, (input = a.inSector.toNat ∨ input = a.outSector) →
        (input = b.inSector.toNat ∨ input = b.outSector) → a.lane = b.lane := by
      intro input own other
      by_contra different
      refine clear (.connected a.lane input) ?_ ⟨different, other⟩
      rcases own with rfl | rfl
      · exact .inl rfl
      · exact .inr rfl
    rintro _ (rfl | rfl) ⟨different, among⟩
    · exact different (shared _ among (.inl rfl)).symm
    · exact different (shared _ among (.inr rfl)).symm

/-- What is held after the outputs have been replaced is what the payload leaves. -/
theorem held_rebuilt {outputs outputs' : SumOutputs} {payload : Wire.Payload}
    (rebuilt : payload.rebuilds = true) (taken : outputs.take payload = .ok outputs') :
    outputs'.held = EntityKind.iBlock.leaves payload := by
  cases payload with
  | selectConfig constant magnitude connections =>
    obtain ⟨selection, -, rfl⟩ := Raising.except_map_eq_ok.mp taken
    rfl
  | sumConfig connections upscales =>
    obtain ⟨sums, ran, rfl⟩ := Raising.except_map_eq_ok.mp taken
    have listed : ∀ {output : Nat} {entry : Wire.SumConnection},
        (connections.reverse.find? fun connection => connection.output = output) = some entry →
          entry.output = output ∧ output < 16 := by
      intro output entry found
      have same : entry.output = output := by simpa using List.find?_some found
      have member : entry ∈ connections := List.mem_reverse.mp (List.mem_of_find?_eq_some found)
      exact ⟨same, same ▸ assigns_accepts.mp ⟨_, ran⟩ entry member⟩
    ext found
    constructor
    · rintro ⟨output, inputs, there, input, summed, rfl⟩
      obtain ⟨inside, rfl⟩ := Vector.getElem?_eq_some_iff.mp there
      rw [assigns_getElem? ran output inside] at summed
      cases last : connections.reverse.find? fun connection => connection.output = output with
      | none => simp [last] at summed
      | some entry =>
        obtain ⟨rfl, -⟩ := listed last
        exact ⟨entry, last, input, by simpa [last] using summed, rfl⟩
    · rintro ⟨entry, last, input, summed, rfl⟩
      obtain ⟨-, inside⟩ := listed last
      refine ⟨entry.output, sums[entry.output], by simp [inside], input, ?_, rfl⟩
      rw [assigns_getElem? ran entry.output inside, last]
      simpa using summed
  | _ => cases rebuilt

/-- A run of payloads changes nothing the second time unless early connections meet the last outputs. -/
theorem take_twice_iff {outputs outputs' : SumOutputs} {payloads : List Wire.Payload}
    (ran : payloads.foldlM take outputs = .ok outputs') :
    payloads.foldlM take outputs' = .ok outputs' ↔ EntityKind.iBlock.Repeats payloads := by
  -- As for the U-block: payloads that rebuild, and those that connect sectors.
  have splits : ∀ payload : Wire.Payload, payload.rebuilds = false → ∀ outputs : SumOutputs,
      outputs.take payload = (EntityKind.iBlock.check payload).bind fun _ =>
        payload.connects.foldlM connectSector outputs := by
    intro payload kept outputs
    cases payload <;> first | rfl | cases kept
  have anew : ∀ {payload : Wire.Payload}, payload.rebuilds = true → ∀ outputs outputs' : SumOutputs,
      outputs.take payload = outputs'.take payload := by
    intro payload rebuilt outputs outputs'
    cases payload <;> first | rfl | cases rebuilt
  rw [connectSector_law.twice_iff splits anew ran]
  refine forall₂_congr fun last behind => ?_
  constructor
  · intro clear found
    obtain ⟨rebuilt, -⟩ := sinceReset_eq_some found
    obtain ⟨middle, taken, -⟩ := (connectSector_law.resetting splits anew).run_since found ran outputs
    rw [← held_rebuilt rebuilt taken]
    exact clear middle found taken
  · intro clear middle found taken
    rw [held_rebuilt (sinceReset_eq_some found).1 taken]
    exact clear found

/-- The upscaling is replaced with the sums, or not at all. -/
theorem upscale_twice {upscaling upscaling' : Vector Bool 32} {payloads : List Wire.Payload}
    (ran : payloads.foldlM upscale upscaling = .ok upscaling') :
    payloads.foldlM upscale upscaling' = .ok upscaling' := by
  have law := Law.ofConstant fun upscales : List Wire.Upscale =>
    upscales.foldlM (fun current upscale =>
      assign Python.assignmentError current upscale.lane upscale.enabled) (Vector.replicate 32 false)
  refine law.twice_part id upscaling (fun payload => ?_) ran
  -- Only sums set the upscaling, and they set all of it.
  cases payload with
  | sumConfig connections upscales =>
    refine .inl ⟨upscales, fun _ => ?_⟩
    simp only [upscale]
    cases upscales.foldlM (fun current upscale =>
      assign Python.assignmentError current upscale.lane upscale.enabled)
      (Vector.replicate 32 false) <;> rfl
  | _ => exact .inr (.inl fun _ => rfl)

/-- The outputs and the upscaling can be told from the block. -/
theorem block_injective {outputs outputs' : SumOutputs} {upscaling upscaling' : Vector Bool 32}
    (same : outputs.block upscaling = outputs'.block upscaling') :
    outputs = outputs' ∧ upscaling = upscaling' := by
  cases outputs <;> cases outputs' <;> cases same <;> exact ⟨rfl, rfl⟩

/-- A run of payloads changes nothing the second time unless early connections meet the last outputs. -/
theorem block_twice_iff {outputs : SumOutputs} {upscaling : Vector Bool 32}
    {payloads : List Wire.Payload} {s : EntityState}
    (ran : payloads.foldlM EntityState.configure (outputs.block upscaling) = .ok s) :
    payloads.foldlM EntityState.configure s = .ok s ↔ EntityKind.iBlock.Repeats payloads := by
  -- The sums and the upscaling are configured side by side.
  have whole : ∀ (p : SumOutputs × Vector Bool 32), payloads.foldlM EntityState.configure (p.1.block p.2) =
      (payloads.foldlM (both take upscale) p).map fun p => p.1.block p.2 :=
    foldlM_whole (fun p : SumOutputs × Vector Bool 32 => p.1.block p.2)
      (fun p payload => configure_block p.1 p.2 payload) payloads
  rw [whole (outputs, upscaling)] at ran
  obtain ⟨⟨outputs', upscaling'⟩, inside, rfl⟩ := Raising.except_map_eq_ok.mp ran
  obtain ⟨summed, scaled⟩ := both_run.mp inside
  rw [← take_twice_iff summed, whole (outputs', upscaling')]
  constructor
  · intro again
    obtain ⟨p, inside, same⟩ := Raising.except_map_eq_ok.mp again
    obtain ⟨rfl, rfl⟩ := block_injective same
    exact (both_run.mp inside).1
  · intro again
    exact Raising.except_map_eq_ok.mpr ⟨_, both_run.mpr ⟨again, upscale_twice scaled⟩, rfl⟩

end SumOutputs

namespace EntityState

/-- A run of payloads on one entity changes nothing the second time exactly if it repeats. -/
theorem configure_twice_iff {s t : EntityState} {payloads : List Wire.Payload}
    (ran : payloads.foldlM configure s = .ok t) :
    payloads.foldlM configure t = .ok t ↔ s.kind.Repeats payloads := by
  -- Only in selection and summation blocks can anything clash.
  have plain : ∀ {kind : EntityKind}, (∀ held c, ¬kind.Clash held c) → kind.Repeats payloads :=
    fun never _ _ _ early _ held _ => never held early
  rcases s with (config | _ | (_ | block | _ | block) | block | block | block | block | block) |
      ⟨outputs, upscaling⟩
  case typed.carrier => exact iff_of_true (carrier_twice ran) (plain fun _ _ clash => clash)
  case typed.mBlock.int => exact iff_of_true (mInt_twice ran) (plain fun _ _ clash => clash)
  case typed.mBlock.mdr => exact iff_of_true (mMDR_twice ran) (plain fun _ _ clash => clash)
  case typed.cBlock => exact iff_of_true (cBlock_twice ran) (plain fun _ _ clash => clash)
  case typed.tBlock => exact iff_of_true (tBlock_twice ran) (plain fun _ _ clash => clash)
  case typed.bplTBlock => exact iff_of_true (bplTBlock_twice ran) (plain fun _ _ clash => clash)
  case typed.uBlock =>
    have whole := foldlM_whole (fun block => typed (.uBlock block)) UBlock.take_configure payloads
    rw [whole] at ran
    obtain ⟨block', inside, rfl⟩ := Raising.except_map_eq_ok.mp ran
    rw [whole, show (typed (.uBlock block)).kind = .uBlock from rfl, ← UBlock.take_twice_iff inside]
    constructor
    · intro again
      obtain ⟨_, inside, same⟩ := Raising.except_map_eq_ok.mp again
      cases same
      exact inside
    · intro again
      rw [again]
      rfl
  case typed.iBlock => exact @SumOutputs.block_twice_iff (.inl block.outputs) _ _ _ ran
  case selected => exact @SumOutputs.block_twice_iff (.inr outputs) _ _ _ ran
  all_goals
    refine iff_of_true (unused_twice (fun kind uses => ?_) ran) (plain fun _ _ clash => clash)
    cases kind <;> exact uses

end EntityState

end Pybrid
