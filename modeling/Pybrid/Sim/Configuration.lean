import Pybrid.Library.Numerals
import Pybrid.Redac.SpecificationRoundTrip

/-! The configuration of a simulator, sent in one item and applied to another simulator. -/

namespace Pybrid

/-- A plugin with its type and label, and the parameters it is constructed with. -/
structure ACLPlugin where
  plugin : String
  label : String
  parameters : List ℚ
  deriving DecidableEq, Repr

/-- A pin of a plugin that is bound to a signal of the circuit. -/
structure ACLBind where
  acl : Int
  plugin : String
  pin : Int
  deriving DecidableEq, Repr

/-- The plugins, what they put into the circuit, and what they take out of it. -/
structure ACLConfig where
  plugins : List ACLPlugin
  inputs : List ACLBind
  outputs : List ACLBind
  deriving DecidableEq, Repr

/-- What only concerns runs in the simulator. -/
structure SimConfig where
  withLimits : Bool
  k0 : Option Int
  onlyModuleSinks : Bool
  aclConfig : Option ACLConfig
  deriving DecidableEq, Repr

/-- The configuration of a simulator that is not configured. -/
def SimConfig.default : SimConfig where
  withLimits := true
  k0 := some 10000
  onlyModuleSinks := false
  aclConfig := none

namespace Wire

/-- Which side a plug is on. -/
inductive ACLPlugKind where
  | device
  | plugin
  deriving DecidableEq, Repr

/-- One end of a wire. -/
structure ACLPlug where
  entityId : String
  kind : ACLPlugKind
  deriving DecidableEq, Repr

/-- A wire; either end may be missing. -/
structure ACLWire where
  source : Option ACLPlug
  target : Option ACLPlug
  deriving DecidableEq, Repr

/-- Plugins and wires; the parameters are floats of 32 bits. -/
structure ACLConfig where
  plugins : List ACLPlugin
  wires : List ACLWire
  deriving DecidableEq, Repr

/-- The configuration of a simulator on the wire. -/
structure SimConfig where
  k0 : Option Nat
  withLimits : Bool
  onlyModuleSinks : Bool
  aclConfig : Option ACLConfig
  deriving DecidableEq, Repr

end Wire

namespace SimulatorSerializer

/-- The plug of a plugin's pin. -/
def plugPlugin (bind : ACLBind) : Wire.ACLPlug where
  entityId := "plugins/" ++ bind.plugin ++ "/" ++ bind.pin.repr
  kind := .plugin

/-- The plug of a port; the ports are assumed on the first cluster of the first carrier. -/
def plugDevice (bind : ACLBind) : Wire.ACLPlug where
  entityId := "00-00-00-00-00-00/0/" ++ (24 + bind.acl).repr
  kind := .device

/-- The plugins and the wires; `toFloat` stands for the rounding to 32-bit floats. -/
def serializeAcl (toFloat : ℚ → ℚ) (acl : ACLConfig) : Wire.ACLConfig where
  plugins := acl.plugins.map fun plugin =>
    { plugin with parameters := plugin.parameters.map toFloat }
  wires :=
    (acl.inputs.map fun bind => ⟨some (plugPlugin bind), some (plugDevice bind)⟩) ++
      acl.outputs.map fun bind => ⟨some (plugDevice bind), some (plugPlugin bind)⟩

/-- The `k0` as it is sent; zero counts as none. -/
def serializeK0 : Option Int → Except PyError (Option Nat)
  | none => pure none
  | some k0 => if k0 = 0 then pure none else some <$> toUint32 k0

/-- The configuration as it is sent. -/
def serializeConfiguration (toFloat : ℚ → ℚ) (simConfig : SimConfig) :
    Except PyError Wire.SimConfig := do
  let k0 ← serializeK0 simConfig.k0
  return {
    k0
    withLimits := simConfig.withLimits
    onlyModuleSinks := simConfig.onlyModuleSinks
    aclConfig := simConfig.aclConfig.map (serializeAcl toFloat) }

end SimulatorSerializer

namespace SimulatorDeserializer

/-- The parts between the slashes of a text. -/
def parts (text : String) : List String := (text.toList.splitOn '/').map String.ofList

/-- `int` of a text. -/
def parseInt (text : String) : Except PyError Int :=
  match Numerals.numeral (text.toList.map Char.toNat) with
  | some number => .ok number
  | none => .error ⟨.value, "invalid literal for int() with base 10: '" ++ text ++ "'"⟩

/-- What a wire is in the notation of the circuit. -/
inductive Binding where
  | input (bind : ACLBind)
  | output (bind : ACLBind)
  deriving DecidableEq, Repr

/-- The bound pins of the circuit's inputs. -/
def Binding.inputOf : Binding → Option ACLBind
  | .input bind => some bind
  | .output _ => none

/-- The bound pins of the circuit's outputs. -/
def Binding.outputOf : Binding → Option ACLBind
  | .input _ => none
  | .output bind => some bind

/-- The label of the plugin that a part of a path names; `source` is the path errors show. -/
def pluginName (plugins : List ACLPlugin) (part source : String) : Except PyError String :=
  match plugins.find? fun plugin => plugin.label = part with
  | some plugin =>
    -- An empty label counts as no plugin.
    if plugin.label = "" then
      .error ⟨.exception, "Plugin from path " ++ source ++ " not found!"⟩
    else .ok plugin.label
  | none => .error ⟨.exception, "Plugin from path " ++ source ++ " not found!"⟩

/-- Convert a wire back, by the kinds of its ends. -/
def bindingOf (plugins : List ACLPlugin) (wire : Wire.ACLWire) : Except PyError Binding :=
  match wire.source, wire.target with
  | some ⟨source, .plugin⟩, some ⟨target, .device⟩ =>
    match parts source, parts target with
    | _ :: name :: pinPart :: _, _ :: _ :: aclPart :: _ => do
      let pin ← parseInt pinPart
      let port ← parseInt aclPart
      let plugin ← pluginName plugins name source
      return .input ⟨port - 24, plugin, pin⟩
    | _, _ => .error ⟨.exception, "Invalid path found in wire format!"⟩
  | some ⟨source, .device⟩, some ⟨target, .plugin⟩ =>
    match parts source, parts target with
    | _ :: _ :: aclPart :: _, _ :: name :: pinPart :: _ => do
      let port ← parseInt aclPart
      let pin ← parseInt pinPart
      -- The error shows the source here, too, which is the device.
      let plugin ← pluginName plugins name source
      return .output ⟨port - 24, plugin, pin⟩
    | _, _ => .error ⟨.exception, "Invalid path found in wire format!"⟩
  | _, _ =>
    .error ⟨.exception, "DEVICE <> DEVICE connections are not supported by the simulator."⟩

/-- Convert plugins and wires back. -/
def deserializeAcl (config : Wire.ACLConfig) : Except PyError ACLConfig := do
  let bindings ← config.wires.mapM (bindingOf config.plugins)
  return {
    plugins := config.plugins
    inputs := bindings.filterMap Binding.inputOf
    outputs := bindings.filterMap Binding.outputOf }

/-- Apply a received configuration to that of the simulator, which is registered at the root path. -/
def deserializeConfiguration (config : Wire.SimConfig) : EStateM PyError SimConfig Unit := do
  -- The basic settings are changed first, and `k0` is not among them.
  modify fun entity =>
    { entity with withLimits := config.withLimits, onlyModuleSinks := config.onlyModuleSinks }
  match config.aclConfig with
  | none => pure ()
  | some acl =>
    match deserializeAcl acl with
    | .error error => throw error
    | .ok acl => modify fun entity => { entity with aclConfig := some acl }

end SimulatorDeserializer

namespace SimulatorRoundTrip

open SimulatorSerializer SimulatorDeserializer

/-- No slash is written into a number. -/
theorem slash_not_mem_repr (number : Int) : '/' ∉ number.repr.toList := by
  -- A number is spelled in digits and perhaps a sign.
  have digits : ∀ n : Nat, '/' ∉ n.repr.toList := by
    intro n member
    rw [Nat.toList_repr] at member
    exact absurd (Nat.isDigit_of_mem_toDigits (by decide) (by decide) member) (by decide)
  rw [Int.repr_eq_if]
  split
  · exact digits _
  · simp only [String.toList_append, List.mem_append, not_or]
    exact ⟨by decide, digits _⟩

/-- A text splits at a slash. -/
theorem parts_append_slash (front back : String) :
    parts (front ++ "/" ++ back) = parts front ++ parts back := by
  -- The text is cut at this slash, among others.
  have spelled : (front ++ "/" ++ back).toList = front.toList ++ '/' :: back.toList := by
    simp [String.toList_append]
  rw [parts, spelled, List.splitOn_append_cons_self, List.map_append]
  rfl

/-- A text without a slash is one part. -/
theorem parts_of_no_slash {text : String} (whole : '/' ∉ text.toList) : parts text = [text] := by
  rw [parts, List.splitOn_eq_singleton whole, List.map_singleton, String.ofList_toList]

/-- The parts of a device's path. -/
theorem parts_plugDevice (bind : ACLBind) :
    parts (plugDevice bind).entityId = ["00-00-00-00-00-00", "0", (24 + bind.acl).repr] := by
  -- The path of the device is fixed up to its last part.
  have front : parts "00-00-00-00-00-00/0" = ["00-00-00-00-00-00", "0"] := by decide
  have spelled : (plugDevice bind).entityId =
      "00-00-00-00-00-00/0" ++ "/" ++ (24 + bind.acl).repr := rfl
  rw [spelled, parts_append_slash, front, parts_of_no_slash (slash_not_mem_repr _)]
  rfl

/-- The parts of a plugin's path. -/
theorem parts_plugPlugin (bind : ACLBind) :
    parts (plugPlugin bind).entityId = "plugins" :: (parts bind.plugin ++ [bind.pin.repr]) := by
  -- The label may itself contain slashes, the pin does not.
  have spelled : (plugPlugin bind).entityId =
      "plugins" ++ "/" ++ bind.plugin ++ "/" ++ bind.pin.repr := rfl
  rw [spelled, parts_append_slash, parts_append_slash, parts_of_no_slash (slash_not_mem_repr _),
    parts_of_no_slash (by decide)]
  rfl

/-- A text with a slash has a first part that is shorter, and a second one. -/
theorem parts_of_slash {text : String} (cut : '/' ∈ text.toList) :
    ∃ name next later, parts text = name :: next :: later ∧ name ≠ text := by
  -- The first slash cuts off a part that is shorter than the text.
  obtain ⟨front, back, spelled, first⟩ := List.eq_append_cons_of_mem cut
  obtain ⟨next, later, more⟩ := List.exists_cons_of_ne_nil (List.splitOn_ne_nil '/' back)
  refine ⟨String.ofList front, String.ofList next, later.map String.ofList, ?_, ?_⟩
  · rw [parts, spelled, List.splitOn_append_cons_self_of_not_mem first, more]
    rfl
  · rintro rfl
    have longer := congrArg List.length spelled
    simp only [String.toList_ofList, List.length_append, List.length_cons] at longer
    omega

/-- A name is found for a part if it is the part, and the label of a plugin that is not empty. -/
theorem pluginName_eq_ok {plugins : List ACLPlugin} {part source name : String} :
    pluginName plugins part source = .ok name ↔
      (∃ plugin ∈ plugins, plugin.label = part) ∧ part ≠ "" ∧ name = part := by
  unfold pluginName
  -- An empty label passes for a plugin that was not found.
  cases found : plugins.find? fun plugin => plugin.label = part with
  | none =>
    have absent : ¬∃ plugin ∈ plugins, plugin.label = part := by
      simpa using List.find?_eq_none.mp found
    simp only [absent, false_and, reduceCtorEq]
  | some plugin =>
    have same : plugin.label = part := by simpa using List.find?_some found
    have declared : ∃ plugin ∈ plugins, plugin.label = part :=
      ⟨plugin, List.mem_of_find?_eq_some found, same⟩
    simp only [same, declared, true_and]
    split
    · rename_i empty
      simp only [empty, ne_eq, not_true_eq_false, false_and, reduceCtorEq]
    · rename_i labelled
      simp only [labelled, ne_eq, not_false_eq_true, true_and, Except.ok.injEq]
      exact eq_comm

/-- A number that was written is read. -/
theorem parseInt_repr (number : Int) : parseInt number.repr = .ok number := by
  simp only [parseInt, Numerals.numeral_repr]

/-- The wire of an input. -/
def inputWire (bind : ACLBind) : Wire.ACLWire := ⟨some (plugPlugin bind), some (plugDevice bind)⟩

/-- The wire of an output. -/
def outputWire (bind : ACLBind) : Wire.ACLWire := ⟨some (plugDevice bind), some (plugPlugin bind)⟩

/-- What can be read from the wire of a binding, in either direction. -/
def Reads (plugins : List ACLPlugin) (bind read : ACLBind) : Prop :=
  ∃ pinPart later,
    parts bind.plugin ++ [bind.pin.repr] = read.plugin :: pinPart :: later ∧
      parseInt pinPart = .ok read.pin ∧ read.acl = bind.acl ∧
      (∃ plugin ∈ plugins, plugin.label = read.plugin) ∧ read.plugin ≠ ""

variable {plugins : List ACLPlugin} {bind : ACLBind}

/-- The parts of a label and a pin are at least two. -/
theorem parts_label (bind : ACLBind) :
    ∃ name pinPart later, parts bind.plugin ++ [bind.pin.repr] = name :: pinPart :: later := by
  -- A name with slashes has several parts itself.
  by_cases cut : '/' ∈ bind.plugin.toList
  · obtain ⟨name, next, later, split, _⟩ := parts_of_slash cut
    exact ⟨name, next, later ++ [bind.pin.repr], by rw [split]; rfl⟩
  · exact ⟨bind.plugin, bind.pin.repr, [], by rw [parts_of_no_slash cut]; rfl⟩

/-- The wire of an input is read as an input. -/
theorem bindingOf_inputWire {binding : Binding} :
    bindingOf plugins (inputWire bind) = .ok binding ↔
      ∃ read, Reads plugins bind read ∧ binding = .input read := by
  obtain ⟨name, pinPart, later, split⟩ := parts_label bind
  have spelled : inputWire bind = ⟨some ⟨(plugPlugin bind).entityId, .plugin⟩,
      some ⟨(plugDevice bind).entityId, .device⟩⟩ := rfl
  simp only [spelled, bindingOf, Reads, parts_plugPlugin, parts_plugDevice, split, parseInt_repr,
    Raising.except_bind_eq_ok, Raising.except_pure_eq_ok, pluginName_eq_ok, List.cons.injEq,
    Except.ok.injEq]
  -- The lane is sent with 24 added, which is taken off again.
  constructor
  · rintro ⟨pin, number, _, rfl, plugin, ⟨declared, labelled, rfl⟩, rfl⟩
    refine ⟨⟨bind.acl, plugin, pin⟩,
      ⟨pinPart, later, ⟨rfl, rfl, rfl⟩, number, rfl, declared, labelled⟩, ?_⟩
    rw [add_sub_cancel_left]
  · rintro ⟨⟨_, _, pin⟩, ⟨_, _, ⟨rfl, rfl, rfl⟩, number, rfl, declared, labelled⟩, rfl⟩
    exact ⟨pin, number, _, rfl, _, ⟨declared, labelled, rfl⟩, by rw [add_sub_cancel_left]⟩

/-- The wire of an output is read as an output. -/
theorem bindingOf_outputWire {binding : Binding} :
    bindingOf plugins (outputWire bind) = .ok binding ↔
      ∃ read, Reads plugins bind read ∧ binding = .output read := by
  obtain ⟨name, pinPart, later, split⟩ := parts_label bind
  have spelled : outputWire bind = ⟨some ⟨(plugDevice bind).entityId, .device⟩,
      some ⟨(plugPlugin bind).entityId, .plugin⟩⟩ := rfl
  simp only [spelled, bindingOf, Reads, parts_plugPlugin, parts_plugDevice, split, parseInt_repr,
    Raising.except_bind_eq_ok, Raising.except_pure_eq_ok, pluginName_eq_ok, List.cons.injEq,
    Except.ok.injEq]
  -- The same with the two ends exchanged.
  constructor
  · rintro ⟨_, rfl, pin, number, plugin, ⟨declared, labelled, rfl⟩, rfl⟩
    refine ⟨⟨bind.acl, plugin, pin⟩,
      ⟨pinPart, later, ⟨rfl, rfl, rfl⟩, number, rfl, declared, labelled⟩, ?_⟩
    rw [add_sub_cancel_left]
  · rintro ⟨⟨_, _, pin⟩, ⟨_, _, ⟨rfl, rfl, rfl⟩, number, rfl, declared, labelled⟩, rfl⟩
    exact ⟨_, rfl, pin, number, _, ⟨declared, labelled, rfl⟩, by rw [add_sub_cancel_left]⟩

/-- A binding is read again exactly if the label of its plugin has no slash. -/
theorem reads_self_iff (declared : ∃ plugin ∈ plugins, plugin.label = bind.plugin)
    (labelled : bind.plugin ≠ "") : Reads plugins bind bind ↔ '/' ∉ bind.plugin.toList := by
  constructor
  · rintro ⟨pinPart, later, split, _⟩ cut
    -- The first part would be shorter than the label.
    obtain ⟨name, next, rest, first, shorter⟩ := parts_of_slash cut
    rw [first, List.cons_append, List.cons.injEq] at split
    exact shorter split.1
  · intro whole
    exact ⟨bind.pin.repr, [], by rw [parts_of_no_slash whole]; rfl, parseInt_repr _, rfl, declared,
      labelled⟩

/-- The wires of some bindings that are all read as one kind are read as that kind. -/
theorem mapM_wires {wire : ACLBind → Wire.ACLWire} {kind : ACLBind → Binding}
    (each : ∀ bind binding, bindingOf plugins (wire bind) = .ok binding ↔
      ∃ read, Reads plugins bind read ∧ binding = kind read)
    {binds : List ACLBind} {bindings : List Binding} :
    (binds.map wire).mapM (bindingOf plugins) = .ok bindings ↔
      ∃ reads, List.Forall₂ (Reads plugins) binds reads ∧ bindings = reads.map kind := by
  rw [Raising.mapM_eq_ok, List.forall₂_map_left_iff]
  simp only [each]
  constructor
  · intro all
    -- The induction is on the bindings read so far.
    induction all with
    | nil => exact ⟨[], .nil, rfl⟩
    | cons first _ ih =>
      obtain ⟨read, here, rfl⟩ := first
      obtain ⟨reads, later, rfl⟩ := ih
      exact ⟨read :: reads, .cons here later, rfl⟩
  · rintro ⟨reads, all, rfl⟩
    exact List.forall₂_map_right_iff.mpr (all.imp fun bind read here => ⟨read, here, rfl⟩)

/-- What the wires of inputs and outputs are read as. -/
theorem mapM_allWires {inputs outputs : List ACLBind} {bindings : List Binding} :
    (inputs.map inputWire ++ outputs.map outputWire).mapM (bindingOf plugins) = .ok bindings ↔
      ∃ ins outs, List.Forall₂ (Reads plugins) inputs ins ∧
        List.Forall₂ (Reads plugins) outputs outs ∧
        bindings = ins.map .input ++ outs.map .output := by
  rw [List.mapM_append]
  simp only [Raising.except_bind_eq_ok, Raising.except_pure_eq_ok,
    mapM_wires fun _ _ => bindingOf_inputWire, mapM_wires fun _ _ => bindingOf_outputWire]
  -- The inputs are sent before the outputs.
  constructor
  · rintro ⟨_, ⟨ins, first, rfl⟩, _, ⟨outs, second, rfl⟩, rfl⟩
    exact ⟨ins, outs, first, second, rfl⟩
  · rintro ⟨ins, outs, first, second, rfl⟩
    exact ⟨_, ⟨ins, first, rfl⟩, _, ⟨outs, second, rfl⟩, rfl⟩

/-- Inputs and outputs are told apart again. -/
theorem filterMap_bindings (ins outs : List ACLBind) :
    (ins.map Binding.input ++ outs.map Binding.output).filterMap Binding.inputOf = ins ∧
      (ins.map Binding.input ++ outs.map Binding.output).filterMap Binding.outputOf = outs := by
  simp only [List.filterMap_append, List.filterMap_map]
  -- Inputs are not read as outputs, nor outputs as inputs.
  constructor
  · simp [Function.comp_def, Binding.inputOf]
  · simp [Function.comp_def, Binding.outputOf]

/-- Every binding names a declared plugin by a label that is not empty. -/
def Declared (acl : ACLConfig) : Prop :=
  ∀ bind ∈ acl.inputs ++ acl.outputs,
    bind.plugin ≠ "" ∧ ∃ plugin ∈ acl.plugins, plugin.label = bind.plugin

/-- The parameters are 32-bit floats already, and no label in use has a slash. -/
def Transmissible (toFloat : ℚ → ℚ) (acl : ACLConfig) : Prop :=
  (∀ plugin ∈ acl.plugins, ∀ parameter ∈ plugin.parameters, toFloat parameter = parameter) ∧
    ∀ bind ∈ acl.inputs ++ acl.outputs, '/' ∉ bind.plugin.toList

/-- A list is mapped to itself if its elements are. -/
theorem map_eq_self_iff {α : Type} {change : α → α} {values : List α} :
    values.map change = values ↔ ∀ value ∈ values, change value = value := by
  have same : values.map change = values.map id ↔ ∀ value ∈ values, change value = id value :=
    List.map_inj_left
  simpa using same

/-- Plugins keep their parameters when these are 32-bit floats already. -/
theorem map_toFloat_eq_iff {toFloat : ℚ → ℚ} (plugins : List ACLPlugin) :
    (plugins.map fun plugin => { plugin with parameters := plugin.parameters.map toFloat }) =
      plugins ↔
    ∀ plugin ∈ plugins, ∀ parameter ∈ plugin.parameters, toFloat parameter = parameter := by
  -- A list that is mapped to itself keeps each of its elements.
  rw [map_eq_self_iff]
  refine forall₂_congr fun plugin _ => ?_
  rw [← map_eq_self_iff]
  constructor
  · exact fun same => congrArg ACLPlugin.parameters same
  · intro same
    rw [same]

/-- Plugins and bindings are restored exactly if they can be transmitted. -/
theorem deserializeAcl_serializeAcl_iff {toFloat : ℚ → ℚ} {acl : ACLConfig}
    (declared : Declared acl) :
    deserializeAcl (serializeAcl toFloat acl) = .ok acl ↔ Transmissible toFloat acl := by
  -- Every binding names a plugin that is sent.
  have labels : ∀ bind ∈ acl.inputs ++ acl.outputs, bind.plugin ≠ "" ∧
      ∃ plugin ∈ (serializeAcl toFloat acl).plugins, plugin.label = bind.plugin := by
    intro bind listed
    obtain ⟨labelled, plugin, known, same⟩ := declared bind listed
    exact ⟨labelled, _, List.mem_map_of_mem known, same⟩
  have wires : (serializeAcl toFloat acl).wires =
      acl.inputs.map inputWire ++ acl.outputs.map outputWire := rfl
  rw [Transmissible, ← map_toFloat_eq_iff]
  unfold deserializeAcl
  rw [wires]
  simp only [Raising.except_bind_eq_ok, Raising.except_pure_eq_ok, mapM_allWires]
  -- What comes back is read wire by wire, so that each must give its own binding.
  constructor
  · rintro ⟨_, ⟨ins, outs, first, second, rfl⟩, same⟩
    rw [(filterMap_bindings ins outs).1, (filterMap_bindings ins outs).2] at same
    have plugins : (serializeAcl toFloat acl).plugins = acl.plugins := congrArg ACLConfig.plugins same
    have inputs : ins = acl.inputs := congrArg ACLConfig.inputs same
    have outputs : outs = acl.outputs := congrArg ACLConfig.outputs same
    subst inputs outputs
    refine ⟨plugins, fun bind listed => ?_⟩
    have read : Reads (serializeAcl toFloat acl).plugins bind bind := by
      rcases List.mem_append.mp listed with listed | listed
      · exact List.forall₂_same.mp first bind listed
      · exact List.forall₂_same.mp second bind listed
    exact (reads_self_iff (labels bind listed).2 (labels bind listed).1).mp read
  · rintro ⟨plugins, whole⟩
    have each : ∀ bind ∈ acl.inputs ++ acl.outputs,
        Reads (serializeAcl toFloat acl).plugins bind bind := fun bind listed =>
      (reads_self_iff (labels bind listed).2 (labels bind listed).1).mpr (whole bind listed)
    refine ⟨_, ⟨acl.inputs, acl.outputs, List.forall₂_same.mpr fun bind listed => each bind ?_,
      List.forall₂_same.mpr fun bind listed => each bind ?_, rfl⟩, ?_⟩
    · exact List.mem_append_left _ listed
    · exact List.mem_append_right _ listed
    · rw [(filterMap_bindings _ _).1, (filterMap_bindings _ _).2]
      have same : (serializeAcl toFloat acl).plugins = acl.plugins := plugins
      rw [same]

/-- Applied to a simulator, the settings and what is connected change; the rest stays. -/
theorem deserializeConfiguration_eq_ok {config : Wire.SimConfig} {entity final : SimConfig} :
    deserializeConfiguration config entity = .ok () final ↔
      final.withLimits = config.withLimits ∧ final.onlyModuleSinks = config.onlyModuleSinks ∧
      final.k0 = entity.k0 ∧
      match config.aclConfig with
      | none => final.aclConfig = entity.aclConfig
      | some acl => ∃ restored, deserializeAcl acl = .ok restored ∧
          final.aclConfig = some restored := by
  obtain ⟨withLimits, k0, onlyModuleSinks, aclConfig⟩ := final
  cases sent : config.aclConfig with
  | none =>
    have applied : deserializeConfiguration config entity = .ok ()
        { entity with
          withLimits := config.withLimits
          onlyModuleSinks := config.onlyModuleSinks } := by
      simp only [deserializeConfiguration, sent]
      rfl
    simp only [applied, EStateM.Result.ok.injEq, SimConfig.mk.injEq, true_and, eq_comm]
    tauto
  | some acl =>
    cases read : deserializeAcl acl with
    | error error =>
      -- The settings have been changed by then, and the call raises.
      have raised : deserializeConfiguration config entity = .error error
          { entity with
            withLimits := config.withLimits
            onlyModuleSinks := config.onlyModuleSinks } := by
        simp only [deserializeConfiguration, sent, read]
        rfl
      simp [raised, read]
    | ok restored =>
      have applied : deserializeConfiguration config entity = .ok ()
          { entity with
            withLimits := config.withLimits
            onlyModuleSinks := config.onlyModuleSinks
            aclConfig := some restored } := by
        simp only [deserializeConfiguration, sent, read]
        rfl
      simp only [applied, read, EStateM.Result.ok.injEq, SimConfig.mk.injEq, true_and,
        Except.ok.injEq, exists_eq_left', eq_comm]
      tauto

/-- The default `k0` is sent. -/
theorem serializeConfiguration_returns {toFloat : ℚ → ℚ} {simConfig : SimConfig}
    (default : simConfig.k0 = some 10000) :
    serializeConfiguration toFloat simConfig = .ok
      { k0 := some 10000
        withLimits := simConfig.withLimits
        onlyModuleSinks := simConfig.onlyModuleSinks
        aclConfig := simConfig.aclConfig.map (serializeAcl toFloat) } := by
  simp only [serializeConfiguration, default]
  rfl

/-- What is sent besides `k0`. -/
theorem serializeConfiguration_eq_ok {toFloat : ℚ → ℚ} {simConfig : SimConfig}
    {config : Wire.SimConfig} (sent : serializeConfiguration toFloat simConfig = .ok config) :
    config.withLimits = simConfig.withLimits ∧
      config.onlyModuleSinks = simConfig.onlyModuleSinks ∧
      config.aclConfig = simConfig.aclConfig.map (serializeAcl toFloat) := by
  simp only [serializeConfiguration, Raising.except_bind_eq_ok, Raising.except_pure_eq_ok] at sent
  -- Only the factor may raise, the other fields are always sent.
  obtain ⟨k0, _, rfl⟩ := sent
  exact ⟨rfl, rfl, rfl⟩

/--
When a configuration survives being sent to another simulator.

A configuration whose bindings name declared plugins is restored on a simulator that is not configured
exactly if its `k0` is the default, which is sent but not applied, the parameters of its plugins are
32-bit floats, and no label that a binding names has a slash, at which the path is cut.
-/
theorem simulator_configuration_restored_iff (toFloat : ℚ → ℚ) (simConfig : SimConfig)
    (declared : ∀ acl ∈ simConfig.aclConfig, Declared acl) :
    (∃ config, serializeConfiguration toFloat simConfig = .ok config ∧
      deserializeConfiguration config .default = .ok () simConfig) ↔
    simConfig.k0 = some 10000 ∧ ∀ acl ∈ simConfig.aclConfig, Transmissible toFloat acl := by
  -- An absent configuration is restored by the default, a present one by its wires.
  have acl_iff : ∀ config : Wire.SimConfig,
      config.aclConfig = simConfig.aclConfig.map (serializeAcl toFloat) →
      ((match config.aclConfig with
        | none => simConfig.aclConfig = SimConfig.default.aclConfig
        | some acl => ∃ restored, deserializeAcl acl = .ok restored ∧
            simConfig.aclConfig = some restored) ↔
        ∀ acl ∈ simConfig.aclConfig, Transmissible toFloat acl) := by
    intro config sent
    rw [sent]
    cases present : simConfig.aclConfig with
    | none => simp [SimConfig.default]
    | some acl =>
      have names := declared acl present
      simp only [Option.map_some, Option.some.injEq, Option.mem_some_iff, forall_eq',
        ← deserializeAcl_serializeAcl_iff names]
      constructor
      · rintro ⟨restored, read, rfl⟩
        exact read
      · exact fun read => ⟨acl, read, rfl⟩
  constructor
  · rintro ⟨config, sent, applied⟩
    obtain ⟨_, _, k0, acl⟩ := deserializeConfiguration_eq_ok.mp applied
    exact ⟨k0, (acl_iff config (serializeConfiguration_eq_ok sent).2.2).mp acl⟩
  · rintro ⟨default, transmissible⟩
    refine ⟨_, serializeConfiguration_returns default, deserializeConfiguration_eq_ok.mpr
      ⟨rfl, rfl, default, (acl_iff _ rfl).mpr transmissible⟩⟩

/-- A configuration with a plugin that is bound to an input and an output. -/
def boundSample : SimConfig where
  withLimits := false
  k0 := some 10000
  onlyModuleSinks := true
  aclConfig := some {
    plugins := [⟨"Delay", "delay", [1, 2]⟩]
    inputs := [⟨0, "delay", 1⟩]
    outputs := [⟨3, "delay", 0⟩] }

/-- The sample is restored, if its parameters are 32-bit floats. -/
theorem simulator_configuration_restored_sample :
    ∃ config, serializeConfiguration id boundSample = .ok config ∧
      deserializeConfiguration config .default = .ok () boundSample := by
  refine (simulator_configuration_restored_iff id boundSample ?_).mpr ⟨rfl, ?_⟩
  · simp [boundSample, Declared]
  · simp [boundSample, Transmissible]

/-- A simulator with its own `k0` and nothing else. -/
def k0Sample : SimConfig := { SimConfig.default with k0 := some 100 }

/-- The `k0` of the sample is sent, and the other simulator keeps the default. -/
theorem k0_not_restored :
    ∃ config, serializeConfiguration id k0Sample = .ok config ∧ config.k0 = some 100 ∧
      deserializeConfiguration config .default = .ok () .default ∧ k0Sample ≠ .default := by
  refine ⟨⟨some 100, true, false, none⟩, rfl, rfl, rfl, ?_⟩
  decide

end SimulatorRoundTrip

end Pybrid
