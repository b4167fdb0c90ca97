import Pybrid.Redac.RouteEffect

/-! Routes that raise: what they have written until then, and when nothing has changed. -/

namespace Pybrid

/-- A multiplexer of a block: the block by reference, the sector and the lane. -/
inductive Slot where
  | carrier (ref : Option ℕ) (sector lane : Int)
  | backplane (ref : Option ℕ) (sector lane : Int)
  deriving DecidableEq

/-- The multiplexer is one of the table, so that no negative subscript is involved. -/
def Slot.Real : Slot → Prop
  | .carrier _ _ _ => True
  | .backplane _ sector lane => (0 ≤ sector ∧ sector < 9) ∧ (0 ≤ lane ∧ lane < 8)

/-- A T-block is what its multiplexers select. -/
theorem TBlock.ext_source {t t' : TBlock}
    (same : ∀ sector lane, t.source sector lane = t'.source sector lane) : t = t' := by
  obtain ⟨muxes⟩ := t
  obtain ⟨muxes'⟩ := t'
  refine congrArg TBlock.mk (Vector.ext fun position bound => ?_)
  -- Four multiplexers to a lane.
  have inside : (0 ≤ ((position % 4 : ℕ) : Int) ∧ ((position % 4 : ℕ) : Int) < 4) ∧
      (0 ≤ ((position / 4 : ℕ) : Int) ∧ ((position / 4 : ℕ) : Int) < 24) := by omega
  have here := same (position % 4 : ℕ) (position / 4 : ℕ)
  have whole : (((position / 4 : ℕ) : Int) * 4 + ((position % 4 : ℕ) : Int)).toNat = position := by
    omega
  simp only [TBlock.source, TBlock.index, dif_pos inside, Except.map, Except.ok.injEq,
    Vector.get_eq_getElem, whole] at here
  exact here

/-- A backplane T-block is what its multiplexers select. -/
theorem BackplaneTBlock.ext_source {t t' : BackplaneTBlock}
    (same : ∀ sector lane : Int, (0 ≤ sector ∧ sector < 9) ∧ (0 ≤ lane ∧ lane < 8) →
      t.source sector lane = t'.source sector lane) : t = t' := by
  obtain ⟨sectors⟩ := t
  obtain ⟨sectors'⟩ := t'
  refine congrArg BackplaneTBlock.mk (Vector.ext fun row rowBound => Vector.ext fun lane laneBound => ?_)
  have inside : (0 ≤ (row : Int) ∧ (row : Int) < 9) ∧ (0 ≤ (lane : Int) ∧ (lane : Int) < 8) := by
    omega
  have here := same row lane inside
  rw [source_of_bounds _ inside, source_of_bounds _ inside] at here
  simp only [Except.ok.injEq, Vector.get_eq_getElem, Int.toNat_natCast] at here
  -- The sector is stored as a number below nine.
  have injective : Function.Injective fun source : Fin 9 => (source.val : Int) :=
    fun first second equal => Fin.ext (Int.ofNat.inj equal)
  exact Option.map_injective injective here

namespace Memory

/-- The multiplexer that is found for a location. -/
def slot (m : Memory) : Mux → Slot
  | .carrier loc sector lane => .carrier (m.carriers.table loc) sector lane
  | .backplane stack index sector lane => .backplane (m.planes.table (stack, index)) sector lane

/-- The sector a multiplexer selects. -/
def selected (m : Memory) : Slot → Except PyError (Option Int)
  | .carrier ref sector lane => (m.carriers.object ref).source sector lane
  | .backplane ref sector lane => (m.planes.object ref).source sector lane

/-- What a connection writes: one multiplexer, and nothing else. -/
structure Writes (m m' : Memory) (setting : Mux × Int) : Prop where
  slots : m'.slot = m.slot
  selected : ∀ slot : Slot, slot.Real → m'.selected slot =
    if slot = m.slot setting.1 then .ok (some setting.2) else m.selected slot

/-- A connection is made if the block accepts it, and changes nothing otherwise. -/
theorem connect_cases (setting : Mux × Int) (m : Memory) :
    (Router.Accepts setting ∧ ∃ m', connect setting m = .ok () m' ∧ Writes m m' setting) ∨
      (¬ Router.Accepts setting ∧ ∃ error, connect setting m = .error error m) := by
  -- A block is written in the table it was found in, so only its own entry differs.
  obtain ⟨mux, source⟩ := setting
  cases mux with
  | carrier loc sector lane =>
    have checks := Router.tBlock_connect_accepts (m.carriers.find loc) loc source sector lane
    cases connected : (m.carriers.find loc).connect source sector lane with
    | error error =>
      refine .inr ⟨fun accepted => ?_, error, by simp [connect, connected]⟩
      obtain ⟨t', made⟩ := checks.mpr accepted
      simp [made] at connected
    | ok t' =>
      refine .inl ⟨checks.mp ⟨t', connected⟩,
        { m with carriers := m.carriers.assign (m.carriers.table loc) t' },
        by simp only [connect, connected], ?_, ?_⟩
      · funext other
        cases other <;> rfl
      rintro (⟨ref, sector', lane'⟩ | ⟨ref, sector', lane'⟩) real
      · by_cases same : ref = m.carriers.table loc
        · subst same
          have found := TBlock.connect_source connected sector' lane'
          simpa [selected, slot, Shared.Store.assign, Shared.Store.find] using found
        · simp [selected, slot, Shared.Store.assign, same]
      · simp [selected, slot]
  | backplane stack index sector lane =>
    have checks := Router.backplaneTBlock_connect_accepts (m.planes.find (stack, index)) stack index
      source sector lane
    cases connected : (m.planes.find (stack, index)).connect source sector lane with
    | error error =>
      refine .inr ⟨fun accepted => ?_, error, by simp [connect, connected]⟩
      obtain ⟨t', made⟩ := checks.mpr accepted
      simp [made] at connected
    | ok t' =>
      refine .inl ⟨checks.mp ⟨t', connected⟩,
        { m with planes := m.planes.assign (m.planes.table (stack, index)) t' },
        by simp only [connect, connected], ?_, ?_⟩
      · funext other
        cases other <;> rfl
      rintro (⟨ref, sector', lane'⟩ | ⟨ref, sector', lane'⟩) real
      · simp [selected, slot]
      · by_cases same : ref = m.planes.table (stack, index)
        · subst same
          have found := BackplaneTBlock.connect_source connected real
          simpa [selected, slot, Shared.Store.assign, Shared.Store.find] using found
        · simp [selected, slot, Shared.Store.assign, same]

/-- The last of the settings that are made which is for this multiplexer. -/
def lastSetting (m : Memory) (settings : List (Mux × Int)) (slot : Slot) : Option (Mux × Int) :=
  (Router.made settings).reverse.find? fun setting => m.slot setting.1 = slot

/-- The outcome of a list of connections: what it leaves, and when it returns. -/
structure Settled (settings : List (Mux × Int)) (m : Memory)
    (outcome : EStateM.Result PyError Memory Unit) : Prop where
  /-- A multiplexer selects what it was asked for last. -/
  selected : ∀ slot : Slot, slot.Real → (Raising.final outcome).selected slot =
    ((m.lastSetting settings slot).map fun setting => .ok (some setting.2)).getD (m.selected slot)
  returns : (∃ m', outcome = .ok () m') ↔ ∀ setting ∈ settings, Router.Accepts setting

/-- Connecting multiplexers one after the other. -/
theorem connectAll_settled (settings : List (Mux × Int)) :
    ∀ m : Memory, Settled settings m (connectAll settings m) := by
  -- The induction is on the connections still to be made.
  induction settings with
  | nil =>
    exact fun m => ⟨fun _ _ => rfl, ⟨fun _ _ member => (nomatch member), fun _ => ⟨m, rfl⟩⟩⟩
  | cons setting settings ih =>
    intro m
    rcases connect_cases setting m with
      ⟨accepted, middle, connected, writes⟩ | ⟨refused, error, raised⟩
    · have whole : connectAll (setting :: settings) m = connectAll settings middle :=
        Raising.bind_of_ok connected
      have rest := ih middle
      rw [whole]
      constructor
      · intro slot real
        rw [rest.selected slot real, writes.selected slot real]
        have made : Router.made (setting :: settings) = setting :: Router.made settings :=
          List.takeWhile_cons_of_pos (by simpa using accepted)
        simp only [lastSetting, made, writes.slots, List.reverse_cons, List.find?_append]
        -- A later setting for the multiplexer decides, and otherwise this one does.
        cases (Router.made settings).reverse.find? fun setting => m.slot setting.1 = slot with
        | some later => rfl
        | none =>
          by_cases same : m.slot setting.1 = slot
          · simp [same]
          · simp [same, Ne.symm same]
      · rw [rest.returns, List.forall_mem_cons]
        exact ⟨fun later => ⟨accepted, later⟩, fun both => both.2⟩
    · have whole : connectAll (setting :: settings) m = .error error m :=
        Raising.bind_of_error raised
      rw [whole]
      constructor
      · intro slot _
        have made : Router.made (setting :: settings) = [] :=
          List.takeWhile_cons_of_neg (by simpa using refused)
        simp [lastSetting, made, Raising.final]
      · exact ⟨fun ⟨_, impossible⟩ => (nomatch impossible),
          fun all => absurd (all setting List.mem_cons_self) refused⟩

end Memory

namespace UBlock

/-- The lane is free for an input, or carries it already. -/
def Takes (u : UBlock) (input : Int) (lane : Fin 32) : Prop :=
  u.outputs.get lane = none ∨ u.outputs.get lane = some input

instance (u : UBlock) (input : Int) (lane : Fin 32) : Decidable (u.Takes input lane) :=
  inferInstanceAs (Decidable (_ ∨ _))

/-- A lane that takes the input is set. -/
theorem connect_takes {u : UBlock} {input output : Int} {lane : Fin 32}
    (position : Python.subscript 32 output = .ok lane) (takes : u.Takes input lane) :
    u.connect input [output] false =
      .ok { u with outputs := u.outputs.set lane.val (some input) (lane_lt lane) } := by
  -- The lane is free, or it has this input already.
  rcases takes with free | same
  · simp [connect, checkOutput, setOutput, position, free, bind, Except.bind, pure, Except.pure]
  · simp [connect, checkOutput, setOutput, position, same, bind, Except.bind, pure, Except.pure]

/-- Otherwise the block raises. -/
theorem connect_refuses {u : UBlock} {input output : Int}
    (refuses : ∀ lane, Python.subscript 32 output = .ok lane → ¬ u.Takes input lane) :
    ∃ error, u.connect input [output] false = .error error := by
  -- A lane outside the block raises before the lane is looked at.
  cases position : Python.subscript 32 output with
  | error error => simp [connect, checkOutput, position, bind, Except.bind]
  | ok lane =>
    have busy := refuses lane position
    cases carried : u.outputs.get lane with
    | none => exact absurd (.inl carried) busy
    | some current =>
      have other : current ≠ input := fun same => busy (.inr (same ▸ carried))
      simp [connect, checkOutput, position, carried, other, bind, Except.bind, throw, throwThe,
        MonadExceptOf.throw]

end UBlock

namespace CBlock

/-- A coefficient within the bounds is set. -/
theorem assignFactor_inside {c : CBlock} {lane : Int} {coefficient : Number} {index : Fin 32}
    (position : Python.subscript 32 lane = .ok index)
    (inside : -1 ≤ coefficient.rounded ∧ coefficient.rounded ≤ 1) :
    c.assignFactor lane coefficient = .ok { c with
      elements := c.elements.set index.val (Factor.ofNumber coefficient inside)
        (lane_lt index) } := by
  simp [assignFactor, position, Factor.validate_inside inside, bind, Except.bind, pure, Except.pure]

/-- A float within the bounds is set as it is. -/
theorem assignFactor_float {c : CBlock} {lane : Int} {coefficient : Double} {index : Fin 32}
    (position : Python.subscript 32 lane = .ok index)
    (inside : -1 ≤ coefficient.val ∧ coefficient.val ≤ 1) :
    c.assignFactor lane (.float coefficient) = .ok { c with
      elements := c.elements.set index.val (Factor.ofFloat coefficient inside)
        (lane_lt index) } := by
  simp [assignFactor, position, Factor.validate_float inside, bind, Except.bind, pure, Except.pure]

/-- Otherwise the block raises. -/
theorem assignFactor_outside (c : CBlock) (lane : Int) {coefficient : Number}
    (outside : ¬ (-1 ≤ coefficient.rounded ∧ coefficient.rounded ≤ 1)) :
    ∃ error, c.assignFactor lane coefficient = .error error := by
  -- A lane outside the block raises before the coefficient is looked at.
  cases position : Python.subscript 32 lane with
  | error error => simp [assignFactor, position, bind, Except.bind]
  | ok index =>
    obtain ⟨error, refused⟩ := Factor.validate_outside outside
    simp [assignFactor, position, refused, bind, Except.bind]

end CBlock

namespace IBlockObject

/-- The output exists, and no other one sums the lane. -/
def Takes (i : IBlockObject) (lane output : Int) : Prop :=
  i.otherOutput lane output = none ∧ (Python.subscript 16 output).isOk

instance (i : IBlockObject) (lane output : Int) : Decidable (i.Takes lane output) :=
  inferInstanceAs (Decidable (_ ∧ _))

/-- A lane is summed exactly when the block takes it. -/
theorem connect_takes (i : IBlockObject) (lane output : Int) :
    (∃ i', i.connect lane output = .ok i') ↔ i.Takes lane output := by
  unfold connect Takes
  cases i.otherOutput lane output with
  | some other => simp [throw, throwThe, MonadExceptOf.throw]
  | none =>
    cases Python.subscript 16 output with
    | error error => simp [bind, Except.bind, Except.isOk, Except.toBool]
    | ok index => simp [bind, Except.bind, pure, Except.pure, Except.isOk, Except.toBool]

end IBlockObject

namespace Computer

/-- The multiplexer belongs to a block of one of the carriers. -/
def Owns (computer : Computer) : Slot → Prop
  | .carrier ref _ _ => ∃ carrier ∈ computer.carriers, ∃ block ∈ carrier.tblock, ref = some block.ref
  | .backplane ref _ _ =>
    ∃ carrier ∈ computer.carriers, ∃ plane ∈ carrier.planes, ref = some plane.2.ref

/-- The blocks of the computer's carriers, wherever they are, are the same in both memories. -/
structure SameTBlocks (computer : Computer) (before after : Memory) : Prop where
  carriers : ∀ carrier ∈ computer.carriers, ∀ block ∈ carrier.tblock,
    after.carriers.object (some block.ref) = before.carriers.object (some block.ref)
  planes : ∀ carrier ∈ computer.carriers, ∀ plane ∈ carrier.planes,
    after.planes.object (some plane.2.ref) = before.planes.object (some plane.2.ref)

/-- All blocks of the computer are what they were. -/
def SameBlocks (before after : Computer × Memory) : Prop :=
  after.1 = before.1 ∧ before.1.SameTBlocks before.2 after.2

/-- Blocks are the same when their multiplexers are. -/
theorem sameTBlocks_iff {computer : Computer} {before after : Memory} :
    computer.SameTBlocks before after ↔ ∀ slot, slot.Real → computer.Owns slot →
      after.selected slot = before.selected slot := by
  constructor
  · rintro ⟨carriers, planes⟩ (⟨ref, sector, lane⟩ | ⟨ref, sector, lane⟩) _
      ⟨carrier, member, block, own, rfl⟩
    · simp only [Memory.selected, carriers carrier member block own]
    · simp only [Memory.selected, planes carrier member block own]
  · intro same
    constructor
    -- A block is its multiplexers, so it is the same where they all are.
    · intro carrier member block own
      exact TBlock.ext_source fun sector lane =>
        same (.carrier (some block.ref) sector lane) trivial ⟨carrier, member, block, own, rfl⟩
    · intro carrier member plane own
      exact BackplaneTBlock.ext_source fun sector lane real =>
        same (.backplane (some plane.2.ref) sector lane) real ⟨carrier, member, plane, own, rfl⟩

/-- What the settings ask the computer's multiplexers for last is what they select already. -/
def Repeats (computer : Computer) (m : Memory) (settings : List (Mux × Int)) : Prop :=
  ∀ slot, computer.Owns slot → ∀ setting, m.lastSetting settings slot = some setting →
    m.selected slot = .ok (some setting.2)

/-- Only multiplexers of the tables are set. -/
theorem lastSetting_real {m : Memory} {settings : List (Mux × Int)} {slot : Slot}
    {setting : Mux × Int} (last : m.lastSetting settings slot = some setting) : slot.Real := by
  have member := List.mem_reverse.mp (List.mem_of_find?_eq_some last)
  have accepted : Router.Accepts setting := by
    simpa using List.mem_takeWhile_imp member
  have place : m.slot setting.1 = slot := by simpa using List.find?_some last
  -- The blocks of the backplanes check the sector and the lane themselves.
  obtain ⟨mux, source⟩ := setting
  subst place
  cases mux with
  | carrier loc sector lane => trivial
  | backplane stack index sector lane => exact accepted.2

/-- Connections keep the computer's blocks when they repeat what is selected. -/
theorem connectAll_sameTBlocks (computer : Computer) (m : Memory) (settings : List (Mux × Int)) :
    computer.SameTBlocks m (Raising.final (Memory.connectAll settings m)) ↔
      computer.Repeats m settings := by
  -- Each multiplexer selects what it was asked for last, whether the connections returned or not.
  have settled := Memory.connectAll_settled settings m
  rw [sameTBlocks_iff]
  constructor
  · intro same slot owned setting last
    have real := lastSetting_real last
    have kept := same slot real owned
    rw [settled.selected slot real, last] at kept
    exact kept.symm
  · intro repeats slot real owned
    rw [settled.selected slot real]
    cases last : m.lastSetting settings slot with
    | none => rfl
    | some setting => exact (repeats slot owned setting last).symm

/-- A cluster that has been located is there. -/
theorem locate_cluster? {computer : Computer} {loc : ClusterLoc} {place : ℕ × ℕ}
    (located : computer.locate loc = .ok place) : ∃ cluster, computer.cluster? place = some cluster := by
  unfold locate at located
  -- The carrier is found by its location, the cluster by its number.
  split at located
  · rename_i index found
    obtain ⟨bound, -⟩ := List.findIdx?_eq_some_iff_getElem.mp found
    obtain ⟨number, position, rfl⟩ := map_eq_ok located
    have present : computer.carriers[index]? = some computer.carriers[index] :=
      List.getElem?_eq_getElem bound
    have inside : number.val < computer.carriers[index].clusters.length := by
      have := number.isLt
      simpa only [present, Option.map_some, Option.getD_some] using this
    refine ⟨computer.carriers[index].clusters[number.val], ?_⟩
    simp only [cluster?, present, Option.bind_some, List.getElem?_eq_getElem inside]
  · cases located

/-- Only the last of two changes of a cluster stays. -/
theorem setCluster_twice (computer : Computer) (place : ℕ × ℕ) (first second : ClusterObject) :
    (computer.setCluster place first).setCluster place second = computer.setCluster place second := by
  simp [setCluster, List.modify_modify_eq, Function.comp_def]

/-- A cluster that is replaced by itself changes nothing, and by another one something. -/
theorem setCluster_eq_self {computer : Computer} {place : ℕ × ℕ} {cluster : ClusterObject}
    (found : computer.cluster? place = some cluster) (changed : ClusterObject) :
    computer.setCluster place changed = computer ↔ changed = cluster := by
  constructor
  · intro same
    -- The cluster found at the place is the changed one, and is the one found before.
    have there := cluster?_setCluster found changed place
    rw [same, if_pos rfl, found] at there
    exact (Option.some.inj there).symm
  · rintro rfl
    obtain ⟨carrier, here, there⟩ := Option.bind_eq_some_iff.mp found
    refine congrArg Computer.mk (List.ext_getElem? fun k => ?_)
    rw [List.getElem?_modify]
    split
    · rename_i same
      subst same
      rw [here, Option.map_eq_map, Option.map_some]
      obtain ⟨bound, rfl⟩ := List.getElem?_eq_some_iff.mp there
      simp
    · simp

/-- What a changed cluster and changed memory leave of the computer's blocks. -/
theorem sameBlocks_setCluster {computer : Computer} {place : ℕ × ℕ} {cluster : ClusterObject}
    (found : computer.cluster? place = some cluster) (changed : ClusterObject) (m m' : Memory) :
    SameBlocks (computer, m) (computer.setCluster place changed, m') ↔
      changed = cluster ∧ computer.SameTBlocks m m' :=
  and_congr_left fun _ => setCluster_eq_self found changed

/-- Setting an entry changes nothing when it is there already. -/
theorem vector_set_eq_self {α : Type} {n : ℕ} (entries : Vector α n) (lane : Fin n) (entry : α) :
    entries.set lane.val entry lane.isLt = entries ↔ entries.get lane = entry := by
  rw [Vector.get_eq_getElem]
  -- Writing an entry changes nothing exactly if it was there.
  constructor
  · intro same
    have there : (entries.set lane.val entry lane.isLt)[lane.val] = entry :=
      Vector.getElem_set_self lane.isLt
    rw [same] at there
    exact there
  · rintro rfl
    exact Vector.set_getElem_self lane.isLt

/--
Once both clusters are found and the U-block takes the input: the route is carried out, or it only
repeats what is there until it raises.
-/
def Settles (computer : Computer) (m : Memory) (srcMath : Int) (srcLane sinkLane : LaneLoc)
    (sinkMath : Int) (coefficient : ℚ) (source target : ClusterObject) (lane : Fin 32) : Prop :=
  ((-1 ≤ coefficient ∧ coefficient ≤ 1) ∧ Router.refusal srcLane sinkLane = none ∧
    (∀ setting ∈ Router.path srcLane sinkLane, Router.Accepts setting) ∧
    target.iblock.Takes sinkLane.laneId sinkMath) ∨
  -- It raises, and everything written before that was there already.
  (source.ublock.outputs.get lane = some srcMath ∧
    (¬ (-1 ≤ coefficient ∧ coefficient ≤ 1) ∨
      ((source.cblock.elements.get lane).val = coefficient ∧
        (Router.refusal srcLane sinkLane ≠ none ∨
          computer.Repeats m (Router.path srcLane sinkLane)))))

/-- When a route that raises has not changed anything; the coefficient is that of its float. -/
def KeepsWhenRaising (computer : Computer) (m : Memory) (srcMath : Int) (srcLane sinkLane : LaneLoc)
    (sinkMath : Int) (coefficient : ℚ) : Prop :=
  ∀ source target lane, computer.clusterAt srcLane.cluster = some source →
    computer.clusterAt sinkLane.cluster = some target →
    Python.subscript 32 srcLane.laneId = .ok lane → source.ublock.Takes srcMath lane →
    computer.Settles m srcMath srcLane sinkLane sinkMath coefficient source target lane

/-- A cluster with an input on one lane. -/
def withInput (cluster : ClusterObject) (lane : Fin 32) (srcMath : Int) : ClusterObject :=
  { cluster with
    ublock := { cluster.ublock with
      outputs := cluster.ublock.outputs.set lane.val (some srcMath) (lane_lt lane) } }

/-- A cluster with a factor on one lane. -/
def withFactor (cluster : ClusterObject) (lane : Fin 32) (factor : Factor) : ClusterObject :=
  { cluster with
    cblock := { cluster.cblock with
      elements := cluster.cblock.elements.set lane.val factor (lane_lt lane) } }

/-- A lane that is given an input is as it was when it carried the input already. -/
theorem withInput_eq_self {cluster : ClusterObject} {lane : Fin 32} {srcMath : Int} :
    withInput cluster lane srcMath = cluster ↔ cluster.ublock.outputs.get lane = some srcMath := by
  obtain ⟨location, ⟨outputs, constant⟩, cblock, iblock⟩ := cluster
  simp only [withInput, ClusterObject.mk.injEq, UBlock.mk.injEq, true_and, and_true]
  -- The cluster differs at most in this lane of its U-block.
  exact vector_set_eq_self outputs lane (some srcMath)

/-- The lane is as it was when it carried the input with this factor already. -/
theorem withFactor_eq_self {cluster : ClusterObject} {lane : Fin 32} {srcMath : Int}
    {factor : Factor} : withFactor (withInput cluster lane srcMath) lane factor = cluster ↔
      cluster.ublock.outputs.get lane = some srcMath ∧
        (cluster.cblock.elements.get lane).val = factor.val := by
  obtain ⟨location, ⟨outputs, constant⟩, ⟨elements⟩, iblock⟩ := cluster
  simp only [withInput, withFactor, ClusterObject.mk.injEq, UBlock.mk.injEq, CBlock.mk.injEq,
    true_and, and_true]
  -- The input and the factor are compared apart.
  rw [vector_set_eq_self, vector_set_eq_self, Subtype.ext_iff]

/-- What a route does to the U-block of the source. -/
def connectInput (srcMath laneId : Int) (cluster : ClusterObject) : Except PyError ClusterObject :=
  (cluster.ublock.connect srcMath [laneId] false).map fun ublock => { cluster with ublock }

/-- What a route does to the C-block of the source. -/
def setFactor (laneId : Int) (coefficient : Number) (cluster : ClusterObject) :
    Except PyError ClusterObject :=
  (cluster.cblock.assignFactor laneId coefficient).map fun cblock => { cluster with cblock }

/-- What a route does to the I-block of the sink. -/
def sumLane (laneId sinkMath : Int) (cluster : ClusterObject) : Except PyError ClusterObject :=
  (cluster.iblock.connect laneId sinkMath).map fun iblock => { cluster with iblock }

/-- What a route does behind the source's cluster. -/
def routeRest (srcLane sinkLane : LaneLoc) (sinkMath : Int) (place : ℕ × ℕ) : ComputerM Unit := do
  onMemory (Memory.route srcLane sinkLane)
  onCluster place (sumLane sinkLane.laneId sinkMath)

/-- The state behind the outcome of a call, in case it has raised. -/
theorem raised_iff {outcome : EStateM.Result PyError (Computer × Memory) Unit} {error : PyError}
    {state before : Computer × Memory} (raised : outcome = .error error state) :
    (∀ error after, outcome = .error error after → SameBlocks before after) ↔
      SameBlocks before state := by
  subst raised
  refine ⟨fun kept => kept error state rfl, fun same _ _ final => ?_⟩
  -- The outcome has one error and one state.
  cases final
  exact same

section Stages

variable {computer : Computer} {m : Memory} {srcMath sinkMath : Int} {srcLane sinkLane : LaneLoc}
  {coefficient : Number} {place place' : ℕ × ℕ} {source target : ClusterObject} {lane : Fin 32}

/-- A change of a cluster that returns. -/
theorem onCluster_ok {change : ClusterObject → Except PyError ClusterObject} {changed : ClusterObject}
    (found : computer.cluster? place = some source) (returned : change source = .ok changed) :
    onCluster place change (computer, m) = .ok () (computer.setCluster place changed, m) := by
  simp only [onCluster, found, returned]

/-- A change of a cluster that raises. -/
theorem onCluster_error {change : ClusterObject → Except PyError ClusterObject} {error : PyError}
    (found : computer.cluster? place = some source) (raised : change source = .error error) :
    onCluster place change (computer, m) = .error error (computer, m) := by
  simp only [onCluster, found, raised]

/-- A route that has found its clusters goes on with the U-block. -/
theorem route_found (located : computer.locate srcLane.cluster = .ok place)
    (located' : computer.locate sinkLane.cluster = .ok place') :
    route srcMath srcLane sinkLane sinkMath coefficient (computer, m) = (do
      onCluster place (connectInput srcMath srcLane.laneId)
      onCluster place (setFactor srcLane.laneId coefficient)
      routeRest srcLane sinkLane sinkMath place' : ComputerM Unit) (computer, m) := by
  -- Both clusters are looked up before anything is written.
  have first : findCluster srcLane.cluster (computer, m) = .ok place (computer, m) := by
    simp only [findCluster, located]
  have second : findCluster sinkLane.cluster (computer, m) = .ok place' (computer, m) := by
    simp only [findCluster, located']
  unfold route
  rw [Raising.bind_of_ok first, Raising.bind_of_ok second]
  rfl

/-- A route that is refused by the U-block. -/
theorem route_refused_input (located : computer.locate srcLane.cluster = .ok place)
    (located' : computer.locate sinkLane.cluster = .ok place')
    (found : computer.cluster? place = some source)
    (refuses : ∀ lane, Python.subscript 32 srcLane.laneId = .ok lane →
      ¬ source.ublock.Takes srcMath lane) :
    ∃ error, route srcMath srcLane sinkLane sinkMath coefficient (computer, m) =
      .error error (computer, m) := by
  obtain ⟨error, raised⟩ := UBlock.connect_refuses refuses
  -- The U-block is asked first, so that nothing has been written.
  refine ⟨error, ?_⟩
  rw [route_found located located']
  exact Raising.bind_of_error (onCluster_error found
    (by simp only [connectInput, raised, Except.map]))

/-- The U-block of the source takes the input. -/
theorem onCluster_connect (found : computer.cluster? place = some source)
    (position : Python.subscript 32 srcLane.laneId = .ok lane)
    (takes : source.ublock.Takes srcMath lane) :
    onCluster place (connectInput srcMath srcLane.laneId) (computer, m) =
      .ok () (computer.setCluster place (withInput source lane srcMath), m) := by
  refine onCluster_ok found ?_
  rw [connectInput, UBlock.connect_takes position takes]
  rfl

/-- A route whose coefficient is refused: the U-block has been connected. -/
theorem route_refused_coefficient (located : computer.locate srcLane.cluster = .ok place)
    (located' : computer.locate sinkLane.cluster = .ok place')
    (found : computer.cluster? place = some source)
    (position : Python.subscript 32 srcLane.laneId = .ok lane)
    (takes : source.ublock.Takes srcMath lane)
    (outside : ¬ (-1 ≤ coefficient.rounded ∧ coefficient.rounded ≤ 1)) :
    ∃ error, route srcMath srcLane sinkLane sinkMath coefficient (computer, m) =
      .error error (computer.setCluster place (withInput source lane srcMath), m) := by
  -- The coefficient is assigned on the cluster that the connection left.
  have there := cluster?_setCluster found (withInput source lane srcMath) place
  rw [if_pos rfl] at there
  obtain ⟨error, raised⟩ := CBlock.assignFactor_outside
    (withInput source lane srcMath).cblock srcLane.laneId outside
  refine ⟨error, ?_⟩
  rw [route_found located located', Raising.bind_of_ok (onCluster_connect found position takes)]
  exact Raising.bind_of_error (onCluster_error there (by simp only [setFactor, raised, Except.map]))

/-- A route with an accepted coefficient goes on with the T-blocks. -/
theorem route_scaled (located : computer.locate srcLane.cluster = .ok place)
    (located' : computer.locate sinkLane.cluster = .ok place')
    (found : computer.cluster? place = some source)
    (position : Python.subscript 32 srcLane.laneId = .ok lane)
    (takes : source.ublock.Takes srcMath lane)
    (inside : -1 ≤ coefficient.rounded ∧ coefficient.rounded ≤ 1) :
    route srcMath srcLane sinkLane sinkMath coefficient (computer, m) =
      routeRest srcLane sinkLane sinkMath place' (computer.setCluster place
        (withFactor (withInput source lane srcMath) lane (.ofNumber coefficient inside)), m) := by
  have there := cluster?_setCluster found (withInput source lane srcMath) place
  rw [if_pos rfl] at there
  have scaled : onCluster place (setFactor srcLane.laneId coefficient)
      (computer.setCluster place (withInput source lane srcMath), m) =
      .ok () ((computer.setCluster place (withInput source lane srcMath)).setCluster place
        (withFactor (withInput source lane srcMath) lane (.ofNumber coefficient inside)), m) := by
    refine onCluster_ok there ?_
    rw [setFactor, CBlock.assignFactor_inside position inside]
    rfl
  -- Both are changes of one cluster.
  rw [setCluster_twice] at scaled
  rw [route_found located located', Raising.bind_of_ok (onCluster_connect found position takes),
    Raising.bind_of_ok scaled]

/-- The summation block of the sink is the one it was before the source was written. -/
theorem sink_iblock (found : computer.cluster? place = some source)
    (found' : computer.cluster? place' = some target) {changed : ClusterObject}
    (same : changed.iblock = source.iblock) :
    ∃ cluster, (computer.setCluster place changed).cluster? place' = some cluster ∧
      cluster.iblock = target.iblock := by
  rw [cluster?_setCluster found]
  -- The two clusters may be one.
  split
  · rename_i equal
    subst equal
    obtain rfl := Option.some.inj (found.symm.trans found')
    exact ⟨changed, rfl, same⟩
  · exact ⟨target, found', rfl⟩

/-- The parts of a route behind the source's cluster: when they return, or raise without a trace. -/
theorem rest_keeps (found : computer.cluster? place = some source)
    (found' : computer.cluster? place' = some target) {changed : ClusterObject}
    (same : changed.iblock = source.iblock) :
    (∀ error after, routeRest srcLane sinkLane sinkMath place'
        (computer.setCluster place changed, m) = .error error after →
      SameBlocks (computer, m) after) ↔
    (Router.refusal srcLane sinkLane = none ∧
      (∀ setting ∈ Router.path srcLane sinkLane, Router.Accepts setting) ∧
      target.iblock.Takes sinkLane.laneId sinkMath) ∨
    (changed = source ∧ (Router.refusal srcLane sinkLane ≠ none ∨
      computer.Repeats m (Router.path srcLane sinkLane))) := by
  cases refused : Router.refusal srcLane sinkLane with
  | some error =>
    -- The router's own checks come before anything is written.
    have routed : onMemory (Memory.route srcLane sinkLane) (computer.setCluster place changed, m) =
        .error error (computer.setCluster place changed, m) := by
      simp only [onMemory, Memory.route, refused]
    have unchanged : computer.SameTBlocks m m := ⟨fun _ _ _ _ => rfl, fun _ _ _ _ => rfl⟩
    rw [routeRest, raised_iff (Raising.bind_of_error routed), sameBlocks_setCluster found]
    simp [unchanged]
  | none =>
    have settled := Memory.connectAll_settled (Router.path srcLane sinkLane) m
    have kept := connectAll_sameTBlocks computer m (Router.path srcLane sinkLane)
    cases connected : Memory.connectAll (Router.path srcLane sinkLane) m with
    | error error middle =>
      rw [connected] at settled kept
      have routed : onMemory (Memory.route srcLane sinkLane) (computer.setCluster place changed, m) =
          .error error (computer.setCluster place changed, middle) := by
        simp only [onMemory, Memory.route, refused, connected]
      have refuses : ¬ ∀ setting ∈ Router.path srcLane sinkLane, Router.Accepts setting := by
        intro all
        obtain ⟨_, returned⟩ := settled.returns.mpr all
        cases returned
      rw [routeRest, raised_iff (Raising.bind_of_error routed), sameBlocks_setCluster found, ← kept]
      simp only [refuses, false_and, and_false, false_or, ne_eq, not_true_eq_false, Raising.final]
    | ok done middle =>
      rw [connected] at settled kept
      have routed : onMemory (Memory.route srcLane sinkLane) (computer.setCluster place changed, m) =
          .ok () (computer.setCluster place changed, middle) := by
        simp only [onMemory, Memory.route, refused, connected]
      have accepts := settled.returns.mp ⟨middle, rfl⟩
      obtain ⟨cluster, there, iblock⟩ := sink_iblock found found' same
      have outcome := cluster.iblock.connect_takes sinkLane.laneId sinkMath
      rw [routeRest, Raising.bind_of_ok routed]
      cases summed : cluster.iblock.connect sinkLane.laneId sinkMath with
      | ok i' =>
        have takes := outcome.mp ⟨i', summed⟩
        rw [iblock] at takes
        have returned : onCluster place' (sumLane sinkLane.laneId sinkMath)
            (computer.setCluster place changed, middle) = .ok () _ :=
          onCluster_ok there (by rw [sumLane, summed]; rfl)
        rw [returned]
        refine ⟨fun _ => .inl ⟨rfl, accepts, takes⟩, fun _ _ _ raised => ?_⟩
        cases raised
      | error error =>
        have refuses : ¬ target.iblock.Takes sinkLane.laneId sinkMath := by
          rw [← iblock, ← outcome]
          rintro ⟨i', impossible⟩
          cases summed.symm.trans impossible
        have raised : onCluster place' (sumLane sinkLane.laneId sinkMath)
            (computer.setCluster place changed, middle) = .error error _ :=
          onCluster_error there (by rw [sumLane, summed]; rfl)
        rw [raised_iff raised, sameBlocks_setCluster found, ← kept]
        simp only [refuses, and_false, false_or, ne_eq, not_true_eq_false, Raising.final]

end Stages

/-- A route that raises has changed no block of the computer exactly on this condition. -/
theorem route_atomic_iff (computer : Computer) (m : Memory) (srcMath : Int)
    (srcLane sinkLane : LaneLoc) (sinkMath : Int) (coefficient : Number) :
    (∀ error after, route srcMath srcLane sinkLane sinkMath coefficient (computer, m) =
        .error error after → SameBlocks (computer, m) after) ↔
      computer.KeepsWhenRaising m srcMath srcLane sinkLane sinkMath coefficient.rounded := by
  have unchanged : SameBlocks (computer, m) (computer, m) :=
    ⟨rfl, fun _ _ _ _ => rfl, fun _ _ _ _ => rfl⟩
  -- The lookups come first, and change nothing.
  cases located : computer.locate srcLane.cluster with
  | error error =>
    have raised : route srcMath srcLane sinkLane sinkMath coefficient (computer, m) =
        .error error (computer, m) :=
      Raising.bind_of_error (by simp only [findCluster, located])
    rw [raised_iff raised]
    exact ⟨fun _ _ _ _ found => by simp [clusterAt, located] at found, fun _ => unchanged⟩
  | ok place =>
  cases located' : computer.locate sinkLane.cluster with
  | error error =>
    have first : findCluster srcLane.cluster (computer, m) = .ok place (computer, m) := by
      simp only [findCluster, located]
    have raised : route srcMath srcLane sinkLane sinkMath coefficient (computer, m) =
        .error error (computer, m) := by
      unfold route
      rw [Raising.bind_of_ok first]
      exact Raising.bind_of_error (by simp only [findCluster, located'])
    rw [raised_iff raised]
    exact ⟨fun _ _ _ _ _ found => by simp [clusterAt, located'] at found, fun _ => unchanged⟩
  | ok place' =>
  obtain ⟨source, found⟩ := locate_cluster? located
  obtain ⟨target, found'⟩ := locate_cluster? located'
  have sourceAt : computer.clusterAt srcLane.cluster = some source := by
    simp only [clusterAt, located, found]
  have targetAt : computer.clusterAt sinkLane.cluster = some target := by
    simp only [clusterAt, located', found']
  by_cases taken : ∃ lane, Python.subscript 32 srcLane.laneId = .ok lane ∧
      source.ublock.Takes srcMath lane
  · obtain ⟨lane, position, takes⟩ := taken
    have reduced :
        computer.KeepsWhenRaising m srcMath srcLane sinkLane sinkMath coefficient.rounded ↔
          computer.Settles m srcMath srcLane sinkLane sinkMath coefficient.rounded source target
            lane := by
      constructor
      · exact fun keeps => keeps source target lane sourceAt targetAt position takes
      · intro settles other other' lane' here there position' _
        obtain rfl := Option.some.inj (sourceAt.symm.trans here)
        obtain rfl := Option.some.inj (targetAt.symm.trans there)
        obtain rfl := Except.ok.inj (position.symm.trans position')
        exact settles
    rw [reduced]
    unfold Settles
    by_cases inside : -1 ≤ coefficient.rounded ∧ coefficient.rounded ≤ 1
    · rw [route_scaled located located' found position takes inside]
      have summation : (withFactor (withInput source lane srcMath) lane
          (.ofNumber coefficient inside)).iblock = source.iblock := rfl
      refine (rest_keeps found found' summation).trans ?_
      rw [withFactor_eq_self]
      simp only [Factor.val_ofNumber, inside, and_self, true_and, not_true_eq_false, false_or,
        and_assoc]
    · obtain ⟨error, raised⟩ : ∃ error, route srcMath srcLane sinkLane sinkMath coefficient
          (computer, m) = .error error _ :=
        route_refused_coefficient located located' found position takes inside
      rw [raised_iff raised, sameBlocks_setCluster found, withInput_eq_self]
      simp only [inside, false_and, not_false_eq_true, true_or, and_true, false_or,
        and_iff_left_iff_imp]
      exact fun _ => unchanged.2
  · have refuses : ∀ lane, Python.subscript 32 srcLane.laneId = .ok lane →
        ¬ source.ublock.Takes srcMath lane := fun lane position takes => taken ⟨lane, position, takes⟩
    obtain ⟨error, raised⟩ : ∃ error, route srcMath srcLane sinkLane sinkMath coefficient
        (computer, m) = .error error (computer, m) :=
      route_refused_input located located' found refuses
    rw [raised_iff raised]
    refine ⟨fun _ other other' lane here _ position takes => ?_, fun _ => unchanged⟩
    obtain rfl := Option.some.inj (sourceAt.symm.trans here)
    exact absurd takes (refuses lane position)

/-- A computer with one cluster, on which nothing has been connected. -/
def single : Computer where
  -- One carrier with one cluster and no T-block.
  carriers := [{
    path := ["A"]
    location := some ⟨0, 0⟩
    clusters := [⟨some ⟨0, 0, 0⟩, .new, .new, .new⟩]
    tblock := none
    st0block := none
    st1block := none
    st2block := none }]

/-- A coefficient out of range is refused when the U-block has been connected already. -/
theorem route_single {coefficient : Number}
    (outside : ¬ (-1 ≤ coefficient.rounded ∧ coefficient.rounded ≤ 1)) : ∃ error after,
    route 3 ⟨0, 0, 0, 8⟩ ⟨0, 0, 0, 8⟩ 0 coefficient (single, Memory.blank) = .error error after ∧
      ¬ SameBlocks (single, .blank) after := by
  have located : single.locate (⟨0, 0, 0, 8⟩ : LaneLoc).cluster = .ok (0, 0) := rfl
  have found : single.cluster? (0, 0) = some ⟨some ⟨0, 0, 0⟩, .new, .new, .new⟩ := rfl
  have position : Python.subscript 32 (⟨0, 0, 0, 8⟩ : LaneLoc).laneId = .ok 8 := rfl
  have free : UBlock.new.Takes 3 8 := .inl rfl
  obtain ⟨error, raised⟩ : ∃ error, route 3 ⟨0, 0, 0, 8⟩ ⟨0, 0, 0, 8⟩ 0 coefficient
      (single, Memory.blank) = .error error _ :=
    route_refused_coefficient located located found position free outside
  -- The input was connected before the coefficient was refused.
  refine ⟨error, _, raised, fun same => ?_⟩
  rw [sameBlocks_setCluster found, withInput_eq_self] at same
  exact absurd same.1 (by decide)

/-- The coefficient 2.0 is one of these. -/
theorem route_halfway : ∃ error after,
    route 3 ⟨0, 0, 0, 8⟩ ⟨0, 0, 0, 8⟩ 0 (.float .two) (single, Memory.blank) =
        .error error after ∧ ¬ SameBlocks (single, .blank) after :=
  route_single (by decide +kernel)

end Computer

end Pybrid
