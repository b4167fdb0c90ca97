import Pybrid.Library.Slots
import Pybrid.Library.TwoRuns
import Pybrid.Redac.RouteAtomicity

/-! Routes inside a cluster, and the gain of its lanes over sequences of them. -/

namespace Pybrid

/-- Calls on a cluster raise, and keep what was changed before. -/
abbrev ClusterM := EStateM PyError ClusterObject

namespace ClusterObject

open Computer

/-- Change a cluster in place, unless that raises. -/
def change (work : ClusterObject → Except PyError ClusterObject) : ClusterM Unit := fun cluster =>
  match work cluster with
  | .ok changed => .ok () changed
  | .error error => .error error cluster

/-- A cluster with the upscaling of one lane enabled. -/
def withUpscaling (cluster : ClusterObject) (lane : Fin 32) : ClusterObject :=
  { cluster with
    iblock := { cluster.iblock with
      upscaling := cluster.iblock.upscaling.set lane.val true (lane_lt lane) } }

/-- Enable the upscaling of a lane. -/
def upscale (uOut : Int) (cluster : ClusterObject) : Except PyError ClusterObject :=
  (Python.subscript 32 uOut).map cluster.withUpscaling

/-- The factor for the coefficient, with the upscaling that makes up for a reduced one. -/
def scale (uOut : Int) (cFactor : Double) : ClusterM Double :=
  if 1 < |cFactor.val| then
    let reduced := cFactor.divide 8
    if 1 < |reduced.val| then
      throw ⟨.value, "Factor is still greater than 1, even after enabling up-scaling."⟩
    else do
      -- The up-scaling of the lane is enabled before anything is connected.
      change (upscale uOut)
      return reduced
  else return cFactor

/-- `Cluster.route`: from an input of the U-block over a lane to an output of the I-block. -/
def route (mOut uOut : Int) (cFactor : Double) (mIn : Int) : ClusterM Unit := do
  let cFactor ← scale uOut cFactor
  change (connectInput mOut uOut)
  change (setFactor uOut (.float cFactor))
  change (sumLane uOut mIn)

/-- Set the constant of the U-block. -/
def setConstant (value : ConstantValue) (cluster : ClusterObject) : ClusterObject :=
  { cluster with ublock := cluster.ublock.setConstant value }

/-- `Cluster.add_constant`: inject a constant and sum it. -/
def addConstant (uOut : Int) (cFactor : Double) (mIn : Int) (constantValue : ConstantValue) :
    ClusterM Unit := do
  modify (setConstant constantValue)
  let uIn := if uOut > 15 then 14 else 15
  route uIn uOut cFactor mIn

/-- The effective gain of a lane: its factor, and eight times that behind upscaling. -/
def gain (cluster : ClusterObject) (lane : Fin 32) : ℚ :=
  (cluster.cblock.elements.get lane).val * if cluster.iblock.upscaling.get lane then 8 else 1

/-- What a call may leave: the gain it was asked for on its lane, or nothing if it raised. -/
def Realises (before : ClusterObject) (uOut : Int) (cFactor : ℚ) :
    EStateM.Result PyError ClusterObject Unit → Prop
  | .ok () after => ∃ lane, Python.subscript 32 uOut = .ok lane ∧ after.gain lane = cFactor ∧
      ∀ other, other ≠ lane → after.gain other = before.gain other
  | .error _ after => ∀ lane, after.gain lane = before.gain lane

/-- When a call whose factor is within the range leaves what it may. -/
def KeepsLane (cluster : ClusterObject) (lane : Fin 32) (mOut uOut : Int) (cFactor : ℚ)
    (mIn : Int) : Prop :=
  if 1 < |cFactor| then
    if cluster.ublock.Takes mOut lane then
      -- The call changes the gain, also when the summation is refused.
      cluster.iblock.Takes uOut mIn ∨ cluster.gain lane = cFactor
    -- The lane is upscaled before the input is refused.
    else cluster.iblock.upscaling.get lane = true ∨ (cluster.cblock.elements.get lane).val = 0
  else cluster.ublock.Takes mOut lane →
    if cluster.iblock.Takes uOut mIn then
      -- The upscaling of an earlier call is not taken back.
      cluster.iblock.upscaling.get lane = false ∨ cFactor = 0
    else (cluster.cblock.elements.get lane).val = cFactor

/-- When a call leaves what it may. -/
def KeepsGain (cluster : ClusterObject) (mOut uOut : Int) (cFactor : ℚ) (mIn : Int) : Prop :=
  ∀ lane, Python.subscript 32 uOut = .ok lane → |cFactor| ≤ 8 →
    cluster.KeepsLane lane mOut uOut cFactor mIn

section Gains

variable {cluster : ClusterObject} {lane : Fin 32}

@[simp] theorem gain_withInput (mOut : Int) (other : Fin 32) :
    (withInput cluster lane mOut).gain other = cluster.gain other := rfl

@[simp] theorem gain_setConstant (value : ConstantValue) (other : Fin 32) :
    (setConstant value cluster).gain other = cluster.gain other := rfl

/-- A new factor is scaled as the lane is. -/
theorem gain_withFactor (factor : Factor) (other : Fin 32) :
    (withFactor cluster lane factor).gain other =
      if other = lane then factor.val * (if cluster.iblock.upscaling.get lane then 8 else 1)
      else cluster.gain other := by
  unfold gain withFactor
  rw [Slots.get_set]
  -- Only the factor of this lane has changed.
  by_cases same : other = lane
  · rw [if_pos same, if_pos same, same]
  · rw [if_neg same, if_neg same]

/-- Upscaling changes the gain of one lane. -/
theorem gain_withUpscaling (other : Fin 32) :
    (cluster.withUpscaling lane).gain other =
      if other = lane then (cluster.cblock.elements.get lane).val * 8 else cluster.gain other := by
  unfold gain withUpscaling
  rw [Slots.get_set]
  -- Only this lane is scaled up.
  by_cases same : other = lane
  · rw [if_pos same, if_pos same, same, if_pos rfl]
  · rw [if_neg same, if_neg same]

/-- Summing a lane changes no gain. -/
theorem gain_sumLane {summed : ClusterObject} {uOut mIn : Int}
    (returned : sumLane uOut mIn cluster = .ok summed) (other : Fin 32) :
    summed.gain other = cluster.gain other := by
  -- Summing a lane changes the I-block, and leaves its upscaling alone.
  obtain ⟨iblock, connected, rfl⟩ := map_eq_ok returned
  simp only [gain, (iblock_connect_sums connected).2.1]

end Gains

section Calls

variable {cluster : ClusterObject} {mOut uOut mIn : Int} {cFactor : Double} {lane : Fin 32}

/-- What a route does behind the upscaling. -/
def connectLane (mOut uOut mIn : Int) (factor : Double) : ClusterM Unit := do
  change (connectInput mOut uOut)
  change (setFactor uOut (.float factor))
  change (sumLane uOut mIn)

/-- A lane that does not exist raises before anything is written. -/
theorem route_outside {error : PyError} (position : Python.subscript 32 uOut = .error error) :
    ∃ error, route mOut uOut cFactor mIn cluster = .error error cluster := by
  have selects : ∃ error, connectInput mOut uOut cluster = .error error := by
    obtain ⟨raised, refused⟩ : ∃ raised, cluster.ublock.connect mOut [uOut] false = .error raised :=
      UBlock.connect_refuses fun lane found => by simp [position] at found
    exact ⟨raised, by simp only [connectInput, refused, Except.map]⟩
  -- A large factor is refused for its size or at the upscaling, a small one at the input.
  by_cases large : 1 < |cFactor.val|
  · by_cases huge : 1 < |(cFactor.divide 8).val|
    · exact ⟨_, Raising.bind_of_error (by simp only [scale, if_pos large, if_pos huge]; rfl)⟩
    · refine ⟨error, Raising.bind_of_error ?_⟩
      simp only [scale, if_pos large, if_neg huge]
      exact Raising.bind_of_error (by simp only [change, upscale, position, Except.map])
  · obtain ⟨raised, refused⟩ := selects
    have scaled : scale uOut cFactor cluster = .ok cFactor cluster := by
      simp only [scale, if_neg large]
      rfl
    refine ⟨raised, ?_⟩
    rw [route, Raising.bind_of_ok scaled]
    exact Raising.bind_of_error (by simp only [change, refused])

/-- A factor that upscaling does not reach raises at once. -/
theorem route_huge (huge : 8 < |cFactor.val|) :
    ∃ error, route mOut uOut cFactor mIn cluster = .error error cluster := by
  have large : 1 < |cFactor.val| := by linarith
  -- An eighth of the factor is still too large, and nothing has been changed yet.
  have reduced : 1 < |(cFactor.divide 8).val| := by
    rw [Double.val_divide_eight large.le, abs_div, abs_of_pos (by norm_num : (0 : ℚ) < 8)]
    linarith
  exact ⟨_, Raising.bind_of_error (by simp only [scale, if_pos large, if_pos reduced]; rfl)⟩

/-- A large factor is reduced, and the lane is upscaled before anything else is tried. -/
theorem route_large (position : Python.subscript 32 uOut = .ok lane) (large : 1 < |cFactor.val|)
    (bounded : |cFactor.val| ≤ 8) :
    route mOut uOut cFactor mIn cluster =
      connectLane mOut uOut mIn (cFactor.divide 8) (cluster.withUpscaling lane) := by
  have reduced : ¬ 1 < |(cFactor.divide 8).val| := by
    rw [Double.val_divide_eight large.le, abs_div, abs_of_pos (by norm_num : (0 : ℚ) < 8)]
    linarith
  -- The upscaling is on the cluster when the reduced factor is returned.
  have upscaled : change (upscale uOut) cluster = .ok () (cluster.withUpscaling lane) := by
    simp only [change, upscale, position, Except.map]
  have scaled : scale uOut cFactor cluster = .ok (cFactor.divide 8) (cluster.withUpscaling lane) := by
    simp only [scale, if_pos large, if_neg reduced]
    rw [Raising.bind_of_ok upscaled]
    rfl
  rw [route, Raising.bind_of_ok scaled]
  rfl

/-- A small factor is taken as it is, and no upscaling is touched. -/
theorem route_small (small : ¬ 1 < |cFactor.val|) :
    route mOut uOut cFactor mIn cluster = connectLane mOut uOut mIn cFactor cluster := by
  -- The factor goes to the C-block as it is.
  have scaled : scale uOut cFactor cluster = .ok cFactor cluster := by
    simp only [scale, if_neg small]
    rfl
  rw [route, Raising.bind_of_ok scaled]
  rfl

/-- An input that is refused stops the call. -/
theorem connectLane_busy (position : Python.subscript 32 uOut = .ok lane)
    (busy : ¬ cluster.ublock.Takes mOut lane) (factor : Double) :
    ∃ error, connectLane mOut uOut mIn factor cluster = .error error cluster := by
  -- The U-block carries another input on this lane.
  obtain ⟨error, refused⟩ : ∃ error, cluster.ublock.connect mOut [uOut] false = .error error := by
    refine UBlock.connect_refuses fun other found => ?_
    obtain rfl := Except.ok.inj (position.symm.trans found)
    exact busy
  exact ⟨error, Raising.bind_of_error (by simp only [change, connectInput, refused, Except.map])⟩

/-- Behind an accepted input the factor is written, whatever becomes of the summation. -/
theorem connectLane_taken (position : Python.subscript 32 uOut = .ok lane)
    (takes : cluster.ublock.Takes mOut lane) {factor : Double}
    (inside : -1 ≤ factor.val ∧ factor.val ≤ 1) :
    connectLane mOut uOut mIn factor cluster = change (sumLane uOut mIn)
      (withFactor (withInput cluster lane mOut) lane (.ofFloat factor inside)) := by
  have selected : change (connectInput mOut uOut) cluster = .ok () (withInput cluster lane mOut) := by
    simp only [change, connectInput, UBlock.connect_takes position takes, Except.map]
    rfl
  -- The factor is in range, so that the C-block takes it.
  have weighted : change (setFactor uOut (.float factor)) (withInput cluster lane mOut) =
      .ok () (withFactor (withInput cluster lane mOut) lane (.ofFloat factor inside)) := by
    simp only [change, setFactor, CBlock.assignFactor_float position inside, Except.map]
    rfl
  rw [connectLane, Raising.bind_of_ok selected, Raising.bind_of_ok weighted]

/-- The summation returns when the I-block takes the lane, and changes no gain. -/
theorem sumLane_outcome (cluster : ClusterObject) (uOut mIn : Int) :
    (cluster.iblock.Takes uOut mIn ∧ ∃ after, change (sumLane uOut mIn) cluster = .ok () after ∧
        ∀ other, after.gain other = cluster.gain other) ∨
      (¬ cluster.iblock.Takes uOut mIn ∧
        ∃ error, change (sumLane uOut mIn) cluster = .error error cluster) := by
  have outcome := cluster.iblock.connect_takes uOut mIn
  -- The I-block takes the lane or leaves everything as it was.
  cases summed : cluster.iblock.connect uOut mIn with
  | ok iblock =>
    have returned : sumLane uOut mIn cluster = .ok { cluster with iblock } := by
      simp only [sumLane, summed, Except.map]
    exact .inl ⟨outcome.mp ⟨iblock, summed⟩, _, by simp only [change, returned],
      gain_sumLane returned⟩
  | error error =>
    refine .inr ⟨fun takes => ?_, error, by simp only [change, sumLane, summed, Except.map]⟩
    obtain ⟨_, impossible⟩ := outcome.mpr takes
    cases summed.symm.trans impossible

/-- Where one gain is written, all are what they were if that one is. -/
theorem unchanged_iff {before after : ClusterObject} {lane : Fin 32} {value : ℚ}
    (written : ∀ other, after.gain other = if other = lane then value else before.gain other) :
    (∀ other, after.gain other = before.gain other) ↔ value = before.gain lane := by
  constructor
  · intro same
    have here := same lane
    rw [written lane, if_pos rfl] at here
    exact here
  -- The other lanes have not been written.
  · intro same other
    rw [written other]
    split
    · rename_i equal
      rw [equal, same]
    · rfl

/-- An upscaled lane has the gain it had if it was upscaled before, or has no factor. -/
theorem upscaled_iff : (∀ other, (cluster.withUpscaling lane).gain other = cluster.gain other) ↔
    cluster.iblock.upscaling.get lane = true ∨ (cluster.cblock.elements.get lane).val = 0 := by
  rw [unchanged_iff gain_withUpscaling, gain]
  -- A lane that was not scaled keeps its gain only if that is zero.
  cases cluster.iblock.upscaling.get lane with
  | true => simp
  | false =>
    simp only [Bool.false_eq_true, if_false, mul_one, false_or]
    constructor
    · intro same
      linarith
    · intro zero
      rw [zero, zero_mul]

/-- A lane that has been upscaled, given its input and its factor. -/
theorem gain_upscaled {factor : Factor} (other : Fin 32) :
    (withFactor (withInput (cluster.withUpscaling lane) lane mOut) lane factor).gain other =
      if other = lane then factor.val * 8 else cluster.gain other := by
  -- The factor is set on a lane that is scaled up already.
  have enabled : (cluster.withUpscaling lane).iblock.upscaling.get lane = true := by
    simp [withUpscaling, Vector.get_eq_getElem]
  rw [gain_withFactor]
  split
  · simp only [withInput, enabled, if_true]
  · rename_i different
    rw [gain_withInput, gain_withUpscaling, if_neg different]

/-- A call whose summation is the last thing that can go wrong. -/
theorem sumLane_realises {before written : ClusterObject} {value : ℚ}
    (position : Python.subscript 32 uOut = .ok lane)
    (gains : ∀ other, written.gain other = if other = lane then value else before.gain other) :
    before.Realises uOut cFactor.val (change (sumLane uOut mIn) written) ↔
      if written.iblock.Takes uOut mIn then value = cFactor.val else value = before.gain lane := by
  rcases sumLane_outcome written uOut mIn with ⟨takes, after, returned, kept⟩ | ⟨refuses, error, raised⟩
  · rw [returned, if_pos takes]
    have there : after.gain lane = value := by rw [kept, gains, if_pos rfl]
    -- The call returned, so the lane has to have the gain that was asked for.
    constructor
    · rintro ⟨lane', position', gained, -⟩
      obtain rfl := Except.ok.inj (position.symm.trans position')
      exact there.symm.trans gained
    · intro same
      refine ⟨lane, position, there.trans same, fun other different => ?_⟩
      rw [kept, gains, if_neg different]
  -- The call raised, so the lane has to have the gain it had before.
  · rw [raised, if_neg refuses]
    exact unchanged_iff gains

/-- A call with a large factor realises its gain exactly on this condition. -/
theorem route_large_realises (position : Python.subscript 32 uOut = .ok lane)
    (large : 1 < |cFactor.val|) (bounded : |cFactor.val| ≤ 8) :
    cluster.Realises uOut cFactor.val (route mOut uOut cFactor mIn cluster) ↔
      cluster.KeepsLane lane mOut uOut cFactor.val mIn := by
  rw [route_large position large bounded, KeepsLane, if_pos large]
  by_cases takes : cluster.ublock.Takes mOut lane
  · have eighth := Double.val_divide_eight large.le
    have inside : -1 ≤ (cFactor.divide 8).val ∧ (cFactor.divide 8).val ≤ 1 := by
      have := abs_le.mp bounded
      rw [eighth]
      constructor <;> linarith
    have upscaled : (cluster.withUpscaling lane).ublock.Takes mOut lane := takes
    rw [if_pos takes, connectLane_taken position upscaled inside,
      sumLane_realises position gain_upscaled]
    -- Neither the input nor the factor is asked for when the lane is summed.
    have same : (withFactor (withInput (cluster.withUpscaling lane) lane mOut) lane
        (.ofFloat _ inside)).iblock.Takes uOut mIn ↔ cluster.iblock.Takes uOut mIn := Iff.rfl
    have whole : (Factor.ofFloat _ inside).val * 8 = cFactor.val := by
      show (cFactor.divide 8).val * 8 = cFactor.val
      rw [eighth]
      ring
    by_cases summed : cluster.iblock.Takes uOut mIn
    · simp only [same, summed, if_true, whole, true_or]
    · simp only [same, summed, if_false, whole, false_or, eq_comm]
  · have upscaled : ¬ (cluster.withUpscaling lane).ublock.Takes mOut lane := takes
    obtain ⟨error, raised⟩ : ∃ error, connectLane mOut uOut mIn (cFactor.divide 8)
        (cluster.withUpscaling lane) = .error error (cluster.withUpscaling lane) :=
      connectLane_busy position upscaled _
    rw [if_neg takes, raised]
    exact upscaled_iff

/-- A call with a small factor realises its gain exactly on this condition. -/
theorem route_small_realises (position : Python.subscript 32 uOut = .ok lane)
    (small : ¬ 1 < |cFactor.val|) :
    cluster.Realises uOut cFactor.val (route mOut uOut cFactor mIn cluster) ↔
      cluster.KeepsLane lane mOut uOut cFactor.val mIn := by
  rw [route_small small, KeepsLane, if_neg small]
  by_cases takes : cluster.ublock.Takes mOut lane
  · have inside : -1 ≤ cFactor.val ∧ cFactor.val ≤ 1 := abs_le.mp (not_lt.mp small)
    have gains : ∀ other, (withFactor (withInput cluster lane mOut) lane
        (.ofFloat cFactor inside)).gain other =
          if other = lane then cFactor.val * (if cluster.iblock.upscaling.get lane then 8 else 1)
          else cluster.gain other := fun other => gain_withFactor _ other
    rw [connectLane_taken position takes inside, sumLane_realises position gains,
      imp_iff_right takes]
    have same : (withFactor (withInput cluster lane mOut) lane
        (.ofFloat cFactor inside)).iblock.Takes uOut mIn ↔ cluster.iblock.Takes uOut mIn := Iff.rfl
    rw [gain]
    -- The upscaling the lane happens to have decides.
    by_cases summed : cluster.iblock.Takes uOut mIn
    · rw [if_pos (same.mpr summed), if_pos summed]
      cases cluster.iblock.upscaling.get lane with
      | false => simp
      | true =>
        simp only [if_true, Bool.true_eq_false, false_or]
        constructor <;> intro value <;> linarith
    · rw [if_neg (same.not.mpr summed), if_neg summed]
      cases cluster.iblock.upscaling.get lane with
      | false => simp [eq_comm]
      | true =>
        simp only [if_true]
        constructor <;> intro value <;> linarith
  · obtain ⟨error, raised⟩ : ∃ error, connectLane mOut uOut mIn cFactor cluster =
        .error error cluster := connectLane_busy position takes _
    rw [raised]
    exact ⟨fun _ impossible => absurd impossible takes, fun _ _ => rfl⟩

/-- A call realises the gain it was asked for exactly on this condition. -/
theorem route_realises_iff (cluster : ClusterObject) (mOut uOut : Int) (cFactor : Double) (mIn : Int) :
    cluster.Realises uOut cFactor.val (route mOut uOut cFactor mIn cluster) ↔
      cluster.KeepsGain mOut uOut cFactor.val mIn := by
  cases position : Python.subscript 32 uOut with
  | error error =>
    obtain ⟨_, raised⟩ : ∃ error, route mOut uOut cFactor mIn cluster = .error error cluster :=
      route_outside position
    rw [raised]
    exact ⟨fun _ _ found => by simp [position] at found, fun _ _ => rfl⟩
  | ok lane =>
    -- The lane is the one that its number stands for.
    have reduced : cluster.KeepsGain mOut uOut cFactor.val mIn ↔
        (|cFactor.val| ≤ 8 → cluster.KeepsLane lane mOut uOut cFactor.val mIn) := by
      constructor
      · exact fun keeps => keeps lane position
      · intro keeps other found
        obtain rfl := Except.ok.inj (position.symm.trans found)
        exact keeps
    rw [reduced]
    by_cases bounded : |cFactor.val| ≤ 8
    · rw [imp_iff_right bounded]
      by_cases large : 1 < |cFactor.val|
      · exact route_large_realises position large bounded
      · exact route_small_realises position large
    · obtain ⟨error, raised⟩ : ∃ error, route mOut uOut cFactor mIn cluster = .error error cluster :=
        route_huge (not_le.mp bounded)
      rw [raised]
      exact ⟨fun _ impossible => absurd impossible bounded, fun _ _ => rfl⟩

end Calls

end ClusterObject

/-- A call on a cluster that routes. -/
inductive ClusterCall where
  | route (mOut uOut : Int) (cFactor : Double) (mIn : Int)
  | addConstant (uOut : Int) (cFactor : Double) (mIn : Int) (constantValue : ConstantValue)

namespace ClusterCall

open ClusterObject Computer

/-- Make the call. -/
def run : ClusterCall → ClusterM Unit
  | .route mOut uOut cFactor mIn => ClusterObject.route mOut uOut cFactor mIn
  | .addConstant uOut cFactor mIn constantValue =>
    ClusterObject.addConstant uOut cFactor mIn constantValue

/-- The cluster behind a call, whether it returned or raised. -/
def step (cluster : ClusterObject) (call : ClusterCall) : ClusterObject :=
  Raising.final (call.run cluster)

/-- The call leaves the gain it was asked for, or no change if it raised. -/
def Realised (cluster : ClusterObject) : ClusterCall → Prop
  | .route mOut uOut cFactor mIn =>
    cluster.Realises uOut cFactor.val (ClusterObject.route mOut uOut cFactor mIn cluster)
  | .addConstant uOut cFactor mIn constantValue => cluster.Realises uOut cFactor.val
      (ClusterObject.addConstant uOut cFactor mIn constantValue cluster)

/-- When the call leaves what it may. -/
def Keeps (cluster : ClusterObject) : ClusterCall → Prop
  | .route mOut uOut cFactor mIn => cluster.KeepsGain mOut uOut cFactor.val mIn
  | .addConstant uOut cFactor mIn _ =>
    cluster.KeepsGain (if uOut > 15 then 14 else 15) uOut cFactor.val mIn

/-- One call, on any cluster. -/
theorem realised_iff (cluster : ClusterObject) (call : ClusterCall) :
    Realised cluster call ↔ Keeps cluster call := by
  cases call with
  | route mOut uOut cFactor mIn => exact route_realises_iff cluster mOut uOut cFactor mIn
  | addConstant uOut cFactor mIn constantValue =>
    -- The constant is set first, which no gain and no check depends on.
    exact route_realises_iff (setConstant constantValue cluster) _ uOut cFactor mIn

/-- Over a sequence of calls every one realises its gain exactly if each meets the condition. -/
theorem calls_realised_iff (cluster : ClusterObject) (calls : List ClusterCall) :
    TwoRuns.Throughout step Realised cluster calls ↔ TwoRuns.Throughout step Keeps cluster calls := by
  -- The calls are judged one by one, each at the cluster it finds.
  induction calls generalizing cluster with
  | nil => exact Iff.rfl
  | cons call later ih => exact and_congr (realised_iff cluster call) (ih _)

/-- A new cluster. -/
def fresh : ClusterObject := ⟨some ⟨0, 0, 0⟩, .new, .new, .new⟩

/-- A lane that carried a large weight and is reused with a small one is still upscaled. -/
theorem fresh_reused {first second : Double} (large : 1 < |first.val|) (bounded : |first.val| ≤ 8)
    (small : ¬ 1 < |second.val|) (nonzero : second.val ≠ 0) :
    ¬ TwoRuns.Throughout step Realised fresh [.route 0 0 first 0, .route 0 0 second 0] := by
  rintro ⟨-, second, -⟩
  have taken : Python.subscript 32 0 = .ok 0 := rfl
  have inside : -1 ≤ (first.divide 8).val ∧ (first.divide 8).val ≤ 1 := by
    have := abs_le.mp bounded
    rw [Double.val_divide_eight large.le]
    constructor <;> linarith
  -- Behind the first call the lane is upscaled and carries the input, and the output sums it.
  have behind : step fresh (.route 0 0 first 0) = Raising.final (change (sumLane 0 0)
      (withFactor (withInput (fresh.withUpscaling 0) 0 0) 0 (.ofFloat _ inside))) := by
    rw [step, run, route_large taken large bounded, connectLane_taken taken (.inl rfl) inside]
  -- The I-block does not depend on the factor, so that it can be computed without it.
  have summed : (Raising.final (change (sumLane 0 0) (fresh.withUpscaling 0))).iblock.Takes 0 0 := by
    decide +kernel
  obtain ⟨middle, reached, takes, sums, upscaled⟩ : ∃ middle,
      step fresh (.route 0 0 first 0) = middle ∧ middle.ublock.Takes 0 0 ∧
        middle.iblock.Takes 0 0 ∧ middle.iblock.upscaling.get 0 = true :=
    ⟨_, behind, .inr rfl, summed, rfl⟩
  rw [realised_iff, reached] at second
  have keeps := second 0 taken (by linarith)
  rw [ClusterObject.KeepsLane, if_neg small, if_pos sums] at keeps
  rcases keeps takes with unscaled | zero
  · rw [upscaled] at unscaled
    cases unscaled
  · exact nonzero zero

/-- A lane that carried the weight 4 and is reused with the weight one half has the gain 4. -/
theorem calls_reused :
    ¬ TwoRuns.Throughout step Realised fresh
      [.route 0 0 .four 0, .route 0 0 .half 0] :=
  fresh_reused (by decide +kernel) (by decide +kernel) (by decide +kernel) (by decide +kernel)

end ClusterCall

end Pybrid
