import Pybrid.Library.Raising
import Pybrid.Library.Slots
import Pybrid.Lucipy.Shares

/-! What the lanes of a circuit contribute, and how configuring a lane changes it. -/

namespace Pybrid

namespace Circuit

/-- The factor of a lane, with its upscaling. -/
def gain (c : Circuit) (lane : Fin 32) : ℚ :=
  -- Upscaling multiplies behind the coefficient.
  (c.cblock.elements.get lane).val * if c.iblock.upscaling.get lane then 8 else 1

/-- What a lane contributes to the signal from some outputs to an input. -/
def contribution (c : Circuit) (outputs : Finset Int) (target : Fin 16) (lane : Fin 32) : ℚ :=
  -- Lanes of analog ports are not part of the general signals.
  if c.reserved lane = false ∧ (∃ output ∈ outputs, c.ublock.outputs.get lane = some output) ∧
      lane.val ∈ c.iblock.outputs.get target then c.gain lane
  else 0

/-- The total weight of the signals from some outputs to an input. -/
def laneSum (c : Circuit) (outputs : Finset Int) (target : Fin 16) : ℚ :=
  -- The lanes are summed whatever they belong to, since those that do not contribute are zero.
  ∑ lane, c.contribution outputs target lane

/--
The bookkeeping of the lanes.

A lane is used by a general signal or reserved by an analog port but never both, and a lane that
is neither has nothing connected to it.
-/
structure LanesTracked (c : Circuit) : Prop where
  /-- General signals keep off the lanes of analog ports. -/
  exclusive : ∀ lane, c.generalLanesUsed.get lane = true → c.reserved lane = false
  /-- Free lanes carry no signal. -/
  unselected : ∀ lane, c.generalLanesUsed.get lane = false → c.reserved lane = false →
    c.ublock.outputs.get lane = none
  /-- Free lanes are not summed. -/
  unsummed : ∀ lane, c.generalLanesUsed.get lane = false → c.reserved lane = false →
    ∀ target, lane.val ∉ c.iblock.outputs.get target
  /-- Only lanes of general signals are upscaled. -/
  unscaled : ∀ lane, c.generalLanesUsed.get lane = false → c.iblock.upscaling.get lane = false

/-- A fresh circuit has only free lanes. -/
theorem new_tracked (circuitId : Nat) : (new circuitId).LanesTracked := by
  -- No lane is used, and no port is allocated.
  constructor <;> simp [new, UBlock.new, IBlock.new, Vector.get_eq_getElem]

/-- A fresh circuit has no signals. -/
theorem new_laneSum (circuitId : Nat) (outputs : Finset Int) (target : Fin 16) :
    (new circuitId).laneSum outputs target = 0 := by
  -- No lane carries anything.
  simp [laneSum, contribution, new, UBlock.new, Vector.get_eq_getElem]

/-- The available lanes are the free ones. -/
theorem mem_availableLanes {c : Circuit} {lane : Fin 32} :
    lane ∈ c.availableLanes ↔ c.generalLanesUsed.get lane = false ∧ c.reserved lane = false := by
  -- The filter tests both flags.
  simp [availableLanes]

/-- Available lanes are listed once. -/
theorem availableLanes_nodup (c : Circuit) : c.availableLanes.Nodup :=
  (List.nodup_finRange 32).filter _

/-- The state after one lane was configured for a share of a weight. -/
def committed (c : Circuit) (source : Int) (target : Fin 16) (share : Number)
    (factor : Factor) (lane : Fin 32) : Circuit :=
  -- One position in each of the blocks, and the flag of the lane.
  { c with
    generalLanesUsed := c.generalLanesUsed.set lane.val true (lane_lt lane)
    ublock := { c.ublock with
      outputs := c.ublock.outputs.set lane.val (some source) (lane_lt lane) }
    cblock := ⟨c.cblock.elements.set lane.val factor (lane_lt lane)⟩
    iblock :=
      { upscaling :=
          if 1 < |share.value| then c.iblock.upscaling.set lane.val true (lane_lt lane)
          else c.iblock.upscaling
        outputs := c.iblock.outputs.set target.val
          (c.iblock.outputs.get target ∪ {lane.val}) (output_lt target) } }

/-- No output sums a free lane, so that any output can take it. -/
theorem LanesTracked.otherOutput_none {c : Circuit} (tracked : c.LanesTracked) {lane : Fin 32}
    (free : lane ∈ c.availableLanes) (target : Fin 16) :
    c.iblock.otherOutput {lane.val} target = none := by
  -- An output that sums the lane would make it a used one.
  obtain ⟨unused, unreserved⟩ := mem_availableLanes.mp free
  simp only [IBlock.otherOutput, List.find?_eq_none, List.mem_finRange, decide_eq_true_eq,
    not_and, forall_const]
  intro other _
  rw [Finset.not_nonempty_iff_eq_empty, Finset.inter_singleton_of_notMem]
  exact tracked.unsummed lane unused unreserved other

/-- A connection the selection block accepts. -/
theorem connectU_eq {c : Circuit} {source : Nat} {lane : Fin 32} {ublock : UBlock}
    (accepted : c.ublock.connect source [(lane.val : Int)] false = .ok ublock) :
    connectU source lane c = .ok () { c with ublock := ublock } := by
  -- The result of the block is kept.
  show keep (c.ublock.connect source [(lane.val : Int)] false) _ c = _
  rw [accepted]
  rfl

/-- A connection the summation block accepts. -/
theorem connectI_eq {c : Circuit} {lane : Fin 32} {target : Nat} {iblock : IBlock}
    (accepted : c.iblock.connect {lane.val} target false = .ok iblock) :
    connectI lane target c = .ok () { c with iblock := iblock } := by
  -- The result of the block is kept here too.
  show keep (c.iblock.connect {lane.val} target false) _ c = _
  rw [accepted]
  rfl

/-- The result of a calculation that succeeds. -/
theorem calculated_eq {α : Type} {result : Except PyError α} {value : α}
    (succeeds : result = .ok value) (c : Circuit) : calculated result c = .ok value c := by
  -- It leaves the circuit alone.
  rw [succeeds]
  rfl

/-- A factor the validator accepts. -/
theorem setFactor_eq {c : Circuit} {lane : Fin 32} {value : Number} {factor : Factor}
    (accepted : Factor.validate value = .ok factor) :
    setFactor lane value c =
      .ok () { c with cblock := ⟨c.cblock.elements.set lane.val factor lane.isLt⟩ } := by
  -- The validated factor is put into its lane.
  show keep (Factor.validate value) _ c = _
  rw [accepted]
  rfl

/-- Configuring a free lane succeeds. -/
theorem LanesTracked.commitLane_eq {c : Circuit} (tracked : c.LanesTracked) {lane : Fin 32}
    (free : lane ∈ c.availableLanes) (laneSource : Fin 32 → Nat) (target : Fin 16) {share : Number}
    (small : |share.value| ≤ 8) :
    ∃ factor : Factor, factor.val * (if 1 < |share.value| then 8 else 1) = share.rounded ∧
      commitLane laneSource target share lane c =
        .ok () (c.committed (laneSource lane) target share factor lane) := by
  obtain ⟨unused, unreserved⟩ := mem_availableLanes.mp free
  have selected := UBlock.connect_lane c.ublock (laneSource lane) lane
    (.inl (tracked.unselected lane unused unreserved))
  have vacant := tracked.otherOutput_none free target
  -- Marking the lane leaves the blocks alone, so that each of them accepts.
  let marked : Circuit :=
    { c with generalLanesUsed := c.generalLanesUsed.set lane.val true lane.isLt }
  let forked : Circuit := { marked with ublock := { c.ublock with
    outputs := c.ublock.outputs.set lane.val (some (laneSource lane : Int)) lane.isLt } }
  have mark : (modify fun c : Circuit => { c with
      generalLanesUsed := c.generalLanesUsed.set lane.val true lane.isLt } : CircuitM PUnit) c =
      .ok ⟨⟩ marked := rfl
  have fork : connectU (laneSource lane) lane marked = .ok () forked := connectU_eq selected
  rw [commitLane, Raising.bind_of_ok mark, Raising.bind_of_ok fork]
  -- What is left depends on whether the share needs upscaling.
  by_cases large : 1 < |share.value|
  · obtain ⟨scaled, factor, divided, valid, whole⟩ := factor_large large small
    let weighted : Circuit := { forked with
      cblock := ⟨c.cblock.elements.set lane.val factor lane.isLt⟩ }
    let upscaled : Circuit := { weighted with iblock := { c.iblock with
      upscaling := c.iblock.upscaling.set lane.val true lane.isLt } }
    have divide : calculated (share.divide 8) forked = .ok scaled forked := calculated_eq divided _
    have weigh : setFactor lane scaled forked = .ok () weighted := setFactor_eq valid
    have scale : setUpscaling lane weighted = .ok ⟨⟩ upscaled := rfl
    have sum : connectI lane target upscaled = .ok () _ :=
      connectI_eq (IBlock.connect_output upscaled.iblock {lane.val} target vacant)
    refine ⟨factor, by rw [if_pos large, whole], ?_⟩
    rw [if_pos large, Raising.bind_of_ok divide, Raising.bind_of_ok weigh, Raising.bind_of_ok scale]
    refine sum.trans ?_
    rw [committed, if_pos large]
  · obtain ⟨factor, valid, whole⟩ := factor_small large
    let weighted : Circuit := { forked with
      cblock := ⟨c.cblock.elements.set lane.val factor lane.isLt⟩ }
    have weigh : setFactor lane share forked = .ok () weighted := setFactor_eq valid
    have sum : connectI lane target weighted = .ok () _ :=
      connectI_eq (IBlock.connect_output weighted.iblock {lane.val} target vacant)
    refine ⟨factor, by rw [if_neg large, mul_one, whole], ?_⟩
    rw [if_neg large, Raising.bind_of_ok weigh]
    refine sum.trans ?_
    rw [committed, if_neg large]

/-- Analog ports reserve the same lanes as long as their allocation is the same. -/
theorem reserved_congr {c c' : Circuit} (inputs : c'.aclInUsed = c.aclInUsed)
    (outputs : c'.aclOutUsed = c.aclOutUsed) : c'.reserved = c.reserved := by
  -- The flags of the ports are all that reservation looks at.
  funext lane
  rw [reserved, reserved, inputs, outputs]

/--
A share was put on each of some free lanes.

The rest of the bookkeeping is as before.
-/
structure Spread (c c' : Circuit) (laneSource : Fin 32 → Nat) (target : Fin 16) (share : ℚ)
    (lanes : List (Fin 32)) : Prop where
  tracked : c'.LanesTracked
  circuitId_eq : c'.circuitId = c.circuitId
  aclInUsed_eq : c'.aclInUsed = c.aclInUsed
  aclOutUsed_eq : c'.aclOutUsed = c.aclOutUsed
  /-- Exactly these lanes became used. -/
  used : ∀ lane, c'.generalLanesUsed.get lane = (c.generalLanesUsed.get lane || decide (lane ∈ lanes))
  /-- Exactly these lanes were selected. -/
  selected : ∀ lane, c'.ublock.outputs.get lane =
    if lane ∈ lanes then some (laneSource lane : Int) else c.ublock.outputs.get lane
  /-- Every lane from one of the outputs adds its share, at this input only. -/
  sums : ∀ outputs input, c'.laneSum outputs input = c.laneSum outputs input +
    (lanes.map fun lane =>
      if input = target ∧ (laneSource lane : Int) ∈ outputs then share else 0).sum

/-- Configuring a lane keeps the bookkeeping. -/
theorem LanesTracked.committed {c : Circuit} (tracked : c.LanesTracked) {lane : Fin 32}
    (free : lane ∈ c.availableLanes) (source : Int) (target : Fin 16) (share : Number)
    (factor : Factor) : (c.committed source target share factor lane).LanesTracked := by
  obtain ⟨unused, unreserved⟩ := mem_availableLanes.mp free
  have same : (c.committed source target share factor lane).reserved = c.reserved :=
    reserved_congr rfl rfl
  -- Each clause is known for the other lanes, and the lane itself is used now.
  constructor
  · intro other
    rw [same]
    simp only [Circuit.committed, Slots.get_set]
    by_cases here : other = lane
    · simp [here, unreserved]
    · simpa [here] using tracked.exclusive other
  · intro other
    rw [same]
    simp only [Circuit.committed, Slots.get_set]
    by_cases here : other = lane
    · simp [here]
    · simpa [here] using tracked.unselected other
  · intro other
    rw [same]
    simp only [Circuit.committed, Slots.get_set]
    by_cases here : other = lane
    · simp [here]
    · intro vacant outside input
      have before := tracked.unsummed other (by simpa [here] using vacant) outside input
      have apart : other.val ≠ lane.val := fun equal => here (Fin.ext equal)
      by_cases there : input = target
      · subst there
        simpa [apart] using before
      · simpa [there] using before
  · intro other
    simp only [Circuit.committed, Slots.get_set]
    by_cases here : other = lane
    · simp [here]
    · intro vacant
      have before := tracked.unscaled other (by simpa [here] using vacant)
      split
      · simpa [Slots.get_set, here] using before
      · exact before

/-- A configured lane carries its share. -/
theorem LanesTracked.gain_committed {c : Circuit} (tracked : c.LanesTracked) {lane : Fin 32}
    (free : lane ∈ c.availableLanes) (source : Int) (target : Fin 16) {share : Number}
    {factor : Factor} (scaled : factor.val * (if 1 < |share.value| then 8 else 1) = share.rounded) :
    (c.committed source target share factor lane).gain lane = share.rounded := by
  have before := tracked.unscaled lane (mem_availableLanes.mp free).1
  simp only [gain, Circuit.committed, Slots.get_set, if_true]
  -- The lane was not upscaled before, so that it is now exactly if the share asks for it.
  by_cases large : 1 < |share.value|
  · simpa [large, Slots.get_set] using scaled
  · simpa [large, before] using scaled

/-- Configuring a lane adds its share, and leaves the other lanes alone. -/
theorem LanesTracked.contribution_committed {c : Circuit} (tracked : c.LanesTracked)
    {lane : Fin 32} (free : lane ∈ c.availableLanes) (source : Int) (target : Fin 16) {share : Number}
    {factor : Factor} (scaled : factor.val * (if 1 < |share.value| then 8 else 1) = share.rounded)
    (outputs : Finset Int) (input : Fin 16) (other : Fin 32) :
    (c.committed source target share factor lane).contribution outputs input other =
      c.contribution outputs input other +
        if other = lane then if input = target ∧ source ∈ outputs then share.rounded else 0 else 0 := by
  obtain ⟨unused, unreserved⟩ := mem_availableLanes.mp free
  have same : (c.committed source target share factor lane).reserved = c.reserved :=
    reserved_congr rfl rfl
  by_cases here : other = lane
  · -- The lane contributed nothing before, and contributes its share now.
    subst here
    have nothing : c.contribution outputs input other = 0 := by
      simp [contribution, tracked.unselected other unused unreserved]
    have output : (c.committed source target share factor other).ublock.outputs.get other =
        some source := by
      simp [Circuit.committed, Slots.get_set]
    have summed : other.val ∈ (c.committed source target share factor other).iblock.outputs.get
        input ↔ input = target := by
      simp only [Circuit.committed, Slots.get_set]
      by_cases there : input = target
      · simp [there]
      · simpa [there] using tracked.unsummed other unused unreserved input
    rw [nothing, zero_add, if_pos rfl, contribution, same,
      tracked.gain_committed free source target scaled, output]
    refine if_congr ?_ rfl rfl
    rw [summed]
    simp [unreserved, and_comm]
  · -- Another lane keeps its output, its sums and its factor.
    have apart : other.val ≠ lane.val := fun equal => here (Fin.ext equal)
    have output : (c.committed source target share factor lane).ublock.outputs.get other =
        c.ublock.outputs.get other := by
      simp [Circuit.committed, Slots.get_set, here]
    have summed : other.val ∈ (c.committed source target share factor lane).iblock.outputs.get
        input ↔ other.val ∈ c.iblock.outputs.get input := by
      simp only [Circuit.committed, Slots.get_set]
      by_cases there : input = target
      · simp [there, apart]
      · simp [there]
    have amplified : (c.committed source target share factor lane).gain other = c.gain other := by
      simp only [gain, Circuit.committed, Slots.get_set, if_neg here]
      split <;> simp [Slots.get_set, here]
    rw [if_neg here, add_zero, contribution, contribution, same, output, amplified]
    simp only [summed]

/-- Configuring one lane spreads a share over it. -/
theorem LanesTracked.committed_spread {c : Circuit} (tracked : c.LanesTracked) {lane : Fin 32}
    (free : lane ∈ c.availableLanes) (laneSource : Fin 32 → Nat) (target : Fin 16) {share : Number}
    {factor : Factor} (scaled : factor.val * (if 1 < |share.value| then 8 else 1) = share.rounded) :
    Spread c (c.committed (laneSource lane) target share factor lane) laneSource target
      share.rounded [lane] where
  tracked := tracked.committed free _ target share factor
  circuitId_eq := rfl
  aclInUsed_eq := rfl
  aclOutUsed_eq := rfl
  used other := by
    by_cases here : other = lane <;> simp [Circuit.committed, Slots.get_set, here]
  selected other := by
    by_cases here : other = lane <;> simp [Circuit.committed, Slots.get_set, here]
  sums outputs input := by
    -- The sum over all lanes changes at this lane only.
    simp only [laneSum, tracked.contribution_committed free _ target scaled,
      Finset.sum_add_distrib, Finset.sum_ite_eq', Finset.mem_univ, if_true, List.map_cons,
      List.map_nil, List.sum_cons, List.sum_nil, add_zero]

/-- A share is spread over no lanes by doing nothing. -/
theorem LanesTracked.spread_nil {c : Circuit} (tracked : c.LanesTracked)
    (laneSource : Fin 32 → Nat) (target : Fin 16) (share : ℚ) :
    Spread c c laneSource target share [] where
  tracked := tracked
  circuitId_eq := rfl
  aclInUsed_eq := rfl
  aclOutUsed_eq := rfl
  used _ := by simp
  selected _ := by simp
  sums _ _ := by simp

/-- Spreading a share over some lanes and then over others spreads it over all of them. -/
theorem Spread.append {c middle c' : Circuit} {laneSource : Fin 32 → Nat} {target : Fin 16}
    {share : ℚ} {lanes later : List (Fin 32)}
    (first : Spread c middle laneSource target share lanes)
    (second : Spread middle c' laneSource target share later) :
    Spread c c' laneSource target share (lanes ++ later) where
  tracked := second.tracked
  circuitId_eq := second.circuitId_eq.trans first.circuitId_eq
  aclInUsed_eq := second.aclInUsed_eq.trans first.aclInUsed_eq
  aclOutUsed_eq := second.aclOutUsed_eq.trans first.aclOutUsed_eq
  used lane := by
    rw [second.used, first.used, Bool.or_assoc]
    simp
  selected lane := by
    rw [second.selected, first.selected]
    by_cases here : lane ∈ later <;> simp [here]
  sums outputs input := by
    rw [second.sums, first.sums, List.map_append, List.sum_append, add_assoc]

/-- The lanes that are not part of the spread stay available. -/
theorem Spread.mem_availableLanes {c c' : Circuit} {laneSource : Fin 32 → Nat} {target : Fin 16}
    {share : ℚ} {lanes : List (Fin 32)} (spread : Spread c c' laneSource target share lanes)
    {lane : Fin 32} (free : lane ∈ c.availableLanes) (outside : lane ∉ lanes) :
    lane ∈ c'.availableLanes := by
  -- The flag of the lane is as before, and so are the ports.
  rw [Circuit.mem_availableLanes] at free ⊢
  rw [spread.used, reserved_congr spread.aclInUsed_eq spread.aclOutUsed_eq]
  simp [free, outside]

/-- The loop over free lanes returns, and spreads the share over them. -/
theorem LanesTracked.forM_spread (laneSource : Fin 32 → Nat) (target : Fin 16) {share : Number}
    (small : |share.value| ≤ 8) :
    ∀ (lanes : List (Fin 32)) {c : Circuit}, c.LanesTracked → lanes.Nodup →
      (∀ lane ∈ lanes, lane ∈ c.availableLanes) →
      ∃ c', lanes.forM (commitLane laneSource target share) c = .ok () c' ∧
        Spread c c' laneSource target share.rounded lanes := by
  -- The induction is on the lanes still to be configured.
  intro lanes
  induction lanes with
  | nil => exact fun tracked _ _ => ⟨_, rfl, tracked.spread_nil laneSource target share.rounded⟩
  | cons lane later ih =>
    intro c tracked nodup free
    obtain ⟨fresh, nodup⟩ := List.nodup_cons.mp nodup
    have here := free lane (by simp)
    obtain ⟨factor, scaled, returned⟩ := tracked.commitLane_eq here laneSource target small
    have first := tracked.committed_spread here laneSource target scaled
    -- The later lanes are other ones, and still free.
    have others : ∀ other ∈ later, other ≠ lane := by
      intro other member equal
      exact fresh (equal ▸ member)
    obtain ⟨c', rest, second⟩ := ih first.tracked nodup fun other member =>
      first.mem_availableLanes (free other (by simp [member])) (by simp [others other member])
    exact ⟨c', (Raising.bind_of_ok returned).trans rest, first.append second⟩

end Circuit

end Pybrid
