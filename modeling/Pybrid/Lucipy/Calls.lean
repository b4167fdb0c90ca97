import Pybrid.Lucipy.Lanes

/-! What every call on a circuit does to its lanes. -/

namespace Pybrid

namespace Circuit

/-- A lane is reserved when one of the analog ports on it is allocated. -/
theorem reserved_iff {c : Circuit} {lane : Fin 32} :
    c.reserved lane = true ↔ ∃ port, lane = aclLane port ∧
      (c.aclInUsed.get port = true ∨ c.aclOutUsed.get port = true) := by
  -- Only the last eight lanes are shared with ports, each with one of either direction.
  unfold reserved
  constructor
  · intro held
    split at held
    case isTrue high =>
      refine ⟨⟨lane.val - 24, by omega⟩, Fin.ext ?_, by simpa using held⟩
      show lane.val = 24 + (lane.val - 24)
      omega
    case isFalse => cases held
  · intro found
    obtain ⟨port, rfl, held⟩ := found
    have high : 24 ≤ (aclLane port).val := by simp [aclLane]
    simpa [high, aclLane] using held

/--
The general signals are kept.

Analog ports can be allocated on free lanes, and reserved lanes can be configured.
-/
structure LanesKept (c c' : Circuit) : Prop where
  circuitId_eq : c'.circuitId = c.circuitId
  used_eq : c'.generalLanesUsed = c.generalLanesUsed
  upscaling_eq : c'.iblock.upscaling = c.iblock.upscaling
  /-- Analog ports stay allocated. -/
  aclIn : ∀ port, c.aclInUsed.get port = true → c'.aclInUsed.get port = true
  aclOut : ∀ port, c.aclOutUsed.get port = true → c'.aclOutUsed.get port = true
  /-- Only free lanes become reserved. -/
  exclusive : ∀ lane, c'.reserved lane = true → c.reserved lane = false →
    c.generalLanesUsed.get lane = false
  /-- A lane keeps the output it carries. -/
  grown : ∀ lane output, c.ublock.outputs.get lane = some output →
    c'.ublock.outputs.get lane = some output
  /-- Lanes that are not reserved keep their configuration. -/
  selected : ∀ lane, c'.reserved lane = false →
    c'.ublock.outputs.get lane = c.ublock.outputs.get lane
  factor : ∀ lane, c'.reserved lane = false →
    c'.cblock.elements.get lane = c.cblock.elements.get lane
  summed : ∀ lane, c'.reserved lane = false → ∀ target,
    (lane.val ∈ c'.iblock.outputs.get target ↔ lane.val ∈ c.iblock.outputs.get target)

namespace LanesKept

variable {c c' : Circuit}

/-- A lane that is not reserved now was not reserved before. -/
theorem unreserved (kept : LanesKept c c') {lane : Fin 32} (now : c'.reserved lane = false) :
    c.reserved lane = false := by
  -- A port on the lane would still be allocated.
  by_contra held
  obtain ⟨port, rfl, allocated⟩ := reserved_iff.mp (Bool.eq_true_of_not_eq_false held)
  have still : c'.reserved (aclLane port) = true :=
    reserved_iff.mpr ⟨port, rfl, allocated.imp (kept.aclIn port) (kept.aclOut port)⟩
  rw [still] at now
  cases now

/-- The bookkeeping of the lanes is kept. -/
theorem tracked (kept : LanesKept c c') (before : c.LanesTracked) : c'.LanesTracked where
  exclusive lane used := by
    rw [kept.used_eq] at used
    by_contra held
    have held := Bool.eq_true_of_not_eq_false held
    have free := kept.exclusive lane held (before.exclusive lane used)
    rw [used] at free
    cases free
  unselected lane unused now := by
    rw [kept.selected lane now]
    exact before.unselected lane (kept.used_eq ▸ unused) (kept.unreserved now)
  unsummed lane unused now target := by
    rw [kept.summed lane now target]
    exact before.unsummed lane (kept.used_eq ▸ unused) (kept.unreserved now) target
  unscaled lane unused := by
    rw [kept.upscaling_eq]
    exact before.unscaled lane (kept.used_eq ▸ unused)

/-- The weights of the general signals are kept. -/
theorem laneSum_eq (kept : LanesKept c c') (before : c.LanesTracked) (outputs : Finset Int)
    (target : Fin 16) : c'.laneSum outputs target = c.laneSum outputs target := by
  -- The sums agree lane by lane.
  apply Finset.sum_congr rfl
  intro lane _
  cases now : c'.reserved lane with
  | true =>
    -- A lane that has just become reserved was free, and carried no signal.
    have nothing : c.contribution outputs target lane = 0 := by
      cases held : c.reserved lane with
      | true => simp [contribution, held]
      | false =>
        simp [contribution, before.unselected lane (kept.exclusive lane now held) held]
    rw [nothing]
    simp [contribution, now]
  | false =>
    simp only [contribution, gain, now, kept.unreserved now, kept.selected lane now,
      kept.factor lane now, kept.summed lane now target, kept.upscaling_eq]

/-- Allocating ports on unused lanes keeps the general signals. -/
theorem of_ports (circuitId : c'.circuitId = c.circuitId)
    (used : c'.generalLanesUsed = c.generalLanesUsed)
    (aclIn : ∀ port, c.aclInUsed.get port = true → c'.aclInUsed.get port = true)
    (aclOut : ∀ port, c.aclOutUsed.get port = true → c'.aclOutUsed.get port = true)
    (fresh : ∀ port, c'.aclInUsed.get port = true ∨ c'.aclOutUsed.get port = true →
      (c.aclInUsed.get port = true ∨ c.aclOutUsed.get port = true) ∨
        c.generalLanesUsed.get (aclLane port) = false)
    (selected : c'.ublock.outputs = c.ublock.outputs) (factors : c'.cblock = c.cblock)
    (summed : c'.iblock = c.iblock) : LanesKept c c' where
  -- The blocks are the same, so that only the newly reserved lanes need an argument.
  circuitId_eq := circuitId
  used_eq := used
  upscaling_eq := by rw [summed]
  aclIn := aclIn
  aclOut := aclOut
  exclusive lane now before := by
    obtain ⟨port, rfl, allocated⟩ := reserved_iff.mp now
    apply (fresh port allocated).resolve_left
    intro held
    rw [reserved_iff.mpr ⟨port, rfl, held⟩] at before
    cases before
  grown lane output carried := by rw [selected, carried]
  selected lane _ := by rw [selected]
  factor lane _ := by rw [factors]
  summed lane _ target := by rw [summed]

/-- Calls that leave the blocks and the ports alone keep the general signals. -/
theorem of_eq (circuitId : c'.circuitId = c.circuitId)
    (used : c'.generalLanesUsed = c.generalLanesUsed) (aclIn : c'.aclInUsed = c.aclInUsed)
    (aclOut : c'.aclOutUsed = c.aclOutUsed) (selected : c'.ublock.outputs = c.ublock.outputs)
    (factors : c'.cblock = c.cblock) (summed : c'.iblock = c.iblock) : LanesKept c c' := by
  -- Ports that are the same are in particular still allocated.
  refine of_ports circuitId used ?_ ?_ ?_ selected factors summed
  · exact fun port held => by rw [aclIn, held]
  · exact fun port held => by rw [aclOut, held]
  · exact fun port held => .inl (by rwa [aclIn, aclOut] at held)

/-- Doing nothing keeps the general signals. -/
protected theorem refl (c : Circuit) : LanesKept c c := of_eq rfl rfl rfl rfl rfl rfl rfl

end LanesKept

/-- The port that an element stands for, if it does, is allocated. -/
def PortAllocated (c : Circuit) : ElementKind → Prop
  | .input port => c.aclInUsed.get port = true
  | .output port => c.aclOutUsed.get port = true
  | _ => True

/-- Ports stay allocated. -/
theorem LanesKept.portAllocated {c c' : Circuit} (kept : LanesKept c c') {kind : ElementKind}
    (allocated : c.PortAllocated kind) : c'.PortAllocated kind := by
  -- Elements that are no ports need nothing.
  cases kind with
  | input port => exact kept.aclIn port allocated
  | output port => exact kept.aclOut port allocated
  | _ => trivial

/-- Spreading leaves the ports alone. -/
theorem Spread.portAllocated {c c' : Circuit} {laneSource : Fin 32 → Nat} {target : Fin 16}
    {share : ℚ} {lanes : List (Fin 32)} (spread : Spread c c' laneSource target share lanes)
    {kind : ElementKind} (allocated : c.PortAllocated kind) : c'.PortAllocated kind := by
  -- The allocation of the ports is the same before and after.
  cases kind with
  | input port =>
    show c'.aclInUsed.get port = true
    rw [spread.aclInUsed_eq]
    exact allocated
  | output port =>
    show c'.aclOutUsed.get port = true
    rw [spread.aclOutUsed_eq]
    exact allocated
  | _ => trivial

/-- Spreading over free lanes keeps what the lanes carry. -/
theorem Spread.grown {c c' : Circuit} {laneSource : Fin 32 → Nat} {target : Fin 16} {share : ℚ}
    {lanes : List (Fin 32)} (spread : Spread c c' laneSource target share lanes)
    (tracked : c.LanesTracked) (free : ∀ lane ∈ lanes, lane ∈ c.availableLanes) {lane : Fin 32}
    {output : Int} (carried : c.ublock.outputs.get lane = some output) :
    c'.ublock.outputs.get lane = some output := by
  -- The lanes of the spread were free, and carried nothing.
  have outside : lane ∉ lanes := by
    intro member
    obtain ⟨unused, unreserved⟩ := Circuit.mem_availableLanes.mp (free lane member)
    rw [tracked.unselected lane unused unreserved] at carried
    cases carried
  rw [spread.selected, if_neg outside, carried]

/-- An allocation keeps the general signals, and hands out an element with its port allocated. -/
structure Allocates (c : Circuit) (result : EStateM.Result PyError Circuit Element) : Prop where
  kept : LanesKept c (Raising.final result)
  handed : ∀ element c', result = .ok element c' → c'.PortAllocated element.kind

namespace Allocates

/-- Raising without a change hands out nothing. -/
theorem error (c : Circuit) (error : PyError) : Allocates c (.error error c) :=
  ⟨.refl c, fun _ _ returned => by cases returned⟩

/-- Returning an element whose port is allocated. -/
theorem ok {c c' : Circuit} {element : Element} (kept : LanesKept c c')
    (allocated : c'.PortAllocated element.kind) : Allocates c (.ok element c') :=
  ⟨kept, fun _ _ returned => by cases returned; exact allocated⟩

end Allocates

/-- Allocating an integrator. -/
theorem int_allocates (c : Circuit) (ic : ℚ) (slow : Bool) : Allocates c (int ic slow c) := by
  -- Without a free integrator the call raises before it changes anything.
  rw [int, Raising.get_bind]
  cases nextFree c.integratorsUsed with
  | none => exact .error c _
  | some idx => exact .ok (.of_eq rfl rfl rfl rfl rfl rfl rfl) trivial

/-- Allocating a multiplier. -/
theorem mul_allocates (c : Circuit) : Allocates c (mul c) := by
  -- Likewise for the multipliers.
  rw [mul, Raising.get_bind]
  cases nextFree c.multipliersUsed with
  | none => exact .error c _
  | some idx => exact .ok (.of_eq rfl rfl rfl rfl rfl rfl rfl) trivial

/-- Allocating a constant. -/
theorem const_allocates (c : Circuit) (value : ConstantValue) :
    Allocates c (const value c) := by
  -- The constant is a setting of the selection block beside its lanes.
  rw [const, Raising.get_bind]
  by_cases full : 2 ≤ c.constantsAllocated
  · rw [if_pos full]
    exact .error c _
  · rw [if_neg full]
    exact .ok (.of_eq rfl rfl rfl rfl rfl rfl rfl) trivial

/-- Marking a port allocates it, and no other one. -/
theorem marked_iff {used : Vector Bool 8} {port other : Fin 8} :
    (used.set port.val true port.isLt).get other = true ↔ other = port ∨ used.get other = true := by
  rw [Slots.get_set]
  by_cases here : other = port <;> simp [here]

/-- Allocating an analog input port; its lane is free or reserved already. -/
theorem input_allocates (c : Circuit) (port : Option (Fin 8)) : Allocates c (input port c) := by
  -- The port is chosen, then its lane is tested, and only then it is marked.
  rw [input, Raising.get_bind]
  cases choosePort "ACL_IN" c.aclInUsed port with
  | error error => exact .error c _
  | ok port =>
    cases busy : c.generalLanesUsed.get (aclLane port) with
    | true =>
      simp only [busy]
      exact .error c _
    | false =>
      simp only [busy]
      refine .ok (.of_ports rfl rfl ?_ (fun _ held => held) ?_ rfl rfl rfl) ?_
      · exact fun other held => marked_iff.mpr (.inr held)
      · -- The lane of this port is not used, and the other ports are as they were.
        intro other held
        rcases held with marked | elsewhere
        · rcases marked_iff.mp marked with rfl | before
          · exact .inr busy
          · exact .inl (.inl before)
        · exact .inl (.inr elsewhere)
      · exact marked_iff.mpr (.inl rfl)

/-- Allocating an analog output port; its lane is free or reserved already. -/
theorem output_allocates (c : Circuit) (port : Option (Fin 8)) : Allocates c (output port c) := by
  -- The same steps on the other direction.
  rw [output, Raising.get_bind]
  cases choosePort "ACL_OUT" c.aclOutUsed port with
  | error error => exact .error c _
  | ok port =>
    cases busy : c.generalLanesUsed.get (aclLane port) with
    | true =>
      simp only [busy]
      exact .error c _
    | false =>
      simp only [busy]
      refine .ok (.of_ports rfl rfl (fun _ held => held) ?_ ?_ rfl rfl rfl) ?_
      · exact fun other held => marked_iff.mpr (.inr held)
      · intro other held
        rcases held with elsewhere | marked
        · exact .inl (.inl elsewhere)
        · rcases marked_iff.mp marked with rfl | before
          · exact .inr busy
          · exact .inl (.inr before)
      · exact marked_iff.mpr (.inl rfl)

/-- Assigning a channel keeps the general signals. -/
theorem probeAdc_kept (c : Circuit) (source : Element) (adcChannel : Option Int) :
    LanesKept c (Raising.final (probeAdc source adcChannel c)) := by
  -- Channels are kept apart from the lanes.
  rw [probeAdc, Raising.get_bind]
  cases c.chooseChannel adcChannel with
  | error error => exact .refl c
  | ok channel =>
    by_cases inside : 0 ≤ channel ∧ channel < 8
    · simp only [dif_pos inside]
      cases c.adcConfig.get ⟨channel.toNat, by omega⟩ with
      | some _ => exact .refl c
      | none =>
        cases source.kind.sourceOutputLane with
        | none => exact .refl c
        | some lane => exact .of_eq rfl rfl rfl rfl rfl rfl rfl
    · simp only [dif_neg inside]
      exact .refl c

/-- Measuring keeps the general signals. -/
theorem probe_kept (c : Circuit) (source : Element) (adcChannel : Option Int) :
    LanesKept c (Raising.final (probe source adcChannel c)) := by
  -- The ownership checks come first and change nothing.
  rw [probe, Raising.get_bind]
  by_cases dangling : source.circuitId = none
  · rw [if_pos dangling]
    exact .refl c
  · rw [if_neg dangling]
    by_cases foreign : source.circuitId ≠ some c.circuitId
    · rw [if_pos foreign]
      exact .refl c
    · rw [if_neg foreign]
      exact probeAdc_kept c source adcChannel

/-- The shares add up to what the lanes carry together. -/
theorem sum_shares {weight : ℚ} {lanes : List (Fin 32)} (count : lanes.length = lanesFor weight) :
    (lanes.map fun _ => Doubles.round (weight / lanesFor weight)).sum = carried weight := by
  -- As many equal shares as lanes were needed.
  rw [List.map_const', List.sum_replicate, count, nsmul_eq_mul, carried]

/-- The number of available lanes counts the lanes that are neither used nor reserved. -/
theorem length_availableLanes (c : Circuit) :
    c.availableLanes.length =
      (Finset.univ.filter fun lane =>
        c.generalLanesUsed.get lane = false ∧ c.reserved lane = false).card := by
  -- The list has no duplicates, so that its length is the size of a set.
  rw [← List.toFinset_card_of_nodup c.availableLanes_nodup]
  congr 1
  ext lane
  simp [mem_availableLanes]

/-- There are 32 lanes. -/
theorem length_availableLanes_le (c : Circuit) : c.availableLanes.length ≤ 32 :=
  (List.length_filter_le _ _).trans (List.length_finRange).le

/-- What kind of error a weight has that needs too many lanes: most are counted, and found short. -/
def ShortKind (weight : Number) (kind : ErrorKind) : Prop :=
  kind = .overflow ∧ Overflows weight ∨ kind = .value ∧ ¬ Overflows weight

/-- Without enough free lanes, a general connection raises and changes nothing. -/
theorem connectGeneral_error {c : Circuit} {weight : Number}
    (short : c.availableLanes.length < lanesFor weight.value) (laneSource : Fin 32 → Nat)
    (target : Nat) :
    ∃ error, connectGeneral laneSource target weight c = .error error c ∧
      ShortKind weight error.kind := by
  rw [connectGeneral, Raising.get_bind]
  by_cases overflows : Overflows weight
  · -- The number of lanes cannot even be calculated.
    obtain ⟨error, raised, kind⟩ := lanesNeeded_error overflows
    refine ⟨error, ?_, .inl ⟨kind, overflows⟩⟩
    rw [raised]
    rfl
  · -- The lanes are counted before the first of them is touched.
    obtain ⟨needed, counted, number⟩ := lanesNeeded_ok overflows
    have few : c.availableLanes.length < needed := by
      have total := c.length_availableLanes_le
      omega
    rw [Raising.bind_of_ok (calculated_eq counted c)]
    simp only [if_pos few]
    exact ⟨_, rfl, .inr ⟨rfl, overflows⟩⟩

/-- With enough free lanes, a general connection goes over the first of them. -/
theorem connectGeneral_eq {c : Circuit} {weight : Number}
    (enough : lanesFor weight.value ≤ c.availableLanes.length) (laneSource : Fin 32 → Nat)
    (target : Nat) :
    ∃ share : Number, |share.value| ≤ 8 ∧
      share.rounded = Doubles.round (weight.value / lanesFor weight.value) ∧
      connectGeneral laneSource target weight c =
        (c.availableLanes.take (lanesFor weight.value)).forM
          (commitLane laneSource target share) c := by
  have total := c.length_availableLanes_le
  have counted : ¬ Overflows weight := by
    intro overflows
    have := overflows.lt_lanesFor
    omega
  obtain ⟨needed, counted, number⟩ := lanesNeeded_ok counted
  -- The number of lanes is not one that is beyond all of them.
  obtain rfl : needed = lanesFor weight.value := by omega
  obtain ⟨share, divided, small, rounded⟩ := share_ok weight
  refine ⟨share, small, rounded, ?_⟩
  rw [connectGeneral, Raising.get_bind, Raising.bind_of_ok (calculated_eq counted c)]
  simp only [if_neg (not_lt.mpr enough)]
  exact Raising.bind_of_ok (calculated_eq divided c)

/-- The loop over the first of the free lanes spreads the weight over them. -/
theorem LanesTracked.connectGeneral_ok {c : Circuit} (tracked : c.LanesTracked) {weight : Number}
    (enough : lanesFor weight.value ≤ c.availableLanes.length) (laneSource : Fin 32 → Nat)
    (target : Fin 16) :
    ∃ c', connectGeneral laneSource target weight c = .ok () c' ∧
      Spread c c' laneSource target (Doubles.round (weight.value / lanesFor weight.value))
        (c.availableLanes.take (lanesFor weight.value)) := by
  obtain ⟨share, small, rounded, same⟩ := connectGeneral_eq enough laneSource target.val
  rw [same, ← rounded]
  -- The first of the available lanes are free and all different.
  apply forM_spread laneSource target small _ tracked
  · exact c.availableLanes_nodup.sublist (List.take_sublist _ _)
  · exact fun lane member => List.mem_of_mem_take member

/-- Connecting a lane on the selection block raises, or lets the lane carry the source. -/
theorem connectU_cases (c : Circuit) (source : Nat) (lane : Fin 32) :
    (∃ error, connectU source lane c = .error error c) ∨
      (∀ output, c.ublock.outputs.get lane = some output → output = source) ∧
        connectU source lane c = .ok () { c with ublock := { c.ublock with
          outputs := c.ublock.outputs.set lane.val (some (source : Int)) lane.isLt } } := by
  -- What the lane carries decides: nothing or the same source is fine.
  by_cases other : ∃ output, c.ublock.outputs.get lane = some output ∧ output ≠ source
  · obtain ⟨output, busy, other⟩ := other
    obtain ⟨error, refused⟩ := UBlock.connect_lane_error busy other
    refine .inl ⟨error, ?_⟩
    show keep (c.ublock.connect source [(lane.val : Int)] false) _ c = _
    rw [refused]
    rfl
  · have agrees : ∀ output, c.ublock.outputs.get lane = some output → output = source := by
      intro output carried
      by_contra differs
      exact other ⟨output, carried, differs⟩
    refine .inr ⟨agrees, connectU_eq (UBlock.connect_lane c.ublock source lane ?_)⟩
    cases carried : c.ublock.outputs.get lane with
    | none => exact .inl rfl
    | some output => exact .inr (by rw [agrees output carried])

/-- Connecting a lane on the summation block raises, or adds the lane to an output. -/
theorem connectI_cases (c : Circuit) (lane : Fin 32) (target : Nat) :
    (∃ error, connectI lane target c = .error error c) ∨
      ∃ index : Fin 16, connectI lane target c = .ok () { c with iblock := { c.iblock with
        outputs := c.iblock.outputs.set index.val (c.iblock.outputs.get index ∪ {lane.val})
          index.isLt } } := by
  -- The block either refuses or answers the block to keep.
  cases attempt : c.iblock.connect {lane.val} target false with
  | error error =>
    refine .inl ⟨error, ?_⟩
    show keep (c.iblock.connect {lane.val} target false) _ c = _
    rw [attempt]
    rfl
  | ok iblock =>
    obtain ⟨index, rfl⟩ := IBlock.connect_cases attempt
    exact .inr ⟨index, connectI_eq attempt⟩

/-- Summing a reserved lane keeps the general signals. -/
theorem connectI_kept {c : Circuit} {lane : Fin 32} (held : c.reserved lane = true)
    (target : Nat) : LanesKept c (Raising.final (connectI lane target c)) := by
  obtain ⟨error, raised⟩ | ⟨index, returned⟩ := connectI_cases c lane target
  · rw [raised]
    exact .refl c
  · rw [returned]
    refine { LanesKept.refl c with summed := ?_ }
    intro other free target
    -- Lanes that are not reserved are other ones.
    have apart : other.val ≠ lane.val := by
      intro equal
      have free : c.reserved other = false := free
      rw [Fin.ext equal, held] at free
      cases free
    simp only [Raising.final, Slots.get_set]
    split <;> simp_all

/-- Selecting a source and a factor on a reserved lane keeps the general signals. -/
theorem selected_kept {c : Circuit} {lane : Fin 32} (held : c.reserved lane = true) {source : Int}
    (agrees : ∀ output, c.ublock.outputs.get lane = some output → output = source)
    (factor : Factor) :
    LanesKept c { c with
      ublock := { c.ublock with
        outputs := c.ublock.outputs.set lane.val (some source) lane.isLt }
      cblock := ⟨c.cblock.elements.set lane.val factor lane.isLt⟩ } := by
  -- Lanes that are not reserved are other ones.
  have apart : ∀ other, c.reserved other = false → other ≠ lane := by
    intro other free equal
    rw [equal, held] at free
    cases free
  refine { LanesKept.refl c with grown := ?_, selected := ?_, factor := ?_ }
  · intro other output carried
    simp only [Slots.get_set]
    split
    case isTrue here => rw [agrees output (here ▸ carried)]
    case isFalse => exact carried
  · intro other free
    simp only [Slots.get_set, if_neg (apart other free)]
  · intro other free
    simp only [Slots.get_set, if_neg (apart other free)]

/-- Connecting an analog output raises, or selects the source on the lane of the port. -/
theorem connectAclOut_cases (c : Circuit) (source : ElementKind) (port : Fin 8)
    (weight : Number) :
    (∃ error, connectAclOut source port weight c = .error error c) ∨
      (∀ output, c.ublock.outputs.get (aclLane port) = some output →
        output = laneSource source (aclLane port)) ∧
      ∃ factor, connectAclOut source port weight c = .ok () { c with
        ublock := { c.ublock with
          outputs := c.ublock.outputs.set (aclLane port).val
            (some (laneSource source (aclLane port) : Int)) (aclLane port).isLt }
        cblock := ⟨c.cblock.elements.set (aclLane port).val factor (aclLane port).isLt⟩ } := by
  rw [connectAclOut]
  by_cases large : 1 < |weight.value|
  · simp only [if_pos large]
    exact .inl ⟨_, rfl⟩
  · simp only [if_neg large]
    -- A weight up to one has a factor, so that only the selection can refuse.
    obtain ⟨factor, valid, _⟩ := factor_small large
    obtain ⟨error, raised⟩ | ⟨agrees, returned⟩ :=
      connectU_cases c (laneSource source (aclLane port)) (aclLane port)
    · exact .inl ⟨error, Raising.bind_of_error raised⟩
    · exact .inr ⟨agrees, _, (Raising.bind_of_ok returned).trans (setFactor_eq valid)⟩

/-- Noting an identity changes nothing else. -/
theorem noteIdentity_eq (c : Circuit) (kind : ElementKind) :
    ∃ connected, noteIdentity kind c = .ok () { c with identityOutputsConnected := connected } := by
  -- The note is taken for two identities, and for nothing else.
  cases kind with
  | identity offset =>
    rw [noteIdentity]
    by_cases shared : offset.val = 2 ∨ offset.val = 3
    · rw [if_pos shared]
      exact ⟨_, rfl⟩
    · rw [if_neg shared]
      exact ⟨_, rfl⟩
  | _ => exact ⟨_, rfl⟩

/-- An element that can be connected from: it appears on an output, or is a constant. -/
def IsSource (kind : ElementKind) : Prop :=
  kind.sourceOutputLane ≠ none ∨ ∃ id, kind = .constant id

/-- What connecting a source to a target can do. -/
inductive Connects (c : Circuit) (source target : ElementKind) (weight : Number) :
    EStateM.Result PyError Circuit Unit → Prop
  /-- The call raised, and the general signals are kept. -/
  | raised {error : PyError} {c' : Circuit} (kept : LanesKept c c') :
    Connects c source target weight (.error error c')
  /-- An analog input was summed. -/
  | input {c' : Circuit} (port : Fin 8) (analog : source = .input port) (kept : LanesKept c c') :
    Connects c source target weight (.ok () c')
  /-- An analog output was selected. -/
  | output {c' : Circuit} (port : Fin 8) (analog : target = .output port) (kept : LanesKept c c')
    (carries : c'.ublock.outputs.get (aclLane port) =
      some (laneSource source (aclLane port) : Int)) :
    Connects c source target weight (.ok () c')
  /-- The weight was spread over free lanes. -/
  | general {c' : Circuit} (input : Fin 16) (emits : IsSource source)
    (listens : target.targetMInput = some input.val)
    (enough : lanesFor weight.value ≤ c.availableLanes.length)
    (spread : Spread c c' (laneSource source) input
      (Doubles.round (weight.value / lanesFor weight.value))
      (c.availableLanes.take (lanesFor weight.value))) :
    Connects c source target weight (.ok () c')

/-- The ownership check passes for two elements of this circuit. -/
theorem checkOwnership_ok {c : Circuit} {source target : Element} :
    c.checkOwnership source target = .ok () ↔
      source.circuitId = some c.circuitId ∧ target.circuitId = some c.circuitId := by
  -- The three guards are tested in turn, and each one names a way to fail.
  unfold checkOwnership
  split
  case isTrue dangling => rcases dangling with dangling | dangling <;> simp [dangling]
  case isFalse =>
    split
    case isTrue foreign => simp [foreign]
    case isFalse =>
      split
      case isTrue foreign => simp [foreign]
      case isFalse owned other => simp [not_not.mp owned, not_not.mp other]

/-- The source check passes for sources. -/
theorem checkSource_ok {kind : ElementKind} : checkSource kind = .ok () ↔ IsSource kind := by
  -- The kinds are few enough to look at each of them.
  cases kind <;> simp [checkSource, IsSource, ElementKind.sourceOutputLane]

/-- The target check reads the input of a target. -/
theorem checkTarget_ok {kind : ElementKind} {input : Nat} :
    checkTarget kind = .ok input ↔ kind.targetMInput = some input := by
  -- The check hands out the input, or has none.
  unfold checkTarget
  cases kind.targetMInput <;> simp

/-- A connection is checked to be from a source to a target, both of this circuit. -/
theorem checkConnection_ok {c : Circuit} {source target : Element} {input : Nat} :
    c.checkConnection source target = .ok input ↔
      (source.circuitId = some c.circuitId ∧ target.circuitId = some c.circuitId) ∧
        IsSource source.kind ∧ target.kind.targetMInput = some input := by
  -- Each check runs only when the one before it has passed.
  rw [← checkOwnership_ok, ← checkSource_ok, ← checkTarget_ok, checkConnection]
  cases c.checkOwnership source target with
  | error error => simp [bind, Except.bind]
  | ok _ => cases checkSource source.kind <;> simp [bind, Except.bind]

/-- Only analog outputs listen beyond the M-block inputs. -/
theorem targetMInput_lt {kind : ElementKind} {input : Nat} (listens : kind.targetMInput = some input)
    (internal : ∀ port, kind ≠ .output port) : input < 16 := by
  -- Eight integrators, then two inputs for each of four multipliers.
  cases kind with
  | integrator id | multiplier id | mulInput id index =>
    simp only [ElementKind.targetMInput, Option.some.injEq] at listens
    omega
  | identity offset | constant id | input port => cases listens
  | output port => exact absurd rfl (internal port)

/-- Signals of an analog input take the lane of the port, wherever they go. -/
theorem route_input (port : Fin 8) (target : ElementKind) (input : Nat) (weight : Number) :
    route (.input port) target input weight = connectI (aclLane port) input :=
  rfl

/-- Signals to an analog output take the lane of the port. -/
theorem route_output {source : ElementKind} (internal : ∀ port, source ≠ .input port)
    (port : Fin 8) (input : Nat) (weight : Number) :
    route source (.output port) input weight = connectAclOut source port weight := by
  -- An input source would have taken the first branch.
  cases source with
  | input port => exact absurd rfl (internal port)
  | _ => rfl

/-- Other signals take free lanes. -/
theorem route_general {source target : ElementKind} (internal : ∀ port, source ≠ .input port)
    (inside : ∀ port, target ≠ .output port) (input : Nat) (weight : Number) :
    route source target input weight = connectGeneral (laneSource source) input weight := by
  -- Both analog branches are excluded.
  cases source with
  | input port => exact absurd rfl (internal port)
  | _ =>
    cases target with
    | output port => exact absurd rfl (inside port)
    | _ => rfl

/-- A connection goes over the lane of an analog port, or over free lanes. -/
theorem LanesTracked.route_connects {c : Circuit} (tracked : c.LanesTracked)
    {source target : ElementKind} (sourceHeld : c.PortAllocated source)
    (targetHeld : c.PortAllocated target) (emits : IsSource source) {input : Nat}
    (listens : target.targetMInput = some input) (weight : Number) :
    Connects c source target weight (route source target input weight c) := by
  by_cases analogIn : ∃ port, source = .input port
  · obtain ⟨port, rfl⟩ := analogIn
    have kept := connectI_kept (reserved_iff.mpr ⟨port, rfl, .inl sourceHeld⟩) input
    rw [route_input]
    cases result : connectI (aclLane port) input c with
    | ok _ c' =>
      rw [result] at kept
      exact .input port rfl kept
    | error error c' =>
      rw [result] at kept
      exact .raised kept
  have internal : ∀ port, source ≠ .input port := fun port equal => analogIn ⟨port, equal⟩
  by_cases analogOut : ∃ port, target = .output port
  · obtain ⟨port, rfl⟩ := analogOut
    rw [route_output internal]
    obtain ⟨error, raised⟩ | ⟨agrees, factor, returned⟩ := connectAclOut_cases c source port weight
    · rw [raised]
      exact .raised (.refl c)
    · rw [returned]
      have held : c.reserved (aclLane port) = true := reserved_iff.mpr ⟨port, rfl, .inr targetHeld⟩
      exact .output port rfl (selected_kept held agrees factor) (by simp [Slots.get_set])
  have inside : ∀ port, target ≠ .output port := fun port equal => analogOut ⟨port, equal⟩
  rw [route_general internal inside]
  -- The target is an input of the math blocks, so that the summation block has an output for it.
  obtain ⟨input, rfl⟩ : ∃ index : Fin 16, index.val = input :=
    ⟨⟨input, targetMInput_lt listens inside⟩, rfl⟩
  by_cases short : c.availableLanes.length < lanesFor weight.value
  · obtain ⟨error, raised, _⟩ := connectGeneral_error short (laneSource source) input
    rw [raised]
    exact .raised (.refl c)
  · have enough := not_lt.mp short
    obtain ⟨c', returned, spread⟩ := tracked.connectGeneral_ok enough (laneSource source) input
    rw [returned]
    exact .general input emits listens enough spread

/-- Which identities were noted does not matter to the lanes. -/
theorem Connects.of_noted {c : Circuit} {connected : Finset Nat} {source target : ElementKind}
    {weight : Number} {result : EStateM.Result PyError Circuit Unit}
    (connects : Connects { c with identityOutputsConnected := connected } source target weight
      result) : Connects c source target weight result := by
  -- The note is not part of what the four outcomes speak about.
  cases connects with
  | raised kept => exact .raised { kept with }
  | input port analog kept => exact .input port analog { kept with }
  | output port analog kept carries => exact .output port analog { kept with } carries
  | general input emits listens enough spread =>
    exact .general input emits listens enough { spread with }

/-- Connecting is a raise, or one of the kinds of connections. -/
theorem LanesTracked.connect_connects {c : Circuit} (tracked : c.LanesTracked)
    {source target : Element}
    (sourceHeld : source.circuitId = some c.circuitId → c.PortAllocated source.kind)
    (targetHeld : target.circuitId = some c.circuitId → c.PortAllocated target.kind) (weight : Number) :
    Connects c source.kind target.kind weight (connect source target weight c) := by
  rw [connect, Raising.get_bind]
  cases checked : c.checkConnection source target with
  | error error => exact .raised (.refl c)
  | ok input =>
    obtain ⟨⟨ownSource, ownTarget⟩, emits, listens⟩ := checkConnection_ok.mp checked
    obtain ⟨connected, noted⟩ := noteIdentity_eq c source.kind
    simp only [Raising.bind_of_ok noted]
    -- The note leaves the lanes and the ports as they are.
    have tracked : LanesTracked { c with identityOutputsConnected := connected } := { tracked with }
    have sourceHeld := sourceHeld ownSource
    have targetHeld := targetHeld ownTarget
    exact (tracked.route_connects sourceHeld targetHeld emits listens weight).of_noted

/-- What cannot be a source is refused by its type. -/
theorem checkSource_error {kind : ElementKind} (unsupported : ¬ IsSource kind) :
    ∃ error, checkSource kind = .error error ∧ error.kind = .type := by
  -- Only multiplier inputs and analog outputs cannot be asked.
  cases kind with
  | mulInput mulId inputIdx => exact ⟨_, rfl, rfl⟩
  | output port => exact ⟨_, rfl, rfl⟩
  | constant id => exact absurd (.inr ⟨id, rfl⟩) unsupported
  | _ => exact absurd (.inl (Option.some_ne_none _)) unsupported

/-- What cannot be a target is refused by its type. -/
theorem checkTarget_error {kind : ElementKind} (unsupported : kind.targetMInput = none) :
    ∃ error, checkTarget kind = .error error ∧ error.kind = .type := by
  -- The kind has no input to answer.
  rw [checkTarget, unsupported]
  exact ⟨_, rfl, rfl⟩

section Supported

variable {c : Circuit} {source target : Element}

/-- Elements of this circuit that cannot be connected are refused by their type. -/
theorem connect_unsupported (ownSource : source.circuitId = some c.circuitId)
    (ownTarget : target.circuitId = some c.circuitId)
    (unsupported : ¬ (IsSource source.kind ∧ target.kind.targetMInput ≠ none)) (weight : Number) :
    ∃ error, connect source target weight c = .error error c ∧ error.kind = .type := by
  have own := checkOwnership_ok.mpr ⟨ownSource, ownTarget⟩
  have refused : ∃ error, c.checkConnection source target = .error error ∧ error.kind = .type := by
    by_cases emits : IsSource source.kind
    · have deaf : target.kind.targetMInput = none := by
        by_contra listens
        exact unsupported ⟨emits, listens⟩
      obtain ⟨error, raised, kind⟩ := checkTarget_error deaf
      exact ⟨error, by rw [checkConnection, own, checkSource_ok.mpr emits, raised]; rfl, kind⟩
    · obtain ⟨error, raised, kind⟩ := checkSource_error emits
      exact ⟨error, by rw [checkConnection, own, raised]; rfl, kind⟩
  obtain ⟨error, raised, kind⟩ := refused
  refine ⟨error, ?_, kind⟩
  rw [connect, Raising.get_bind, raised]
  rfl

/-- A general connection is made after the identity was noted. -/
theorem connect_general (ownSource : source.circuitId = some c.circuitId)
    (ownTarget : target.circuitId = some c.circuitId) (emits : IsSource source.kind)
    (internal : ∀ port, source.kind ≠ .input port) {input : Nat}
    (listens : target.kind.targetMInput = some input)
    (inside : ∀ port, target.kind ≠ .output port) (weight : Number) :
    ∃ connected, connect source target weight c =
      connectGeneral (laneSource source.kind) input weight
        { c with identityOutputsConnected := connected } := by
  -- The checks pass, the note is taken, and neither end is analog.
  obtain ⟨connected, noted⟩ := noteIdentity_eq c source.kind
  refine ⟨connected, ?_⟩
  rw [connect, Raising.get_bind,
    checkConnection_ok.mpr ⟨⟨ownSource, ownTarget⟩, emits, listens⟩]
  simp only [Raising.bind_of_ok noted]
  rw [route_general internal inside]

end Supported

end Circuit

end Pybrid
