import Pybrid.Lucipy.Commit

/-! How lanes and elements are allocated along a program. -/

namespace Pybrid

namespace Circuit

/-- Neither the source of a lane, nor its factor, its upscaling or its target has changed. -/
structure SameLane (c c' : Circuit) (lane : Fin 32) : Prop where
  selected : c'.ublock.outputs.get lane = c.ublock.outputs.get lane
  factor : c'.cblock.elements.get lane = c.cblock.elements.get lane
  upscaling : c'.iblock.upscaling.get lane = c.iblock.upscaling.get lane
  summed : ∀ target, lane.val ∈ c'.iblock.outputs.get target ↔
    lane.val ∈ c.iblock.outputs.get target

/-- A lane stays the same over two changes that keep it. -/
theorem SameLane.trans {c middle c' : Circuit} {lane : Fin 32} (first : SameLane c middle lane)
    (second : SameLane middle c' lane) : SameLane c c' lane where
  selected := second.selected.trans first.selected
  factor := second.factor.trans first.factor
  upscaling := second.upscaling.trans first.upscaling
  summed target := (second.summed target).trans (first.summed target)

/-- Some lanes were added to one target, and the others are the same. -/
structure Laid (c c' : Circuit) (target : Fin 16) (lanes : List (Fin 32)) : Prop where
  same : ∀ lane, lane ∉ lanes → SameLane c c' lane
  summed : ∀ lane ∈ lanes, ∀ input, lane.val ∈ c'.iblock.outputs.get input ↔
    lane.val ∈ c.iblock.outputs.get input ∨ input = target

/-- Configuring a lane adds it to its target. -/
theorem committed_laid (c : Circuit) (source : Int) (target : Fin 16) (share : Number)
    (factor : Factor) (lane : Fin 32) :
    Laid c (c.committed source target share factor lane) target [lane] where
  same other outside := by
    -- Every write is at the lane that is configured.
    have here : other ≠ lane := by simpa using outside
    have apart : other.val ≠ lane.val := fun equal => here (Fin.ext equal)
    constructor
    · simp [committed, Slots.get_set, here]
    · simp [committed, Slots.get_set, here]
    · simp only [committed]
      split
      · simp [Slots.get_set, here]
      · rfl
    · intro input
      simp only [committed, Slots.get_set]
      split
      · rename_i there
        simp [there, apart]
      · rfl
  summed other member input := by
    rw [List.mem_singleton.mp member]
    simp only [committed, Slots.get_set]
    by_cases there : input = target
    · simp [there]
    · simp [there]

/-- Lanes that are laid one after the other are all laid. -/
theorem Laid.cons {c middle c' : Circuit} {target : Fin 16} {lane : Fin 32}
    {later : List (Fin 32)} (fresh : lane ∉ later) (first : Laid c middle target [lane])
    (second : Laid middle c' target later) : Laid c c' target (lane :: later) where
  same other outside := by
    -- A lane outside both parts is left alone by the first step and by the later ones.
    obtain ⟨here, behind⟩ := not_or.mp (List.mem_cons.not.mp outside)
    exact (first.same other (by simpa using here)).trans (second.same other behind)
  summed other member input := by
    rcases List.mem_cons.mp member with rfl | behind
    · rw [(second.same other fresh).summed input]
      exact first.summed other (by simp) input
    · -- A later lane is another one, which the first step has left alone.
      have here : other ∉ [lane] := by
        intro equal
        rw [List.mem_singleton.mp equal] at behind
        exact fresh behind
      rw [second.summed other behind input, (first.same other here).summed input]

/-- The loop over free lanes lays them. -/
theorem LanesTracked.forM_laid (laneSource : Fin 32 → Nat) (target : Fin 16) {share : Number}
    (small : |share.value| ≤ 8) :
    ∀ (lanes : List (Fin 32)) {c c' : Circuit}, c.LanesTracked → lanes.Nodup →
      (∀ lane ∈ lanes, lane ∈ c.availableLanes) →
      lanes.forM (commitLane laneSource target share) c = .ok () c' → Laid c c' target lanes := by
  -- The induction is on the lanes still to be configured.
  intro lanes
  induction lanes with
  | nil =>
    intro c c' _ _ _ ran
    obtain ⟨_, rfl⟩ := Raising.pure_eq_ok.mp ran
    exact ⟨fun _ _ => ⟨rfl, rfl, rfl, fun _ => Iff.rfl⟩, fun _ member => by cases member⟩
  | cons lane later ih =>
    intro c c' tracked nodup free ran
    obtain ⟨fresh, nodup⟩ := List.nodup_cons.mp nodup
    have here := free lane (by simp)
    obtain ⟨factor, scaled, returned⟩ := tracked.commitLane_eq here laneSource target small
    have spread := tracked.committed_spread here laneSource target scaled
    have rest := (Raising.bind_of_ok returned).symm.trans ran
    have others : ∀ other ∈ later, other ≠ lane := fun other member equal => fresh (equal ▸ member)
    exact .cons fresh (c.committed_laid _ target share factor lane)
      (ih spread.tracked nodup (fun other member =>
        spread.mem_availableLanes (free other (by simp [member])) (by simp [others other member]))
        rest)

/-- A general connection that returns lays the first of the free lanes. -/
theorem LanesTracked.connectGeneral_laid {c c' : Circuit} (tracked : c.LanesTracked)
    {weight : Number} {laneSource : Fin 32 → Nat} {target : Fin 16}
    (returned : connectGeneral laneSource target weight c = .ok () c') :
    Laid c c' target (c.availableLanes.take (lanesFor weight.value)) := by
  -- With too few free lanes the call raises and lays nothing.
  by_cases short : c.availableLanes.length < lanesFor weight.value
  · obtain ⟨error, raised, _⟩ := connectGeneral_error short laneSource target
    rw [raised] at returned
    cases returned
  · obtain ⟨share, small, _, same⟩ := connectGeneral_eq (not_lt.mp short) laneSource target.val
    exact forM_laid laneSource target small _ tracked
      (c.availableLanes_nodup.sublist (List.take_sublist _ _))
      (fun lane member => List.mem_of_mem_take member) (same.symm.trans returned)

/-- Connections over the lane of an analog port keep the general signals. -/
theorem route_port_kept {c : Circuit} {source target : ElementKind}
    (sourceHeld : c.PortAllocated source) (targetHeld : c.PortAllocated target)
    (analog : (∃ port, source = .input port) ∨ ∃ port, target = .output port) (input : Nat)
    (weight : Number) : LanesKept c (Raising.final (route source target input weight c)) := by
  -- An analog input decides on the route before an analog output does.
  by_cases analogIn : ∃ port, source = .input port
  · obtain ⟨port, rfl⟩ := analogIn
    exact connectI_kept (reserved_iff.mpr ⟨port, rfl, .inl sourceHeld⟩) input
  · obtain ⟨port, rfl⟩ := analog.resolve_left analogIn
    rw [route_output fun port equal => analogIn ⟨port, equal⟩]
    obtain ⟨error, raised⟩ | ⟨agrees, factor, returned⟩ := connectAclOut_cases c source port weight
    · rw [raised]
      exact .refl c
    · rw [returned]
      exact selected_kept (reserved_iff.mpr ⟨port, rfl, .inr targetHeld⟩) agrees factor

/-- Connecting an analog port keeps the general signals. -/
theorem connect_port_kept {c : Circuit} {source target : Element}
    (sourceHeld : source.circuitId = some c.circuitId → c.PortAllocated source.kind)
    (targetHeld : target.circuitId = some c.circuitId → c.PortAllocated target.kind)
    (analog : (∃ port, source.kind = .input port) ∨ ∃ port, target.kind = .output port)
    (weight : Number) : LanesKept c (Raising.final (connect source target weight c)) := by
  rw [← connectWeight_finite]
  cases checked : c.checkConnection source target with
  | error refusal =>
    rw [connectWeight_unchecked checked]
    exact .refl c
  | ok input =>
    obtain ⟨⟨ownSource, ownTarget⟩, _⟩ := checkConnection_ok.mp checked
    rw [connectWeight_routed checked]
    -- An identity that is connected is noted first, which concerns no lane.
    obtain ⟨connected, same⟩ := c.noted_eq source.kind
    rw [same]
    have kept := route_port_kept (c := { c with identityOutputsConnected := connected })
      (sourceHeld ownSource) (targetHeld ownTarget) analog input weight
    exact { kept with }

/-- A general connection notes its identity and raises, or takes the first of the free lanes. -/
theorem LanesTracked.connect_laid {c : Circuit} (tracked : c.LanesTracked) {source target : Element}
    (internal : ∀ port, source.kind ≠ .input port) (inside : ∀ port, target.kind ≠ .output port)
    (weight : Number) :
    (∃ error connected, connect source target weight c =
        .error error { c with identityOutputsConnected := connected }) ∨
      ∃ c' slot lanes, connect source target weight c = .ok () c' ∧
        (∀ lane ∈ lanes, lane ∈ c.availableLanes) ∧
        Spread c c' (laneSource source.kind) slot
          (Doubles.round (weight.value / lanesFor weight.value)) lanes ∧
        Laid c c' slot lanes := by
  cases checked : c.checkConnection source target with
  | error refusal => exact .inl ⟨refusal, _, connectWeight_unchecked checked (.finite weight)⟩
  | ok input =>
    obtain ⟨⟨ownSource, ownTarget⟩, emits, listens⟩ := checkConnection_ok.mp checked
    obtain ⟨connected, general⟩ := connect_general ownSource ownTarget emits internal listens inside
      weight
    rw [general]
    have noted : LanesTracked { c with identityOutputsConnected := connected } := { tracked with }
    obtain ⟨slot, rfl⟩ : ∃ slot : Fin 16, slot.val = input :=
      ⟨⟨input, targetMInput_lt listens inside⟩, rfl⟩
    by_cases short : c.availableLanes.length < lanesFor weight.value
    · obtain ⟨error, raised, _⟩ := connectGeneral_error
        (c := { c with identityOutputsConnected := connected }) short (laneSource source.kind) slot
      exact .inl ⟨error, connected, raised⟩
    · obtain ⟨c', returned, spread⟩ := noted.connectGeneral_ok
        (not_lt.mp short) (laneSource source.kind) slot
      have laid := noted.connectGeneral_laid returned
      -- The note is no part of the lanes.
      refine .inr ⟨c', slot, _, returned, fun lane member => List.mem_of_mem_take member,
        { spread with }, ?_⟩
      exact ⟨fun lane outside => { laid.same lane outside with }, laid.summed⟩

/-- A general connection without a number for its weight does no more than note its identity. -/
theorem connectWeight_special_eq (c : Circuit) {source target : Element}
    (internal : ∀ port, source.kind ≠ .input port) (inside : ∀ port, target.kind ≠ .output port)
    (weight : Special) :
    ∃ error connected, connectWeight source target (.special weight) c =
      .error error { c with identityOutputsConnected := connected } := by
  -- Between internal elements only the note of a used identity output can remain.
  cases checked : c.checkConnection source target with
  | error refusal => exact ⟨refusal, _, connectWeight_unchecked checked (.special weight)⟩
  | ok input =>
    rw [connectWeight_routed checked]
    obtain ⟨connected, same⟩ := c.noted_eq source.kind
    rw [same, routeWeight_special internal inside]
    exact ⟨_, connected, rfl⟩

/-- What the allocations of a circuit and its constant come to. -/
def allotment (c : Circuit) :
    Vector Bool 8 × Vector Bool 4 × Nat × Vector Bool 8 × Vector Bool 8 × ConstantValue :=
  (c.integratorsUsed, c.multipliersUsed, c.constantsAllocated, c.aclInUsed, c.aclOutUsed,
    c.ublock.constant)

/-- What connecting leaves alone: everything but the lanes and their blocks. -/
def unrouted (c : Circuit) : Circuit :=
  -- Everything that a connection writes is put back, so that what stays equal is what it leaves.
  { c with
    generalLanesUsed := Vector.replicate 32 false
    identityOutputsConnected := ∅
    ublock := { c.ublock with outputs := Vector.replicate 32 none }
    cblock := ⟨Vector.replicate 32 Factor.default⟩
    iblock := .new }

/-- Selecting a source only routes. -/
theorem connectU_leaves (source : Nat) (lane : Fin 32) :
    Raising.Leaves unrouted (connectU source lane) := by
  intro c
  -- The block refuses or stores the output; both touch routing only.
  obtain ⟨error, raised⟩ | ⟨_, returned⟩ := connectU_cases c source lane
  · rw [raised]
    rfl
  · rw [returned]
    rfl

/-- Summing a lane only routes. -/
theorem connectI_leaves (lane : Fin 32) (target : Nat) :
    Raising.Leaves unrouted (connectI lane target) := by
  intro c
  -- The summation block is no part of what is looked at.
  obtain ⟨error, raised⟩ | ⟨index, returned⟩ := connectI_cases c lane target
  · rw [raised]
    rfl
  · rw [returned]
    rfl

/-- Setting a factor only routes. -/
theorem setFactor_leaves (lane : Fin 32) (value : Number) :
    Raising.Leaves unrouted (setFactor lane value) := by
  intro c
  unfold setFactor keep
  -- The factor is accepted or refused; the lanes are taken all the same.
  cases Factor.validate value <;> rfl

/-- Calculating changes nothing. -/
theorem calculated_leaves {α : Type} (result : Except PyError α) :
    Raising.Leaves unrouted (calculated result) := by
  intro c
  cases result <;> rfl

/-- Configuring a lane only routes. -/
theorem commitLane_leaves (laneSource : Fin 32 → Nat) (target : Nat) (share : Number)
    (lane : Fin 32) : Raising.Leaves unrouted (commitLane laneSource target share lane) := by
  -- The steps are taken one after the other, and each of them is about a block or a lane.
  rw [commitLane]
  refine .bind (fun _ => rfl) fun _ => .bind (connectU_leaves _ lane) fun _ => ?_
  split
  · exact .bind (calculated_leaves _) fun _ => .bind (setFactor_leaves lane _) fun _ =>
      .bind (fun _ => rfl) fun _ => connectI_leaves lane target
  · exact .bind (setFactor_leaves lane _) fun _ => connectI_leaves lane target

/-- Spreading a weight only routes. -/
theorem connectGeneral_leaves (laneSource : Fin 32 → Nat) (target : Nat) (weight : Number) :
    Raising.Leaves unrouted (connectGeneral laneSource target weight) := by
  intro c
  -- A call that is short of lanes raises before the loop over the lanes.
  by_cases short : c.availableLanes.length < lanesFor weight.value
  · obtain ⟨error, raised, _⟩ := connectGeneral_error short laneSource target
    rw [raised]
    rfl
  · obtain ⟨share, _, _, same⟩ := connectGeneral_eq (not_lt.mp short) laneSource target
    rw [same]
    exact Raising.Leaves.forM (commitLane_leaves laneSource target share) _ c

/-- Connecting an analog output only routes. -/
theorem connectAclOut_leaves (source : ElementKind) (port : Fin 8) (weight : Number) :
    Raising.Leaves unrouted (connectAclOut source port weight) := by
  rw [connectAclOut]
  -- A weight that is too large raises before anything is connected.
  split
  · exact .throw _
  · exact .bind (connectU_leaves _ _) fun _ => setFactor_leaves _ _

/-- Connecting an analog output without a number for its weight only routes. -/
theorem connectAclOutSpecial_leaves (source : ElementKind) (port : Fin 8) (weight : Special) :
    Raising.Leaves unrouted (connectAclOutSpecial source port weight) := by
  -- Infinity is larger than one and NaN is not, so that NaN gets to the factor.
  cases weight with
  | infinite negative => exact .throw _
  | nan => exact .bind (connectU_leaves _ _) fun _ => .throw _

/-- Routing a connection only routes. -/
theorem routeWeight_leaves (source target : ElementKind) (input : Nat) (weight : Weight) :
    Raising.Leaves unrouted (routeWeight source target input weight) := by
  -- NaN and the infinities fail in the comparison of a general connection.
  cases weight with
  | finite weight =>
    rw [routeWeight]
    unfold route
    split
    · exact connectI_leaves _ input
    · exact connectAclOut_leaves source _ weight
    · exact connectGeneral_leaves _ input weight
  | special weight =>
    simp only [routeWeight]
    split
    · exact connectI_leaves _ input
    · exact connectAclOutSpecial_leaves source _ weight
    · exact .throw _

/-- Connecting only routes. -/
theorem connectWeight_routes (source target : Element) (weight : Weight) :
    Raising.Leaves unrouted (connectWeight source target weight) := by
  intro c
  -- The checks come before the routing and change nothing themselves.
  cases checked : c.checkConnection source target with
  | error refusal =>
    rw [connectWeight_unchecked checked]
    rfl
  | ok input =>
    rw [connectWeight_routed checked, routeWeight_leaves]
    obtain ⟨connected, same⟩ := c.noted_eq source.kind
    rw [same]
    rfl

/-- Connecting allots nothing. -/
theorem connectWeight_leaves (source target : Element) (weight : Weight) :
    Raising.Leaves allotment (connectWeight source target weight) :=
  (connectWeight_routes source target weight).map allotment

/-- Assigning a channel allots nothing. -/
theorem probeAdc_leaves (source : Element) (adcChannel : Option Int) :
    Raising.Leaves allotment (probeAdc source adcChannel) := by
  intro c
  rw [probeAdc, Raising.get_bind]
  cases c.chooseChannel adcChannel with
  | error error => rfl
  | ok channel =>
    -- A channel outside the eight, or a taken one, is refused before the assignment.
    by_cases inside : 0 ≤ channel ∧ channel < 8
    · simp only [dif_pos inside]
      cases c.adcConfig.get ⟨channel.toNat, by omega⟩ with
      | some _ => rfl
      | none => cases source.kind.sourceOutputLane <;> rfl
    · simp only [dif_neg inside]
      rfl

/-- Measuring allots nothing. -/
theorem probe_leaves (source : Element) (adcChannel : Option Int) :
    Raising.Leaves allotment (probe source adcChannel) := by
  intro c
  rw [probe, Raising.get_bind]
  -- The element must belong to a circuit, and to this one.
  by_cases dangling : source.circuitId = none
  · rw [if_pos dangling]
    rfl
  · rw [if_neg dangling]
    by_cases foreign : source.circuitId ≠ some c.circuitId
    · rw [if_pos foreign]
      rfl
    · rw [if_neg foreign]
      exact probeAdc_leaves source adcChannel c

/-- The element of this kind has been allocated. -/
def Allocated (c : Circuit) : ElementKind → Prop
  | .integrator id => c.integratorsUsed.get id = true
  | .multiplier id => c.multipliersUsed.get id = true
  | .constant id => id < c.constantsAllocated
  | .input port => c.aclInUsed.get port = true
  | .output port => c.aclOutUsed.get port = true
  -- The inputs and the identities of a multiplier are not allocated by themselves.
  | .mulInput _ _ | .identity _ => True

/-- Elements stay allocated as long as nothing is allotted. -/
theorem allocated_of_allotment {c c' : Circuit} (same : c'.allotment = c.allotment)
    (kind : ElementKind) : c'.Allocated kind ↔ c.Allocated kind := by
  simp only [allotment, Prod.mk.injEq] at same
  obtain ⟨integrators, multipliers, constants, inputs, outputs, _⟩ := same
  -- Each kind of element has its own flags among those that agree.
  cases kind <;> simp [Allocated, integrators, multipliers, constants, inputs, outputs]

/-- An allocation keeps what is allocated, and hands out what was not. -/
structure HandsOut (c : Circuit) (result : EStateM.Result PyError Circuit Element) : Prop where
  kept : ∀ kind, c.Allocated kind → (Raising.final result).Allocated kind
  fresh : ∀ element c', result = .ok element c' →
    ¬ c.Allocated element.kind ∧ c'.Allocated element.kind

namespace HandsOut

/-- Raising without a change hands out nothing. -/
theorem error (c : Circuit) (error : PyError) : HandsOut c (.error error c) :=
  ⟨fun _ held => held, fun _ _ returned => by cases returned⟩

/-- Returning an element that was not allocated before. -/
theorem ok {c c' : Circuit} {element : Element} (kept : ∀ kind, c.Allocated kind → c'.Allocated kind)
    (fresh : ¬ c.Allocated element.kind) (now : c'.Allocated element.kind) :
    HandsOut c (.ok element c') :=
  ⟨kept, fun _ _ returned => by cases returned; exact ⟨fresh, now⟩⟩

end HandsOut

/-- The slot that is found is not occupied. -/
theorem nextFree_unoccupied {n : Nat} {occupied : Vector Bool n} {index : Fin n}
    (found : nextFree occupied = some index) : occupied.get index = false := by
  simpa using List.find?_some found

/-- A slot that is marked stays marked, and the others with it. -/
theorem get_set_true {n : Nat} {occupied : Vector Bool n} {index other : Fin n}
    (held : occupied.get other = true) :
    (occupied.set index.val true index.isLt).get other = true := by
  -- Marking a slot as used takes none back.
  rw [Slots.get_set]
  split
  · rfl
  · exact held

/-- A slot that has just been marked. -/
theorem get_set_self {n : Nat} (occupied : Vector Bool n) (index : Fin n) :
    (occupied.set index.val true index.isLt).get index = true := by
  rw [Slots.get_set, if_pos rfl]

/-- The chosen port is not allocated. -/
theorem choosePort_unallocated {direction : String} {used : Vector Bool 8} {port : Option (Fin 8)}
    {chosen : Fin 8} (chose : choosePort direction used port = .ok chosen) :
    used.get chosen = false := by
  unfold choosePort at chose
  -- A port that is asked for is checked, and one that is not is the first free one.
  cases port with
  | none =>
    cases found : nextFree used with
    | none => simp [found] at chose
    | some free =>
      simp only [found, Except.ok.injEq] at chose
      rw [← chose]
      exact nextFree_unoccupied found
  | some port =>
    cases held : used.get port with
    | true => simp [held] at chose
    | false =>
      simp only [held, Bool.false_eq_true, if_false, Except.ok.injEq] at chose
      rw [← chose]
      exact held

/-- An integrator is handed out once. -/
theorem int_handsOut (c : Circuit) (ic : ℚ) (slow : Bool) : HandsOut c (int ic slow c) := by
  rw [int, Raising.get_bind]
  -- The first free slot was not allocated, and is afterwards.
  cases found : nextFree c.integratorsUsed with
  | none => exact .error c _
  | some idx =>
    refine .ok ?_ (by simp [own, Allocated, nextFree_unoccupied found]) (get_set_self _ idx)
    intro kind held
    -- Only the marks of the integrators have changed.
    cases kind with
    | integrator id => exact get_set_true held
    | _ => exact held

/-- A multiplier is handed out once. -/
theorem mul_handsOut (c : Circuit) : HandsOut c (mul c) := by
  rw [mul, Raising.get_bind]
  -- The same search as for integrators, over the four multipliers.
  cases found : nextFree c.multipliersUsed with
  | none => exact .error c _
  | some idx =>
    refine .ok ?_ (by simp [own, Allocated, nextFree_unoccupied found]) (get_set_self _ idx)
    intro kind held
    cases kind with
    | multiplier id => exact get_set_true held
    | _ => exact held

/-- A constant is handed out once. -/
theorem const_handsOut (c : Circuit) (value : ConstantValue) : HandsOut c (const value c) := by
  rw [const, Raising.get_bind]
  -- The block has two constants, which are counted and not marked.
  by_cases full : 2 ≤ c.constantsAllocated
  · rw [if_pos full]
    exact .error c _
  · rw [if_neg full]
    refine .ok ?_ (by simp [own, Allocated]) (Nat.lt_succ_self _)
    intro kind held
    cases kind with
    -- A constant is allocated exactly if its number is below the count.
    | constant id => exact Nat.lt_succ_of_lt held
    | _ => exact held

/-- An analog input port is handed out once. -/
theorem input_handsOut (c : Circuit) (port : Option (Fin 8)) : HandsOut c (input port c) := by
  rw [input, Raising.get_bind]
  cases chose : choosePort "ACL_IN" c.aclInUsed port with
  | error error => exact .error c _
  | ok port =>
    -- The port may be free while its lane carries a general signal.
    cases busy : c.generalLanesUsed.get (aclLane port) with
    | true =>
      simp only [busy]
      exact .error c _
    | false =>
      simp only [busy]
      refine .ok ?_ (by simp [own, Allocated, choosePort_unallocated chose]) (get_set_self _ port)
      intro kind held
      cases kind with
      | input other => exact get_set_true held
      | _ => exact held

/-- An analog output port is handed out once. -/
theorem output_handsOut (c : Circuit) (port : Option (Fin 8)) : HandsOut c (output port c) := by
  rw [output, Raising.get_bind]
  cases chose : choosePort "ACL_OUT" c.aclOutUsed port with
  | error error => exact .error c _
  | ok port =>
    -- As for an input, the lane of the port may be taken.
    cases busy : c.generalLanesUsed.get (aclLane port) with
    | true =>
      simp only [busy]
      exact .error c _
    | false =>
      simp only [busy]
      refine .ok ?_ (by simp [own, Allocated, choosePort_unallocated chose]) (get_set_self _ port)
      intro kind held
      cases kind with
      | output other => exact get_set_true held
      | _ => exact held

/-- Every allocation hands out something new. -/
theorem allocation_handsOut (c : Circuit) {call : CircuitCall}
    {code : EStateM PyError Circuit Element} (asked : call.allocation = some code) :
    c.HandsOut (code c) := by
  -- There are five calls that hand something out; connections and probes are none.
  cases call with
  | int ic slow =>
    cases asked
    exact c.int_handsOut ic slow
  | mul =>
    cases asked
    exact c.mul_handsOut
  | const value =>
    cases asked
    exact c.const_handsOut value
  | input port =>
    cases asked
    exact c.input_handsOut port
  | output port =>
    cases asked
    exact c.output_handsOut port
  | connect source target weight => cases asked
  | probe source adcChannel => cases asked

end Circuit

/-- The action connects two elements that are not analog ports. -/
def CircuitAction.IsGeneral : CircuitAction → Prop
  | .call (.connect source target _) | .connect source target _ =>
    (∀ port, source.kind ≠ .input port) ∧ ∀ port, target.kind ≠ .output port
  | _ => False

namespace Session

/-- An action sets the source of a lane for a general signal. -/
def SetsLane (lane : Fin 32) (s : Session) (action : CircuitAction) (next : Session) : Prop :=
  action.IsGeneral ∧ next.circuit.ublock.outputs.get lane ≠ s.circuit.ublock.outputs.get lane

/-- What one action does to the lanes. -/
inductive ActsOnLanes (c : Circuit) (action : CircuitAction) (c' : Circuit) : Prop where
  /-- The general signals are kept by an action that is not about them. -/
  | kept (kept : c.LanesKept c') (other : ¬ action.IsGeneral)
  /-- No lane is changed by a general connection that raises. -/
  | refused (general : action.IsGeneral) (used : c'.generalLanesUsed = c.generalLanesUsed)
    (same : ∀ lane, c.SameLane c' lane)
  /-- Free lanes are taken by a general connection that returns. -/
  | taken (general : action.IsGeneral) {laneSource : Fin 32 → Nat} {slot : Fin 16} {share : ℚ}
    {lanes : List (Fin 32)} (free : ∀ lane ∈ lanes, lane ∈ c.availableLanes)
    (spread : c.Spread c' laneSource slot share lanes) (laid : c.Laid c' slot lanes)

/-- Noting an identity leaves all lanes the same. -/
theorem sameLane_noted (c : Circuit) (connected : Finset Nat) (lane : Fin 32) :
    c.SameLane { c with identityOutputsConnected := connected } lane :=
  ⟨rfl, rfl, rfl, fun _ => Iff.rfl⟩

/-- An action that is not general connects an analog port. -/
theorem analog_of_not_general {source target : ElementKind}
    (other : ¬ ((∀ port, source ≠ .input port) ∧ ∀ port, target ≠ .output port)) :
    (∃ port, source = .input port) ∨ ∃ port, target = .output port := by
  -- A connection is general exactly if neither end is a port of the front panel.
  by_contra neither
  obtain ⟨internal, inside⟩ := not_or.mp neither
  exact other ⟨fun port same => internal ⟨port, same⟩, fun port same => inside ⟨port, same⟩⟩

/-- A connection acts on the lanes by its kind. -/
theorem Sound.connect_lanes {s : Session} (sound : s.Sound) {source target : Element}
    (holds : s.Holds source ∧ s.Holds target) (weight : Number) :
    ActsOnLanes s.circuit (.call (.connect source target weight))
      (Raising.final (Circuit.connect source target weight s.circuit)) := by
  -- A connection with a port takes its reserved lane, the others take free lanes.
  by_cases general : (CircuitAction.call (.connect source target weight)).IsGeneral
  · obtain ⟨error, connected, raised⟩ | ⟨c', slot, lanes, returned, free, spread, laid⟩ :=
      sound.tracked.connect_laid general.1 general.2 weight
    · rw [raised]
      exact .refused general rfl (sameLane_noted s.circuit connected)
    · rw [returned]
      exact .taken general free spread laid
  · exact .kept (Circuit.connect_port_kept (sound.portAllocated holds.1)
      (sound.portAllocated holds.2) (analog_of_not_general general) weight) general

/-- A connection without a number for its weight acts on the lane of an analog port only. -/
theorem Sound.connectSpecial_lanes {s : Session} (sound : s.Sound) {source target : Element}
    (holds : s.Holds source ∧ s.Holds target) (weight : Special) :
    ActsOnLanes s.circuit (.connect source target weight)
      (Raising.final (Circuit.connectWeight source target (.special weight) s.circuit)) := by
  -- A weight that is no number lays no general lane.
  by_cases general : (CircuitAction.connect source target weight).IsGeneral
  · obtain ⟨error, connected, raised⟩ :=
      s.circuit.connectWeight_special_eq general.1 general.2 weight
    rw [raised]
    exact .refused general rfl (sameLane_noted s.circuit connected)
  · exact .kept (Circuit.connectWeight_kept (sound.portAllocated holds.1)
      (sound.portAllocated holds.2) weight) general

/-- Handing out an element is about the circuit the call ends with. -/
theorem handOut_circuit (s : Session) (result : EStateM.Result PyError Circuit Element) :
    (s.handOut result).circuit = Raising.final result := by
  cases result <;> rfl

/-- Logging a connection is about the circuit it ends with. -/
theorem record_circuit (s : Session) (source target : ElementKind) (weight : Number)
    (result : EStateM.Result PyError Circuit Unit) :
    (s.record source target weight result).circuit = Raising.final result := by
  cases result <;> rfl

/-- An action keeps the general signals, or is a general connection. -/
theorem Sound.act_lanes {s next : Session} (sound : s.Sound) {action : CircuitAction}
    (acted : s.act action = some next) : ActsOnLanes s.circuit action next.circuit := by
  -- Only connections are about lanes; the other calls hand out, or measure.
  cases act_cases acted with
  | @performs call _ performed =>
    cases performed with
    | allocates asked =>
      have allocates := s.circuit.allocation_allocates asked
      have other : ¬ (CircuitAction.call call).IsGeneral := by
        cases call <;> first | exact id | cases asked
      rw [handOut_circuit]
      exact .kept allocates.kept other
    | connects holds =>
      rw [record_circuit]
      exact sound.connect_lanes holds _
    | measures => exact .kept (s.circuit.probe_kept _ _) id
  | connects holds => exact sound.connectSpecial_lanes holds _

namespace ActsOnLanes

variable {c c' : Circuit} {action : CircuitAction}

/-- A lane becomes used when a general connection sets its source. -/
theorem used_iff (acts : ActsOnLanes c action c') (tracked : c.LanesTracked) (lane : Fin 32) :
    c'.generalLanesUsed.get lane = true ↔ c.generalLanesUsed.get lane = true ∨
      action.IsGeneral ∧ c'.ublock.outputs.get lane ≠ c.ublock.outputs.get lane := by
  -- A lane comes into use exactly where its source changes.
  cases acts with
  | kept kept other => simp [kept.used_eq, other]
  | refused general used same => simp [used, (same lane).selected]
  | @taken general laneSource slot share lanes free spread laid =>
    rw [spread.used, spread.selected]
    by_cases here : lane ∈ lanes
    · -- A free lane carried nothing before.
      obtain ⟨unused, unreserved⟩ := Circuit.mem_availableLanes.mp (free lane here)
      simp [here, general, tracked.unselected lane unused unreserved]
    · simp [here]

/-- A used lane stays in one sum. -/
theorem summed (acts : ActsOnLanes c action c') (tracked : c.LanesTracked)
    (tracked' : c'.LanesTracked)
    (summed : ∀ lane, c.generalLanesUsed.get lane = true →
      ∃! target, lane.val ∈ c.iblock.outputs.get target) (lane : Fin 32)
    (used : c'.generalLanesUsed.get lane = true) :
    ∃! target, lane.val ∈ c'.iblock.outputs.get target := by
  -- A used lane keeps the sum it is in, and a new one gets the sum of the target.
  cases acts with
  | kept kept other =>
    simp only [kept.summed lane (tracked'.exclusive lane used)]
    exact summed lane (by rwa [kept.used_eq] at used)
  | refused general same_used same =>
    simp only [(same lane).summed]
    exact summed lane (by rwa [same_used] at used)
  | @taken _ laneSource slot share lanes free spread laid =>
    by_cases here : lane ∈ lanes
    · -- A free lane was in no sum before.
      obtain ⟨unused, unreserved⟩ := Circuit.mem_availableLanes.mp (free lane here)
      simp only [laid.summed lane here, tracked.unsummed lane unused unreserved, false_or]
      exact ⟨slot, rfl, fun _ same => same⟩
    · simp only [(laid.same lane here).summed]
      exact summed lane (by simpa [spread.used, here] using used)

/-- A general connection leaves the lanes alone that are in use or reserved. -/
theorem same (acts : ActsOnLanes c action c') (general : action.IsGeneral) {lane : Fin 32}
    (existing : c.generalLanesUsed.get lane = true ∨ c.reserved lane = true) :
    c.SameLane c' lane := by
  -- The lanes that are taken were neither used nor reserved.
  cases acts with
  | kept kept other => exact absurd general other
  | refused _ used same => exact same lane
  | taken _ free spread laid =>
    apply laid.same
    intro member
    obtain ⟨unused, unreserved⟩ := Circuit.mem_availableLanes.mp (free lane member)
    simp [unused, unreserved] at existing

end ActsOnLanes

/-- Everything that was handed out is allocated, and was handed out once. -/
structure HandedOnce (s : Session) : Prop where
  allocated : ∀ element ∈ s.handed, s.circuit.Allocated element.kind
  distinct : (s.handed.map Element.kind).Nodup

namespace HandedOnce

variable {s : Session}

/-- A call that allots nothing. -/
theorem leaves (handed : s.HandedOnce) {circuit : Circuit} {log : List Connection}
    (same : circuit.allotment = s.circuit.allotment) :
    HandedOnce { s with circuit := circuit, log := log } where
  allocated element member :=
    (Circuit.allocated_of_allotment same element.kind).mpr (handed.allocated element member)
  distinct := handed.distinct

/-- A call that hands out an element. -/
theorem handOut (handed : s.HandedOnce) {result : EStateM.Result PyError Circuit Element}
    (hands : s.circuit.HandsOut result) : (s.handOut result).HandedOnce := by
  -- A call that raises hands nothing out.
  cases result with
  | error error circuit =>
    exact ⟨fun element member => hands.kept _ (handed.allocated element member), handed.distinct⟩
  | ok element circuit =>
    obtain ⟨fresh, now⟩ := hands.fresh element circuit rfl
    constructor
    · intro other member
      rcases List.mem_append.mp member with old | new
      · exact hands.kept _ (handed.allocated other old)
      · rw [List.mem_singleton.mp new]
        exact now
    · -- An element like it would have been allocated before.
      show ((s.handed ++ [element]).map Element.kind).Nodup
      rw [List.map_append, List.map_singleton]
      refine List.Nodup.append handed.distinct (List.nodup_singleton _) ?_
      intro kind old new
      obtain ⟨other, member, same⟩ := List.mem_map.mp old
      apply fresh
      rw [← List.mem_singleton.mp new, ← same]
      exact handed.allocated other member

/-- A connection hands out nothing. -/
theorem record (handed : s.HandedOnce) (source target : Element) (weight : Number) :
    HandedOnce (s.record source.kind target.kind weight
      (Circuit.connect source target weight s.circuit)) := by
  have same := Circuit.connectWeight_leaves source target (.finite weight) s.circuit
  rw [Circuit.connectWeight_finite] at same
  -- The log grows only with the calls that return.
  cases connected : Circuit.connect source target weight s.circuit with
  | ok _ circuit =>
    rw [connected] at same
    exact handed.leaves same
  | error error circuit =>
    rw [connected] at same
    exact handed.leaves same

/-- Every action hands out something new, or nothing. -/
theorem act (handed : s.HandedOnce) {action : CircuitAction} {next : Session}
    (acted : s.act action = some next) : next.HandedOnce := by
  -- Only an allocation adds to what was handed out.
  cases act_cases acted with
  | performs performed =>
    cases performed with
    | allocates asked => exact handed.handOut (s.circuit.allocation_handsOut asked)
    | connects => exact handed.record _ _ _
    | measures => exact handed.leaves (Circuit.probe_leaves _ _ s.circuit)
  | connects => exact handed.leaves (Circuit.connectWeight_leaves _ _ _ s.circuit)

end HandedOnce

/-- What holds all along a session, with the sums the used lanes are in. -/
structure Ordered (s : Session) : Prop where
  sound : s.Sound
  summed : ∀ lane, s.circuit.generalLanesUsed.get lane = true →
    ∃! target, lane.val ∈ s.circuit.iblock.outputs.get target
  handed : s.HandedOnce

/-- A new session. -/
theorem start_ordered (circuitId : Nat) : (start circuitId).Ordered where
  sound := start_sound circuitId
  summed lane used := by simp [start, Circuit.new, Vector.get_eq_getElem] at used
  handed := ⟨fun _ member => (List.not_mem_nil member).elim, List.nodup_nil⟩

/-- Every action keeps a session in order. -/
theorem Ordered.act {s next : Session} (ordered : s.Ordered) {action : CircuitAction}
    (acted : s.act action = some next) : next.Ordered where
  sound := ordered.sound.act acted
  -- The sums follow from the lanes, and the ownership from the sums.
  summed := (ordered.sound.act_lanes acted).summed ordered.sound.tracked
    (ordered.sound.act acted).tracked ordered.summed
  handed := ordered.handed.act acted

/-- The lanes and the elements of a session are those its program has asked for. -/
structure LanesAllocated (circuitId : Nat) (actions : List CircuitAction) (s : Session) : Prop where
  /-- A lane is used exactly if a general connection has set its source. -/
  used_iff : ∀ lane, s.circuit.generalLanesUsed.get lane = true ↔
    Transition.Brought act (SetsLane lane) (start circuitId) actions
  /-- A used lane is in one sum. -/
  summed : ∀ lane, s.circuit.generalLanesUsed.get lane = true →
    ∃! target, lane.val ∈ s.circuit.iblock.outputs.get target
  /-- No lane is both used and reserved. -/
  exclusive : ∀ lane,
    ¬ (s.circuit.generalLanesUsed.get lane = true ∧ s.circuit.reserved lane = true)
  /-- General connections leave the existing lanes alone. -/
  same : ∀ action next, action.IsGeneral → s.act action = some next → ∀ lane,
    s.circuit.generalLanesUsed.get lane = true ∨ s.circuit.reserved lane = true →
      s.circuit.SameLane next.circuit lane
  /-- Everything is handed out once. -/
  distinct : (s.handed.map Element.kind).Nodup

/-- Whatever a program does, its lanes and elements are allocated in order. -/
theorem lanes_allocated (circuitId : Nat) (actions : List CircuitAction) (s : Session)
    (ran : Transition.run act (start circuitId) actions = some s) :
    LanesAllocated circuitId actions s := by
  have ordered : s.Ordered := Transition.reachable_preserves (start_ordered circuitId)
    (fun _ _ _ ordered acted => ordered.act acted) ⟨actions, ran⟩
  constructor
  case used_iff =>
    intro lane
    let used (s : Session) : Prop := s.circuit.generalLanesUsed.get lane = true
    have flagged : used s ↔ used (start circuitId) ∨
        Transition.Brought act (SetsLane lane) (start circuitId) actions :=
      @Transition.run_flag_iff _ _ act Sound used (SetsLane lane)
        (fun _ _ _ sound acted => sound.act acted)
        (fun _ _ _ sound acted => (sound.act_lanes acted).used_iff sound.tracked lane)
        actions (start circuitId) s (start_sound circuitId) ran
    -- No lane is used at the start.
    have free : ¬ used (start circuitId) := by
      simp [used, start, Circuit.new, Vector.get_eq_getElem]
    exact flagged.trans (or_iff_right free)
  case summed => exact ordered.summed
  case exclusive =>
    intro lane both
    rw [ordered.sound.tracked.exclusive lane both.1] at both
    cases both.2
  case same =>
    intro action next general acted lane existing
    exact (ordered.sound.act_lanes acted).same general existing
  case distinct => exact ordered.handed.distinct

/-- The sample run uses a lane, and reserves another one. -/
theorem lanes_allocated_sample :
    ∃ s, LanesAllocated 0 (sample.map .call) s ∧ s.circuit.generalLanesUsed.get 0 = true ∧
      s.circuit.reserved 25 = true := by
  -- One general lane and one that a port reserves.
  have lanes : (Transition.run act (start 0) (sample.map .call)).map (fun s =>
      (s.circuit.generalLanesUsed.get 0, s.circuit.reserved 25)) = some (true, true) := by
    decide +kernel
  obtain ⟨s, ran, both⟩ := Option.map_eq_some_iff.mp lanes
  exact ⟨s, lanes_allocated 0 _ s ran, Prod.mk.inj both⟩

end Session

end Pybrid
