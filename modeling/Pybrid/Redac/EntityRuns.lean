import Pybrid.Library.Overwriting
import Pybrid.Redac.ModuleItems
import Pybrid.Redac.SerializerRoundTrip

/-! What payloads do to one entity: which are accepted, which can change places, which can be repeated. -/

namespace Pybrid

open Slots Overwriting

/-- The payload is one for this class of entity, and its indices and values are in range. -/
def Wire.Payload.InRange (payload : Wire.Payload) (kind : EntityKind) : Prop :=
  match payload, kind with
  | .adcConfig _, .carrier => True
  | .portConfig _, .carrier => True
  | .frontPanelIoConfig _, .carrier => True
  | .coefConfig elements, .cBlock =>
    ∀ element ∈ elements, element.idx < 32 ∧
      -1 ≤ Doubles.round element.factor ∧ Doubles.round element.factor ≤ 1
  | .mdrConfig operations, .mMDRBlock => operations.length ≤ 4
  | .itorConfig elements, .mIntBlock => ∀ element ∈ elements, element.idx < 8
  | .limiterConfig elements, .mIntBlock => ∀ element ∈ elements, element.idx < 8
  | .sumConfig connections upscales, .iBlock =>
    (∀ connection ∈ connections, connection.output < 16) ∧ ∀ upscale ∈ upscales, upscale.lane < 32
  | .selectConfig _ _ connections, .uBlock =>
    ∀ connection ∈ connections, connection.output < 32
  | .switchConfig muxes, .tBlock => ∀ entry ∈ numberedMuxes muxes, entry.2 < 96
  | .bplSwitchConfig muxes, .backplaneTBlock =>
    ∀ entry ∈ numberedMuxes muxes, (0 ≤ entry.1 ∧ entry.1 < 9) ∧ entry.2 < 72
  | .dependencyInfo _, _ => True
  | _, _ => False

section Writes

variable {α ω : Type} {n : Nat}

/-- Two vectors with the same entries are the same. -/
theorem ext_getElem? {v w : Vector α n} (same : ∀ k : Nat, v[k]? = w[k]?) : v = w := by
  ext k inside
  simpa [inside] using same k

/-- A slot that was assigned holds the value, and the others what they held. -/
theorem getElem?_set {v : Vector α n} {index : Nat} (inside : index < n) (value : α) (k : Nat) :
    (v.set index value inside)[k]? = if k = index then some value else v[k]? := by
  -- The entry that was set, or one that was left alone.
  by_cases own : k = index
  · subst own
    simp [inside]
  · have other : index ≠ k := fun same => own same.symm
    simp [own, other]

/-- An assignment returns if its index is in range. -/
theorem assign_accepts {outOfRange : PyError} {v : Vector α n} {index : Nat} {value : α} :
    (∃ v', assign outOfRange v index value = .ok v') ↔ index < n := by
  by_cases inside : index < n <;> simp [assign, inside]

/-- Assignments overwrite. -/
theorem assign_law (outOfRange : PyError) (index : ω → Nat) (value : ω → α) :
    Law fun (v : Vector α n) entry => assign outOfRange v (index entry) (value entry) := by
  refine .ofSlots (fun v (k : Nat) => v[k]?) ext_getElem? (fun entry => index entry < n) index
    (fun entry => some (value entry)) assign_accepts ?_
  -- A step writes the one slot of its index.
  intro v v' entry stepped k
  have inside : index entry < n := assign_accepts.mp ⟨v', stepped⟩
  rw [assign_of_lt inside] at stepped
  cases stepped
  exact getElem?_set inside _ k

/-- A list of assignments returns if all indices are in range. -/
theorem assigns_accepts {outOfRange : PyError} {index : ω → Nat} {value : ω → α} {v : Vector α n}
    {entries : List ω} :
    (∃ v', entries.foldlM (fun current entry =>
      assign outOfRange current (index entry) (value entry)) v = .ok v') ↔
      ∀ entry ∈ entries, index entry < n := by
  rw [(assign_law outOfRange index value).returns_iff]
  -- Whether an entry is accepted depends on its index alone.
  exact forall₂_congr fun entry _ => assign_accepts

/-- A slot holds what was assigned to it last, or what it held. -/
theorem assigns_getElem? {outOfRange : PyError} {index : ω → Nat} {value : ω → α} {entries : List ω}
    {v v' : Vector α n} (ran : entries.foldlM (fun current entry =>
      assign outOfRange current (index entry) (value entry)) v = .ok v') (k : Nat) (inside : k < n) :
    v'[k] = ((entries.reverse.find? fun entry => index entry = k).map value).getD v[k] := by
  induction entries generalizing v with
  | nil =>
    cases ran
    rfl
  | cons entry later ih =>
    obtain ⟨middle, stepped, rest⟩ := foldlM_cons_eq_ok.mp ran
    have place : index entry < n := assign_accepts.mp ⟨middle, stepped⟩
    rw [assign_of_lt place] at stepped
    cases stepped
    rw [ih rest, List.reverse_cons, List.find?_append]
    -- A later assignment decides; without one this one does, if it is to the slot.
    cases later.reverse.find? fun entry => index entry = k with
    | some other => simp
    | none =>
      by_cases own : index entry = k
      · simp [own]
      · simp [own, Vector.getElem_set_ne]

/-- A factor is assigned if the lane exists and the value is valid. -/
theorem setFactor_accepts {v : Vector Factor 32} {element : Wire.CoefElement} :
    (∃ v', CBlock.setFactor v element = .ok v') ↔
      element.idx < 32 ∧ -1 ≤ Doubles.round element.factor ∧ Doubles.round element.factor ≤ 1 := by
  by_cases inside : element.idx < 32
  · simp only [CBlock.setFactor, inside, true_and]
    -- The factor is converted before it is compared with the range.
    by_cases valid : -1 ≤ Doubles.round element.factor ∧ Doubles.round element.factor ≤ 1
    · have accepted := @Factor.validate_inside (.fraction element.factor) valid
      simp [accepted, Except.map, valid]
    · obtain ⟨error, refused⟩ := @Factor.validate_outside (.fraction element.factor) valid
      simp [refused, Except.map, valid]
  · simp [CBlock.setFactor, inside]

/-- Assignments of factors overwrite. -/
theorem setFactor_law : Law CBlock.setFactor := by
  -- Each assignment sets the factor of its own slot, if the value is accepted.
  refine .ofSlots (fun v (k : Nat) => v[k]?) ext_getElem? _ (fun element => element.idx)
    (fun element => (Factor.validate (.fraction element.factor)).toOption) setFactor_accepts ?_
  intro v v' element stepped k
  obtain ⟨inside, -⟩ := setFactor_accepts.mp ⟨v', stepped⟩
  simp only [CBlock.setFactor, dif_pos inside] at stepped
  obtain ⟨factor, valid, rfl⟩ := Raising.except_map_eq_ok.mp stepped
  rw [valid]
  exact getElem?_set inside _ k

/-- The source that a state stands for at a place of the table. -/
def BackplaneTBlock.stateSource (state : Int) (index : Nat) : Int :=
  if ((index % 9 : Nat) : Int) = state then 8 else state

/-- A state is connected if it stands for a sector and its number for a place in the table. -/
theorem connectState_accepts {t : BackplaneTBlock} {entry : Int × Nat} :
    (∃ t', t.connectState entry.1 entry.2 = .ok t') ↔ (0 ≤ entry.1 ∧ entry.1 < 9) ∧ entry.2 < 72 := by
  obtain ⟨state, index⟩ := entry
  -- The backplane checks all three of its subscripts.
  have accepts : ∀ source dst lane, (∃ t', t.connect source dst lane = .ok t') ↔
      (0 ≤ source ∧ source < 9) ∧ (0 ≤ dst ∧ dst < 9) ∧ (0 ≤ lane ∧ lane < 8) := by
    intro source dst lane
    unfold BackplaneTBlock.connect
    split
    · rename_i inside
      exact ⟨fun _ => inside, fun _ => ⟨_, rfl⟩⟩
    · rename_i outside
      exact ⟨fun ⟨_, connected⟩ => by simp at connected, fun inside => absurd inside outside⟩
  -- The index gives lane and sector; the state is the source, or stands for the front plane.
  simp only [BackplaneTBlock.connectState, accepts]
  split <;> omega

/-- Only the place that a number stands for is changed. -/
theorem connectState_entry {t t' : BackplaneTBlock} {state : Int} {index : Nat}
    (connected : t.connectState state index = .ok t') (k : Fin 9 × Fin 8) :
    t'.entry k = if k = BackplaneTBlock.slot ⟨state, index⟩ then
      some (Fin.ofNat 9 (BackplaneTBlock.stateSource state index).toNat) else t.entry k := by
  have bounds : (0 ≤ state ∧ state < 9) ∧ index < 72 :=
    (@connectState_accepts t (state, index)).mp ⟨t', connected⟩
  have source : 0 ≤ BackplaneTBlock.stateSource state index ∧
      BackplaneTBlock.stateSource state index < 9 := by
    unfold BackplaneTBlock.stateSource
    split <;> omega
  have inside : (0 ≤ BackplaneTBlock.stateSource state index ∧
      BackplaneTBlock.stateSource state index < 9) ∧
      ((0 : Int) ≤ (index % 9 : Nat) ∧ ((index % 9 : Nat) : Int) < 9) ∧
      ((0 : Int) ≤ (index / 9 : Nat) ∧ ((index / 9 : Nat) : Int) < 8) := by omega
  have column : index / 9 % 8 = index / 9 := by omega
  -- Exactly the entry in the row of the sector and the column of the lane is written.
  change t.connect (BackplaneTBlock.stateSource state index) (index % 9 : Nat) (index / 9 : Nat) = _
    at connected
  rw [BackplaneTBlock.connect, dif_pos inside] at connected
  cases connected
  obtain ⟨sectorOut, lane⟩ := k
  have small : (BackplaneTBlock.stateSource state index).toNat % 9 =
      (BackplaneTBlock.stateSource state index).toNat := Nat.mod_eq_of_lt (by omega)
  simp only [BackplaneTBlock.entry, BackplaneTBlock.slot, Vector.get_eq_getElem, Int.toNat_natCast,
    Vector.getElem_set, Prod.mk.injEq, Fin.ext_iff, column]
  by_cases same : index % 9 = sectorOut.val
  · by_cases own : index / 9 = lane.val
    · simp [same, own, Fin.ext_iff, small]
    · have foreign : ¬ lane.val = index / 9 := fun eq => own eq.symm
      simp [same, own, foreign]
  · have foreign : ¬ sectorOut.val = index % 9 := fun eq => same eq.symm
    simp [same, foreign]

/-- Connections overwrite. -/
theorem connectState_law : Law fun (t : BackplaneTBlock) (entry : Int × Nat) =>
    t.connectState entry.1 entry.2 :=
  -- Every entry has its own slot, and writes nothing but that.
  .ofSlots BackplaneTBlock.entry BackplaneTBlock.ext_entry _
    (fun entry => BackplaneTBlock.slot ⟨entry.1, entry.2⟩) _ connectState_accepts
    fun connected => connectState_entry connected

/-- The multiplexers of a T-block are assigned by their numbers. -/
theorem tBlock_deserialize (t : TBlock) (muxes : List Wire.Mux) :
    t.deserializeConfiguration muxes =
      ((numberedMuxes muxes).foldlM (fun current entry =>
        assign Python.assignmentError current entry.2 (some entry.1)) t.muxes).map TBlock.mk := by
  simp only [TBlock.deserializeConfiguration, numberedMuxes]
  -- Multiplexers with indices and without are numbered alike.
  split <;> rw [List.foldlM_map]

/-- The states of a backplane block are connected by their numbers. -/
theorem bplTBlock_deserialize (t : BackplaneTBlock) (muxes : List Wire.Mux) :
    t.deserializeConfiguration muxes =
      (numberedMuxes muxes).foldlM (fun current entry => current.connectState entry.1 entry.2) t := by
  simp only [BackplaneTBlock.deserializeConfiguration, numberedMuxes]
  -- As for the T-block of a carrier.
  split <;> rw [List.foldlM_map]

end Writes

/-- A changed result is returned when the result is. -/
theorem map_accepts {α β : Type} {first : Except PyError α} {change : α → β} :
    (∃ b, first.map change = .ok b) ↔ ∃ a, first = .ok a := by
  cases first <;> simp [Except.map]

/-- The positions of a list are below a bound if there are no more of them. -/
theorem zipIdx_bounded {α : Type} {elements : List α} {bound : Nat} :
    (∀ entry ∈ elements.zipIdx, entry.2 < bound) ↔ elements.length ≤ bound := by
  constructor
  -- If there were more, the one at the bound would be numbered with the bound.
  · intro below
    by_contra longer
    have last : (elements.get ⟨bound, by omega⟩, bound) ∈ elements.zipIdx :=
      List.mk_mem_zipIdx_iff_getElem?.mpr (by simp)
    exact absurd (below _ last) (by simp)
  · intro short entry member
    have inside := List.snd_lt_of_mem_zipIdx member
    omega

/-- Sums are accepted if the outputs and the lanes exist. -/
theorem iBlock_accepts {block : IBlock} {connections : List Wire.SumConnection}
    {upscales : List Wire.Upscale} :
    (∃ configured, block.deserializeConfiguration connections upscales = .ok configured) ↔
      (∀ connection ∈ connections, connection.output < 16) ∧
        ∀ upscale ∈ upscales, upscale.lane < 32 := by
  -- The sums are set first and the upscaling then, each from its own list.
  rw [← assigns_accepts, ← assigns_accepts]
  constructor
  · rintro ⟨configured, ran⟩
    obtain ⟨outputs, summed, ran⟩ := Raising.except_bind_eq_ok.mp ran
    obtain ⟨upscaling, scaled, -⟩ := Raising.except_bind_eq_ok.mp ran
    exact ⟨⟨outputs, summed⟩, upscaling, scaled⟩
  · rintro ⟨⟨outputs, summed⟩, upscaling, scaled⟩
    exact ⟨_, Raising.except_bind_eq_ok.mpr ⟨outputs, summed,
      Raising.except_bind_eq_ok.mpr ⟨upscaling, scaled, rfl⟩⟩⟩

/-- The class has a use for payloads of this kind, which can change entities of it. -/
def EntityKind.Uses (kind : EntityKind) (payload : ItemKind) : Prop :=
  -- The I-block inherits the handlers of selections and connections, and the T-block that of
  -- connections.
  match kind, payload with
  | .carrier, .adcConfig | .carrier, .portConfig | .carrier, .frontPanelIoConfig => True
  | .cBlock, .coefConfig => True
  | .mMDRBlock, .mdrConfig => True
  | .mIntBlock, .itorConfig | .mIntBlock, .limiterConfig => True
  | .uBlock, .selectConfig | .uBlock, .bplSwitchConfig => True
  | .iBlock, .sumConfig | .iBlock, .selectConfig | .iBlock, .bplSwitchConfig => True
  | .tBlock, .switchConfig | .tBlock, .bplSwitchConfig => True
  | .backplaneTBlock, .bplSwitchConfig => True
  | _, _ => False

/-- Some class of entity lets payloads of both kinds set how its signals are connected. -/
def ItemKind.Conflicts : ItemKind → ItemKind → Prop
  -- Both replace what the I-block sums.
  | .sumConfig, .selectConfig | .selectConfig, .sumConfig => True
  | .bplSwitchConfig, .sumConfig | .sumConfig, .bplSwitchConfig => True
  | .bplSwitchConfig, .selectConfig | .selectConfig, .bplSwitchConfig => True
  -- Both set multiplexers of one T-block.
  | .bplSwitchConfig, .switchConfig | .switchConfig, .bplSwitchConfig => True
  | _, _ => False

instance (a b : ItemKind) : Decidable (a.Conflicts b) := by
  unfold ItemKind.Conflicts
  split <;> infer_instance

/-- Kinds that conflict do so in both orders. -/
theorem ItemKind.Conflicts.symm {a b : ItemKind} (conflict : a.Conflicts b) : b.Conflicts a := by
  cases a <;> cases b <;> first | exact conflict.elim | trivial

namespace EntityState

/-- A payload that the class has no use for is checked, and changes nothing. -/
theorem configure_stray {s : EntityState} {payload : Wire.Payload}
    (stray : ¬s.kind.Uses payload.kind) :
    s.configure payload = (s.kind.takeStray payload).map fun _ => s := by
  unfold configure
  -- All cases but the last one are of payloads that the class uses.
  split <;> first | rfl | exact absurd trivial stray

/-- A payload for this class of entity, whose indices and values are in range, is accepted. -/
theorem configure_inRange {s : EntityState} {payload : Wire.Payload}
    (fits : payload.InRange s.kind) : Accepts configure s payload := by
  -- One case for each branch of the handler, with the range that it checks.
  unfold Accepts configure
  split
  · exact ⟨_, rfl⟩
  · exact ⟨_, rfl⟩
  · exact ⟨_, rfl⟩
  · rw [map_accepts, CBlock.deserializeConfiguration, map_accepts, setFactor_law.returns_iff]
    exact fun element member => setFactor_accepts.mpr (fits element member)
  · rw [map_accepts, MMDRBlock.deserializeConfiguration, map_accepts, assigns_accepts]
    exact zipIdx_bounded.mpr fits
  · rw [map_accepts, MIntBlock.deserializeItors, map_accepts, assigns_accepts]
    exact fits
  · rw [map_accepts, MIntBlock.deserializeLimiters, map_accepts, assigns_accepts]
    exact fits
  · rw [map_accepts, iBlock_accepts]
    exact fits
  · rw [map_accepts, iBlock_accepts]
    exact fits
  · rw [map_accepts, UBlock.deserializeConfiguration, map_accepts, assigns_accepts]
    exact fits
  · exact fits.elim
  · exact fits.elim
  · rw [map_accepts, tBlock_deserialize, map_accepts, assigns_accepts]
    exact fits
  · rw [map_accepts, bplTBlock_deserialize, connectState_law.returns_iff]
    exact fun entry member => connectState_accepts.mpr (fits entry member)
  · exact fits.elim
  · exact fits.elim
  · exact fits.elim
  · exact fits.elim
  · -- What is in range for a class is used by it, or ignored.
    rcases s with (config | _ | (_ | block | _ | block) | block | block | block | block | block) |
        ⟨outputs, upscaling⟩ <;>
      cases payload <;> first | exact fits.elim | exact ⟨_, rfl⟩ | (exfalso; grind)

/-- The lists of a carrier are set independently of each other. -/
theorem configure_carrier {config : CarrierConfig} {a b : Wire.Payload} (apart : a.kind ≠ b.kind)
    (uses : EntityKind.carrier.Uses a.kind) (uses' : EntityKind.carrier.Uses b.kind)
    {middle final : EntityState} (first : configure (.typed (.carrier config)) a = .ok middle)
    (second : middle.configure b = .ok final) :
    ∃ other, configure (.typed (.carrier config)) b = .ok other ∧ other.configure a = .ok final := by
  -- The three parts of a carrier are independent, so that each order sets the same.
  cases a <;> first | exact uses.elim | skip
  all_goals
    cases first
    cases b <;> first | exact uses'.elim | exact absurd rfl apart | (cases second; exact ⟨_, rfl, rfl⟩)

/-- The integrators and the limiters of a block are set independently of each other. -/
theorem configure_mInt {block : MIntBlock} {a b : Wire.Payload} (apart : a.kind ≠ b.kind)
    (uses : EntityKind.mIntBlock.Uses a.kind) (uses' : EntityKind.mIntBlock.Uses b.kind)
    {middle final : EntityState} (first : configure (.typed (.mBlock (.int block))) a = .ok middle)
    (second : middle.configure b = .ok final) :
    ∃ other, configure (.typed (.mBlock (.int block))) b = .ok other ∧
      other.configure a = .ok final := by
  cases a <;> first | exact uses.elim | skip
  all_goals cases b <;> first | exact uses'.elim | exact absurd rfl apart | skip
  all_goals
    simp only [configure, MIntBlock.deserializeItors, MIntBlock.deserializeLimiters,
      Raising.except_map_map] at first ⊢
    obtain ⟨one, set, rfl⟩ := Raising.except_map_eq_ok.mp first
    simp only [configure, MIntBlock.deserializeItors, MIntBlock.deserializeLimiters,
      Raising.except_map_map] at second
    obtain ⟨two, switched, rfl⟩ := Raising.except_map_eq_ok.mp second
    -- What each of them reads is not written by the other one.
    exact ⟨_, Raising.except_map_eq_ok.mpr ⟨two, switched, rfl⟩,
      Raising.except_map_eq_ok.mpr ⟨one, set, rfl⟩⟩

/-- Payloads of different kinds, which do not conflict. -/
def Apart (a b : Wire.Payload) : Prop := a.kind ≠ b.kind ∧ ¬a.kind.Conflicts b.kind

/-- Payloads are apart whichever comes first. -/
theorem Apart.symm {a b : Wire.Payload} (apart : Apart a b) : Apart b a :=
  ⟨apart.1.symm, fun conflict => apart.2 conflict.symm⟩

/-- Payloads that are apart can change places. -/
theorem configure_exchange : Exchange Apart configure := by
  intro s middle final a b apart first second
  have kept : middle.kind = s.kind := configure_kind first
  by_cases uses : s.kind.Uses a.kind
  · by_cases uses' : s.kind.Uses b.kind
    · -- Of the classes that use both, all but two let them set connections.
      rcases s with (config | _ | (_ | block | _ | block) | block | block | block | block | block) |
        ⟨outputs, upscaling⟩
      case typed.carrier => exact configure_carrier apart.1 uses uses' first second
      case typed.mBlock.int => exact configure_mInt apart.1 uses uses' first second
      all_goals
        obtain ⟨different, peace⟩ := apart
        exfalso
        revert uses uses' different peace
        generalize a.kind = one
        generalize b.kind = other
        clear * -
        intro uses uses' different peace
        cases one <;> cases other <;>
          first | exact uses.elim | exact uses'.elim | exact different rfl | exact peace trivial
    · -- The second payload changes nothing, and is checked against the class alone.
      rw [configure_stray (kept ▸ uses'), kept] at second
      obtain ⟨passed, checked, rfl⟩ := Raising.except_map_eq_ok.mp second
      exact ⟨s, by rw [configure_stray uses', checked]; rfl, first⟩
  -- The first payload changes nothing, and is checked against the class alone.
  · rw [configure_stray uses] at first
    obtain ⟨passed, checked, rfl⟩ := Raising.except_map_eq_ok.mp first
    refine ⟨final, second, ?_⟩
    rw [configure_stray ((configure_kind second) ▸ uses), configure_kind second, checked]
    rfl

/-- What becomes of a payload that the class has no use for, in every state of it. -/
theorem stray_acts {π ω : Type} {whole : π → EntityState} {part : π → ω → Except PyError π}
    {kind : EntityKind} {payload : Wire.Payload} (stray : ¬kind.Uses payload.kind)
    (class_ : ∀ p, (whole p).kind = kind) :
    (∃ w, ∀ p, (whole p).configure payload = (part p w).map whole) ∨
      (∀ p, (whole p).configure payload = .ok (whole p)) ∨
        ∀ p s, (whole p).configure payload ≠ .ok s := by
  have same : ∀ p, (whole p).configure payload = (kind.takeStray payload).map fun _ => whole p := by
    intro p
    rw [configure_stray (class_ p ▸ stray), class_ p]
  -- Whether it is passed over or raises depends on the class and the payload only.
  cases checked : kind.takeStray payload with
  | ok passed => exact .inr (.inl fun p => by rw [same, checked]; rfl)
  | error error => exact .inr (.inr fun p s => by simp [same, checked, Except.map])

/-- A multiplexer of a T-block is set by its number, or by a connection between sectors. -/
def setMux (muxes : Vector (Option Int) 96) :
    (Int × Nat) ⊕ SectorConnection → Except PyError (Vector (Option Int) 96)
  | .inl entry => assign Python.assignmentError muxes entry.2 (some entry.1)
  | .inr c => (TBlock.connectSector ⟨muxes⟩ c).map TBlock.muxes

/-- The sectors and the lane of a connection exist on a T-block. -/
def OnTBlock (c : SectorConnection) : Prop :=
  (0 ≤ c.inSector ∧ c.inSector < 4) ∧ c.outSector < 4 ∧ c.lane < 24

/-- A connection whose sectors and lane exist sets one multiplexer. -/
theorem setMux_connection {c : SectorConnection} (inside : OnTBlock c)
    (muxes : Vector (Option Int) 96) : setMux muxes (.inr c) =
      assign Python.assignmentError muxes (c.lane * 4 + c.outSector) (some c.inSector) := by
  obtain ⟨source, sector, lane⟩ := inside
  have dst : (0 : Int) ≤ c.outSector ∧ (c.outSector : Int) < 4 := by omega
  have column : (0 : Int) ≤ c.lane ∧ (c.lane : Int) < 24 := by omega
  have place : ((c.lane : Int) * 4 + c.outSector).toNat = c.lane * 4 + c.outSector := by omega
  have small : c.lane * 4 + c.outSector < 96 := by omega
  -- All three checks are passed, and the position is the one that they leave.
  simp only [setMux, TBlock.connectSector, TBlock.connect, TBlock.index, source, dst, column,
    not_true, if_false, and_self, dif_pos, Except.map, assign_of_lt small, place]

/-- Other connections are refused. -/
theorem setMux_refused {c : SectorConnection} (outside : ¬OnTBlock c)
    (muxes muxes' : Vector (Option Int) 96) : setMux muxes (.inr c) ≠ .ok muxes' := by
  intro set
  obtain ⟨block, connected, -⟩ := Raising.except_map_eq_ok.mp set
  -- Every branch that returns has checked the three subscripts.
  unfold TBlock.connectSector TBlock.connect at connected
  split at connected
  · cases connected
  split at connected
  · cases connected
  split at connected
  · cases connected
  exact outside ⟨by omega, by omega, by omega⟩

/-- Setting multiplexers overwrites. -/
theorem setMux_law : Law setMux := by
  -- Both ways to set a multiplexer assign one slot, if the position exists.
  refine .ofSlots (fun v (k : Nat) => v[k]?) ext_getElem?
    (Sum.elim (fun entry => entry.2 < 96) OnTBlock)
    (Sum.elim Prod.snd fun c => c.lane * 4 + c.outSector)
    (Sum.elim (fun entry => some (some entry.1)) fun c => some (some c.inSector)) ?_ ?_
  · intro muxes a
    rcases a with entry | c
    · exact assign_accepts
    · refine ⟨fun ⟨muxes', set⟩ => ?_, fun inside => ?_⟩
      · by_contra outside
        exact setMux_refused outside muxes muxes' set
      · rw [Accepts, setMux_connection inside]
        obtain ⟨-, sector, lane⟩ := inside
        exact assign_accepts.mpr (by omega)
  -- A connection names its slot by lane and sector.
  · intro muxes muxes' a set k
    rcases a with entry | c
    · have inside : entry.2 < 96 := assign_accepts.mp ⟨muxes', set⟩
      rw [setMux, assign_of_lt inside] at set
      cases set
      exact getElem?_set inside _ k
    · have inside : OnTBlock c := by
        by_contra outside
        exact setMux_refused outside muxes muxes' set
      rw [setMux_connection inside] at set
      obtain ⟨-, sector, lane⟩ := inside
      have small : c.lane * 4 + c.outSector < 96 := by omega
      rw [assign_of_lt small] at set
      cases set
      exact getElem?_set small _ k

/-- Connections on a T-block are made one by one on its multiplexers. -/
theorem tBlock_connects (muxes : Vector (Option Int) 96) (cs : List SectorConnection) :
    cs.foldlM TBlock.connectSector ⟨muxes⟩ = ((cs.map Sum.inr).foldlM setMux muxes).map TBlock.mk := by
  rw [List.foldlM_map]
  refine foldlM_whole TBlock.mk (fun muxes c => ?_) cs muxes
  -- A connection sets one multiplexer.
  cases connected : TBlock.connectSector ⟨muxes⟩ c <;> simp [setMux, connected, Except.map]

/-- An entity of a class that has no use for any payload stays as it is. -/
theorem unused_twice {entity : EntityConfig} (unused : ∀ kind, ¬entity.kind.Uses kind)
    {payloads : List Wire.Payload} {s : EntityState}
    (ran : payloads.foldlM configure (.typed entity) = .ok s) :
    payloads.foldlM configure s = .ok s := by
  -- A payload that the entity does not use is taken without effect.
  have law := Law.ofConstant fun _ : Unit => (.ok () : Except PyError Unit)
  refine law.twice_part (fun _ => .typed entity) () (fun payload => ?_) ran
  exact stray_acts (unused payload.kind) fun _ => rfl

/-- The lists of a carrier are replaced as a whole, each by a payload of its own. -/
theorem carrier_twice {config : CarrierConfig} {payloads : List Wire.Payload} {s : EntityState}
    (ran : payloads.foldlM configure (.typed (.carrier config)) = .ok s) :
    payloads.foldlM configure s = .ok s := by
  -- Each of the three payloads replaces a part of the configuration as a whole.
  have law := (Law.ofConstant fun channels : List Wire.AdcChannel => (.ok (channels.map fun channel =>
      some ⟨channel.idx, channel.gain, channel.offset, channel.probe⟩) :
        Except PyError (List (Option ADCChannel)))).either
    ((Law.ofConstant fun states : List Wire.AclState => .ok (some (states.map fun state =>
      if state = .external then "external" else "internal"))).either
      (Law.ofConstant fun modes : List Wire.FrontPanelIOMode => .ok (some modes)))
  refine law.twice_part (fun p => .typed (.carrier ⟨p.1, p.2.1, config.frontPanelIo, p.2.2⟩))
    (config.adcConfig, config.aclSelect, config.ioModes) (fun payload => ?_) ran
  by_cases uses : EntityKind.carrier.Uses payload.kind
  · cases payload with
    | adcConfig channels => exact .inl ⟨.inl channels, fun _ => rfl⟩
    | portConfig states => exact .inl ⟨.inr (.inl states), fun _ => rfl⟩
    | frontPanelIoConfig modes => exact .inl ⟨.inr (.inr modes), fun _ => rfl⟩
    | _ => exact uses.elim
  · exact stray_acts uses fun _ => rfl

/-- Integrators are assigned one by one, the limiters are built anew. -/
theorem mInt_twice {block : MIntBlock} {payloads : List Wire.Payload} {s : EntityState}
    (ran : payloads.foldlM configure (.typed (.mBlock (.int block))) = .ok s) :
    payloads.foldlM configure s = .ok s := by
  -- Elements are set one by one, limiters all at once.
  have law := (assign_law (α := Integration) (n := 8) Python.indexError
      (fun element : Wire.ItorElement => element.idx) fun element => ⟨element.ic, element.k⟩).list.either
    (Law.ofConstant fun elements : List Wire.LimiterElement => elements.foldlM
      (fun current element => assign Python.assignmentError current element.idx element.enable)
      (Vector.replicate 8 false))
  refine law.twice_part (fun p => .typed (.mBlock (.int ⟨p.1, p.2⟩))) (block.elements, block.limiters)
    (fun payload => ?_) ran
  by_cases uses : EntityKind.mIntBlock.Uses payload.kind
  · cases payload with
    | itorConfig elements =>
      refine .inl ⟨.inl elements, fun p => ?_⟩
      simp only [configure, MIntBlock.deserializeItors, either, Raising.except_map_map]
    | limiterConfig elements =>
      refine .inl ⟨.inr elements, fun p => ?_⟩
      simp only [configure, MIntBlock.deserializeLimiters, either, Raising.except_map_map]
    | _ => exact uses.elim
  · exact stray_acts uses fun _ => rfl

/-- Operations are assigned one by one. -/
theorem mMDR_twice {block : MMDRBlock} {payloads : List Wire.Payload} {s : EntityState}
    (ran : payloads.foldlM configure (.typed (.mBlock (.mdr block))) = .ok s) :
    payloads.foldlM configure s = .ok s := by
  -- Operations are numbered by their position in the payload.
  have law := (assign_law (α := MdrOperation) (n := 4) Python.indexError
    (fun entry : Wire.MdrOperation × Nat => entry.2) fun entry => MdrOperation.ofWire entry.1).list
  refine law.twice_part (fun elements => .typed (.mBlock (.mdr ⟨elements⟩))) block.elements
    (fun payload => ?_) ran
  by_cases uses : EntityKind.mMDRBlock.Uses payload.kind
  · cases payload with
    | mdrConfig operations =>
      refine .inl ⟨operations.zipIdx, fun elements => ?_⟩
      simp only [configure, MMDRBlock.deserializeConfiguration, Raising.except_map_map]
    | _ => exact uses.elim
  · exact stray_acts uses fun _ => rfl

/-- Factors are assigned one by one. -/
theorem cBlock_twice {block : CBlock} {payloads : List Wire.Payload} {s : EntityState}
    (ran : payloads.foldlM configure (.typed (.cBlock block)) = .ok s) :
    payloads.foldlM configure s = .ok s := by
  refine setFactor_law.list.twice_part (fun factors => .typed (.cBlock ⟨factors⟩)) block.elements
    (fun payload => ?_) ran
  -- Only a payload with factors changes the block.
  by_cases uses : EntityKind.cBlock.Uses payload.kind
  · cases payload with
    | coefConfig elements =>
      refine .inl ⟨elements, fun factors => ?_⟩
      simp only [configure, CBlock.deserializeConfiguration, Raising.except_map_map]
    | _ => exact uses.elim
  · exact stray_acts uses fun _ => rfl

/-- Multiplexers are assigned one by one, by either of two payloads. -/
theorem tBlock_twice {block : TBlock} {payloads : List Wire.Payload} {s : EntityState}
    (ran : payloads.foldlM configure (.typed (.tBlock block)) = .ok s) :
    payloads.foldlM configure s = .ok s := by
  refine setMux_law.list.twice_part (fun muxes => .typed (.tBlock ⟨muxes⟩)) block.muxes
    (fun payload => ?_) ran
  -- Multiplexers are set by number, or by the sectors they connect.
  by_cases uses : EntityKind.tBlock.Uses payload.kind
  · cases payload with
    | switchConfig muxes =>
      refine .inl ⟨(numberedMuxes muxes).map .inl, fun states => ?_⟩
      simp only [configure, tBlock_deserialize, Raising.except_map_map, List.foldlM_map, setMux]
    | bplSwitchConfig muxes =>
      refine .inl ⟨(sectorConnections muxes).map .inr, fun states => ?_⟩
      simp only [configure, tBlock_connects, Raising.except_map_map]
    | _ => exact uses.elim
  · exact stray_acts uses fun _ => rfl

/-- The entries of a backplane table are assigned one by one. -/
theorem bplTBlock_twice {block : BackplaneTBlock} {payloads : List Wire.Payload} {s : EntityState}
    (ran : payloads.foldlM configure (.typed (.bplTBlock block)) = .ok s) :
    payloads.foldlM configure s = .ok s := by
  refine connectState_law.list.twice_part (fun block => .typed (.bplTBlock block)) block
    (fun payload => ?_) ran
  -- Only a payload with connections changes the block.
  by_cases uses : EntityKind.backplaneTBlock.Uses payload.kind
  · cases payload with
    | bplSwitchConfig muxes =>
      refine .inl ⟨numberedMuxes muxes, fun states => ?_⟩
      simp only [configure, bplTBlock_deserialize]
    | _ => exact uses.elim
  · exact stray_acts uses fun _ => rfl

end EntityState

end Pybrid
