import Pybrid.Lucipy.ProbeNumbering
import Pybrid.Redac.Reset
import Pybrid.Redac.Signals

/-! The data acquisition of a computer: which probes its captures hand out, and which are lost. -/

namespace Pybrid

open Client

/-- A carrier as its computer knows it. -/
structure MeasuredCarrier where
  path : EntityPath
  config : CarrierConfig
  deriving DecidableEq, Repr

/-- The data acquisition, with the carriers of its computer in the order they were added. -/
structure DAQ where
  carriers : List MeasuredCarrier
  nextProbeIndex : ℕ
  deriving DecidableEq, Repr

namespace DAQ

/-- A new computer, whose carriers are not configured. -/
def new (paths : List EntityPath) : DAQ :=
  ⟨paths.map fun path => ⟨path, [], none, none, none⟩, 0⟩

/-- The paths of the carriers. -/
def paths (d : DAQ) : List EntityPath := d.carriers.map (·.path)

/-- The place of the carrier with this path; one that was added later takes the entry of another. -/
def getEntity (d : DAQ) (path : EntityPath) : Except Raised ℕ :=
  match (List.range d.paths.length).reverse.find? fun place => d.paths[place]? = some path with
  | some place => .ok place
  | none => .error ⟨.exception, "Entity with path " ++ path.str ++ " does not exist."⟩

/-- Append a channel to the configuration of a carrier. -/
def append (d : DAQ) (place : ℕ) (channel : ADCChannel) : DAQ :=
  { d with
    carriers := d.carriers.modify place fun carrier =>
      { carrier with config.adcConfig := carrier.config.adcConfig ++ [some channel] } }

/-- The next probe is handed out. -/
def next (d : DAQ) : DAQ := { d with nextProbeIndex := d.nextProbeIndex + 1 }

/-- Capture the signal of one entity. -/
def captureEntity (gain offset : ℚ) (entity : EntityPath) : EStateM Raised DAQ Unit := do
  let d ← get
  match d.getEntity entity.toRoot with
  | .error error => throw error
  | .ok place =>
    let probe := d.nextProbeIndex
    -- The probe is handed out before it is known whether there is a signal.
    set d.next
    -- The path of the carrier is the one it was found by.
    match resolveSignal entity.toRoot entity with
    | .error error => throw error
    | .ok index => set (d.next.append place ⟨index, gain, offset, probe⟩)

/-- `DAQ.capture`: capture the signals of some entities, one after the other. -/
def capture (entities : List EntityPath) (gain offset : ℚ) : EStateM Raised DAQ Unit :=
  entities.forM (captureEntity gain offset)

/-- The reset of the computer, which resets its carriers and its data acquisition. -/
def reset (d : DAQ) : DAQ :=
  ⟨d.carriers.map fun carrier => { carrier with config := carrier.config.reset }, 0⟩

/-- A call on the computer. -/
inductive Call where
  | capture (entities : List EntityPath) (gain offset : ℚ)
  | reset

/-- The computer behind a call, whether that returned or raised. -/
def behind (d : DAQ) : Call → DAQ
  | .capture entities gain offset => Raising.final (capture entities gain offset d)
  | .reset => d.reset

/-- The channels present on all carriers. -/
def channels (d : DAQ) : List ADCChannel :=
  d.carriers.flatMap fun carrier => carrier.config.adcConfig.reduceOption

/-- The probes of these channels. -/
def probes (d : DAQ) : List Int := d.channels.map ADCChannel.probe

/-- The probes are the numbers from zero on, each of them once. -/
def Contiguous (d : DAQ) : Prop := d.probes.Perm ((List.range d.probes.length).map Int.ofNat)

/-- What the validator says of the channels when the computer is serialized. -/
def validate (d : DAQ) : Result :=
  AdcProbeValidator.validate (d.carriers.map fun carrier => carrier.config.adcConfig)

/-- The entity has a carrier here, and a signal on it. -/
def Measurable (paths : List EntityPath) (entity : EntityPath) : Bool :=
  entity.toRoot ∈ paths ∧ (resolveSignal entity.toRoot entity).isOk

/-- How many channels a capture appends: it stops at the first entity that it cannot measure. -/
def captured (paths entities : List EntityPath) : ℕ :=
  (entities.takeWhile (Measurable paths)).length

/-- A capture loses a probe where it stops at an entity that has a carrier and no signal. -/
def lost (paths entities : List EntityPath) : ℕ :=
  match (entities.dropWhile (Measurable paths)).head? with
  | some entity => if entity.toRoot ∈ paths then 1 else 0
  | none => 0

/--
Nothing is measured while there are lost probes.

The count starts again with every reset.
-/
def Gapless (paths : List EntityPath) : Int → List Call → Prop
  | _, [] => True
  | _, .reset :: later => Gapless paths 0 later
  | skipped, .capture entities _ _ :: later =>
    (skipped = 0 ∨ captured paths entities = 0) ∧
      Gapless paths (skipped + lost paths entities) later

/-- How many probes were handed out that no channel has. -/
def skipped (d : DAQ) : Int := d.nextProbeIndex - d.probes.length

/-- The carrier that is found has the path, and there is one where the path is known. -/
theorem getEntity_cases (d : DAQ) (path : EntityPath) :
    (path ∉ d.paths ∧ ∃ error, d.getEntity path = .error error) ∨
      ∃ place, d.getEntity path = .ok place ∧ d.paths[place]? = some path := by
  unfold getEntity
  -- The last carrier of the path is the one that is found.
  cases found :
      (List.range d.paths.length).reverse.find? fun place => d.paths[place]? = some path with
  | none =>
    refine .inl ⟨fun member => ?_, _, rfl⟩
    obtain ⟨place, bound, same⟩ := List.getElem_of_mem member
    have missed := List.find?_eq_none.mp found place
      (List.mem_reverse.mpr (List.mem_range.mpr bound))
    exact missed (decide_eq_true (List.getElem?_eq_some_iff.mpr ⟨bound, same⟩))
  | some place =>
    have same := List.find?_some found
    exact .inr ⟨place, rfl, by simpa using same⟩

/-- Appending a channel leaves the paths alone. -/
@[simp] theorem append_paths (d : DAQ) (place : ℕ) (channel : ADCChannel) :
    (d.append place channel).paths = d.paths := by
  unfold paths append
  refine List.ext_getElem? fun index => ?_
  simp only [List.getElem?_map, List.getElem?_modify]
  -- The path of a carrier does not change with its channels.
  split <;> cases d.carriers[index]? <;> rfl

@[simp] theorem append_nextProbeIndex (d : DAQ) (place : ℕ) (channel : ADCChannel) :
    (d.append place channel).nextProbeIndex = d.nextProbeIndex := rfl

@[simp] theorem next_paths (d : DAQ) : d.next.paths = d.paths := rfl

@[simp] theorem next_probes (d : DAQ) : d.next.probes = d.probes := rfl

@[simp] theorem next_nextProbeIndex (d : DAQ) : d.next.nextProbeIndex = d.nextProbeIndex + 1 := rfl

/-- A channel that is appended on one carrier is one more of all of them. -/
theorem channels_modify (channel : ADCChannel) (carriers : List MeasuredCarrier) (place : ℕ)
    (bound : place < carriers.length) :
    ((carriers.modify place fun carrier =>
      { carrier with config.adcConfig := carrier.config.adcConfig ++ [some channel] }).flatMap
        fun carrier => carrier.config.adcConfig.reduceOption).Perm
      ((carriers.flatMap fun carrier => carrier.config.adcConfig.reduceOption) ++ [channel]) := by
  -- The induction is on the carriers up to the one that is modified.
  induction carriers generalizing place with
  | nil => exact absurd bound (Nat.not_lt_zero _)
  | cons carrier later ih =>
    cases place with
    | zero =>
      rw [List.modify_zero_cons, List.flatMap_cons, List.flatMap_cons]
      have one : ([some channel] : List (Option ADCChannel)).reduceOption = [channel] := rfl
      simp only [List.reduceOption_append, one, List.append_assoc]
      exact List.Perm.append_left _ List.perm_append_comm
    | succ place =>
      rw [List.modify_succ_cons, List.flatMap_cons, List.flatMap_cons, List.append_assoc]
      exact (ih place (Nat.lt_of_succ_lt_succ bound)).append_left _

/-- The probe of an appended channel is one more of all. -/
theorem append_probes (d : DAQ) {place : ℕ} {path : EntityPath} (channel : ADCChannel)
    (found : d.paths[place]? = some path) :
    (d.append place channel).probes.Perm (d.probes ++ [channel.probe]) := by
  have bound : place < d.carriers.length := by
    have := (List.getElem?_eq_some_iff.mp found).1
    rwa [paths, List.length_map] at this
  -- The channel is added to one carrier, somewhere within the whole list.
  have appended : (d.append place channel).channels.Perm (d.channels ++ [channel]) :=
    channels_modify channel d.carriers place bound
  rw [probes, probes, ← List.map_singleton, ← List.map_append]
  exact appended.map ADCChannel.probe

/-- Capturing one entity: it has no carrier, or a probe is handed out for a signal or for none. -/
theorem captureEntity_cases (d : DAQ) (gain offset : ℚ) (entity : EntityPath) :
    (entity.toRoot ∉ d.paths ∧ ∃ error, captureEntity gain offset entity d = .error error d) ∨
    (entity.toRoot ∈ d.paths ∧ Measurable d.paths entity = false ∧
      ∃ error, captureEntity gain offset entity d = .error error d.next) ∨
    (Measurable d.paths entity = true ∧ ∃ place index,
      d.paths[place]? = some entity.toRoot ∧ captureEntity gain offset entity d =
        .ok () (d.next.append place ⟨index, gain, offset, d.nextProbeIndex⟩)) := by
  rcases d.getEntity_cases entity.toRoot with ⟨unknown, error, missed⟩ | ⟨place, found, known⟩
  · refine .inl ⟨unknown, error, ?_⟩
    rw [captureEntity, Raising.get_bind]
    simp only [missed]
    rfl
  · have member : entity.toRoot ∈ d.paths := List.mem_of_getElem? known
    -- The probe has been handed out in both cases.
    cases resolved : resolveSignal entity.toRoot entity with
    | error error =>
      refine .inr (.inl ⟨member, ?_, error, ?_⟩)
      · simp [Measurable, resolved, Except.isOk, Except.toBool]
      · rw [captureEntity, Raising.get_bind]
        simp only [found, resolved]
        rfl
    | ok index =>
      refine .inr (.inr ⟨?_, place, index, known, ?_⟩)
      · simp [Measurable, resolved, member, Except.isOk, Except.toBool]
      · rw [captureEntity, Raising.get_bind]
        simp only [found, resolved]
        rfl

/-- What a capture leaves: the channels it has appended, and the probes it has handed out. -/
theorem capture_leaves (entities : List EntityPath) (gain offset : ℚ) (d : DAQ) :
    (d.behind (.capture entities gain offset)).paths = d.paths ∧
    (d.behind (.capture entities gain offset)).nextProbeIndex =
      d.nextProbeIndex + captured d.paths entities + lost d.paths entities ∧
    (d.behind (.capture entities gain offset)).probes.Perm (d.probes ++
      (List.range' d.nextProbeIndex (captured d.paths entities)).map Int.ofNat) := by
  -- The induction is on the entities still to come, from any state of the counter.
  induction entities generalizing d with
  | nil =>
    have idle : d.behind (.capture [] gain offset) = d := rfl
    rw [idle]
    exact ⟨rfl, rfl, by simp [captured]⟩
  | cons entity later ih =>
    have unrolled : d.behind (.capture (entity :: later) gain offset) =
        Raising.final ((captureEntity gain offset entity >>= fun _ =>
          capture later gain offset) d) := rfl
    rw [unrolled]
    rcases d.captureEntity_cases gain offset entity with
      ⟨unknown, error, raised⟩ | ⟨known, unresolved, error, raised⟩ |
      ⟨measurable, place, index, known, returned⟩
    · -- Nothing was handed out for an entity without a carrier.
      have stopped : Measurable d.paths entity = false := by simp [Measurable, unknown]
      rw [Raising.bind_of_error raised]
      simp [Raising.final, captured, lost, stopped, unknown]
    · -- A probe was handed out, and no channel has it.
      rw [Raising.bind_of_error raised]
      simp [Raising.final, captured, lost, unresolved, known]
    · -- The channel takes the probe, and the others follow from the next one.
      rw [Raising.bind_of_ok returned]
      have rest := ih (d.next.append place ⟨index, gain, offset, d.nextProbeIndex⟩)
      simp only [append_paths, next_paths, append_nextProbeIndex, next_nextProbeIndex] at rest
      have one : captured d.paths (entity :: later) = captured d.paths later + 1 := by
        simp [captured, measurable]
      have same : lost d.paths (entity :: later) = lost d.paths later := by
        simp [lost, measurable]
      rw [one, same]
      refine ⟨rest.1, ?_, ?_⟩
      · rw [behind] at rest
        rw [rest.2.1]
        omega
      · refine rest.2.2.trans ?_
        have appended := d.next.append_probes ⟨index, gain, offset, d.nextProbeIndex⟩ known
        rw [List.range'_succ, List.map_cons, List.append_cons]
        exact appended.append_right _

/-- Carriers without channels have no probes. -/
theorem probes_eq_nil {d : DAQ} (empty : ∀ carrier ∈ d.carriers, carrier.config.adcConfig = []) :
    d.probes = [] := by
  -- No carrier has a channel.
  have none_ : d.channels = [] := by
    rw [channels, List.flatMap_eq_nil_iff]
    intro carrier member
    rw [empty carrier member]
    rfl
  rw [probes, none_, List.map_nil]

/-- Resetting leaves no channel. -/
theorem reset_probes (d : DAQ) : d.reset.probes = [] := by
  refine probes_eq_nil fun carrier member => ?_
  obtain ⟨_, _, rfl⟩ := List.mem_map.mp member
  rfl

/-- Resetting keeps the carriers. -/
theorem reset_paths (d : DAQ) : d.reset.paths = d.paths := by
  simp [reset, paths, Function.comp_def]

/-- Numbers go on from zero where nothing is appended or the next one is their count. -/
theorem numbers_append {probes : List Int}
    (contiguous : probes.Perm ((List.range probes.length).map Int.ofNat)) (next count : ℕ) :
    (probes ++ (List.range' next count).map Int.ofNat).Perm
        ((List.range (probes ++ (List.range' next count).map Int.ofNat).length).map Int.ofNat) ↔
      next = probes.length ∨ count = 0 := by
  have split : List.range (probes ++ (List.range' next count).map Int.ofNat).length =
      List.range probes.length ++ List.range' probes.length count := by
    have joined := List.range'_append_1 (s := 0) (m := probes.length) (n := count)
    rw [Nat.zero_add] at joined
    rw [List.length_append, List.length_map, List.length_range', List.range_eq_range',
      List.range_eq_range', joined]
  rw [split, List.map_append]
  constructor
  · intro whole
    -- The probes that were there account for the first numbers.
    have rest := (List.perm_append_left_iff _).mp ((contiguous.symm.append_right _).trans whole)
    have rest := (List.map_perm_map_iff Int.ofNat_injective).mp rest
    rcases Nat.eq_zero_or_pos count with empty | positive
    · exact .inr empty
    · -- Each of the two runs contains the first number of the other.
      have lower := rest.mem_iff.mp (List.mem_range'_1.mpr ⟨Nat.le_refl next, by omega⟩)
      have upper := rest.mem_iff.mpr (List.mem_range'_1.mpr ⟨Nat.le_refl probes.length, by omega⟩)
      rw [List.mem_range'_1] at lower upper
      exact .inl (by omega)
  · rintro (rfl | rfl)
    · exact contiguous.append_right _
    · simpa using contiguous

/-- One call on contiguous probes: they stay so exactly where the call meets the condition. -/
theorem behind_contiguous {d : DAQ} (contiguous : d.Contiguous) (entities : List EntityPath)
    (gain offset : ℚ) : (d.behind (.capture entities gain offset)).Contiguous ↔
      d.skipped = 0 ∨ captured d.paths entities = 0 := by
  have appended := (capture_leaves entities gain offset d).2.2
  have counted := appended.length_eq
  -- The numbers have a hole if one was skipped before the last that was added.
  rw [Contiguous, counted, appended.congr_left, numbers_append contiguous, skipped]
  omega

/-- A capture leaves one more probe lost where it loses one. -/
theorem behind_skipped (d : DAQ) (entities : List EntityPath) (gain offset : ℚ) :
    (d.behind (.capture entities gain offset)).skipped = d.skipped + lost d.paths entities := by
  obtain ⟨_, next, appended⟩ := capture_leaves entities gain offset d
  -- A number that is counted is either given to a channel or lost.
  have count := appended.length_eq
  rw [List.length_append, List.length_map, List.length_range'] at count
  rw [skipped, skipped, next, count]
  omega

/-- The validator accepts exactly contiguous probes. -/
theorem validate_ok_iff (d : DAQ) : d.validate.ok = true ↔ d.Contiguous := by
  -- The validator reads the channels carrier by carrier.
  have gathered : AdcProbeValidator.active ((d.carriers.map fun carrier =>
      carrier.config.adcConfig).map fun channels => channels.map (Option.map ADCChannel.probed)) =
      d.channels.map ADCChannel.probed := by
    rw [AdcProbeValidator.active, List.map_map, List.flatMap_map, channels, List.map_flatMap]
    simp only [Function.comp_apply, List.reduceOption_map]
  have probed : (d.channels.map ADCChannel.probed).map (·.probe) = d.probes.map some := by
    rw [List.map_map, probes, List.map_map]
    rfl
  -- It compares the sorted probes with zero and the numbers behind it.
  have expected : AdcProbeValidator.contiguous (d.channels.map ADCChannel.probed) =
      ((List.range d.probes.length).map Int.ofNat).map some := by
    rw [AdcProbeValidator.contiguous, List.map_map, List.length_map, probes, List.length_map]
    rfl
  rw [validate, ← AdcProbeValidator.validateProbed_probed, AdcProbeValidator.accepts_iff, gathered,
    probed, expected, List.map_perm_map_iff (Option.some_injective Int), Contiguous]
  constructor
  · rintro (idle | unprobed | numbered)
    · rw [probes, List.map_eq_nil_iff.mp idle]
      exact List.Perm.refl _
    · -- Every channel has a probe, so that there is none.
      cases present : d.channels with
      | nil => simp [probes, present]
      | cons channel later =>
        rw [present] at unprobed
        exact absurd (unprobed _ List.mem_cons_self) (Option.some_ne_none _)
    · exact numbered
  · exact fun numbered => .inr (.inr numbered)

/-- A new computer has no channels, and no probe is lost. -/
theorem new_contiguous (paths : List EntityPath) :
    (new paths).Contiguous ∧ (new paths).skipped = 0 ∧ (new paths).paths = paths := by
  -- A new carrier has no channels.
  have empty : (new paths).probes = [] := by
    refine probes_eq_nil fun carrier member => ?_
    obtain ⟨_, _, rfl⟩ := List.mem_map.mp member
    rfl
  refine ⟨?_, ?_, ?_⟩
  · simp [Contiguous, empty]
  · rw [skipped, empty]
    rfl
  · simp [new, DAQ.paths, Function.comp_def]

/--
The probes are contiguous after every call, and accepted, exactly where they are at the start and
no capture measures anything while a probe is lost.
-/
theorem capture_contiguous_iff (d : DAQ) (calls : List Call) :
    (∀ run, run <+: calls →
      (run.foldl behind d).Contiguous ∧ (run.foldl behind d).validate.ok = true) ↔
      d.Contiguous ∧ Gapless d.paths d.skipped calls := by
  simp only [validate_ok_iff, and_self]
  induction calls generalizing d with
  | nil =>
    constructor
    · intro held
      exact ⟨held [] (List.prefix_refl []), trivial⟩
    · rintro ⟨contiguous, _⟩ run begun
      obtain rfl := List.prefix_nil.mp begun
      exact contiguous
  | cons call later ih =>
    -- The first call is judged on contiguous probes, the others from where it has led.
    rw [TwoRuns.along_cons, ih]
    refine and_congr_right fun contiguous => ?_
    cases call with
    | reset =>
      have fresh : (d.behind .reset).Contiguous := by
        simp [behind, Contiguous, reset_probes]
      have nothing : (d.behind .reset).skipped = 0 := by
        simp only [behind, skipped, reset_probes]
        rfl
      rw [nothing, behind, reset_paths, Gapless]
      exact and_iff_right fresh
    | capture entities gain offset =>
      rw [behind_contiguous contiguous, behind_skipped, (capture_leaves entities gain offset d).1,
        Gapless]

/-- An element of a coefficient block has no signal; the capture behind it starts with probe one. -/
theorem capture_gap :
    let element : EntityPath := [.text [65], .text [48], .text [67], .number 0]
    let calls : List Call := [.capture [element] 1 0, .capture [elementPath [65] 0 0 0] 1 0]
    let d := calls.foldl behind (new [[.text [65]]])
    d.probes = [1] ∧ ¬ d.Contiguous ∧ d.validate.ok = false := by
  intro element calls d
  -- The refused call has counted a probe that no channel has.
  have probe : d.probes = [1] := rfl
  have apart : ¬ d.Contiguous := by
    rw [Contiguous, probe]
    decide
  exact ⟨probe, apart,
    Bool.eq_false_iff.mpr fun accepted => apart ((validate_ok_iff d).mp accepted)⟩

end DAQ

end Pybrid
