import Pybrid.Lucipy.Constants
import Pybrid.Lucipy.ProbeEntries

/-! The validation of probes, and the probes that the calls on a circuit hand out. -/

namespace Pybrid

open Client

/-- What the validator reads of an ADC channel; a probe may be missing. -/
structure ProbedChannel where
  index : Int
  probe : Option Int

/-- A channel with its probe. -/
def ADCChannel.probed (channel : ADCChannel) : ProbedChannel := ⟨channel.index, some channel.probe⟩

namespace AdcProbeValidator

/-- A channel without a probe, where others have one. -/
def unprobedErrors (channels : List ProbedChannel) : List String :=
  -- The first channel without a probe is the one that is named.
  match channels.find? fun channel => channel.probe.isNone with
  | none => []
  | some channel =>
    [s!"ADC channel (index={channel.index}) has no probe assignment. " ++
      "All active ADC channels must have a probe index when any probe is set."]

/-- What is wrong with some channels. -/
def channelErrors (channels : List ProbedChannel) : List String :=
  let probes := channels.filterMap (·.probe)
  let errors := unprobedErrors channels ++ duplicateErrors probes
  let distinct := probes.dedup.mergeSort
  let expected := (List.range channels.length).map Int.ofNat
  -- Gaps are reported only where nothing else is wrong.
  if errors = [] ∧ distinct ≠ expected then
    ["Probe indices " ++ listText distinct ++ " are not contiguous from 0. Expected " ++
      listText expected ++ "."]
  else errors

/-- `AdcProbeValidator.validate`, for the channels of all carriers. -/
def validateProbed (carriers : List (List (Option ProbedChannel))) : Result :=
  let channels := carriers.flatMap List.reduceOption
  if channels = [] then .success
  -- Channels none of which has a probe are let through.
  else if channels.filterMap (·.probe) = [] then .success
  else if channelErrors channels = [] then .success
  else .failure ("\n".intercalate (channelErrors channels))

/-- Probes are missing or used twice. -/
theorem duplicateErrors_eq_nil {probes : List Int} :
    duplicateErrors probes = [] ↔ -1 ∉ probes ∧ probes.Nodup := by
  -- Without duplicates there are as many values as probes.
  have distinct : probes.dedup.length = probes.length ↔ probes.Nodup := by
    rw [← List.dedup_eq_self]
    exact ⟨probes.dedup_sublist.eq_of_length, congrArg List.length⟩
  rw [← distinct]
  simp [duplicateErrors]

/-- Sorting distinct probes gives the expected ones exactly when they are these. -/
theorem sorted_eq_expected {probes : List Int} (distinct : probes.Nodup) (count : ℕ) :
    probes.dedup.mergeSort = (List.range count).map Int.ofNat ↔
      probes.Perm ((List.range count).map Int.ofNat) := by
  rw [List.dedup_eq_self.mpr distinct]
  have ascending : ((List.range count).map Int.ofNat).Pairwise (· ≤ ·) :=
    List.pairwise_map.mpr (List.pairwise_le_range.imp fun bound => Int.ofNat_le.mpr bound)
  -- The comparison of the sort is a total order, so there is one ascending list of these probes.
  have trans : ∀ first second third : Int, decide (first ≤ second) = true →
      decide (second ≤ third) = true → decide (first ≤ third) = true :=
    fun _ _ _ low high => decide_eq_true (Int.le_trans (of_decide_eq_true low) (of_decide_eq_true high))
  have total : ∀ first second : Int, (decide (first ≤ second) || decide (second ≤ first)) = true := by
    simpa using Int.le_total
  have sorted := List.pairwise_mergeSort trans total probes
  constructor
  · intro same
    exact same ▸ (List.mergeSort_perm probes _).symm
  · intro perm
    exact ((List.mergeSort_perm probes _).trans perm).eq_of_pairwise'
      (sorted.imp of_decide_eq_true) ascending

/-- Where every channel has a probe, none is missing. -/
theorem unprobedErrors_eq_nil {channels : List ProbedChannel} :
    unprobedErrors channels = [] ↔ ∀ channel ∈ channels, channel.probe ≠ none := by
  unfold unprobedErrors
  -- The channel that is found is one without a probe.
  cases found : channels.find? fun channel => channel.probe.isNone with
  | none =>
    have all := List.find?_eq_none.mp found
    simpa using all
  | some channel =>
    have member := List.mem_of_find?_eq_some found
    have missing := List.find?_some found
    simp only [List.cons_ne_nil, false_iff, not_forall, not_not]
    exact ⟨channel, member, by simpa using missing⟩

/-- The probes of channels each of which has one. -/
theorem map_probe {channels : List ProbedChannel}
    (probed : ∀ channel ∈ channels, channel.probe ≠ none) :
    channels.map (·.probe) = (channels.filterMap (·.probe)).map some := by
  -- No probe is left out, as every channel has one.
  induction channels with
  | nil => rfl
  | cons channel later ih =>
    obtain ⟨probe, present⟩ := Option.ne_none_iff_exists'.mp (probed channel List.mem_cons_self)
    rw [List.map_cons, List.filterMap_cons_some present, List.map_cons, present,
      ih fun other member => probed other (List.mem_cons_of_mem channel member)]

/-- The probes a list of channels has to have: one for each number from zero on. -/
def contiguous (channels : List ProbedChannel) : List (Option Int) :=
  (List.range channels.length).map fun number => some (Int.ofNat number)

/-- Channels are all right when their probes are the numbers from zero on. -/
theorem channelErrors_eq_nil {channels : List ProbedChannel} :
    channelErrors channels = [] ↔ (channels.map (·.probe)).Perm (contiguous channels) := by
  have numbers : contiguous channels = ((List.range channels.length).map Int.ofNat).map some := by
    rw [contiguous, List.map_map]
    rfl
  have distinct : ((List.range channels.length).map Int.ofNat).Nodup :=
    List.nodup_range.map Int.ofNat_injective
  unfold channelErrors
  simp only
  rw [numbers]
  constructor
  -- Without errors each channel has a probe, and their sorted list is the expected one.
  · intro passed
    split at passed
    · cases passed
    · rename_i told
      obtain ⟨present, single⟩ := List.append_eq_nil_iff.mp passed
      rw [unprobedErrors_eq_nil] at present
      rw [duplicateErrors_eq_nil] at single
      rw [map_probe present]
      refine List.Perm.map some ((sorted_eq_expected single.2 _).mp ?_)
      by_contra gap
      exact told ⟨passed, gap⟩
  · intro perm
    have present : ∀ channel ∈ channels, channel.probe ≠ none := by
      intro channel member missing
      have inside := perm.mem_iff.mp (List.mem_map.mpr ⟨channel, member, missing⟩)
      simp at inside
    rw [map_probe present] at perm
    have perm := (List.map_perm_map_iff (Option.some_injective Int)).mp perm
    have single : (channels.filterMap (·.probe)).Nodup := perm.nodup_iff.mpr distinct
    -- The number that stands for no probe is not one of them.
    have positive : -1 ∉ channels.filterMap (·.probe) := by
      intro missing
      obtain ⟨number, _, negative⟩ := List.mem_map.mp (perm.mem_iff.mp missing)
      simp only [Int.ofNat_eq_natCast] at negative
      omega
    have nothing : unprobedErrors channels ++ duplicateErrors (channels.filterMap (·.probe)) = [] :=
      List.append_eq_nil_iff.mpr
        ⟨unprobedErrors_eq_nil.mpr present, duplicateErrors_eq_nil.mpr ⟨positive, single⟩⟩
    rw [if_neg]
    · exact nothing
    · rintro ⟨_, gap⟩
      exact gap ((sorted_eq_expected single _).mpr perm)

/-- The active channels of all carriers. -/
def active (carriers : List (List (Option ProbedChannel))) : List ProbedChannel :=
  carriers.flatMap List.reduceOption

/-- What the validator accepts. -/
theorem accepts_iff (carriers : List (List (Option ProbedChannel))) :
    (validateProbed carriers).ok = true ↔ active carriers = [] ∨
      (∀ channel ∈ active carriers, channel.probe = none) ∨
      ((active carriers).map (·.probe)).Perm (contiguous (active carriers)) := by
  rw [← channelErrors_eq_nil]
  unfold validateProbed active
  simp only
  generalize carriers.flatMap List.reduceOption = channels
  -- The three ways to be accepted are tried in this order.
  by_cases idle : channels = []
  · simp [idle, Result.success]
  by_cases unprobed : channels.filterMap (·.probe) = []
  · have all := List.filterMap_eq_nil_iff.mp unprobed
    simp only [if_neg idle, if_pos unprobed, Result.success, true_iff]
    exact .inr (.inl all)
  · have some_probe : ¬ ∀ channel ∈ channels, channel.probe = none := fun all =>
      unprobed (List.filterMap_eq_nil_iff.mpr all)
    simp only [if_neg idle, if_neg unprobed, some_probe, false_or]
    by_cases passed : channelErrors channels = []
    · simp [idle, passed, Result.success]
    · simp [idle, passed, Result.failure]

/-- Where all channels have probes, this is the validation of a computer whose channels do. -/
theorem validateProbed_probed (carriers : List (List (Option ADCChannel))) :
    validateProbed (carriers.map fun channels => channels.map (Option.map ADCChannel.probed)) =
      validate carriers := by
  have gathered : ∀ carriers : List (List (Option ADCChannel)),
      (carriers.map fun channels => channels.map (Option.map ADCChannel.probed)).flatMap
        List.reduceOption = (carriers.flatMap List.reduceOption).map ADCChannel.probed := by
    intro carriers
    induction carriers with
    | nil => rfl
    | cons channels later ih =>
      rw [List.map_cons, List.flatMap_cons, List.flatMap_cons, List.map_append, ih,
        List.reduceOption_map]
  unfold validateProbed validate
  simp only [gathered]
  generalize carriers.flatMap List.reduceOption = channels
  have probes : (channels.map ADCChannel.probed).filterMap (·.probe) =
      channels.map ADCChannel.probe := by
    rw [List.filterMap_map]
    exact congrFun List.filterMap_eq_map channels
  -- A configured channel has a probe, so that check never finds anything.
  have none_missing : unprobedErrors (channels.map ADCChannel.probed) = [] := by
    rw [unprobedErrors_eq_nil]
    intro channel member
    obtain ⟨_, _, rfl⟩ := List.mem_map.mp member
    exact Option.some_ne_none _
  have errors : channelErrors (channels.map ADCChannel.probed) =
      probeErrors (channels.map ADCChannel.probe) := by
    simp only [channelErrors, probeErrors, probes, none_missing, List.nil_append, List.length_map]
  rw [probes, errors]
  simp only [List.map_eq_nil_iff]
  by_cases idle : channels = []
  · simp [idle]
  · by_cases passed : probeErrors (channels.map ADCChannel.probe) = []
    · simp [idle, passed]
    · simp [idle, passed]

end AdcProbeValidator

namespace Circuit

/-- The circuit behind an action, whether that returned or raised. -/
def behind (c : Circuit) : CircuitAction → Circuit
  -- Whether the call returns or raises, the circuit goes on from where it ended.
  | .call (.int ic slow) => Raising.final (int ic slow c)
  | .call .mul => Raising.final (mul c)
  | .call (.const value) => Raising.final (const value c)
  | .call (.input port) => Raising.final (input port c)
  | .call (.output port) => Raising.final (output port c)
  | .call (.connect source target weight) => Raising.final (connect source target weight c)
  | .call (.probe source adcChannel) => Raising.final (probe source adcChannel c)
  | .connect source target weight => Raising.final (connectWeight source target (.special weight) c)

/-- The channel an action has assigned, with the element that is measured there. -/
def assigned (c : Circuit) : CircuitAction → List (Nat × Element)
  | .call (.probe source adcChannel) =>
    match probe source adcChannel c with
    | .ok channel _ => [(channel, source)]
    | .error _ _ => []
  | _ => []

/-- The channels that the calls of a program have assigned, in the order of the calls. -/
def assignments (c : Circuit) : List CircuitAction → List (Nat × Element)
  | [] => []
  | action :: later => c.assigned action ++ (c.behind action).assignments later

/-- What measuring reads and writes. -/
def measured (c : Circuit) : Vector (Option ADCChannel) 8 × Nat := (c.adcConfig, c.nextProbeIndex)

/-- The channel with this number among the assignments. -/
def entry (number : Nat) (assignment : Nat × Element) : Option ADCChannel :=
  assignment.2.kind.sourceOutputLane.map fun lane => ⟨lane, 1, 0, number⟩

/-- The channels of a circuit are those that have been assigned, with their numbers as probes. -/
structure Numbered (c : Circuit) (log : List (Nat × Element)) : Prop where
  -- The next probe is the number of those handed out.
  next : c.nextProbeIndex = log.length
  assigned : ∀ number assignment, log[number]? = some assignment →
    ∃ (channel : Fin 8) (active : ADCChannel), assignment.1 = channel.val ∧
      entry number assignment = some active
  channels : ∀ (channel : Fin 8) (active : ADCChannel), c.adcConfig.get channel = some active ↔
    ∃ number assignment, log[number]? = some assignment ∧ assignment.1 = channel.val ∧
      entry number assignment = some active

/-- A new circuit has no channels. -/
theorem new_numbered (circuitId : Nat) : (new circuitId).Numbered [] where
  next := rfl
  assigned number assignment found := by simp at found
  channels channel active := by simp [new, Vector.get_eq_getElem]

/-- The entry of an assignment has its number as its probe. -/
theorem entry_probe {number : Nat} {assignment : Nat × Element} {active : ADCChannel}
    (made : entry number assignment = some active) : active.probe = number := by
  obtain ⟨lane, _, rfl⟩ := Option.map_eq_some_iff.mp made
  rfl

/-- A call that measures raises and changes nothing, or assigns a channel that was free. -/
theorem probe_cases (c : Circuit) (source : Element) (adcChannel : Option Int) :
    (∃ error, probe source adcChannel c = .error error c) ∨
      ∃ channel : Fin 8, ∃ lane, c.adcConfig.get channel = none ∧
        source.kind.sourceOutputLane = some lane ∧
        probe source adcChannel c = .ok channel.val { c with
          nextProbeIndex := c.nextProbeIndex + 1
          adcConfig := c.adcConfig.set channel.val (some ⟨lane, 1, 0, c.nextProbeIndex⟩)
            channel.isLt } := by
  rw [probe, Raising.get_bind]
  by_cases dangling : source.circuitId = none
  · rw [if_pos dangling]
    exact .inl ⟨_, rfl⟩
  by_cases foreign : source.circuitId ≠ some c.circuitId
  · rw [if_neg dangling, if_pos foreign]
    exact .inl ⟨_, rfl⟩
  rw [if_neg dangling, if_neg foreign, probeAdc, Raising.get_bind]
  cases c.chooseChannel adcChannel with
  | error error => exact .inl ⟨_, rfl⟩
  | ok channel =>
    -- The lane is looked up behind all checks on the channel.
    by_cases inside : 0 ≤ channel ∧ channel < 8
    · simp only [dif_pos inside]
      cases held : c.adcConfig.get ⟨channel.toNat, by omega⟩ with
      | some _ => exact .inl ⟨_, rfl⟩
      | none =>
        cases emitted : source.kind.sourceOutputLane with
        | none => exact .inl ⟨_, rfl⟩
        | some lane => exact .inr ⟨⟨channel.toNat, by omega⟩, lane, held, rfl, rfl⟩
    · simp only [dif_neg inside]
      exact .inl ⟨_, rfl⟩

/-- One more assignment, on a channel that was free. -/
theorem Numbered.append {c : Circuit} {log : List (Nat × Element)} (numbered : c.Numbered log)
    {channel : Fin 8} {source : Element} {lane : Nat} (free : c.adcConfig.get channel = none)
    (emitted : source.kind.sourceOutputLane = some lane) :
    Numbered { c with
      nextProbeIndex := c.nextProbeIndex + 1
      adcConfig := c.adcConfig.set channel.val (some ⟨lane, 1, 0, c.nextProbeIndex⟩) channel.isLt }
      (log ++ [(channel.val, source)]) := by
  have made : entry log.length (channel.val, source) = some ⟨lane, 1, 0, c.nextProbeIndex⟩ := by
    simp [entry, emitted, numbered.next]
  -- An assignment is an earlier one, or the one that has been made now.
  have cases : ∀ {number assignment}, (log ++ [(channel.val, source)])[number]? = some assignment ↔
      log[number]? = some assignment ∨ (number = log.length ∧ assignment = (channel.val, source)) := by
    intro number assignment
    rw [List.getElem?_append]
    split
    · rename_i early
      exact ⟨.inl, fun found => found.resolve_right fun last => by omega⟩
    · rename_i late
      rw [List.getElem?_eq_none (by omega : log.length ≤ number), List.getElem?_singleton]
      constructor
      · intro found
        split at found
        · exact .inr ⟨by omega, (Option.some.inj found).symm⟩
        · cases found
      · rintro (impossible | ⟨rfl, rfl⟩)
        · cases impossible
        · simp
  refine ⟨by simp [numbered.next], fun number assignment found => ?_, fun other active => ?_⟩
  · rcases cases.mp found with early | ⟨rfl, rfl⟩
    · exact numbered.assigned number assignment early
    · exact ⟨channel, _, rfl, made⟩
  · rw [Slots.get_set]
    by_cases same : other = channel
    · subst same
      rw [if_pos rfl]
      constructor
      · intro written
        obtain rfl := Option.some.inj written
        exact ⟨log.length, _, cases.mpr (.inr ⟨rfl, rfl⟩), rfl, made⟩
      · rintro ⟨number, assignment, found, place, present⟩
        rcases cases.mp found with early | ⟨rfl, rfl⟩
        · -- The channel was free, so that no earlier assignment is for it.
          have taken := (numbered.channels other active).mpr ⟨number, assignment, early, place, present⟩
          rw [free] at taken
          cases taken
        · exact made.symm.trans present
    · rw [if_neg same, numbered.channels]
      constructor
      · rintro ⟨number, assignment, found, place, present⟩
        exact ⟨number, assignment, cases.mpr (.inl found), place, present⟩
      · rintro ⟨number, assignment, found, place, present⟩
        rcases cases.mp found with early | ⟨rfl, rfl⟩
        · exact ⟨number, assignment, early, place, present⟩
        · exact absurd (Fin.ext place).symm same

/-- What measures nothing keeps the channels and their numbers. -/
theorem Numbered.of_measured {c c' : Circuit} {log : List (Nat × Element)}
    (numbered : c.Numbered log) (same : c'.measured = c.measured) : c'.Numbered log := by
  obtain ⟨config, next⟩ := Prod.mk.inj same
  exact ⟨next.trans numbered.next, numbered.assigned, by rw [config]; exact numbered.channels⟩

/-- Only a call that measures changes what is measured. -/
theorem behind_measured (c : Circuit) {action : CircuitAction}
    (other : ∀ source adcChannel, action ≠ .call (.probe source adcChannel)) :
    (c.behind action).measured = c.measured := by
  -- The other calls read the channels nowhere, and write none.
  cases action with
  | call call =>
    cases call with
    | int ic slow => exact ((int_leaves ic slow).map measured) c
    | mul => exact (mul_leaves.map measured) c
    | const value =>
      rcases const_cases c value with ⟨_, error, raised⟩ | ⟨_, returned⟩
      · rw [behind, raised]
        rfl
      · rw [behind, returned]
        rfl
    | input port => exact ((input_leaves port).map measured) c
    | output port => exact ((output_leaves port).map measured) c
    | connect source target weight =>
      exact ((connectWeight_routes source target (.finite weight)).map measured) c
    | probe source adcChannel => exact absurd rfl (other source adcChannel)
  | connect source target weight =>
    exact ((connectWeight_routes source target (.special weight)).map measured) c

/-- Every action appends what it assigns. -/
theorem Numbered.behind {c : Circuit} {log : List (Nat × Element)} (numbered : c.Numbered log)
    (action : CircuitAction) : (c.behind action).Numbered (log ++ c.assigned action) := by
  -- Only a call that measures assigns anything.
  by_cases measures : ∃ source adcChannel, action = .call (.probe source adcChannel)
  · obtain ⟨source, adcChannel, rfl⟩ := measures
    rcases c.probe_cases source adcChannel with
      ⟨error, raised⟩ | ⟨channel, lane, free, emitted, returned⟩
    · simp only [Circuit.behind, Circuit.assigned, raised, Raising.final, List.append_nil]
      exact numbered
    · simp only [Circuit.behind, Circuit.assigned, returned, Raising.final]
      exact numbered.append free emitted
  · have other : ∀ source adcChannel, action ≠ .call (.probe source adcChannel) :=
      fun source adcChannel same => measures ⟨source, adcChannel, same⟩
    have nothing : c.assigned action = [] := by
      unfold Circuit.assigned
      split
      · exact absurd rfl (other _ _)
      · rfl
    rw [nothing, List.append_nil]
    exact numbered.of_measured (c.behind_measured other)

/-- Over a whole program the channels are those assigned, numbered in the order of the calls. -/
theorem Numbered.run {c : Circuit} {log : List (Nat × Element)} (numbered : c.Numbered log)
    (actions : List CircuitAction) :
    (actions.foldl Circuit.behind c).Numbered (log ++ c.assignments actions) := by
  -- Each action adds its own assignments behind those before it.
  induction actions generalizing c log with
  | nil => simpa [assignments] using numbered
  | cons action later ih =>
    rw [List.foldl_cons, assignments, ← List.append_assoc]
    exact ih (numbered.behind action)

/-- Numbered channels have each number once as a probe. -/
theorem Numbered.probes {c : Circuit} {log : List (Nat × Element)} (numbered : c.Numbered log) :
    (c.adcConfig.toList.reduceOption.map ADCChannel.probe).Perm
      ((List.range log.length).map Int.ofNat) := by
  have read : c.adcConfig.toList.reduceOption.map ADCChannel.probe =
      (List.finRange 8).filterMap fun channel => (c.adcConfig.get channel).map ADCChannel.probe := by
    have listed : c.adcConfig.toList = (List.finRange 8).map c.adcConfig.get :=
      List.ext_getElem (by simp) fun index _ _ => by simp [Vector.get_eq_getElem]
    rw [listed, List.reduceOption, List.filterMap_map, List.map_filterMap]
    rfl
  rw [read]
  refine (List.perm_ext_iff_of_nodup ?_ (List.nodup_range.map Int.ofNat_injective)).mpr ?_
  · -- A number is that of one assignment, and so of one channel.
    refine (List.nodup_finRange 8).filterMap fun channel other probe here there => ?_
    obtain ⟨active, present, rfl⟩ := Option.map_eq_some_iff.mp here
    obtain ⟨active', present', same⟩ := Option.map_eq_some_iff.mp there
    obtain ⟨number, assignment, found, place, made⟩ := (numbered.channels channel active).mp present
    obtain ⟨number', assignment', found', place', made'⟩ :=
      (numbered.channels other active').mp present'
    rw [entry_probe made, entry_probe made', Int.natCast_inj] at same
    obtain rfl := same
    obtain rfl := Option.some.inj (found.symm.trans found')
    exact Fin.ext (place.symm.trans place')
  · intro probe
    simp only [List.mem_filterMap, List.mem_finRange, true_and, List.mem_map, List.mem_range,
      Option.map_eq_some_iff]
    constructor
    · rintro ⟨channel, active, present, rfl⟩
      obtain ⟨number, assignment, found, _, made⟩ := (numbered.channels channel active).mp present
      exact ⟨number, (List.getElem?_eq_some_iff.mp found).1, (entry_probe made).symm⟩
    · rintro ⟨number, bound, rfl⟩
      obtain ⟨channel, active, place, made⟩ :=
        numbered.assigned number log[number] (List.getElem?_eq_getElem bound)
      refine ⟨channel, active, ?_, entry_probe made⟩
      exact (numbered.channels channel active).mpr
        ⟨number, log[number], List.getElem?_eq_getElem bound, place, made⟩

/-- The channels of a circuit, as the validator reads them. -/
def probedChannels (c : Circuit) : List (List (Option ProbedChannel)) :=
  [c.adcConfig.toList.map (Option.map ADCChannel.probed)]

/-- Numbered channels are accepted. -/
theorem Numbered.accepted {c : Circuit} {log : List (Nat × Element)} (numbered : c.Numbered log) :
    (AdcProbeValidator.validateProbed c.probedChannels).ok = true := by
  have channels : AdcProbeValidator.active c.probedChannels =
      c.adcConfig.toList.reduceOption.map ADCChannel.probed := by
    simp only [AdcProbeValidator.active, probedChannels, List.flatMap_singleton,
      List.reduceOption_map]
  have perm := numbered.probes
  have count : c.adcConfig.toList.reduceOption.length = log.length := by
    simpa using perm.length_eq
  rw [AdcProbeValidator.accepts_iff, channels]
  refine .inr (.inr ?_)
  -- Each channel of the circuit carries its probe, so the numbers are those of the validator.
  have whole := perm.map some
  rw [List.map_map, List.map_map] at whole
  simpa [AdcProbeValidator.contiguous, List.map_map, count, Function.comp_def, ADCChannel.probed]
    using whole

/--
The validator accepts probes that are missing everywhere or are the numbers from zero on, and
these are what the calls on a circuit hand out, in the order of the calls that assigned a channel.
-/
theorem probes_agree :
    (∀ carriers : List (List (Option ProbedChannel)),
      (AdcProbeValidator.validateProbed carriers).ok = true ↔
        AdcProbeValidator.active carriers = [] ∨
        (∀ channel ∈ AdcProbeValidator.active carriers, channel.probe = none) ∨
        ((AdcProbeValidator.active carriers).map (·.probe)).Perm
          (AdcProbeValidator.contiguous (AdcProbeValidator.active carriers))) ∧
    ∀ (circuitId : Nat) (actions : List CircuitAction),
      (AdcProbeValidator.validateProbed
        (actions.foldl behind (new circuitId)).probedChannels).ok = true ∧
      (actions.foldl behind (new circuitId)).Numbered ((new circuitId).assignments actions) := by
  refine ⟨AdcProbeValidator.accepts_iff, fun circuitId actions => ?_⟩
  have numbered := (new_numbered circuitId).run actions
  exact ⟨numbered.accepted, numbered⟩

end Circuit

end Pybrid
