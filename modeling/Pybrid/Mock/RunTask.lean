import Pybrid.Mock.RunSamples
import Pybrid.Native.Message

/-! The task in which the mock device performs a run, as the messages it sends one after the other. -/

namespace Pybrid.Mock

open SampleDecoding Client

/-- The powers of ten of a time; a number without a name counts as seconds. -/
inductive TimePrefix where
  | none
  | milli
  | micro
  | nano
  | unnamed (value : Int)
  deriving DecidableEq, Repr

/-- A time as it is sent. -/
structure Time where
  value : UInt64
  scale : TimePrefix
  deriving DecidableEq, Repr

/-- A time in nanoseconds. -/
def parseTime (time : Time) : Nat :=
  match time.scale with
  | .nano => time.value.toNat
  | .micro => time.value.toNat * 1000
  | .milli => time.value.toNat * 1000000
  | .none | .unnamed _ => time.value.toNat * 1000000000

/-- What a start command says about the run. -/
structure StartRunCommand where
  run : String
  opTime : Time
  sampleRate : UInt32
  numChannels : UInt32
  deriving DecidableEq, Repr

/-- What the mock device computes in floating point; samples are given by the bits of their floats. -/
structure Numerics where
  /-- `int(op_time_ns * sample_rate / 1e9)` -/
  countSamples : Nat → Nat → Nat
  /-- Calibrated or not, at a sample rate: the value of a channel at a sample. -/
  sample : Bool → Nat → Nat → Nat → UInt32
  /-- Calibrated or not, for so many channels: the final value of a channel. -/
  finalValue : Bool → Nat → Nat → UInt32

/-- The samples of a carrier. -/
def generateSamples (numerics : Numerics) (calibrated : Bool)
    (numChannels numSamples sampleRate : Nat) : SampleArray :=
  ⟨numChannels, numSamples, numerics.sample calibrated sampleRate⟩

/-- The final values of a carrier, as one sample of each channel. -/
def generateFinalValues (numerics : Numerics) (calibrated : Bool) (numChannels : Nat) : SampleArray :=
  ⟨numChannels, 1, fun channel _ => numerics.finalValue calibrated numChannels channel⟩

/-- A message about a run, as far as a client looks at it. -/
inductive RunMessage where
  | runStateChange (old new_ : RunState)
  | runData (message : RunDataMessage)
  | runDataEnd (message : RunDataMessage)

/-- The message with the final values of a carrier. -/
def finalMessage (carrierMac : String) (values : SampleArray) : RunDataMessage where
  chunk := some 0
  entity := some (utf8 (carrierPath carrierMac))
  data := some (daqData values)

/-- A part of a run that is made when the part before it has been sent. -/
inductive RunPiece where
  /-- The run changes its state. -/
  | change (old new_ : RunState)
  /-- The samples of a carrier. -/
  | samples (carrierMac : String)
  /-- The final values of a carrier. -/
  | finalValues (carrierMac : String)
  deriving DecidableEq, Repr

/-- A list that is there unless the error stage is this one. -/
def unlessDropped {α : Type} (stage dropping : ErrorStage) (entries : List α) : List α :=
  if stage = dropping then [] else entries

/-- What a run does when the samples have been sent. -/
def endPieces (stage : ErrorStage) (carrierMacs : List String) : List RunPiece :=
  -- An error ends the run where the operation would.
  if stage = .duringRun then [.change .op .error]
  else
    .change .op .opEnd :: (carrierMacs.map RunPiece.finalValues ++
      unlessDropped stage .dropDoneState [.change .opEnd .done])

/-- What a run does, as its error stage lets it. -/
def runPieces (stage : ErrorStage) (carrierMacs : List String) : List RunPiece :=
  unlessDropped stage .dropTakeoffState [.change .new .takeOff] ++
    .change .takeOff .ic :: .change .ic .op ::
      (carrierMacs.map RunPiece.samples ++ endPieces stage carrierMacs)

/-- What a run knows of its samples once it has begun. -/
structure RunShape where
  numChannels : Nat
  numSamples : Nat
  sampleRate : Nat
  deriving DecidableEq, Repr

section Messages

variable (stage : ErrorStage) (numerics : Numerics) (shape : RunShape)

/-- The messages of a part of a run; a calibrated device makes other samples. -/
def pieceMessages (calibrated : Bool) : RunPiece → List RunMessage
  | .change old new_ => [.runStateChange old new_]
  | .samples carrierMac =>
    (sendCarrierSamples stage carrierMac (generateSamples numerics calibrated
      shape.numChannels shape.numSamples shape.sampleRate)).map .runData
  | .finalValues carrierMac =>
    [.runDataEnd (finalMessage carrierMac (generateFinalValues numerics calibrated shape.numChannels))]

/-- The next message of a run: of the part under way, or of the next one that has any. -/
def nextMessage (calibrated : Bool) :
    List RunMessage → List RunPiece → Option (RunMessage × List RunMessage × List RunPiece)
  | message :: ready, pieces => some (message, ready, pieces)
  | [], piece :: pieces =>
    nextMessage calibrated (pieceMessages stage numerics shape calibrated piece) pieces
  | [], [] => none

/-- The messages of parts of a run, each made while the device was calibrated or not. -/
def madeMessages (made : List (RunPiece × Bool)) : List RunMessage :=
  made.flatMap fun part => pieceMessages stage numerics shape part.2 part.1

/-- The messages may be sent in turn by a run that has these parts to do. -/
def Schedule (pieces : List RunPiece) (messages : List RunMessage) : Prop :=
  ∃ made, made.map Prod.fst = pieces ∧ messages = madeMessages stage numerics shape made

end Messages

/-- Where the task of a run is. -/
inductive TaskPoint where
  /-- The task has been created, and has not begun. -/
  | created
  /-- It sends these messages, and then does these parts. -/
  | running (shape : RunShape) (ready : List RunMessage) (pieces : List RunPiece)
  | finished
  /-- A send has raised. -/
  | failed

/-- A state change is one message. -/
@[simp] theorem pieceMessages_change (stage : ErrorStage) (numerics : Numerics) (shape : RunShape)
    (calibrated : Bool) (old new_ : RunState) :
    pieceMessages stage numerics shape calibrated (.change old new_) = [.runStateChange old new_] := rfl

section Schedules

variable {stage : ErrorStage} {numerics : Numerics} {shape : RunShape}

/-- There is a schedule for any parts. -/
theorem schedule_all (calibrated : Bool) (pieces : List RunPiece) :
    Schedule stage numerics shape pieces
      (pieces.flatMap (pieceMessages stage numerics shape calibrated)) :=
  -- The flag is the same for all pieces here.
  ⟨pieces.map fun piece => (piece, calibrated), by simp [Function.comp_def],
    by simp [madeMessages, List.flatMap_map]⟩

/-- The part that is made first comes first. -/
theorem Schedule.cons {calibrated : Bool} {piece : RunPiece} {pieces : List RunPiece}
    {messages : List RunMessage} (schedule : Schedule stage numerics shape pieces messages) :
    Schedule stage numerics shape (piece :: pieces)
      (pieceMessages stage numerics shape calibrated piece ++ messages) := by
  obtain ⟨made, parts, rfl⟩ := schedule
  exact ⟨(piece, calibrated) :: made, by simp [parts], rfl⟩

/-- The next message is the first of those that are ready and of those of the parts to come. -/
theorem nextMessage_some {calibrated : Bool} {message : RunMessage} :
    ∀ {pieces : List RunPiece} {ready rest : List RunMessage} {left : List RunPiece},
      nextMessage stage numerics shape calibrated ready pieces = some (message, rest, left) →
      ∀ {later : List RunMessage}, Schedule stage numerics shape left later →
        ∃ messages, Schedule stage numerics shape pieces messages ∧
          ready ++ messages = message :: (rest ++ later) := by
  intro pieces
  -- The induction is on the parts to come; those without messages are passed over.
  induction pieces with
  | nil =>
    intro ready rest left next later schedule
    cases ready with
    | nil => simp [nextMessage] at next
    | cons first ready =>
      simp only [nextMessage, Option.some.injEq, Prod.mk.injEq] at next
      obtain ⟨rfl, rfl, rfl⟩ := next
      exact ⟨later, schedule, rfl⟩
  | cons piece pieces ih =>
    intro ready rest left next later schedule
    cases ready with
    | nil =>
      obtain ⟨messages, following, same⟩ := ih next schedule
      exact ⟨_, following.cons, by rw [List.nil_append, same]⟩
    | cons first ready =>
      simp only [nextMessage, Option.some.injEq, Prod.mk.injEq] at next
      obtain ⟨rfl, rfl, rfl⟩ := next
      exact ⟨later, schedule, rfl⟩

/-- There is no next message when everything has been sent. -/
theorem nextMessage_none {calibrated : Bool} :
    ∀ {pieces : List RunPiece} {ready : List RunMessage},
      nextMessage stage numerics shape calibrated ready pieces = none →
        ready = [] ∧ Schedule stage numerics shape pieces [] := by
  intro pieces
  -- The induction is on the parts still to be done; a part without messages is passed over.
  induction pieces with
  | nil =>
    intro ready next
    cases ready with
    | nil => exact ⟨rfl, [], rfl, rfl⟩
    | cons first ready => simp [nextMessage] at next
  | cons piece pieces ih =>
    intro ready next
    cases ready with
    | nil =>
      obtain ⟨none_, schedule⟩ := ih next
      have whole : Schedule stage numerics shape (piece :: pieces)
          (pieceMessages stage numerics shape calibrated piece ++ []) := schedule.cons
      rw [none_, List.nil_append] at whole
      exact ⟨rfl, whole⟩
    | cons first ready => simp [nextMessage] at next

/-- The schedules of a part and those behind it. -/
theorem schedule_cons {piece : RunPiece} {pieces : List RunPiece} {messages : List RunMessage} :
    Schedule stage numerics shape (piece :: pieces) messages ↔ ∃ calibrated later,
      Schedule stage numerics shape pieces later ∧
        messages = pieceMessages stage numerics shape calibrated piece ++ later := by
  constructor
  -- The first part was made with the flag as it was at that time.
  · rintro ⟨made, parts, rfl⟩
    obtain ⟨first, made, rfl, rfl, rfl⟩ := List.map_eq_cons_iff.mp parts
    exact ⟨first.2, _, ⟨made, rfl, rfl⟩, rfl⟩
  · rintro ⟨calibrated, later, schedule, rfl⟩
    exact schedule.cons

/-- The schedules of some parts and some others. -/
theorem schedule_append {first second : List RunPiece} {messages : List RunMessage} :
    Schedule stage numerics shape (first ++ second) messages ↔ ∃ early late,
      Schedule stage numerics shape first early ∧ Schedule stage numerics shape second late ∧
        messages = early ++ late := by
  constructor
  -- What was made is split where the parts are.
  · rintro ⟨made, parts, rfl⟩
    obtain ⟨early, late, rfl, rfl, rfl⟩ := List.map_eq_append_iff.mp parts
    exact ⟨_, _, ⟨early, rfl, rfl⟩, ⟨late, rfl, rfl⟩, by simp [madeMessages]⟩
  · rintro ⟨_, _, ⟨early, rfl, rfl⟩, ⟨late, rfl, rfl⟩, rfl⟩
    exact ⟨early ++ late, by simp, by simp [madeMessages]⟩

/-- Nothing is sent for no parts. -/
theorem schedule_nil {messages : List RunMessage} :
    Schedule stage numerics shape [] messages ↔ messages = [] := by
  -- A schedule without pieces makes no message.
  constructor
  · rintro ⟨made, parts, rfl⟩
    rw [List.map_eq_nil_iff.mp parts]
    rfl
  · rintro rfl
    exact ⟨[], rfl, rfl⟩

/-- A state change is scheduled in one way. -/
theorem schedule_change {old new_ : RunState} {pieces : List RunPiece} {messages : List RunMessage} :
    Schedule stage numerics shape (.change old new_ :: pieces) messages ↔
      ∃ later, Schedule stage numerics shape pieces later ∧
        messages = .runStateChange old new_ :: later := by
  simp [schedule_cons]

/-- The carriers have samples that the device makes, each while it is calibrated or not. -/
def Generated (numerics : Numerics) (shape : RunShape) (carriers : List (String × SampleArray)) :
    Prop :=
  ∀ carrier ∈ carriers, ∃ calibrated, carrier.2 =
    generateSamples numerics calibrated shape.numChannels shape.numSamples shape.sampleRate

/-- The carriers have final values that the device makes. -/
def GeneratedFinals (numerics : Numerics) (shape : RunShape)
    (finals : List (String × SampleArray)) : Prop :=
  ∀ carrier ∈ finals, ∃ calibrated, carrier.2 =
    generateFinalValues numerics calibrated shape.numChannels

/-- The samples of carriers are scheduled carrier by carrier. -/
theorem schedule_samples {messages : List RunMessage} : ∀ {carrierMacs : List String},
    Schedule stage numerics shape (carrierMacs.map .samples) messages →
      ∃ carriers, carriers.map Prod.fst = carrierMacs ∧ Generated numerics shape carriers ∧
        messages = (sendSamples stage carriers).map .runData := by
  intro carrierMacs
  -- The induction is on the carriers, each of which may find the flag set or not.
  induction carrierMacs generalizing messages with
  | nil =>
    intro schedule
    exact ⟨[], rfl, by simp [Generated], schedule_nil.mp schedule⟩
  | cons carrierMac carrierMacs ih =>
    intro schedule
    obtain ⟨calibrated, later, behind, rfl⟩ := schedule_cons.mp schedule
    obtain ⟨carriers, macs, generated, rfl⟩ := ih behind
    refine ⟨(carrierMac, generateSamples numerics calibrated shape.numChannels shape.numSamples
      shape.sampleRate) :: carriers, by simp [macs], ?_, by simp [sendSamples, pieceMessages]⟩
    intro carrier member
    rcases List.mem_cons.mp member with rfl | member
    · exact ⟨calibrated, rfl⟩
    · exact generated carrier member

/-- The final values of carriers are scheduled carrier by carrier. -/
theorem schedule_finalValues {messages : List RunMessage} : ∀ {carrierMacs : List String},
    Schedule stage numerics shape (carrierMacs.map .finalValues) messages →
      ∃ finals, finals.map Prod.fst = carrierMacs ∧ GeneratedFinals numerics shape finals ∧
        messages = finals.map fun carrier => .runDataEnd (finalMessage carrier.1 carrier.2) := by
  intro carrierMacs
  -- The induction is on the carriers, as for the samples.
  induction carrierMacs generalizing messages with
  | nil =>
    intro schedule
    exact ⟨[], rfl, by simp [GeneratedFinals], schedule_nil.mp schedule⟩
  | cons carrierMac carrierMacs ih =>
    intro schedule
    obtain ⟨calibrated, later, behind, rfl⟩ := schedule_cons.mp schedule
    obtain ⟨finals, macs, generated, rfl⟩ := ih behind
    refine ⟨(carrierMac, generateFinalValues numerics calibrated shape.numChannels) :: finals,
      by simp [macs], ?_, rfl⟩
    intro carrier member
    rcases List.mem_cons.mp member with rfl | member
    · exact ⟨calibrated, rfl⟩
    · exact generated carrier member

end Schedules

/-- A dropped list has no schedule but the empty one, and a state change has one. -/
theorem schedule_unlessDropped {stage dropping : ErrorStage} {numerics : Numerics}
    {shape : RunShape} {old new_ : RunState} {messages : List RunMessage}
    (schedule : Schedule stage numerics shape
      (unlessDropped stage dropping [.change old new_]) messages) :
    messages = unlessDropped stage dropping [.runStateChange old new_] := by
  -- A message that is dropped leaves neither a part nor a message.
  by_cases drops : stage = dropping
  · rw [unlessDropped, if_pos drops] at schedule ⊢
    exact schedule_nil.mp schedule
  · rw [unlessDropped, if_neg drops] at schedule ⊢
    simpa [schedule_change, schedule_nil] using schedule

/-- The messages behind the samples of a run whose carriers have these final values. -/
def endRun (stage : ErrorStage) (finals : List (String × SampleArray)) : List RunMessage :=
  if stage = .duringRun then [.runStateChange .op .error]
  else
    .runStateChange .op .opEnd ::
      ((finals.map fun carrier => RunMessage.runDataEnd (finalMessage carrier.1 carrier.2)) ++
        unlessDropped stage .dropDoneState [.runStateChange .opEnd .done])

/-- The messages of a run whose carriers have these samples and final values. -/
def executeRun (stage : ErrorStage) (carriers finals : List (String × SampleArray)) :
    List RunMessage :=
  unlessDropped stage .dropTakeoffState [.runStateChange .new .takeOff] ++
    .runStateChange .takeOff .ic :: .runStateChange .ic .op ::
      ((sendSamples stage carriers).map RunMessage.runData ++ endRun stage finals)

/-- What is scheduled for a run are its messages for samples that the device makes. -/
theorem schedule_runPieces {stage : ErrorStage} {numerics : Numerics} {shape : RunShape}
    {carrierMacs : List String} {messages : List RunMessage}
    (schedule : Schedule stage numerics shape (runPieces stage carrierMacs) messages) :
    ∃ carriers finals, carriers.map Prod.fst = carrierMacs ∧ finals.map Prod.fst = carrierMacs ∧
      Generated numerics shape carriers ∧ GeneratedFinals numerics shape finals ∧
      messages = executeRun stage carriers finals := by
  -- The parts are taken apart in the order in which the run sends them.
  obtain ⟨start, running, started, ran, rfl⟩ := schedule_append.mp schedule
  obtain rfl := schedule_unlessDropped started
  simp only [schedule_change] at ran
  obtain ⟨_, ⟨_, ran, rfl⟩, rfl⟩ := ran
  obtain ⟨_, ending, sampled, ended, rfl⟩ := schedule_append.mp ran
  obtain ⟨carriers, macs, generated, rfl⟩ := schedule_samples sampled
  rw [endPieces] at ended
  by_cases errs : stage = .duringRun
  · -- There are no final values behind an error, and any will do.
    rw [if_pos errs] at ended
    simp only [schedule_change, schedule_nil, exists_eq_left] at ended
    refine ⟨carriers, carrierMacs.map fun mac =>
      (mac, generateFinalValues numerics false shape.numChannels), macs, by simp [Function.comp_def],
      generated, ?_, by rw [executeRun, endRun, if_pos errs, ended]⟩
    intro carrier member
    obtain ⟨mac, _, rfl⟩ := List.mem_map.mp member
    exact ⟨false, rfl⟩
  · rw [if_neg errs, schedule_change] at ended
    obtain ⟨_, ended, rfl⟩ := ended
    obtain ⟨_, done, valued, last, rfl⟩ := schedule_append.mp ended
    obtain ⟨finals, macs', generated', rfl⟩ := schedule_finalValues valued
    obtain rfl := schedule_unlessDropped last
    exact ⟨carriers, finals, macs, macs', generated, generated', by rw [executeRun, endRun, if_neg errs]⟩

end Pybrid.Mock
