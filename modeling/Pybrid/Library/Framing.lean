import Mathlib

/-! Cutting a stream of self-delimiting frames at arbitrary positions. -/

namespace Framing

variable {α β : Type*}

/-- The letters of a whole message sequence, one frame after the other. -/
def stream (frame : β → List α) (messages : List β) : List α :=
  -- Frames follow each other without separators.
  messages.flatMap frame

/-- What is held is a strict prefix of the next frame, or nothing when no frame is left. -/
def Pending (frame : β → List α) : List β → List α → Prop
  -- After the last frame there is nothing that could be held back.
  | [], held => held = []
  | message :: _, held => ∃ missing, missing ≠ [] ∧ frame message = held ++ missing

@[simp] theorem stream_nil (frame : β → List α) : stream frame [] = [] := rfl

@[simp] theorem stream_cons (frame : β → List α) (message : β) (rest : List β) :
    stream frame (message :: rest) = frame message ++ stream frame rest := rfl

@[simp] theorem stream_append (frame : β → List α) (first second : List β) :
    stream frame (first ++ second) = stream frame first ++ stream frame second :=
  List.flatMap_append

/-- Between frames nothing is held. -/
theorem pending_nil {frame : β → List α} (visible : ∀ message, frame message ≠ [])
    (rest : List β) : Pending frame rest [] := by
  -- No frame is empty, so the whole next frame is still missing.
  cases rest with
  | nil => rfl
  | cons message rest => exact ⟨frame message, visible message, rfl⟩

/-- Frames that are still to come change nothing about the one held in part. -/
theorem Pending.append {frame : β → List α} (visible : ∀ message, frame message ≠ [])
    {rest : List β} {held : List α} (pending : Pending frame rest held) (more : List β) :
    Pending frame (rest ++ more) held := by
  -- Only the first frame counts, and when there was none nothing was held.
  cases rest with
  | nil =>
    have empty : held = [] := pending
    subst empty
    exact pending_nil visible more
  | cons message rest => exact pending

/-- Every prefix of a stream is a number of whole frames and a strict prefix of the next one. -/
theorem stream_cut {frame : β → List α} (visible : ∀ message, frame message ≠ []) :
    ∀ (messages : List β) (front tail : List α), stream frame messages = front ++ tail →
      ∃ done rest held, messages = done ++ rest ∧ front = stream frame done ++ held ∧
        Pending frame rest held := by
  -- Either the first frame is already complete in the prefix, or the cut lies inside it.
  intro messages
  induction messages with
  | nil =>
    intro front tail cut
    have empty : front = [] := (List.append_eq_nil_iff.mp cut.symm).1
    exact ⟨[], [], [], rfl, by simp [empty], rfl⟩
  | cons message messages ih =>
    intro front tail cut
    rw [stream_cons, List.append_eq_append_iff] at cut
    rcases cut with ⟨more, whole, rest⟩ | ⟨missing, inside, _⟩
    · obtain ⟨done, later, held, spelled, read, pending⟩ := ih more tail rest
      exact ⟨message :: done, later, held, by simp [spelled], by simp [whole, read], pending⟩
    · by_cases complete : missing = []
      · refine ⟨[message], messages, [], rfl, ?_, pending_nil visible messages⟩
        simpa [complete] using inside.symm
      · exact ⟨[], message :: messages, front, rfl, rfl, missing, complete, inside⟩

end Framing
