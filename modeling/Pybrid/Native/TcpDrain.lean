import Pybrid.Native.TcpLink

/-! What `drain` finds out about the messages accepted before its call, while the send loop goes on. -/

namespace Pybrid

namespace TcpLink

open Streams

/--
The entries accepted before the call of `drain` are settled, in hand or in the queue.

Those in the queue are at most as many as there were calls still to count their entry.
-/
def Cleared (s : TcpLink) : Prop :=
  ∃ missing : List SendEntry, missing.length ≤ s.underWay ∧ missing.Subperm s.sendQueue ∧
    (s.accepted.take s.owed).Subperm (s.settled ++ s.sendPoint.inHand ++ missing)

/-- What a caller of `drain` has found out about the entries accepted before its call. -/
structure Marked (s : TcpLink) : Prop where
  before : s.owed ≤ s.accepted.length
  looked : s.drainPoint = .lookSending → s.Cleared

/-- Nothing is owed before `drain` is called. -/
theorem initial_marked : initial.Marked where
  before := Nat.le_refl 0
  looked := by simp [initial]

/-- What is cleared stays so while the queue grows and the send loop goes on with what it holds. -/
theorem Cleared.of_perm {s s' : TcpLink} (cleared : s.Cleared) (underWay : s'.underWay = s.underWay)
    (owed : s'.accepted.take s'.owed = s.accepted.take s.owed)
    (queue : s.sendQueue.Sublist s'.sendQueue)
    (held : (s'.settled ++ s'.sendPoint.inHand).Perm (s.settled ++ s.sendPoint.inHand)) :
    s'.Cleared := by
  -- What is missing is still in the queue, which has only grown.
  obtain ⟨missing, few, queued, found⟩ := cleared
  refine ⟨missing, by rw [underWay]; exact few, queued.trans queue.subperm, ?_⟩
  rw [owed]
  exact found.trans (held.symm.append_right missing).subperm

/-- The mark survives what leaves the caller of `drain` and what it is owed. -/
theorem Marked.of_perm {s s' : TcpLink} (inv : s.Marked) (underWay : s'.underWay = s.underWay)
    (owed : s'.owed = s.owed) (drain : s'.drainPoint = s.drainPoint)
    (accepted : s.accepted <+: s'.accepted) (queue : s.sendQueue.Sublist s'.sendQueue)
    (held : (s'.settled ++ s'.sendPoint.inHand).Perm (s.settled ++ s.sendPoint.inHand)) :
    s'.Marked := by
  refine ⟨by rw [owed]; exact inv.before.trans accepted.length_le, fun looking => ?_⟩
  refine (inv.looked (drain ▸ looking)).of_perm underWay ?_ queue held
  -- What was accepted later comes behind what is owed.
  obtain ⟨later, same⟩ := accepted
  rw [owed, ← same, List.take_append_of_le_length inv.before]

/-- An entry that the send loop takes may be one of those that were left in the queue. -/
theorem Marked.dequeue {s s' : TcpLink} {thread : Nat} (inv : s.Marked)
    (stepped : s.dequeue thread = some s') : s'.Marked := by
  obtain ⟨point, entry, rest, taken, rfl⟩ := dequeue_eq stepped
  refine ⟨inv.before, fun looking => ?_⟩
  obtain ⟨missing, few, queued, found⟩ := inv.looked looking
  have moved := (takeFirst_same taken).2.perm
  refine ⟨missing.erase entry, (List.length_erase_le ..).trans few, ?_, ?_⟩
  · have left := (queued.trans moved.subperm).erase entry
    rwa [List.erase_cons_head] at left
  · simp only [point, SendPoint.inHand, List.append_nil] at found
    -- With the entry in hand, the others that are missing cover what was missing.
    have covered : missing.Subperm ([entry] ++ missing.erase entry) := by
      by_cases left : entry ∈ missing
      · exact (List.perm_cons_erase left).subperm
      · rw [List.erase_of_not_mem left]
        exact (List.sublist_append_right ..).subperm
    refine found.trans ?_
    show (s.settled ++ missing).Subperm (s.settled ++ [entry] ++ missing.erase entry)
    rw [List.append_assoc]
    exact (List.subperm_append_left _).mpr covered

/-- The entry in hand goes to those the loop is done with, and no entry is put back. -/
theorem loop_holds {s s' : TcpLink} (stepped : s.loop = some s') :
    s'.underWay = s.underWay ∧ s'.owed = s.owed ∧ s'.drainPoint = s.drainPoint ∧
      s'.accepted = s.accepted ∧ s'.sendQueue = s.sendQueue ∧
      (s'.settled ++ s'.sendPoint.inHand).Perm (s.settled ++ s.sendPoint.inHand) := by
  cases loop_steps stepped with
  | wait => exact ⟨rfl, rfl, rfl, rfl, rfl, .refl _⟩
  | halt point | lower point | frame point | start point | clear point | drop point =>
    exact ⟨rfl, rfl, rfl, rfl, rfl, by simp [settled, point, SendPoint.inHand]⟩
  | @fail entry _ point | @finish entry point =>
    refine ⟨rfl, rfl, rfl, rfl, rfl, ?_⟩
    -- Failed and written entries come before those dropped, the entry in hand behind all of them.
    simp only [settled, point, SendPoint.inHand, List.append_nil]
    refine List.perm_iff_count.mpr fun other => ?_
    simp only [List.count_append]
    omega

/-- A look that finds the length zero finds no more entries than there are calls to count theirs. -/
theorem Accounted.cleared {s : TcpLink} (account : s.Accounted) (empty : s.sendQueueLen = 0) :
    s.sendQueue.length ≤ s.counts.length ∧ (s.accepted.take s.owed).Subperm
      (s.settled ++ s.sendPoint.inHand ++ s.sendQueue) := by
  constructor
  -- The length counts the queue, less the calls that have not raised it yet.
  · have length := account.length
    omega
  · -- What was accepted is part of what was put into the queue, and that is accounted for.
    have entered := account.answered.perm.symm.trans account.order.perm
    refine (List.take_sublist ..).subperm.trans ?_
    exact (List.sublist_append_left ..).subperm.trans entered.subperm

/-- Every step keeps what a caller of `drain` has found out. -/
theorem Marked.step {s s' : TcpLink} {action : LinkAction} (inv : s.Marked)
    (account : s.Accounted) (stepped : s.step action = some s') : s'.Marked := by
  have kept : ∀ {other : TcpLink}, other.underWay = s.underWay → other.owed = s.owed →
      other.drainPoint = s.drainPoint → other.accepted = s.accepted →
      other.sendQueue = s.sendQueue → other.settled = s.settled →
      other.sendPoint.inHand = s.sendPoint.inHand → other.Marked := by
    intro other underWay owed drain accepted queue settled hand
    exact inv.of_perm underWay owed drain (by rw [accepted]) (by rw [queue])
      (by rw [settled, hand])
  cases action with
  | send entry =>
    rcases send_eq stepped with rfl | ⟨_, _, rfl⟩
    · exact inv
    · exact kept rfl rfl rfl rfl rfl rfl rfl
  | enqueue entry allocates =>
    obtain ⟨_, rfl | rfl⟩ := enqueue_eq stepped
    · exact kept rfl rfl rfl rfl rfl rfl rfl
    · exact inv.of_perm rfl rfl rfl (List.prefix_refl _) (List.sublist_append_left ..) (.refl _)
  | count entry =>
    obtain ⟨_, rfl⟩ := count_eq stepped
    exact inv.of_perm rfl rfl rfl (List.prefix_append ..) (.refl _) (.refl _)
  | dequeue thread => exact inv.dequeue stepped
  | loop =>
    obtain ⟨underWay, owed, drain, accepted, queue, held⟩ := loop_holds stepped
    exact inv.of_perm underWay owed drain (by rw [accepted]) (by rw [queue]) held
  | put count =>
    obtain ⟨entry, rest, point, rfl⟩ := put_eq stepped
    refine kept rfl rfl rfl rfl rfl rfl ?_
    simp only [point]
    split <;> rfl
  | writeError aborted =>
    obtain ⟨entry, rest, point, _, rfl⟩ := writeError_eq stepped
    exact kept rfl rfl rfl rfl rfl rfl (by simp [point, SendPoint.inHand])
  | clearConnected => exact Option.some.inj stepped ▸ kept rfl rfl rfl rfl rfl rfl rfl
  | closeSocket =>
    simp only [TcpLink.step] at stepped
    split at stepped
    · simp at stepped
    · exact Option.some.inj stepped ▸ kept rfl rfl rfl rfl rfl rfl rfl
  | stop => exact Option.some.inj stepped ▸ kept rfl rfl rfl rfl rfl rfl rfl
  | read count =>
    simp only [TcpLink.step, TcpLink.read] at stepped
    split at stepped
    · obtain ⟨peer, _, rfl⟩ := Option.map_eq_some_iff.mp stepped
      exact kept rfl rfl rfl rfl rfl rfl rfl
    · simp at stepped
  | peerDown => exact Option.some.inj stepped ▸ kept rfl rfl rfl rfl rfl rfl rfl
  | recv =>
    simp only [TcpLink.step, TcpLink.recv] at stepped
    split at stepped
    · exact Option.some.inj stepped ▸ kept rfl rfl rfl rfl rfl rfl rfl
    · simp at stepped
  | drainCall =>
    -- The call itself marks what has been accepted, and has not looked at anything yet.
    simp only [TcpLink.step] at stepped
    split at stepped
    · exact Option.some.inj stepped ▸ ⟨Nat.le_refl _, by dsimp only; split <;> simp⟩
    · exact Option.some.inj stepped ▸ ⟨Nat.le_refl _, by dsimp only; split <;> simp⟩
    · simp at stepped
    · simp at stepped
  | drainLook =>
    simp only [TcpLink.step, TcpLink.drainLook] at stepped
    split at stepped
    · obtain rfl := Option.some.inj stepped
      refine ⟨inv.before, fun looking => ?_⟩
      have empty : s.sendQueueLen = 0 := by
        by_contra waiting
        simp [waiting] at looking
      -- All entries in the queue are among those that may be missing.
      obtain ⟨few, found⟩ := account.cleared empty
      exact ⟨s.sendQueue, few, .refl _, found⟩
    · obtain rfl := Option.some.inj stepped
      refine ⟨inv.before, fun looking => ?_⟩
      dsimp only at looking
      split at looking <;> simp at looking
    · simp at stepped
    · simp at stepped
  | drainExpire =>
    simp only [TcpLink.step, TcpLink.drainExpire] at stepped
    split at stepped
    · split at stepped
      · simp at stepped
      · exact Option.some.inj stepped ▸ ⟨inv.before, by simp⟩
    · split at stepped
      · exact Option.some.inj stepped ▸ ⟨inv.before, by simp⟩
      · simp at stepped
    · simp at stepped
    · simp at stepped

/-- The account of a link together with what the caller of `drain` knows. -/
structure Watched (s : TcpLink) : Prop where
  account : s.Accounted
  marked : s.Marked

/-- Every reachable state of a link keeps its accounts, the callers of `drain` included. -/
theorem reachable_watched {s : TcpLink} (reached : Transition.Reachable step initial s) :
    s.Watched :=
  Transition.reachable_preserves ⟨initial_accounted, initial_marked⟩
    (fun _ _ _ inv stepped => ⟨inv.account.step stepped, inv.marked.step inv.account stepped⟩)
    reached

/--
What `drain` has found out when it answers true.

The entries accepted before its call are written, failed or dropped, but for one in the hand of the
send loop, which has not set `sending_` for it yet or has already cleared it again, and for as many
in the queue as there were calls of `send` between putting their entry there and counting it.
-/
theorem drain_settles {s s' : TcpLink} (reached : Transition.Reachable step initial s)
    (looked : s.step .drainLook = some s') (answered : s'.drainPoint = .returned true) :
    s.sending = false ∧
      ∃ hand missing, (s.accepted.take s.owed).Subperm (s.settled ++ hand ++ missing) ∧
        (hand = [] ∨ ∃ entry, hand = [entry] ∧ s.sendPoint.Idle entry) ∧
        missing.Subperm s.sendQueue ∧ missing.length ≤ s.underWay := by
  obtain ⟨account, marked⟩ := reachable_watched reached
  -- The answer is given at the second look, which finds the flag cleared.
  have second : s.drainPoint = .lookSending ∧ s.sending = false := by
    simp only [step, drainLook] at looked
    split at looked
    · obtain rfl := Option.some.inj looked
      dsimp only at answered
      split at answered <;> simp at answered
    · rename_i point
      obtain rfl := Option.some.inj looked
      refine ⟨point, ?_⟩
      by_contra busy
      simp [busy] at answered
    · simp at looked
    · simp at looked
  obtain ⟨point, idle⟩ := second
  obtain ⟨missing, few, queued, found⟩ := marked.looked point
  refine ⟨idle, s.sendPoint.inHand, missing, found, ?_, queued, few⟩
  -- The flag tells where the send loop can be with an entry in its hand.
  have sending := account.sending
  rw [idle] at sending
  cases hand : s.sendPoint with
  | polling => exact .inl rfl
  | stopped => exact .inl rfl
  | dequeued entry => exact .inr ⟨entry, rfl, .inl rfl⟩
  | taken entry => exact .inr ⟨entry, rfl, .inr (.inl rfl)⟩
  | framed entry => exact .inr ⟨entry, rfl, .inr (.inr (.inl rfl))⟩
  | writing entry rest => simp [hand, SendPoint.sending] at sending
  | wrote entry error => simp [hand, SendPoint.sending] at sending
  | cleared entry error => exact .inr ⟨entry, rfl, .inr (.inr (.inr ⟨error, rfl⟩))⟩

/-- A message is accepted and another one put into the queue; the send loop takes the second one. -/
def hiddenRun : List LinkAction :=
  [.send ⟨1, [8]⟩, .enqueue ⟨1, [8]⟩ true, .send ⟨0, [7]⟩, .enqueue ⟨0, [7]⟩ true,
    .count ⟨0, [7]⟩, .drainCall, .dequeue 1, .loop, .drainLook]

/-- The length is zero, although the accepted message is in the queue. -/
theorem hiddenRun_queued : Transition.run step initial hiddenRun = some
    { initial with
      counts := [⟨1, [8]⟩]
      sendQueue := [⟨0, [7]⟩]
      sendPoint := .taken ⟨1, [8]⟩
      drainPoint := .lookSending
      entered := [⟨1, [8]⟩, ⟨0, [7]⟩]
      accepted := [⟨0, [7]⟩]
      owed := 1
      underWay := 1 } := by
  -- The steps are computed one after the other.
  simp [Transition.run, hiddenRun, step, TcpLink.send, TcpLink.enqueue, TcpLink.count,
    TcpLink.dequeue, takeFirst, TcpLink.loop, TcpLink.drainLook, initial, defaultTcpMessageSize]

/-- `drain` answers true although the only message accepted is still in the queue. -/
theorem drain_settles_hidden :
    ∃ s s', Transition.run step initial hiddenRun = some s ∧
      s.step .drainLook = some s' ∧ s'.drainPoint = .returned true ∧
      s.sendQueue = [⟨0, [7]⟩] ∧ s.accepted = [⟨0, [7]⟩] ∧ s.sending = false ∧
      ∃ hand missing, (s.accepted.take s.owed).Subperm (s.settled ++ hand ++ missing) ∧
        (hand = [] ∨ ∃ entry, hand = [entry] ∧ s.sendPoint.Idle entry) ∧
        missing.Subperm s.sendQueue ∧ missing.length ≤ s.underWay := by
  -- The accepted entry is hidden behind one that has not been counted.
  refine ⟨_, _, hiddenRun_queued, rfl, rfl, rfl, rfl, ?_⟩
  exact drain_settles ⟨_, hiddenRun_queued⟩ rfl rfl

end TcpLink

end Pybrid
