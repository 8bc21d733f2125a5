/-
The locks of the frame hub.

Every operation takes its locks in the order pool, state, subscriber list, queue, rate limit.
The values that are dropped inside a locked region (frames, snapshots, subscribers) take no
lock; a lease, whose drop takes the pool, is only ever dropped outside. The events and the
wake-up channel of the recovery are taken with no other lock held.
-/

import CameraRs.Lib.Locking

namespace CameraRs.Frame.Deadlock

open Lib.Locking Lib.Locking.Code

/-- `queue` and `lastEnqueued` belong to one subscriber. -/
inductive HubLock
  | pool
  | state
  | subscribers
  | queue (i : Nat)
  | lastEnqueued (i : Nat)
  | events
  | recoveryWake
deriving DecidableEq

namespace FrameHub

abbrev HubCode := Code HubLock Nat

def lock (k : HubLock) (body : HubCode) : HubCode := .hold k .write body

def borrow (body : HubCode) : HubCode := .hold .state .read body

def send (body : HubCode) : HubCode := .hold .state .write body

def wakeRecovery : HubCode := lock .recoveryWake skip

def reportResourcePressure : HubCode := lock .events skip

/-- `subscribers.lock().retain(...)`; a subscriber may be gone. -/
def retain (visit : Nat → HubCode) : HubCode :=
  lock .subscribers (loop (either skip (pick visit)))

def clearQueues : HubCode := retain fun i => lock (.queue i) skip

def isStreaming : HubCode := borrow skip

def configure : HubCode := seq isStreaming (either skip (lock .pool skip))

def start : HubCode := lock .pool (all [clearQueues, borrow skip, send skip])

def stop : HubCode := all [lock .pool skip, clearQueues, send skip, wakeRecovery]

def setRecovery : HubCode := send skip

/-- `session` and `latest`. -/
def snapshot : HubCode := borrow skip

def recoveryTrigger : HubCode := seq (borrow skip) (either skip (lock .pool skip))

def sourceStallRemaining : HubCode := lock .pool skip

def waitForRecoveryTrigger : HubCode := loop (seq recoveryTrigger (either skip sourceStallRemaining))

def recordConversionError : HubCode :=
  seq (borrow skip) (either skip (seq (lock .pool skip) (either skip wakeRecovery)))

def recordInputDrop : HubCode :=
  seq snapshot (either skip (seq (lock .pool skip) reportResourcePressure))

def logFrameError : HubCode := lock .pool skip

def setEventSender : HubCode := lock .events skip

/-- The first frame of a new subscriber sets its rate limit before it enters the queue. -/
def subscribeWith : HubCode :=
  seq (lock .pool skip) (either skip (borrow (lock .subscribers (either skip
    (pick fun i => seq (lock (.lastEnqueued i) skip) (lock (.queue i) skip))))))

/-- The second look at the state is inside the pool; the pressure is reported outside. -/
def reserve : HubCode :=
  seq (borrow skip) (either skip (seq (lock .pool (borrow skip)) (either skip reportResourcePressure)))

def dropLease : HubCode := lock .pool skip

def offer (i : Nat) : HubCode := lock (.queue i) (either skip (lock (.lastEnqueued i) skip))

def finishPublish : HubCode :=
  seq (send (either skip (retain offer))) (either skip (lock .pool snapshot))

/-- `publish` and its variants; `convert` runs with no lock held, and may panic. -/
def publish : HubCode :=
  seq reserve (either skip
    (all [call, either skip (either recordConversionError finishPublish), dropLease]))

def writableNative : HubCode := reserve

def commit : HubCode := seq finishPublish dropLease

def metrics : HubCode := lock .pool skip

def stats : HubCode := lock .pool (seq (either skip isStreaming) snapshot)

/-- `FrameReceiver::next`; no lock is held while it waits for a change, where it may be dropped. -/
def next : HubCode := loop (borrow (either skip (pick fun i => lock (.queue i) skip)))

/-- `with_stop_flag` and `queued_frames`. -/
def inspectQueue : HubCode := either skip (pick fun i => lock (.queue i) skip)

end FrameHub

inductive Operation
  | configure
  | start
  | stop
  | setRecovery
  | snapshot
  | recoveryTrigger
  | waitForRecoveryTrigger
  | recordConversionError
  | recordInputDrop
  | logFrameError
  | setEventSender
  | subscribeWith
  | publish
  | writableNative
  | commit
  | dropLease
  | metrics
  | stats
  | next
  | inspectQueue
deriving DecidableEq

def Operation.code : Operation → FrameHub.HubCode
  | configure => FrameHub.configure
  | start => FrameHub.start
  | stop => FrameHub.stop
  | setRecovery => FrameHub.setRecovery
  | snapshot => FrameHub.snapshot
  | recoveryTrigger => FrameHub.recoveryTrigger
  | waitForRecoveryTrigger => FrameHub.waitForRecoveryTrigger
  | recordConversionError => FrameHub.recordConversionError
  | recordInputDrop => FrameHub.recordInputDrop
  | logFrameError => FrameHub.logFrameError
  | setEventSender => FrameHub.setEventSender
  | subscribeWith => FrameHub.subscribeWith
  | publish => FrameHub.publish
  | writableNative => FrameHub.writableNative
  | commit => FrameHub.commit
  | dropLease => FrameHub.dropLease
  | metrics => FrameHub.metrics
  | stats => FrameHub.stats
  | next => FrameHub.next
  | inspectQueue => FrameHub.inspectQueue

/-- `n` threads on one hub. -/
abbrev machine (n : Nat) := Lib.Locking.machine Operation.code n

/-! ### The order of the locks -/

def rank : HubLock → Nat
  | .pool => 0
  | .state => 1
  | .subscribers => 2
  | .queue _ => 3
  | .lastEnqueued _ => 4
  | .events => 5
  | .recoveryWake => 6

namespace FrameHub

theorem retain_ordered {visit : Nat → HubCode} (ordered : ∀ i, (visit i).Ordered rank)
    (own : ∀ i k, (visit i).Locks k → rank .subscribers < rank k) :
    (retain visit).Ordered rank := by
  refine ⟨?_, trivial, ordered⟩
  rintro k (none | ⟨i, locks⟩)
  · contradiction
  · exact own i k locks

theorem retain_locks {visit : Nat → HubCode}
    (own : ∀ i k, (visit i).Locks k → rank .subscribers < rank k) {k : HubLock}
    (locks : (retain visit).Locks k) : rank .subscribers ≤ rank k := by
  rcases locks with rfl | none | ⟨i, locks⟩
  · exact Nat.le_refl _
  · contradiction
  · exact Nat.le_of_lt (own i k locks)

theorem clearing_own (i : Nat) (k : HubLock) (locks : (lock (.queue i) skip).Locks k) :
    rank .subscribers < rank k := by
  rcases locks with rfl | none
  · simp [rank]
  · contradiction

theorem offer_own (i : Nat) (k : HubLock) (locks : (offer i).Locks k) :
    rank .subscribers < rank k := by
  rcases locks with rfl | none | rfl | none
  · simp [rank]
  · contradiction
  · simp [rank]
  · contradiction

theorem clearQueues_ordered : clearQueues.Ordered rank :=
  retain_ordered (by simp [lock]) clearing_own

private theorem offering_ordered : (retain offer).Ordered rank :=
  retain_ordered (by simp [offer, lock, rank]) offer_own

theorem hold_ordered {k : HubLock} {mode : Lib.Locking.Mode} {body : HubCode}
    (ordered : body.Ordered rank) (above : ∀ j, body.Locks j → rank k < rank j) :
    (Code.hold k mode body).Ordered rank := ⟨above, ordered⟩

private theorem start_ordered : start.Ordered rank := by
  refine hold_ordered ⟨clearQueues_ordered, by simp [borrow, send, Code.all]⟩ ?_
  rintro j (clearing | (rfl | none) | (rfl | none) | none)
  · exact Nat.lt_of_lt_of_le (by simp [rank]) (retain_locks clearing_own clearing)
  · simp [rank]
  · contradiction
  · simp [rank]
  · contradiction
  · contradiction

theorem finishPublish_ordered : finishPublish.Ordered rank := by
  refine ⟨hold_ordered ⟨trivial, offering_ordered⟩ ?_, trivial, ?_⟩
  · rintro j (none | offering)
    · contradiction
    · exact Nat.lt_of_lt_of_le (by simp [rank]) (retain_locks offer_own offering)
  · simp [lock, snapshot, borrow, rank]

private theorem subscribeWith_ordered : subscribeWith.Ordered rank := by
  have entering : (lock .subscribers (either skip (pick fun i =>
      seq (lock (.lastEnqueued i) skip) (lock (.queue i) skip)))).Ordered rank := by
    refine hold_ordered (by simp [lock]) ?_
    rintro j (none | ⟨i, (rfl | none) | (rfl | none)⟩)
    · contradiction
    · simp [rank]
    · contradiction
    · simp [rank]
    · contradiction
  refine ⟨by simp [lock], trivial, hold_ordered entering ?_⟩
  rintro j (rfl | none | ⟨i, (rfl | none) | (rfl | none)⟩)
  · simp [rank]
  · contradiction
  · simp [rank]
  · contradiction
  · simp [rank]
  · contradiction

theorem reserve_ordered : reserve.Ordered rank := by
  simp [reserve, reportResourcePressure, lock, borrow, rank]

theorem recordConversionError_ordered : recordConversionError.Ordered rank := by
  simp [recordConversionError, wakeRecovery, lock, borrow]

private theorem recordInputDrop_ordered : recordInputDrop.Ordered rank := by
  simp [recordInputDrop, snapshot, reportResourcePressure, lock, borrow]

private theorem publish_ordered : publish.Ordered rank :=
  ⟨reserve_ordered, trivial, trivial, ⟨trivial, recordConversionError_ordered,
    finishPublish_ordered⟩, by simp [dropLease, lock, Code.all]⟩

private theorem commit_ordered : commit.Ordered rank :=
  ⟨finishPublish_ordered, by simp [dropLease, lock]⟩

private theorem stop_ordered : stop.Ordered rank :=
  ⟨by simp [lock], clearQueues_ordered,
    by simp [wakeRecovery, send, lock, Code.all]⟩

private theorem configure_ordered : configure.Ordered rank := by
  simp [configure, isStreaming, lock, borrow]

private theorem stats_ordered : stats.Ordered rank := by
  simp [stats, isStreaming, snapshot, lock, borrow, rank]

private theorem next_ordered : next.Ordered rank := by
  simp [next, lock, borrow, rank]

private theorem inspectQueue_ordered : inspectQueue.Ordered rank := by
  simp [inspectQueue, lock]

theorem recoveryTrigger_ordered : recoveryTrigger.Ordered rank := by
  simp [recoveryTrigger, lock, borrow]

private theorem waitForRecoveryTrigger_ordered : waitForRecoveryTrigger.Ordered rank :=
  ⟨recoveryTrigger_ordered, trivial, by simp [sourceStallRemaining, lock]⟩

theorem single_ordered (k : HubLock) (mode : Lib.Locking.Mode) :
    (Code.hold k mode skip : HubCode).Ordered rank := hold_ordered trivial fun _ none => none.elim

end FrameHub

theorem Operation.ordered (o : Operation) : o.code.Ordered rank := by
  cases o with
  | configure => exact FrameHub.configure_ordered
  | start => exact FrameHub.start_ordered
  | stop => exact FrameHub.stop_ordered
  | setRecovery => exact FrameHub.single_ordered _ _
  | snapshot => exact FrameHub.single_ordered _ _
  | recoveryTrigger => exact FrameHub.recoveryTrigger_ordered
  | waitForRecoveryTrigger => exact FrameHub.waitForRecoveryTrigger_ordered
  | recordConversionError => exact FrameHub.recordConversionError_ordered
  | recordInputDrop => exact FrameHub.recordInputDrop_ordered
  | logFrameError => exact FrameHub.single_ordered _ _
  | setEventSender => exact FrameHub.single_ordered _ _
  | subscribeWith => exact FrameHub.subscribeWith_ordered
  | publish => exact FrameHub.publish_ordered
  | writableNative => exact FrameHub.reserve_ordered
  | commit => exact FrameHub.commit_ordered
  | dropLease => exact FrameHub.single_ordered _ _
  | metrics => exact FrameHub.single_ordered _ _
  | stats => exact FrameHub.stats_ordered
  | next => exact FrameHub.next_ordered
  | inspectQueue => exact FrameHub.inspectQueue_ordered

/-! ### No deadlock -/

/-- No threads wait for each other in a circle, no thread asks for a lock that it holds, and
while a thread has something to do, some thread can go on. -/
theorem never_deadlocks {n : Nat} {s : Fin n → Thread HubLock Nat}
    (reached : (machine n).Reachable Lib.Machine.anything s) :
    (∀ t, ¬ Relation.TransGen (WaitsFor s) t t) ∧
      (∀ t lock mode, (s t).wants = some (lock, mode) → ∀ h ∈ (s t).held, h.1 ≠ lock) ∧
      ((∃ t, s t ≠ []) → ∃ action s', (machine n).step s action = some s') :=
  ⟨no_circle Operation.ordered reached, fun _ _ _ => no_reentry Operation.ordered reached,
    can_proceed Operation.ordered reached⟩

/-- The first thread clears the queues in `start`; the second asks for the pool in `metrics`. -/
def overlapping : List (Fin 2 × Lib.Locking.Choice Nat Operation) :=
  [(0, .operation .start), (0, .go), (0, .go), (1, .operation .metrics), (1, .go), (0, .go),
    (0, .go), (0, .go)]

theorem never_deadlocks_overlapping : ∃ s : Fin 2 → Thread HubLock Nat,
    (machine 2).Reachable Lib.Machine.anything s ∧
    (s 0).held = [(.subscribers, .write), (.pool, .write)] ∧
    (s 1).wants = some (.pool, .write) ∧ WaitsFor s 1 0 ∧
    ¬ Relation.TransGen (WaitsFor s) 0 0 ∧ ∃ action s', (machine 2).step s action = some s' := by
  have passed : (((machine 2).exec (fun _ _ => true) (fun _ => [.run .call]) overlapping).any
      fun s => decide ((s 0).held = [(.subscribers, .write), (.pool, .write)] ∧
        (s 1).wants = some (.pool, .write))) = true := by decide +kernel
  obtain ⟨s, reached, holds⟩ := Lib.Machine.Reachable.of_exec (fun _ => rfl) passed
  obtain ⟨held, wanted⟩ := of_decide_eq_true holds
  have anything := reached.mono fun _ _ _ => trivial
  obtain ⟨circle, _, proceed⟩ := never_deadlocks anything
  refine ⟨s, anything, held, wanted, ⟨.pool, .write, wanted, (.pool, .write), ?_, rfl⟩,
    circle 0, proceed ⟨1, fun empty => ?_⟩⟩
  · rw [held]
    exact List.mem_cons_of_mem _ (List.mem_singleton.mpr rfl)
  · rw [empty] at wanted
    contradiction

end CameraRs.Frame.Deadlock
