/-
The recovery loop keeps its contract.

From the access that spawns it the loop is the only task that works on its session, as
long as nobody closes or drops the session. Its counter and its local variables then
say how far the log has got.
-/

import CameraRs.Session.Attended
import CameraRs.Session.RecoveryLog

namespace CameraRs.Session

/-! ### The loop and its log -/

/-- Another attempt is within the bound and may be announced. -/
structure Due (policy : ReconnectPolicy) (o : Outage) : Prop where
  room : ∀ n, policy.maxAttempts = some n → o.attempts < n
  after : o.last = none ∨ o.last = some (.announced .streaming) ∨
    ∃ error, o.last = some (.outcome (.error error))

/-- The attempt that the log has last is the one the loop is making. -/
structure Trying (policy : ReconnectPolicy) (o : Outage) (vars : RecoveryVars)
    (trigger : RecoveryTrigger) : Prop where
  attempts : o.attempts = vars.attempt
  trigger : o.trigger = some trigger
  bounded : ∀ n, policy.maxAttempts = some n → o.attempts ≤ n

def Outage.failedWith (o : Outage) (error : CameraError) : Prop :=
  o.announced = some (.failed error)

/-- What the log says when the loop is at a counter. -/
def Loop (native : Bool) (policy : ReconnectPolicy) (o : Outage) (vars : RecoveryVars) :
    RecoveryPc → Prop
  | .upgrade | .wait | .loadStopping _ | .lock _ | .loadStoppingLocked _ | .recheckTrigger _
  | .unlockContinue => o.attempts = vars.attempt ∧ Due policy o
  | .setRecovering _ => vars.attempt = o.attempts + 1 ∧ Due policy o
  | .beginRecovery trigger | .sourceStop trigger | .reopen trigger _ =>
      Trying policy o vars trigger ∧ ∃ number trigger, o.last = some (.attempt number trigger)
  | .loadStoppingStart trigger | .sourceStart trigger =>
      Trying policy o vars trigger ∧
      ((∃ number trigger, o.last = some (.attempt number trigger)) ∨ o.last = some .reopened) ∧
      (native = true → 1 < o.attempts ∨ trigger = .sourceStopped → o.reopened = true)
  | .firstFrame trigger => Trying policy o vars trigger ∧ o.last = some .started
  | .loadStoppingOutcome trigger result =>
      Trying policy o vars trigger ∧ o.last = some (.outcome result)
  | .abandonStop => False
  | .endRecovery | .setStreaming => o.last = some (.outcome (.ok ()))
  | .retryStop trigger error | .retryHubStop trigger error =>
      Trying policy o vars trigger ∧ o.last = some (.outcome (.error error))
  | .setFailed error =>
      policy.maxAttempts = some o.attempts ∧ o.last = some (.outcome (.error error))
  | .storeStopping | .disableRecovery | .endRecoveryFailed | .hubStop | .finalStop
  | .terminalMetrics | .storeClosed =>
      ∃ error, o.last = some (.announced (.failed error)) ∧ o.failedWith error
  | .storeBusy => o.last = some .closed ∧ ∃ error, o.failedWith error
  | .unlockBreak => o.last = some .released ∧ ∃ error, o.failedWith error

/-- The loop has given up and has stored `stopping`. -/
def RecoveryPc.leaving : RecoveryPc → Bool
  | .disableRecovery | .endRecoveryFailed | .hubStop | .finalStop | .terminalMetrics
  | .storeClosed | .storeBusy | .unlockBreak => true
  | _ => false

/-- The counter of the loop, or its end, agrees with the log. -/
def Pc.Follows (native : Bool) (policy : ReconnectPolicy) (inner : SessionInner) (o : Outage) :
    Pc → Prop
  | .recovery vars pc => vars.policy = policy ∧ Loop native policy o vars pc ∧
      (pc.leaving = false → inner.stopping = false)
  | .finished => owed policy o = [] ∧ (o.last = some .released → ∃ error, o.failedWith error)
  | _ => False

variable {native : Bool} {policy : ReconnectPolicy} {o : Outage} {hub : HubView}
  {inner : SessionInner} {env : Env} {vars : RecoveryVars} {pc : RecoveryPc} {after : Pc}
  {effect : Effect} {i new : TaskId}

/-- What an access of the loop does to the log and to its session. -/
structure Advance (native : Bool) (policy : ReconnectPolicy) (i new : TaskId) (hub : HubView)
    (inner : SessionInner) (o : Outage) (pc : Pc) (effect : Effect) (after : Pc) : Prop where
  allowed : AllowedAll native policy o (effect.events pc after)
  follows : after.Follows native policy (effect.onInner i new hub inner)
    ((effect.events pc after).foldl Outage.add o)

theorem advance_silent {later : RecoveryVars} {next : RecoveryPc}
    (silent : effect.events (.recovery vars pc) (.recovery later next) = [])
    (policies : later.policy = policy) (loop : Loop native policy o later next)
    (running : next.leaving = false → (effect.onInner i new hub inner).stopping = false) :
    Advance native policy i new hub inner o (.recovery vars pc) effect (.recovery later next) where
  allowed := by
    rw [silent]
    trivial
  follows := by
    rw [silent]
    exact ⟨policies, loop, running⟩

theorem Due.owed (due : Due policy o) : owed policy o = [] := by
  rcases due.after with last | last | ⟨error, last⟩
  · simp [Session.owed, last]
  · simp [Session.owed, last]
  · simp only [Session.owed, last]
    rw [if_neg]
    intro most
    exact Nat.lt_irrefl _ (due.room _ most)

theorem Due.unreleased (due : Due policy o) : o.last ≠ some .released := by
  rcases due.after with last | last | ⟨error, last⟩ <;> simp [last]

theorem advance_outcome {trigger : RecoveryTrigger} {result : CameraResult Unit}
    (trying : Trying policy o vars trigger) (policies : vars.policy = policy)
    (seen : effect.events (.recovery vars pc)
      (.recovery vars (.loadStoppingOutcome trigger result)) = [.outcome result])
    (after : (∃ number trigger, o.last = some (.attempt number trigger)) ∨
      o.last = some .reopened ∨ o.last = some .started)
    (tried : result = .ok () → o.last = some .started)
    (running : (effect.onInner i new hub inner).stopping = false) :
    Advance native policy i new hub inner o (.recovery vars pc) effect
      (.recovery vars (.loadStoppingOutcome trigger result)) where
  allowed := by
    rw [seen]
    exact ⟨.outcome after tried, trivial⟩
  follows := by
    rw [seen]
    exact ⟨policies, ⟨⟨trying.attempts, trying.trigger, trying.bounded⟩, rfl⟩, fun _ => running⟩

theorem advance_over (silent : effect.events (.recovery vars pc) .finished = [])
    (settled : owed policy o = []) (given : o.last = some .released → ∃ error, o.failedWith error) :
    Advance native policy i new hub inner o (.recovery vars pc) effect .finished where
  allowed := by
    rw [silent]
    trivial
  follows := by
    rw [silent]
    exact ⟨settled, given⟩

theorem waiting_advance (policies : vars.policy = policy) (loop : Loop native policy o vars pc)
    (running : inner.stopping = false)
    (waiting : pc = .upgrade ∨ pc = .wait ∨ (∃ trigger, pc = .loadStopping trigger ∨
      pc = .lock trigger ∨ pc = .loadStoppingLocked trigger ∨ pc = .recheckTrigger trigger ∨
      pc = .setRecovering trigger))
    (taken : recoveryNext native hub inner vars env pc = some (after, effect)) :
    Advance native policy i new hub inner o (.recovery vars pc) effect after := by
  rcases waiting with rfl | rfl | ⟨trigger, rfl | rfl | rfl | rfl | rfl⟩
  · simp only [recoveryNext] at taken
    split at taken
    · obtain ⟨rfl, rfl⟩ := taken
      exact advance_over rfl loop.2.owed fun last => absurd last loop.2.unreleased
    · obtain ⟨rfl, rfl⟩ := taken
      exact advance_silent rfl policies loop fun _ => running
  · simp only [recoveryNext] at taken
    split at taken
    · obtain ⟨rfl, rfl⟩ := taken
      exact advance_silent rfl policies loop fun _ => running
    · contradiction
    · split at taken
      · contradiction
      · obtain ⟨rfl, rfl⟩ := taken
        exact advance_silent rfl policies loop fun _ => running
  · simp only [recoveryNext, running] at taken
    obtain ⟨rfl, rfl⟩ := taken
    exact advance_silent rfl policies loop fun _ => running
  · simp only [recoveryNext] at taken
    split at taken
    · obtain ⟨rfl, rfl⟩ := taken
      exact advance_silent rfl policies loop fun _ => running
    · contradiction
  · simp only [recoveryNext, running] at taken
    obtain ⟨rfl, rfl⟩ := taken
    exact advance_silent rfl policies loop fun _ => running
  · simp only [recoveryNext] at taken
    split at taken
    · obtain ⟨rfl, rfl⟩ := taken
      exact advance_silent rfl policies loop fun _ => running
    · obtain ⟨rfl, rfl⟩ := taken
      exact advance_silent rfl policies ⟨by rw [loop.1], loop.2⟩ fun _ => running
  · obtain ⟨rfl, rfl⟩ := taken
    obtain ⟨number, due⟩ := loop
    have room : ∀ n, policy.maxAttempts = some n → vars.attempt ≤ n := by
      intro n most
      have below := due.room n most
      omega
    refine ⟨⟨.attempt number room due.after, trivial⟩, policies, ⟨⟨number.symm, rfl, ?_⟩, ?_⟩,
      fun _ => running⟩
    · intro n most
      have below := due.room n most
      exact below
    · exact ⟨vars.attempt, trigger, rfl⟩

theorem trying_advance {trigger : RecoveryTrigger} (policies : vars.policy = policy)
    (loop : Loop native policy o vars pc) (running : inner.stopping = false)
    (attempting : pc = .beginRecovery trigger ∨ pc = .sourceStop trigger ∨
      (∃ result, pc = .reopen trigger result) ∨ pc = .loadStoppingStart trigger ∨
      pc = .sourceStart trigger ∨ pc = .firstFrame trigger)
    (taken : recoveryNext native hub inner vars env pc = some (after, effect)) :
    Advance native policy i new hub inner o (.recovery vars pc) effect after := by
  rcases attempting with rfl | rfl | ⟨result, rfl⟩ | rfl | rfl | rfl
  · obtain ⟨rfl, rfl⟩ := taken
    exact advance_silent rfl policies loop fun _ => running
  · obtain ⟨rfl, rfl⟩ := taken
    exact advance_silent rfl policies loop fun _ => running
  · obtain ⟨trying, announced⟩ := loop
    simp only [recoveryNext] at taken
    split at taken
    · split at taken
      · obtain ⟨rfl, rfl⟩ := taken
        refine ⟨⟨.reopened announced, trivial⟩, policies, ⟨?_, .inr rfl, fun _ _ => rfl⟩,
          fun _ => running⟩
        exact ⟨trying.attempts, trying.trigger, trying.bounded⟩
      · obtain ⟨rfl, rfl⟩ := taken
        exact advance_outcome trying policies rfl (.inl announced) (by simp) running
    · next kept =>
        split at taken
        · obtain ⟨rfl, rfl⟩ := taken
          refine advance_silent rfl policies ⟨trying, .inl announced, fun isNative forced => ?_⟩
            fun _ => running
          rw [trying.attempts] at forced
          exact absurd ⟨isNative, .inl forced⟩ kept
        · obtain ⟨rfl, rfl⟩ := taken
          exact advance_outcome trying policies rfl (.inl announced) (by simp) running
  · simp only [recoveryNext, running] at taken
    obtain ⟨rfl, rfl⟩ := taken
    exact advance_silent rfl policies loop fun _ => running
  · obtain ⟨trying, reached, forced⟩ := loop
    have allowed : Allowed native policy o .started := by
      refine .started (fun isNative why => forced isNative ?_) reached
      rw [trying.trigger] at why
      exact why.imp_right Option.some.inj
    simp only [recoveryNext] at taken
    split at taken
    · obtain ⟨rfl, rfl⟩ := taken
      exact ⟨⟨allowed, trivial⟩, policies,
        ⟨⟨trying.attempts, trying.trigger, trying.bounded⟩, rfl⟩, fun _ => running⟩
    · obtain ⟨rfl, rfl⟩ := taken
      exact ⟨⟨allowed, .outcome (.inr (.inr rfl)) (by simp), trivial⟩, policies,
        ⟨⟨trying.attempts, trying.trigger, trying.bounded⟩, rfl⟩, fun _ => running⟩
  · obtain ⟨trying, started⟩ := loop
    obtain ⟨rfl, rfl⟩ := taken
    exact advance_outcome trying policies rfl (.inr (.inr started)) (fun _ => started) running

theorem deciding_advance (valid : policy.maxAttempts ≠ some 0) (policies : vars.policy = policy)
    (loop : Loop native policy o vars pc) (running : inner.stopping = false)
    (deciding : (∃ trigger result, pc = .loadStoppingOutcome trigger result) ∨
      pc = .endRecovery ∨ pc = .setStreaming ∨ (∃ trigger error, pc = .retryStop trigger error ∨
      pc = .retryHubStop trigger error) ∨ (∃ error, pc = .setFailed error) ∨
      pc = .unlockContinue)
    (taken : recoveryNext native hub inner vars env pc = some (after, effect)) :
    Advance native policy i new hub inner o (.recovery vars pc) effect after := by
  rcases deciding with ⟨trigger, result, rfl⟩ | rfl | rfl | ⟨trigger, error, rfl | rfl⟩ |
    ⟨error, rfl⟩ | rfl
  · simp only [recoveryNext, running] at taken
    cases result with
    | ok value =>
        obtain ⟨rfl, rfl⟩ := taken
        exact advance_silent rfl policies loop.2 fun _ => running
    | error error =>
        obtain ⟨rfl, rfl⟩ := taken
        exact advance_silent rfl policies loop fun _ => running
  · obtain ⟨rfl, rfl⟩ := taken
    exact advance_silent rfl policies loop fun _ => running
  · obtain ⟨rfl, rfl⟩ := taken
    refine ⟨⟨.streaming loop, trivial⟩, policies, ⟨rfl, ⟨?_, .inr (.inl rfl)⟩⟩, fun _ => running⟩
    intro n most
    rcases Nat.eq_zero_or_pos n with rfl | positive
    · exact absurd most valid
    · exact positive
  · obtain ⟨rfl, rfl⟩ := taken
    exact advance_silent rfl policies loop fun _ => running
  · obtain ⟨trying, failed⟩ := loop
    simp only [recoveryNext] at taken
    split at taken
    · next last =>
        obtain ⟨rfl, rfl⟩ := taken
        refine advance_silent rfl policies ⟨?_, failed⟩ fun _ => running
        obtain ⟨n, most, reached⟩ := (Option.any_eq_true _ _).mp last
        rw [policies] at most
        have bound := trying.bounded n most
        rw [most, trying.attempts]
        have enough : n ≤ vars.attempt := of_decide_eq_true reached
        rw [trying.attempts] at bound
        rw [Nat.le_antisymm enough bound]
    · next more =>
        obtain ⟨rfl, rfl⟩ := taken
        refine advance_silent rfl policies ⟨trying.attempts, ?_, .inr (.inr ⟨error, failed⟩)⟩
          fun _ => running
        intro n most
        rw [policies, most] at more
        rw [trying.attempts]
        simpa using more
  · obtain ⟨rfl, rfl⟩ := taken
    exact ⟨⟨.failed loop.1 loop.2, trivial⟩, policies, ⟨error, rfl, rfl⟩, fun _ => running⟩
  · obtain ⟨rfl, rfl⟩ := taken
    exact advance_silent rfl policies loop fun _ => running

theorem leaving_advance (policies : vars.policy = policy) (loop : Loop native policy o vars pc)
    (leaving : pc.leaving = true ∨ pc = .storeStopping)
    (taken : recoveryNext native hub inner vars env pc = some (after, effect)) :
    Advance native policy i new hub inner o (.recovery vars pc) effect after := by
  cases pc with
  | storeStopping =>
      obtain ⟨rfl, rfl⟩ := taken
      exact advance_silent rfl policies loop (by simp [RecoveryPc.leaving])
  | disableRecovery =>
      obtain ⟨rfl, rfl⟩ := taken
      exact advance_silent rfl policies loop (by simp [RecoveryPc.leaving])
  | endRecoveryFailed =>
      obtain ⟨rfl, rfl⟩ := taken
      exact advance_silent rfl policies loop (by simp [RecoveryPc.leaving])
  | hubStop =>
      obtain ⟨rfl, rfl⟩ := taken
      exact advance_silent rfl policies loop (by simp [RecoveryPc.leaving])
  | finalStop =>
      obtain ⟨rfl, rfl⟩ := taken
      exact advance_silent rfl policies loop (by simp [RecoveryPc.leaving])
  | terminalMetrics =>
      obtain ⟨rfl, rfl⟩ := taken
      exact advance_silent rfl policies loop (by simp [RecoveryPc.leaving])
  | storeClosed =>
      obtain ⟨rfl, rfl⟩ := taken
      obtain ⟨error, last, failed⟩ := loop
      exact ⟨⟨.closed ⟨error, last⟩, trivial⟩, policies, ⟨rfl, error, failed⟩,
        by simp [RecoveryPc.leaving]⟩
  | storeBusy =>
      obtain ⟨rfl, rfl⟩ := taken
      obtain ⟨last, failed⟩ := loop
      exact ⟨⟨.released last, trivial⟩, policies, ⟨rfl, failed⟩, by simp [RecoveryPc.leaving]⟩
  | unlockBreak =>
      obtain ⟨rfl, rfl⟩ := taken
      exact advance_over rfl (by simp [owed, loop.1]) fun _ => loop.2
  | _ => simp [RecoveryPc.leaving] at leaving

theorem recovery_advance (valid : policy.maxAttempts ≠ some 0)
    (follows : (Pc.recovery vars pc).Follows native policy inner o)
    (taken : recoveryNext native hub inner vars env pc = some (after, effect)) :
    Advance native policy i new hub inner o (.recovery vars pc) effect after := by
  obtain ⟨policies, loop, running⟩ := follows
  cases leaving : pc.leaving with
  | true => exact leaving_advance policies loop (.inl leaving) taken
  | false =>
      have runs := running leaving
      cases pc with
      | upgrade => exact waiting_advance policies loop runs (by simp) taken
      | wait => exact waiting_advance policies loop runs (by simp) taken
      | loadStopping trigger => exact waiting_advance policies loop runs (by simp) taken
      | lock trigger => exact waiting_advance policies loop runs (by simp) taken
      | loadStoppingLocked trigger => exact waiting_advance policies loop runs (by simp) taken
      | recheckTrigger trigger => exact waiting_advance policies loop runs (by simp) taken
      | setRecovering trigger => exact waiting_advance policies loop runs (by simp) taken
      | beginRecovery trigger =>
          exact @trying_advance _ _ _ _ _ _ _ _ _ _ _ _ trigger policies loop runs (by simp) taken
      | sourceStop trigger =>
          exact @trying_advance _ _ _ _ _ _ _ _ _ _ _ _ trigger policies loop runs (by simp) taken
      | reopen trigger result =>
          exact @trying_advance _ _ _ _ _ _ _ _ _ _ _ _ trigger policies loop runs (by simp) taken
      | loadStoppingStart trigger =>
          exact @trying_advance _ _ _ _ _ _ _ _ _ _ _ _ trigger policies loop runs (by simp) taken
      | sourceStart trigger =>
          exact @trying_advance _ _ _ _ _ _ _ _ _ _ _ _ trigger policies loop runs (by simp) taken
      | firstFrame trigger =>
          exact @trying_advance _ _ _ _ _ _ _ _ _ _ _ _ trigger policies loop runs (by simp) taken
      | loadStoppingOutcome trigger result =>
          exact deciding_advance valid policies loop runs (by simp) taken
      | abandonStop => exact loop.elim
      | endRecovery => exact deciding_advance valid policies loop runs (by simp) taken
      | setStreaming => exact deciding_advance valid policies loop runs (by simp) taken
      | retryStop trigger error =>
          exact deciding_advance valid policies loop runs (by simp) taken
      | retryHubStop trigger error =>
          exact deciding_advance valid policies loop runs (by simp) taken
      | setFailed error => exact deciding_advance valid policies loop runs (by simp) taken
      | storeStopping => exact leaving_advance policies loop (.inr rfl) taken
      | unlockContinue => exact deciding_advance valid policies loop runs (by simp) taken
      | _ => simp [RecoveryPc.leaving] at leaving

end CameraRs.Session
