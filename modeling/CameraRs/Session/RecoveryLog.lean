/-
What a recovery is seen to do, and what is asked of it.

The log of a session has its announcements and what each attempt did to the source.
`Allowed` says which event may come next; from that alone follow the numbers of the
attempts, their bound, and how an outage ends.
-/

import CameraRs.Session.Program

namespace CameraRs.Session

/-- `attempt` announces `Recovering`, `announced` any other state; `reopened` and
`started` are calls on the source, `outcome` is what the attempt came to. -/
inductive RecoveryEvent
  | attempt (number : Nat) (trigger : RecoveryTrigger)
  | reopened
  | started
  | outcome (result : CameraResult Unit)
  | announced (state : SessionState)
  | closed
  | released
deriving DecidableEq

/-- The result of the attempt that is over at this counter. -/
def Pc.outcome : Pc → List RecoveryEvent
  | .recovery _ (.loadStoppingOutcome _ result) => [.outcome result]
  | _ => []

/-- What is seen of an access that leads from `pc` to `after`. -/
def Effect.events (pc after : Pc) : Effect → List RecoveryEvent
  | .setState state =>
      match pc, state with
      | .recovery _ (.setRecovering trigger), .recovering number => [.attempt number trigger]
      | _, _ => [.announced state]
  | .launch => [.announced .streaming]
  | .sourceStart _ => .started :: after.outcome
  | .reopen _ =>
      match after with
      | .recovery _ (.loadStoppingStart _) => [.reopened]
      | _ => after.outcome
  | .storeClosed => [.closed]
  | .releaseBusy => [.released]
  | _ => after.outcome

/-- What a log says about the outage that is going on: `attempts` since the session
last streamed, and what is known of the last attempt. -/
structure Outage where
  attempts : Nat := 0
  trigger : Option RecoveryTrigger := none
  reopened : Bool := false
  announced : Option SessionState := none
  last : Option RecoveryEvent := none

namespace Outage

def add (o : Outage) (event : RecoveryEvent) : Outage :=
  match event with
  | .attempt number trigger =>
      { attempts := o.attempts + 1
        trigger := some trigger
        reopened := false
        announced := some (.recovering number)
        last := some event }
  | .reopened => { o with reopened := true, last := some event }
  | .announced state =>
      { o with
        attempts := if state = .streaming then 0 else o.attempts
        announced := some state
        last := some event }
  | _ => { o with last := some event }

@[simp] theorem last_add (o : Outage) (event : RecoveryEvent) :
    (o.add event).last = some event := by
  cases event <;> rfl

end Outage

def outage (log : List RecoveryEvent) : Outage := log.foldl Outage.add {}

@[simp] theorem outage_nil : outage [] = {} := rfl

@[simp] theorem outage_snoc (log : List RecoveryEvent) (event : RecoveryEvent) :
    outage (log ++ [event]) = (outage log).add event := by
  simp [outage]

/-- The events that may come after an outage has got this far. -/
inductive Allowed (native : Bool) (policy : ReconnectPolicy) (o : Outage) : RecoveryEvent → Prop
  | attempt {number : Nat} {trigger : RecoveryTrigger} (numbered : number = o.attempts + 1)
      (bounded : ∀ n, policy.maxAttempts = some n → number ≤ n)
      (after : o.last = none ∨ o.last = some (.announced .streaming) ∨
        ∃ error, o.last = some (.outcome (.error error))) :
      Allowed native policy o (.attempt number trigger)
  | reopened (after : ∃ number trigger, o.last = some (.attempt number trigger)) :
      Allowed native policy o .reopened
  | started (forced : native = true → 1 < o.attempts ∨ o.trigger = some .sourceStopped →
        o.reopened = true)
      (after : (∃ number trigger, o.last = some (.attempt number trigger)) ∨
        o.last = some .reopened) :
      Allowed native policy o .started
  | outcome {result : CameraResult Unit}
      (after : (∃ number trigger, o.last = some (.attempt number trigger)) ∨
        o.last = some .reopened ∨ o.last = some .started)
      (tried : result = .ok () → o.last = some .started) :
      Allowed native policy o (.outcome result)
  | streaming (after : o.last = some (.outcome (.ok ()))) :
      Allowed native policy o (.announced .streaming)
  | failed {error : CameraError} (exhausted : policy.maxAttempts = some o.attempts)
      (after : o.last = some (.outcome (.error error))) :
      Allowed native policy o (.announced (.failed error))
  | closed (after : ∃ error, o.last = some (.announced (.failed error))) :
      Allowed native policy o .closed
  | released (after : o.last = some .closed) : Allowed native policy o .released

def Lawful (native : Bool) (policy : ReconnectPolicy) (log : List RecoveryEvent) : Prop :=
  ∀ pre event, pre ++ [event] <+: log → Allowed native policy (outage pre) event

variable {native : Bool} {policy : ReconnectPolicy} {log : List RecoveryEvent}

theorem lawful_nil : Lawful native policy [] := by
  intro pre event inside
  have length := inside.length_le
  simp at length

theorem Lawful.snoc (lawful : Lawful native policy log) {event : RecoveryEvent}
    (allowed : Allowed native policy (outage log) event) :
    Lawful native policy (log ++ [event]) := by
  intro pre next inside
  rcases List.prefix_concat_iff.mp inside with whole | earlier
  · obtain ⟨rfl, same⟩ := List.append_inj' whole rfl
    obtain rfl := List.singleton_inj.mp same
    exact allowed
  · exact lawful pre next earlier

def AllowedAll (native : Bool) (policy : ReconnectPolicy) (o : Outage) :
    List RecoveryEvent → Prop
  | [] => True
  | event :: rest => Allowed native policy o event ∧ AllowedAll native policy (o.add event) rest

theorem outage_append (log more : List RecoveryEvent) :
    outage (log ++ more) = more.foldl Outage.add (outage log) := by
  simp [outage]

theorem Lawful.append (lawful : Lawful native policy log) {more : List RecoveryEvent}
    (allowed : AllowedAll native policy (outage log) more) :
    Lawful native policy (log ++ more) := by
  induction more generalizing log with
  | nil => rwa [List.append_nil]
  | cons event rest ih =>
      have longer := ih (lawful.snoc allowed.1) (by rw [outage_snoc]; exact allowed.2)
      rwa [List.append_assoc] at longer

structure RecoveryContract (native : Bool) (policy : ReconnectPolicy)
    (log : List RecoveryEvent) : Prop where
  numbered : ∀ pre number trigger, pre ++ [.attempt number trigger] <+: log →
    number = (outage pre).attempts + 1
  bounded : ∀ pre number trigger n, pre ++ [.attempt number trigger] <+: log →
    policy.maxAttempts = some n → number ≤ n
  reopened : native = true → ∀ pre, pre ++ [.started] <+: log →
    1 < (outage pre).attempts ∨ (outage pre).trigger = some .sourceStopped →
    (outage pre).reopened = true
  succeeded : ∀ pre next, pre ++ [.outcome (.ok ()), next] <+: log →
    next = .announced .streaming
  exhausted : ∀ pre error next, policy.maxAttempts = some (outage pre).attempts →
    pre ++ [.outcome (.error error), next] <+: log → next = .announced (.failed error)
  streams : ∀ pre, pre ++ [.announced .streaming] <+: log →
    (outage pre).last = some (.outcome (.ok ()))
  fails : ∀ pre error, pre ++ [.announced (.failed error)] <+: log →
    policy.maxAttempts = some (outage pre).attempts ∧
      (outage pre).last = some (.outcome (.error error))
  closes : ∀ pre error next, pre ++ [.announced (.failed error), next] <+: log →
    next = .closed
  releases : ∀ pre next, pre ++ [.closed, next] <+: log → next = .released
  ends : ∀ pre next, ¬ pre ++ [.released, next] <+: log

theorem Lawful.next (lawful : Lawful native policy log) {pre : List RecoveryEvent}
    {event next : RecoveryEvent} (inside : pre ++ [event, next] <+: log) :
    Allowed native policy ((outage pre).add event) next := by
  have split : pre ++ [event, next] = pre ++ [event] ++ [next] := by simp
  rw [split] at inside
  have allowed := lawful _ _ inside
  rwa [outage_snoc] at allowed

theorem Lawful.contract (lawful : Lawful native policy log) :
    RecoveryContract native policy log where
  numbered pre number trigger inside := by
    cases lawful pre _ inside with
    | attempt numbered bounded after => exact numbered
  bounded pre number trigger n inside most := by
    cases lawful pre _ inside with
    | attempt numbered bounded after => exact bounded n most
  reopened native pre inside forced := by
    cases lawful pre _ inside with
    | started reopens after => exact reopens native forced
  succeeded pre next inside := by
    have allowed := lawful.next inside
    cases allowed with
    | streaming after => rfl
    | _ => simp_all
  exhausted pre error next most inside := by
    have allowed := lawful.next inside
    cases allowed with
    | failed exhausted after =>
        simp only [Outage.last_add, Option.some.injEq, RecoveryEvent.outcome.injEq,
          Except.error.injEq] at after
        rw [after]
    | attempt numbered bounded after =>
        -- the number would be beyond the bound
        have room := bounded _ most
        have same : ((outage pre).add (.outcome (.error error))).attempts =
          (outage pre).attempts := rfl
        omega
    | _ => simp_all
  streams pre inside := by
    cases lawful pre _ inside with
    | streaming after => exact after
  fails pre error inside := by
    cases lawful pre _ inside with
    | failed exhausted after => exact ⟨exhausted, after⟩
  closes pre error next inside := by
    have allowed := lawful.next inside
    cases allowed with
    | closed after => rfl
    | _ => simp_all
  releases pre next inside := by
    have allowed := lawful.next inside
    cases allowed with
    | released after => rfl
    | _ => simp_all
  ends pre next inside := by
    have allowed := lawful.next inside
    cases allowed <;> simp_all

/-- Events that a log has yet to come to whatever else happens. -/
def owed (policy : ReconnectPolicy) (o : Outage) : List RecoveryEvent :=
  match o.last with
  | some (.outcome (.ok _)) => [.announced .streaming]
  | some (.outcome (.error error)) =>
      if policy.maxAttempts = some o.attempts then
        [.announced (.failed error), .closed, .released]
      else []
  | some (.announced (.failed _)) => [.closed, .released]
  | some .closed => [.released]
  | _ => []

end CameraRs.Session
