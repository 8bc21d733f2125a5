/-
What one call adds to the counters.

While its session is current, an input drop is counted as received and dropped, and a call that
publishes is counted as received and as one of published, failed or dropped. A call whose input
is refused before a buffer is taken is not counted at all.
-/

import CameraRs.Frame.Malformed

namespace CameraRs.Frame

/-- What the accesses of a call added to the counters of received frames and of what became
of them. -/
structure Ledger where
  received : Nat := 0
  published : Nat := 0
  conversionErrors : Nat := 0
  poolDrops : Nat := 0
deriving DecidableEq

def ledger (i : OpId) (log : List Event) : Ledger where
  received := grown (·.received) i log
  published := grown (·.published) i log
  conversionErrors := grown (·.conversionErrors) i log
  poolDrops := grown (·.poolDrops) i log

namespace Ledger

def add (l : Ledger) (before after : FrameMetrics) : Ledger where
  received := l.received + (after.received - before.received)
  published := l.published + (after.published - before.published)
  conversionErrors := l.conversionErrors + (after.conversionErrors - before.conversionErrors)
  poolDrops := l.poolDrops + (after.poolDrops - before.poolDrops)

@[simp] theorem add_same (l : Ledger) (metrics : FrameMetrics) : l.add metrics metrics = l := by
  simp [add]

def zero : Ledger := {}

def reserved : Ledger := { received := 1 }

def publication : Ledger := { received := 1, published := 1 }

def failure : Ledger := { received := 1, conversionErrors := 1 }

def drop : Ledger := { received := 1, poolDrops := 1 }

/-- The frame is counted once, and as one thing. -/
def settled (l : Ledger) : Bool :=
  decide (l = publication) || decide (l = failure) || decide (l = drop)

end Ledger

/-- How far a publishing call of session `k` is, and what it has counted. -/
def Pc.Publishes (k : Nat) (passes : Bool) (l : Ledger) : Pc → Prop
  | .reserveLook job =>
      job.session = k ∧ job.fill ≠ .lease ∧ l = .zero ∧
        passes = (frameLength job.layout job.rgb).isOk
  | .reservePool job _ => job.session = k ∧ job.fill ≠ .lease ∧ l = .zero ∧ passes = true
  | .converting job _ | .finishing job _ _ | .measuring job _ _ =>
      job.session = k ∧ job.fill ≠ .lease ∧ l = .reserved ∧ passes = true
  | .recordLook session activity failed | .recordCharge session activity failed =>
      session = k ∧ activity = false ∧ failed.isSome = true ∧ l = .reserved ∧ passes = true
  | .recordWake failed => failed.isSome = true ∧ l = .failure ∧ passes = true
  | .releasing _ (.published (.ok true)) => l = .publication ∧ passes = true
  | .releasing _ (.published (.error _)) => l = .failure ∧ passes = true
  | .returned (.published (.ok true)) => l = .publication ∧ passes = true
  | .returned (.published (.ok false)) => l = .drop ∧ passes = true
  | .returned (.published (.error _)) =>
      l = .failure ∧ passes = true ∨ l = .zero ∧ passes = false
  | _ => False

def Pc.Drops (k : Nat) (l : Ledger) : Pc → Prop
  | .dropLook session | .dropCharge session => session = k ∧ l = .zero
  | .returned _ => l = .drop
  | _ => False

/-- How far a call of session `k` is, if it hands in a frame. -/
def Call.Books (k : Nat) (call : Call) (l : Ledger) (pc : Pc) : Prop :=
  (call = .recordInputDrop k → pc.Drops k l) ∧
  (call.publishes = some k → pc.Publishes k call.passes l)

variable {s t : FrameHub} {a : Action} {log : List Event} {i : OpId} {pc after : Pc}
  {k : Nat} {call : Call} {passes : Bool} {l : Ledger}

/-! ### One access -/

theorem recorded_publishes {failed : Option (Lease × CameraError)} (some : failed.isSome = true) :
    (FrameHub.recorded failed).Publishes k true .failure := by
  obtain ⟨⟨lease, error⟩, rfl⟩ := Option.isSome_iff_exists.mp some
  exact ⟨rfl, rfl⟩

private theorem exhausted_publishes {job : Job} (fill : job.fill ≠ .lease) :
    job.exhausted.Publishes k true .drop := by
  unfold Job.exhausted
  split
  · next held => exact absurd held fill
  · exact ⟨rfl, rfl⟩

private theorem released_publishes {lease : Lease} {answer : Answer}
    (books : (Pc.releasing lease answer).Publishes k passes l) :
    (Pc.returned answer).Publishes k passes l := by
  cases answer with
  | published result =>
      cases result with
      | error error => exact .inl books
      | ok published =>
          cases published with
          | true => exact books
          | false => exact False.elim books
  | _ => exact False.elim books

theorem current_session (current : s.isCurrent k = true) : s.state.session = k := by
  unfold FrameHub.isCurrent at current
  simpa using (Bool.and_eq_true_iff.mp current).2

private theorem converting_kept {env : Env} {job : Job} {lease : Lease} {answer : Answer}
    (fill : job.fill ≠ .lease)
    (taken : s.callStep env (.converting job lease) = some (t, after)) :
    after ≠ .releasing lease answer := by
  simp only [FrameHub.callStep, FrameHub.publishStep, FrameHub.convert] at taken
  rintro rfl
  split at taken <;> (try split at taken) <;> simp_all

theorem start_publishes {job : Job} {checked : CameraResult Unit} (session : job.session = k)
    (fill : job.fill ≠ .lease)
    (same : passes = (checked.isOk && (frameLength job.layout job.rgb).isOk)) :
    (job.start checked).Publishes k passes .zero := by
  cases checked with
  | error error => exact .inr ⟨rfl, same⟩
  | ok _ => exact ⟨session, fill, rfl, same⟩

private theorem entry_publishes (now : Nat) (carries : call.publishes = some k) :
    (call.entry now).Publishes k call.passes .zero := by
  cases call with
  | publishRgb session width height ns =>
      exact ⟨Option.some.inj carries, by simp, rfl, rfl⟩
  | publishRgbMetadata session width height timestamp sequence =>
      exact ⟨Option.some.inj carries, by simp, rfl, rfl⟩
  | publishNativeInto session layout timestamp =>
      refine start_publishes (Option.some.inj carries) (by simp) ?_
      rw [Call.passes]
      cases planeExtent layout <;> rfl
  | publishNative session layout timestamp sequence parts =>
      exact start_publishes (Option.some.inj carries) (by simp) rfl
  | _ => contradiction

theorem Pc.Publishes.step {env : Env} (books : pc.Publishes k passes l)
    (current : s.isCurrent k = true) (taken : s.callStep env pc = some (t, after)) :
    after.Publishes k passes (l.add s.pool.metrics t.pool.metrics) := by
  have access := FrameHub.callStep_access taken
  cases access with
  | @lookRefused job stale =>
      rw [books.1, current] at stale
      cases stale
  | @lookTooLong job error long =>
      obtain ⟨-, -, rfl, passed⟩ := books
      rw [long] at passed
      rw [Ledger.add_same]
      exact .inr ⟨rfl, passed⟩
  | @lookPassed job length _ fits =>
      obtain ⟨session, fill, rfl, passed⟩ := books
      rw [fits] at passed
      rw [Ledger.add_same]
      exact ⟨session, fill, rfl, passed⟩
  | @poolRefused job length stale =>
      rw [books.1, current] at stale
      cases stale
  | @reserved job length raced unlocked _ =>
      obtain ⟨session, fill, rfl, rfl⟩ := books
      obtain ⟨lease, goes, metrics⟩ | ⟨goes, metrics⟩ := s.reserve_metrics raced job length
      · rw [goes, metrics]
        refine ⟨session, fill, ?_, rfl⟩
        simp [Ledger.add, Ledger.zero, Ledger.reserved, Pool.receive]
      · rw [goes, metrics]
        have counted : Ledger.zero.add s.pool.metrics (s.pool.receive s.clock).dropFrame.metrics =
            .drop := by
          simp [Ledger.add, Ledger.zero, Ledger.drop, Pool.receive, Pool.dropFrame]
        rw [counted]
        exact exhausted_publishes fill
  | wrote bytes size =>
      rw [FrameHub.write, Ledger.add_same]
      exact books
  | stamped timestamp =>
      rw [Ledger.add_same]
      exact books
  | failed =>
      obtain ⟨session, -, rfl, passed⟩ := books
      rw [Ledger.add_same]
      exact ⟨session, rfl, rfl, rfl, passed⟩
  | filled fill copied =>
      rw [FrameHub.write, Ledger.add_same]
      exact books
  | converted fill =>
      rw [Ledger.add_same]
      exact books
  | abandoned => exact absurd rfl (converting_kept books.2.1 taken)
  | @delivered job lease elapsed ns _ =>
      have kept : (s.deliver (s.capture job lease ns)).pool = s.pool := rfl
      rw [kept, Ledger.add_same]
      exact books
  | @late job lease elapsed stale =>
      rw [books.1, current] at stale
      cases stale
  | @measured job lease elapsed unlocked same =>
      obtain ⟨-, -, rfl, passed⟩ := books
      refine ⟨?_, passed⟩
      simp [Ledger.add, Ledger.reserved, Ledger.publication, FrameHub.setPool, Pool.measure]
  | @unmeasured job lease elapsed different =>
      have same : s.state.session = k := current_session current
      rw [books.1] at different
      exact absurd same different
  | @released lease answer unlocked =>
      rw [FrameHub.setPool, Pool.release, Ledger.add_same]
      exact released_publishes books
  | recordPassed _ =>
      rw [Ledger.add_same]
      exact books
  | @recordRefused session activity failed =>
      -- the session is current, so the recorder goes on
      obtain ⟨rfl, -⟩ := books
      simp [FrameHub.callStep, FrameHub.recordStep, current] at taken
      cases failed <;> simp [FrameHub.recorded] at taken
  | @charged session activity failed _ unlocked goes =>
      obtain ⟨-, rfl, some, rfl, rfl⟩ := books
      have counted : Ledger.reserved.add s.pool.metrics
          (s.setPool (s.pool.chargeError false s.clock)).pool.metrics = .failure := by
        simp [Ledger.add, Ledger.reserved, Ledger.failure, FrameHub.setPool, Pool.chargeError]
      rw [counted]
      obtain rfl | rfl := goes
      · exact ⟨some, rfl, rfl⟩
      · exact recorded_publishes some
  | @woken failed =>
      obtain ⟨some, rfl, rfl⟩ := books
      rw [FrameHub.wakeRecovery, Ledger.add_same]
      exact recorded_publishes some
  | _ => exact False.elim books

theorem Pc.Drops.step {env : Env} (books : pc.Drops k l) (current : s.isCurrent k = true)
    (taken : s.callStep env pc = some (t, after)) :
    after.Drops k (l.add s.pool.metrics t.pool.metrics) := by
  have access := FrameHub.callStep_access taken
  cases access with
  | dropPassed same =>
      rw [Ledger.add_same]
      exact books
  | @dropRefused session =>
      obtain ⟨rfl, -⟩ := books
      simp [FrameHub.callStep, FrameHub.recordStep, current_session current] at taken
  | dropCharged unlocked =>
      obtain ⟨-, rfl⟩ := books
      simp [Pc.Drops, Ledger.add, Ledger.zero, Ledger.drop, FrameHub.setPool, Pool.receive,
        Pool.dropFrame]
  | _ => exact False.elim books

theorem Call.Books.step {env : Env} (books : call.Books k l pc) (current : s.isCurrent k = true)
    (taken : s.callStep env pc = some (t, after)) :
    call.Books k (l.add s.pool.metrics t.pool.metrics) after :=
  ⟨fun drops => (books.1 drops).step current taken,
    fun carries => (books.2 carries).step current taken⟩

private theorem entry_books (now : Nat) : call.Books k .zero (call.entry now) :=
  ⟨by rintro rfl; exact ⟨rfl, rfl⟩, entry_publishes now⟩

theorem returned_settled {answer : Answer} (books : (Pc.returned answer).Publishes k passes l) :
    l.settled = passes := by
  cases answer with
  | published result =>
      cases result with
      | error error =>
          obtain ⟨rfl, rfl⟩ | ⟨rfl, rfl⟩ := books
          · rfl
          · rfl
      | ok published =>
          cases published with
          | true =>
              obtain ⟨rfl, rfl⟩ := books
              rfl
          | false =>
              obtain ⟨rfl, rfl⟩ := books
              rfl
  | _ => exact False.elim books

theorem step_stays_returned {answer : Answer} (taken : s.step a = some t)
    (there : s.ops[i]? = some (.returned answer)) : t.ops[i]? = some (.returned answer) := by
  cases a with
  | call call =>
      obtain rfl := Option.some.inj taken
      have inside := (List.getElem?_eq_some_iff.mp there).1
      rw [FrameHub.getElem?_append_ops, if_neg (Nat.ne_of_lt inside), there]
  | run j env =>
      obtain ⟨pc, u, after, at_pc, made, rfl⟩ := step_call taken
      rw [FrameHub.getElem?_set_ops at_pc]
      by_cases own : i = j
      · subst own
        obtain rfl := Option.some.inj (there.symm.trans at_pc)
        cases made
      · rw [if_neg own, there]
  | _ => rw [outside_ops (step_stepped taken) (by simp) (by simp), there]

theorem step_ops_length (taken : s.step a = some t) : s.ops.length ≤ t.ops.length := by
  cases a with
  | call call =>
      obtain rfl := Option.some.inj taken
      simp
  | run j env =>
      obtain ⟨pc, u, after, at_pc, made, rfl⟩ := step_call taken
      rw [List.length_set]
  | _ => rw [outside_ops (step_stepped taken) (by simp) (by simp)]

/-! ### The history of the calls -/

private theorem ledger_access {meaning : List Outcome} {before after : FrameMetrics} :
    ledger i (log ++ [.access i meaning before after]) = (ledger i log).add before after := by
  simp [ledger, grown_snoc, Ledger.add, Event.op, Event.grown]

theorem ledger_other {event : Event} (other : event.op ≠ some i) :
    ledger i (log ++ [event]) = ledger i log := by
  simp [ledger, grown_snoc, other]

/-- Calls that are not made yet have counted nothing; those that were made are booked. -/
structure Ledgers (k : Nat) (s : FrameHub) (log : List Event) : Prop where
  fresh : ∀ i, s.ops.length ≤ i → ledger i log = .zero
  placed : ∀ i call, .called i call ∈ log →
    ∃ pc, s.ops[i]? = some pc ∧ call.Books k (ledger i log) pc

namespace Ledgers

theorem nil : Ledgers k s [] where
  fresh _ _ := rfl
  placed _ _ member := by simp at member

theorem called (ledgers : Ledgers k s log) (call : Call) :
    Ledgers k { s with ops := s.ops ++ [call.entry s.clock] }
      (log ++ [.called s.ops.length call]) where
  fresh i beyond := by
    rw [List.length_append, List.length_singleton] at beyond
    rw [ledger_other (by simp [Event.op]), ledgers.fresh i (by omega)]
  placed i other member := by
    rw [ledger_other (by simp [Event.op]), FrameHub.getElem?_append_ops]
    obtain old | new := List.mem_append.mp member
    · obtain ⟨pc, at_pc, books⟩ := ledgers.placed i other old
      have inside := (List.getElem?_eq_some_iff.mp at_pc).1
      exact ⟨pc, by rw [if_neg (Nat.ne_of_lt inside), at_pc], books⟩
    · obtain ⟨rfl, rfl⟩ := Event.called.inj (List.mem_singleton.mp new)
      refine ⟨_, if_pos rfl, ?_⟩
      rw [ledgers.fresh _ (Nat.le_refl _)]
      exact entry_books s.clock

theorem ran {j : OpId} {env : Env} {meaning : List Outcome} (ledgers : Ledgers k s log)
    (current : s.isCurrent k = true) (at_pc : s.ops[j]? = some pc)
    (taken : s.callStep env pc = some (t, after)) :
    Ledgers k { t with ops := s.ops.set j after }
      (log ++ [.access j meaning s.pool.metrics t.pool.metrics]) where
  fresh i beyond := by
    rw [List.length_set] at beyond
    have inside := (List.getElem?_eq_some_iff.mp at_pc).1
    have other : j ≠ i := Nat.ne_of_lt (Nat.lt_of_lt_of_le inside beyond)
    rw [ledger_other (by simpa [Event.op] using other), ledgers.fresh i beyond]
  placed i call member := by
    have earlier : .called i call ∈ log := by simpa using member
    obtain ⟨here, at_here, books⟩ := ledgers.placed i call earlier
    rw [FrameHub.getElem?_set_ops at_pc]
    by_cases own : j = i
    · subst own
      obtain rfl := Option.some.inj (at_pc.symm.trans at_here)
      rw [ledger_access]
      exact ⟨after, if_pos rfl, books.step current taken⟩
    · rw [ledger_other (by simpa [Event.op] using own)]
      exact ⟨here, by rw [if_neg (Ne.symm own), at_here], books⟩

theorem step (ledgers : Ledgers k s log) (current : s.isCurrent k = true)
    (taken : s.step a = some t) : Ledgers k t (log ++ events s a t) := by
  cases a with
  | call call =>
      obtain rfl := Option.some.inj taken
      exact ledgers.called call
  | run j env =>
      obtain ⟨pc, u, after, at_pc, made, rfl⟩ := step_call taken
      exact ledgers.ran current at_pc made
  | _ =>
      have same := outside_ops (step_stepped taken) (by simp) (by simp)
      change Ledgers k t (log ++ [])
      rw [List.append_nil]
      exact ⟨by rw [same]; exact ledgers.fresh, by rw [same]; exact ledgers.placed⟩

theorem dropped (ledgers : Ledgers k s log) (made : .called i (.recordInputDrop k) ∈ log)
    {answer : Answer} (returned : s.ops[i]? = some (.returned answer)) :
    ledger i log = .drop := by
  obtain ⟨pc, at_pc, books⟩ := ledgers.placed i _ made
  obtain rfl := Option.some.inj (returned.symm.trans at_pc)
  exact books.1 rfl

theorem published (ledgers : Ledgers k s log) (carries : call.publishes = some k)
    (made : .called i call ∈ log) {answer : Answer}
    (returned : s.ops[i]? = some (.returned answer)) :
    (ledger i log).settled = call.passes := by
  obtain ⟨pc, at_pc, books⟩ := ledgers.placed i _ made
  obtain rfl := Option.some.inj (returned.symm.trans at_pc)
  exact returned_settled (books.2 carries)

end Ledgers

end CameraRs.Frame
