/-
Which malformed frames are counted.

A publishing call checks its input before it takes a buffer, and then converts. An error
of the converter is counted for the epoch; an error of a check is only returned.
-/

import CameraRs.Frame.Bursts
import Mathlib.Algebra.BigOperators.Group.List.Basic

namespace CameraRs.Frame

deriving instance DecidableEq for Call

def Call.publishes : Call → Option Nat
  | .publishRgb session _ _ _ | .publishRgbMetadata session _ _ _ _
  | .publishNativeInto session _ _ | .publishNative session _ _ _ _ => some session
  | _ => none

/-- The input passes every check that is made before a buffer is taken. -/
def Call.passes : Call → Bool
  | .publishRgb _ width height _ | .publishRgbMetadata _ width height _ _ =>
      (frameLength (.rgb width height) true).isOk
  | .publishNativeInto _ layout _ =>
      (planeExtent layout).any (fun length => (layout.validate length).isOk) &&
        (frameLength layout false).isOk
  | .publishNative _ layout _ _ parts =>
      (checkParts layout parts).isOk && (frameLength layout false).isOk
  | _ => true

inductive Event
  | called (i : OpId) (call : Call)
  | access (i : OpId) (meaning : List Outcome) (before after : FrameMetrics)

def events (s : FrameHub) (a : Action) (t : FrameHub) : List Event :=
  match a with
  | .call call => [.called s.ops.length call]
  | .run i _ => [.access i (outcomes s a t) s.pool.metrics t.pool.metrics]
  | _ => []

namespace Event

def outcomes : Event → List Outcome
  | .called _ _ => []
  | .access _ meaning _ _ => meaning

def op : Event → Option OpId
  | .called _ _ => none
  | .access i _ _ _ => some i

/-- By how much an access raises a counter. -/
def grown (count : FrameMetrics → Nat) : Event → Nat
  | .called _ _ => 0
  | .access _ _ before after => count after - count before

end Event

/-- By how much the accesses of call `i` raise a counter. -/
def grown (count : FrameMetrics → Nat) (i : OpId) (log : List Event) : Nat :=
  (log.map fun event => if event.op = some i then event.grown count else 0).sum

/-- A malformed frame is counted: received, failed, and one more in the burst. -/
structure CountedOnce (i : OpId) (log : List Event) : Prop where
  received : grown (·.received) i log = 1
  conversionErrors : grown (·.conversionErrors) i log = 1
  consecutive : grown (·.consecutiveConversionErrors) i log = 1

/-- Call `f.1` published a frame of session `k` and returned an error. -/
structure Refused (t : FrameHub) (log : List Event) (k : Nat) (f : OpId × Call) : Prop where
  called : .called f.1 f.2 ∈ log
  carries : f.2.publishes = some k
  returned : ∃ error, t.ops[f.1]? = some (.returned (.published (.error error)))

/-- Session `k` is current and active at each access of the calls. -/
def carriesCurrent (k : Nat) (calls : List (OpId × Call)) (state : FrameHub × List Event)
    (a : Action) : Prop :=
  ∀ f ∈ calls, ∀ env, a = .run f.1 env → state.1.isCurrent k = true

variable {s t : FrameHub} {a : Action} {log : List Event} {i : OpId} {pc after : Pc}
  {k : Nat} {call : Call} {passes : Bool}

/-! ### The accesses of one call -/

/-- What the accesses of a call added to three counters. -/
structure Growth where
  received : Nat
  conversionErrors : Nat
  consecutive : Nat

def growth (i : OpId) (log : List Event) : Growth where
  received := grown (·.received) i log
  conversionErrors := grown (·.conversionErrors) i log
  consecutive := grown (·.consecutiveConversionErrors) i log

namespace Growth

def add (g : Growth) (before after : FrameMetrics) : Growth where
  received := g.received + (after.received - before.received)
  conversionErrors := g.conversionErrors + (after.conversionErrors - before.conversionErrors)
  consecutive := g.consecutive +
    (after.consecutiveConversionErrors - before.consecutiveConversionErrors)

@[simp] theorem add_same (g : Growth) (metrics : FrameMetrics) : g.add metrics metrics = g := by
  simp [add]

def zero : Growth := ⟨0, 0, 0⟩

def reserved : Growth := ⟨1, 0, 0⟩

def failed : Growth := ⟨1, 1, 1⟩

end Growth

/-- How far a publishing call of session `k` is, and what it has counted. -/
def Pc.Stage (k : Nat) (passes : Bool) (g : Growth) : Pc → Prop
  | .reserveLook job =>
      job.session = k ∧ job.fill ≠ .lease ∧ g = .zero ∧
        passes = (frameLength job.layout job.rgb).isOk
  | .reservePool job _ => job.session = k ∧ job.fill ≠ .lease ∧ g = .zero ∧ passes = true
  | .converting job _ => job.session = k ∧ job.fill ≠ .lease ∧ g = .reserved ∧ passes = true
  | .finishing _ _ _ | .measuring _ _ _ => True
  | .recordLook session activity failed | .recordCharge session activity failed =>
      session = k ∧ activity = false ∧ failed.isSome = true ∧ g = .reserved ∧ passes = true
  | .recordWake failed => failed.isSome = true ∧ g = .failed ∧ passes = true
  | .releasing _ (.published (.error _)) => g = .failed ∧ passes = true
  | .returned (.published (.error _)) =>
      g = .failed ∧ passes = true ∨ g = .zero ∧ passes = false
  | .releasing _ _ | .returned _ => True
  | _ => False

theorem exhausted_stage {job : Job} {g : Growth} (fill : job.fill ≠ .lease) :
    job.exhausted.Stage k passes g := by
  unfold Job.exhausted
  split
  · contradiction
  · trivial

theorem recorded_stage {failed : Option (Lease × CameraError)} (some : failed.isSome = true) :
    (FrameHub.recorded failed).Stage k true .failed := by
  obtain ⟨⟨lease, error⟩, rfl⟩ := Option.isSome_iff_exists.mp some
  exact ⟨rfl, rfl⟩

theorem start_stage {job : Job} {checked : CameraResult Unit} (session : job.session = k)
    (fill : job.fill ≠ .lease)
    (same : passes = (checked.isOk && (frameLength job.layout job.rgb).isOk)) :
    (job.start checked).Stage k passes .zero := by
  cases checked with
  | error error => exact .inr ⟨rfl, same⟩
  | ok _ => exact ⟨session, fill, rfl, same⟩

private theorem entry_stage (now : Nat) (carries : call.publishes = some k) :
    (call.entry now).Stage k call.passes .zero := by
  cases call with
  | publishRgb session width height ns =>
      exact ⟨Option.some.inj carries, by simp, rfl, rfl⟩
  | publishRgbMetadata session width height timestamp sequence =>
      exact ⟨Option.some.inj carries, by simp, rfl, rfl⟩
  | publishNativeInto session layout timestamp =>
      refine start_stage (Option.some.inj carries) (by simp) ?_
      rw [Call.passes]
      cases planeExtent layout <;> rfl
  | publishNative session layout timestamp sequence parts =>
      exact start_stage (Option.some.inj carries) (by simp) rfl
  | _ => contradiction

private theorem released_stage {lease : Lease} {answer : Answer} {g : Growth}
    (stage : (Pc.releasing lease answer).Stage k passes g) :
    (Pc.returned answer).Stage k passes g := by
  cases answer with
  | published result =>
      cases result with
      | ok _ => trivial
      | error error => exact .inl stage
  | _ => trivial

theorem Pc.Stage.step {env : Env} {g : Growth} (stage : pc.Stage k passes g)
    (current : s.isCurrent k = true) (taken : s.callStep env pc = some (t, after)) :
    after.Stage k passes (g.add s.pool.metrics t.pool.metrics) := by
  have access := FrameHub.callStep_access taken
  cases access with
  | lookRefused stale => exact exhausted_stage stage.2.1
  | @lookTooLong job error long =>
      obtain ⟨-, -, rfl, passed⟩ := stage
      rw [long] at passed
      rw [Growth.add_same]
      exact .inr ⟨rfl, passed⟩
  | @lookPassed job length _ fits =>
      obtain ⟨session, fill, rfl, passed⟩ := stage
      rw [fits] at passed
      rw [Growth.add_same]
      exact ⟨session, fill, rfl, passed⟩
  | poolRefused stale => exact exhausted_stage stage.2.1
  | @reserved job length raced unlocked _ =>
      obtain ⟨session, fill, rfl, passed⟩ := stage
      rcases s.reserve_metrics raced job length with ⟨lease, goes, metrics⟩ | ⟨goes, metrics⟩
      · rw [goes, metrics]
        refine ⟨session, fill, ?_, passed⟩
        simp [Growth.add, Growth.zero, Growth.reserved, Pool.receive]
      · rw [goes]
        exact exhausted_stage fill
  | wrote bytes size =>
      rw [FrameHub.write, Growth.add_same]
      exact stage
  | stamped timestamp =>
      rw [Growth.add_same]
      exact stage
  | failed =>
      obtain ⟨session, -, rfl, passed⟩ := stage
      rw [Growth.add_same]
      exact ⟨session, rfl, rfl, rfl, passed⟩
  | filled fill copied => trivial
  | converted fill => trivial
  | abandoned => trivial
  | delivered ns current => trivial
  | late stale => trivial
  | measured unlocked same => trivial
  | unmeasured different => trivial
  | @released lease answer unlocked =>
      rw [FrameHub.setPool, Pool.release, Growth.add_same]
      exact released_stage stage
  | recordPassed _ =>
      rw [Growth.add_same]
      exact stage
  | @recordRefused session activity failed =>
      -- the session is current, so the recorder goes on
      obtain ⟨rfl, -⟩ := stage
      simp [FrameHub.callStep, FrameHub.recordStep, current] at taken
      cases failed <;> simp [FrameHub.recorded] at taken
  | @charged session activity failed _ unlocked goes =>
      obtain ⟨-, rfl, some, rfl, rfl⟩ := stage
      have grown : Growth.reserved.add s.pool.metrics
          (s.setPool (s.pool.chargeError false s.clock)).pool.metrics = .failed := by
        simp [Growth.add, Growth.reserved, Growth.failed, FrameHub.setPool, Pool.chargeError]
      rw [grown]
      rcases goes with rfl | rfl
      · exact ⟨some, rfl, rfl⟩
      · exact recorded_stage some
  | @woken failed =>
      obtain ⟨some, rfl, rfl⟩ := stage
      rw [FrameHub.wakeRecovery, Growth.add_same]
      exact recorded_stage some
  | _ => exact False.elim stage

/-! ### The history of one call -/

theorem grown_snoc (count : FrameMetrics → Nat) (event : Event) :
    grown count i (log ++ [event]) =
      grown count i log + if event.op = some i then event.grown count else 0 := by
  simp [grown]

private theorem growth_access {meaning : List Outcome} {before after : FrameMetrics} :
    growth i (log ++ [.access i meaning before after]) = (growth i log).add before after := by
  simp [growth, grown_snoc, Growth.add, Event.op, Event.grown]

theorem growth_other {event : Event} (other : event.op ≠ some i) :
    growth i (log ++ [event]) = growth i log := by
  simp [growth, grown_snoc, other]

theorem outside_ops (stepped : Stepped s a t) (idle : ∀ call, a ≠ .call call)
    (other : ∀ i env, a ≠ .run i env) : t.ops = s.ops := by
  cases stepped with
  | called call => exact absurd rfl (idle call)
  | @ran i env => exact absurd rfl (other i env)
  | consumed consumed => rw [consumed.keeps]
  | _ => rfl

/-- A call that is not made yet has no history; a call that was made is at some stage. -/
structure Traced (k : Nat) (i : OpId) (call : Call) (s : FrameHub) (log : List Event) :
    Prop where
  fresh : s.ops.length ≤ i → growth i log = .zero ∧ .called i call ∉ log
  placed : .called i call ∈ log →
    ∃ pc, s.ops[i]? = some pc ∧ pc.Stage k call.passes (growth i log)

namespace Traced

theorem called (traced : Traced k i call s log) (carries : call.publishes = some k)
    (other : Call) : Traced k i call { s with ops := s.ops ++ [other.entry s.clock] }
      (log ++ [.called s.ops.length other]) where
  fresh beyond := by
    rw [List.length_append, List.length_singleton] at beyond
    obtain ⟨none, absent⟩ := traced.fresh (by omega)
    rw [growth_other (by simp [Event.op])]
    refine ⟨none, fun member => ?_⟩
    rcases List.mem_append.mp member with old | new
    · exact absent old
    · have here := (Event.called.inj (List.mem_singleton.mp new)).1
      exact absurd here (Nat.ne_of_gt beyond)
  placed member := by
    rw [growth_other (by simp [Event.op]), FrameHub.getElem?_append_ops]
    rcases List.mem_append.mp member with old | new
    · obtain ⟨pc, at_pc, stage⟩ := traced.placed old
      have inside := (List.getElem?_eq_some_iff.mp at_pc).1
      exact ⟨pc, by rw [if_neg (Nat.ne_of_lt inside), at_pc], stage⟩
    · obtain ⟨rfl, rfl⟩ := Event.called.inj (List.mem_singleton.mp new)
      refine ⟨_, if_pos rfl, ?_⟩
      rw [(traced.fresh (Nat.le_refl _)).1]
      exact entry_stage s.clock carries

theorem ran {j : OpId} {env : Env} {meaning : List Outcome} (traced : Traced k i call s log)
    (current : j = i → s.isCurrent k = true) (at_pc : s.ops[j]? = some pc)
    (taken : s.callStep env pc = some (t, after)) :
    Traced k i call { t with ops := s.ops.set j after }
      (log ++ [.access j meaning s.pool.metrics t.pool.metrics]) where
  fresh beyond := by
    rw [List.length_set] at beyond
    obtain ⟨none, absent⟩ := traced.fresh beyond
    have inside := (List.getElem?_eq_some_iff.mp at_pc).1
    have other : j ≠ i := Nat.ne_of_lt (Nat.lt_of_lt_of_le inside beyond)
    rw [growth_other (by simpa [Event.op] using other)]
    exact ⟨none, by simpa using absent⟩
  placed member := by
    have earlier : .called i call ∈ log := by simpa using member
    obtain ⟨here, at_here, stage⟩ := traced.placed earlier
    rw [FrameHub.getElem?_set_ops at_pc]
    by_cases own : j = i
    · subst own
      obtain rfl := Option.some.inj (at_pc.symm.trans at_here)
      rw [growth_access]
      exact ⟨after, if_pos rfl, stage.step (current rfl) taken⟩
    · rw [growth_other (by simpa [Event.op] using own)]
      exact ⟨here, by rw [if_neg (Ne.symm own), at_here], stage⟩

private theorem unmoved (traced : Traced k i call s log) (ops : t.ops = s.ops) :
    Traced k i call t log where
  fresh := by
    rw [ops]
    exact traced.fresh
  placed := by
    rw [ops]
    exact traced.placed

theorem step (traced : Traced k i call s log) (carries : call.publishes = some k)
    (current : ∀ env, a = .run i env → s.isCurrent k = true) (taken : s.step a = some t) :
    Traced k i call t (log ++ events s a t) := by
  cases a with
  | call other =>
      obtain rfl := Option.some.inj taken
      exact traced.called carries other
  | run j env =>
      obtain ⟨pc, u, after, at_pc, made, rfl⟩ := step_call taken
      refine traced.ran ?_ at_pc made
      rintro rfl
      exact current env rfl
  | _ =>
      change Traced k i call t (log ++ [])
      rw [List.append_nil]
      exact traced.unmoved (outside_ops (step_stepped taken) (by simp) (by simp))

end Traced

theorem refused_growth {f : OpId × Call} (traced : Traced k f.1 f.2 t log)
    (refused : Refused t log k f) :
    growth f.1 log = .failed ∧ f.2.passes = true ∨ growth f.1 log = .zero ∧ f.2.passes = false := by
  obtain ⟨pc, at_pc, stage⟩ := traced.placed refused.called
  obtain ⟨error, returned⟩ := refused.returned
  obtain rfl := Option.some.inj (returned.symm.trans at_pc)
  exact stage

private theorem refused_counted {f : OpId × Call} (traced : Traced k f.1 f.2 t log)
    (refused : Refused t log k f) : CountedOnce f.1 log ↔ f.2.passes = true := by
  rcases refused_growth traced refused with ⟨failed, passed⟩ | ⟨zero, kept⟩
  · have counted : CountedOnce f.1 log :=
      ⟨congrArg Growth.received failed, congrArg Growth.conversionErrors failed,
        congrArg Growth.consecutive failed⟩
    simp [counted, passed]
  · constructor
    · intro counted
      have none : grown (·.received) f.1 log = 0 := congrArg Growth.received zero
      rw [counted.received] at none
      contradiction
    · intro passed
      rw [kept] at passed
      contradiction

/-! ### A burst of refused calls -/

private theorem grown_by_calls {ids : List OpId} (count : FrameMetrics → Nat) (distinct : ids.Nodup)
    (alone : ∀ event ∈ log, event.grown count ≠ 0 → ∃ i ∈ ids, event.op = some i) :
    (log.map (·.grown count)).sum = (ids.map fun i => grown count i log).sum := by
  induction log with
  | nil => simp [grown]
  | cons event rest ih =>
      have share : (ids.map fun i => if event.op = some i then event.grown count else 0).sum =
          event.grown count := by
        by_cases idle : event.grown count = 0
        · simp [idle]
        · obtain ⟨i, member, own⟩ := alone event (List.mem_cons_self ..) idle
          rw [List.sum_map_eq_nsmul_single i, if_pos own, List.count_eq_one_of_mem distinct member,
            one_nsmul]
          intro j different _
          rw [own, if_neg (fun same => different (Option.some.inj same).symm)]
      have later := ih fun event member => alone event (List.mem_cons_of_mem _ member)
      simp only [grown, List.map_cons, List.sum_cons, List.sum_map_add] at later ⊢
      rw [share, later]

/-- Nothing in the history ends a burst. -/
def Successive (log : List Event) : Prop :=
  ∀ event ∈ log, ∀ outcome ∈ event.outcomes, outcome.clears = false

private theorem foldl_consecutive {outcomes : List Outcome}
    (keeps : ∀ outcome ∈ outcomes, outcome.clears = false) (tally : Tally) :
    tally.consecutive ≤ (outcomes.foldl Tally.add tally).consecutive := by
  induction outcomes generalizing tally with
  | nil => exact Nat.le_refl _
  | cons outcome rest ih =>
      have first : tally.consecutive ≤ (tally.add outcome).consecutive := by
        have inside := keeps outcome (List.mem_cons_self ..)
        cases outcome <;> simp_all [Tally.add, Outcome.clears]
      have later := ih (fun o member => keeps o (List.mem_cons_of_mem _ member)) (tally.add outcome)
      exact Nat.le_trans first later

private theorem consecutive_step (taken : s.step a = some t) (keeps : Successive (events s a t)) :
    t.pool.metrics.consecutiveConversionErrors = s.pool.metrics.consecutiveConversionErrors +
      ((events s a t).map (·.grown (·.consecutiveConversionErrors))).sum := by
  cases a with
  | run i env =>
      have moved := congrArg Tally.consecutive (step_tally taken)
      have bound := foldl_consecutive (keeps _ (List.mem_singleton_self _)) s.tally
      simp only [Event.outcomes] at bound
      rw [← moved] at bound
      simp only [events, List.map_cons, List.map_nil, List.sum_cons, List.sum_nil,
        Event.grown, FrameHub.tally] at bound ⊢
      omega
  | call call =>
      obtain rfl := Option.some.inj taken
      rfl
  | _ => exact congrArg Tally.consecutive (outside_tally (step_stepped taken) (by simp))

/-- What a run of the machine with its history keeps. -/
structure Followed (k : Nat) (calls : List (OpId × Call)) (s t : FrameHub) (log : List Event) :
    Prop where
  traced : ∀ f ∈ calls, f.2.publishes = some k → Traced k f.1 f.2 t log
  consecutive : Successive log → t.pool.metrics.consecutiveConversionErrors =
    s.pool.metrics.consecutiveConversionErrors +
      (log.map (·.grown (·.consecutiveConversionErrors))).sum

variable {calls : List (OpId × Call)} {actions : List Action}

private theorem followed_run
    (run : (machine.logged events).Run (carriesCurrent k calls) (s, []) actions (t, log)) :
    Followed k calls s t log := by
  refine run.preserves (P := fun state => Followed k calls s state.1 state.2) ?_ ?_
  · intro before a after current taken followed
    obtain ⟨step, logged⟩ := Lib.Machine.logged_step taken
    rw [logged]
    constructor
    · intro f member carries
      exact (followed.traced f member carries).step carries (current f member) step
    · intro keeps
      have earlier := followed.consecutive fun event inside =>
        keeps event (List.mem_append_left _ inside)
      have last := consecutive_step step fun event inside =>
        keeps event (List.mem_append_right _ inside)
      rw [last, earlier, List.map_append, List.sum_append, Nat.add_assoc]
  · constructor
    · intro f member _
      exact ⟨fun _ => ⟨rfl, List.not_mem_nil⟩, fun called => absurd called List.not_mem_nil⟩
    · intro _
      rfl

private theorem sum_passes (calls : List (OpId × Call)) :
    (calls.map fun f => if f.2.passes then 1 else 0).sum = calls.countP (·.2.passes) := by
  induction calls with
  | nil => rfl
  | cons f rest ih =>
      rw [List.map_cons, List.sum_cons, ih, List.countP_cons, Nat.add_comm]

theorem refused_burst (followed : Followed k calls s t log) (distinct : (calls.map (·.1)).Nodup)
    (refused : ∀ f ∈ calls, Refused t log k f) (successive : Successive log)
    (alone : ∀ event ∈ log, event.grown (·.consecutiveConversionErrors) ≠ 0 →
      ∃ f ∈ calls, event.op = some f.1) :
    t.pool.metrics.consecutiveConversionErrors =
      s.pool.metrics.consecutiveConversionErrors + calls.countP (·.2.passes) := by
  have share : ∀ f ∈ calls, grown (·.consecutiveConversionErrors) f.1 log =
      if f.2.passes then 1 else 0 := by
    intro f member
    have traced := followed.traced f member (refused f member).carries
    rcases refused_growth traced (refused f member) with ⟨failed, passed⟩ | ⟨zero, kept⟩
    · rw [passed, if_pos rfl]
      exact congrArg Growth.consecutive failed
    · rw [kept, if_neg Bool.false_ne_true]
      exact congrArg Growth.consecutive zero
  have total := @grown_by_calls log (calls.map (·.1)) (·.consecutiveConversionErrors) distinct (by
    intro event member grows
    obtain ⟨f, inside, own⟩ := alone event member grows
    exact ⟨f.1, List.mem_map_of_mem inside, own⟩)
  rw [followed.consecutive successive, total, List.map_map, ← sum_passes,
    ← List.map_congr_left share]
  rfl

/-- Nothing but the calls adds to a burst of errors that nothing ends and that begins with
the first of them. -/
structure OnlyBurst (calls : List (OpId × Call)) (s : FrameHub) (log : List Event) : Prop where
  begins : s.pool.metrics.consecutiveConversionErrors = 0
  successive : Successive log
  alone : ∀ event ∈ log, event.grown (·.consecutiveConversionErrors) ≠ 0 →
    ∃ f ∈ calls, event.op = some f.1

/-- Publishing calls of session `k` that return errors, in any interleaving with other
calls: each of them is counted if and only if its input passes the checks that are made
before a buffer is taken. Eight in a row trigger recovery if and only if all eight pass. -/
theorem malformed_counted
    (run : (machine.logged events).Run (carriesCurrent k calls) (s, []) actions (t, log))
    (distinct : (calls.map (·.1)).Nodup) (refused : ∀ f ∈ calls, Refused t log k f) :
    (∀ f ∈ calls, CountedOnce f.1 log ↔ f.2.passes = true) ∧
    (OnlyBurst calls s log → calls.length = 8 → t.state.active = true → ∀ timeout,
      ((∃ n, t.recoveryTrigger timeout = some (.frameErrors n)) ↔
        ∀ f ∈ calls, f.2.passes = true)) := by
  have followed := followed_run run
  refine ⟨fun f member => ?_, fun burst eight active timeout => ?_⟩
  · exact refused_counted (followed.traced f member (refused f member).carries) (refused f member)
  · have consecutive := refused_burst followed distinct refused burst.successive burst.alone
    rw [burst.begins, Nat.zero_add] at consecutive
    have most : calls.countP (·.2.passes) ≤ calls.length := List.countP_le_length
    have threshold : frameErrorRecoveryThreshold = calls.length := eight.symm
    simp only [trigger_errors active, exists_eq_left, consecutive, threshold]
    rw [← List.countP_eq_length]
    omega

/-! ### Concrete bursts -/

def Event.begins (f : OpId × Call) : Event → Bool
  | .called i call => i == f.1 && call == f.2
  | .access _ _ _ _ => false

def Pc.errs : Pc → Bool
  | .returned (.published (.error _)) => true
  | _ => false

theorem refused_of_test {f : OpId × Call} (carries : f.2.publishes = some k)
    (tested : (log.any (Event.begins f) && t.ops[f.1]?.any Pc.errs) = true) :
    Refused t log k f := by
  obtain ⟨called, returned⟩ := Bool.and_eq_true_iff.mp tested
  obtain ⟨event, member, begins⟩ := List.any_eq_true.mp called
  obtain ⟨pc, at_pc, errs⟩ := (Option.any_eq_true _ _).mp returned
  refine ⟨?_, carries, ?_⟩
  · cases event with
    | called i call =>
        obtain ⟨number, same⟩ := Bool.and_eq_true_iff.mp begins
        rw [← eq_of_beq number, ← eq_of_beq same]
        exact member
    | access => contradiction
  · rw [at_pc]
    cases pc with
    | returned answer =>
        cases answer with
        | published result =>
            cases result with
            | error error => exact ⟨error, rfl⟩
            | ok _ => contradiction
        | _ => contradiction
    | _ => contradiction

def starting : List Action := [Action.call .start] ++ List.replicate 4 (Action.run 0 {})

/-- Call `i` converts a frame of session 1 and fails. -/
def failing (i : OpId) : List Action :=
  [.call (.publishRgb 1 1 1 none), .run i {}, .run i {},
    .run i { choice := .fail .streamStopped }, .run i {}, .run i {}, .run i {}]

def failedCalls : List (OpId × Call) :=
  (List.range 8).map fun n => (n + 1, .publishRgb 1 1 1 none)

def onlyBurstTest (calls : List (OpId × Call)) (log : List Event) : Bool :=
  log.all (fun event => event.outcomes.all (!·.clears)) &&
  log.all fun event => event.grown (·.consecutiveConversionErrors) == 0 ||
    calls.any fun f => event.op == some f.1

private theorem onlyBurst_of_test (begins : s.pool.metrics.consecutiveConversionErrors = 0)
    (tested : onlyBurstTest calls log = true) : OnlyBurst calls s log := by
  obtain ⟨successive, alone⟩ := Bool.and_eq_true_iff.mp tested
  refine ⟨begins, fun event member outcome inside => ?_, fun event member grows => ?_⟩
  · have kept := List.all_eq_true.mp (List.all_eq_true.mp successive event member) outcome inside
    simpa using kept
  · have own := List.all_eq_true.mp alone event member
    rw [beq_false_of_ne grows, Bool.false_or] at own
    obtain ⟨f, called, same⟩ := List.any_eq_true.mp own
    exact ⟨f, called, eq_of_beq same⟩

theorem carries_while {state : FrameHub × List Event} (current : state.1.isCurrent k = true) :
    carriesCurrent k calls state a := fun _ _ _ _ => current

theorem malformed_counted_eight :
    ∃ (t : FrameHub) (log : List Event), (∀ f ∈ failedCalls, CountedOnce f.1 log) ∧
      ∃ n, t.recoveryTrigger 1 = some (.frameErrors n) := by
  have passed : ((machine.exec (fun _ _ => true) (FrameHub.new 6) starting).any fun s =>
      decide (s.pool.metrics.consecutiveConversionErrors = 0) &&
      ((machine.logged events).exec (fun state _ => state.1.isCurrent 1) (s, [])
        (failing 1 ++ failing 2 ++ failing 3 ++ failing 4 ++ failing 5 ++ failing 6 ++
          failing 7 ++ failing 8 ++ [.run 8 {}])).any fun state =>
        state.1.state.active && onlyBurstTest failedCalls state.2 &&
          failedCalls.all fun f =>
            state.2.any (Event.begins f) && state.1.ops[f.1]?.any Pc.errs) = true := by
    decide +kernel
  obtain ⟨s, _, passed⟩ := Lib.Machine.run_of_passed passed
  obtain ⟨begins, passed⟩ := Bool.and_eq_true_iff.mp passed
  obtain ⟨⟨t, log⟩, run, passed⟩ := Lib.Machine.run_of_passed passed
  obtain ⟨passed, returned⟩ := Bool.and_eq_true_iff.mp passed
  obtain ⟨active, alone⟩ := Bool.and_eq_true_iff.mp passed
  have carried : ∀ f ∈ failedCalls, f.2.publishes = some 1 := by decide
  have accepted : ∀ f ∈ failedCalls, f.2.passes = true := by decide
  obtain ⟨counted, triggered⟩ := malformed_counted
    (run.mono fun _ _ current => carries_while current) (by decide) fun f member =>
      refused_of_test (carried f member) (List.all_eq_true.mp returned f member)
  have burst := onlyBurst_of_test (of_decide_eq_true begins) alone
  exact ⟨t, log, fun f member => (counted f member).mpr (accepted f member),
    (triggered burst rfl active 1).mpr accepted⟩

/-- A frame of session 1 whose payload has no bytes. -/
def truncated : OpId × Call := (1, .publishNative 1 (.rgb 1 1) none none [[]])

theorem not_always_counted :
    ¬ ∀ (s t : FrameHub) (log : List Event) (actions : List Action) (k : Nat)
      (f : OpId × Call), machine.Reachable Lib.Machine.anything s → s.isCurrent k = true →
      (machine.logged events).Run (fun state _ => state.1.isCurrent k = true)
        (s, []) actions (t, log) →
      Refused t log k f → CountedOnce f.1 log := by
  intro always
  have passed : ((machine.exec (fun _ _ => true) (FrameHub.new 6) starting).any fun s =>
      s.isCurrent 1 &&
      ((machine.logged events).exec (fun state _ => state.1.isCurrent 1) (s, [])
        [.call truncated.2]).any fun state =>
        decide (grown (·.received) 1 state.2 = 0) &&
          (state.2.any (Event.begins truncated) && state.1.ops[1]?.any Pc.errs)) = true := by
    decide +kernel
  obtain ⟨s, reached, passed⟩ := Lib.Machine.Reachable.of_exec (machine_new 6) passed
  obtain ⟨current, passed⟩ := Bool.and_eq_true_iff.mp passed
  obtain ⟨⟨t, log⟩, run, passed⟩ := Lib.Machine.run_of_passed passed
  obtain ⟨nothing, returned⟩ := Bool.and_eq_true_iff.mp passed
  have refused : Refused t log 1 truncated := refused_of_test rfl returned
  have anyhow := reached.mono fun _ _ _ => (trivial : Lib.Machine.anything _ _)
  have counted := always s t log _ 1 truncated anyhow current run refused
  have none : grown (·.received) 1 log = 0 := of_decide_eq_true nothing
  have once := counted.received.symm.trans none
  contradiction

end CameraRs.Frame
