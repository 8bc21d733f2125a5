/-
What the maximum rate of a receiver lets through.

A frame is compared with the last one that passed the test. That one need not have been
enqueued: a full queue that keeps its frames refuses it after the test.
-/

import CameraRs.Frame.Offers

namespace CameraRs.Frame

inductive RateEvent
  | enqueued (frame : CapturedFrame)
  | limited (frame : CapturedFrame)
  | overflowed (frame : CapturedFrame)

namespace Receiver

def outcome (r : Receiver) (raised : List FlagId) (frame : CapturedFrame) : List RateEvent :=
  if r.listens raised then
    if r.tooEarly frame then [.limited frame]
    else if r.refuses then [.overflowed frame]
    else [.enqueued frame]
  else []

/-- A frame that the rate lets through is refused by the queue. -/
def overflows (r : Receiver) (raised : List FlagId) (frame : CapturedFrame) : Bool :=
  r.listens raised && r.maxRate.isSome && !r.tooEarly frame && r.refuses

variable {r : Receiver} {raised : List FlagId} {frame : CapturedFrame}

theorem outcome_queue {interval : Nat} (limited : r.maxRate = some interval)
    (listening : r.listens raised = true) :
    (r.outcome raised frame = [.enqueued frame] ∧
      (r.offer raised frame).queue.getLast? = some frame) ∨
    (r.outcome raised frame ≠ [.enqueued frame] ∧ (r.offer raised frame).queue = r.queue) := by
  rw [outcome, if_pos listening]
  cases early : r.tooEarly frame with
  | true => exact .inr ⟨by simp, by rw [offer_early listening early]⟩
  | false =>
      rw [offer_late listening early limited]
      cases full : r.refuses with
      | true =>
          refine .inr ⟨by simp, ?_⟩
          rw [enqueue_refused (by exact full)]
      | false => exact .inl ⟨by simp, enqueue_last (by exact full)⟩

theorem tooEarly_iff {interval : Nat} (limited : r.maxRate = some interval) :
    r.tooEarly frame = true ↔
      ∃ previous, r.lastEnqueued = some previous ∧ frame.capturedAt - previous < interval := by
  rw [tooEarly, limited]
  cases r.lastEnqueued with
  | none => simp
  | some previous => simp

end Receiver

def enqueuedFrames (log : List RateEvent) : List CapturedFrame :=
  log.flatMap fun event => match event with
    | .enqueued frame => [frame]
    | _ => []

/-- What happens to frames at receiver `id`; a new one has the latest frame already. -/
def rateEvents (id : ReceiverId) (s : FrameHub) (a : Action) (t : FrameHub) : List RateEvent :=
  match s.receivers[id]? with
  | some r => (published s a t).flatMap (r.outcome s.raised)
  | none => (t.receivers[id]?.elim [] (·.queue)).map .enqueued

/-- The rate is kept, and no frame is limited without a frame that was enqueued for it. -/
structure RateKept (interval : Nat) (log : List RateEvent) : Prop where
  spaced : (enqueuedFrames log).IsChain fun f g => f.capturedAt + interval ≤ g.capturedAt
  limited : ∀ before f after, log = before ++ .limited f :: after →
    ∃ g ∈ enqueuedFrames before, f.capturedAt < g.capturedAt + interval

variable {id : ReceiverId} {interval : Nat} {log : List RateEvent} {last : Option Nat}
  {s t u : FrameHub} {r : Receiver} {frame : CapturedFrame}

theorem enqueuedFrames_append (log later : List RateEvent) :
    enqueuedFrames (log ++ later) = enqueuedFrames log ++ enqueuedFrames later :=
  List.flatMap_append

/-! ### What the limiter remembers -/

/-- The last frame that passed the test was enqueued, and no enqueued frame is later. -/
structure Paced (interval : Nat) (last : Option Nat) (log : List RateEvent) : Prop where
  below : ∀ g ∈ enqueuedFrames log, ∃ p, last = some p ∧ g.capturedAt ≤ p
  backed : ∀ p, last = some p → ∃ g ∈ enqueuedFrames log, g.capturedAt = p
  spaced : (enqueuedFrames log).Pairwise fun f g => f.capturedAt + interval ≤ g.capturedAt
  limited : ∀ before f after, log = before ++ .limited f :: after →
    ∃ g ∈ enqueuedFrames before, f.capturedAt < g.capturedAt + interval

theorem snoc_split {α : Type} {items before after : List α} {item x : α}
    (split : items ++ [item] = before ++ x :: after) :
    items = before ∧ item = x ∨ ∃ rest, items = before ++ x :: rest := by
  rcases List.eq_nil_or_concat after with rfl | ⟨rest, final, rfl⟩
  · obtain ⟨same, last⟩ := List.append_inj' split rfl
    exact .inl ⟨same, List.cons.inj last |>.1⟩
  · right
    rw [List.concat_eq_append, ← List.cons_append, ← List.append_assoc] at split
    exact ⟨rest, (List.append_inj' split rfl).1⟩

namespace Paced

theorem nil (interval : Nat) : Paced interval none [] where
  below _ member := absurd member List.not_mem_nil
  backed _ impossible := by contradiction
  spaced := .nil
  limited before f after split := by
    have long := congrArg List.length split
    simp at long

private theorem limits {p : Nat} (paced : Paced interval (some p) log)
    (early : frame.capturedAt - p < interval) :
    Paced interval (some p) (log ++ [.limited frame]) where
  below := by
    rw [enqueuedFrames_append]
    simpa [enqueuedFrames] using paced.below
  backed := by
    rw [enqueuedFrames_append]
    simpa [enqueuedFrames] using paced.backed
  spaced := by
    rw [enqueuedFrames_append]
    simpa [enqueuedFrames] using paced.spaced
  limited := by
    intro before f after split
    rcases snoc_split split with ⟨rfl, same⟩ | ⟨rest, inside⟩
    · obtain rfl := RateEvent.limited.inj same
      obtain ⟨g, member, at_p⟩ := paced.backed p rfl
      exact ⟨g, member, by omega⟩
    · exact paced.limited before f rest inside

theorem enqueues (paced : Paced interval last log) (positive : 0 < interval)
    (late : ∀ p, last = some p → interval ≤ frame.capturedAt - p) :
    Paced interval (some frame.capturedAt) (log ++ [.enqueued frame]) := by
  have frames : enqueuedFrames (log ++ [.enqueued frame]) = enqueuedFrames log ++ [frame] :=
    enqueuedFrames_append log [.enqueued frame]
  have apart : ∀ g ∈ enqueuedFrames log, g.capturedAt + interval ≤ frame.capturedAt := by
    intro g member
    obtain ⟨p, passed, below⟩ := paced.below g member
    have far := late p passed
    omega
  refine ⟨?_, ?_, ?_, ?_⟩
  · intro g member
    rw [frames] at member
    refine ⟨_, rfl, ?_⟩
    rcases List.mem_append.mp member with old | new
    · have far := apart g old
      omega
    · rw [List.mem_singleton.mp new]
  · intro p passed
    rw [frames]
    exact ⟨frame, List.mem_append_right _ (List.mem_singleton_self _), Option.some.inj passed⟩
  · rw [frames, List.pairwise_append]
    refine ⟨paced.spaced, List.pairwise_singleton _ _, ?_⟩
    intro g member f new
    rw [List.mem_singleton.mp new]
    exact apart g member
  · intro before f after split
    rcases snoc_split split with ⟨_, impossible⟩ | ⟨rest, inside⟩
    · contradiction
    · exact paced.limited before f rest inside

theorem kept (paced : Paced interval last log) : RateKept interval log :=
  ⟨paced.spaced.isChain, paced.limited⟩

theorem offers {raised : List FlagId} (paced : Paced interval r.lastEnqueued log)
    (limit : r.maxRate = some interval) (positive : 0 < interval)
    (spared : r.overflows raised frame = false) :
    Paced interval (r.offer raised frame).lastEnqueued (log ++ r.outcome raised frame) := by
  cases listening : r.listens raised with
  | false =>
      have rate : (r.offer raised frame).lastEnqueued = r.lastEnqueued :=
        congrArg Prod.snd (Receiver.offer_deaf listening).1.rate
      rw [rate, Receiver.outcome, listening, if_neg Bool.false_ne_true, List.append_nil]
      exact paced
  | true =>
      cases early : r.tooEarly frame with
      | true =>
          rw [Receiver.offer_early listening early, Receiver.outcome, if_pos listening,
            if_pos early]
          obtain ⟨p, passed, near⟩ := (Receiver.tooEarly_iff limit).mp early
          rw [passed] at paced ⊢
          exact paced.limits near
      | false =>
          have space : r.refuses = false := by
            simpa [Receiver.overflows, listening, limit, early] using spared
          have late : ∀ p, r.lastEnqueued = some p → interval ≤ frame.capturedAt - p := by
            intro p passed
            apply Nat.le_of_not_lt
            intro near
            have tooEarly := (Receiver.tooEarly_iff limit).mpr ⟨p, passed, near⟩
            rw [early] at tooEarly
            contradiction
          have rate : (r.offer raised frame).lastEnqueued = some frame.capturedAt := by
            rw [Receiver.offer_late listening early limit]
            exact congrArg Prod.snd (Receiver.rate_enqueue _ frame)
          rw [rate, Receiver.outcome, if_pos listening, early, space,
            if_neg Bool.false_ne_true, if_neg Bool.false_ne_true]
          exact paced.enqueues positive late

end Paced

/-! ### Runs -/

/-- No frame that the rate of receiver `id` lets through is refused by its queue. -/
def spares (id : ReceiverId) (s : FrameHub) : Action → Bool
  | .run i env =>
      match s.ops[i]? with
      | some (.finishing job lease _) =>
          !s.isCurrent job.session || s.receivers[id]?.all fun r =>
            !r.overflows s.raised (s.capture job lease env.timestampNs)
      | _ => true
  | _ => true

structure Paces (id : ReceiverId) (s : FrameHub) (log : List RateEvent) : Prop where
  absent : s.receivers[id]? = none → log = []
  paced : ∀ (r : Receiver) (interval : Nat), s.receivers[id]? = some r →
    r.maxRate = some interval → 0 < interval → Paced interval r.lastEnqueued log

theorem Paces.calm (paces : Paces id s log) (calm : Calm s t) {a : Action}
    (silent : published s a t = []) : Paces id t (log ++ rateEvents id s a t) := by
  cases before : s.receivers[id]? with
  | some r =>
      obtain ⟨r', after, loses⟩ := calm.old id r before
      have rate := loses.rate
      have nothing : rateEvents id s a t = [] := by
        rw [rateEvents, before, silent]
        rfl
      rw [nothing, List.append_nil]
      refine ⟨fun absent => ?_, fun q interval present limit positive => ?_⟩
      · rw [after] at absent
        contradiction
      · obtain rfl := Option.some.inj (after.symm.trans present)
        have same : r.lastEnqueued = r'.lastEnqueued := (congrArg Prod.snd rate).symm
        rw [← same]
        exact paces.paced r interval before ((congrArg Prod.fst rate).symm.trans limit) positive
  | none =>
      rw [paces.absent before, List.nil_append, rateEvents, before]
      refine ⟨fun absent => by rw [absent]; rfl, fun r interval present limit positive => ?_⟩
      obtain ⟨_, options, _, rfl⟩ := calm.fresh id r before present
      rw [present]
      cases s.state.latest with
      | none => exact .nil interval
      | some f =>
          exact (Paced.nil interval).enqueues positive (fun p impossible => by contradiction)

theorem Paces.offers (paces : Paces id s log) {a : Action} (offers : Offers s a t frame)
    (spared : spares id s a = true) : Paces id t (log ++ rateEvents id s a t) := by
  cases before : s.receivers[id]? with
  | none =>
      have after : t.receivers[id]? = none := by
        rw [offers.receivers, List.getElem?_map, before]
        rfl
      have nothing : rateEvents id s a t = [] := by
        rw [rateEvents, before, after]
        rfl
      rw [nothing, List.append_nil]
      refine ⟨fun _ => paces.absent before, fun r interval present => ?_⟩
      rw [after] at present
      contradiction
  | some r =>
      have after : t.receivers[id]? = some (r.offer s.raised frame) := by
        rw [offers.receivers, List.getElem?_map, before]
        rfl
      have event : rateEvents id s a t = r.outcome s.raised frame := by
        rw [rateEvents, before, offers.shown]
        exact List.append_nil _
      have room : r.overflows s.raised frame = false := by
        obtain ⟨i, env, job, lease, elapsed, ns, rfl, at_pc, current, rfl⟩ := offers.call
        simp only [spares, at_pc, current, before, Bool.not_true, Bool.false_or,
          Option.all_some, Bool.not_eq_true'] at spared
        exact spared
      rw [event]
      refine ⟨fun absent => ?_, fun q interval present limit positive => ?_⟩
      · rw [after] at absent
        contradiction
      · obtain rfl := Option.some.inj (after.symm.trans present)
        rw [Receiver.offer_maxRate] at limit
        exact (paces.paced r interval before limit positive).offers limit positive room

theorem Paces.step (paces : Paces id s log) {a : Action} (spared : spares id s a = true)
    (taken : s.step a = some t) : Paces id t (log ++ rateEvents id s a t) := by
  rcases step_offers taken with ⟨f, offers⟩ | ⟨silent, calm⟩
  · exact paces.offers offers spared
  · exact paces.calm calm silent

/-- In a run in which the queue of a receiver never refuses a frame that its rate lets
through, the enqueued frames are an interval apart, and each frame that the rate keeps out
comes less than an interval after one that was enqueued. -/
theorem rate_kept {id : ReceiverId}
    (reached : (machine.logged (rateEvents id)).Reachable
      (fun state a => spares id state.1 a = true) (s, log))
    (present : s.receivers[id]? = some r) (limit : r.maxRate = some interval)
    (positive : 0 < interval) : RateKept interval log := by
  have paces : Paces id s log := by
    refine reached.invariant (P := fun state => Paces id state.1 state.2) ?_ ?_
    · rintro ⟨s, log⟩ ⟨⟨capacity, drawn, rfl⟩, rfl⟩
      exact ⟨fun _ => rfl, fun r interval present => by contradiction⟩
    · intro before a after spared taken paces
      obtain ⟨step, logged⟩ := Lib.Machine.logged_step taken
      rw [logged]
      exact paces.step spared step
  exact (paces.paced r interval present limit positive).kept

/-- A receiver with a queue of one frame that it keeps, at one frame in 10 ns. -/
def subscribingSlow : List Action :=
  [Action.call .start] ++ List.replicate 4 (Action.run 0 {}) ++
  [Action.call (.subscribe { delivery := .buffered 1 .dropNewest, maxRate := some 10 }),
    .run 1 {}, .run 1 {}]

def limitedFrames (log : List RateEvent) : List CapturedFrame :=
  log.flatMap fun event => match event with
    | .limited frame => [frame]
    | _ => []

theorem RateKept.near (kept : RateKept interval log) {f : CapturedFrame}
    (member : f ∈ limitedFrames log) :
    ∃ g ∈ enqueuedFrames log, f.capturedAt < g.capturedAt + interval := by
  obtain ⟨event, logged, inside⟩ := List.mem_flatMap.mp member
  cases event with
  | limited frame =>
      obtain rfl := List.mem_singleton.mp inside
      obtain ⟨before, after, rfl⟩ := List.append_of_mem logged
      obtain ⟨g, enqueued, near⟩ := kept.limited before f after rfl
      refine ⟨g, ?_, near⟩
      rw [enqueuedFrames_append]
      exact List.mem_append_left _ enqueued
  | enqueued frame => contradiction
  | overflowed frame => contradiction

theorem logged_new (capacity : Nat) :
    (machine.logged (rateEvents id)).initial (FrameHub.new capacity, []) :=
  ⟨machine_new capacity, rfl⟩

theorem rate_kept_early :
    ∃ s log, (limitedFrames log).map (·.capturedAt) = [3] ∧ RateKept 10 log ∧
      (machine.logged (rateEvents 0)).Reachable (fun state a => spares 0 state.1 a = true)
        (s, log) := by
  have passed : (((machine.logged (rateEvents 0)).exec (fun state a => spares 0 state.1 a)
      (FrameHub.new 6, []) (subscribingSlow ++ publishingCall 2 ++ [Action.tick 3] ++
        publishingCall 3)).any fun state =>
      decide ((limitedFrames state.2).map (·.capturedAt) = [3]) &&
        state.1.receivers[0]?.any fun r => decide (r.maxRate = some 10)) = true := by
    decide +kernel
  obtain ⟨⟨s, log⟩, reached, passed⟩ :=
    Lib.Machine.Reachable.of_exec (logged_new 6) passed
  obtain ⟨early, passed⟩ := Bool.and_eq_true_iff.mp passed
  obtain ⟨r, present, limit⟩ := (Option.any_eq_true _ _).mp passed
  exact ⟨s, log, of_decide_eq_true early,
    rate_kept reached present (of_decide_eq_true limit) (by decide), reached⟩

/-- A frame that the full queue refuses is remembered: eleven ns after the only enqueued
frame another one is kept out. -/
def refusingFirst : List Action :=
  subscribingSlow ++ publishingCall 2 ++ [Action.tick 10] ++ publishingCall 3 ++
  [Action.next 0, .tick 1] ++
    publishingCall 4

theorem rate_not_always_kept :
    ¬ ∀ (s : FrameHub) (log : List RateEvent) (r : Receiver) (interval : Nat),
      (machine.logged (rateEvents 0)).Reachable Lib.Machine.anything (s, log) →
      s.receivers[0]? = some r → r.maxRate = some interval → 0 < interval →
      RateKept interval log := by
  intro kept
  have passed : (((machine.logged (rateEvents 0)).exec (fun _ _ => true)
      (FrameHub.new 6, []) refusingFirst).any fun state =>
      decide ((limitedFrames state.2).map (·.capturedAt) = [11] ∧
          (enqueuedFrames state.2).map (·.capturedAt) = [0]) &&
        state.1.receivers[0]?.any fun r => decide (r.maxRate = some 10)) = true := by
    decide +kernel
  obtain ⟨⟨s, log⟩, reached, passed⟩ :=
    Lib.Machine.Reachable.of_exec (logged_new 6) passed
  obtain ⟨times, passed⟩ := Bool.and_eq_true_iff.mp passed
  obtain ⟨r, present, limit⟩ := (Option.any_eq_true _ _).mp passed
  obtain ⟨limited, enqueued⟩ := of_decide_eq_true times
  have anyhow := reached.mono fun _ _ _ => (trivial : Lib.Machine.anything _ _)
  have rate := kept s log r 10 anyhow present (of_decide_eq_true limit) (by decide)
  have first : 11 ∈ (limitedFrames log).map (·.capturedAt) := by
    rw [limited]
    exact List.mem_singleton_self 11
  obtain ⟨f, member, at_eleven⟩ := List.mem_map.mp first
  obtain ⟨g, before, near⟩ := rate.near member
  have at_zero := List.mem_map_of_mem (f := (·.capturedAt)) before
  rw [enqueued, List.mem_singleton] at at_zero
  omega

end CameraRs.Frame
