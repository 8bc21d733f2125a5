/-
What the queue of a subscriber does with the frames of one epoch.

A receiver without a maximum rate has a bounded queue of the frames that are
published while it is subscribed. `next` takes from it, publication puts into it,
and `dropped` counts what it loses.
-/

import CameraRs.Frame.Epoch
import CameraRs.Lib.BoundedQueue

/-- Which frames stay in the queue of a subscriber. -/
def CameraRs.DeliveryPolicy.policy : CameraRs.DeliveryPolicy → CameraRs.Lib.QueuePolicy
  | .latest => ⟨1, .keepNewest⟩
  | .buffered capacity .dropOldest => ⟨capacity, .keepNewest⟩
  | .buffered capacity .dropNewest => ⟨capacity, .keepFirst⟩

namespace CameraRs.Frame

open Lib (BoundedQueue QueueCall QueuePolicy)

private theorem validate_capacity {options : SubscriptionOptions} {budget : MemoryBudget}
    (valid : options.validate budget = .ok ()) : 0 < options.delivery.policy.capacity := by
  unfold SubscriptionOptions.validate at valid
  split at valid
  · next capacity overflow same =>
      split at valid
      · contradiction
      · next fits =>
          have positive : 0 < capacity := by omega
          rw [same]
          cases overflow <;> exact positive
  · next same =>
      rw [same]
      exact Nat.one_pos

theorem Receiver.enqueue_keeps {r : Receiver} {frame : CapturedFrame}
    (room : 0 < r.delivery.policy.capacity)
    (fits : r.queue.length ≤ r.delivery.policy.capacity) :
    r.enqueue frame = { r with
      queue := r.delivery.policy.keep (r.queue ++ [frame])
      dropped := r.dropped + (r.queue.length + 1 - r.delivery.policy.capacity) } := by
  unfold enqueue
  split
  · next delivery =>
      simp only [delivery, DeliveryPolicy.policy, QueuePolicy.keep] at fits ⊢
      cases inside : r.queue with
      | nil => rfl
      | cons head rest =>
          rw [inside, List.length_cons] at fits
          obtain rfl := List.length_eq_zero_iff.mp (Nat.le_zero.mp (Nat.le_of_succ_le_succ fits))
          rfl
  · next capacity overflow delivery =>
      cases overflow with
      | dropNewest =>
          simp only [delivery, DeliveryPolicy.policy, QueuePolicy.keep] at fits room ⊢
          split
          · next full =>
              have same : r.queue.length = capacity := Nat.le_antisymm fits full
              rw [← same, List.take_left, Nat.add_sub_cancel_left]
          · next space =>
              have all : (r.queue ++ [frame]).take capacity = r.queue ++ [frame] := by
                apply List.take_of_length_le
                rw [List.length_append, List.length_singleton]
                omega
              have none : r.queue.length + 1 - capacity = 0 := by omega
              rw [all, none, Nat.add_zero]
      | dropOldest =>
          simp only [delivery, DeliveryPolicy.policy, QueuePolicy.keep, List.length_append,
            List.length_singleton] at fits room ⊢
          split
          · next full =>
              have one : r.queue.length + 1 - capacity = 1 := by omega
              have inside : r.queue ≠ [] := by
                rintro empty
                rw [empty, List.length_nil] at full
                omega
              rw [one, List.drop_one, List.tail_append_of_ne_nil inside]
          · next space =>
              have none : r.queue.length + 1 - capacity = 0 := by omega
              rw [none, List.drop_zero, Nat.add_zero]

/-! ### What is seen of a receiver -/

/-- A publication, or a look of the receiver and what `next` gave it. -/
inductive Seen
  | published (frame : CapturedFrame)
  | looked (found : Option CapturedFrame)

def Seen.call : Seen → QueueCall CapturedFrame
  | .published frame => .put frame
  | .looked _ => .take

/-- The frames that `next` has returned. -/
def delivered (log : List Seen) : List CapturedFrame :=
  log.flatMap fun seen => match seen with
    | .published _ => []
    | .looked found => found.toList

def publications (log : List Seen) : List CapturedFrame :=
  log.flatMap fun seen => match seen with
    | .published frame => [frame]
    | .looked _ => []

/-- A look that `next` answers; `StreamStopped` takes nothing. -/
def looked (id : ReceiverId) (s : FrameHub) : Action → List Seen
  | .next receiver =>
      if receiver = id then
        match s.receivers[id]? with
        | some r =>
            match (s.next id r).1 with
            | .ok found => [.looked found]
            | .error _ => []
        | none => []
      else []
  | _ => []

def observed (id : ReceiverId) (s : FrameHub) (a : Action) (t : FrameHub) : List Seen :=
  (published s a t).map .published ++ looked id s a

/-- A call that goes on without ending the epoch, and without giving the receiver a
stop flag that has been raised. -/
def Pc.stays (id : ReceiverId) (raised : List FlagId) : Pc → Bool
  | .startClear _ | .startReplace _ _ _ | .stopClear | .stopDeactivate => false
  | .ownerClear receiver flag | .ownerSet receiver flag =>
      receiver != id || !raised.contains flag
  | _ => true

/-- Actions within one epoch, while the receiver exists and its session is not
stopping. -/
def within (id : ReceiverId) (s : FrameHub) : Action → Bool
  | .run i _ => s.ops[i]?.all (Pc.stays id s.raised)
  | .close receiver => receiver != id
  | .raise flag => s.receivers[id]?.all fun r => r.owner != some flag
  | _ => true

/-- The order of frames of one session. -/
def Earlier (f g : CapturedFrame) : Prop :=
  f.key.session = g.key.session ∧ f.key.sequence < g.key.sequence

def queueCalls (first : Option CapturedFrame) (log : List Seen) :
    List (QueueCall CapturedFrame) :=
  first.toList.map .put ++ log.map Seen.call

def queueOf (options : SubscriptionOptions) (first : Option CapturedFrame) (log : List Seen) :
    BoundedQueue CapturedFrame options.delivery.policy :=
  BoundedQueue.run _ (queueCalls first log)

/-- The frames there were for the receiver. -/
def offered (first : Option CapturedFrame) (log : List Seen) : List CapturedFrame :=
  first.toList ++ publications log

variable {id : ReceiverId} {options : SubscriptionOptions} {first : Option CapturedFrame}
  {s t : FrameHub} {log : List Seen} {r : Receiver} {frame : CapturedFrame}

theorem puts_queueCalls (first : Option CapturedFrame) (log : List Seen) :
    QueueCall.puts (queueCalls first log) = offered first log := by
  have later : QueueCall.puts (log.map Seen.call) = publications log := by
    induction log with
    | nil => rfl
    | cons seen rest ih =>
        cases seen with
        | published frame => exact congrArg (frame :: ·) ih
        | looked found => exact ih
  rw [queueCalls, QueueCall.puts_append, later]
  cases first <;> rfl

theorem queueOf_snoc (seen : Seen) :
    queueOf options first (log ++ [seen]) = (queueOf options first log).call seen.call := by
  rw [queueOf, queueCalls, List.map_append, ← List.append_assoc]
  exact BoundedQueue.run_snoc _ _ _

theorem offered_published :
    offered first (log ++ [.published frame]) = offered first log ++ [frame] := by
  simp [offered, publications]

theorem offered_looked (found : Option CapturedFrame) :
    offered first (log ++ [.looked found]) = offered first log := by
  simp [offered, publications]

/-! ### What a receiver keeps to -/

/-- The receiver and its bounded queue agree. -/
structure Serves (options : SubscriptionOptions) (first : Option CapturedFrame)
    (log : List Seen) (raised : List FlagId) (r : Receiver) : Prop where
  alive : r.alive = true
  registered : r.registered = true
  unlimited : r.maxRate = none
  delivery : r.delivery = options.delivery
  owner : r.owner.any raised.contains = false
  queue : r.queue = (queueOf options first log).items
  dropped : r.dropped = (queueOf options first log).lost
  delivered : delivered log = (queueOf options first log).taken
  last : r.last = (Frame.delivered log).getLast?.map (·.key)

structure Tracked (id : ReceiverId) (options : SubscriptionOptions)
    (first : Option CapturedFrame) (s : FrameHub) (log : List Seen) : Prop where
  receiver : ∃ r, s.receivers[id]? = some r ∧ Serves options first log s.raised r
  ordered : (offered first log).Pairwise Earlier
  newest : (offered first log).getLast? = s.state.latest
  current : ∀ f ∈ offered first log, f.key.session = s.state.session

theorem Serves.ordered (serves : Serves options first log s.raised r)
    (ordered : (offered first log).Pairwise Earlier) :
    (Frame.delivered log ++ r.queue).Pairwise Earlier := by
  have inside := BoundedQueue.run_sublist options.delivery.policy (queueCalls first log)
  rw [puts_queueCalls] at inside
  rw [serves.delivered, serves.queue]
  exact ordered.sublist inside

theorem Tracked.keep (tracked : Tracked id options first s log)
    (session : t.state.session = s.state.session) (latest : t.state.latest = s.state.latest)
    (kept : ∀ r, s.receivers[id]? = some r → r.owner.any s.raised.contains = false →
      ∃ owner, t.receivers[id]? = some { r with owner := owner } ∧
        owner.any t.raised.contains = false) :
    Tracked id options first t log := by
  obtain ⟨r, present, serves⟩ := tracked.receiver
  obtain ⟨owner, there, free⟩ := kept r present serves.owner
  refine ⟨⟨_, there, ?_⟩, tracked.ordered, ?_, ?_⟩
  · exact ⟨serves.alive, serves.registered, serves.unlimited, serves.delivery, free,
      serves.queue, serves.dropped, serves.delivered, serves.last⟩
  · rw [latest]
    exact tracked.newest
  · rw [session]
    exact tracked.current

theorem Tracked.same (tracked : Tracked id options first s log)
    (session : t.state.session = s.state.session) (latest : t.state.latest = s.state.latest)
    (raised : t.raised = s.raised)
    (receiver : t.receivers[id]? = s.receivers[id]?) : Tracked id options first t log := by
  refine tracked.keep session latest fun r present free => ⟨r.owner, ?_, ?_⟩
  · rw [receiver, present]
  · rw [raised]
    exact free

/-! ### Publication -/

theorem Serves.offer (room : 0 < options.delivery.policy.capacity) {raised : List FlagId}
    (serves : Serves options first log raised r) :
    Serves options first (log ++ [.published frame]) raised (r.offer raised frame) := by
  have accepted : r.offer raised frame = r.enqueue frame := by
    simp [Receiver.offer, Receiver.tooEarly, serves.alive, serves.registered, serves.owner,
      serves.unlimited]
  have fits : r.queue.length ≤ r.delivery.policy.capacity := by
    rw [serves.queue, serves.delivery]
    exact (queueOf options first log).bounded
  rw [← serves.delivery] at room
  rw [accepted, Receiver.enqueue_keeps room fits]
  have none : Frame.delivered (log ++ [.published frame]) = Frame.delivered log := by
    simp [Frame.delivered]
  refine ⟨serves.alive, serves.registered, serves.unlimited, serves.delivery, serves.owner,
    ?_, ?_, ?_, ?_⟩
  · rw [queueOf_snoc, serves.queue, serves.delivery]
    rfl
  · rw [queueOf_snoc, serves.queue, serves.delivery, serves.dropped]
    rfl
  · rw [queueOf_snoc, none]
    exact serves.delivered
  · rw [none]
    exact serves.last

private theorem last_or_earlier {α : Type} {R : α → α → Prop} {items : List α} {x last : α}
    (ordered : items.Pairwise R) (ends : items.getLast? = some last) (member : x ∈ items) :
    x = last ∨ R x last := by
  obtain ⟨before, rfl⟩ := List.getLast?_eq_some_iff.mp ends
  rcases List.mem_append.mp member with old | same
  · exact .inr ((List.pairwise_append.mp ordered).2.2 x old last (List.mem_singleton_self last))
  · exact .inl (List.mem_singleton.mp same)

theorem Tracked.deliver (room : 0 < options.delivery.policy.capacity)
    (tracked : Tracked id options first s log) {job : Job} {lease : Lease} {ns : Nat}
    (current : s.isCurrent job.session = true) :
    Tracked id options first (s.deliver (s.capture job lease ns))
      (log ++ [.published (s.capture job lease ns)]) := by
  have session : job.session = s.state.session := by
    simp only [FrameHub.isCurrent, Bool.and_eq_true, beq_iff_eq] at current
    exact current.2.symm
  obtain ⟨r, present, serves⟩ := tracked.receiver
  refine ⟨⟨r.offer s.raised _, ?_, serves.offer room⟩, ?_, ?_, ?_⟩
  · simp [FrameHub.deliver, present]
  · rw [offered_published, List.pairwise_append]
    refine ⟨tracked.ordered, List.pairwise_singleton _ _, ?_⟩
    intro f member g new
    rw [List.mem_singleton.mp new]
    refine ⟨(tracked.current f member).trans session.symm, ?_⟩
    -- the newest frame so far gives the next sequence number
    cases latest : s.state.latest with
    | none =>
        have empty := tracked.newest
        rw [latest, List.getLast?_eq_none_iff] at empty
        rw [empty] at member
        contradiction
    | some g =>
        have sequence : (s.capture job lease ns).key.sequence = g.key.sequence + 1 := by
          simp [FrameHub.capture, latest]
        rw [sequence]
        have newest := tracked.newest
        rw [latest] at newest
        rcases last_or_earlier tracked.ordered newest member with rfl | earlier
        · exact Nat.lt_succ_self _
        · exact Nat.lt_succ_of_lt earlier.2
  · rw [offered_published, List.getLast?_concat]
    rfl
  · intro f member
    rw [offered_published] at member
    rcases List.mem_append.mp member with old | new
    · exact tracked.current f old
    · rw [List.mem_singleton.mp new]
      exact session

/-! ### `next` -/

theorem Tracked.wants (tracked : Tracked id options first s log)
    (serves : Serves options first log s.raised r) {f : CapturedFrame} (queued : f ∈ r.queue) :
    r.wanted s.state.session f = true := by
  have ordered := serves.ordered tracked.ordered
  have offer : f ∈ offered first log := by
    have inside := BoundedQueue.run_sublist options.delivery.policy (queueCalls first log)
    rw [puts_queueCalls] at inside
    apply inside.subset
    rw [serves.queue] at queued
    exact List.mem_append_right _ queued
  have different : some f.key ≠ r.last := by
    rw [serves.last]
    intro same
    obtain ⟨g, last, keys⟩ := Option.map_eq_some_iff.mp same.symm
    have earlier := (List.pairwise_append.mp ordered).2.2 g (List.mem_of_getLast? last) f queued
    have less : g.key.sequence < f.key.sequence := earlier.2
    rw [keys] at less
    exact Nat.lt_irrefl _ less
  simp [Receiver.wanted, different, tracked.current f offer]

theorem Serves.pop (tracked : Tracked id options first s log)
    (serves : Serves options first log s.raised r) :
    Serves options first (log ++ [.looked (r.pop s.state.session).2]) s.raised
      (r.pop s.state.session).1 := by
  cases inside : r.queue with
  | nil =>
      have popped : r.pop s.state.session = (r, none) := by
        rw [Receiver.pop, inside, List.dropWhile_nil]
        simp [← inside]
      have items : (queueOf options first log).items = [] := by rw [← serves.queue, inside]
      have same : queueOf options first (log ++ [.looked none]) = queueOf options first log := by
        rw [queueOf_snoc]
        exact BoundedQueue.take_nil _ items
      have nothing : Frame.delivered (log ++ [.looked none]) = Frame.delivered log := by
        simp [Frame.delivered]
      rw [popped]
      refine ⟨serves.alive, serves.registered, serves.unlimited, serves.delivery, serves.owner,
        ?_, ?_, ?_, ?_⟩
      · rw [same]
        exact serves.queue
      · rw [same]
        exact serves.dropped
      · rw [same, nothing]
        exact serves.delivered
      · rw [nothing]
        exact serves.last
  | cons f rest =>
      have wanted := tracked.wants serves (f := f) (by rw [inside]; exact List.mem_cons_self ..)
      have popped : r.pop s.state.session =
          ({ r with queue := rest, last := some f.key }, some f) := by
        rw [Receiver.pop, inside, List.dropWhile_cons_of_neg (by simp [wanted])]
      have items : (queueOf options first log).items = f :: rest := by
        rw [← serves.queue, inside]
      obtain ⟨left, taken, lost⟩ := BoundedQueue.take_cons _ items
      have gave : Frame.delivered (log ++ [.looked (some f)]) = Frame.delivered log ++ [f] := by
        simp [Frame.delivered]
      rw [popped]
      refine ⟨serves.alive, serves.registered, serves.unlimited, serves.delivery, serves.owner,
        ?_, ?_, ?_, ?_⟩
      · rw [queueOf_snoc]
        exact left.symm
      · rw [queueOf_snoc]
        exact serves.dropped.trans lost.symm
      · rw [queueOf_snoc, gave, serves.delivered]
        exact taken.symm
      · rw [gave, List.getLast?_concat]
        rfl

/-! ### Steps within the epoch -/

private theorem looked_run {i : OpId} {env : Env} : looked id s (.run i env) = [] := rfl

theorem Tracked.silent (tracked : Tracked id options first t log) {a : Action}
    (quiet : observed id s a t = []) :
    Tracked id options first t (log ++ observed id s a t) := by
  rw [quiet, List.append_nil]
  exact tracked

theorem Tracked.next (tracked : Tracked id options first s log) {receiver : ReceiverId}
    (taken : s.step (.next receiver) = some t) :
    Tracked id options first t (log ++ looked id s (.next receiver)) := by
  simp only [FrameHub.step, FrameHub.consumerStep] at taken
  split at taken
  · next q present =>
      split at taken
      · obtain rfl := Option.some.inj taken
        unfold FrameHub.next
        by_cases same : receiver = id
        · subst same
          obtain ⟨r, here, serves⟩ := tracked.receiver
          obtain rfl := Option.some.inj (present.symm.trans here)
          simp only [looked, if_pos, present, FrameHub.next]
          split
          · simpa using tracked
          · dsimp only
            refine ⟨⟨_, ?_, serves.pop tracked⟩, ?_, ?_, ?_⟩
            · rw [List.getElem?_set_self (List.getElem?_eq_some_iff.mp present).1]
            · rw [offered_looked]
              exact tracked.ordered
            · rw [offered_looked]
              exact tracked.newest
            · rw [offered_looked]
              exact tracked.current
        · rw [looked, if_neg same, List.append_nil]
          split
          · exact tracked
          · refine tracked.same rfl rfl rfl ?_
            exact List.getElem?_set_ne same
      · contradiction
  · contradiction

theorem Tracked.access (room : 0 < options.delivery.policy.capacity)
    (tracked : Tracked id options first s log) {i : OpId} {env : Env} {pc after : Pc}
    (at_pc : s.ops[i]? = some pc) (access : Access s pc t after)
    (stays : pc.stays id s.raised = true) {u : FrameHub}
    (moved : u = { t with ops := s.ops.set i after }) :
    Tracked id options first u (log ++ (published s (.run i env) u).map .published) := by
  have state : u.state = t.state := by rw [moved]
  rcases access.published at_pc state with
    ⟨f, delivers, same⟩ | ⟨silent, same⟩
  · rw [same, moved]
    cases delivers with
    | @intro job lease elapsed ns current captured =>
        have delivered := @Tracked.deliver _ _ _ _ _ room tracked job lease ns current
        rw [← captured] at delivered
        exact delivered.same rfl rfl rfl rfl
  · rw [same, List.map_nil, List.append_nil, moved]
    cases access with
    | reserved raced unlocked current =>
        rw [FrameHub.reserve_keeps]
        exact tracked.same rfl rfl rfl rfl
    | delivered ns current => exact absurd (.intro current rfl) (silent _)
    | startClear => contradiction
    | startReplace => contradiction
    | stopClear => contradiction
    | stopDeactivate => contradiction
    | subscribed =>
        refine tracked.same rfl rfl rfl ?_
        obtain ⟨r, present, _⟩ := tracked.receiver
        exact List.getElem?_append_left (List.getElem?_eq_some_iff.mp present).1
    | @ownerCleared receiver flag clears found =>
        refine tracked.keep rfl rfl fun r present free => ⟨r.owner, ?_, free⟩
        dsimp only
        rw [List.getElem?_modify, present]
        by_cases mine : receiver = id
        · have keeps : clears = false := by simpa [found, Pc.stays, mine] using stays
          simp [keeps]
        · simp [mine]
    | @ownerSet receiver flag =>
        refine tracked.keep rfl rfl fun r present free => ?_
        dsimp only
        rw [List.getElem?_modify, present]
        by_cases mine : receiver = id
        · refine ⟨r.owner.or (some flag), by simp [mine], ?_⟩
          have calm : s.raised.contains flag = false := by simpa [Pc.stays, mine] using stays
          cases owner : r.owner with
          | none => simpa using calm
          | some other => rwa [owner] at free
        · exact ⟨r.owner, by simp [mine], free⟩
    | _ => exact tracked.same rfl rfl rfl rfl

theorem consumer_receivers {a : Action} (taken : s.consumerStep a = some t)
    (notNext : ∀ receiver, a ≠ .next receiver) (notClose : ∀ receiver, a ≠ .close receiver) :
    t.receivers = s.receivers := by
  cases a with
  | next receiver => exact absurd rfl (notNext receiver)
  | close receiver => exact absurd rfl (notClose receiver)
  | upgrade k =>
      simp only [FrameHub.consumerStep] at taken
      split at taken
      · split at taken
        · obtain rfl := Option.some.inj taken
          rfl
        · contradiction
      · contradiction
  | _ =>
      first
      | contradiction
      | (obtain ⟨_, _, rfl⟩ := Option.map_eq_some_iff.mp taken
         rfl)

theorem Tracked.consumed (tracked : Tracked id options first s log) {a : Action}
    (taken : s.consumerStep a = some t) (same : t.receivers = s.receivers) :
    Tracked id options first t log := by
  have keeps := (FrameHub.consumerStep_consumed taken).keeps
  refine tracked.same ?_ ?_ ?_ (by rw [same])
  · rw [keeps]
  · rw [keeps]
  · rw [keeps]

theorem Tracked.step (room : 0 < options.delivery.policy.capacity)
    (tracked : Tracked id options first s log) {a : Action} (stays : within id s a = true)
    (taken : s.step a = some t) :
    Tracked id options first t (log ++ observed id s a t) := by
  cases a with
  | run i env =>
      obtain ⟨pc, u, after, at_pc, access, rfl⟩ := step_run taken
      rw [observed, looked_run, List.append_nil]
      rw [within, at_pc, Option.all_some] at stays
      exact tracked.access room at_pc access stays rfl
  | next receiver => exact tracked.next taken
  | close receiver =>
      refine Tracked.silent ?_ rfl
      have other : receiver ≠ id := by simpa [within] using stays
      simp only [FrameHub.step, FrameHub.consumerStep] at taken
      split at taken
      · split at taken
        · obtain rfl := Option.some.inj taken
          exact tracked.same rfl rfl rfl (List.getElem?_set_ne other)
        · contradiction
      · contradiction
  | call call =>
      cases taken
      refine Tracked.silent ?_ rfl
      exact tracked.same rfl rfl rfl rfl
  | flag call =>
      cases taken
      refine Tracked.silent ?_ rfl
      cases call <;> exact tracked.same rfl rfl rfl rfl
  | raise flag =>
      cases taken
      refine Tracked.silent ?_ rfl
      refine tracked.keep rfl rfl fun r present free => ⟨r.owner, present, ?_⟩
      rw [within, present, Option.all_some] at stays
      cases owner : r.owner with
      | none => rfl
      | some other =>
          rw [owner] at stays free
          simp_all
  | otherHub =>
      cases taken
      refine Tracked.silent ?_ rfl
      exact tracked.same rfl rfl rfl rfl
  | tick ns =>
      cases taken
      refine Tracked.silent ?_ rfl
      exact tracked.same rfl rfl rfl rfl
  | _ =>
      simp only [FrameHub.step] at taken
      refine Tracked.silent ?_ rfl
      exact tracked.consumed taken (consumer_receivers taken (by simp) (by simp))

/-! ### Subscription -/

theorem Access.checked {pc : Pc} (access : Access s pc t (.subscribePush options)) :
    0 < options.delivery.policy.capacity := by
  generalize same : Pc.subscribePush options = after at access
  cases access with
  | @lookRefused job stale =>
      obtain ⟨answer, answered⟩ := exhausted_answers job
      rw [answered] at same
      contradiction
  | @poolRefused job length stale =>
      obtain ⟨answer, answered⟩ := exhausted_answers job
      rw [answered] at same
      contradiction
  | @reserved job length raced unlocked current =>
      unfold FrameHub.reserve at same
      split at same
      · contradiction
      · obtain ⟨answer, answered⟩ := exhausted_answers job
        dsimp only at same
        rw [answered] at same
        contradiction
  | @recordRefused session activity failed => cases failed <;> contradiction
  | @woken failed => cases failed <;> contradiction
  | @charged session activity failed after unlocked goes =>
      rcases goes with rfl | rfl
      · contradiction
      · cases failed <;> contradiction
  | budgetRead goes checked => exact validate_capacity (checked options same.symm)
  | _ => contradiction

theorem subscribing_checked (reached : machine.Reachable Lib.Machine.anything s) {i : OpId}
    (at_pc : s.ops[i]? = some (.subscribePush options)) :
    0 < options.delivery.policy.capacity := by
  have checked : ∀ options, .subscribePush options ∈ s.ops →
      0 < options.delivery.policy.capacity := by
    refine reached.invariant (P := fun s => ∀ options, .subscribePush options ∈ s.ops →
      0 < options.delivery.policy.capacity) ?_ ?_
    · rintro s ⟨capacity, drawn, rfl⟩ options member
      contradiction
    · intro s a t _ taken checked options member
      have taken : s.step a = some t := taken
      cases step_stepped taken with
      | called call =>
          rcases List.mem_append.mp member with old | new
          · exact checked options old
          · have entry := Call.entry_entry s.clock call
            rw [← List.mem_singleton.mp new] at entry
            cases entry
      | ran at_pc access =>
          rcases List.mem_or_eq_of_mem_set member with old | rfl
          · exact checked options old
          · exact access.checked
      | consumed consumed =>
          rw [consumed.keeps] at member
          exact checked options member
      | _ => exact checked options member
  exact checked options (List.mem_of_getElem? at_pc)

theorem Tracked.subscribed (room : 0 < options.delivery.policy.capacity)
    (plain : options.maxRate = none) (fresh : s.Fresh) :
    Tracked s.receivers.length options s.state.latest (s.subscribe options) [] := by
  cases latest : s.state.latest with
  | none =>
      let r : Receiver := { delivery := options.delivery, maxRate := options.maxRate }
      have present : (s.subscribe options).receivers[s.receivers.length]? = some r := by
        simp [FrameHub.subscribe, latest, r]
      have serves : Serves options none [] s.raised r :=
        ⟨rfl, rfl, plain, rfl, rfl, rfl, rfl, rfl, rfl⟩
      exact ⟨⟨r, present, serves⟩, .nil, latest.symm, List.forall_mem_nil _⟩
  | some f =>
      let r : Receiver :=
        { delivery := options.delivery
          maxRate := options.maxRate
          queue := [f]
          lastEnqueued := some f.capturedAt }
      have present : (s.subscribe options).receivers[s.receivers.length]? = some r := by
        simp [FrameHub.subscribe, latest, r]
      have kept : options.delivery.policy.keep [f] = [f] := by
        apply (QueuePolicy.keep_sublist _ [f]).eq_of_length
        rw [QueuePolicy.keep_length, List.length_singleton]
        exact Nat.min_eq_left room
      have nothing : 0 = 0 + (0 + 1 - options.delivery.policy.capacity) := by omega
      have serves : Serves options (some f) [] s.raised r :=
        ⟨rfl, rfl, plain, rfl, rfl, kept.symm, nothing, rfl, rfl⟩
      refine ⟨⟨r, present, serves⟩, List.pairwise_singleton _ _, latest.symm, ?_⟩
      intro g member
      obtain rfl := List.mem_singleton.mp member
      have current := fresh g latest
      simp only [FrameHub.isCurrent, Bool.and_eq_true, beq_iff_eq] at current
      exact current.2.symm

/-! ### The account of a receiver -/

/-- The receiver has given and has what its bounded queue has given and has, and
every frame there was for it is accounted for. -/
structure Accounted (options : SubscriptionOptions) (first : Option CapturedFrame)
    (log : List Seen) (r : Receiver) : Prop where
  delivered : Frame.delivered log = (queueOf options first log).taken
  queued : r.queue = (queueOf options first log).items
  dropped : r.dropped = (queueOf options first log).lost
  ordered : (Frame.delivered log ++ r.queue).Pairwise Earlier
  bounded : r.queue.length ≤ options.delivery.policy.capacity
  complete : (Frame.delivered log).length + r.queue.length + r.dropped =
    (publications log).length + first.toList.length

theorem Tracked.accounted (tracked : Tracked id options first s log) :
    ∃ r, s.receivers[id]? = some r ∧ Accounted options first log r := by
  obtain ⟨r, present, serves⟩ := tracked.receiver
  refine ⟨r, present, serves.delivered, serves.queue, serves.dropped,
    serves.ordered tracked.ordered, ?_, ?_⟩
  · rw [serves.queue]
    exact (queueOf options first log).bounded
  · have total := BoundedQueue.run_accounts options.delivery.policy (queueCalls first log)
    rw [puts_queueCalls, offered, List.length_append] at total
    rw [serves.delivered, serves.queue, serves.dropped, Nat.add_comm (publications log).length]
    exact total

/-- Within one epoch, a receiver that was subscribed without a maximum rate delivers,
keeps and drops exactly what the bounded queue of its policy does. -/
theorem deliveries_accounted {i : OpId} {env : Env} {u : FrameHub} {actions : List Action}
    (reached : machine.Reachable Lib.Machine.anything s)
    (at_pc : s.ops[i]? = some (.subscribePush options)) (plain : options.maxRate = none)
    (subscribed : s.step (.run i env) = some t)
    (run : (machine.logged (observed s.receivers.length)).Run
      (fun state a => within s.receivers.length state.1 a = true) (t, []) actions (u, log)) :
    ∃ r, u.receivers[s.receivers.length]? = some r ∧
      Accounted options s.state.latest log r := by
  have room := subscribing_checked reached at_pc
  have begins : Tracked s.receivers.length options s.state.latest t [] := by
    obtain ⟨pc, w, after, here, access, rfl⟩ := step_run subscribed
    obtain rfl := Option.some.inj (at_pc.symm.trans here)
    cases access
    exact (Tracked.subscribed room plain (fresh_reachable reached)).same rfl rfl rfl rfl
  have tracked : Tracked s.receivers.length options s.state.latest u log := by
    refine run.preserves
      (P := fun state => Tracked s.receivers.length options s.state.latest state.1 state.2)
      ?_ begins
    intro before a after stays taken tracked
    obtain ⟨step, log⟩ := Lib.Machine.logged_step taken
    rw [log]
    exact tracked.step room stays step
  exact tracked.accounted

/-- Session 1 runs and a subscription is past its check. -/
def subscribing : List Action :=
  [Action.call .start] ++ List.replicate 4 (Action.run 0 {}) ++
  [Action.call (.subscribe { delivery := .buffered 2 .dropOldest }), .run 1 {}]

def publishingCall (i : OpId) : List Action :=
  [.call (.publishRgb 1 1 1 none), .run i {}, .run i {}, .run i { choice := .finish 1 },
    .run i {}]

def pushes (s : FrameHub) (i : OpId) (options : SubscriptionOptions) : Bool :=
  match s.ops[i]? with
  | some (.subscribePush passed) => decide (passed = options)
  | _ => false

private theorem pushes_pc {i : OpId} (pushing : pushes s i options = true) :
    s.ops[i]? = some (.subscribePush options) := by
  unfold pushes at pushing
  split at pushing
  · next passed at_pc =>
      rw [at_pc, of_decide_eq_true pushing]
  · contradiction

/-- Three frames, a look, a fourth frame. -/
def deliveringThree : List Action :=
  publishingCall 2 ++ publishingCall 3 ++ publishingCall 4 ++ [Action.next 0] ++ publishingCall 5

theorem deliveries_accounted_dropping :
    ∃ s t u log, machine.Reachable Lib.Machine.anything s ∧ s.step (.run 1 {}) = some t ∧
      (machine.logged (observed s.receivers.length)).Run
        (fun state a => within s.receivers.length state.1 a = true) (t, []) deliveringThree
        (u, log) ∧
      ((delivered log).map (·.key.sequence) = [2] ∧
        u.receivers.map (fun r => (r.queue.map (·.key.sequence), r.dropped)) = [([3, 4], 1)]) ∧
      ∃ r, u.receivers[s.receivers.length]? = some r ∧
        Accounted { delivery := .buffered 2 .dropOldest } s.state.latest log r := by
  have passed : ((machine.exec (fun _ _ => true) (FrameHub.new 6) subscribing).any
      fun s => pushes s 1 { delivery := .buffered 2 .dropOldest } && (s.step (.run 1 {})).any fun t =>
        ((machine.logged (observed s.receivers.length)).exec
          (fun state a => within s.receivers.length state.1 a) (t, []) deliveringThree).any
          fun u => decide ((delivered u.2).map (·.key.sequence) = [2] ∧
            u.1.receivers.map (fun r => (r.queue.map (·.key.sequence), r.dropped)) =
              [([3, 4], 1)])) = true := by
    decide +kernel
  obtain ⟨s, reached, passed⟩ := Lib.Machine.Reachable.of_exec (machine_new 6) passed
  obtain ⟨at_pc, passed⟩ := Bool.and_eq_true_iff.mp passed
  obtain ⟨t, subscribed, passed⟩ := (Option.any_eq_true _ _).mp passed
  obtain ⟨⟨u, log⟩, run, passed⟩ := Lib.Machine.run_of_passed passed
  have anyhow := reached.mono fun _ _ _ => (trivial : Lib.Machine.anything _ _)
  exact ⟨s, t, u, log, anyhow, subscribed, run, of_decide_eq_true passed,
    deliveries_accounted anyhow (pushes_pc at_pc) rfl subscribed run⟩

end CameraRs.Frame
