/-
What a step does to the receivers.

One access offers a frame to all of them. Any other step takes frames from the front of
queues, empties queues or appends a receiver that begins with the latest frame.
-/

import CameraRs.Frame.Accounting

namespace CameraRs.Frame

namespace Receiver

def rate (r : Receiver) : Option Nat × Option Nat := (r.maxRate, r.lastEnqueued)

/-- The loop over the subscribers gets to the rate of this one. -/
def listens (r : Receiver) (raised : List FlagId) : Bool :=
  r.registered && r.alive && !r.owner.any raised.contains

/-- A full queue that keeps the frames it has. -/
def refuses (r : Receiver) : Bool :=
  match r.delivery with
  | .buffered capacity .dropNewest => decide (capacity ≤ r.queue.length)
  | _ => false

/-- The receiver that `subscribe_with` makes. -/
def opened (options : SubscriptionOptions) (latest : Option CapturedFrame) : Receiver where
  queue := latest.toList
  delivery := options.delivery
  maxRate := options.maxRate
  lastEnqueued := latest.map (·.capturedAt)

/-- The receiver may have lost frames from the front of its queue, and it may be gone. -/
structure Loses (r r' : Receiver) : Prop where
  queue : r'.queue <:+ r.queue
  delivery : r'.delivery = r.delivery
  rate : r'.rate = r.rate
  gone : r'.registered = false ∨ r'.alive = false →
    r'.queue = [] ∨ r.registered = false ∨ r.alive = false

theorem Loses.refl (r : Receiver) : r.Loses r where
  queue := List.suffix_refl _
  delivery := rfl
  rate := rfl
  gone := .inr

private theorem loses_clear (r : Receiver) : r.Loses r.clear := by
  unfold clear
  split
  · split
    · exact ⟨List.nil_suffix, rfl, rfl, fun _ => .inl rfl⟩
    · next dead => exact ⟨List.suffix_refl _, rfl, rfl, fun _ => .inr (.inr (by simpa using dead))⟩
  · exact .refl r

private theorem loses_close (r : Receiver) : r.Loses r.close :=
  ⟨List.nil_suffix, rfl, rfl, fun _ => .inl rfl⟩

private theorem loses_pop (r : Receiver) (session : Nat) : r.Loses (r.pop session).1 := by
  unfold pop
  split
  · exact ⟨List.nil_suffix, rfl, rfl, fun _ => .inl rfl⟩
  · next f rest split =>
      have suffix := List.dropWhile_suffix (fun f => !r.wanted session f) (l := r.queue)
      rw [split] at suffix
      exact ⟨(List.suffix_cons f rest).trans suffix, rfl, rfl, .inr⟩

theorem rate_enqueue (r : Receiver) (frame : CapturedFrame) : (r.enqueue frame).rate = r.rate := by
  unfold enqueue
  split
  · rfl
  · split
    · split <;> rfl
    · rfl

variable {r : Receiver} {raised : List FlagId} {frame : CapturedFrame}

theorem enqueue_refused (full : r.refuses = true) :
    r.enqueue frame = { r with dropped := r.dropped + 1 } := by
  unfold refuses at full
  split at full
  · next capacity delivery =>
      unfold enqueue
      rw [delivery]
      exact if_pos (of_decide_eq_true full)
  · contradiction

theorem enqueue_last (space : r.refuses = false) :
    (r.enqueue frame).queue.getLast? = some frame := by
  unfold enqueue
  split
  · rfl
  · next capacity overflow delivery =>
      split
      · next full =>
          cases overflow with
          | dropNewest =>
              rw [refuses, delivery] at space
              exact absurd full (of_decide_eq_false space)
          | dropOldest => exact List.getLast?_concat
      · exact List.getLast?_concat

theorem offer_deaf (deaf : r.listens raised = false) :
    r.Loses (r.offer raised frame) ∧ (r.offer raised frame).registered = false := by
  unfold offer
  unfold listens at deaf
  split
  · next unregistered => exact ⟨.refl r, by simpa using unregistered⟩
  · next registered =>
      split
      · next dead =>
          exact ⟨⟨List.suffix_refl _, rfl, rfl, fun _ => .inr (.inr (by simpa using dead))⟩, rfl⟩
      · next alive =>
          split
          · exact ⟨⟨List.nil_suffix, rfl, rfl, fun _ => .inl rfl⟩, rfl⟩
          · next open_session => simp_all

theorem offer_maxRate (r : Receiver) (raised : List FlagId) (frame : CapturedFrame) :
    (r.offer raised frame).maxRate = r.maxRate := by
  unfold offer
  split
  · rfl
  · split
    · rfl
    · split
      · rfl
      · split
        · rfl
        · split
          · exact congrArg Prod.fst (rate_enqueue _ frame)
          · exact congrArg Prod.fst (rate_enqueue r frame)

theorem offer_early (listening : r.listens raised = true) (early : r.tooEarly frame = true) :
    r.offer raised frame = { r with dropped := r.dropped + 1 } := by
  simp only [listens, Bool.and_eq_true, Bool.not_eq_true'] at listening
  simp [offer, listening, early]

theorem offer_open (listening : r.listens raised = true) (late : r.tooEarly frame = false) :
    ∃ last, r.offer raised frame = { r with lastEnqueued := last }.enqueue frame := by
  simp only [listens, Bool.and_eq_true, Bool.not_eq_true'] at listening
  by_cases limited : r.maxRate.isSome = true
  · exact ⟨some frame.capturedAt, by simp [offer, listening, late, limited]⟩
  · have plain : r.offer raised frame = r.enqueue frame := by
      simp [offer, listening, late, limited]
    exact ⟨r.lastEnqueued, plain⟩

theorem offer_late (listening : r.listens raised = true) (late : r.tooEarly frame = false)
    {interval : Nat} (limited : r.maxRate = some interval) :
    r.offer raised frame = { r with lastEnqueued := some frame.capturedAt }.enqueue frame := by
  simp only [listens, Bool.and_eq_true, Bool.not_eq_true'] at listening
  simp [offer, listening, late, limited]

end Receiver

variable {id : ReceiverId} {s t u : FrameHub} {r : Receiver} {f : CapturedFrame}

theorem FrameHub.receivers_subscribe (s : FrameHub) (options : SubscriptionOptions) :
    (s.subscribe options).receivers =
      s.receivers ++ [Receiver.opened options s.state.latest] := by
  rw [subscribe]
  cases s.state.latest with
  | none => rfl
  | some f => rfl

/-- A step that offers no frame to the receivers that there are. -/
structure Calm (s t : FrameHub) : Prop where
  old : ∀ (id : ReceiverId) (r : Receiver), s.receivers[id]? = some r →
    ∃ r' : Receiver, t.receivers[id]? = some r' ∧ r.Loses r'
  fresh : ∀ (id : ReceiverId) (r' : Receiver), s.receivers[id]? = none →
    t.receivers[id]? = some r' → ∃ (i : OpId) (options : SubscriptionOptions),
      s.ops[i]? = some (.subscribePush options) ∧ r' = .opened options s.state.latest
  latest : ∀ f, t.state.latest = some f → s.state.latest = some f

namespace Calm

theorem of_changes (change : ReceiverId → Receiver → Receiver)
    (receivers : ∀ id : ReceiverId, t.receivers[id]? = s.receivers[id]?.map (change id))
    (loses : ∀ (id : ReceiverId) (r : Receiver), s.receivers[id]? = some r →
      r.Loses (change id r))
    (latest : ∀ f, t.state.latest = some f → s.state.latest = some f) : Calm s t where
  old id r present := ⟨change id r, by rw [receivers, present, Option.map_some],
    loses id r present⟩
  fresh id r' absent present := by
    rw [receivers, absent] at present
    contradiction
  latest := latest

theorem same (receivers : t.receivers = s.receivers)
    (latest : ∀ f, t.state.latest = some f → s.state.latest = some f) : Calm s t := by
  refine of_changes (fun _ r => r) (fun id => ?_) (fun id r _ => .refl r) latest
  rw [receivers, Option.map_id']

theorem clearQueues (s : FrameHub) : Calm s s.clearQueues := by
  refine of_changes (fun _ => Receiver.clear) (fun id => ?_) (fun id r _ => r.loses_clear)
    (fun f same => same)
  rw [FrameHub.clearQueues, List.getElem?_map]

theorem modify {receiver : ReceiverId} {change : Receiver → Receiver}
    (loses : ∀ r : Receiver, r.Loses (change r))
    (receivers : t.receivers = s.receivers.modify receiver change)
    (latest : t.state.latest = s.state.latest) : Calm s t := by
  refine of_changes (fun id r => if receiver = id then change r else r) (fun id => ?_)
    (fun id r _ => ?_) (fun f same => latest.symm.trans same)
  · rw [receivers, List.getElem?_modify, Option.map_eq_map]
  · split
    · exact loses r
    · exact .refl r

theorem set {receiver : ReceiverId} {r r' : Receiver}
    (present : s.receivers[receiver]? = some r) (loses : r.Loses r')
    (receivers : t.receivers = s.receivers.set receiver r')
    (latest : t.state.latest = s.state.latest) : Calm s t := by
  refine of_changes (fun id r => if receiver = id then r' else r) (fun id => ?_)
    (fun id old there => ?_) (fun f same => latest.symm.trans same)
  · rw [receivers, List.getElem?_set]
    split
    · next same =>
        rw [if_pos (List.getElem?_eq_some_iff.mp present).1, ← same, present, Option.map_some]
    · rw [Option.map_id']
  · split
    · next same =>
        rw [← same, present] at there
        obtain rfl := Option.some.inj there
        exact loses
    · exact .refl old

theorem subscribe {i : OpId} {options : SubscriptionOptions}
    (at_pc : s.ops[i]? = some (.subscribePush options)) : Calm s (s.subscribe options) where
  old id r present := by
    refine ⟨r, ?_, .refl r⟩
    rw [FrameHub.receivers_subscribe,
      List.getElem?_append_left (List.getElem?_eq_some_iff.mp present).1]
    exact present
  fresh id r' absent present := by
    have beyond := List.getElem?_eq_none_iff.mp absent
    rw [FrameHub.receivers_subscribe, List.getElem?_append_right beyond] at present
    exact ⟨i, options, at_pc, List.mem_singleton.mp (List.mem_of_getElem? present)⟩
  latest f same := same

end Calm

theorem Access.calm {i : OpId} {pc after : Pc} (access : Access s pc t after)
    (at_pc : s.ops[i]? = some pc) (silent : ∀ f, ¬ Delivers s f pc t after) : Calm s t := by
  cases access with
  | reserved raced unlocked current =>
      rw [FrameHub.reserve_keeps]
      exact .same rfl fun f same => same
  | delivered ns current => exact absurd (.intro current rfl) (silent _)
  | startClear => exact .clearQueues s
  | startReplace => exact .same rfl (by simp)
  | stopClear => exact .clearQueues s
  | stopDeactivate => exact .same rfl (by simp [FrameHub.setState])
  | subscribed => exact .subscribe at_pc
  | ownerCleared clears found =>
      refine .modify ?_ rfl rfl
      intro r
      split
      · exact ⟨List.nil_suffix, rfl, rfl, fun _ => .inl rfl⟩
      · exact .refl r
  | ownerSet =>
      refine .modify ?_ rfl rfl
      exact fun r => ⟨List.suffix_refl _, rfl, rfl, .inr⟩
  | _ => exact .same rfl fun f same => same

/-- The step offers the frame of call `i` to every receiver. -/
structure Offers (s : FrameHub) (a : Action) (t : FrameHub) (f : CapturedFrame) : Prop where
  call : ∃ i env job lease elapsed ns, a = .run i env ∧
    s.ops[i]? = some (.finishing job lease elapsed) ∧ s.isCurrent job.session = true ∧
    f = s.capture job lease ns
  shown : published s a t = [f]
  receivers : t.receivers = s.receivers.map (·.offer s.raised f)
  latest : t.state.latest = some f

theorem step_offers {a : Action} (taken : s.step a = some t) :
    (∃ f, Offers s a t f) ∨ (published s a t = [] ∧ Calm s t) := by
  cases a with
  | run i env =>
      obtain ⟨pc, u, after, at_pc, access, rfl⟩ := step_run taken
      rcases @Access.published s u pc after i env _ access at_pc rfl with
        ⟨f, delivers, same⟩ | ⟨silent, same⟩
      · left
        cases delivers with
        | @intro job lease elapsed ns current captured =>
            exact ⟨f, ⟨i, env, job, lease, elapsed, ns, rfl, at_pc, current, captured⟩, same,
              rfl, rfl⟩
      · refine .inr ⟨same, ?_⟩
        have calm := access.calm at_pc silent
        exact ⟨calm.old, calm.fresh, calm.latest⟩
  | next receiver =>
      refine .inr ⟨rfl, ?_⟩
      simp only [FrameHub.step, FrameHub.consumerStep] at taken
      split at taken
      · next r present =>
          split at taken
          · obtain rfl := Option.some.inj taken
            unfold FrameHub.next
            split
            · exact .same rfl fun f same => same
            · exact .set present (r.loses_pop _) rfl rfl
          · contradiction
      · contradiction
  | close receiver =>
      refine .inr ⟨rfl, ?_⟩
      simp only [FrameHub.step, FrameHub.consumerStep] at taken
      split at taken
      · next r present =>
          split at taken
          · obtain rfl := Option.some.inj taken
            exact .set present r.loses_close rfl rfl
          · contradiction
      · contradiction
  | call call =>
      cases taken
      exact .inr ⟨rfl, .same rfl fun f same => same⟩
  | flag call =>
      cases taken
      refine .inr ⟨rfl, .same rfl fun f same => ?_⟩
      cases call <;> exact same
  | raise flag =>
      cases taken
      exact .inr ⟨rfl, .same rfl fun f same => same⟩
  | otherHub =>
      cases taken
      exact .inr ⟨rfl, .same rfl fun f same => same⟩
  | tick ns =>
      cases taken
      exact .inr ⟨rfl, .same rfl fun f same => same⟩
  | _ =>
      simp only [FrameHub.step] at taken
      have keeps := (FrameHub.consumerStep_consumed taken).keeps
      refine .inr ⟨rfl, .same (consumer_receivers taken (by simp) (by simp)) fun f same => ?_⟩
      rw [keeps] at same
      exact same

end CameraRs.Frame
