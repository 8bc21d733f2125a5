/-
Where frames come from: each frame in a queue or in `latest` was there before the
step, was copied from `latest` by a new subscription, or is the frame that the step
delivers.
-/

import CameraRs.Frame.Access

namespace CameraRs.Frame

namespace Receiver

variable {r : Receiver} {f frame : CapturedFrame}

private theorem mem_clear (member : f ∈ r.clear.queue) : f ∈ r.queue := by
  unfold clear at member
  split at member
  · split at member
    · contradiction
    · exact member
  · exact member

theorem mem_enqueue (member : f ∈ (r.enqueue frame).queue) : f ∈ r.queue ∨ f = frame := by
  unfold enqueue at member
  split at member
  · exact .inr (List.mem_singleton.mp member)
  · split at member
    · split at member
      · exact .inl member
      · rcases List.mem_append.mp member with kept | new
        · exact .inl (List.mem_of_mem_tail kept)
        · exact .inr (List.mem_singleton.mp new)
    · rcases List.mem_append.mp member with kept | new
      · exact .inl kept
      · exact .inr (List.mem_singleton.mp new)

theorem mem_offer {raised : List FlagId} (member : f ∈ (r.offer raised frame).queue) :
    f ∈ r.queue ∨ f = frame := by
  unfold offer at member
  split at member
  · exact .inl member
  · split at member
    · exact .inl member
    · split at member
      · contradiction
      · split at member
        · exact .inl member
        · split at member
          · have enqueued := mem_enqueue member
            exact enqueued
          · exact mem_enqueue member

end Receiver

namespace FrameHub

variable {s t : FrameHub} {pc after : Pc} {f : CapturedFrame}

def Queued (s : FrameHub) (f : CapturedFrame) : Prop := ∃ r ∈ s.receivers, f ∈ r.queue

theorem queued_clearQueues (queued : s.clearQueues.Queued f) : s.Queued f := by
  obtain ⟨_, cleared, inside⟩ := queued
  obtain ⟨r, member, rfl⟩ := List.mem_map.mp cleared
  exact ⟨r, member, Receiver.mem_clear inside⟩

private theorem queued_deliver {frame : CapturedFrame} (queued : (s.deliver frame).Queued f) :
    s.Queued f ∨ f = frame := by
  obtain ⟨_, offered, inside⟩ := queued
  obtain ⟨r, member, rfl⟩ := List.mem_map.mp offered
  rcases Receiver.mem_offer inside with old | new
  · exact .inl ⟨r, member, old⟩
  · exact .inr new

private theorem queued_subscribe {options : SubscriptionOptions}
    (queued : (s.subscribe options).Queued f) : s.Queued f ∨ s.state.latest = some f := by
  obtain ⟨r, member, inside⟩ := queued
  rcases List.mem_append.mp member with old | new
  · exact .inl ⟨r, old, inside⟩
  · right
    rw [List.mem_singleton.mp new] at inside
    cases latest : s.state.latest with
    | none => simp [latest] at inside
    | some g =>
        simp only [latest, List.mem_singleton] at inside
        rw [inside]

theorem queued_modify {id : ReceiverId} {change : Receiver → Receiver}
    {receivers : List Receiver} (shrinks : ∀ r, ∀ g ∈ (change r).queue, g ∈ r.queue)
    (queued : ∃ r ∈ receivers.modify id change, f ∈ r.queue) : ∃ r ∈ receivers, f ∈ r.queue := by
  obtain ⟨r, member, inside⟩ := queued
  obtain ⟨k, found⟩ := List.mem_iff_getElem?.mp member
  rw [List.getElem?_modify] at found
  obtain ⟨old, present, rfl⟩ := Option.map_eq_some_iff.mp found
  refine ⟨old, List.mem_of_getElem? present, ?_⟩
  split at inside
  · exact shrinks old f inside
  · exact inside

theorem reserve_keeps (s : FrameHub) (raced : List ArcId) (job : Job) (length : Nat) :
    (s.reserve raced job length).1 = { s with
      pool := (s.reserve raced job length).1.pool
      heap := (s.reserve raced job length).1.heap
      weaks := (s.reserve raced job length).1.weaks } := by
  unfold reserve
  split <;> rfl

end FrameHub

open FrameHub

variable {s t : FrameHub} {pc after : Pc} {f : CapturedFrame}

inductive Delivers (s : FrameHub) (f : CapturedFrame) : Pc → FrameHub → Pc → Prop
  | intro {job lease elapsed ns} (current : s.isCurrent job.session = true)
      (captured : f = s.capture job lease ns) :
      Delivers s f (.finishing job lease elapsed) (s.deliver f) (.measuring job lease elapsed)

theorem Delivers.shape (delivers : Delivers s f pc t after) :
    ∃ job lease elapsed, pc = .finishing job lease elapsed ∧
      after = .measuring job lease elapsed ∧ s.isCurrent job.session = true ∧
      t = s.deliver f := by
  cases delivers with
  | @intro job lease elapsed ns current captured =>
      exact ⟨job, lease, elapsed, rfl, rfl, current, rfl⟩

def published (s : FrameHub) (a : Action) (t : FrameHub) : List CapturedFrame :=
  match a with
  | .run i _ =>
      match s.ops[i]? with
      | some (.finishing job _ _) =>
          if s.isCurrent job.session then t.state.latest.toList else []
      | _ => []
  | _ => []

theorem Access.published {i : OpId} {env : Env} {u : FrameHub} (access : Access s pc t after)
    (at_pc : s.ops[i]? = some pc) (state : u.state = t.state) :
    (∃ f, Delivers s f pc t after ∧ published s (.run i env) u = [f]) ∨
      (∀ f, ¬ Delivers s f pc t after) ∧ published s (.run i env) u = [] := by
  cases access with
  | delivered ns current =>
      refine .inl ⟨_, .intro current rfl, ?_⟩
      simp [Frame.published, at_pc, current, state, deliver]
  | late stale =>
      right
      constructor
      · intro f delivers
        obtain ⟨_, _, _, _, after, _⟩ := delivers.shape
        contradiction
      · simp [Frame.published, at_pc, stale]
  | _ =>
      right
      constructor
      · intro f delivers
        obtain ⟨_, _, _, pc, _⟩ := delivers.shape
        contradiction
      · simp [Frame.published, at_pc]

theorem Access.held (access : Access s pc t after) : t.held = s.held := by
  cases access with
  | reserved raced unlocked current => rw [reserve_keeps]
  | _ => rfl

theorem Access.latest (access : Access s pc t after) (latest : t.state.latest = some f) :
    s.state.latest = some f ∨ Delivers s f pc t after := by
  cases access with
  | reserved raced unlocked current =>
      rw [reserve_keeps] at latest
      exact .inl latest
  | delivered ns current =>
      obtain rfl := Option.some.inj latest
      exact .inr (.intro current rfl)
  | startReplace => contradiction
  | stopDeactivate => contradiction
  | _ => exact .inl latest

theorem Access.queued (access : Access s pc t after) (queued : t.Queued f) :
    s.Queued f ∨ (s.state.latest = some f ∧ ∃ options, pc = .subscribePush options) ∨
      Delivers s f pc t after := by
  cases access with
  | reserved raced unlocked current =>
      rw [FrameHub.Queued, reserve_keeps] at queued
      exact .inl queued
  | delivered ns current =>
      rcases queued_deliver queued with old | rfl
      · exact .inl old
      · exact .inr (.inr (.intro current rfl))
  | startClear => exact .inl (queued_clearQueues queued)
  | stopClear => exact .inl (queued_clearQueues queued)
  | @subscribed options =>
      rcases queued_subscribe queued with old | latest
      · exact .inl old
      · exact .inr (.inl ⟨latest, options, rfl⟩)
  | ownerCleared clears =>
      refine .inl (queued_modify (fun r g inside => ?_) queued)
      cases clears with
      | false => exact inside
      | true => contradiction
  | ownerSet =>
      refine .inl (queued_modify ?_ queued)
      exact fun r g inside => inside
  | _ => exact .inl queued

theorem Access.frames (access : Access s pc t after) (exist : f ∈ t.frames) :
    f ∈ s.frames ∨ Delivers s f pc t after := by
  rcases mem_frames.mp exist with latest | queued | held
  · rcases access.latest latest with old | new
    · exact .inl (mem_frames.mpr (.inl old))
    · exact .inr new
  · rcases access.queued queued with old | ⟨latest, _⟩ | new
    · exact .inl (mem_frames.mpr (.inr (.inl old)))
    · exact .inl (mem_frames.mpr (.inl latest))
    · exact .inr new
  · rw [access.held] at held
    exact .inl (mem_frames.mpr (.inr (.inr held)))

end CameraRs.Frame
