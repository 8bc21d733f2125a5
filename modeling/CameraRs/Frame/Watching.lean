/-
`FrameReceiver::next` and the state channel.

The channel counts its modifications. A receiver looks at its queue while it holds the
channel for reading, remembers the version it saw, and waits for another one. Frames are
pushed while the channel is held for writing, before its version is raised.
-/

import CameraRs.Frame.Offers
import CameraRs.Lib.Watch
import Mathlib.Data.List.TakeWhile

namespace CameraRs.Frame

inductive Phase
  | idle
  | looking
  | waiting
deriving DecidableEq

/-- Where a `FrameReceiver` is in `next`, and the version its `watch::Receiver` has seen. -/
structure Reader where
  seen : Nat := 0
  phase : Phase := .idle

/-- A hub with the version of its state channel. `opened` are the receivers of the channel
that calls of `subscribe_with` have made and not used yet. -/
structure WatchedHub where
  hub : FrameHub
  version : Nat := 0
  opened : OpId → Option Nat := fun _ => none
  readers : ReceiverId → Reader := fun _ => {}

/-- What receivers do in `next`, besides the actions of the hub. A `next` that waits may be
dropped; `skip` is the assignment to `last` in `wait_after`. -/
inductive ReaderAction
  | hub (a : Action)
  | openState (i : OpId)
  | call (id : ReceiverId)
  | look (id : ReceiverId)
  | wake (id : ReceiverId)
  | abandon (id : ReceiverId)
  | skip (id : ReceiverId) (after : Option FrameKey)

namespace FrameHub

def modifies (s : FrameHub) : Action → Bool
  | .run i _ =>
      match s.ops[i]? with
      | some (.finishing job _ _) => s.isCurrent job.session
      | some (.startReplace _ _ _) | some .stopDeactivate => true
      | _ => false
  | .flag _ => true
  | _ => false

/-- `next` returns `StreamStopped`, whatever the owner's flag is. -/
def stopped (s : FrameHub) : Bool :=
  !s.state.active && !s.state.recovering && !s.state.reconnectEnabled

end FrameHub

namespace WatchedHub

def subscribing (c : WatchedHub) : Action → Option OpId
  | .run i _ =>
      match c.hub.ops[i]? with
      | some (.subscribePush _) => some i
      | _ => none
  | _ => none

/-- `next` is not one access here, a receiver in `next` is borrowed, and `subscribe_with`
has opened the channel before it pushes. -/
def permits (c : WatchedHub) (a : Action) : Bool :=
  match a with
  | .next _ => false
  | .close id => decide ((c.readers id).phase = .idle)
  | a => (c.subscribing a).all fun i => (c.opened i).isSome

def setReader (c : WatchedHub) (id : ReceiverId) (reader : Reader) : WatchedHub :=
  { c with readers := Function.update c.readers id reader }

def access (c : WatchedHub) (a : Action) : Option WatchedHub :=
  if c.permits a then
    (c.hub.step a).map fun hub =>
      { c with
        hub := hub
        version := if c.hub.modifies a then c.version + 1 else c.version
        readers :=
          match (c.subscribing a).bind c.opened with
          | some seen => Function.update c.readers c.hub.receivers.length { seen := seen }
          | none => c.readers }
  else none

/-- The block of `next`: `borrow_and_update`, the flags, and the queue. -/
def look (c : WatchedHub) (id : ReceiverId) (r : Receiver) : WatchedHub :=
  match c.hub.next id r with
  | (.ok none, hub) =>
      { c with hub := hub }.setReader id { seen := c.version, phase := .waiting }
  | (_, hub) => { c with hub := hub }.setReader id { seen := c.version, phase := .idle }

def step (c : WatchedHub) : ReaderAction → Option WatchedHub
  | .hub a => c.access a
  | .openState i =>
      match c.hub.ops[i]? with
      | some (.subscribePush _) =>
          if (c.opened i).isNone then
            some { c with opened := Function.update c.opened i (some c.version) }
          else none
      | _ => none
  | .call id =>
      match c.hub.receivers[id]? with
      | some r =>
          if r.alive && decide ((c.readers id).phase = .idle) then
            some (c.setReader id { c.readers id with phase := .looking })
          else none
      | none => none
  | .look id =>
      match c.hub.receivers[id]? with
      | some r => if (c.readers id).phase = .looking then some (c.look id r) else none
      | none => none
  | .wake id =>
      if (c.readers id).phase = .waiting ∧ (c.readers id).seen ≠ c.version then
        some (c.setReader id { seen := c.version, phase := .looking })
      else none
  | .abandon id =>
      if (c.readers id).phase = .waiting then
        some (c.setReader id { c.readers id with phase := .idle })
      else none
  | .skip id after =>
      match c.hub.receivers[id]? with
      | some r =>
          if (c.readers id).phase = .idle then
            some { c with hub := { c.hub with
              receivers := c.hub.receivers.set id
                { r with last := after.or (c.hub.state.latest.map (·.key)) } } }
          else none
      | none => none

end WatchedHub

/-- A new hub whose channel nobody has modified. -/
def watching : Lib.Machine WatchedHub ReaderAction where
  initial c := machine.initial c.hub ∧ ∀ id, (c.readers id).phase = .idle
  step := WatchedHub.step

/-- The version that a receiver waiting in `next` has seen. -/
def WatchedHub.parked (c : WatchedHub) (id : ReceiverId) : Option Nat :=
  if (c.readers id).phase = .waiting then some (c.readers id).seen else none

/-- What a step can do: `moved` are the steps of a receiver that neither look nor wait. -/
inductive WatchedHub.Moves (c : WatchedHub) : ReaderAction → WatchedHub → Prop
  | accessed {a d} (permitted : c.permits a = true) (taken : c.hub.step a = some d.hub)
      (version : d.version = if c.hub.modifies a then c.version + 1 else c.version)
      (readers : ∀ other seen, d.parked other = some seen → c.parked other = some seen) :
      Moves c (.hub a) d
  | opens {i} (opened : OpId → Option Nat) : Moves c (.openState i) { c with opened := opened }
  | moved {a id reader} (moving : reader.phase ≠ .waiting) : Moves c a (c.setReader id reader)
  | looked {id r} (present : c.hub.receivers[id]? = some r)
      (looking : (c.readers id).phase = .looking) : Moves c (.look id) (c.look id r)
  | skipped {id r after} (present : c.hub.receivers[id]? = some r)
      (idle : (c.readers id).phase = .idle) (last : Option FrameKey) :
      Moves c (.skip id after) { c with hub := { c.hub with
        receivers := c.hub.receivers.set id { r with last := last } } }

/-! ### What the channel announces -/

/-- A receiver at which `next` has something to do, or that does not exist. -/
def FrameHub.stirs (s : FrameHub) (id : ReceiverId) : Prop :=
  s.stopped = true ∨ ∀ r, s.receivers[id]? = some r → r.queue ≠ []

variable {s t : FrameHub} {a : Action} {id : ReceiverId} {r : Receiver} {c d : WatchedHub}
  {seen : Nat}

theorem not_stirs : ¬s.stirs id ↔
    s.stopped = false ∧ ∃ r, s.receivers[id]? = some r ∧ r.queue = [] := by
  unfold FrameHub.stirs
  rw [not_or, Bool.not_eq_true]
  push Not
  rfl

private theorem unmodified_state (taken : s.step a = some t) (quiet : s.modifies a = false) :
    t.state = s.state := by
  cases step_stepped taken with
  | ran at_pc access =>
      simp only [FrameHub.modifies, at_pc] at quiet
      cases access with
      | reserved raced unlocked current => rw [FrameHub.reserve_keeps]
      | delivered ns current =>
          dsimp only at quiet
          rw [current] at quiet
          contradiction
      | startReplace => contradiction
      | stopDeactivate => contradiction
      | _ => rfl
  | flagged call => contradiction
  | consumed consumed => rw [consumed.keeps]
  | _ => rfl

private theorem unmodified_calm (taken : s.step a = some t) (quiet : s.modifies a = false) :
    Calm s t := by
  rcases step_offers taken with ⟨f, offers⟩ | ⟨_, calm⟩
  · obtain ⟨i, env, job, lease, elapsed, ns, rfl, at_pc, current, _⟩ := offers.call
    simp only [FrameHub.modifies, at_pc, current] at quiet
    contradiction
  · exact calm

private theorem unmodified_stirs (taken : s.step a = some t) (quiet : s.modifies a = false)
    (idle : ¬s.stirs id) : ¬t.stirs id := by
  obtain ⟨running, r, present, empty⟩ := not_stirs.mp idle
  obtain ⟨r', later, loses⟩ := (unmodified_calm taken quiet).old id r present
  refine not_stirs.mpr ⟨?_, r', later, ?_⟩
  · rw [FrameHub.stopped, unmodified_state taken quiet]
    exact running
  · have suffix := loses.queue
    rw [empty] at suffix
    exact List.suffix_nil.mp suffix

private theorem pop_nothing {session : Nat} (nothing : (r.pop session).2 = none) :
    (r.pop session).1 = { r with queue := [] } ∧ ∀ f ∈ r.queue, r.wanted session f = false := by
  unfold Receiver.pop at nothing ⊢
  cases rest : r.queue.dropWhile fun f => !r.wanted session f with
  | nil =>
      refine ⟨rfl, fun f member => ?_⟩
      have unwanted := List.dropWhile_eq_nil_iff.mp rest f member
      simpa using unwanted
  | cons f later =>
      rw [rest] at nothing
      contradiction

theorem next_nothing {hub : FrameHub} (looked : s.next id r = (.ok none, hub)) :
    s.stopped = false ∧ (∀ f ∈ r.queue, r.wanted s.state.session f = false) ∧
      hub = { s with receivers := s.receivers.set id { r with queue := [] } } := by
  unfold FrameHub.next at looked
  split at looked
  · cases looked
  · next running =>
      cases popped : r.pop s.state.session with
      | mk left found =>
          rw [popped] at looked
          obtain ⟨answer, rfl⟩ := Prod.mk.inj looked
          obtain rfl := Except.ok.inj answer
          obtain ⟨emptied, unwanted⟩ := pop_nothing (congrArg Prod.snd popped)
          rw [popped] at emptied
          have flags : s.stopped = false := by
            push Not at running
            have going := running.2
            unfold FrameHub.stopped
            cases active : s.state.active <;> cases recovering : s.state.recovering <;> simp_all
          refine ⟨flags, unwanted, ?_⟩
          rw [← emptied, Option.toList_none, List.append_nil]

private theorem next_settles {hub : FrameHub} (present : s.receivers[id]? = some r)
    (looked : s.next id r = (.ok none, hub)) : ¬hub.stirs id := by
  obtain ⟨running, _, rfl⟩ := next_nothing looked
  exact not_stirs.mpr ⟨running, { r with queue := [] },
    List.getElem?_set_self (List.getElem?_eq_some_iff.mp present).1, rfl⟩

theorem next_others {other : ReceiverId} (different : other ≠ id) :
    (s.next id r).2.state = s.state ∧
      (s.next id r).2.receivers[other]? = s.receivers[other]? := by
  unfold FrameHub.next
  split
  · exact ⟨rfl, rfl⟩
  · exact ⟨rfl, List.getElem?_set_ne (Ne.symm different)⟩

/-! ### Waiting -/

def watch : Lib.Watch WatchedHub ReceiverId where
  version := WatchedHub.version
  ready c id := c.hub.stirs id
  parked := WatchedHub.parked

namespace WatchedHub

theorem parked_some : c.parked id = some seen ↔
    (c.readers id).phase = .waiting ∧ (c.readers id).seen = seen := by
  unfold parked
  split
  · next waiting => simp [waiting]
  · next moving => simp [moving]

theorem parked_other {other : ReceiverId} {reader : Reader} (different : other ≠ id) :
    (c.setReader id reader).parked other = c.parked other := by
  simp [parked, setReader, different]

theorem parked_self {reader : Reader} : (c.setReader id reader).parked id =
    if reader.phase = .waiting then some reader.seen else none := by
  simp [parked, setReader]

theorem parked_moving {other : ReceiverId} {reader : Reader} (moving : reader.phase ≠ .waiting)
    (parked : (c.setReader id reader).parked other = some seen) : c.parked other = some seen := by
  by_cases same : other = id
  · subst same
    rw [parked_self, if_neg moving] at parked
    contradiction
  · rwa [parked_other same] at parked

private theorem access_shape (taken : c.access a = some d) :
    c.permits a = true ∧ c.hub.step a = some d.hub ∧
      d.version = (if c.hub.modifies a then c.version + 1 else c.version) ∧
      ∀ other seen, d.parked other = some seen → c.parked other = some seen := by
  unfold access at taken
  split at taken
  · next permitted =>
      obtain ⟨hub, made, rfl⟩ := Option.map_eq_some_iff.mp taken
      refine ⟨permitted, made, rfl, fun other seen parked => ?_⟩
      cases fresh : (c.subscribing a).bind c.opened with
      | none =>
          simp only [fresh] at parked
          exact parked
      | some at_open =>
          simp only [fresh] at parked
          have moving : ({ seen := at_open } : Reader).phase ≠ .waiting := by simp
          exact parked_moving moving parked
  · contradiction

theorem look_returns {hub : FrameHub} {answer : CameraResult (Option CapturedFrame)}
    (looked : c.hub.next id r = (answer, hub)) (returns : answer ≠ .ok none) :
    c.look id r = { c with hub := hub }.setReader id { seen := c.version, phase := .idle } := by
  unfold look
  rw [looked]
  cases answer with
  | error error => rfl
  | ok found =>
      cases found with
      | none => contradiction
      | some f => rfl

theorem look_waits {hub : FrameHub} (looked : c.hub.next id r = (.ok none, hub)) :
    c.look id r = { c with hub := hub }.setReader id { seen := c.version, phase := .waiting } := by
  unfold look
  rw [looked]

theorem look_hub (r : Receiver) : (c.look id r).hub = (c.hub.next id r).2 ∧
    (c.look id r).version = c.version := by
  cases looked : c.hub.next id r with
  | mk answer hub =>
      by_cases waits : answer = .ok none
      · subst waits
        rw [look_waits looked]
        exact ⟨rfl, rfl⟩
      · rw [look_returns looked waits]
        exact ⟨rfl, rfl⟩

theorem look_parked {other : ReceiverId} (parked : (c.look id r).parked other = some seen) :
    c.parked other = some seen ∧ other ≠ id ∨
      other = id ∧ seen = c.version ∧ c.hub.next id r = (.ok none, (c.look id r).hub) := by
  cases looked : c.hub.next id r with
  | mk answer hub =>
      by_cases waits : answer = .ok none
      · subst waits
        rw [look_waits looked] at parked ⊢
        by_cases same : other = id
        · subst same
          rw [parked_self, if_pos rfl] at parked
          exact .inr ⟨rfl, (Option.some.inj parked).symm, rfl⟩
        · rw [parked_other same] at parked
          exact .inl ⟨parked, same⟩
      · rw [look_returns looked waits] at parked
        by_cases same : other = id
        · subst same
          rw [parked_self, if_neg (by simp)] at parked
          contradiction
        · rw [parked_other same] at parked
          exact .inl ⟨parked, same⟩

/-! ### The discipline of the channel -/

theorem step_moves {a : ReaderAction} (taken : c.step a = some d) : Moves c a d := by
  cases a with
  | hub a =>
      obtain ⟨permitted, made, version, readers⟩ := access_shape taken
      exact .accessed permitted made version readers
  | openState i =>
      simp only [step] at taken
      split at taken
      · split at taken
        · obtain rfl := Option.some.inj taken
          exact .opens _
        · contradiction
      · contradiction
  | call id =>
      simp only [step] at taken
      split at taken
      · split at taken
        · obtain rfl := Option.some.inj taken
          exact .moved (by simp)
        · contradiction
      · contradiction
  | look id =>
      simp only [step] at taken
      split at taken
      · next r present =>
          split at taken
          · next looking =>
              obtain rfl := Option.some.inj taken
              exact .looked present looking
          · contradiction
      · contradiction
  | wake id =>
      simp only [step] at taken
      split at taken
      · obtain rfl := Option.some.inj taken
        exact .moved (by simp)
      · contradiction
  | abandon id =>
      simp only [step] at taken
      split at taken
      · obtain rfl := Option.some.inj taken
        exact .moved (by simp)
      · contradiction
  | skip id after =>
      simp only [step] at taken
      split at taken
      · next r present =>
          split at taken
          · next idle =>
              obtain rfl := Option.some.inj taken
              exact .skipped present idle _
          · contradiction
      · contradiction

namespace Moves

variable {a : ReaderAction}

theorem grows (moves : Moves c a d) : c.version ≤ d.version := by
  cases moves with
  | accessed permitted taken version readers =>
      rw [version]
      split <;> omega
  | @looked id r present looking => exact Nat.le_of_eq (look_hub r).2.symm
  | _ => exact Nat.le_refl _

theorem parks (moves : Moves c a d) (parked : d.parked id = some seen) :
    c.parked id = some seen ∨ seen = d.version ∧ ¬d.hub.stirs id := by
  cases moves with
  | accessed permitted taken version readers => exact .inl (readers id seen parked)
  | moved moving => exact .inl (parked_moving moving parked)
  | looked present looking =>
      rcases look_parked parked with ⟨before, _⟩ | ⟨rfl, now, looked⟩
      · exact .inl before
      · refine .inr ⟨now.trans (look_hub _).2.symm, next_settles present looked⟩
  | _ => exact .inl parked

theorem announces (moves : Moves c a d) (parked : c.parked id = some seen)
    (idle : ¬c.hub.stirs id) (stirs : d.hub.stirs id) : c.version < d.version := by
  have waiting := (parked_some.mp parked).1
  cases moves with
  | @accessed a _ permitted taken version readers =>
      cases quiet : c.hub.modifies a with
      | true =>
          rw [version, quiet, if_pos rfl]
          exact Nat.lt_succ_self _
      | false => exact absurd stirs (unmodified_stirs taken quiet idle)
  | @looked other r present looking =>
      have different : id ≠ other := by
        rintro rfl
        rw [looking] at waiting
        contradiction
      obtain ⟨state, receivers⟩ := @next_others c.hub other r id different
      rw [FrameHub.stirs, FrameHub.stopped, (look_hub r).1, state, receivers] at stirs
      exact absurd stirs idle
  | @skipped other r after present resting last =>
      have different : other ≠ id := by
        rintro rfl
        rw [resting] at waiting
        contradiction
      rw [FrameHub.stirs] at stirs
      dsimp only at stirs
      rw [List.getElem?_set_ne different] at stirs
      exact absurd stirs idle
  | _ => exact absurd stirs idle

end Moves

theorem disciplined : watch.Disciplined watching Lib.Machine.anything where
  unparked c id initial := by
    have idle := initial.2 id
    change c.parked id = none
    rw [parked, if_neg (by rw [idle]; decide)]
  grows c a d taken := (step_moves taken).grows
  parks c a d id seen _ taken parked := (step_moves taken).parks parked
  announces c a d id seen _ taken parked idle stirs :=
    (step_moves taken).announces parked idle stirs

end WatchedHub

/-! ### What a waiting receiver keeps -/

theorem enqueue_lastKey (r : Receiver) (f : CapturedFrame) : (r.enqueue f).last = r.last := by
  unfold Receiver.enqueue
  split
  · rfl
  · split
    · split <;> rfl
    · rfl

private theorem offer_lastKey (r : Receiver) (raised : List FlagId) (f : CapturedFrame) :
    (r.offer raised f).last = r.last := by
  unfold Receiver.offer
  split
  · rfl
  · split
    · rfl
    · split
      · rfl
      · split
        · rfl
        · split
          · exact enqueue_lastKey _ f
          · exact enqueue_lastKey r f

theorem clear_lastKey (r : Receiver) : r.clear.last = r.last := by
  unfold Receiver.clear
  split
  · split <;> rfl
  · rfl

def FrameHub.Returned (s : FrameHub) (id : ReceiverId) (last : Option FrameKey) : Prop :=
  ∃ r, s.receivers[id]? = some r ∧ r.last = last

variable {last : Option FrameKey}

theorem returned_map {change : Receiver → Receiver} (keeps : ∀ r, (change r).last = r.last)
    (returned : s.Returned id last) (receivers : t.receivers = s.receivers.map change) :
    t.Returned id last := by
  obtain ⟨r, present, rfl⟩ := returned
  refine ⟨change r, ?_, keeps r⟩
  rw [receivers, List.getElem?_map, present, Option.map_some]

theorem returned_modify {receiver : ReceiverId} {change : Receiver → Receiver}
    (keeps : ∀ r, (change r).last = r.last) (returned : s.Returned id last)
    (receivers : t.receivers = s.receivers.modify receiver change) : t.Returned id last := by
  obtain ⟨r, present, rfl⟩ := returned
  refine ⟨if receiver = id then change r else r, ?_, ?_⟩
  · rw [receivers, List.getElem?_modify, present]
    split <;> rfl
  · split
    · exact keeps r
    · rfl

theorem returned_same (returned : s.Returned id last) (receivers : t.receivers = s.receivers) :
    t.Returned id last := by
  obtain ⟨r, present, same⟩ := returned
  exact ⟨r, by rw [receivers, present], same⟩

theorem Access.returned {pc after : Pc} (access : Access s pc t after)
    (returned : s.Returned id last) : t.Returned id last := by
  cases access with
  | reserved raced unlocked current =>
      exact returned_same returned (by rw [FrameHub.reserve_keeps])
  | delivered ns current => exact returned_map (fun r => offer_lastKey r _ _) returned rfl
  | startClear => exact returned_map clear_lastKey returned rfl
  | stopClear => exact returned_map clear_lastKey returned rfl
  | @subscribed options =>
      obtain ⟨r, present, same⟩ := returned
      refine ⟨r, ?_, same⟩
      rw [FrameHub.receivers_subscribe,
        List.getElem?_append_left (List.getElem?_eq_some_iff.mp present).1, present]
  | ownerCleared clears =>
      refine returned_modify (fun r => ?_) returned rfl
      split <;> rfl
  | ownerSet =>
      refine returned_modify ?_ returned rfl
      exact fun r => rfl
  | _ => exact returned_same returned rfl

private theorem step_returned (taken : s.step a = some t) (other : ∀ id, a ≠ .next id)
    (returned : s.Returned id last) : t.Returned id last := by
  cases a with
  | run i env =>
      obtain ⟨pc, u, after, at_pc, access, rfl⟩ := step_run taken
      exact access.returned returned
  | next receiver => exact absurd rfl (other receiver)
  | close receiver =>
      simp only [FrameHub.step, FrameHub.consumerStep] at taken
      split at taken
      · next r present =>
          split at taken
          · obtain rfl := Option.some.inj taken
            obtain ⟨q, there, same⟩ := returned
            by_cases own : receiver = id
            · subst own
              obtain rfl := Option.some.inj (present.symm.trans there)
              exact ⟨r.close, List.getElem?_set_self (List.getElem?_eq_some_iff.mp present).1, same⟩
            · exact ⟨q, (List.getElem?_set_ne own).trans there, same⟩
          · contradiction
      · contradiction
  | call call =>
      cases taken
      exact returned
  | flag call =>
      cases taken
      exact returned
  | raise flag =>
      cases taken
      exact returned
  | otherHub =>
      cases taken
      exact returned
  | tick ns =>
      cases taken
      exact returned
  | _ =>
      simp only [FrameHub.step] at taken
      exact returned_same returned (consumer_receivers taken (by simp) (by simp))

namespace WatchedHub

/-- A call of `next` is under way at the receiver. -/
def InNext (c : WatchedHub) (id : ReceiverId) : Prop := (c.readers id).phase ≠ .idle

private theorem look_returned (present : c.hub.receivers[id]? = some r)
    (going : (c.look id r).InNext id) (same : r.last = last) :
    (c.look id r).hub.Returned id last := by
  cases looked : c.hub.next id r with
  | mk answer hub =>
      by_cases waits : answer = .ok none
      · subst waits
        obtain ⟨_, _, rfl⟩ := next_nothing looked
        rw [look_waits looked]
        exact ⟨{ r with queue := [] },
          List.getElem?_set_self (List.getElem?_eq_some_iff.mp present).1, same⟩
      · rw [look_returns looked waits] at going
        exact absurd (by simp [setReader]) going

private theorem step_unreturned {a : ReaderAction} (taken : c.step a = some d) (going : c.InNext id)
    (still : d.InNext id) (returned : c.hub.Returned id last) : d.hub.Returned id last := by
  cases step_moves taken with
  | accessed permitted made version readers =>
      refine step_returned made ?_ returned
      rintro other rfl
      contradiction
  | @looked other r present looking =>
      by_cases own : other = id
      · subst own
        obtain ⟨q, there, same⟩ := returned
        obtain rfl := Option.some.inj (present.symm.trans there)
        exact look_returned present still same
      · obtain ⟨q, there, same⟩ := returned
        obtain ⟨_, receivers⟩ := @next_others c.hub other r id (Ne.symm own)
        exact ⟨q, by rw [(look_hub r).1, receivers, there], same⟩
  | @skipped other r after present resting key =>
      have different : other ≠ id := by
        rintro rfl
        exact going resting
      obtain ⟨q, there, same⟩ := returned
      exact ⟨q, (List.getElem?_set_ne different).trans there, same⟩
  | _ => exact returned

/-- A receiver that waits in `next` with the version it has seen. -/
structure Suspended (c : WatchedHub) (id : ReceiverId) (seen : Nat) : Prop where
  wakes : ∀ r f, c.hub.receivers[id]? = some r → f ∈ r.queue →
    r.wanted c.hub.state.session f = true → seen < c.version
  stops : c.hub.stopped = true → seen < c.version
  abandoned : ∀ d, c.step (.abandon id) = some d → d.hub = c.hub
  returned : ∀ (b : WatchedHub) (actions : List ReaderAction) (last : Option FrameKey),
    b.hub.Returned id last →
    watching.Run (fun state _ => state.InNext id) b actions c → c.hub.Returned id last
  discards : ∀ (b : WatchedHub) (r : Receiver), b.hub.receivers[id]? = some r →
    b.step (.look id) = some c → ∀ f ∈ r.queue, r.wanted b.hub.state.session f = false

private theorem look_discards {b : WatchedHub} (present : b.hub.receivers[id]? = some r)
    (taken : b.step (.look id) = some c) (parked : c.parked id = some seen) :
    ∀ f ∈ r.queue, r.wanted b.hub.state.session f = false := by
  simp only [step, present] at taken
  split at taken
  · obtain rfl := Option.some.inj taken
    rcases look_parked parked with ⟨_, different⟩ | ⟨_, _, looked⟩
    · exact absurd rfl different
    · exact (next_nothing looked).2.1
  · contradiction

end WatchedHub

/-- In every reachable state a receiver that waits although `next` would return has not seen
the current version of the channel, and a `next` that is dropped has taken nothing. -/
theorem next_suspended (reached : watching.Reachable Lib.Machine.anything c)
    (parked : c.parked id = some seen) : c.Suspended id seen where
  wakes r f present member _ := by
    refine WatchedHub.disciplined.wakes reached parked (.inr fun q there => ?_)
    obtain rfl := Option.some.inj (present.symm.trans there)
    exact List.ne_nil_of_mem member
  stops stopped := WatchedHub.disciplined.wakes reached parked (.inl stopped)
  abandoned d taken := by
    simp only [WatchedHub.step] at taken
    split at taken
    · obtain rfl := Option.some.inj taken
      rfl
    · contradiction
  returned b actions last returned run := by
    have waiting : c.InNext id := by
      rw [WatchedHub.InNext, (WatchedHub.parked_some.mp parked).1]
      decide
    refine run.preserves (P := fun state => state.InNext id → state.hub.Returned id last) ?_ ?_
      waiting
    · intro before a after going taken returned still
      exact WatchedHub.step_unreturned taken going still (returned going)
    · exact fun _ => returned
  discards b r present taken := WatchedHub.look_discards present taken parked

/-- A receiver subscribes, waits in `next`, and a frame is published. -/
def waitingFirst : List ReaderAction :=
  subscribing.map .hub ++ [ReaderAction.openState 1, .hub (.run 1 {}), .call 0, .look 0] ++
    (publishingCall 2).map .hub

theorem next_suspended_frame :
    ∃ (c : WatchedHub) (seen : Nat), c.Suspended 0 seen ∧ seen < c.version := by
  have passed : ((watching.exec (fun _ _ => true) { hub := FrameHub.new 6 } waitingFirst).any
      fun c => decide (c.parked 0 = some 1) && c.hub.receivers[0]?.any fun r =>
        r.queue.any fun f => r.wanted c.hub.state.session f) = true := by
    decide +kernel
  have initial : watching.initial { hub := FrameHub.new 6 } := ⟨machine_new 6, fun _ => rfl⟩
  obtain ⟨c, reached, passed⟩ := Lib.Machine.Reachable.of_exec initial passed
  obtain ⟨parked, passed⟩ := Bool.and_eq_true_iff.mp passed
  obtain ⟨r, present, passed⟩ := (Option.any_eq_true _ _).mp passed
  obtain ⟨f, member, wanted⟩ := List.any_eq_true.mp passed
  have anyhow := reached.mono fun _ _ _ => (trivial : Lib.Machine.anything _ _)
  have suspended := next_suspended anyhow (of_decide_eq_true parked)
  exact ⟨c, 1, suspended, suspended.wakes r f present member wanted⟩

end CameraRs.Frame
