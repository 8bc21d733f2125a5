/-
Nothing that libuvc handed out is used after it was given back, given back twice, or kept: every
native object has one owner, in whatever order the operations of a camera and its callbacks go.
-/

import CameraRs.Uvc.Resources

namespace CameraRs.Uvc.Resources

open Lib

variable {n : Native} {o : Object} {c k : Nat} {v : Value} {vs ws : List Value}
  {os : List Object} {cs : List Id} {h : DeviceHandle} {d : Device}

namespace Native

structure Settled (n : Native) (objects : List Object) (shares : List Id) : Prop where
  heap : n.heap.Owned objects
  contexts : n.contexts.Held shares
  objects_lt : ∀ o ∈ objects, o.id < n.next
  shares_lt : ∀ c ∈ shares, c < n.next

def Owns (n : Native) (values : List Value) : Prop :=
  n.Settled (values.flatMap Value.objects) (values.flatMap Value.shares)

/-! ### The calls of libuvc -/

namespace Settled

theorem alloc (settled : n.Settled os cs) (fresh : o.id = n.next) :
    (n.alloc o).Settled (o :: os) cs where
  heap := settled.heap.alloc fun held =>
    Nat.lt_irrefl _ (fresh ▸ settled.objects_lt o held)
  contexts := settled.contexts
  objects_lt := by
    intro p held
    change p.id < n.next + 1
    rcases List.mem_cons.mp held with rfl | held
    · rw [fresh]
      exact Nat.lt_succ_self _
    · exact Nat.lt_succ_of_lt (settled.objects_lt p held)
  shares_lt c held := Nat.lt_succ_of_lt (settled.shares_lt c held)

theorem use (settled : n.Settled os cs) (held : o ∈ os) : (n.use o).Settled os cs :=
  ⟨settled.heap.use held, settled.contexts, settled.objects_lt, settled.shares_lt⟩

theorem free (settled : n.Settled (o :: os) cs) : (n.free o).Settled os cs :=
  ⟨settled.heap.free, settled.contexts,
    fun p held => settled.objects_lt p (List.mem_cons_of_mem _ held), settled.shares_lt⟩

theorem useContext (settled : n.Settled os cs) (held : c ∈ cs) : (n.useContext c).Settled os cs :=
  ⟨settled.heap, settled.contexts.use held, settled.objects_lt, settled.shares_lt⟩

theorem retain (settled : n.Settled os cs) (held : c ∈ cs) :
    (n.retain c).Settled os (c :: cs) where
  heap := settled.heap
  contexts := settled.contexts.retain held
  objects_lt := settled.objects_lt
  shares_lt := by
    intro b member
    rcases List.mem_cons.mp member with rfl | member
    · exact settled.shares_lt b held
    · exact settled.shares_lt b member

theorem leave (settled : n.Settled os (c :: cs)) : (n.leave c).Settled os cs :=
  ⟨settled.heap, settled.contexts.release, settled.objects_lt,
    fun b held => settled.shares_lt b (List.mem_cons_of_mem _ held)⟩

theorem newContext (settled : n.Settled os cs) : n.newContext.Settled os (n.next :: cs) where
  heap := settled.heap
  contexts := settled.contexts.create fun held => Nat.lt_irrefl _ (settled.shares_lt _ held)
  objects_lt p held := Nat.lt_succ_of_lt (settled.objects_lt p held)
  shares_lt := by
    intro b member
    rcases List.mem_cons.mp member with rfl | member
    · exact Nat.lt_succ_self _
    · exact Nat.lt_succ_of_lt (settled.shares_lt b member)

theorem closeStreams (settled : n.Settled os cs) : (n.closeStreams h).Settled os cs :=
  ⟨settled.heap, settled.contexts, settled.objects_lt, settled.shares_lt⟩

theorem startStreaming {interface user : Nat} (settled : n.Settled os cs) :
    (n.startStreaming h interface user).Settled os cs :=
  ⟨settled.heap, settled.contexts, settled.objects_lt, settled.shares_lt⟩

end Settled

theorem useHandle_streams : (n.useHandle h).streams = n.streams := by
  unfold useHandle
  dsimp only
  split <;> rfl

private theorem useHandle_next : (n.useHandle h).next = n.next := by
  unfold useHandle
  dsimp only
  split <;> rfl

theorem release_streams {stream : Stream} (streams : stream ∈ (n.release v).streams) :
    stream ∈ n.streams := by
  cases v with
  | handle h =>
      unfold release at streams
      dsimp only at streams
      have kept : stream ∈ (n.stopStreaming h).streams := by
        split at streams <;> exact streams
      rw [stopStreaming, closeStreams, useHandle_streams] at kept
      exact List.mem_of_mem_filter kept
  | context | device | descriptor | control | callback | fd => exact streams

theorem release_handle {stream : Stream} (streams : stream ∈ (n.release (.handle h)).streams) :
    stream.handle ≠ h.id := by
  unfold release at streams
  dsimp only at streams
  have kept : stream ∈ (n.stopStreaming h).streams := by
    split at streams <;> exact streams
  have other := List.of_mem_filter kept
  rwa [bne_iff_ne] at other

namespace Owns

theorem perm (owns : n.Owns vs) (same : vs.Perm ws) : n.Owns ws where
  heap := owns.heap.perm (same.flatMap_right _)
  contexts := owns.contexts.perm (same.flatMap_right _)
  objects_lt o held := owns.objects_lt o ((same.flatMap_right _).mem_iff.mpr held)
  shares_lt c held := owns.shares_lt c ((same.flatMap_right _).mem_iff.mpr held)

theorem object (held : v ∈ vs) (part : o ∈ v.objects) : o ∈ vs.flatMap Value.objects :=
  List.mem_flatMap.mpr ⟨v, held, part⟩

theorem share (held : v ∈ vs) (part : c ∈ v.shares) : c ∈ vs.flatMap Value.shares :=
  List.mem_flatMap.mpr ⟨v, held, part⟩

theorem use (owns : n.Owns vs) (held : v ∈ vs) (part : o ∈ v.objects) : (n.use o).Owns vs :=
  Settled.use owns (object held part)

theorem useDevice (owns : n.Owns vs) (held : .device d ∈ vs) : (n.useDevice d).Owns vs :=
  (owns.use held (List.mem_singleton_self _)).useContext (share held (List.mem_singleton_self _))

theorem useHandle (owns : n.Owns vs) (held : .handle h ∈ vs) : (n.useHandle h).Owns vs := by
  have used := (owns.use held List.mem_cons_self).useContext
    (share held (List.mem_singleton_self _))
  unfold Native.useHandle
  dsimp only
  cases wrapped : h.fd with
  | none => exact used
  | some fd =>
      refine Owns.use used held ?_
      rw [Value.objects, wrapped]
      exact List.mem_cons_of_mem _ (List.mem_singleton_self _)

theorem stopStreaming (owns : n.Owns vs) (held : .handle h ∈ vs) : (n.stopStreaming h).Owns vs :=
  (owns.useHandle held).closeStreams

theorem useControl {control : Id} (owns : n.Owns vs) (held : .handle h ∈ vs)
    (known : .control control ∈ vs) : (n.useControl h control).Owns vs :=
  (owns.useHandle held).use known (List.mem_singleton_self _)

theorem release (owns : n.Owns (v :: vs)) : (n.release v).Owns vs := by
  cases v with
  | context c => exact Settled.leave owns
  | descriptor id | control id | callback id | fd id => exact Settled.free owns
  | device d => exact (Settled.free (owns.useDevice List.mem_cons_self)).leave
  | handle h =>
      have closed := (Settled.free (owns.stopStreaming List.mem_cons_self)).leave
      rw [Native.release]
      cases wrapped : h.fd with
      | none =>
          rw [wrapped] at closed
          exact closed
      | some fd =>
          rw [wrapped] at closed
          exact closed.free

theorem newContext (owns : n.Owns vs) : n.newContext.Owns (.context n.next :: vs) :=
  Settled.newContext owns

theorem device (owns : n.Owns vs) (held : .context c ∈ vs) :
    (n.device c).Owns (.device { id := n.next, context := c } :: vs) :=
  (Settled.retain owns (share held (List.mem_singleton_self _))).alloc rfl

theorem deviceList (count : Nat) (owns : n.Owns vs) (held : .context c ∈ vs) :
    (Native.deviceList c count n).1.Owns
      ((Native.deviceList c count n).2.map Value.device ++ vs) := by
  induction count generalizing n vs with
  | zero => exact owns
  | succ count ih =>
      have listed := ih (owns.device held) (List.mem_cons_of_mem _ held)
      exact listed.perm List.perm_middle

theorem getDescriptor (owns : n.Owns vs) (held : .device d ∈ vs) :
    (n.getDescriptor d).Owns (.descriptor n.next :: vs) :=
  Settled.alloc (owns.useDevice held) rfl

theorem openDevice (owns : n.Owns vs) (held : .device d ∈ vs) :
    (n.openDevice d).Owns (.handle { id := n.next, context := d.context } :: vs) :=
  (Settled.retain (owns.useDevice held) (share held (List.mem_singleton_self _))).alloc rfl

theorem getStreamCtrl (owns : n.Owns vs) (held : .handle h ∈ vs) :
    (n.getStreamCtrl h).Owns (.control n.next :: vs) :=
  Settled.alloc (owns.useHandle held) useHandle_next.symm

theorem callback (owns : n.Owns vs) :
    (n.alloc (.callback n.next)).Owns (.callback n.next :: vs) :=
  Settled.alloc owns rfl

end Owns

end Native

/-! ### Who owns what -/

def Pc.values : Pc → List Value
  | .listing _ context => [.context context]
  | .describing _ context devices _ _ => UvcCamera.discovered context devices
  | .reading _ context devices _ _ descriptor _ =>
      .descriptor descriptor :: UvcCamera.discovered context devices
  | .opening _ context devices _ => UvcCamera.discovered context devices
  | .querying context devices h => .handle h :: UvcCamera.discovered context devices
  | .discarding context devices h => .handle h :: UvcCamera.discovered context devices
  | .storingHandle context h => [.handle h, .context context]
  | .storingContext context => [.context context]
  | .probing _ control => [.control control]
  | .beginning _ control => [.control control]
  | .starting _ control user => [.callback user, .control control]
  | .aborting _ control user => [.callback user, .control control]
  | .rollingBack _ control user => [.callback user, .control control]
  | .installing _ control user => [.callback user, .control control]
  | .keeping control => [.control control]
  | .dropping values => values
  | _ => []

def Purpose.exclusive : Purpose → Bool
  | .start => true
  | _ => false

/-- It may write the fields, and holds `lifecycle`. -/
def Pc.exclusive : Pc → Bool
  | .creating purpose => purpose.exclusive
  | .listing purpose _ => purpose.exclusive
  | .describing purpose _ _ _ _ => purpose.exclusive
  | .reading purpose _ _ _ _ _ _ => purpose.exclusive
  | .opening purpose _ _ _ => purpose.exclusive
  | .done | .querying _ _ _ | .entering | .leaving _ | .asking | .controlling _ | .dropping _ =>
      false
  | _ => true

/-- The handle that it uses, whose mutex it holds. -/
def Pc.borrowed : Pc → Option DeviceHandle
  | .selecting h => some h
  | .probing h _ => some h
  | .beginning h _ => some h
  | .starting h _ _ => some h
  | .aborting h _ _ => some h
  | .rollingBack h _ _ => some h
  | .installing h _ _ => some h
  | .controlling h => some h
  | _ => none

/-- A stream may run whose callback it has not stored yet. -/
def Pc.installs : Pc → Bool
  | .installing _ _ _ => true
  | _ => false

def Pc.searches : Pc → Bool
  | .creating _ => true
  | .listing _ _ => true
  | .describing _ _ _ _ _ => true
  | .reading _ _ _ _ _ _ _ => true
  | .opening _ _ _ _ => true
  | .querying _ _ _ => true
  | _ => false

def Pc.Listed : Pc → Prop
  | .opening _ _ devices d => d ∈ devices
  | _ => True

namespace UvcCamera

variable {s s' : UvcCamera} {pc pc' : Pc} {stream : Stream} {rest : List Value}

def fields (s : UvcCamera) : List Value :=
  (s.context.map Value.context).toList ++ ((s.deviceHandle.map Value.handle).toList ++
    ((s.streamCtrl.map Value.control).toList ++ (s.callback.map Value.callback).toList))

def owned (s : UvcCamera) : List Value := s.fields ++ s.threads.flatMap Pc.values

def Feeds (s : UvcCamera) (stream : Stream) : Prop :=
  (∃ h, s.deviceHandle = some h ∧ h.id = stream.handle) ∧
    (s.callback = some stream.user ∨
      ∃ (k : Nat) (h : DeviceHandle) (control : Id),
        s.threads[k]? = some (.installing h control stream.user))

def Fits (s : UvcCamera) : Pc → Prop
  | .installing _ _ user => ∀ stream ∈ s.native.streams, stream.user = user
  | .takingCallback _ => s.native.streams = []
  | .takingControl _ => s.callback = none
  | .closing => s.callback = none ∧ s.streamCtrl = none
  | .exiting => s.callback = none ∧ s.streamCtrl = none ∧ s.deviceHandle = none
  | _ => True

structure Sound (s : UvcCamera) : Prop where
  owns : s.native.Owns s.owned
  exclusive : ∀ (k : Nat) (pc : Pc), s.threads[k]? = some pc → pc.exclusive = true →
    s.lifecycle = some k
  borrowed : ∀ (k : Nat) (pc : Pc) h, s.threads[k]? = some pc → pc.borrowed = some h →
    s.handleLock = some k ∧ s.deviceHandle = some h
  listed : ∀ (k : Nat) (pc : Pc), s.threads[k]? = some pc → pc.Listed
  feeds : ∀ stream ∈ s.native.streams, s.Feeds stream
  fits : ∀ (k : Nat) (pc : Pc), s.threads[k]? = some pc → s.Fits pc

/-! ### Steps of a thread -/

private theorem threads_split (before : s.threads[k]? = some pc) :
    ∃ rest, (s.threads.flatMap Pc.values).Perm (pc.values ++ rest) ∧
      ∀ pc' : Pc, ((s.threads.set k pc').flatMap Pc.values).Perm (pc'.values ++ rest) := by
  obtain ⟨less, rfl⟩ := List.getElem?_eq_some_iff.mp before
  have gather (pc' : Pc) (early late : List Pc) :
      ((early ++ pc' :: late).flatMap Pc.values).Perm
        (pc'.values ++ (early.flatMap Pc.values ++ late.flatMap Pc.values)) := by
    rw [List.flatMap_append, List.flatMap_cons]
    exact List.perm_append_comm_assoc _ _ _
  refine ⟨(s.threads.take k).flatMap Pc.values ++ (s.threads.drop (k + 1)).flatMap Pc.values,
    ?_, fun pc' => ?_⟩
  · have whole : s.threads = s.threads.take k ++ s.threads[k] :: s.threads.drop (k + 1) := by
      rw [List.getElem_cons_drop, List.take_append_drop]
    rw [congrArg (List.flatMap Pc.values) whole]
    exact gather _ _ _
  · rw [List.set_eq_take_append_cons_drop, if_pos less]
    exact gather _ _ _

/-- What thread `k` does: its locals and the fields keep owning everything, and it writes only what
its guards cover. -/
structure Moves (s s' : UvcCamera) (k : Nat) (pc pc' : Pc) : Prop where
  before : s.threads[k]? = some pc
  threads : s'.threads = s.threads.set k pc'
  owns : ∀ rest, s.native.Owns (pc.values ++ (s.fields ++ rest)) →
    s'.native.Owns (pc'.values ++ (s'.fields ++ rest))
  exclusive : pc'.exclusive = true → s'.lifecycle = some k
  lifecycle : ∀ j, j ≠ k → s.lifecycle = some j → s'.lifecycle = some j
  borrowed : ∀ h, pc'.borrowed = some h → s'.handleLock = some k ∧ s'.deviceHandle = some h
  handle : ∀ j, j ≠ k → s.handleLock = some j →
    s'.handleLock = some j ∧ s'.deviceHandle = s.deviceHandle
  listed : pc'.Listed
  feeds : ∀ stream ∈ s'.native.streams, s'.Feeds stream
  fits : s'.Fits pc'
  frame : pc.exclusive = true ∨ s'.callback = s.callback ∧ s'.streamCtrl = s.streamCtrl ∧
    s'.deviceHandle = s.deviceHandle ∧ s'.native.streams ⊆ s.native.streams

private theorem fits_of_shared (shared : pc.exclusive = false) : s.Fits pc := by
  cases pc with
  | installing | takingCallback | takingControl | closing | exiting => cases shared
  | _ => trivial

theorem Fits.same (fits : s.Fits pc) (callback : s'.callback = s.callback)
    (streamCtrl : s'.streamCtrl = s.streamCtrl) (deviceHandle : s'.deviceHandle = s.deviceHandle)
    (streams : s'.native.streams ⊆ s.native.streams) : s'.Fits pc := by
  cases pc with
  | installing h control user => exact fun stream held => fits stream (streams held)
  | takingCallback cleanup => exact List.subset_nil.mp (fits ▸ streams)
  | takingControl cleanup => exact callback.trans fits
  | closing => exact ⟨callback.trans fits.1, streamCtrl.trans fits.2⟩
  | exiting =>
      exact ⟨callback.trans fits.1, streamCtrl.trans fits.2.1, deviceHandle.trans fits.2.2⟩
  | _ => trivial

theorem Moves.sound (moves : Moves s s' k pc pc') (sound : s.Sound) : s'.Sound := by
  have less : k < s.threads.length := (List.getElem?_eq_some_iff.mp moves.before).1
  have found (j : Nat) (pc'' : Pc) (here : s'.threads[j]? = some pc'') :
      j = k ∧ pc'' = pc' ∨ j ≠ k ∧ s.threads[j]? = some pc'' := by
    rw [moves.threads, List.getElem?_set] at here
    by_cases same : k = j
    · rw [if_pos same, if_pos less] at here
      exact Or.inl ⟨same.symm, (Option.some.inj here).symm⟩
    · rw [if_neg same] at here
      exact Or.inr ⟨Ne.symm same, here⟩
  refine ⟨?_, fun j pc'' here alone => ?_, fun j pc'' h here uses => ?_, fun j pc'' here => ?_,
    moves.feeds, fun j pc'' here => ?_⟩
  · obtain ⟨rest, split, after⟩ := threads_split moves.before
    have mine : s.owned.Perm (pc.values ++ (s.fields ++ rest)) :=
      (split.append_left _).trans (List.perm_append_comm_assoc _ _ _)
    have yours : s'.owned.Perm (pc'.values ++ (s'.fields ++ rest)) := by
      rw [owned, moves.threads]
      exact ((after pc').append_left _).trans (List.perm_append_comm_assoc _ _ _)
    exact (moves.owns rest (sound.owns.perm mine)).perm yours.symm
  · rcases found j pc'' here with ⟨rfl, rfl⟩ | ⟨other, before⟩
    · exact moves.exclusive alone
    · exact moves.lifecycle j other (sound.exclusive j pc'' before alone)
  · rcases found j pc'' here with ⟨rfl, rfl⟩ | ⟨other, before⟩
    · exact moves.borrowed h uses
    · obtain ⟨locked, known⟩ := sound.borrowed j pc'' h before uses
      obtain ⟨still, same⟩ := moves.handle j other locked
      exact ⟨still, same.trans known⟩
  · rcases found j pc'' here with ⟨rfl, rfl⟩ | ⟨other, before⟩
    · exact moves.listed
    · exact sound.listed j pc'' before
  · rcases found j pc'' here with ⟨rfl, rfl⟩ | ⟨other, before⟩
    · exact moves.fits
    · rcases moves.frame with alone | ⟨callback, streamCtrl, deviceHandle, streams⟩
      · refine fits_of_shared ?_
        cases mine : pc''.exclusive with
        | false => rfl
        | true =>
            have holder := sound.exclusive j pc'' before mine
            rw [sound.exclusive k pc moves.before alone] at holder
            exact absurd (Option.some.inj holder).symm other
      · exact (sound.fits j pc'' before).same callback streamCtrl deviceHandle streams

theorem threads_other {j : Nat} (other : j ≠ k) : (s.goto k pc').threads[j]? = s.threads[j]? :=
  List.getElem?_set_ne (Ne.symm other)

theorem moves_local (sound : s.Sound) (before : s.threads[k]? = some pc) {b : Bool}
    (owns : ∀ vs, s.native.Owns (pc.values ++ (s.fields ++ vs)) →
      n.Owns (pc'.values ++ (s.fields ++ vs)))
    (streams : n.streams ⊆ s.native.streams)
    (exclusive : pc'.exclusive = true → pc.exclusive = true)
    (borrowed : ∀ h, pc'.borrowed = some h → pc.borrowed = some h) (listed : pc'.Listed)
    (running : pc.installs = false)
    (fits : ({ s with native := n, streaming := b }.goto k pc').Fits pc') :
    Moves s ({ s with native := n, streaming := b }.goto k pc') k pc pc' where
  before := before
  threads := rfl
  owns := owns
  exclusive alone := sound.exclusive k pc before (exclusive alone)
  lifecycle _ _ held := held
  borrowed h uses := sound.borrowed k pc h before (borrowed h uses)
  handle _ _ held := ⟨held, rfl⟩
  listed := listed
  feeds stream held := by
    obtain ⟨known, installed | ⟨j, h, control, installs⟩⟩ := sound.feeds stream (streams held)
    · exact ⟨known, Or.inl installed⟩
    · refine ⟨known, Or.inr ⟨j, h, control, ?_⟩⟩
      rw [threads_other]
      · exact installs
      · rintro rfl
        obtain rfl := Option.some.inj (before.symm.trans installs)
        cases running
  fits := fits
  frame := Or.inr ⟨rfl, rfl, rfl, streams⟩

theorem moves_fields (sound : s.Sound) (before : s.threads[k]? = some pc)
    (alone : pc.exclusive = true) (threads : s'.threads = s.threads.set k pc')
    (lifecycle : s'.lifecycle = s.lifecycle) (handleLock : s'.handleLock = s.handleLock)
    (handle : s'.deviceHandle = s.deviceHandle ∨ s.handleLock = none)
    (owns : ∀ vs, s.native.Owns (pc.values ++ (s.fields ++ vs)) →
      s'.native.Owns (pc'.values ++ (s'.fields ++ vs)))
    (borrowed : ∀ h, pc'.borrowed = some h → pc.borrowed = some h ∧
      s'.deviceHandle = s.deviceHandle)
    (listed : pc'.Listed) (feeds : ∀ stream ∈ s'.native.streams, s'.Feeds stream)
    (fits : s'.Fits pc') : Moves s s' k pc pc' where
  before := before
  threads := threads
  owns := owns
  exclusive _ := lifecycle.trans (sound.exclusive k pc before alone)
  lifecycle _ _ held := lifecycle.trans held
  borrowed h uses := by
    obtain ⟨earlier, same⟩ := borrowed h uses
    obtain ⟨locked, known⟩ := sound.borrowed k pc h before earlier
    exact ⟨handleLock.trans locked, same.trans known⟩
  handle j _ held := by
    refine ⟨handleLock.trans held, ?_⟩
    rcases handle with same | free
    · exact same
    · rw [free] at held
      cases held
  listed := listed
  feeds := feeds
  fits := fits
  frame := Or.inl alone

/-! ### Discovery -/

structure Looks (purpose : Purpose) (context : Id) (devices : List Device) (pc : Pc) : Prop where
  values : pc.values = discovered context devices
  exclusive : pc.exclusive = true → purpose.exclusive = true
  borrowed : pc.borrowed = none
  listed : pc.Listed
  fits : ∀ s : UvcCamera, s.Fits pc

section Discovery

variable {purpose : Purpose} {context : Id} {devices : List Device}

theorem looks_dropping : Looks purpose context devices (.dropping (discovered context devices)) :=
  ⟨rfl, fun alone => (nomatch alone), rfl, trivial, fun _ => trivial⟩

theorem looks_describing (i : Nat) (found : Option Nat) :
    Looks purpose context devices (.describing purpose context devices i found) :=
  ⟨rfl, id, rfl, trivial, fun _ => trivial⟩

theorem looks_pick (i : Option Nat) :
    Looks purpose context devices (pick purpose context devices i) := by
  unfold pick
  split
  · rename_i d chosen
    obtain ⟨i, -, here⟩ := Option.bind_eq_some_iff.mp chosen
    exact ⟨rfl, id, rfl, List.mem_of_getElem? here, fun _ => trivial⟩
  · exact looks_dropping

theorem looks_listed : Looks purpose context devices (s.listed purpose context devices) := by
  cases purpose with
  | start =>
      rw [listed]
      split
      · exact looks_describing 0 none
      · exact looks_pick _
  | configs index => exact looks_pick _
  | list => exact looks_describing 0 none

private theorem looks_described (i : Nat) (found : Option Nat) (expected : Bool) :
    Looks purpose context devices (described purpose context devices i found expected) := by
  unfold described
  split
  · cases found with
    | none => exact looks_describing _ _
    | some first => exact looks_dropping
  · exact looks_describing _ _

private theorem looks_searched (found : Option Nat) :
    Looks purpose context devices (searched purpose context devices found) := by
  cases purpose with
  | list => exact looks_dropping
  | start | configs => exact looks_pick _

theorem Looks.moves (looks : Looks purpose context devices pc') (sound : s.Sound)
    (before : s.threads[k]? = some pc)
    (owns : ∀ vs, s.native.Owns (pc.values ++ vs) → n.Owns (discovered context devices ++ vs))
    (streams : n.streams ⊆ s.native.streams) (exclusive : pc.exclusive = purpose.exclusive)
    (running : pc.installs = false) :
    Moves s ({ s with native := n }.goto k pc') k pc pc' := by
  refine moves_local sound before (fun vs held => ?_) streams
    (fun alone => exclusive.trans (looks.exclusive alone)) (fun h uses => ?_) looks.listed running
    (looks.fits _)
  · rw [looks.values]
    exact owns _ held
  · rw [looks.borrowed] at uses
    cases uses

private theorem deviceList_streams (count : Nat) :
    (Native.deviceList c count n).1.streams = n.streams := by
  induction count generalizing n with
  | zero => rfl
  | succ count ih => exact ih

theorem device_mem (known : d ∈ devices) : .device d ∈ discovered context devices ++ vs :=
  List.mem_append_left _ (List.mem_append_left _ (List.mem_map_of_mem known))

theorem discovery_moves {answer : Answer} (sound : s.Sound) (before : s.threads[k]? = some pc)
    (taken : s.run k answer pc = some s')
    (searching : pc.searches = true) : ∃ pc', Moves s s' k pc pc' := by
  cases pc with
  | creating purpose =>
      simp only [run] at taken
      split at taken
      · cases taken
        refine ⟨_, moves_local sound before (fun vs owns => owns.newContext) (fun _ held => held)
          id (fun _ uses => uses) trivial rfl trivial⟩
      · cases taken
        refine ⟨_, moves_local sound before (fun vs owns => owns) (fun _ held => held)
          (fun alone => (nomatch alone)) (fun _ uses => uses) trivial rfl trivial⟩
  | listing purpose context =>
      simp only [run] at taken
      split at taken
      · cases taken
        refine ⟨_, looks_listed.moves sound before (fun vs owns => ?_) ?_ rfl rfl⟩
        · rw [discovered, List.append_assoc]
          exact Native.Owns.deviceList _ owns List.mem_cons_self
        · rw [deviceList_streams]
          exact fun _ held => held
      · cases taken
        refine ⟨_, moves_local sound before (fun vs owns => owns) (fun _ held => held)
          (fun alone => (nomatch alone)) (fun _ uses => uses) trivial rfl trivial⟩
  | describing purpose context devices i found =>
      simp only [run] at taken
      cases here : devices[i]? with
      | none =>
          rw [here] at taken
          cases taken
          refine ⟨_, (looks_searched found).moves sound before (fun vs owns => owns)
            (fun _ held => held) rfl rfl⟩
      | some d =>
          simp only [here] at taken
          split at taken
          · cases taken
            refine ⟨_, moves_local sound before (fun vs owns => ?_) (fun _ held => held) id
              (fun _ uses => uses) trivial rfl trivial⟩
            exact owns.getDescriptor (device_mem (List.mem_of_getElem? here))
          · cases taken
            refine ⟨_, (looks_describing (i + 1) found).moves sound before (fun vs owns => owns)
              (fun _ held => held) rfl rfl⟩
  | reading purpose context devices i found descriptor expected =>
      cases taken
      refine ⟨_, (looks_described i found expected).moves sound before
        (fun vs owns => owns.release) (fun _ held => held) rfl rfl⟩
  | opening purpose context devices d =>
      simp only [run] at taken
      split at taken
      · cases taken
        have owns (vs : List Value) (owned : s.native.Owns (discovered context devices ++ vs)) :=
          owned.openDevice (device_mem (sound.listed k _ before))
        cases purpose with
        | start =>
            refine ⟨_, moves_local sound before (fun vs => owns _) (fun _ held => held) id
              (fun _ uses => uses) trivial rfl trivial⟩
        | configs | list =>
            refine ⟨_, moves_local sound before (fun vs => owns _) (fun _ held => held) id
              (fun _ uses => uses) trivial rfl trivial⟩
      · cases taken
        refine ⟨_, looks_dropping.moves sound before (fun vs owns => owns)
          (fun _ held => held) rfl rfl⟩
  | querying context devices h =>
      cases taken
      refine ⟨_, moves_local sound before (fun vs owns => owns.useHandle List.mem_cons_self) ?_
        id (fun _ uses => uses) trivial rfl trivial⟩
      rw [Native.useHandle_streams]
      exact fun _ held => held
  | _ => cases searching

end Discovery

/-! ### Guards -/

theorem enter_moves (sound : s.Sound) (before : s.threads[k]? = some pc)
    (taken : s.enter k pc' = some s') (nothing : pc.values = []) (after : pc'.values = [])
    (uses : pc'.borrowed = none) (listed : pc'.Listed) (fits : ∀ s : UvcCamera, s.Fits pc') :
    Moves s s' k pc pc' := by
  unfold enter at taken
  split at taken
  · cases taken
  · rename_i free
    cases taken
    refine
      { before := before
        threads := rfl
        owns := fun vs owns => ?_
        exclusive := fun _ => rfl
        lifecycle := fun j _ held => (nomatch free.symm.trans held)
        borrowed := fun h borrows => (nomatch uses.symm.trans borrows)
        handle := fun j _ held => ⟨held, rfl⟩
        listed := listed
        feeds := fun stream held => ?_
        fits := fits _
        frame := Or.inr ⟨rfl, rfl, rfl, fun _ held => held⟩ }
    · rw [nothing] at owns
      rw [after]
      exact owns
    · obtain ⟨known, installed | ⟨j, h, control, installs⟩⟩ := sound.feeds stream held
      · exact ⟨known, Or.inl installed⟩
      · cases (sound.exclusive j _ installs rfl).symm.trans free

theorem borrow_moves {found : DeviceHandle → Pc} (sound : s.Sound)
    (before : s.threads[k]? = some pc) (taken : s.borrow k found = some s')
    (nothing : pc.values = []) (values : ∀ h, (found h).values = [])
    (uses : ∀ h, (found h).borrowed = some h)
    (exclusive : ∀ h, (found h).exclusive = pc.exclusive) (listed : ∀ h, (found h).Listed)
    (fits : ∀ (s : UvcCamera) h, s.Fits (found h)) : Moves s s' k pc (s.lent found) := by
  unfold borrow at taken
  split at taken
  · cases taken
  · rename_i free
    cases taken
    have lends : s.lent found = .dropping [] ∨
        ∃ h, s.deviceHandle = some h ∧ s.lent found = found h := by
      unfold lent
      cases s.deviceHandle with
      | none => exact Or.inl rfl
      | some h => exact Or.inr ⟨h, rfl, rfl⟩
    refine
      { before := before
        threads := rfl
        owns := fun vs owns => ?_
        exclusive := fun alone => ?_
        lifecycle := fun j _ held => held
        borrowed := fun h borrows => ⟨rfl, ?_⟩
        handle := fun j _ held => (nomatch free.symm.trans held)
        listed := ?_
        feeds := fun stream held => ?_
        fits := ?_
        frame := Or.inr ⟨rfl, rfl, rfl, fun _ held => held⟩ }
    · rw [nothing] at owns
      rcases lends with absent | ⟨h, -, found⟩
      · rw [absent]
        exact owns
      · rw [found, values h]
        exact owns
    · rcases lends with absent | ⟨h, -, found⟩
      · rw [absent] at alone
        cases alone
      · rw [found, exclusive h] at alone
        exact sound.exclusive k pc before alone
    · rcases lends with absent | ⟨h', known, found⟩
      · rw [absent] at borrows
        cases borrows
      · rw [found, uses h'] at borrows
        exact known.trans borrows
    · rcases lends with absent | ⟨h, -, found⟩
      · rw [absent]
        trivial
      · rw [found]
        exact listed h
    · obtain ⟨known, installed | ⟨j, h, control, installs⟩⟩ := sound.feeds stream held
      · exact ⟨known, Or.inl installed⟩
      · cases (sound.borrowed j _ h installs rfl).1.symm.trans free
    · rcases lends with absent | ⟨h, -, found⟩
      · rw [absent]
        trivial
      · rw [found]
        exact fits _ h

private theorem unlock_moves (before : s.threads[k]? = some (.dropping [])) (sound : s.Sound) :
    Moves s ((s.unlock k).goto k .done) k (.dropping []) .done where
  before := before
  threads := rfl
  owns _ owns := owns
  exclusive alone := nomatch alone
  lifecycle j other held := by
    change (if s.lifecycle = some k then none else s.lifecycle) = some j
    rw [held, if_neg fun same => other (Option.some.inj same)]
  borrowed _ uses := nomatch uses
  handle j other held := by
    refine ⟨?_, rfl⟩
    change (if s.handleLock = some k then none else s.handleLock) = some j
    rw [held, if_neg fun same => other (Option.some.inj same)]
  listed := trivial
  feeds stream held := by
    obtain ⟨known, installed | ⟨j, h, control, installs⟩⟩ := sound.feeds stream held
    · exact ⟨known, Or.inl installed⟩
    · refine ⟨known, Or.inr ⟨j, h, control, ?_⟩⟩
      change (s.threads.set k _)[j]? = _
      rw [List.getElem?_set_ne]
      · exact installs
      · rintro rfl
        cases before.symm.trans installs
  fits := trivial
  frame := Or.inr ⟨rfl, rfl, rfl, fun _ held => held⟩

/-! ### Fields -/

theorem releaseField_owns {old : Option Value} (owns : s.native.Owns (old.toList ++ vs)) :
    (s.releaseField old).Owns vs := by
  cases old with
  | none => exact owns
  | some value => exact owns.release

theorem releaseField_streams {old : Option Value}
    (streams : stream ∈ (s.releaseField old).streams) : stream ∈ s.native.streams := by
  cases old with
  | none => exact streams
  | some value => exact Native.release_streams streams

theorem releaseHandle_streams (sound : s.Sound) :
    (s.releaseField (s.deviceHandle.map .handle)).streams = [] := by
  refine List.eq_nil_iff_forall_not_mem.mpr fun stream streams => ?_
  obtain ⟨⟨h, known, same⟩, -⟩ := sound.feeds stream (releaseField_streams streams)
  rw [known] at streams
  exact Native.release_handle streams same.symm

theorem handle_mem (known : s.deviceHandle = some h) : .handle h ∈ s.fields := by
  refine List.mem_append_right _ (List.mem_append_left _ ?_)
  rw [known]
  exact List.mem_singleton_self _

theorem stopStreaming_streams (sound : s.Sound) (known : s.deviceHandle = some h) :
    (s.native.stopStreaming h).streams = [] := by
  refine List.eq_nil_iff_forall_not_mem.mpr fun stream streams => ?_
  rw [Native.stopStreaming, Native.closeStreams, Native.useHandle_streams] at streams
  obtain ⟨⟨h', known', same⟩, -⟩ := sound.feeds stream (List.mem_of_mem_filter streams)
  obtain rfl : h = h' := Option.some.inj (known.symm.trans known')
  have other := List.of_mem_filter streams
  rw [bne_iff_ne] at other
  exact other same.symm

theorem no_streams (sound : s.Sound) (absent : s.deviceHandle = none) : s.native.streams = [] := by
  refine List.eq_nil_iff_forall_not_mem.mpr fun stream streams => ?_
  obtain ⟨⟨h, known, -⟩, -⟩ := sound.feeds stream streams
  cases absent.symm.trans known

private theorem installing_alone (sound : s.Sound) (before : s.threads[k]? = some pc)
    (alone : pc.exclusive = true) {j : Nat} {control user : Id}
    (installs : s.threads[j]? = some (.installing h control user)) :
    pc = .installing h control user := by
  have mine := sound.exclusive k pc before alone
  obtain rfl := Option.some.inj (mine.symm.trans (sound.exclusive j _ installs rfl))
  exact Option.some.inj (before.symm.trans installs)

theorem feeds_field (sound : s.Sound) (before : s.threads[k]? = some pc)
    (alone : pc.exclusive = true) (running : pc.installs = false)
    (streams : stream ∈ s.native.streams) : s.callback = some stream.user := by
  obtain ⟨-, installed | ⟨j, h, control, installs⟩⟩ := sound.feeds stream streams
  · exact installed
  · rw [installing_alone sound before alone installs] at running
    cases running

/-! ### Starting -/

section Starting

variable {context control user : Id} {devices : List Device} {answer : Answer}

private theorem discarding_moves (sound : s.Sound)
    (before : s.threads[k]? = some (.discarding context devices h))
    (taken : s.run k answer (.discarding context devices h) = some s') :
    ∃ pc', Moves s s' k (.discarding context devices h) pc' := by
  cases devices with
  | nil =>
      cases taken
      exact ⟨_, moves_local sound before (fun vs owns => owns) (fun _ held => held) id
        (fun _ uses => uses) trivial rfl trivial⟩
  | cons d rest =>
      cases taken
      refine ⟨_, moves_local sound before (fun vs owns => ?_)
        (fun _ held => Native.release_streams held) id (fun _ uses => uses) trivial rfl trivial⟩
      have owned : s.native.Owns
          (.handle h :: .device d :: (discovered context rest ++ (s.fields ++ vs))) := owns
      exact (owned.perm (.swap _ _ _)).release

private theorem storingHandle_moves (sound : s.Sound)
    (before : s.threads[k]? = some (.storingHandle context h))
    (taken : s.run k answer (.storingHandle context h) = some s') :
    Moves s s' k (.storingHandle context h) (.storingContext context) := by
  simp only [run] at taken
  split at taken
  · cases taken
  · rename_i free
    cases taken
    refine moves_fields sound before rfl rfl rfl rfl (Or.inr free) (fun vs owns => ?_)
      (fun _ uses => (nomatch uses)) trivial (fun stream held => ?_) trivial
    · refine releaseField_owns (owns.perm (List.perm_iff_count.mpr fun a => ?_))
      simp only [goto, fields, Pc.values, Option.map_some, Option.toList_some, List.count_append,
        List.count_cons, List.count_nil]
      omega
    · change stream ∈ (s.releaseField _).streams at held
      rw [releaseHandle_streams sound] at held
      cases held

private theorem storingContext_moves (sound : s.Sound)
    (before : s.threads[k]? = some (.storingContext context))
    (taken : s.run k answer (.storingContext context) = some s') :
    Moves s s' k (.storingContext context) .borrowing := by
  cases taken
  refine moves_fields sound before rfl rfl rfl rfl (Or.inl rfl) (fun vs owns => ?_)
    (fun _ uses => (nomatch uses)) trivial (fun stream held => ?_) trivial
  · refine releaseField_owns (owns.perm (List.perm_iff_count.mpr fun a => ?_))
    simp only [goto, fields, Pc.values, Option.map_some, Option.toList_some, List.count_append,
      List.count_cons, List.count_nil]
    omega
  · have streams : stream ∈ s.native.streams := releaseField_streams held
    have installed := feeds_field sound before rfl rfl streams
    exact ⟨(sound.feeds stream streams).1, Or.inl installed⟩

theorem borrowed_fields (sound : s.Sound) (before : s.threads[k]? = some pc)
    (uses : pc.borrowed = some h) : .handle h ∈ s.fields ++ vs :=
  List.mem_append_left _ (handle_mem (sound.borrowed k pc h before uses).2)

theorem borrowed_mem (sound : s.Sound) (before : s.threads[k]? = some pc)
    (uses : pc.borrowed = some h) : .handle h ∈ ws ++ (s.fields ++ vs) :=
  List.mem_append_right _ (borrowed_fields sound before uses)

private theorem selecting_moves (sound : s.Sound) (before : s.threads[k]? = some (.selecting h))
    (taken : s.run k answer (.selecting h) = some s') :
    ∃ pc', Moves s s' k (.selecting h) pc' := by
  have owns (vs : List Value) (owns : s.native.Owns (s.fields ++ vs)) :=
    owns.getStreamCtrl (borrowed_fields sound before rfl)
  have streams : (s.native.getStreamCtrl h).streams ⊆ s.native.streams := by
    change (s.native.useHandle h).streams ⊆ _
    rw [Native.useHandle_streams]
    exact fun _ held => held
  cases taken
  cases answer.ok with
  | true =>
      exact ⟨_, moves_local sound before owns streams id (fun _ uses => uses) trivial rfl trivial⟩
  | false =>
      exact ⟨_, moves_local sound before owns streams (fun alone => (nomatch alone))
        (fun _ uses => (nomatch uses)) trivial rfl trivial⟩

theorem useControl_streams : (n.useControl h control).streams = n.streams :=
  Native.useHandle_streams

private theorem probing_moves (sound : s.Sound) (before : s.threads[k]? = some (.probing h control))
    (taken : s.run k answer (.probing h control) = some s') :
    ∃ pc', Moves s s' k (.probing h control) pc' := by
  have owns (vs : List Value) (owns : s.native.Owns ([.control control] ++ (s.fields ++ vs))) :=
    owns.useControl (borrowed_mem sound before rfl) List.mem_cons_self
  have streams : (s.native.useControl h control).streams ⊆ s.native.streams := by
    rw [useControl_streams]
    exact fun _ held => held
  cases taken
  cases answer.ok with
  | true =>
      exact ⟨_, moves_local sound before owns streams id (fun _ uses => uses) trivial rfl trivial⟩
  | false =>
      exact ⟨_, moves_local sound before owns streams (fun alone => (nomatch alone))
        (fun _ uses => (nomatch uses)) trivial rfl trivial⟩

theorem beginning_moves (sound : s.Sound) (before : s.threads[k]? = some (.beginning h control))
    (taken : s.run k answer (.beginning h control) = some s') :
    ∃ pc', Moves s s' k (.beginning h control) pc' := by
  simp only [run] at taken
  split at taken
  · cases taken
    exact ⟨_, moves_local sound before (fun vs owns => owns.callback) (fun _ held => held) id
      (fun _ uses => uses) trivial rfl trivial⟩
  · cases taken
    exact ⟨_, moves_local sound before (fun vs owns => owns) (fun _ held => held)
      (fun alone => (nomatch alone)) (fun _ uses => (nomatch uses)) trivial rfl trivial⟩

private theorem starting_moves (sound : s.Sound)
    (before : s.threads[k]? = some (.starting h control user))
    (one : OneInterface s (.run k answer))
    (taken : s.run k answer (.starting h control user) = some s') :
    ∃ pc', Moves s s' k (.starting h control user) pc' := by
  have owns (vs : List Value)
      (owns : s.native.Owns ([.callback user, .control control] ++ (s.fields ++ vs))) :=
    owns.useControl (borrowed_mem sound before rfl)
      (List.mem_cons_of_mem _ List.mem_cons_self)
  obtain ⟨locked, known⟩ := sound.borrowed k _ h before rfl
  simp only [run] at taken
  split at taken
  · rename_i success
    obtain ⟨ok, idle⟩ := Bool.and_eq_true_iff.mp success
    cases taken
    have alone : s.native.streams = [] := by
      refine List.eq_nil_iff_forall_not_mem.mpr fun stream streams => ?_
      obtain ⟨⟨h', known', same⟩, -⟩ := sound.feeds stream streams
      obtain rfl : h = h' := Option.some.inj (known.symm.trans known')
      have interface := one h control user before ok stream streams same.symm
      rw [Native.busy, Bool.not_eq_true', List.any_eq_false] at idle
      exact idle stream streams (by rw [same, interface, beq_self_eq_true, beq_self_eq_true]; rfl)
    have only (stream : Stream) (held : stream ∈
        ((s.native.useControl h control).startStreaming h answer.interface user).streams) :
        stream = { handle := h.id, interface := answer.interface, user := user } := by
      rw [Native.startStreaming, useControl_streams, alone] at held
      exact List.mem_singleton.mp held
    have less : k < s.threads.length := (List.getElem?_eq_some_iff.mp before).1
    refine ⟨_, moves_fields sound before rfl rfl rfl rfl (Or.inl rfl)
      (fun vs held => (owns vs held).startStreaming) (fun _ uses => ⟨uses, rfl⟩) trivial
      (fun stream held => ?_) fun stream held => ?_⟩
    · obtain rfl := only stream held
      refine ⟨⟨h, known, rfl⟩, Or.inr ⟨k, h, control, ?_⟩⟩
      exact List.getElem?_set_self less
    · rw [only stream held]
  · cases taken
    refine ⟨_, moves_local sound before owns ?_ id (fun _ uses => uses) trivial rfl trivial⟩
    rw [useControl_streams]
    exact fun _ held => held

private theorem rollingBack_moves (sound : s.Sound)
    (before : s.threads[k]? = some (.rollingBack h control user))
    (taken : s.run k answer (.rollingBack h control user) = some s') :
    ∃ pc', Moves s s' k (.rollingBack h control user) pc' := by
  obtain ⟨-, known⟩ := sound.borrowed k _ h before rfl
  cases taken
  refine ⟨_, moves_local sound before
    (fun vs owns => owns.stopStreaming (borrowed_mem sound before rfl)) (fun stream held => ?_)
    (fun alone => (nomatch alone)) (fun _ uses => (nomatch uses)) trivial rfl trivial⟩
  rw [stopStreaming_streams sound known] at held
  cases held

private theorem installing_moves (sound : s.Sound)
    (before : s.threads[k]? = some (.installing h control user))
    (taken : s.run k answer (.installing h control user) = some s') :
    Moves s s' k (.installing h control user) (.keeping control) := by
  cases taken
  refine moves_fields sound before rfl rfl rfl rfl (Or.inl rfl) (fun vs owns => ?_)
    (fun _ uses => (nomatch uses)) trivial (fun stream held => ?_) trivial
  · refine releaseField_owns (owns.perm (List.perm_iff_count.mpr fun a => ?_))
    simp only [goto, fields, Pc.values, Option.map_some, Option.toList_some, List.count_append,
      List.count_cons, List.count_nil]
    omega
  · have streams : stream ∈ s.native.streams := releaseField_streams held
    have mine : stream.user = user := sound.fits k _ before stream streams
    exact ⟨(sound.feeds stream streams).1, Or.inl (congrArg some mine.symm)⟩

private theorem keeping_moves (sound : s.Sound) (before : s.threads[k]? = some (.keeping control))
    (taken : s.run k answer (.keeping control) = some s') :
    Moves s s' k (.keeping control) (.dropping []) := by
  cases taken
  refine moves_fields sound before rfl rfl rfl rfl (Or.inl rfl) (fun vs owns => ?_)
    (fun _ uses => (nomatch uses)) trivial (fun stream held => ?_) trivial
  · refine releaseField_owns (owns.perm (List.perm_iff_count.mpr fun a => ?_))
    simp only [goto, fields, Pc.values, Option.map_some, Option.toList_some, List.count_append,
      List.count_cons, List.count_nil]
    omega
  · have streams : stream ∈ s.native.streams := releaseField_streams held
    have installed := feeds_field sound before rfl rfl streams
    exact ⟨(sound.feeds stream streams).1, Or.inl installed⟩

end Starting

/-! ### Stopping -/

section Stopping

variable {cleanup : Bool} {answer : Answer}

private theorem halting_moves (sound : s.Sound) (before : s.threads[k]? = some (.halting cleanup))
    (taken : s.run k answer (.halting cleanup) = some s') :
    Moves s s' k (.halting cleanup) (.takingCallback cleanup) := by
  simp only [run] at taken
  split at taken
  · cases taken
  · cases taken
    have stops : ∀ vs, s.native.Owns (s.fields ++ vs) → (s.halted).Owns (s.fields ++ vs) := by
      intro vs owns
      unfold halted
      cases known : s.deviceHandle with
      | none => exact owns
      | some h => exact owns.stopStreaming (List.mem_append_left _ (handle_mem known))
    have quiet : s.halted.streams = [] := by
      unfold halted
      cases known : s.deviceHandle with
      | none => exact no_streams sound known
      | some h => exact stopStreaming_streams sound known
    refine moves_fields sound before rfl rfl rfl rfl (Or.inl rfl) stops
      (fun _ uses => (nomatch uses)) trivial (fun stream held => ?_) quiet
    change stream ∈ s.halted.streams at held
    rw [quiet] at held
    cases held

private theorem takingCallback_moves (sound : s.Sound)
    (before : s.threads[k]? = some (.takingCallback cleanup))
    (taken : s.run k answer (.takingCallback cleanup) = some s') :
    Moves s s' k (.takingCallback cleanup) (.takingControl cleanup) := by
  have quiet : s.native.streams = [] := sound.fits k _ before
  cases taken
  refine moves_fields sound before rfl rfl rfl rfl (Or.inl rfl) (fun vs owns => ?_)
    (fun _ uses => (nomatch uses)) trivial (fun stream held => ?_) rfl
  · refine releaseField_owns (owns.perm (List.perm_iff_count.mpr fun a => ?_))
    simp only [goto, fields, Pc.values, Option.map_none, Option.toList_none, List.count_append,
      List.count_nil]
    omega
  · have streams : stream ∈ s.native.streams := releaseField_streams held
    rw [quiet] at streams
    cases streams

private theorem takingControl_moves (sound : s.Sound)
    (before : s.threads[k]? = some (.takingControl cleanup))
    (taken : s.run k answer (.takingControl cleanup) = some s') :
    ∃ pc', Moves s s' k (.takingControl cleanup) pc' := by
  have absent : s.callback = none := sound.fits k _ before
  cases taken
  have owns (vs : List Value) (owns : s.native.Owns (s.fields ++ vs)) :
      (s.releaseField (s.streamCtrl.map .control)).Owns
        (({ s with
          native := s.releaseField (s.streamCtrl.map .control)
          streamCtrl := none } : UvcCamera).fields ++ vs) := by
    refine releaseField_owns (owns.perm (List.perm_iff_count.mpr fun a => ?_))
    simp only [fields, Option.map_none, Option.toList_none, List.count_append, List.count_nil]
    omega
  have quiet (stream : Stream)
      (held : stream ∈ (s.releaseField (s.streamCtrl.map .control)).streams) : False := by
    have installed := feeds_field sound before rfl rfl (releaseField_streams held)
    cases absent.symm.trans installed
  cases cleanup with
  | true =>
      exact ⟨.closing, moves_fields sound before rfl rfl rfl rfl (Or.inl rfl) owns
        (fun _ uses => (nomatch uses)) trivial (fun stream held => (quiet stream held).elim)
        ⟨absent, rfl⟩⟩
  | false =>
      exact ⟨.dropping [], moves_fields sound before rfl rfl rfl rfl (Or.inl rfl) owns
        (fun _ uses => (nomatch uses)) trivial (fun stream held => (quiet stream held).elim)
        trivial⟩

private theorem closing_moves (sound : s.Sound) (before : s.threads[k]? = some .closing)
    (taken : s.run k answer .closing = some s') : Moves s s' k .closing .exiting := by
  obtain ⟨callback, streamCtrl⟩ := sound.fits k _ before
  simp only [run] at taken
  split at taken
  · cases taken
  · rename_i free
    cases taken
    refine moves_fields sound before rfl rfl rfl rfl (Or.inr free) (fun vs owns => ?_)
      (fun _ uses => (nomatch uses)) trivial (fun stream held => ?_) ⟨callback, streamCtrl, rfl⟩
    · refine releaseField_owns (owns.perm (List.perm_iff_count.mpr fun a => ?_))
      simp only [goto, fields, Pc.values, Option.map_none, Option.toList_none, List.count_append,
        List.count_nil]
      omega
    · change stream ∈ (s.releaseField _).streams at held
      rw [releaseHandle_streams sound] at held
      cases held

theorem exiting_moves (sound : s.Sound) (before : s.threads[k]? = some .exiting)
    (taken : s.run k answer .exiting = some s') : Moves s s' k .exiting (.dropping []) := by
  obtain ⟨-, -, deviceHandle⟩ := sound.fits k _ before
  cases taken
  refine moves_fields sound before rfl rfl rfl rfl (Or.inl rfl) (fun vs owns => ?_)
    (fun _ uses => (nomatch uses)) trivial (fun stream held => ?_) trivial
  · refine releaseField_owns (owns.perm (List.perm_iff_count.mpr fun a => ?_))
    simp only [goto, fields, Pc.values, Option.map_none, Option.toList_none, List.count_append,
      List.count_nil]
    omega
  · have streams : stream ∈ s.native.streams := releaseField_streams held
    rw [no_streams sound deviceHandle] at streams
    cases streams

end Stopping

private theorem run_moves {answer : Answer} (sound : s.Sound) (before : s.threads[k]? = some pc)
    (one : OneInterface s (.run k answer)) (taken : s.run k answer pc = some s') :
    ∃ pc', Moves s s' k pc pc' := by
  cases pc with
  | done => cases taken
  | creating | listing | describing | reading | opening | querying =>
      exact discovery_moves sound before taken rfl
  | entering =>
      have enters : s.enter k .checking = some s' := taken
      exact ⟨_, enter_moves sound before enters rfl rfl rfl trivial fun _ => trivial⟩
  | leaving cleanup =>
      have enters : s.enter k (.stopping cleanup) = some s' := taken
      exact ⟨_, enter_moves sound before enters rfl rfl rfl trivial fun _ => trivial⟩
  | checking =>
      simp only [run] at taken
      split at taken
      · cases taken
        exact ⟨_, moves_local sound before (fun vs owns => owns) (fun _ held => held)
          (fun alone => (nomatch alone)) (fun _ uses => uses) trivial rfl trivial⟩
      · split at taken <;> cases taken
        · exact ⟨_, moves_local sound before (fun vs owns => owns) (fun _ held => held) id
            (fun _ uses => uses) trivial rfl trivial⟩
        · exact ⟨_, moves_local sound before (fun vs owns => owns) (fun _ held => held) id
            (fun _ uses => uses) trivial rfl trivial⟩
  | discarding => exact discarding_moves sound before taken
  | storingHandle => exact ⟨_, storingHandle_moves sound before taken⟩
  | storingContext => exact ⟨_, storingContext_moves sound before taken⟩
  | borrowing =>
      have borrows : s.borrow k .selecting = some s' := taken
      exact ⟨_, borrow_moves sound before borrows rfl (fun _ => rfl) (fun _ => rfl)
        (fun _ => rfl) (fun _ => trivial) fun _ _ => trivial⟩
  | selecting => exact selecting_moves sound before taken
  | probing => exact probing_moves sound before taken
  | beginning => exact beginning_moves sound before taken
  | starting => exact starting_moves sound before one taken
  | aborting =>
      cases taken
      exact ⟨_, moves_local sound before (fun vs owns => owns) (fun _ held => held) id
        (fun _ uses => uses) trivial rfl trivial⟩
  | rollingBack => exact rollingBack_moves sound before taken
  | installing => exact ⟨_, installing_moves sound before taken⟩
  | keeping => exact ⟨_, keeping_moves sound before taken⟩
  | stopping =>
      cases taken
      exact ⟨_, moves_local sound before (fun vs owns => owns) (fun _ held => held) id
        (fun _ uses => uses) trivial rfl trivial⟩
  | halting => exact ⟨_, halting_moves sound before taken⟩
  | takingCallback => exact ⟨_, takingCallback_moves sound before taken⟩
  | takingControl => exact takingControl_moves sound before taken
  | closing => exact ⟨_, closing_moves sound before taken⟩
  | exiting => exact ⟨_, exiting_moves sound before taken⟩
  | asking =>
      have borrows : s.borrow k .controlling = some s' := taken
      exact ⟨_, borrow_moves sound before borrows rfl (fun _ => rfl) (fun _ => rfl)
        (fun _ => rfl) (fun _ => trivial) fun _ _ => trivial⟩
  | controlling h =>
      have owns (vs : List Value) (owns : s.native.Owns (s.fields ++ vs)) :=
        owns.useHandle (borrowed_fields sound before rfl)
      have streams : (s.native.useHandle h).streams ⊆ s.native.streams := by
        rw [Native.useHandle_streams]
        exact fun _ held => held
      cases taken
      cases answer.again with
      | true =>
          exact ⟨_, moves_local sound before owns streams id (fun _ uses => uses) trivial rfl
            trivial⟩
      | false =>
          exact ⟨_, moves_local sound before owns streams id (fun _ uses => (nomatch uses)) trivial
            rfl trivial⟩
  | dropping values =>
      cases values with
      | nil =>
          cases taken
          exact ⟨_, unlock_moves before sound⟩
      | cons value rest =>
          cases taken
          exact ⟨_, moves_local sound before (fun vs owns => owns.release)
            (fun _ held => Native.release_streams held) id (fun _ uses => uses) trivial rfl
            trivial⟩

/-! ### Runs -/

theorem Feeds.owned (feeds : s.Feeds stream) : .callback stream.user ∈ s.owned := by
  rcases feeds.2 with installed | ⟨j, h, control, installs⟩
  · refine List.mem_append_left _ ?_
    refine List.mem_append_right _ (List.mem_append_right _ (List.mem_append_right _ ?_))
    rw [installed]
    exact List.mem_singleton_self _
  · refine List.mem_append_right _ (List.mem_flatMap.mpr ⟨_, List.mem_of_getElem? installs, ?_⟩)
    exact List.mem_cons_self

private theorem begin_values (request : Request) : (begin request).values = [] := by
  cases request <;> rfl

private theorem request_sound (request : Request) (sound : s.Sound) :
    ({ s with threads := s.threads ++ [begin request] } : UvcCamera).Sound := by
  have found (j : Nat) (pc'' : Pc) (here : (s.threads ++ [begin request])[j]? = some pc'') :
      s.threads[j]? = some pc'' ∨ pc'' = begin request := by
    rw [List.getElem?_append] at here
    split at here
    · exact Or.inl here
    · exact Or.inr (List.mem_singleton.mp (List.mem_of_getElem? here))
  refine ⟨?_, fun j pc'' here alone => ?_, fun j pc'' h here uses => ?_, fun j pc'' here => ?_,
    fun stream held => ?_, fun j pc'' here => ?_⟩
  · have same : ({ s with threads := s.threads ++ [begin request] } : UvcCamera).owned =
        s.owned := by
      simp only [owned, fields, List.flatMap_append, List.flatMap_cons, List.flatMap_nil,
        begin_values, List.append_nil]
    rw [same]
    exact sound.owns
  · rcases found j pc'' here with before | rfl
    · exact sound.exclusive j pc'' before alone
    · cases request <;> cases alone
  · rcases found j pc'' here with before | rfl
    · exact sound.borrowed j pc'' h before uses
    · cases request <;> cases uses
  · rcases found j pc'' here with before | rfl
    · exact sound.listed j pc'' before
    · cases request <;> trivial
  · obtain ⟨known, installed | ⟨j, h, control, installs⟩⟩ := sound.feeds stream held
    · exact ⟨known, Or.inl installed⟩
    · refine ⟨known, Or.inr ⟨j, h, control, ?_⟩⟩
      exact (List.getElem?_append_left (List.getElem?_eq_some_iff.mp installs).1).trans installs
  · rcases found j pc'' here with before | rfl
    · exact (sound.fits j pc'' before).same rfl rfl rfl fun _ held => held
    · cases request <;> trivial

theorem step_sound {action : Action} (sound : s.Sound) (one : OneInterface s action)
    (taken : s.step action = some s') : s'.Sound := by
  cases action with
  | request request =>
      cases taken
      exact request_sound request sound
  | run k answer =>
      cases before : s.threads[k]? with
      | none =>
          simp only [step, before] at taken
          cases taken
      | some pc =>
          simp only [step, before] at taken
          obtain ⟨pc', moves⟩ := run_moves sound before one taken
          exact moves.sound sound
  | frame i =>
      cases here : s.native.streams[i]? with
      | none =>
          simp only [step, here] at taken
          cases taken
      | some stream =>
          simp only [step, here] at taken
          cases taken
          have feeds := sound.feeds stream (List.mem_of_getElem? here)
          exact ⟨sound.owns.use feeds.owned (List.mem_singleton_self _), sound.exclusive,
            sound.borrowed, sound.listed, sound.feeds,
            fun j pc'' here => (sound.fits j pc'' here).same rfl rfl rfl fun _ held => held⟩
  | hubStopped =>
      cases taken
      exact ⟨sound.owns, sound.exclusive, sound.borrowed, sound.listed, sound.feeds,
        fun j pc'' here => (sound.fits j pc'' here).same rfl rfl rfl fun _ held => held⟩

theorem empty_owns : ({} : Native).Owns [] :=
  ⟨.empty, .empty, fun _ held => (nomatch held), fun _ held => (nomatch held)⟩

theorem sound_of_unused (owns : s.native.Owns s.fields) (threads : s.threads = [])
    (streams : s.native.streams = []) : s.Sound := by
  have nobody {j : Nat} {pc : Pc} (here : s.threads[j]? = some pc) : False := by
    rw [threads] at here
    cases here
  refine ⟨?_, fun j pc here => (nobody here).elim, fun j pc h here => (nobody here).elim,
    fun j pc here => (nobody here).elim, fun stream held => ?_,
    fun j pc here => (nobody here).elim⟩
  · rw [owned, threads]
    exact owns.perm (by rw [List.flatMap_nil, List.append_nil])
  · rw [streams] at held
    cases held

private theorem fromFd_sound (initialized duplicated wrapped : Bool) :
    (fromFd initialized duplicated wrapped).Sound := by
  have created := empty_owns.newContext
  have held : (({} : Native).newContext.alloc (.fd 1)).Owns [.fd 1, .context 0] :=
    Native.Settled.alloc created rfl
  cases initialized with
  | false => exact sound_of_unused empty_owns rfl rfl
  | true =>
      cases duplicated with
      | false => exact sound_of_unused created.release rfl rfl
      | true =>
          cases wrapped with
          | false => exact sound_of_unused held.release.release rfl rfl
          | true =>
              have opened : ((({} : Native).newContext.alloc (.fd 1)).wrapDevice 0 1).Owns
                  [.handle { id := 2, context := 0, fd := some 1 }, .context 0] :=
                (Native.Settled.retain (held.use List.mem_cons_self (List.mem_singleton_self _))
                  List.mem_cons_self).alloc rfl
              exact sound_of_unused (opened.perm (.swap _ _ _)) rfl rfl

theorem reachable_sound (reached : cameraMachine.Reachable OneInterface s) : s.Sound := by
  refine reached.invariant (P := Sound) ?_ ?_
  · rintro s (⟨index, expects, rfl⟩ | ⟨initialized, duplicated, wrapped, rfl⟩)
    · exact sound_of_unused empty_owns rfl rfl
    · exact fromFd_sound initialized duplicated wrapped
  · exact fun _ _ _ one taken sound => step_sound sound one taken

/-- However starts, stops, cleanups, controls and discovery interleave and whichever calls fail,
nothing of libuvc is used or given back when it is not alive, and a stream calls a callback context
that is alive; and once the last step of a cleanup is taken with no other operation under way,
nothing is left alive and no context is. -/
theorem uvc_objects_owned (reached : cameraMachine.Reachable OneInterface s) :
    s.native.fault = false ∧
    (∀ stream ∈ s.native.streams, Object.callback stream.user ∈ s.native.heap.live ∧
      Object.handle stream.handle ∈ s.native.heap.live) ∧
    (∀ k answer s', s.threads[k]? = some .exiting → s.run k answer .exiting = some s' →
      (∀ (j : Nat) (pc : Pc), j ≠ k → s.threads[j]? = some pc → pc = .done) →
      s'.native.heap.live = [] ∧ s'.native.contexts.heap.live = [] ∧ s'.native.streams = []) := by
  have sound := reachable_sound reached
  refine ⟨?_, fun stream held => ⟨?_, ?_⟩, fun k answer s' before taken others => ?_⟩
  · rw [Native.fault, sound.owns.heap.safe, sound.owns.contexts.owned.safe]
    rfl
  · refine sound.owns.heap.mem.mpr (Native.Owns.object (sound.feeds stream held).owned ?_)
    exact List.mem_singleton_self _
  · obtain ⟨⟨h, known, same⟩, -⟩ := sound.feeds stream held
    refine sound.owns.heap.mem.mpr
      (Native.Owns.object (List.mem_append_left _ (handle_mem known)) ?_)
    rw [← same]
    exact List.mem_cons_self
  · have fits := sound.fits k _ before
    obtain ⟨callback, streamCtrl, deviceHandle⟩ := fits
    have moved := exiting_moves sound before taken
    have after := moved.sound sound
    have idle : s'.threads.flatMap Pc.values = [] := by
      refine List.flatMap_eq_nil_iff.mpr fun pc member => ?_
      obtain ⟨j, here⟩ := List.getElem?_of_mem member
      rw [moved.threads, List.getElem?_set] at here
      split at here
      · split at here
        · cases here
          rfl
        · cases here
      · rename_i other
        rw [others j pc (Ne.symm other) here]
        rfl
    have nothing : s'.owned = [] := by
      rw [owned, idle]
      cases taken
      simp only [goto, fields, callback, streamCtrl, deviceHandle, Option.map_none,
        Option.toList_none, List.append_nil]
    have owns := after.owns
    rw [nothing] at owns
    refine ⟨owns.heap.same.eq_nil, owns.contexts.owned.same.eq_nil, ?_⟩
    exact no_streams after (by cases taken; exact deviceHandle)

def startRun (k interface : Nat) : List Action :=
  .request .start :: List.replicate 14 (.run k { interface := interface }) ++
    List.replicate 3 (.run k { ok := false })

/-- A camera that streams and is cleaned up, before the last step. -/
def cleanupRun : List Action :=
  startRun 0 1 ++ [.frame 0, .request .cleanup] ++ List.replicate 6 (.run 1 { ok := false })

theorem uvc_objects_owned_cleanup : ∃ s s', cameraMachine.Reachable OneInterface s ∧
    s.run 1 {} .exiting = some s' ∧ s.native.fault = false ∧ s'.native.heap.live = [] ∧
      s'.native.contexts.heap.live = [] := by
  have passed : ((cameraMachine.exec (fun s _ =>
      s.native.streams.isEmpty || s.threads.all fun pc => pc.installs || pc.borrowed.isNone)
      {} cleanupRun).any fun s =>
      decide (s.threads = [.done, .exiting])) = true := by decide +kernel
  have made : cameraMachine.initial {} := Or.inl ⟨0, false, rfl⟩
  obtain ⟨s, reached, holds⟩ := Machine.Reachable.of_exec made passed
  have threads : s.threads = [.done, .exiting] := of_decide_eq_true holds
  have one : cameraMachine.Reachable OneInterface s := by
    refine reached.mono fun s action allowed => ?_
    cases action with
    | run k answer =>
        intro h control user starting _ stream streams
        have streaming : s.native.streams.isEmpty = false := by
          cases quiet : s.native.streams with
          | nil =>
              rw [quiet] at streams
              cases streams
          | cons => rfl
        rw [streaming, Bool.false_or, List.all_eq_true] at allowed
        exact absurd (allowed _ (List.mem_of_getElem? starting)) Bool.false_ne_true
    | request | frame | hubStopped => trivial
  refine ⟨s, _, one, rfl, ?_⟩
  obtain ⟨safe, -, closed⟩ := uvc_objects_owned one
  have exiting : s.threads[1]? = some .exiting := by rw [threads]; rfl
  have others (j : Nat) (pc : Pc) (other : j ≠ 1) (here : s.threads[j]? = some pc) :
      pc = .done := by
    rw [threads] at here
    rcases j with _ | _ | j
    · exact (Option.some.inj here).symm
    · exact absurd rfl other
    · cases here
  obtain ⟨objects, contexts, -⟩ := closed 1 {} _ exiting rfl others
  exact ⟨safe, objects, contexts⟩

/-- A hub that is stopped behind the camera, and a start on another interface of the same handle:
the first stream still runs when its callback context is dropped. -/
example : ((cameraMachine.exec (fun _ _ => true) {}
    (startRun 0 1 ++ [.hubStopped, .request .start] ++
      List.replicate 8 (.run 1 { interface := 2 }) ++ [.frame 1])).any
        fun s => s.native.fault) = true := by
  decide +kernel

end UvcCamera

end CameraRs.Uvc.Resources
