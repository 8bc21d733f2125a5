/-
The V4L2 stream: the buffers of `v4l2_bridge.c`, `Stream` and the loop of the capture worker.

Every ioctl, `mmap`, `munmap` and `poll` is one step, whose answer is chosen by the driver. A
dequeue is known by its number, a mapping by the number it got when it was made.
-/

import CameraRs.Lib.Machine
import Mathlib.Logic.Function.Basic

namespace CameraRs.V4l2.Stream

abbrev Errno := Nat

def EIO : Errno := 5
def EAGAIN : Errno := 11
def EBUSY : Errno := 16
def ENODEV : Errno := 19
def EINVAL : Errno := 22
def ETIMEDOUT : Errno := 110
def ECANCELED : Errno := 125

/-- What the driver answers; each call reads the fields it is about, and 0 is success. -/
structure Answer where
  errno : Errno := 0
  multi : Bool := false
  numPlanes : Nat := 1
  count : Nat := 0
  index : Nat := 0
  length : Nat := 0
  bytesused : Nat := 0
  planeLength : Nat → Nat := fun _ => 0
  planeBytesused : Nat → Nat := fun _ => 0
  dataOffset : Nat → Nat := fun _ => 0
  timedOut : Bool := false
  wake : Bool := false
  hangup : Bool := false
  readable : Bool := false

structure Mapping where
  address : Nat := 0
  length : Nat := 0
deriving DecidableEq

structure Slice where
  mapping : Mapping
  start : Nat
  length : Nat

structure Frame where
  index : Nat
  planes : Nat
  slices : List Slice
  turn : Nat

/-- The part of `Stream::next` that its error comes from. -/
inductive Part
  | busy
  | poll
  | dequeue
  | frame
  | consumer
  | release
deriving DecidableEq

inductive Next
  | ok
  | error (part : Part) (errno : Option Errno)
deriving DecidableEq

inductive Outcome
  | returned (errno : Option (Option Errno))
  | panicked

/-- What follows `camera_v4l2_release`; the last two are the drop of `Requeue`. -/
inductive After
  | result (errno : Option (Option Errno))
  | invalid
  | unwind

inductive Pc
  | idle
  | captureType (count : Nat)
  | getFormat (count : Nat)
  | requestBuffers (count : Nat)
  | allocate
  | queryBuf (i : Nat)
  | map (i p : Nat) (buf : Answer)
  | queue (i : Nat)
  | streamOn
  | ready
  | poll
  | dequeue
  | consume (frame : Frame)
  | release (frame : Frame) (after : After)
  | returned (next : Next)
  | streamOff
  | unmap (j : Nat)
  | freeBuffers

/-- The stream, the driver's queue and what has happened so far. -/
structure State where
  pc : Pc := .idle
  multi : Bool := false
  active : Bool := false
  count : Nat := 0
  planes : Nat := 0
  dequeued : Option Nat := none
  maps : List Mapping := []
  queued : Nat → Bool := fun _ => false
  mapped : Nat := 0
  unmapped : List Nat := []
  turn : Nat := 0
  consumed : List Nat := []
  requeued : List Nat := []
  refused : List Nat := []

inductive Action
  | start (count : Nat)
  | driver (answer : Answer)
  | consume (outcome : Outcome)
  | proceed (giveUp : Bool)

namespace State

def release (s : State) (index : Nat) (answer : Answer) : State × Errno :=
  if index ≥ s.count ∨ s.dequeued ≠ some index then (s, EINVAL)
  else if answer.errno = 0 then
    ({ s with dequeued := none, queued := Function.update s.queued index true }, 0)
  else (s, answer.errno)

/-- The slice of plane `p`, where the driver's numbers stay inside the mapping. -/
def slice (s : State) (answer : Answer) (p : Nat) : Option Slice :=
  let m := s.maps.getD (answer.index * s.planes + p) {}
  let used := if s.multi then answer.planeBytesused p else answer.bytesused
  let offset := if s.multi then answer.dataOffset p else 0
  if used > m.length ∨ offset > used then none else some ⟨m, offset, used - offset⟩

/-- `camera_v4l2_next` up to its poll. -/
def next (s : State) : State :=
  if s.dequeued.isSome then { s with pc := .returned (.error .busy (some EBUSY)) }
  else { s with pc := .poll }

def fail (s : State) (part : Part) (errno : Errno) : State :=
  { s with pc := .returned (.error part (some errno)) }

def dequeue (s : State) (answer : Answer) : State :=
  if answer.index ≥ s.count then s.fail .frame EIO
  else
    let taken := { s with
      dequeued := some answer.index
      queued := Function.update s.queued answer.index false
      turn := s.turn + 1 }
    if s.multi ∧ answer.length ≠ s.planes then taken.fail .frame EIO
    else
      match (List.range s.planes).mapM (s.slice answer) with
      | none => taken.fail .frame EIO
      | some slices =>
          let frame : Frame := ⟨answer.index, s.planes, slices, s.turn⟩
          if 1 ≤ frame.planes ∧ frame.planes ≤ 2 then { taken with pc := .consume frame }
          else { taken with pc := .release frame .invalid }

/-- The step of the C functions that a call of the driver belongs to. -/
def drive (s : State) (answer : Answer) : Option State :=
  match s.pc with
  | .captureType count =>
      if answer.errno ≠ 0 then some { s with pc := .idle }
      else some { s with multi := answer.multi, pc := .getFormat count }
  | .getFormat count =>
      let planes := if s.multi then answer.numPlanes else 1
      if answer.errno ≠ 0 ∨ planes = 0 ∨ planes > 2 then some { s with pc := .idle }
      else some { s with planes := planes, pc := .requestBuffers count }
  | .requestBuffers _ =>
      if answer.errno ≠ 0 then some { s with pc := .idle }
      else some { s with
        count := answer.count
        queued := fun _ => false
        pc := if answer.count < 2 ∨ answer.count > 32 then .streamOff else .allocate }
  | .allocate =>
      if answer.errno ≠ 0 then some { s with pc := .streamOff }
      else some { s with maps := List.replicate (s.count * s.planes) {}, pc := .queryBuf 0 }
  | .queryBuf i =>
      if answer.errno ≠ 0 ∨ (s.multi ∧ answer.length ≠ s.planes) then
        some { s with pc := .streamOff }
      else some { s with pc := .map i 0 answer }
  | .map i p buf =>
      let length := if s.multi then buf.planeLength p else buf.length
      if length = 0 ∨ length > 128 * 1024 * 1024 ∨ answer.errno ≠ 0 then
        some { s with pc := .streamOff }
      else some { s with
        maps := s.maps.set (i * s.planes + p) ⟨s.mapped, length⟩
        mapped := s.mapped + 1
        pc := if p + 1 < s.planes then .map i (p + 1) buf else .queue i }
  | .queue i =>
      let (s, rc) := { s with dequeued := some i }.release i answer
      if rc ≠ 0 then some { s with pc := .streamOff }
      else some { s with pc := if i + 1 < s.count then .queryBuf (i + 1) else .streamOn }
  | .streamOn =>
      if answer.errno ≠ 0 then some { s with pc := .streamOff }
      else some { s with active := true, pc := .ready }
  | .poll =>
      if answer.errno ≠ 0 then some (s.fail .poll answer.errno)
      else if answer.timedOut then some (s.fail .poll ETIMEDOUT)
      else if answer.wake then some (s.fail .poll ECANCELED)
      else if answer.hangup then some (s.fail .poll ENODEV)
      else if !answer.readable then some (s.fail .poll EIO)
      else some { s with pc := .dequeue }
  | .dequeue =>
      if answer.errno ≠ 0 then some (s.fail .dequeue answer.errno) else some (s.dequeue answer)
  | .release frame after =>
      let (s, rc) := s.release frame.index answer
      let s := if rc = 0 then { s with requeued := s.requeued ++ [frame.turn] }
        else { s with refused := s.refused ++ [frame.turn] }
      match after with
      | .result errno =>
          if rc ≠ 0 then some (s.fail .release rc)
          else
            match errno with
            | none => some { s with pc := .returned .ok }
            | some errno => some { s with pc := .returned (.error .consumer errno) }
      | .invalid => some { s with pc := .returned (.error .frame none) }
      | .unwind => some { s with pc := .streamOff }
  | .streamOff => some { s with pc := .unmap 0 }
  | .unmap j =>
      match s.maps[j]? with
      | none => some { s with pc := .freeBuffers }
      | some m =>
          if m.length ≠ 0 then
            some { s with unmapped := s.unmapped ++ [m.address], pc := .unmap (j + 1) }
          else some { s with pc := .unmap (j + 1) }
  | .freeBuffers => some { s with pc := .idle }
  | _ => none

/-- The loop of the worker; it gives up when nobody waits for it any more, or after five
seconds without a buffer. -/
def proceed (s : State) (giveUp : Bool) : Option State :=
  match s.pc with
  | .ready => if giveUp then some { s with pc := .streamOff } else some s.next
  | .returned .ok => some s.next
  | .returned (.error _ errno) =>
      if errno = some EAGAIN ∨ errno = some ETIMEDOUT then
        if giveUp then some { s with pc := .streamOff } else some s.next
      else some { s with pc := .streamOff }
  | _ => none

def step (s : State) : Action → Option State
  | .start count =>
      match s.pc with
      | .idle =>
          if count < 2 ∨ count > 32 then some s
          else some { s with
            multi := false
            active := false
            count := 0
            planes := 0
            dequeued := none
            maps := []
            pc := .captureType count }
      | _ => none
  | .driver answer => s.drive answer
  | .consume outcome =>
      match s.pc with
      | .consume frame =>
          let s := { s with consumed := s.consumed ++ [frame.turn] }
          match outcome with
          | .returned errno => some { s with pc := .release frame (.result errno) }
          | .panicked => some { s with pc := .release frame .unwind }
      | _ => none
  | .proceed giveUp => s.proceed giveUp

end State

def machine : Lib.Machine State Action where
  initial s := s = {}
  step := State.step

end CameraRs.V4l2.Stream
