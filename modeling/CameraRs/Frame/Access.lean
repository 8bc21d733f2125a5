/-
What one step of a hub can do, as a relation: one constructor for each access of a
call with the guard it passed, and the part of the state that consumers touch.
-/

import CameraRs.Frame.Program

namespace CameraRs.Frame

/-- The accesses of the calls of hub `s`, from one counter to the next. -/
inductive Access (s : FrameHub) : Pc → FrameHub → Pc → Prop
  | lookRefused {job} (stale : s.isCurrent job.session = false) :
      Access s (.reserveLook job) s job.exhausted
  | lookTooLong {job error} (long : frameLength job.layout job.rgb = .error error) :
      Access s (.reserveLook job) s (.returned (.published (.error error)))
  | lookPassed {job length} (current : s.isCurrent job.session = true)
      (fits : frameLength job.layout job.rgb = .ok length) :
      Access s (.reserveLook job) s (.reservePool job length)
  | poolRefused {job length} (stale : s.isCurrent job.session = false) :
      Access s (.reservePool job length) s job.exhausted
  | reserved {job length} (raced : List ArcId) (unlocked : s.poolLock = false)
      (current : s.isCurrent job.session = true) :
      Access s (.reservePool job length) (s.reserve raced job length).1
        (s.reserve raced job length).2
  | wrote {job lease} (bytes : List UInt8)
      (size : bytes.length = (s.heap.buffers lease.data.arc).bytes.length) :
      Access s (.converting job lease) (s.write lease.data.arc bytes) (.converting job lease)
  | filled {job lease parts elapsed bytes} (fill : job.fill = .parts parts)
      (copied : copyParts parts 0 (s.heap.buffers lease.data.arc).bytes = some bytes) :
      Access s (.converting job lease) (s.write lease.data.arc bytes)
        (.finishing job lease elapsed)
  | converted {job lease elapsed} (fill : ∀ parts, job.fill ≠ .parts parts) :
      Access s (.converting job lease) s (.finishing job lease elapsed)
  | failed {job lease error} :
      Access s (.converting job lease) s (.recordLook job.session false (some (lease, error)))
  | stamped {job lease} (timestamp : SourceTimestamp) :
      Access s (.converting job lease) s
        (.converting { job with timestamp := some timestamp } lease)
  | abandoned {job lease} :
      Access s (.converting job lease) s (.releasing lease (.done (.ok ())))
  | delivered {job lease elapsed} (timestampNs : Nat)
      (current : s.isCurrent job.session = true) :
      Access s (.finishing job lease elapsed) (s.deliver (s.capture job lease timestampNs))
        (.measuring job lease elapsed)
  | late {job lease elapsed} (stale : s.isCurrent job.session = false) :
      Access s (.finishing job lease elapsed) s (.releasing lease (.published (.ok false)))
  | measured {job lease elapsed} (unlocked : s.poolLock = false)
      (same : s.state.session = job.session) :
      Access s (.measuring job lease elapsed)
        (s.setPool (s.pool.measure job.capturedAt elapsed))
        (.releasing lease (.published (.ok true)))
  | unmeasured {job lease elapsed} (different : s.state.session ≠ job.session) :
      Access s (.measuring job lease elapsed) s (.releasing lease (.published (.ok true)))
  | released {lease answer} (unlocked : s.poolLock = false) :
      Access s (.releasing lease answer) (s.setPool (s.pool.release lease)) (.returned answer)
  | recordPassed {session activity failed} (current : s.isCurrent session = true) :
      Access s (.recordLook session activity failed) s (.recordCharge session activity failed)
  | recordRefused {session activity failed} :
      Access s (.recordLook session activity failed) s (FrameHub.recorded failed)
  | charged {session activity failed after} (unlocked : s.poolLock = false)
      (goes : after = .recordWake failed ∨ after = FrameHub.recorded failed) :
      Access s (.recordCharge session activity failed)
        (s.setPool (s.pool.chargeError activity s.clock)) after
  | woken {failed} :
      Access s (.recordWake failed) s.wakeRecovery (FrameHub.recorded failed)
  | dropPassed {session} (same : s.state.session = session) :
      Access s (.dropLook session) s (.dropCharge session)
  | dropRefused {session} : Access s (.dropLook session) s (.returned (.done (.ok ())))
  | dropCharged {session} (unlocked : s.poolLock = false) :
      Access s (.dropCharge session) (s.setPool (s.pool.receive s.clock).dropFrame)
        (.returned (.done (.ok ())))
  | startReset (unlocked : s.poolLock = false) :
      Access s .startReset
        { s with
          pool := s.pool.reset s.clock
          poolLock := true
          nextSession := s.nextSession + 1 }
        (.startClear s.nextSession)
  | startClear {session} : Access s (.startClear session) s.clearQueues (.startRead session)
  | startRead {session} :
      Access s (.startRead session) s
        (.startReplace session s.state.recovering s.state.reconnectEnabled)
  | startReplace {session recovering reconnectEnabled} :
      Access s (.startReplace session recovering reconnectEnabled)
        { s with
          poolLock := false
          state := ⟨session, true, recovering, reconnectEnabled, none⟩ }
        (.returned (.session session))
  | stopMark (unlocked : s.poolLock = false) :
      Access s .stopMark (s.setPool { s.pool with stopped := some s.clock }) .stopClear
  | stopClear : Access s .stopClear s.clearQueues .stopDeactivate
  | stopDeactivate :
      Access s .stopDeactivate (s.setState { s.state with active := false, latest := none })
        .stopWake
  | stopWake : Access s .stopWake s.wakeRecovery (.returned (.done (.ok ())))
  | configureRefused {request} (answer : Answer) :
      Access s (.configureLook request) s (.returned answer)
  | configurePassed {request} : Access s (.configureLook request) s (.configurePool request)
  | configured {request} (raced : List ArcId) (native : Bool) (answer : Answer)
      (unlocked : s.poolLock = false) :
      Access s (.configurePool request)
        { s with
          pool := (s.pool.configure (s.unique raced) request.memory).2
          nativeOutput := native }
        (.returned answer)
  | budgetRead {options after} (goes : after = .subscribePush options ∨
      ∃ error, after = .returned (.receiver (.error error)))
      (checked : ∀ passed, after = .subscribePush passed →
        passed.validate s.pool.budget = .ok ()) :
      Access s (.subscribeBudget options) s after
  | subscribed {options} :
      Access s (.subscribePush options) (s.subscribe options)
        (.returned (.receiver (.ok s.receivers.length)))
  | ownerCleared {receiver flag} (clears : Bool) (found : clears = s.raised.contains flag) :
      Access s (.ownerClear receiver flag)
        { s with
          receivers := s.receivers.modify receiver fun r =>
            if clears then { r with queue := [] } else r }
        (.ownerSet receiver flag)
  | ownerSet {receiver flag} :
      Access s (.ownerSet receiver flag)
        { s with
          receivers := s.receivers.modify receiver fun r =>
            { r with owner := r.owner.or (some flag) } }
        (.returned (.done (.ok ())))

namespace FrameHub

variable {s s' : FrameHub} {env : Env} {pc after : Pc}

private theorem convert_access {job : Job} {lease : Lease} {choice : Choice}
    (taken : s.convert job lease choice = some (s', after)) :
    Access s (.converting job lease) s' after := by
  cases choice with
  | step => contradiction
  | write bytes =>
      simp only [convert] at taken
      split at taken
      · contradiction
      · split at taken
        · next size =>
            obtain ⟨rfl, rfl⟩ := taken
            exact .wrote bytes size
        · contradiction
  | finish elapsed =>
      simp only [convert] at taken
      split at taken
      · next fill =>
          obtain ⟨rfl, rfl⟩ := taken
          exact .converted (by simp [fill])
      · next fill =>
          obtain ⟨bytes, copied, made⟩ := Option.map_eq_some_iff.mp taken
          obtain ⟨rfl, rfl⟩ := made
          exact .filled fill copied
      · next fill =>
          obtain ⟨rfl, rfl⟩ := taken
          exact .converted (by simp [fill])
  | fail error =>
      simp only [convert] at taken
      split at taken
      · obtain ⟨rfl, rfl⟩ := taken
        exact .failed
      · contradiction
  | timestamp timestamp =>
      simp only [convert] at taken
      split at taken
      · obtain ⟨rfl, rfl⟩ := taken
        exact .stamped timestamp
      · contradiction
  | abandon =>
      simp only [convert] at taken
      split at taken
      · obtain ⟨rfl, rfl⟩ := taken
        exact .abandoned
      · contradiction

private theorem publish_access (taken : s.publishStep env pc = some (s', after)) :
    Access s pc s' after := by
  unfold publishStep at taken
  split at taken
  · split at taken
    · next current =>
        split at taken
        · next fits =>
            obtain ⟨rfl, rfl⟩ := taken
            exact .lookPassed current fits
        · next long =>
            obtain ⟨rfl, rfl⟩ := taken
            exact .lookTooLong long
    · next stale =>
        obtain ⟨rfl, rfl⟩ := taken
        exact .lookRefused (by simpa using stale)
  · split at taken
    · contradiction
    · next unlocked =>
        split at taken
        · next current =>
            obtain ⟨rfl, rfl⟩ := Prod.mk.inj (Option.some.inj taken)
            exact .reserved env.raced (by simpa using unlocked) current
        · next stale =>
            obtain ⟨rfl, rfl⟩ := taken
            exact .poolRefused (by simpa using stale)
  · exact convert_access taken
  · split at taken
    · next current =>
        obtain ⟨rfl, rfl⟩ := taken
        exact .delivered env.timestampNs current
    · next stale =>
        obtain ⟨rfl, rfl⟩ := taken
        exact .late (by simpa using stale)
  · split at taken
    · contradiction
    · next unlocked =>
        split at taken
        · next same =>
            obtain ⟨rfl, rfl⟩ := taken
            exact .measured (by simpa using unlocked) same
        · next different =>
            obtain ⟨rfl, rfl⟩ := taken
            exact .unmeasured different
  · split at taken
    · contradiction
    · next unlocked =>
        obtain ⟨rfl, rfl⟩ := taken
        exact .released (by simpa using unlocked)
  · contradiction

private theorem record_access (taken : s.recordStep pc = some (s', after)) :
    Access s pc s' after := by
  unfold recordStep at taken
  split at taken
  · split at taken
    · next current =>
        obtain ⟨rfl, rfl⟩ := taken
        exact .recordPassed current
    · obtain ⟨rfl, rfl⟩ := taken
      exact .recordRefused
  · split at taken
    · contradiction
    · next unlocked =>
        obtain ⟨rfl, rfl⟩ := taken
        refine .charged (by simpa using unlocked) ?_
        split
        · exact .inl rfl
        · exact .inr rfl
  · obtain ⟨rfl, rfl⟩ := taken
    exact .woken
  · split at taken
    · next same =>
        obtain ⟨rfl, rfl⟩ := taken
        exact .dropPassed same
    · obtain ⟨rfl, rfl⟩ := taken
      exact .dropRefused
  · split at taken
    · contradiction
    · next unlocked =>
        obtain ⟨rfl, rfl⟩ := taken
        exact .dropCharged (by simpa using unlocked)
  · contradiction

private theorem lifecycle_access (taken : s.lifecycleStep env pc = some (s', after)) :
    Access s pc s' after := by
  unfold lifecycleStep at taken
  split at taken
  · split at taken
    · contradiction
    · next unlocked =>
        obtain ⟨rfl, rfl⟩ := taken
        exact .startReset (by simpa using unlocked)
  · obtain ⟨rfl, rfl⟩ := taken
    exact .startClear
  · obtain ⟨rfl, rfl⟩ := taken
    exact .startRead
  · obtain ⟨rfl, rfl⟩ := taken
    exact .startReplace
  · split at taken
    · contradiction
    · next unlocked =>
        obtain ⟨rfl, rfl⟩ := taken
        exact .stopMark (by simpa using unlocked)
  · obtain ⟨rfl, rfl⟩ := taken
    exact .stopClear
  · obtain ⟨rfl, rfl⟩ := taken
    exact .stopDeactivate
  · obtain ⟨rfl, rfl⟩ := taken
    exact .stopWake
  · split at taken
    · obtain ⟨rfl, rfl⟩ := taken
      exact .configureRefused _
    · obtain ⟨rfl, rfl⟩ := taken
      exact .configurePassed
  · next request =>
      split at taken
      · contradiction
      · next unlocked =>
          split at taken
          · next pool same =>
              obtain ⟨rfl, rfl⟩ := taken
              have made : Access s (.configurePool request) _ _ :=
                .configured env.raced request.native (.done (.ok ())) (by simpa using unlocked)
              rwa [same] at made
          · next error pool same =>
              obtain ⟨rfl, rfl⟩ := taken
              have made : Access s (.configurePool request) _ _ :=
                .configured env.raced s.nativeOutput (.done (.error error))
                  (by simpa using unlocked)
              rwa [same] at made
  · contradiction

private theorem subscribe_access (taken : s.subscribeStep pc = some (s', after)) :
    Access s pc s' after := by
  unfold subscribeStep at taken
  split at taken
  · split at taken
    · contradiction
    · split at taken
      · obtain ⟨rfl, rfl⟩ := taken
        refine .budgetRead (.inl rfl) ?_
        rintro passed ⟨rfl⟩
        assumption
      · obtain ⟨rfl, rfl⟩ := taken
        exact .budgetRead (.inr ⟨_, rfl⟩) nofun
  · obtain ⟨rfl, rfl⟩ := taken
    exact .subscribed
  · obtain ⟨rfl, rfl⟩ := taken
    exact .ownerCleared _ rfl
  · obtain ⟨rfl, rfl⟩ := taken
    exact .ownerSet
  · contradiction

theorem callStep_access (taken : s.callStep env pc = some (s', after)) :
    Access s pc s' after := by
  unfold callStep at taken
  split at taken <;>
    first
    | exact publish_access taken
    | exact record_access taken
    | exact lifecycle_access taken
    | exact subscribe_access taken

end FrameHub

/-- What the consumer of a receiver does to it: frames leave the queue. -/
structure Receiver.Reads (r r' : Receiver) : Prop where
  queue : ∀ f ∈ r'.queue, f ∈ r.queue
  registered : r'.registered = r.registered
  alive : r'.alive = r.alive ∨ r'.queue = []

theorem Receiver.Reads.refl (r : Receiver) : r.Reads r :=
  ⟨fun _ member => member, rfl, .inl rfl⟩

/-- What consumers can do to a hub: they move, copy and drop references they have. -/
structure Consumed (s s' : FrameHub) : Prop where
  keeps : s' = { s with
    receivers := s'.receivers
    held := s'.held
    clones := s'.clones
    weaks := s'.weaks }
  frames : ∀ f ∈ s'.frames, f ∈ s.frames
  clones : ∀ arc ∈ s'.clones,
    arc ∈ s.clones ∨ arc ∈ s.weaks ∨ ∃ f ∈ s.frames, f.storage.arc = arc
  weaks : ∀ arc ∈ s'.weaks, arc ∈ s.weaks ∨ arc ∈ s.clones
  queues : ∀ r' ∈ s'.receivers, ∃ r ∈ s.receivers, r.Reads r'

namespace FrameHub

variable {s s' : FrameHub}

theorem mem_frames {f : CapturedFrame} : f ∈ s.frames ↔
    s.state.latest = some f ∨ (∃ r ∈ s.receivers, f ∈ r.queue) ∨ f ∈ s.held := by
  simp [frames]

theorem pop_queue {r : Receiver} {session : Nat} :
    r.Reads (r.pop session).1 ∧
    ∀ f, (r.pop session).2 = some f → f ∈ r.queue ∧ f.key.session = session := by
  unfold Receiver.pop
  split
  · exact ⟨⟨by simp, rfl, .inl rfl⟩, by simp⟩
  · next f rest split =>
      have suffix : ∀ g ∈ f :: rest, g ∈ r.queue := by
        intro g member
        rw [← split] at member
        exact (List.dropWhile_suffix _).subset member
      refine ⟨⟨fun g member => suffix g (List.mem_cons_of_mem f member), rfl, .inl rfl⟩, ?_⟩
      intro g same
      obtain rfl := Option.some.inj same
      refine ⟨suffix f (List.mem_cons_self ..), ?_⟩
      have wanted := List.head?_dropWhile_not (fun f => !r.wanted session f) r.queue
      simp only [split, List.head?_cons] at wanted
      simp only [Receiver.wanted, Bool.not_eq_false', Bool.and_eq_true, beq_iff_eq] at wanted
      exact wanted.2

theorem consumed_hold {f : CapturedFrame} (exist : f ∈ s.frames) : Consumed s (s.hold f) where
  keeps := rfl
  frames g member := by
    rcases mem_frames.mp member with latest | queued | held
    · exact mem_frames.mpr (.inl latest)
    · exact mem_frames.mpr (.inr (.inl queued))
    · rcases List.mem_append.mp held with held | new
      · exact mem_frames.mpr (.inr (.inr held))
      · rwa [List.mem_singleton.mp new]
  clones arc member := .inl member
  weaks arc member := .inl member
  queues r member := ⟨r, member, .refl r⟩

theorem consumed_references {clones weaks : List ArcId}
    (newClones : ∀ arc ∈ clones,
      arc ∈ s.clones ∨ arc ∈ s.weaks ∨ ∃ f ∈ s.frames, f.storage.arc = arc)
    (newWeaks : ∀ arc ∈ weaks, arc ∈ s.weaks ∨ arc ∈ s.clones) :
    Consumed s { s with clones := clones, weaks := weaks } where
  keeps := rfl
  frames _ member := member
  clones := newClones
  weaks := newWeaks
  queues r member := ⟨r, member, .refl r⟩

theorem consumed_receiver {id : ReceiverId} {r r' : Receiver} {found : List CapturedFrame}
    (present : s.receivers[id]? = some r) (reads : r.Reads r')
    (given : ∀ f ∈ found, f ∈ r.queue) :
    Consumed s { s with receivers := s.receivers.set id r', held := s.held ++ found } := by
  have member : r ∈ s.receivers := List.mem_of_getElem? present
  have queues : ∀ q ∈ s.receivers.set id r', ∃ p ∈ s.receivers, p.Reads q := by
    intro q queued
    rcases List.mem_or_eq_of_mem_set queued with old | rfl
    · exact ⟨q, old, .refl q⟩
    · exact ⟨r, member, reads⟩
  refine ⟨rfl, ?_, fun _ member => .inl member, fun _ member => .inl member, queues⟩
  intro f exist
  rcases mem_frames.mp exist with latest | ⟨q, received, queued⟩ | held
  · exact mem_frames.mpr (.inl latest)
  · obtain ⟨p, received, within⟩ := queues q received
    exact mem_frames.mpr (.inr (.inl ⟨p, received, within.queue f queued⟩))
  · rcases List.mem_append.mp held with held | new
    · exact mem_frames.mpr (.inr (.inr held))
    · exact mem_frames.mpr (.inr (.inl ⟨r, member, given f new⟩))

private theorem consumed_next {id : ReceiverId} {r : Receiver}
    (present : s.receivers[id]? = some r) : Consumed s (s.next id r).2 := by
  unfold next
  split
  · exact ⟨rfl, fun _ member => member, fun _ member => .inl member, fun _ member => .inl member,
      fun r member => ⟨r, member, .refl r⟩⟩
  · refine consumed_receiver present pop_queue.1 ?_
    intro f given
    exact (pop_queue.2 f (Option.mem_toList.mp given)).1

theorem consumerStep_consumed {a : Action} (taken : s.consumerStep a = some s') :
    Consumed s s' := by
  cases a with
  | latest =>
      obtain ⟨f, latest, rfl⟩ := Option.map_eq_some_iff.mp taken
      exact consumed_hold (mem_frames.mpr (.inl latest))
  | next id =>
      simp only [consumerStep] at taken
      split at taken
      · next r present =>
          split at taken
          · obtain rfl := Option.some.inj taken
            exact consumed_next present
          · contradiction
      · contradiction
  | close id =>
      simp only [consumerStep] at taken
      split at taken
      · next r present =>
          split at taken
          · obtain rfl := Option.some.inj taken
            have reads : r.Reads r.close := ⟨by simp [Receiver.close], rfl, .inr rfl⟩
            have closed := consumed_receiver present reads (List.forall_mem_nil _)
            rwa [List.append_nil] at closed
          · contradiction
      · contradiction
  | cloneFrame k =>
      obtain ⟨f, held, rfl⟩ := Option.map_eq_some_iff.mp taken
      exact consumed_hold (mem_frames.mpr (.inr (.inr (List.mem_of_getElem? held))))
  | dropFrame k =>
      obtain ⟨f, held, rfl⟩ := Option.map_eq_some_iff.mp taken
      refine ⟨rfl, ?_, fun _ member => .inl member, fun _ member => .inl member,
        fun r member => ⟨r, member, .refl r⟩⟩
      intro g member
      rcases mem_frames.mp member with latest | queued | held
      · exact mem_frames.mpr (.inl latest)
      · exact mem_frames.mpr (.inr (.inl queued))
      · exact mem_frames.mpr (.inr (.inr (List.mem_of_mem_eraseIdx held)))
  | cloneRgb k =>
      obtain ⟨arc, pixels, rfl⟩ := Option.map_eq_some_iff.mp taken
      obtain ⟨f, held, rgb⟩ := Option.bind_eq_some_iff.mp pixels
      refine consumed_references ?_ fun _ member => .inl member
      intro other member
      rcases List.mem_append.mp member with old | new
      · exact .inl old
      · refine .inr (.inr ⟨f, mem_frames.mpr (.inr (.inr (List.mem_of_getElem? held))), ?_⟩)
        rw [List.mem_singleton.mp new]
        unfold CapturedFrame.rgbPixels at rgb
        split at rgb
        · next same =>
            rw [same]
            exact Option.some.inj rgb
        · contradiction
  | dropClone k =>
      obtain ⟨arc, _, rfl⟩ := Option.map_eq_some_iff.mp taken
      exact consumed_references (fun _ member => .inl (List.mem_of_mem_eraseIdx member))
        fun _ member => .inl member
  | downgrade k =>
      obtain ⟨arc, cloned, rfl⟩ := Option.map_eq_some_iff.mp taken
      refine consumed_references (fun _ member => .inl member) ?_
      intro other member
      rcases List.mem_append.mp member with old | new
      · exact .inl old
      · rw [List.mem_singleton.mp new]
        exact .inr (List.mem_of_getElem? cloned)
  | upgrade k =>
      simp only [consumerStep] at taken
      split at taken
      · next arc weak =>
          split at taken
          · obtain rfl := Option.some.inj taken
            refine consumed_references ?_ fun _ member => .inl member
            intro other member
            rcases List.mem_append.mp member with old | new
            · exact .inl old
            · rw [List.mem_singleton.mp new]
              exact .inr (.inl (List.mem_of_getElem? weak))
          · contradiction
      · contradiction
  | dropWeak k =>
      obtain ⟨arc, _, rfl⟩ := Option.map_eq_some_iff.mp taken
      exact consumed_references (fun _ member => .inl member)
        fun _ member => .inl (List.mem_of_mem_eraseIdx member)
  | _ => contradiction

end FrameHub

/-- One step of the machine, sorted by what it touches. -/
inductive Stepped (s : FrameHub) : Action → FrameHub → Prop
  | called (call : Call) :
      Stepped s (.call call) { s with ops := s.ops ++ [call.entry s.clock] }
  | ran {i env pc after t} (at_pc : s.ops[i]? = some pc) (access : Access s pc t after) :
      Stepped s (.run i env) { t with ops := s.ops.set i after }
  | flagged (call : FlagCall) : Stepped s (.flag call) (s.setState (call.apply s.state))
  | raised (flag : FlagId) : Stepped s (.raise flag) { s with raised := s.raised ++ [flag] }
  | otherHub : Stepped s .otherHub { s with nextSession := s.nextSession + 1 }
  | ticked (ns : Nat) : Stepped s (.tick ns) { s with clock := s.clock + ns }
  | consumed {a s'} (consumed : Consumed s s') : Stepped s a s'

variable {s s' : FrameHub}

theorem Access.ops_eq {pc after : Pc} (access : Access s pc s' after) : s'.ops = s.ops := by
  cases access with
  | reserved raced unlocked current =>
      unfold FrameHub.reserve
      split <;> rfl
  | _ => rfl

theorem step_call {i : OpId} {env : Env} (taken : s.step (.run i env) = some s') :
    ∃ pc t after, s.ops[i]? = some pc ∧ s.callStep env pc = some (t, after) ∧
      s' = { t with ops := s.ops.set i after } := by
  simp only [FrameHub.step] at taken
  split at taken
  · next pc at_pc =>
      obtain ⟨⟨t, after⟩, made, rfl⟩ := Option.map_eq_some_iff.mp taken
      refine ⟨pc, t, after, at_pc, made, ?_⟩
      rw [← (FrameHub.callStep_access made).ops_eq]
  · contradiction

theorem step_run {i : OpId} {env : Env} (taken : s.step (.run i env) = some s') :
    ∃ pc t after, s.ops[i]? = some pc ∧ Access s pc t after ∧
      s' = { t with ops := s.ops.set i after } := by
  obtain ⟨pc, t, after, at_pc, made, same⟩ := step_call taken
  exact ⟨pc, t, after, at_pc, FrameHub.callStep_access made, same⟩

theorem step_stepped {a : Action} (taken : s.step a = some s') : Stepped s a s' := by
  cases a with
  | call call =>
      cases taken
      exact .called call
  | run i env =>
      obtain ⟨pc, t, after, at_pc, access, rfl⟩ := step_run taken
      exact .ran at_pc access
  | flag call =>
      cases taken
      exact .flagged call
  | raise flag =>
      cases taken
      exact .raised flag
  | otherHub =>
      cases taken
      exact .otherHub
  | tick ns =>
      cases taken
      exact .ticked ns
  | _ =>
      simp only [FrameHub.step] at taken
      exact .consumed (FrameHub.consumerStep_consumed taken)

/-! ### The calls under way -/

/-- Where calls begin, and where one ends whose arguments are refused. -/
inductive Pc.Entry : Pc → Prop
  | publish (job : Job) : Entry (.reserveLook job)
  | refused (error : CameraError) : Entry (.returned (.published (.error error)))
  | inputError (session : Nat) : Entry (.recordLook session true none)
  | inputDrop (session : Nat) : Entry (.dropLook session)
  | start : Entry .startReset
  | stop : Entry .stopMark
  | configure (request : StreamRequest) : Entry (.configureLook request)
  | subscribe (options : SubscriptionOptions) : Entry (.subscribeBudget options)
  | owner (receiver : ReceiverId) (flag : FlagId) : Entry (.ownerClear receiver flag)

theorem Job.start_entry (job : Job) (checked : CameraResult Unit) : (job.start checked).Entry := by
  cases checked with
  | ok _ => exact .publish job
  | error error => exact .refused error

theorem Call.entry_entry (now : Nat) (call : Call) : (call.entry now).Entry := by
  cases call with
  | publishNativeInto _ _ _ => exact Job.start_entry _ _
  | publishNative _ _ _ _ _ => exact Job.start_entry _ _
  | writableNative _ _ => exact Job.start_entry _ _
  | _ => constructor

theorem Pc.Entry.lease {pc : Pc} (entry : pc.Entry) : pc.lease = none := by
  cases entry <;> rfl

theorem exhausted_lease (job : Job) : job.exhausted.lease = none := by
  unfold Job.exhausted
  split <;> rfl

theorem exhausted_answers (job : Job) : ∃ answer, job.exhausted = .returned answer := by
  unfold Job.exhausted
  split <;> exact ⟨_, rfl⟩

theorem recorded_lease (failed : Option (Lease × CameraError)) :
    (FrameHub.recorded failed).lease = failed.map (·.1) := by
  cases failed <;> rfl

theorem recorded_ne_reservePool {failed : Option (Lease × CameraError)} {job : Job}
    {length : Nat} : FrameHub.recorded failed ≠ .reservePool job length := by
  cases failed <;> simp [FrameHub.recorded]

theorem countP_set_add {α : Type} {p : α → Bool} {items : List α} {k : Nat} {old : α}
    (at_k : items[k]? = some old) (new : α) :
    (items.set k new).countP p + (if p old then 1 else 0) =
      items.countP p + (if p new then 1 else 0) := by
  obtain ⟨inside, same⟩ := List.getElem?_eq_some_iff.mp at_k
  rw [List.countP_set inside, same]
  split
  · next counted =>
      have positive : 0 < items.countP p :=
        List.countP_pos_iff.mpr ⟨old, List.mem_of_getElem? at_k, counted⟩
      omega
  · omega

namespace FrameHub

def leaseOf (s : FrameHub) (i : OpId) : Option Lease :=
  s.ops[i]?.bind Pc.lease

theorem getElem?_set_ops {i j : OpId} {pc after : Pc} (at_pc : s.ops[i]? = some pc) :
    (s.ops.set i after)[j]? = if j = i then some after else s.ops[j]? := by
  rw [List.getElem?_set]
  by_cases same : j = i
  · subst same
    have inRange := (List.getElem?_eq_some_iff.mp at_pc).1
    simp [inRange]
  · simp [same, Ne.symm same]

theorem getElem?_append_ops {i : OpId} {pc : Pc} :
    (s.ops ++ [pc])[i]? = if i = s.ops.length then some pc else s.ops[i]? := by
  rcases Nat.lt_trichotomy i s.ops.length with inside | same | beyond
  · rw [List.getElem?_append_left inside, if_neg (Nat.ne_of_lt inside)]
  · simp [same]
  · rw [if_neg (Nat.ne_of_gt beyond), List.getElem?_eq_none (Nat.le_of_lt beyond),
      List.getElem?_eq_none]
    rw [List.length_append]
    exact beyond

end FrameHub

theorem Stepped.op {a : Action} {i : OpId} {pc : Pc} (stepped : Stepped s a s')
    (at_pc : s.ops[i]? = some pc) :
    s'.ops[i]? = some pc ∨
      ∃ t after, Access s pc t after ∧ s' = { t with ops := s.ops.set i after } := by
  cases stepped with
  | called call =>
      left
      dsimp only
      rw [FrameHub.getElem?_append_ops, if_neg, at_pc]
      exact Nat.ne_of_lt (List.getElem?_eq_some_iff.mp at_pc).1
  | @ran j env other after t at_other access =>
      by_cases same : i = j
      · subst same
        obtain rfl := Option.some.inj (at_pc.symm.trans at_other)
        exact .inr ⟨t, after, access, rfl⟩
      · left
        dsimp only
        rw [FrameHub.getElem?_set_ops at_other, if_neg same, at_pc]
  | consumed consumed =>
      left
      rw [consumed.keeps]
      exact at_pc
  | _ => exact .inl at_pc

end CameraRs.Frame
