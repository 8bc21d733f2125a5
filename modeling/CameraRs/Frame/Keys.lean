/-
The keys of published frames.

All hubs of a process draw their session numbers from one counter. A number in use
is the current session of one hub or belongs to one `start` under way, so only one
hub publishes frames of a session, and it numbers them from the frame before.
-/

import CameraRs.Frame.Queues
import CameraRs.Frame.Epoch

namespace CameraRs.Frame

/-! ### The hubs of a process -/

/-- `nextSession` is the static counter. -/
structure Process where
  hubs : List FrameHub := []
  nextSession : Nat := 1

namespace Process

inductive Action
  | create (capacity : Nat)
  | hub (h : Nat) (action : Frame.Action)

/-- A new hub, or a step of one that sees the counter where the others left it. -/
def step (p : Process) : Action → Option Process
  | .create capacity =>
      some { p with
        hubs := p.hubs ++ [{ FrameHub.new capacity with nextSession := p.nextSession }] }
  | .hub h action =>
      match p.hubs[h]? with
      | some s =>
          ({ s with nextSession := p.nextSession }.step action).map fun t =>
            { hubs := p.hubs.set h t, nextSession := t.nextSession }
      | none => none

def machine : Lib.Machine Process Action where
  initial p := p = {}
  step := step

def published (p : Process) (a : Action) (q : Process) : List CapturedFrame :=
  match a with
  | .hub h action =>
      match p.hubs[h]?, q.hubs[h]? with
      | some s, some t => Frame.published s action t
      | _, _ => []
  | .create _ => []

end Process

def sequences (frames : List CapturedFrame) (k : Nat) : List Nat :=
  (frames.filter fun f => f.key.session == k).map (·.key.sequence)

/-! ### What one hub does with session numbers -/

variable {s t u : FrameHub} {i : OpId} {pc after : Pc} {k : Nat}

def FrameHub.Uses (s : FrameHub) (k : Nat) : Option OpId → Prop
  | none => s.isCurrent k = true
  | some i => ∃ pc, s.ops[i]? = some pc ∧ pc.starting = some k

/-- What a step does with session numbers and frames: nothing, or it draws a number,
begins a session or publishes a frame of one. -/
inductive Sessions (s t : FrameHub) : List CapturedFrame → Prop
  | kept (uses : ∀ k place, t.Uses k place → s.Uses k place)
      (counter : s.nextSession ≤ t.nextSession)
      (latest : t.state.active = true → t.state.latest = s.state.latest) : Sessions s t []
  | drawn (i : OpId) (counter : t.nextSession = s.nextSession + 1)
      (latest : t.state.latest = s.state.latest)
      (uses : ∀ k place, t.Uses k place →
        s.Uses k place ∨ place = some i ∧ k = s.nextSession) : Sessions s t []
  | begun (i : OpId) (k : Nat) (used : s.Uses k (some i)) (latest : t.state.latest = none)
      (counter : s.nextSession ≤ t.nextSession) (done : ∀ r, ¬ t.Uses r (some i))
      (uses : ∀ r place, t.Uses r place →
        place = none ∧ r = k ∨ place ≠ none ∧ s.Uses r place) : Sessions s t []
  | delivered (f : CapturedFrame) (uses : ∀ k place, t.Uses k place → s.Uses k place)
      (counter : s.nextSession ≤ t.nextSession) (latest : t.state.latest = some f)
      (current : s.isCurrent f.key.session = true)
      (sequence : f.key.sequence = s.state.latest.elim 1 (·.key.sequence + 1)) :
      Sessions s t [f]

theorem uses_kept (after : Pc) (at_pc : s.ops[i]? = some pc) (ops : u.ops = s.ops.set i after)
    (current : ∀ k, u.isCurrent k = true → s.isCurrent k = true)
    (starts : after.starting = none ∨ after.starting = pc.starting) {place : Option OpId}
    (uses : u.Uses k place) : s.Uses k place := by
  cases place with
  | none => exact current k uses
  | some j =>
      obtain ⟨other, found, starting⟩ := uses
      rw [ops, FrameHub.getElem?_set_ops at_pc] at found
      split at found
      · next same =>
          obtain rfl := Option.some.inj found
          rcases starts with none | kept
          · rw [none] at starting
            contradiction
          · exact ⟨pc, by rw [same, at_pc], by rw [← kept, starting]⟩
      · exact ⟨other, found, starting⟩

private theorem Access.starting_kept (access : Access s pc t after) (later : pc ≠ .startReset) :
    after.starting = none ∨ after.starting = pc.starting := by
  rcases access.starting with none | same | ⟨first, _⟩
  · exact .inl none
  · exact .inr same
  · exact absurd first later

theorem Delivers.sessions {f : CapturedFrame} (delivers : Delivers s f pc t after)
    (at_pc : s.ops[i]? = some pc) (moved : u = { t with ops := s.ops.set i after }) :
    Sessions s u [f] := by
  cases delivers with
  | @intro job lease elapsed ns current captured =>
      subst captured moved
      refine .delivered _ (fun k place uses => ?_) (Nat.le_refl _) rfl current rfl
      refine uses_kept (.measuring job lease elapsed) at_pc ?_ ?_ (.inl rfl) uses
      · rfl
      · exact fun k now => now

theorem Access.sessions (access : Access s pc t after) (at_pc : s.ops[i]? = some pc)
    (silent : ∀ f, ¬ Delivers s f pc t after)
    (moved : u = { t with ops := s.ops.set i after }) : Sessions s u [] := by
  have starts := access.starting_kept
  have counter := access.nextSession
  subst moved
  cases access with
  | startReset unlocked =>
      refine .drawn i rfl rfl fun k place uses => ?_
      cases place with
      | none => exact .inl uses
      | some j =>
          obtain ⟨other, found, starting⟩ := uses
          rw [FrameHub.getElem?_set_ops at_pc] at found
          split at found
          · next same =>
              obtain rfl := Option.some.inj found
              exact .inr ⟨by rw [same], (Option.some.inj starting).symm⟩
          · exact .inl ⟨other, found, starting⟩
  | @startReplace session recovering reconnectEnabled =>
      refine .begun i session ⟨_, at_pc, rfl⟩ rfl (Nat.le_refl _) ?_ ?_
      · rintro r ⟨other, found, starting⟩
        rw [FrameHub.getElem?_set_ops at_pc, if_pos rfl] at found
        obtain rfl := Option.some.inj found
        contradiction
      · intro r place uses
        cases place with
        | none =>
            simp only [FrameHub.Uses, FrameHub.isCurrent, Bool.true_and, beq_iff_eq] at uses
            exact .inl ⟨rfl, uses.symm⟩
        | some j =>
            obtain ⟨other, found, starting⟩ := uses
            rw [FrameHub.getElem?_set_ops at_pc] at found
            split at found
            · obtain rfl := Option.some.inj found
              contradiction
            · exact .inr ⟨by simp, other, found, starting⟩
  | delivered ns current => exact absurd (.intro current rfl) (silent _)
  | reserved raced unlocked current =>
      refine .kept (fun k place uses => ?_) counter fun _ => ?_
      · refine uses_kept _ at_pc ?_ ?_ (starts (by simp)) uses
        · rfl
        · intro k now
          rw [FrameHub.reserve_keeps] at now
          exact now
      · rw [FrameHub.reserve_keeps]
  | stopDeactivate =>
      refine .kept (fun k place uses => ?_) counter fun active =>
        absurd active Bool.false_ne_true
      refine uses_kept .stopWake at_pc ?_ ?_ (.inl rfl) uses
      · rfl
      · exact fun k now => absurd now Bool.false_ne_true
  | _ =>
      refine .kept (fun k place uses => ?_) counter fun _ => rfl
      refine uses_kept _ at_pc ?_ ?_ (starts (by simp)) uses
      · rfl
      · exact fun k now => now

theorem Sessions.quiet {shown : List CapturedFrame} (silent : shown = [])
    (ops : t.ops = s.ops) (session : t.state.session = s.state.session)
    (active : t.state.active = s.state.active) (latest : t.state.latest = s.state.latest)
    (counter : s.nextSession ≤ t.nextSession) : Sessions s t shown := by
  rw [silent]
  refine .kept (fun k place uses => ?_) counter fun _ => latest
  cases place with
  | none =>
      simp only [FrameHub.Uses, FrameHub.isCurrent, session, active] at uses
      exact uses
  | some j =>
      obtain ⟨pc, found, starting⟩ := uses
      rw [ops] at found
      exact ⟨pc, found, starting⟩

private theorem step_sessions {a : Action} (taken : s.step a = some t) :
    Sessions s t (published s a t) := by
  cases a with
  | run i env =>
      obtain ⟨pc, u, after, at_pc, access, rfl⟩ := step_run taken
      have state : ({ u with ops := s.ops.set i after } : FrameHub).state = u.state := rfl
      rcases access.published at_pc state with ⟨f, delivers, same⟩ | ⟨silent, same⟩
      · rw [same]
        exact delivers.sessions at_pc rfl
      · rw [same]
        exact access.sessions at_pc silent rfl
  | call call =>
      cases taken
      refine .kept (fun k place uses => ?_) (Nat.le_refl _) fun _ => rfl
      cases place with
      | none => exact uses
      | some j =>
          obtain ⟨pc, found, starting⟩ := uses
          rw [FrameHub.getElem?_append_ops] at found
          split at found
          · obtain rfl := Option.some.inj found
            rw [(Call.entry_entry s.clock call).starting] at starting
            contradiction
          · exact ⟨pc, found, starting⟩
  | flag call =>
      cases taken
      cases call <;> exact .quiet rfl rfl rfl rfl rfl (Nat.le_refl _)
  | raise flag =>
      cases taken
      exact .quiet rfl rfl rfl rfl rfl (Nat.le_refl _)
  | otherHub =>
      cases taken
      exact .quiet rfl rfl rfl rfl rfl (Nat.le_succ _)
  | tick ns =>
      cases taken
      exact .quiet rfl rfl rfl rfl rfl (Nat.le_refl _)
  | _ =>
      simp only [FrameHub.step] at taken
      have keeps := (FrameHub.consumerStep_consumed taken).keeps
      rw [keeps]
      exact .quiet rfl rfl rfl rfl rfl (Nat.le_refl _)

/-! ### Frames of one session -/

theorem sequences_snoc (log : List CapturedFrame) (f : CapturedFrame) (k : Nat) :
    sequences (log ++ [f]) k =
      if f.key.session = k then sequences log k ++ [f.key.sequence] else sequences log k := by
  by_cases same : f.key.session = k
  · simp [sequences, same]
  · simp [sequences, same]

private theorem sequences_nil {log : List CapturedFrame} {k : Nat}
    (none : ∀ f ∈ log, f.key.session ≠ k) : sequences log k = [] := by
  rw [sequences, List.map_eq_nil_iff, List.filter_eq_nil_iff]
  intro f member
  simpa using none f member

def lastSequence (latest : Option CapturedFrame) : Nat :=
  latest.elim 0 (·.key.sequence)

namespace Process

def Uses (p : Process) (k h : Nat) (place : Option OpId) : Prop :=
  ∃ s, p.hubs[h]? = some s ∧ s.Uses k place

/-- `log` has the frames that were published so far. -/
structure Keyed (p : Process) (log : List CapturedFrame) : Prop where
  below : ∀ {k h place}, p.Uses k h place → k < p.nextSession
  spent : ∀ f ∈ log, f.key.session < p.nextSession
  unique : ∀ {k h place g other}, p.Uses k h place → p.Uses k g other →
    h = g ∧ place = other
  waiting : ∀ {k h i}, p.Uses k h (some i) → sequences log k = []
  numbered : ∀ {k h : Nat} {s : FrameHub}, p.hubs[h]? = some s → s.isCurrent k = true →
    sequences log k = List.range' 1 (lastSequence s.state.latest)
  counted : ∀ k, ∃ n, sequences log k = List.range' 1 n

variable {p q : Process} {log : List CapturedFrame} {h : Nat} {s t : FrameHub}

theorem hubs_set (present : p.hubs[h]? = some s) {g : Nat} {u : FrameHub}
    (found : (p.hubs.set h t)[g]? = some u) :
    g = h ∧ u = t ∨ g ≠ h ∧ p.hubs[g]? = some u := by
  by_cases same : g = h
  · subst same
    rw [List.getElem?_set_self (List.getElem?_eq_some_iff.mp present).1] at found
    exact .inl ⟨rfl, (Option.some.inj found).symm⟩
  · rw [List.getElem?_set_ne (Ne.symm same)] at found
    exact .inr ⟨same, found⟩

theorem uses_set (present : p.hubs[h]? = some s) {n k g : Nat} {place : Option OpId}
    (uses : Process.Uses { hubs := p.hubs.set h t, nextSession := n } k g place) :
    g = h ∧ t.Uses k place ∨ g ≠ h ∧ p.Uses k g place := by
  obtain ⟨u, found, uses⟩ := uses
  rcases hubs_set present found with ⟨same, rfl⟩ | ⟨other, found⟩
  · exact .inl ⟨same, uses⟩
  · exact .inr ⟨other, u, found, uses⟩

theorem uses_fewer (present : p.hubs[h]? = some s)
    (uses : ∀ k place, t.Uses k place → s.Uses k place) {k g : Nat} {place : Option OpId}
    (now : Process.Uses { hubs := p.hubs.set h t, nextSession := t.nextSession } k g place) :
    p.Uses k g place := by
  rcases uses_set present now with ⟨rfl, mine⟩ | ⟨_, theirs⟩
  · exact ⟨s, present, uses k place mine⟩
  · exact theirs

theorem Keyed.kept (keyed : p.Keyed log) (present : p.hubs[h]? = some s)
    (uses : ∀ k place, t.Uses k place → s.Uses k place)
    (counter : p.nextSession ≤ t.nextSession)
    (latest : t.state.active = true → t.state.latest = s.state.latest) :
    Keyed { hubs := p.hubs.set h t, nextSession := t.nextSession } log where
  below now := Nat.lt_of_lt_of_le (keyed.below (uses_fewer present uses now)) counter
  spent f member := Nat.lt_of_lt_of_le (keyed.spent f member) counter
  unique first second :=
    keyed.unique (uses_fewer present uses first) (uses_fewer present uses second)
  waiting now := keyed.waiting (uses_fewer present uses now)
  numbered found current := by
    rcases hubs_set present found with ⟨rfl, rfl⟩ | ⟨_, found⟩
    · have active := current
      simp only [FrameHub.isCurrent, Bool.and_eq_true] at active
      rw [latest active.1]
      exact keyed.numbered present (uses _ none current)
    · exact keyed.numbered found current
  counted := keyed.counted

theorem Keyed.drawn (keyed : p.Keyed log) (present : p.hubs[h]? = some s) {i : OpId}
    (counter : t.nextSession = p.nextSession + 1) (latest : t.state.latest = s.state.latest)
    (uses : ∀ k place, t.Uses k place →
      s.Uses k place ∨ place = some i ∧ k = p.nextSession) :
    Keyed { hubs := p.hubs.set h t, nextSession := t.nextSession } log := by
  have cases : ∀ {k g place},
      Process.Uses { hubs := p.hubs.set h t, nextSession := t.nextSession } k g place →
      p.Uses k g place ∨ g = h ∧ place = some i ∧ k = p.nextSession := by
    intro k g place now
    rcases uses_set present now with ⟨rfl, mine⟩ | ⟨_, theirs⟩
    · rcases uses k place mine with old | ⟨rfl, rfl⟩
      · exact .inl ⟨s, present, old⟩
      · exact .inr ⟨rfl, rfl, rfl⟩
    · exact .inl theirs
  have fresh : ∀ {g place}, ¬ p.Uses p.nextSession g place :=
    fun used => Nat.lt_irrefl _ (keyed.below used)
  constructor
  · intro k g place now
    dsimp only
    rw [counter]
    rcases cases now with old | ⟨_, _, rfl⟩
    · exact Nat.lt_succ_of_lt (keyed.below old)
    · exact Nat.lt_succ_self _
  · intro f member
    dsimp only
    rw [counter]
    exact Nat.lt_succ_of_lt (keyed.spent f member)
  · intro k g place g' place' first second
    rcases cases first with old | ⟨rfl, rfl, new⟩ <;>
      rcases cases second with other | ⟨rfl, rfl, same⟩
    · exact keyed.unique old other
    · rw [same] at old
      exact absurd old fresh
    · rw [new] at other
      exact absurd other fresh
    · exact ⟨rfl, rfl⟩
  · intro k g j now
    rcases cases now with old | ⟨_, _, rfl⟩
    · exact keyed.waiting old
    · exact sequences_nil fun f member => Nat.ne_of_lt (keyed.spent f member)
  · intro k g u found current
    rcases hubs_set present found with ⟨rfl, rfl⟩ | ⟨_, found⟩
    · rw [latest]
      rcases uses k none current with old | ⟨impossible, _⟩
      · exact keyed.numbered present old
      · contradiction
    · exact keyed.numbered found current
  · exact keyed.counted

theorem Keyed.begun (keyed : p.Keyed log) (present : p.hubs[h]? = some s) {i : OpId} {k : Nat}
    (used : s.Uses k (some i)) (latest : t.state.latest = none)
    (counter : p.nextSession ≤ t.nextSession) (done : ∀ r, ¬ t.Uses r (some i))
    (uses : ∀ r place, t.Uses r place →
      place = none ∧ r = k ∨ place ≠ none ∧ s.Uses r place) :
    Keyed { hubs := p.hubs.set h t, nextSession := t.nextSession } log := by
  have mine : p.Uses k h (some i) := ⟨s, present, used⟩
  have cases : ∀ {r g place},
      Process.Uses { hubs := p.hubs.set h t, nextSession := t.nextSession } r g place →
      g = h ∧ place = none ∧ r = k ∨ p.Uses r g place ∧ (g, place) ≠ (h, some i) ∧
        (g, place) ≠ (h, none) := by
    intro r g place now
    rcases uses_set present now with ⟨rfl, here⟩ | ⟨other, theirs⟩
    · rcases uses r place here with ⟨rfl, rfl⟩ | ⟨inside, old⟩
      · exact .inl ⟨rfl, rfl, rfl⟩
      · refine .inr ⟨⟨s, present, old⟩, ?_, ?_⟩
        · rintro ⟨_, rfl⟩
          exact done r here
        · rintro ⟨_, rfl⟩
          exact inside rfl
    · exact .inr ⟨theirs, fun same => other (Prod.mk.inj same).1,
        fun same => other (Prod.mk.inj same).1⟩
  constructor
  · intro r g place now
    rcases cases now with ⟨_, _, rfl⟩ | ⟨old, _⟩
    · exact Nat.lt_of_lt_of_le (keyed.below mine) counter
    · exact Nat.lt_of_lt_of_le (keyed.below old) counter
  · intro f member
    exact Nat.lt_of_lt_of_le (keyed.spent f member) counter
  · intro r g place g' place' first second
    rcases cases first with ⟨rfl, rfl, rfl⟩ | ⟨old, apart, _⟩ <;>
      rcases cases second with ⟨rfl, rfl, same⟩ | ⟨other, apart', _⟩
    · exact ⟨rfl, rfl⟩
    · obtain ⟨rfl, rfl⟩ := keyed.unique mine other
      exact absurd rfl apart'
    · subst same
      obtain ⟨rfl, rfl⟩ := keyed.unique mine old
      exact absurd rfl apart
    · exact keyed.unique old other
  · intro r g j now
    rcases cases now with ⟨_, impossible, _⟩ | ⟨old, _⟩
    · contradiction
    · exact keyed.waiting old
  · intro r g u found current
    rcases hubs_set present found with ⟨rfl, rfl⟩ | ⟨_, found⟩
    · rcases uses r none current with ⟨_, rfl⟩ | ⟨impossible, _⟩
      · rw [latest]
        exact keyed.waiting mine
      · exact absurd rfl impossible
    · exact keyed.numbered found current
  · exact keyed.counted

theorem Keyed.delivered (keyed : p.Keyed log) (present : p.hubs[h]? = some s)
    {f : CapturedFrame} (uses : ∀ k place, t.Uses k place → s.Uses k place)
    (counter : p.nextSession ≤ t.nextSession) (latest : t.state.latest = some f)
    (current : s.isCurrent f.key.session = true)
    (sequence : f.key.sequence = s.state.latest.elim 1 (·.key.sequence + 1)) :
    Keyed { hubs := p.hubs.set h t, nextSession := t.nextSession } (log ++ [f]) := by
  have mine : p.Uses f.key.session h none := ⟨s, present, current⟩
  have next : sequences (log ++ [f]) f.key.session = List.range' 1 f.key.sequence := by
    have before := keyed.numbered present current
    have succ : f.key.sequence = lastSequence s.state.latest + 1 := by
      rw [sequence, lastSequence]
      cases s.state.latest <;> rfl
    rw [sequences_snoc, if_pos rfl, before, succ, List.range'_1_concat, Nat.add_comm 1]
  constructor
  · intro k g place now
    exact Nat.lt_of_lt_of_le (keyed.below (uses_fewer present uses now)) counter
  · intro g member
    refine Nat.lt_of_lt_of_le ?_ counter
    rcases List.mem_append.mp member with old | new
    · exact keyed.spent g old
    · rw [List.mem_singleton.mp new]
      exact keyed.below mine
  · intro k g place g' place' first second
    exact keyed.unique (uses_fewer present uses first)
      (uses_fewer present uses second)
  · intro k g j now
    have old := uses_fewer present uses now
    rw [sequences_snoc, if_neg, keyed.waiting old]
    rintro rfl
    have impossible := (keyed.unique mine old).2
    contradiction
  · intro k g u found now
    rcases hubs_set present found with ⟨rfl, rfl⟩ | ⟨other, found⟩
    · have same : k = f.key.session := by
        have before : s.isCurrent k = true := uses k none now
        simp only [FrameHub.isCurrent, Bool.and_eq_true, beq_iff_eq] at before current
        exact before.2.symm.trans current.2
      rw [same, latest]
      exact next
    · rw [sequences_snoc, if_neg]
      · exact keyed.numbered found now
      · rintro rfl
        have theirs : p.Uses f.key.session g none := ⟨u, found, now⟩
        exact other (keyed.unique mine theirs).1.symm
  · intro k
    by_cases same : f.key.session = k
    · rw [← same]
      exact ⟨_, next⟩
    · rw [sequences_snoc, if_neg same]
      exact keyed.counted k

theorem Keyed.create (keyed : p.Keyed log) (capacity : Nat) :
    Keyed { p with
      hubs := p.hubs ++ [{ FrameHub.new capacity with nextSession := p.nextSession }] } log := by
  have older : ∀ {g : Nat} {u : FrameHub} {k : Nat} {place : Option OpId},
      (p.hubs ++ [{ FrameHub.new capacity with nextSession := p.nextSession }])[g]? = some u →
      u.Uses k place → p.hubs[g]? = some u := by
    intro g u k place found uses
    rcases Nat.lt_or_ge g p.hubs.length with inside | beyond
    · rwa [List.getElem?_append_left inside] at found
    · rw [List.getElem?_append_right beyond] at found
      obtain rfl := List.mem_singleton.mp (List.mem_of_getElem? found)
      cases place with
      | none => contradiction
      | some j =>
          obtain ⟨pc, inside, _⟩ := uses
          contradiction
  have fewer : ∀ {k g : Nat} {place : Option OpId},
      Process.Uses { p with
        hubs := p.hubs ++ [{ FrameHub.new capacity with nextSession := p.nextSession }] }
        k g place → p.Uses k g place := by
    rintro k g place ⟨u, found, uses⟩
    exact ⟨u, older found uses, uses⟩
  refine ⟨fun now => keyed.below (fewer now), keyed.spent,
    fun first second => keyed.unique (fewer first) (fewer second),
    fun now => keyed.waiting (fewer now), ?_, keyed.counted⟩
  intro k g u found current
  have uses : u.Uses k none := current
  have here : p.hubs[g]? = some u := older found uses
  exact keyed.numbered here current

theorem Keyed.step (keyed : p.Keyed log) {a : Process.Action} (taken : p.step a = some q) :
    q.Keyed (log ++ published p a q) := by
  cases a with
  | create capacity =>
      cases taken
      simp only [published, List.append_nil]
      exact keyed.create capacity
  | hub h action =>
      simp only [Process.step] at taken
      split at taken
      · next s present =>
          obtain ⟨t, step, rfl⟩ := Option.map_eq_some_iff.mp taken
          have there : (p.hubs.set h t)[h]? = some t :=
            List.getElem?_set_self (List.getElem?_eq_some_iff.mp present).1
          simp only [published, present, there]
          have seen : Frame.published s action t =
              Frame.published { s with nextSession := p.nextSession } action t := by
            cases action <;> rfl
          have made := step_sessions step
          rw [seen]
          generalize Frame.published _ action t = shown at made ⊢
          cases made with
          | kept uses counter latest =>
              rw [List.append_nil]
              exact keyed.kept present uses counter latest
          | drawn i counter latest uses =>
              rw [List.append_nil]
              exact keyed.drawn present counter latest uses
          | begun i k used latest counter done uses =>
              rw [List.append_nil]
              exact keyed.begun present used latest counter done uses
          | delivered f uses counter latest current sequence =>
              exact keyed.delivered present uses counter latest current sequence
      · contradiction

private theorem keyed_initially : Keyed {} [] where
  below := by
    rintro k h place ⟨s, found, _⟩
    contradiction
  spent := List.forall_mem_nil _
  unique := by
    rintro k h place g other ⟨s, found, _⟩
    contradiction
  waiting := fun _ => rfl
  numbered := by
    intro k h s found
    contradiction
  counted k := ⟨0, rfl⟩

/-! ### Keys identify frames -/

private theorem keys_nodup {log : List CapturedFrame} (distinct : ∀ k, (sequences log k).Nodup) :
    (log.map (·.key)).Nodup := by
  induction log with
  | nil => exact List.nodup_nil
  | cons f rest ih =>
      rw [List.map_cons, List.nodup_cons]
      constructor
      · intro member
        obtain ⟨g, inside, same⟩ := List.mem_map.mp member
        have own := distinct f.key.session
        have split : sequences (f :: rest) f.key.session =
            f.key.sequence :: sequences rest f.key.session := by
          simp [sequences]
        rw [split, List.nodup_cons] at own
        refine own.1 (List.mem_map.mpr ⟨g, ?_, ?_⟩)
        · rw [List.mem_filter, same]
          exact ⟨inside, beq_self_eq_true _⟩
        · rw [same]
      · refine ih fun k => (distinct k).sublist ?_
        exact ((List.sublist_cons_self f rest).filter _).map _

/-- In every run of the hubs of a process the frames of a session are numbered from 1
on in the order of their publication, and no two frames have the same key. -/
theorem keys_identify
    (reached : (machine.logged published).Reachable Lib.Machine.anything (p, log)) :
    (∀ k, sequences log k = List.range' 1 (sequences log k).length) ∧
      (log.map (·.key)).Nodup := by
  have keyed : p.Keyed log := by
    refine reached.invariant (P := fun state => Keyed state.1 state.2) ?_ ?_
    · rintro ⟨start, earlier⟩ ⟨initial, empty⟩
      obtain rfl : start = {} := initial
      obtain rfl : earlier = [] := empty
      exact keyed_initially
    · intro before a after _ taken keyed
      obtain ⟨step, shown⟩ := Lib.Machine.logged_step taken
      rw [shown]
      exact keyed.step step
  have numbered : ∀ k, sequences log k = List.range' 1 (sequences log k).length := by
    intro k
    obtain ⟨n, counted⟩ := keyed.counted k
    rw [counted, List.length_range']
  refine ⟨numbered, keys_nodup fun k => ?_⟩
  rw [numbered k]
  exact List.nodup_range'

/-- Two hubs in turn: sessions 1 and 2 run together, and the first hub is restarted
while a publish of session 1 is under way. -/
def twoHubs : List Process.Action :=
  [Process.Action.create 2, .create 2, .hub 0 (.call .start)] ++
  List.replicate 4 (Process.Action.hub 0 (.run 0 {})) ++ [Process.Action.hub 1 (.call .start)] ++
  List.replicate 4 (Process.Action.hub 1 (.run 0 {})) ++
  [Process.Action.hub 0 (.call (.publishRgb 1 1 1 none)), .hub 0 (.run 1 {}), .hub 0 (.run 1 {}),
    .hub 0 (.run 1 { choice := .finish 1 }), .hub 0 (.run 1 {}),
    .hub 1 (.call (.publishRgb 2 1 1 none)), .hub 1 (.run 1 {}), .hub 1 (.run 1 {}),
    .hub 1 (.run 1 { choice := .finish 1 }), .hub 1 (.run 1 {}),
    .hub 0 (.call (.publishRgb 1 1 1 none)), .hub 0 (.run 2 {}), .hub 0 (.run 2 {}),
    .hub 0 (.run 2 { choice := .finish 1 }), .hub 0 (.call .start)] ++
  List.replicate 4 (Process.Action.hub 0 (.run 3 {})) ++ [Process.Action.hub 0 (.run 2 {})]

theorem keys_identify_twoHubs : ∃ p log,
    (machine.logged published).Reachable Lib.Machine.anything (p, log) ∧
      log.map (·.key) = [⟨1, 1⟩, ⟨2, 1⟩] ∧
      (∀ k, sequences log k = List.range' 1 (sequences log k).length) ∧
      (log.map (·.key)).Nodup := by
  have passed : (((machine.logged published).exec (fun _ _ => true) ({}, []) twoHubs).any
      fun state => decide (state.2.map (·.key) = [⟨1, 1⟩, ⟨2, 1⟩])) = true := by
    decide +kernel
  have initial : (machine.logged published).initial ({}, []) := ⟨rfl, rfl⟩
  obtain ⟨⟨p, log⟩, reached, keys⟩ := Lib.Machine.Reachable.of_exec initial passed
  have anyhow := reached.mono fun _ _ _ => (trivial : Lib.Machine.anything _ _)
  exact ⟨p, log, anyhow, of_decide_eq_true keys, keys_identify anyhow⟩

end Process

end CameraRs.Frame
