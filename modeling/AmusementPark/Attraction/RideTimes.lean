import AmusementPark.Attraction.Run

/-! # The two deadlines of a ride

One round of an attraction and the clients that are let in, on one clock. The
round ends a duration after `StartAttraction`, the `Wait` of a client gives up
the same duration after it began. A client is in its `Wait` while the worker
still runs the handshakes of the others, so its deadline may come first.
-/
namespace AmusementPark.Attraction
open Library Worker

/-- `attractionTime` of `pVisitAttraction`: the draws of `RandomChance` and `RandomInt` count only
where a client may leave. -/
def attractionTime (cfg : AttractionConfig) (leavesEarly : Bool) (random : ℕ) : ℤ :=
  if cfg.canLeave = true ∧ leavesEarly = true then random else cfg.duration

/-- One `Wait` on the leave semaphore: when it began, its timeout, and when it timed out. -/
structure RideWait where
  pid : Pid
  begun : ℤ
  timeout : ℤ
  timedOut : Option ℤ
deriving DecidableEq

/-- One round with its clients. `acked` are the clients that have sent their `ACK` and do not wait
yet, `admitted` the ones that the worker has added. -/
structure RideSystem where
  now : ℤ
  handler : AttractionHandler
  acked : List Pid
  admitted : List Pid
  waits : List RideWait
deriving DecidableEq

inductive RideAction where
  | tick (n : ℕ)
  | ack (pid : Pid)
  | addClient (pid : Pid) (hasChild : Bool)
  | beginWait (pid : Pid) (leavesEarly : Bool) (random : ℕ)
  | timesOut (w : RideWait)
  | semop (w : RideWait)
  | exit (pid : Pid)
  | start
deriving DecidableEq

namespace RideSystem

/-- A new handler of the attraction. -/
def init (cfg : AttractionConfig) (id : ℕ) (now : ℤ) : RideSystem :=
  ⟨now, .construct (AttractionSystem.handlerData cfg id), [], [], []⟩

/-- A client waits from its `ACK` on, whether or not the worker has added it by then.
`semtimedop` does not give up before its timeout has passed. -/
def step (cfg : AttractionConfig) (s : RideSystem) : RideAction → Option RideSystem
  | .tick n => some { s with now := s.now + n }
  | .ack pid => some { s with acked := pid :: s.acked }
  | .addClient pid hasChild => if s.handler.started then none else some { s with
      handler := (s.handler.addClient pid hasChild true).2
      admitted := pid :: s.admitted }
  | .beginWait pid leavesEarly random => if pid ∈ s.acked then some { s with
      acked := s.acked.erase pid
      waits := ⟨pid, s.now, attractionTime cfg leavesEarly random, none⟩ :: s.waits } else none
  | .timesOut w => if w ∈ s.waits ∧ w.timedOut = none ∧ w.begun + w.timeout ≤ s.now then
      some { s with waits := { w with timedOut := some s.now } :: s.waits.erase w } else none
  | .semop w => if w ∈ s.waits ∧ w.timedOut = none then
      some { s with waits := s.waits.erase w } else none
  | .exit pid => some { s with handler := (s.handler.removeClient pid).2 }
  | .start => if s.handler.started = true ∨ s.handler.isEmpty = true then none else
      some { s with handler := s.handler.startAttraction s.now }

def machine (cfg : AttractionConfig) : Machine RideSystem RideAction := ⟨step cfg⟩

/-- No admitted client has timed out before the finish time of the round. -/
def StaysOn (s : RideSystem) : Prop :=
  s.handler.started = true → ∀ w ∈ s.waits, w.pid ∈ s.admitted →
    ∀ t ∈ w.timedOut, s.handler.finishTime ≤ t

instance : DecidablePred StaysOn := fun _ => inferInstanceAs (Decidable (_ → _))

/-- When the round starts, none of its clients has begun its `Wait` at an earlier time. -/
def StartsFirst (s : RideSystem) : RideAction → Prop
  | .start => ∀ w ∈ s.waits, w.pid ∈ s.admitted → s.now ≤ w.begun
  | _ => True

instance decidableStartsFirst (s : RideSystem) : ∀ a, Decidable (s.StartsFirst a)
  | .start => inferInstanceAs (Decidable (∀ w ∈ s.waits, _))
  | .tick _ | .ack _ | .addClient _ _ | .beginWait _ _ _ | .timesOut _ | .semop _ | .exit _ =>
    isTrue trivial

/-- The deadlines of the waits, and of the round once it has started. -/
structure RideInvariant (cfg : AttractionConfig) (s : RideSystem) : Prop where
  duration : s.handler.data.attractionDuration = cfg.duration
  timeout : ∀ w ∈ s.waits, w.timeout = cfg.duration
  timedOut : ∀ w ∈ s.waits, ∀ t ∈ w.timedOut, w.begun + w.timeout ≤ t
  now : s.handler.started = true → s.handler.finishTime ≤ s.now + cfg.duration
  started : s.handler.started = true → ∀ w ∈ s.waits, w.pid ∈ s.admitted →
    s.handler.finishTime ≤ w.begun + cfg.duration

variable {cfg : AttractionConfig} {s t : RideSystem}

theorem attractionTime_of_canLeave (hcfg : cfg.canLeave = false) (leavesEarly : Bool)
    (random : ℕ) : attractionTime cfg leavesEarly random = cfg.duration := by
  simp [attractionTime, hcfg]

theorem rideInvariant_init (id : ℕ) (now : ℤ) : (init cfg id now).RideInvariant cfg where
  duration := rfl
  timeout _ hw := by cases hw
  timedOut _ hw := by cases hw
  now h := by cases h
  started h := by cases h

theorem RideInvariant.staysOn (hs : s.RideInvariant cfg) : s.StaysOn := by
  intro hstarted w hw hadmitted t ht
  have hbegun := hs.started hstarted w hw hadmitted
  have hout := hs.timedOut w hw t ht
  rw [hs.timeout w hw] at hout
  exact hbegun.trans hout

/-- A step that changes at most which of the waits are still there. -/
theorem RideInvariant.of_subset (hs : s.RideInvariant cfg) (hnow : s.now ≤ t.now)
    (hdata : t.handler.data = s.handler.data) (hstarted : t.handler.started = s.handler.started)
    (hfinish : t.handler.finishTime = s.handler.finishTime)
    (hwaits : ∀ w ∈ t.waits, w ∈ s.waits)
    (hadmitted : s.handler.started = true → ∀ pid ∈ t.admitted, pid ∈ s.admitted) :
    t.RideInvariant cfg where
  duration := by rw [hdata, hs.duration]
  timeout w hw := hs.timeout w (hwaits w hw)
  timedOut w hw := hs.timedOut w (hwaits w hw)
  now h := by
    have := hs.now (hstarted ▸ h)
    rw [hfinish]
    omega
  started h w hw hpid := by
    rw [hfinish]
    exact hs.started (hstarted ▸ h) w (hwaits w hw) (hadmitted (hstarted ▸ h) w.pid hpid)

/-- A wait that begins now ends after a round that has started by now. -/
theorem RideInvariant.beginWait (hcfg : cfg.canLeave = false) (hs : s.RideInvariant cfg)
    (pid : Pid) (leavesEarly : Bool) (random : ℕ) : RideInvariant cfg { s with
      acked := s.acked.erase pid
      waits := ⟨pid, s.now, attractionTime cfg leavesEarly random, none⟩ :: s.waits } := by
  constructor
  · exact hs.duration
  · intro w hw
    obtain rfl | hw := List.mem_cons.mp hw
    · exact attractionTime_of_canLeave hcfg leavesEarly random
    · exact hs.timeout w hw
  · intro w hw t ht
    obtain rfl | hw := List.mem_cons.mp hw
    · cases ht
    · exact hs.timedOut w hw t ht
  · exact hs.now
  · intro hstarted w hw hadmitted
    obtain rfl | hw := List.mem_cons.mp hw
    · exact hs.now hstarted
    · exact hs.started hstarted w hw hadmitted

theorem RideInvariant.timesOut (hs : s.RideInvariant cfg) {w : RideWait} (hw : w ∈ s.waits)
    (hnow : w.begun + w.timeout ≤ s.now) : RideInvariant cfg { s with
      waits := { w with timedOut := some s.now } :: s.waits.erase w } := by
  constructor
  · exact hs.duration
  · intro v hv
    obtain rfl | hv := List.mem_cons.mp hv
    · exact hs.timeout w hw
    · exact hs.timeout v (List.mem_of_mem_erase hv)
  · intro v hv t ht
    obtain rfl | hv := List.mem_cons.mp hv
    · obtain rfl := Option.some.inj ht
      exact hnow
    · exact hs.timedOut v (List.mem_of_mem_erase hv) t ht
  · exact hs.now
  · intro hstarted v hv hadmitted
    obtain rfl | hv := List.mem_cons.mp hv
    · exact hs.started hstarted w hw hadmitted
    · exact hs.started hstarted v (List.mem_of_mem_erase hv) hadmitted

/-- The start of the round sets its finish time. -/
theorem RideInvariant.start (hs : s.RideInvariant cfg) (hstarted : s.handler.started ≠ true)
    (ha : s.StartsFirst .start) :
    RideInvariant cfg { s with handler := s.handler.startAttraction s.now } := by
  have hhandler : s.handler.startAttraction s.now =
      { s.handler with finishTime := s.now + cfg.duration, started := true } := by
    rw [AttractionHandler.startAttraction, if_neg hstarted, hs.duration]
  rw [hhandler]
  refine ⟨hs.duration, hs.timeout, hs.timedOut, fun _ => le_rfl, fun _ w hw hadmitted => ?_⟩
  have hbegun := ha w hw hadmitted
  dsimp only
  omega

theorem RideInvariant.step (hcfg : cfg.canLeave = false) {a : RideAction}
    (hs : s.RideInvariant cfg) (ha : s.StartsFirst a) (h : s.step cfg a = some t) :
    t.RideInvariant cfg := by
  cases a with
  | tick n =>
    obtain rfl := Option.some.inj h
    refine hs.of_subset ?_ rfl rfl rfl (fun _ hw => hw) fun _ _ hpid => hpid
    dsimp only
    omega
  | ack pid =>
    obtain rfl := Option.some.inj h
    exact hs.of_subset le_rfl rfl rfl rfl (fun _ hw => hw) fun _ _ hpid => hpid
  | addClient pid hasChild =>
    simp only [RideSystem.step, Option.ite_none_left_eq_some, Option.some.injEq] at h
    obtain ⟨hstarted, rfl⟩ := h
    refine hs.of_subset le_rfl ?_ ?_ ?_ (fun _ hw => hw) fun h => absurd h hstarted
    · simp only [AttractionHandler.addClient]
      split <;> rfl
    · exact AttractionHandler.addClient_started pid hasChild true s.handler
    · simp only [AttractionHandler.addClient]
      split <;> rfl
  | beginWait pid leavesEarly random =>
    simp only [RideSystem.step, Option.ite_none_right_eq_some, Option.some.injEq] at h
    obtain ⟨-, rfl⟩ := h
    exact hs.beginWait hcfg pid leavesEarly random
  | timesOut w =>
    simp only [RideSystem.step, Option.ite_none_right_eq_some, Option.some.injEq] at h
    obtain ⟨⟨hw, -, hnow⟩, rfl⟩ := h
    exact hs.timesOut hw hnow
  | semop w =>
    simp only [RideSystem.step, Option.ite_none_right_eq_some, Option.some.injEq] at h
    obtain ⟨-, rfl⟩ := h
    exact hs.of_subset le_rfl rfl rfl rfl (fun _ hw => List.mem_of_mem_erase hw)
      fun _ _ hpid => hpid
  | exit pid =>
    obtain rfl := Option.some.inj h
    exact hs.of_subset le_rfl rfl rfl rfl (fun _ hw => hw) fun _ _ hpid => hpid
  | start =>
    simp only [RideSystem.step, Option.ite_none_left_eq_some, Option.some.injEq, not_or] at h
    obtain ⟨⟨hstarted, -⟩, rfl⟩ := h
    exact hs.start hstarted ha

/-- In every run of a round of an attraction that forbids leaving, whose clients begin their waits
no earlier than the round starts, no client of the round times out before its finish time. -/
theorem staysOn_of_startsFirst (cfg : AttractionConfig) (hcfg : cfg.canLeave = false) (id : ℕ)
    (now : ℤ) (as : List RideAction)
    (has : (machine cfg).Meets StartsFirst (init cfg id now) as) :
    (machine cfg).Always StaysOn (init cfg id now) as :=
  Machine.always_of_meets (fun _ hs => RideInvariant.staysOn hs)
    (fun _ _ _ hs ha h => RideInvariant.step hcfg hs ha h) (rideInvariant_init id now) has

/-- The condition leaves nothing out: a client of the round that began to wait before the start
may time out before the finish. -/
theorem leaves_of_begun_before (hduration : 0 < cfg.duration) (hs : s.RideInvariant cfg)
    {w : RideWait} (hw : w ∈ s.waits) (hadmitted : w.pid ∈ s.admitted) (hwaits : w.timedOut = none)
    (hbegun : w.begun < s.now) (h : s.step cfg .start = some t) :
    ∃ as, ¬ (machine cfg).Always StaysOn t as := by
  simp only [RideSystem.step, Option.ite_none_left_eq_some, Option.some.injEq, not_or] at h
  obtain ⟨⟨hstarted, -⟩, rfl⟩ := h
  have hhandler : s.handler.startAttraction s.now =
      { s.handler with finishTime := s.now + cfg.duration, started := true } := by
    rw [AttractionHandler.startAttraction, if_neg hstarted, hs.duration]
  have htimeout := hs.timeout w hw
  -- the clock moves to the end of the client's wait
  refine ⟨[.tick (w.begun + w.timeout - s.now).toNat, .timesOut w], fun halways => ?_⟩
  rw [hhandler] at halways
  have htick := halways.2 _ rfl
  have hout := htick.2 _ (if_pos ⟨hw, hwaits, by dsimp only; omega⟩)
  have hearly := hout rfl _ (List.mem_cons_self ..) hadmitted _ rfl
  dsimp only at hearly
  omega

/-- The attraction A6. -/
def ferrisWheel : AttractionConfig := ⟨20, 8, 1, false, -1, 120, -1, -1⟩

/-- Two clients that wait from the start on, and leave with the round. -/
theorem ferrisWheel_staysOn : (machine ferrisWheel).Always StaysOn (init ferrisWheel 26 100)
    [.ack 7, .addClient 7 false, .tick 1, .ack 8, .addClient 8 true, .start, .beginWait 8 true 5,
      .tick 2, .beginWait 7 false 0, .tick 18, .timesOut ⟨8, 101, 20, none⟩] :=
  staysOn_of_startsFirst ferrisWheel rfl 26 100 _ (by decide)

/-- Client 7 waits from 100 on, the handshake of client 8 takes two seconds, and the round runs
from 102 to 122: client 7 times out at 120 and is removed. -/
theorem ferrisWheel_leaves :
    ¬ (machine ferrisWheel).Always StaysOn (init ferrisWheel 26 100)
      [.ack 7, .beginWait 7 false 0, .addClient 7 false, .tick 2, .ack 8, .addClient 8 true, .start,
        .tick 18, .timesOut ⟨7, 100, 20, none⟩, .exit 7] := by
  decide

end RideSystem
end AmusementPark.Attraction
