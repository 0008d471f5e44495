import AmusementPark.Attraction.HandlerCalls
import AmusementPark.WakeUps.Attraction

/-! # One place for each client

An attraction has several rounds under way, and `AddClient` looks only at the
handler that is being filled. A client that is let in while an earlier round
still lists it has two places, and its exit gives up only one of them.
-/
namespace AmusementPark.Worker.Rounds
variable {cap : ℕ} {R R' : Rounds} {kind : StepKind} {calls : List (ℕ × HandlerCall)}

/-- No client is listed by two installed handlers, or by one of them and the new handler. -/
structure Separate (R : Rounds) : Prop where
  installed : ∀ i j h k pid, R.installed i = some h → R.installed j = some k →
    pid ∈ h.clientList → pid ∈ k.clientList → i = j
  building : ∀ id h, R.stage = .building id h → ∀ j k pid, R.installed j = some k →
    pid ∈ h.clientList → pid ∉ k.clientList

/-- A client is added to the new handler only while no installed handler lists it. -/
def AddsNewcomers (R : Rounds) (calls : List (ℕ × HandlerCall)) : Prop :=
  ∀ id pid hasChild fromPark, (id, HandlerCall.addClient pid hasChild fromPark) ∈ calls →
    ∀ j k, R.installed j = some k → pid ∉ k.clientList

/-- Handlers that list no more clients than the installed ones did. -/
theorem Separate.of_shrinking (hR : R.Separate) {installed : ℕ → Option AttractionHandler}
    (hsub : ∀ id k, installed id = some k → ∃ h, R.installed id = some h ∧
      ∀ pid, pid ∈ k.clientList → pid ∈ h.clientList)
    {stage : Stage} (hstage : stage = R.stage ∨ ∀ id h, stage ≠ .building id h) (paused : Bool) :
    Separate ⟨installed, stage, paused⟩ := by
  constructor
  · intro i j h' k' pid hi hj hh hk
    obtain ⟨h, hold, hlisted⟩ := hsub i h' hi
    obtain ⟨k, hold', hlisted'⟩ := hsub j k' hj
    exact hR.installed i j h k pid hold hold' (hlisted pid hh) (hlisted' pid hk)
  · intro id h' hbuilding j k' pid hj hh hk
    obtain ⟨k, hold, hlisted⟩ := hsub j k' hj
    cases hstage with
    | inl hsame => exact hR.building id h' (hsame ▸ hbuilding) j k pid hold hh (hlisted pid hk)
    | inr hnone => exact hnone id h' hbuilding

/-- A call on installed handlers that adds nobody. -/
theorem Separate.onInstalled (hR : R.Separate) {c : HandlerCall}
    {installed : ℕ → Option AttractionHandler} (h : R.OnInstalled c calls installed)
    (hc : ∀ h k, c.effect h = some k → ∀ pid, pid ∈ k.clientList → pid ∈ h.clientList)
    {stage : Stage} (hstage : stage = R.stage ∨ ∀ id h, stage ≠ .building id h) (paused : Bool) :
    Separate ⟨installed, stage, paused⟩ := by
  apply hR.of_shrinking ?_ hstage
  intro id k hk
  obtain ⟨h', hh', rfl | heffect⟩ := h.of_some hk
  · exact ⟨k, hh', fun _ hpid => hpid⟩
  · exact ⟨h', hh', hc h' k heffect⟩

theorem Separate.step (hR : R.Separate) (h : R.Step cap kind calls R')
    (hnew : R.AddsNewcomers calls) : R'.Separate := by
  have hkeep {stage : Stage} (hstage : stage = R.stage ∨ ∀ id h, stage ≠ .building id h)
      (paused : Bool) : Separate ⟨R.installed, stage, paused⟩ :=
    hR.of_shrinking (fun id k hk => ⟨k, hk, fun _ hpid => hpid⟩) hstage paused
  cases h with
  | keep => exact hR
  | resume => exact hkeep (.inl rfl) false
  | cut paused => exact hkeep (.inl rfl) paused
  | clear =>
    apply hR.of_shrinking ?_ (.inl rfl)
    intro id k hk
    cases hk
  | release h _ =>
    apply hR.onInstalled h ?_ (.inl rfl)
    intro h k hk pid hpid
    obtain rfl := Option.some.inj hk
    rwa [AttractionHandler.releaseClients_clientList] at hpid
  | stop => exact hkeep (.inr (by simp)) _
  | exits pid _ h | cutExits pid _ h =>
    apply hR.onInstalled h ?_ (.inr (by simp))
    intro h k hk q hq
    obtain rfl := Option.some.inj hk
    exact (AList.mem_erase.mp hq).2
  | finishes _ h =>
    apply hR.onInstalled h ?_ (.inr (by simp))
    intro h k hk
    cases hk
  | create id data =>
    refine ⟨hR.installed, ?_⟩
    intro id' h hstage j k pid _ hpid
    obtain ⟨-, rfl⟩ := Stage.building.inj hstage
    cases hpid
  | @admission id h pid hasChild fromPark hstage =>
    refine ⟨hR.installed, ?_⟩
    intro id' h' hstage' j k q hj hq
    obtain ⟨-, rfl⟩ := Stage.building.inj hstage'
    obtain rfl | hold := AttractionHandler.mem_addClient_clientList.mp hq
    · exact hnew id q hasChild fromPark (List.mem_singleton_self _) j k hj
    · exact hR.building id h hstage j k q hj hold
  | discard => exact hkeep (.inr (by simp)) _
  | @install id h hstage =>
    refine ⟨?_, by simp⟩
    intro i j h' k pid hi hj hh hk
    obtain ⟨hid, rfl⟩ | ⟨-, hi⟩ := installed_of_update hi
    · obtain ⟨hjd, -⟩ | ⟨-, hj⟩ := installed_of_update hj
      · rw [hid, hjd]
      · exact absurd hk (hR.building id h hstage j k pid hj hh)
    · obtain ⟨-, rfl⟩ | ⟨-, hj⟩ := installed_of_update hj
      · exact absurd hh (hR.building id h hstage i h' pid hi hk)
      · exact hR.installed i j h' k pid hi hj hh hk
  | @start id h now hstage hh =>
    apply hR.of_shrinking ?_ (.inr (by simp))
    intro i k hk
    obtain ⟨rfl, rfl⟩ | ⟨-, hk⟩ := installed_of_update hk
    · refine ⟨h, hh, ?_⟩
      rw [AttractionHandler.startAttraction_clientList]
      exact fun _ hpid => hpid
    · exact ⟨k, hk, fun _ hpid => hpid⟩
  | announce => exact hkeep (.inr (by simp)) _
  | crash => exact hkeep (.inr (by simp)) _

end AmusementPark.Worker.Rounds

namespace AmusementPark.Attraction
open Library Worker

namespace HandlerMap

/-- Each client is in the client list of at most one handler. -/
def OnePlace (m : HandlerMap) : Prop :=
  ∀ e ∈ m, ∀ e' ∈ m, ∀ h ∈ e.2, ∀ h' ∈ e'.2, ∀ pid,
    pid ∈ h.clientList → pid ∈ h'.clientList → e.1 = e'.1

theorem OnePlace.eq_of_get {m : HandlerMap} (hm : m.OnePlace) {i j : ℕ} {h k : AttractionHandler}
    {pid : Pid} (hi : get i m = some h) (hj : get j m = some k) (hh : pid ∈ h.clientList)
    (hk : pid ∈ k.clientList) : i = j :=
  hm (i, some h) (mem_of_get hi) (j, some k) (mem_of_get hj) h rfl k rfl pid hh hk

/-- The client is in no handler. -/
def Absent (pid : Pid) (m : HandlerMap) : Prop := ∀ e ∈ m, ∀ h ∈ e.2, pid ∉ h.clientList

theorem absent_cons {pid : Pid} {id : ℕ} {handler : Option AttractionHandler} {m : HandlerMap} :
    Absent pid ((id, handler) :: m) ↔ (∀ h ∈ handler, pid ∉ h.clientList) ∧ Absent pid m :=
  List.forall_mem_cons

/-- With one place at most, `pRemoveClient` removes a client from all handlers. -/
theorem OnePlace.removeClient {m : HandlerMap} (hm : m.OnePlace) (hnodup : m.ids.Nodup)
    (pid : Pid) : (m.removeClient pid).Absent pid := by
  induction m with
  | nil => simp [HandlerMap.removeClient, Absent]
  | cons e m ih =>
    obtain ⟨id, handler⟩ := e
    simp only [ids, List.map_cons, List.nodup_cons] at hnodup
    have hrest : OnePlace m := by
      intro e he e' he'
      exact hm e (List.mem_cons_of_mem _ he) e' (List.mem_cons_of_mem _ he')
    cases handler with
    | none => exact absent_cons.mpr ⟨by simp, ih hrest hnodup.2⟩
    | some h =>
      simp only [HandlerMap.removeClient]
      split
      · next hfound =>
        apply absent_cons.mpr
        refine ⟨by simp, ?_⟩
        intro e he k hk hpid
        have hheld : pid ∈ h.clientList := of_decide_eq_true hfound
        have hid : id = e.1 := hm (id, some h) (List.mem_cons_self ..) e
          (List.mem_cons_of_mem _ he) h rfl k hk pid hheld hpid
        exact hnodup.1 (hid ▸ List.mem_map_of_mem he)
      · exact absent_cons.mpr ⟨by simp, ih hrest hnodup.2⟩

end HandlerMap

namespace AttractionSystem
variable {C : Type*} {cfg : AttractionConfig}

/-- The call adds no client that a handler of the map still lists. -/
def Newcomer (m : HandlerMap) : HandlerCall → Prop
  | .addClient pid _ _ => m.Absent pid
  | _ => True

instance (m : HandlerMap) : ∀ c, Decidable (Newcomer m c)
  | .addClient pid _ _ =>
    inferInstanceAs (Decidable (∀ e ∈ m, ∀ h ∈ e.2, pid ∉ h.clientList))
  | .construct _ | .removeClient _ | .startAttraction _ | .releaseClients | .destruct =>
    isTrue trivial

/-- The step adds no client that a handler of `m_attractionHandlers` still lists. -/
def AddsNewcomers (cfg : AttractionConfig) (s : AttractionSystem C) (a : AttractionAction C) :
    Prop :=
  ∀ e ∈ s.handlerCalls cfg a, Newcomer s.proc.handlers e.2

instance (s : AttractionSystem C) (a : AttractionAction C) : Decidable (s.AddsNewcomers cfg a) :=
  inferInstanceAs (Decidable (∀ e ∈ s.handlerCalls cfg a, _))

theorem AddsNewcomers.rounds {s : AttractionSystem C} {a : AttractionAction C}
    (h : s.AddsNewcomers cfg a) : s.rounds.AddsNewcomers (s.handlerCalls cfg a) := by
  intro id pid hasChild fromPark hcall j k hk
  exact h _ hcall (j, some k) (HandlerMap.mem_of_get hk) k rfl

/-- Each client has one place at most, so an exit leaves it with none. -/
def OnePlace (s : AttractionSystem C) : Prop :=
  s.proc.handlers.OnePlace ∧
    ∀ pid, (AttractionProc.pRemoveClient pid s.proc).handlers.Absent pid

theorem onePlace_of_separate {s : AttractionSystem C} (hvalid : s.ValidHandlers)
    (hs : s.rounds.Separate) : s.OnePlace := by
  have hone : s.proc.handlers.OnePlace := by
    intro e he e' he' h hh h' hh' pid hpid hpid'
    obtain ⟨i, handler⟩ := e
    obtain ⟨j, handler'⟩ := e'
    obtain rfl : handler = some h := hh
    obtain rfl : handler' = some h' := hh'
    exact hs.installed i j h h' pid (HandlerMap.get_of_mem hvalid.nodup he)
      (HandlerMap.get_of_mem hvalid.nodup he') hpid hpid'
  exact ⟨hone, fun pid => hone.removeClient hvalid.nodup pid⟩

/-- In every run in which the attraction adds only clients that no installed handler lists, each
client has one place at most. -/
theorem onePlace_of_addsNewcomers [DecidableEq C] (hcount : cfg.handlerCount < 2 ^ 8)
    (attractionID tokens : ℕ) (as : List (AttractionAction C))
    (has : (machine C cfg).Meets (AddsNewcomers cfg) (.init attractionID cfg tokens) as) :
    (machine C cfg).Always OnePlace (.init attractionID cfg tokens) as := by
  have hstarts := start_starts (C := C) attractionID hcount tokens (.ok ())
  have hseparate : (init attractionID cfg tokens : AttractionSystem C).rounds.Separate := by
    constructor
    · intro i j h k pid hi
      cases (hstarts.installed i).symm.trans hi
    · intro id h hbuilding
      cases hbuilding
  apply Machine.always_of_meets (I := fun s => s.ValidHandlers ∧ s.rounds.Separate)
    (fun s h => onePlace_of_separate h.1 h.2) ?_ ⟨hstarts.valid, hseparate⟩ has
  intro s a t hinv hnew h
  obtain ⟨hstep, hvalid⟩ := step_rounds hinv.1 h
  exact ⟨hvalid, hinv.2.step hstep hnew.rounds⟩

/-- The attraction A13, with four capsules for two. -/
def a13 : AttractionConfig := ⟨20, 2, 4, true, -1, 140, -1, 195⟩

/-- PID 7 rides from 0 on. -/
def firstRide : List (AttractionAction Unit) :=
  [.mailbox (.send () 0 entryRequest), .mailbox (.signal ()), .check 0, .wake true,
    .finishCheck 0, .testPaused, .handle, .decide, .create, .register (.faultless 7 0),
    .register (.faultless 7 0), .install, .start 0, .announce (.ok ()), .create,
    .register (.faultless 7 0), .install]

/-- PID 7 leaves at 5 and its `EXIT_ATTRACTION` arrives, or it is lost; then it asks again. -/
def secondRide (exitSent : Bool) : List (AttractionAction Unit) :=
  (if exitSent then
    [.mailbox (.send () 0 ⟨7, .exitAttraction, .emptyMessage⟩), .mailbox (.signal ()), .check 5,
      .wake true, .finishCheck 5, .testPaused, .handle, .decide, .create,
      .register (.faultless 7 5), .install] else []) ++
  [.mailbox (.send () 0 entryRequest), .mailbox (.signal ()), .check 6, .wake true,
    .finishCheck 6, .testPaused, .handle, .decide, .create, .register (.faultless 7 6),
    .register (.faultless 7 6), .install]

/-- With its exit delivered the client is in the second round only. -/
theorem secondRide_onePlace :
    (machine Unit a13).Always OnePlace (.init 12 a13 0) (firstRide ++ secondRide true) :=
  onePlace_of_addsNewcomers (by decide) 12 0 _ (by decide +kernel)

/-- With its exit lost the client is in both rounds, and one exit leaves it in the second. -/
theorem lostExit_twoPlaces :
    ∃ s, (machine Unit a13).exec (.init 12 a13 0) (firstRide ++ secondRide false) = some s ∧
      ¬ s.proc.handlers.OnePlace ∧
      ¬ (AttractionProc.pRemoveClient 7 s.proc).handlers.Absent 7 ∧
      ¬ (machine Unit a13).Always OnePlace (.init 12 a13 0) (firstRide ++ secondRide false) := by
  have hexec : ∃ s, (machine Unit a13).exec (.init 12 a13 0) (firstRide ++ secondRide false) =
      some s ∧ (∃ h, HandlerMap.get 38 s.proc.handlers = some h ∧ (7 : Pid) ∈ h.clientList) ∧
        (∃ h, HandlerMap.get 39 s.proc.handlers = some h ∧ (7 : Pid) ∈ h.clientList) ∧
        ¬ (AttractionProc.pRemoveClient 7 s.proc).handlers.Absent 7 := by
    refine ⟨_, rfl, ⟨_, rfl, by decide⟩, ⟨_, rfl, by decide⟩, ?_⟩
    intro habsent
    exact habsent (39, some _) (List.mem_cons_of_mem _ (List.mem_cons_self ..)) _ rfl (by decide)
  obtain ⟨s, hs, ⟨h, hh, hmem⟩, ⟨k, hk, hmem'⟩, hleft⟩ := hexec
  have htwo : ¬ s.proc.handlers.OnePlace := by
    intro hone
    cases hone.eq_of_get hh hk hmem hmem'
  exact ⟨s, hs, htwo, hleft, fun halways => htwo (halways.of_exec hs).1⟩

end AttractionSystem
end AmusementPark.Attraction
