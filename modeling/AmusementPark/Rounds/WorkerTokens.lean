import AmusementPark.Rounds.ReleaseTokens
import AmusementPark.Rounds.Shutdown

/-! # The release tokens of the worker processes

`TokenSystem` follows one leave semaphore with its clients, a worker process
all its semaphores without them. Whatever a process does to one of them while
its handlers live, some clients and the token system do as well: each
registration is an exchange of a permit and an ACK, each token is taken by
somebody who has entered.
-/
namespace AmusementPark
open Library Worker Attraction Restaurant

/-! ## The calls of a step on one semaphore -/

namespace Worker

theorem callAll_at {objects result : ℕ → LeaveSemaphore} {calls : List (ℕ × HandlerCall)}
    (hnodup : (calls.map Prod.fst).Nodup) (h : callAll objects calls = some result) (id : ℕ) :
    result id = objects id ∨ ∃ c, (id, c) ∈ calls ∧ (objects id).call c = some (result id) := by
  induction calls generalizing objects with
  | nil =>
    obtain rfl := Option.some.inj h
    exact .inl rfl
  | cons e calls ih =>
    obtain ⟨i, c⟩ := e
    simp only [List.map_cons, List.nodup_cons] at hnodup
    obtain ⟨S, hS, hrest⟩ := Option.bind_eq_some_iff.mp h
    by_cases hi : id = i
    · -- the semaphore of the first call is left alone by the others
      subst hi
      right
      have hlast : result id = S := by
        obtain hsame | ⟨c', hc', -⟩ := ih hnodup.2 hrest
        · rw [hsame, Function.update_self]
        · exact absurd (List.mem_map_of_mem hc') hnodup.1
      exact ⟨c, by simp, by rw [hS, hlast]⟩
    · obtain hsame | ⟨c', hc', hcall⟩ := ih hnodup.2 hrest
      · left
        rw [hsame, Function.update_of_ne hi]
      · right
        rw [Function.update_of_ne hi] at hcall
        exact ⟨c', by simp [hc'], hcall⟩

namespace Rounds
variable {cap : ℕ} {R R' : Rounds} {kind : StepKind} {calls : List (ℕ × HandlerCall)}

theorem unwind_nodup (R : Rounds) : (R.unwind.map Prod.fst).Nodup := by
  unfold unwind
  split
  · simp
  · split <;> simp
  · split <;> simp
  · simp

/-- A step calls each handler at most once. -/
theorem Step.nodup (h : R.Step cap kind calls R') : (calls.map Prod.fst).Nodup := by
  cases h with
  | clear _ h => exact h.nodup
  | release h _ => exact h.nodup
  | exits _ _ h | cutExits _ _ h => exact h.nodup
  | finishes _ h => exact h.nodup
  | stop => exact R.unwind_nodup
  | _ => simp

/-- Only the handler that is being built gets a client. -/
theorem Step.building_of_addClient (h : R.Step cap kind calls R') {id : ℕ} {pid : Pid}
    {hasChild fromPark : Bool} (hc : (id, .addClient pid hasChild fromPark) ∈ calls) :
    ∃ h, R.stage = .building id h := by
  cases h with
  | @admission i k pid' _ _ hstage _ =>
    simp only [List.mem_singleton, Prod.mk.injEq] at hc
    exact ⟨k, hc.1 ▸ hstage⟩
  | clear _ h => cases (h.called _ hc).1
  | release h _ => cases (h.called _ hc).1
  | exits _ _ h | cutExits _ _ h => cases (h.called _ hc).1
  | finishes _ h => cases (h.called _ hc).1
  | stop =>
    unfold unwind at hc
    split at hc
    · simp at hc
    · split at hc <;> simp at hc
    · split at hc <;> simp at hc
    · cases hc
  | _ => simp at hc

end Rounds
end Worker

/-! ## What the token system knows of the semaphore -/

namespace TokenSystem

/-- The token system has the semaphore with its handler. Nobody is being registered, the clients
of an unreleased handler are inside, and for each token there is somebody who can take it. -/
structure Covers (S : LeaveSemaphore) (t : TokenSystem) : Prop where
  object : t.object = S
  idle : t.exchange = none
  inside : ∀ h, S.handler = some h → h.released = false → ∀ pid ∈ h.clientList, pid ∈ t.entered
  tokens : S.value ≤ t.entered.card

variable {S T : LeaveSemaphore} {t : TokenSystem}

theorem covers_init : Covers (.unused 0) init where
  object := rfl
  idle := rfl
  inside _ hh := by cases hh
  tokens := Nat.le_refl 0

/-- A release posts as many tokens as the handler has clients, who are all inside. -/
theorem Covers.release (ht : Covers S t) {h : AttractionHandler} (hh : S.handler = some h)
    (hzero : h.released = false → S.value = 0) (hT : S.release h = some T) :
    T.value ≤ t.entered.card := by
  obtain ⟨-, hvalue⟩ := LeaveSemaphore.release_eq_some hT
  cases hr : h.released with
  | true =>
    rw [hr, if_pos rfl, Nat.add_zero] at hvalue
    rw [hvalue]
    exact ht.tokens
  | false =>
    have hsub : h.clientList.keys.toFinset ⊆ t.entered := by
      intro pid hpid
      exact ht.inside h hh hr pid (List.mem_toFinset.mp hpid)
    have hcard : h.clientList.entries.length = h.clientList.keys.toFinset.card := by
      rw [List.toFinset_card_of_nodup h.clientList.keys_nodup]
      exact (List.length_map _).symm
    rw [hvalue, hr, hzero hr, if_neg Bool.false_ne_true, Nat.zero_add, hcard]
    exact Finset.card_le_card hsub

/-- What any call but `AddClient` leaves is covered by the clients that were inside before. -/
theorem Covers.keeps (ht : Covers S t)
    (hzero : ∀ h, S.handler = some h → h.released = false → S.value = 0) {c : HandlerCall}
    (hc : ∀ pid hasChild fromPark, c ≠ .addClient pid hasChild fromPark)
    (hT : S.call c = some T) :
    (∀ h, T.handler = some h → h.released = false → ∀ pid ∈ h.clientList, pid ∈ t.entered) ∧
      T.value ≤ t.entered.card := by
  cases c with
  | construct data =>
    simp only [LeaveSemaphore.call, Option.ite_none_left_eq_some, Option.some.injEq] at hT
    obtain ⟨-, rfl⟩ := hT
    refine ⟨fun k hk _ pid hpid => ?_, Nat.zero_le _⟩
    obtain rfl := Option.some.inj hk
    simp at hpid
  | addClient pid hasChild fromPark => exact absurd rfl (hc pid hasChild fromPark)
  | removeClient q =>
    obtain ⟨h, hh, rfl⟩ := Option.map_eq_some_iff.mp hT
    refine ⟨fun k hk hr pid hpid => ?_, ht.tokens⟩
    obtain rfl := Option.some.inj hk
    apply ht.inside h hh hr pid
    simp only [AttractionHandler.removeClient_clientList, AList.mem_erase] at hpid
    exact hpid.2
  | startAttraction now =>
    obtain ⟨h, hh, rfl⟩ := Option.map_eq_some_iff.mp hT
    constructor
    · intro k hk hr pid hpid
      obtain rfl := Option.some.inj hk
      rw [AttractionHandler.startAttraction_released] at hr
      rw [AttractionHandler.startAttraction_clientList] at hpid
      exact ht.inside h hh hr pid hpid
    · have htokens := ht.tokens
      dsimp only
      split <;> omega
  | releaseClients =>
    obtain ⟨h, hh, hT⟩ := Option.bind_eq_some_iff.mp hT
    refine ⟨fun k hk hr => ?_, ht.release hh (hzero h hh) hT⟩
    rw [(LeaveSemaphore.release_eq_some hT).1] at hk
    obtain rfl := Option.some.inj hk
    rw [AttractionHandler.releaseClients_released] at hr
    cases hr
  | destruct =>
    obtain ⟨h, hh, hT⟩ := Option.bind_eq_some_iff.mp hT
    obtain ⟨U, hU, rfl⟩ := Option.map_eq_some_iff.mp hT
    have hvalue := ht.release hh (hzero h hh) hU
    exact ⟨fun k hk => (by cases hk), hvalue⟩

/-- Any call but `AddClient` is a step of the token system. -/
theorem Covers.call (ht : Covers S t)
    (hzero : ∀ h, S.handler = some h → h.released = false → S.value = 0) {c : HandlerCall}
    (hc : ∀ pid hasChild fromPark, c ≠ .addClient pid hasChild fromPark)
    (hT : S.call c = some T) : ∃ u, machine.exec t [.call c] = some u ∧ Covers T u := by
  have hcallable : t.callable c = true := by
    cases c with
    | addClient pid hasChild fromPark => exact absurd rfl (hc pid hasChild fromPark)
    | destruct => rfl
    | _ => simp [callable, ht.idle]
  have hexec : machine.exec t [.call c] =
      some { t with object := T, posted := t.postedBy c, exchange := none } := by
    simp [Machine.exec, machine, step, hcallable, ht.object, hT]
  obtain ⟨hinside, htokens⟩ := ht.keeps hzero hc hT
  exact ⟨_, hexec, rfl, rfl, hinside, htokens⟩

/-- A registration: a client that may have come before gets a permit, answers it and is added. -/
theorem Covers.addClient (ht : Covers S t) {h : AttractionHandler} (hh : S.handler = some h)
    (hstarted : h.started = false) (hreleased : h.released = false) (hzero : S.value = 0)
    {pid : Pid} {hasChild fromPark : Bool}
    (hT : S.call (.addClient pid hasChild fromPark) = some T) :
    ∃ u, machine.exec t [.leave pid, .sendPermit pid, .ack pid,
      .receiveAck hasChild fromPark (.ok ())] = some u ∧ Covers T u := by
  have hexec : machine.exec t [.leave pid, .sendPermit pid, .ack pid,
      .receiveAck hasChild fromPark (.ok ())] = some { t with
        object := T
        exchange := none
        permitted := (insert pid t.permitted).erase pid
        entered := insert pid (t.entered.erase pid) } := by
    simp [Machine.exec, machine, step, ht.idle, ht.object, hh, hstarted, hreleased, hT]
  simp only [LeaveSemaphore.call, hh, Option.map_some, Option.some.injEq] at hT
  subst hT
  refine ⟨_, hexec, rfl, rfl, ?_, hzero.le.trans (Nat.zero_le _)⟩
  intro k hk _ q hq
  obtain rfl := Option.some.inj hk
  obtain rfl | hq := AttractionHandler.mem_addClient_clientList.mp hq
  · exact Finset.mem_insert_self q _
  · exact Finset.insert_erase_subset pid t.entered (ht.inside h hh hreleased q hq)

/-- Somebody inside takes a token. -/
theorem Covers.wait (ht : Covers S t)
    (hzero : ∀ h, S.handler = some h → h.released = false → S.value = 0)
    (hT : S.wait = some T) : ∃ pid u, machine.exec t [.wait pid] = some u ∧ Covers T u := by
  have hpos : 0 < S.value ∧ { S with value := S.value - 1 } = T := by
    simpa only [LeaveSemaphore.wait, Option.ite_none_right_eq_some, Option.some.injEq] using hT
  have htokens := ht.tokens
  have hcard : 0 < t.entered.card := by omega
  obtain ⟨pid, hpid⟩ := Finset.card_pos.mp hcard
  have hexec : machine.exec t [.wait pid] = some { t with
      object := T, posted := t.posted.tail, entered := t.entered.erase pid } := by
    simp [Machine.exec, machine, step, hpid, ht.object, hT]
  obtain ⟨hpos, rfl⟩ := hpos
  refine ⟨pid, _, hexec, rfl, ht.idle, fun h hh hr => ?_, ?_⟩
  · have := hzero h hh hr
    omega
  · have := Finset.card_erase_of_mem hpid
    dsimp only
    omega

end TokenSystem

/-! ## Every run of a process is a run of the token system -/

namespace Worker.RoundsProgram
open TokenSystem
variable {σ α : Type*} {W : RoundsProgram σ α}

/-- The static destructors run after the array is gone; before them every step of the process is,
on each semaphore, some steps of the token system. -/
theorem Reached.covers {P Q : RoundsProcess σ} {a : ProcessAction α} (hP : W.Reached P) {id : ℕ}
    {t : TokenSystem} (ht : Covers (P.objects id) t) (ha : a ≠ .destroyStatics)
    (h : W.processStep P a = some Q) :
    ∃ bs u, TokenSystem.machine.exec t bs = some u ∧ Covers (Q.objects id) u := by
  have hcalls {kind : Rounds.StepKind} {calls : List (ℕ × HandlerCall)} {R : Rounds}
      {objects : ℕ → LeaveSemaphore} (halive : P.phase.alive = true)
      (hcrash : (W.rounds P.worker).stage ≠ .crashed)
      (hstep : (W.rounds P.worker).Step W.capacity kind calls R)
      (hobjects : callAll P.objects calls = some objects) :
      ∃ bs u, TokenSystem.machine.exec t bs = some u ∧ Covers (objects id) u := by
    obtain hsame | ⟨c, hc, hcall⟩ := callAll_at hstep.nodup hobjects id
    · exact ⟨[], t, rfl, hsame ▸ ht⟩
    · by_cases hadd : ∃ pid hasChild fromPark, c = .addClient pid hasChild fromPark
      · obtain ⟨pid, hasChild, fromPark, rfl⟩ := hadd
        obtain ⟨k, hk⟩ := hstep.building_of_addClient hc
        have hh := (hP.holds halive hcrash).of_building hk
        obtain ⟨-, hreleased, hstarted⟩ := hP.fresh id k hk
        exact ⟨_, ht.addClient hh hstarted hreleased (hP.zero id k hh hreleased) hcall⟩
      · exact ⟨_, ht.call (hP.zero id)
          (fun pid hasChild fromPark hc => hadd ⟨pid, hasChild, fromPark, hc⟩) hcall⟩
  cases a with
  | run a =>
    simp only [processStep, Option.ite_none_right_eq_some, Option.bind_eq_some_iff,
      Option.map_eq_some_iff] at h
    obtain ⟨⟨halive, hcrash⟩, s, hs, objects, hobjects, rfl⟩ := h
    exact hcalls halive hcrash (W.step_rounds hP.valid hs) hobjects
  | wait i =>
    simp only [processStep, Option.map_eq_some_iff] at h
    obtain ⟨S, hS, rfl⟩ := h
    dsimp only
    by_cases hi : id = i
    · subst hi
      rw [Function.update_self]
      obtain ⟨pid, hwait⟩ := ht.wait (hP.zero id) hS
      exact ⟨_, hwait⟩
    · rw [Function.update_of_ne hi]
      exact ⟨[], t, rfl, ht⟩
  | pCloseImpl =>
    simp only [processStep, Option.ite_none_right_eq_some, Option.map_eq_some_iff] at h
    obtain ⟨⟨hphase, hstage⟩, objects, hobjects, rfl⟩ := h
    exact hcalls (by rw [hphase]; rfl) (by simp [hstage]) (W.close_rounds hP.valid hstage) hobjects
  | pCloseThrows =>
    simp only [processStep, Option.ite_none_right_eq_some, Option.some.injEq] at h
    obtain ⟨-, rfl⟩ := h
    exact ⟨[], t, rfl, ht⟩
  | dropArray =>
    obtain ⟨-, rfl⟩ := W.dropArray_eq_some.mp h
    exact ⟨[], t, rfl, ht⟩
  | destroyStatics => exact absurd rfl ha

/-- What a process does to one of its leave semaphores, the token system does as well. -/
theorem tokens_of_process {s : σ} (hs : W.Starts s) (id : ℕ) {as : List (ProcessAction α)}
    (has : W.process.Meets (fun _ a => a ≠ .destroyStatics) (.launch s fun _ => 0) as) :
    W.process.Always (fun P => ∃ bs t, TokenSystem.machine.exec TokenSystem.init bs = some t ∧
      t.object = P.objects id) (.launch s fun _ => 0) as := by
  have hstep (P : RoundsProcess σ) (a : ProcessAction α) (Q : RoundsProcess σ) (t : TokenSystem)
      (hPt : W.Reached P ∧ Covers (P.objects id) t) (ha : a ≠ .destroyStatics)
      (h : W.process.step P a = some Q) :
      ∃ bs u, TokenSystem.machine.exec t bs = some u ∧ W.Reached Q ∧ Covers (Q.objects id) u := by
    obtain ⟨bs, u, hbs, hu⟩ := hPt.1.covers hPt.2 ha h
    exact ⟨bs, u, hbs, hPt.1.step h, hu⟩
  have hrun := Machine.always_related hstep ⟨hs.reached fun _ => 0, covers_init⟩ has
  apply hrun.mono
  intro P hP
  obtain ⟨bs, t, hbs, -, ht⟩ := hP
  exact ⟨bs, t, hbs, ht.object⟩

end Worker.RoundsProgram

variable {C : Type*} [DecidableEq C]

/-- The token system covers the attraction and the restaurant. -/
theorem tokens_of_attraction_restaurant {attractionCfg : AttractionConfig}
    (hcount : attractionCfg.handlerCount < 2 ^ 8) (restaurantCfg : AttractionConfig)
    (attractionID tokens : ℕ) (initialised : Except Exn Unit) (id : ℕ)
    {as : List (ProcessAction (AttractionAction C))}
    {rs : List (ProcessAction (RestaurantAction C))}
    (has : (AttractionSystem.program C attractionCfg).process.Meets
      (fun _ a => a ≠ .destroyStatics)
      (.launch (.start attractionID attractionCfg tokens initialised) fun _ => 0) as)
    (hrs : (RestaurantSystem.program C restaurantCfg).process.Meets
      (fun _ a => a ≠ .destroyStatics) (.launch (.start tokens initialised) fun _ => 0) rs) :
    (AttractionSystem.program C attractionCfg).process.Always
        (fun P => ∃ bs t, TokenSystem.machine.exec .init bs = some t ∧ t.object = P.objects id)
        (.launch (.start attractionID attractionCfg tokens initialised) fun _ => 0) as ∧
      (RestaurantSystem.program C restaurantCfg).process.Always
        (fun P => ∃ bs t, TokenSystem.machine.exec .init bs = some t ∧ t.object = P.objects id)
        (.launch (.start tokens initialised) fun _ => 0) rs :=
  ⟨RoundsProgram.tokens_of_process
      (AttractionSystem.start_starts attractionID hcount tokens initialised) id has,
    RoundsProgram.tokens_of_process
      (RestaurantSystem.start_starts restaurantCfg tokens initialised) id hrs⟩

end AmusementPark
