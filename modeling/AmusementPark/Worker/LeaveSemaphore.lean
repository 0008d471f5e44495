import AmusementPark.Worker.AttractionHandler

/-! # Leave semaphores and the handlers that live on them

Successive handlers share one leave semaphore. A handler sets it to 0 when it is
constructed and when it starts, and signals once for each of its clients when
it releases them, at the latest in its destructor. `Signal(0)` is the System V
operation that waits for the value 0.
-/
namespace AmusementPark.Worker

/-- The calls of a worker on an `AttractionHandler`, its constructor and destructor included. -/
inductive HandlerCall where
  | construct (data : AttractionHandlerData)
  | addClient (pid : Pid) (hasChild fromPark : Bool)
  | removeClient (pid : Pid)
  | startAttraction (now : ℤ)
  | releaseClients
  | destruct
deriving DecidableEq

/-- What a call leaves of the handler it is made on. -/
def HandlerCall.effect : HandlerCall → AttractionHandler → Option AttractionHandler
  | .construct data, _ => some (.construct data)
  | .addClient pid hasChild fromPark, h => some (h.addClient pid hasChild fromPark).2
  | .removeClient pid, h => some (h.removeClient pid).2
  | .startAttraction now, h => some (h.startAttraction now)
  | .releaseClients, h => some h.releaseClients.1
  | .destruct, _ => none

def HandlerCall.constructs : HandlerCall → Bool
  | .construct _ => true
  | _ => false

def HandlerCall.starts : HandlerCall → Bool
  | .startAttraction _ => true
  | _ => false

/-- A leave semaphore with the handler on it. The counters are a history: how many handlers have
been constructed on the semaphore and how many of them have run `ReleaseClients`. -/
structure LeaveSemaphore where
  value : ℕ
  handler : Option AttractionHandler
  constructed : ℕ
  released : ℕ
deriving DecidableEq

namespace LeaveSemaphore

/-- The semaphore before the first handler. -/
def unused (value : ℕ) : LeaveSemaphore := ⟨value, none, 0, 0⟩

/-- `Wait(1)` of a client; it blocks on the value 0. -/
def wait (S : LeaveSemaphore) : Option LeaveSemaphore :=
  if 0 < S.value then some { S with value := S.value - 1 } else none

/-- `Signal` by the number of clients; the amount 0 blocks until the value is 0. -/
def signal (amount : ℕ) (S : LeaveSemaphore) : Option LeaveSemaphore :=
  if amount = 0 ∧ S.value ≠ 0 then none else some { S with value := S.value + amount }

/-- `ReleaseClients` of the handler on the semaphore. -/
def release (h : AttractionHandler) (S : LeaveSemaphore) : Option LeaveSemaphore :=
  match h.releaseClients with
  | (h', none) => some { S with handler := some h' }
  | (h', some amount) => (S.signal amount).map fun T =>
      { T with handler := some h', released := T.released + 1 }

/-- What a release leaves: the handler is released, and has posted a token for each client unless
it had been released before. -/
theorem release_eq_some {h : AttractionHandler} {S T : LeaveSemaphore}
    (hT : S.release h = some T) : T.handler = some h.releaseClients.1 ∧
      T.value = S.value + if h.released then 0 else h.clientList.entries.length := by
  cases hr : h.released with
  | true =>
    have hrelease : h.releaseClients = (h, none) := by simp [AttractionHandler.releaseClients, hr]
    simp only [release, hrelease, Option.some.injEq] at hT
    subst hT
    exact ⟨by rw [hrelease], rfl⟩
  | false =>
    have hrelease : h.releaseClients =
        ({ h with released := true }, some h.clientList.entries.length) := by
      simp [AttractionHandler.releaseClients, hr]
    simp only [release, hrelease, signal, Option.map_eq_some_iff,
      Option.ite_none_left_eq_some, Option.some.injEq] at hT
    obtain ⟨U, ⟨-, rfl⟩, rfl⟩ := hT
    exact ⟨by rw [hrelease], rfl⟩

/-- One call. A construction is blocked while another handler lives on the semaphore, any other
call while there is none; the workers never come into either situation. -/
def call (S : LeaveSemaphore) : HandlerCall → Option LeaveSemaphore
  | .construct data => if S.handler.isSome then none else some
      { value := 0, handler := some (.construct data)
        constructed := S.constructed + 1, released := S.released }
  | .addClient pid hasChild fromPark => S.handler.map fun h =>
      { S with handler := some (h.addClient pid hasChild fromPark).2 }
  | .removeClient pid => S.handler.map fun h => { S with handler := some (h.removeClient pid).2 }
  | .startAttraction now => S.handler.map fun h =>
      { S with value := if h.started then S.value else 0, handler := some (h.startAttraction now) }
  | .releaseClients => S.handler.bind fun h => S.release h
  | .destruct => S.handler.bind fun h => (S.release h).map fun T => { T with handler := none }

/-- Handlers on the semaphore that have not released their clients: one or none. -/
def unreleased (S : LeaveSemaphore) : ℕ := if S.handler.any (!·.released) then 1 else 0

/-- The semaphore is 0 while the handler on it has not been released, and every handler ever
constructed has been released, except that one. -/
structure Sound (S : LeaveSemaphore) : Prop where
  zero : ∀ h ∈ S.handler, h.released = false → S.value = 0
  counted : S.constructed = S.released + S.unreleased

theorem sound_unused (value : ℕ) : (unused value).Sound where
  zero h hh := by simp [unused] at hh
  counted := rfl

theorem unreleased_of_handler {S : LeaveSemaphore} {h : AttractionHandler}
    (hh : S.handler = some h) : S.unreleased = if h.released then 0 else 1 := by
  cases hr : h.released <;> simp [unreleased, hh, hr]

/-- A call that changes neither the semaphore nor the flag of its handler. -/
theorem Sound.replace {S : LeaveSemaphore} (hS : S.Sound) {h k : AttractionHandler}
    (hh : S.handler = some h) (hk : k.released = h.released) (value : ℕ)
    (hvalue : value = S.value ∨ value = 0) :
    Sound { S with value := value, handler := some k } where
  zero k' hk' hr := by
    obtain rfl := Option.some.inj hk'
    have := hS.zero h hh (hk ▸ hr)
    dsimp only
    omega
  counted := by
    have := hS.counted
    rw [unreleased_of_handler hh] at this
    rw [unreleased_of_handler (h := k) rfl, hk]
    exact this

theorem Sound.wait {S T : LeaveSemaphore} (hS : S.Sound) (h : S.wait = some T) : T.Sound := by
  simp only [LeaveSemaphore.wait, Option.ite_none_right_eq_some, Option.some.injEq] at h
  obtain ⟨hpos, rfl⟩ := h
  refine ⟨fun h hh hr => ?_, hS.counted⟩
  have := hS.zero h hh hr
  dsimp only
  omega

/-- `ReleaseClients` never blocks: before the release the semaphore is 0. -/
theorem Sound.release {S : LeaveSemaphore} (hS : S.Sound) {h : AttractionHandler}
    (hh : S.handler = some h) :
    ∃ T, S.release h = some T ∧ T.Sound ∧ T.handler = some h.releaseClients.1 := by
  cases hr : h.released with
  | true =>
    have hrelease : h.releaseClients = (h, none) := by simp [AttractionHandler.releaseClients, hr]
    refine ⟨S, ?_, hS, ?_⟩
    · simp only [LeaveSemaphore.release, hrelease, ← hh]
    · rw [hrelease, hh]
  | false =>
    have hrelease : h.releaseClients =
        ({ h with released := true }, some h.clientList.entries.length) := by
      simp [AttractionHandler.releaseClients, hr]
    have hzero := hS.zero h hh hr
    have hcounted := hS.counted
    rw [unreleased_of_handler hh, hr] at hcounted
    refine ⟨⟨h.clientList.entries.length, some { h with released := true }, S.constructed,
      S.released + 1⟩, ?_, ⟨?_, ?_⟩, ?_⟩
    · simp [LeaveSemaphore.release, hrelease, signal, hzero]
    · intro k hk hkr
      obtain rfl := Option.some.inj hk
      cases hkr
    · simpa [unreleased] using hcounted
    · rw [hrelease]

/-- On a semaphore with a handler every call but a construction is possible. -/
theorem Sound.call_handler {S : LeaveSemaphore} (hS : S.Sound) {h : AttractionHandler}
    (hh : S.handler = some h) {c : HandlerCall} (hc : c.constructs = false) :
    ∃ T, S.call c = some T ∧ T.Sound ∧ T.handler = c.effect h := by
  cases c with
  | construct data => cases hc
  | addClient pid hasChild fromPark =>
    exact ⟨_, by rw [call, hh]; rfl,
      hS.replace hh (h.addClient_released pid hasChild fromPark) _ (.inl rfl), rfl⟩
  | removeClient pid =>
    exact ⟨_, by rw [call, hh]; rfl,
      hS.replace (k := (h.removeClient pid).2) hh rfl S.value (.inl rfl), rfl⟩
  | startAttraction now =>
    refine ⟨_, by rw [call, hh]; rfl, hS.replace hh (h.startAttraction_released now) _ ?_, rfl⟩
    split
    · exact .inl rfl
    · exact .inr rfl
  | releaseClients =>
    obtain ⟨T, hT, hsound, hhandler⟩ := hS.release hh
    exact ⟨T, by rw [call, hh]; exact hT, hsound, hhandler⟩
  | destruct =>
    obtain ⟨T, hT, hsound, hhandler⟩ := hS.release hh
    refine ⟨{ T with handler := none }, ?_, ⟨?_, ?_⟩, rfl⟩
    · simp [call, hh, hT]
    · intro k hk
      cases hk
    · have hcounted := hsound.counted
      have hnone : T.unreleased = 0 := by simp [unreleased, hhandler]
      rw [hnone] at hcounted
      exact hcounted

/-- A handler can be constructed on a semaphore without one. -/
theorem Sound.call_construct {S : LeaveSemaphore} (hS : S.Sound) (hh : S.handler = none)
    (data : AttractionHandlerData) :
    ∃ T, S.call (.construct data) = some T ∧ T.Sound ∧
      T.handler = some (.construct data) := by
  have hcounted := hS.counted
  refine ⟨⟨0, some (.construct data), S.constructed + 1, S.released⟩, ?_, ⟨fun _ _ _ => rfl, ?_⟩,
    rfl⟩
  · simp [call, hh]
  · simpa [unreleased, hh, AttractionHandler.construct] using hcounted

end LeaveSemaphore

/-! ## Several calls in a row -/

/-- The calls of one step of a worker, each on the handler of a leave semaphore. -/
def callAll (objects : ℕ → LeaveSemaphore) : List (ℕ × HandlerCall) → Option (ℕ → LeaveSemaphore)
  | [] => some objects
  | (id, c) :: calls =>
    ((objects id).call c).bind fun S => callAll (Function.update objects id S) calls

/-- Calls on the handlers of different semaphores never block and do not disturb each other. -/
theorem callAll_sound {objects : ℕ → LeaveSemaphore} (hobjects : ∀ id, (objects id).Sound)
    {calls : List (ℕ × HandlerCall)} (hnodup : (calls.map Prod.fst).Nodup)
    (hcalls : ∀ e ∈ calls, (objects e.1).handler.isSome ∧ e.2.constructs = false) :
    ∃ result, callAll objects calls = some result ∧ (∀ id, (result id).Sound) ∧
      (∀ e ∈ calls, (result e.1).handler = (objects e.1).handler.bind e.2.effect) ∧
      ∀ id, id ∉ calls.map Prod.fst → result id = objects id := by
  induction calls generalizing objects with
  | nil => exact ⟨objects, rfl, hobjects, by simp, fun id _ => rfl⟩
  | cons e calls ih =>
    obtain ⟨id, c⟩ := e
    simp only [List.map_cons, List.nodup_cons] at hnodup
    obtain ⟨hsome, hc⟩ := hcalls (id, c) (by simp)
    obtain ⟨h, hh⟩ := Option.isSome_iff_exists.mp hsome
    obtain ⟨S, hS, hsound, hhandler⟩ := (hobjects id).call_handler hh hc
    have hne : ∀ e ∈ calls, e.1 ≠ id := fun e he hid =>
      hnodup.1 (hid ▸ List.mem_map_of_mem he)
    have hupdate (j : ℕ) : (Function.update objects id S j).Sound := by
      by_cases hj : j = id
      · rw [hj, Function.update_self]
        exact hsound
      · rw [Function.update_of_ne hj]
        exact hobjects j
    obtain ⟨result, hresult, hsounds, hcalled, hrest⟩ := ih hupdate hnodup.2 fun e he => by
      rw [Function.update_of_ne (hne e he)]
      exact hcalls e (List.mem_cons_of_mem _ he)
    refine ⟨result, ?_, hsounds, fun e he => ?_, fun j hj => ?_⟩
    · rw [callAll, hS]
      exact hresult
    · obtain rfl | he := List.mem_cons.mp he
      · rw [hrest id hnodup.1, Function.update_self, hhandler, hh, Option.bind_some]
      · rw [hcalled e he, Function.update_of_ne (hne e he)]
    · simp only [List.map_cons, List.mem_cons, not_or] at hj
      rw [hrest j hj.2, Function.update_of_ne hj.1]

end AmusementPark.Worker
