import AmusementPark.Cashier.Run

/-! # The counter of people in the park

`m_clientCounter` should be the number of people of the registered clients.
Registration adds the new people without taking off those of an entry it
overwrites, so the two agree exactly as long as nobody is registered under a
PID that is registered already. The counter is never below the number of
registered people and never above the size of the park.
-/
namespace AmusementPark.Cashier
open Library

namespace CashierProc

/-- The counter is the sum over `m_clients`; in particular it is 0 when nobody is registered. -/
def CounterExact (c : CashierProc) : Prop :=
  c.clientCounter = c.registeredPeople ∧ (c.clients = ∅ → c.clientCounter = 0)

/-- The counter covers the registered people and stays within the park. -/
def CounterBounded (parkSize : ℕ) (c : CashierProc) : Prop :=
  c.registeredPeople ≤ c.clientCounter ∧ c.clientCounter ≤ parkSize

theorem counterExact_iff {c : CashierProc} :
    c.CounterExact ↔ c.clientCounter = c.registeredPeople := by
  refine ⟨And.left, fun h => ⟨h, fun hempty => ?_⟩⟩
  rw [h, registeredPeople, hempty]
  rfl

theorem registeredPeople_congr {c d : CashierProc} (h : c.clients = d.clients) :
    c.registeredPeople = d.registeredPeople := by rw [registeredPeople, h, registeredPeople]

/-- Registering an unknown PID adds its people. -/
theorem register_people_of_notMem (c : CashierProc) {pid : Pid} (content : EnterPark) (now : ℤ)
    (h : pid ∉ c.clients) : (c.register pid content now).registeredPeople =
      c.registeredPeople + partySize content.hasChild :=
  assocTotal_insert_of_notMem ClientData.people _ h

/-- Registering a known PID adds fewer people than the counter does. -/
theorem register_people_lt (c : CashierProc) {pid : Pid} (content : EnterPark) (now : ℤ)
    (h : pid ∈ c.clients) : (c.register pid content now).registeredPeople <
      c.registeredPeople + partySize content.hasChild := by
  obtain ⟨data, hdata⟩ := Option.isSome_iff_exists.mp (AList.lookup_isSome.mpr h)
  have htotal := assocTotal_erase ClientData.people hdata
  have hpos : 0 < data.people := partySize_pos data.hasChild
  rw [register_people, registeredPeople]
  omega

theorem register_people_le (c : CashierProc) (pid : Pid) (content : EnterPark) (now : ℤ) :
    (c.register pid content now).registeredPeople ≤
      c.registeredPeople + partySize content.hasChild :=
  assocTotal_insert_le ClientData.people c.clients pid _

end CashierProc

namespace CashierSystem
variable {C : Type*}

/-- The step registers nobody under a PID that is registered already. -/
def RegistersNewPids (parkSize : ℕ) (s : CashierSystem C) (a : CashierAction C) : Prop :=
  ∀ message x, s.served a = some (message, x) →
    s.proc.Admits s.isOpen parkSize message x → message.senderPID ∉ s.proc.clients

theorem counterExact_step {parkSize : ℕ} {s t : CashierSystem C} {a : CashierAction C}
    (hs : s.proc.CounterExact) (ha : s.RegistersNewPids parkSize a)
    (h : RegistryStep parkSize s a t) : t.proc.CounterExact := by
  rw [CashierProc.counterExact_iff] at hs ⊢
  cases h with
  | registration message x content hserved hcontent hopen hfits hack hclients hcounter =>
    have hnew : message.senderPID ∉ s.proc.clients :=
      ha message x hserved ⟨content, hcontent, hopen, hfits, hack⟩
    have hpeople := CashierProc.register_people_of_notMem s.proc content x.now hnew
    rw [hcounter, CashierProc.registeredPeople_congr hclients, hpeople, hs]
    push_cast
    rfl
  | remove pid _ hclients hcounter =>
    have := (CashierProc.pRemoveClient_people pid s.proc).1
    rw [hcounter, CashierProc.registeredPeople_congr hclients]
    omega
  | clear _ hclients hcounter =>
    rw [hcounter, CashierProc.registeredPeople, hclients]
    rfl
  | keep _ hclients hcounter =>
    rw [hcounter, CashierProc.registeredPeople_congr hclients, hs]

/-- Registering a PID twice leaves the counter above the registered people. -/
theorem counterExact_broken {parkSize : ℕ} {s t : CashierSystem C} {a : CashierAction C}
    (hs : s.proc.CounterExact) (ha : ¬ s.RegistersNewPids parkSize a)
    (h : RegistryStep parkSize s a t) : ¬ t.proc.CounterExact := by
  simp only [RegistersNewPids, not_forall, not_not] at ha
  obtain ⟨message, x, hserved, hadmits, hmem⟩ := ha
  cases h with
  | registration message' x' content hserved' hcontent hopen hfits hack hclients hcounter =>
    rw [hserved, Option.some.injEq, Prod.mk.injEq] at hserved'
    obtain ⟨rfl, rfl⟩ := hserved'
    have hpeople := CashierProc.register_people_lt s.proc content x.now hmem
    rw [CashierProc.counterExact_iff] at hs ⊢
    rw [hcounter, CashierProc.registeredPeople_congr hclients, hs]
    omega
  | remove pid hnone => simp [hnone] at hserved
  | clear hnone => simp [hnone] at hserved
  | keep hnone => exact absurd hadmits (hnone message x hserved)

/-- In every run of the cashier the counter is the number of registered people in every state
exactly as long as no step registers a PID that is registered already. -/
theorem counterExact_iff_newPids [DecidableEq C] (parkSize tokens : ℕ)
    (as : List (CashierAction C)) :
    (machine C parkSize).Always (fun s => s.proc.CounterExact) (init tokens) as ↔
      (machine C parkSize).Meets (RegistersNewPids parkSize) (init tokens) as :=
  Machine.always_iff_meets (I := fun s : CashierSystem C => s.proc.CounterExact) (fun _ h => h)
    (fun _ _ _ hs ha ht => counterExact_step hs ha (step_registry ht))
    (fun _ _ _ hs ha ht => counterExact_broken hs ha (step_registry ht)) as ⟨rfl, fun _ => rfl⟩

theorem counterBounded_step {parkSize : ℕ} {s t : CashierSystem C} {a : CashierAction C}
    (hs : s.proc.CounterBounded parkSize) (h : RegistryStep parkSize s a t) :
    t.proc.CounterBounded parkSize := by
  obtain ⟨hlow, hhigh⟩ := hs
  cases h with
  | registration message x content _ _ _ hfits _ hclients hcounter =>
    have hpeople := CashierProc.register_people_le s.proc message.senderPID content x.now
    rw [CashierProc.CounterBounded, hcounter, CashierProc.registeredPeople_congr hclients]
    omega
  | remove pid _ hclients hcounter =>
    obtain ⟨hdiff, hle⟩ := CashierProc.pRemoveClient_people pid s.proc
    rw [CashierProc.CounterBounded, hcounter, CashierProc.registeredPeople_congr hclients]
    omega
  | clear _ hclients hcounter =>
    rw [CashierProc.CounterBounded, hcounter, CashierProc.registeredPeople, hclients]
    exact ⟨le_rfl, by omega⟩
  | keep _ hclients hcounter =>
    rw [CashierProc.CounterBounded, hcounter, CashierProc.registeredPeople_congr hclients]
    exact ⟨hlow, hhigh⟩

/-- In every run of the cashier the registered people are at most the counter and the counter
is at most the size of the park. -/
theorem counterBounded_always [DecidableEq C] (parkSize tokens : ℕ)
    (as : List (CashierAction C)) :
    (machine C parkSize).Always (fun s => s.proc.CounterBounded parkSize) (init tokens) as :=
  Machine.always_of_invariant (I := fun s : CashierSystem C => s.proc.CounterBounded parkSize)
    (fun _ h => h)
    (fun _ _ _ hs ht => counterBounded_step hs (step_registry ht)) as
    ⟨le_rfl, Int.natCast_nonneg parkSize⟩

end CashierSystem

/-- Two entry requests of PID 7, both confirmed, in a park of four places. -/
def repeatedEntryRun : List (CashierAction Unit) :=
  let request : RegisterMQMessage := ⟨7, .enterPark, .enterPark ⟨false, false, .h2⟩⟩
  let x : ReplyOutcome := .faultless 7 0
  let round : List (CashierAction Unit) :=
    [.mailbox (.send () 0 request), .mailbox (.signal ()), .check, .wake true, .handle x,
      .serveVip x, .serveOrdinary x, .serveOrdinary x, .log (.ok ())]
  round ++ round

/-- After them one person is registered and the counter is two. -/
theorem repeatedEntry_counts_twice :
    ∃ s, (CashierSystem.machine Unit 4).exec (.init 0) repeatedEntryRun = some s ∧
      s.proc.clientCounter = 2 ∧ s.proc.registeredPeople = 1 ∧ ¬ s.proc.CounterExact := by
  refine ⟨_, rfl, by decide, by decide, fun h => absurd h.1 (by decide)⟩

end AmusementPark.Cashier
