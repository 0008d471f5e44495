import AmusementPark.Restaurant.Rounds

/-! # Billing of the clients from outside the park

A client admitted from outside the park owes a bill until its exit is handled.
Its record lives in the handler of the round it was admitted to, and `Run`
drops that handler when the round is over. So the exit leads to a bill exactly
when that round is still in `m_handler`.
-/
namespace AmusementPark.Restaurant
open Library Worker

/-- What the admissions and exits of a run amount to: the rounds started, the round of the
latest unbilled admission of each client from outside, and the exits left without a bill. -/
structure BillingHistory where
  rounds : ℕ
  owed : Pid → Option ℕ
  unbilled : List Pid

namespace BillingHistory

def start : BillingHistory := ⟨0, fun _ => none, []⟩

def record (h : BillingHistory) : Option RoundEvent → BillingHistory
  | none => h
  | some .install => { h with rounds := h.rounds + 1 }
  -- the round that is being filled is the next one
  | some (.admission pid data) => if data.fromPark then h
      else { h with owed := Function.update h.owed pid (some (h.rounds + 1)) }
  | some (.exit pid billed) => { h with
      owed := Function.update h.owed pid none
      unbilled := if (h.owed pid).isSome && !billed then pid :: h.unbilled else h.unbilled }

end BillingHistory

namespace RestaurantSystem
variable {C : Type*}

/-- The restaurant with the history of its admissions and exits. -/
def billingMachine (C : Type*) [DecidableEq C] (cfg : AttractionConfig) :
    Machine (RestaurantSystem C × BillingHistory) (RestaurantAction C) :=
  (machine C cfg).observe fun h s a _ => h.record (s.event cfg a)

/-- Every first exit after an admission from outside has led to a bill. -/
def BilledOnExit (x : RestaurantSystem C × BillingHistory) : Prop := x.2.unbilled = []

/-- The round a client from outside was admitted to is still in `m_handler` when its exit is
handled. -/
def ExitsInRound (cfg : AttractionConfig) (x : RestaurantSystem C × BillingHistory)
    (a : RestaurantAction C) : Prop :=
  ∀ pid billed, x.1.event cfg a = some (.exit pid billed) →
    ∀ round ∈ x.2.owed pid, x.1.proc.handler.isSome = true ∧ round = x.2.rounds

/-- The client lists hold exactly the clients that owe a bill in their round. -/
structure Accounts (x : RestaurantSystem C × BillingHistory) : Prop where
  current : x.1.current.isSome = true →
    ∀ pid, Billable x.1.current pid ↔ x.2.owed pid = some x.2.rounds
  next : x.1.next.isSome = true →
    ∀ pid, Billable x.1.next pid ↔ x.2.owed pid = some (x.2.rounds + 1)
  alone : x.1.next.isSome = true → x.1.current = none
  past : x.1.point ≠ .stopped → ∀ pid, ∀ round ∈ x.2.owed pid,
    round ≤ x.2.rounds + x.1.next.isSome.toNat

theorem billable_empty (pid : Pid) : ¬ Billable (some ∅) pid := by simp [Billable]

theorem billable_erase (clients : Option ClientList) (gone pid : Pid) :
    Billable (clients.map (·.erase gone)) pid ↔ Billable clients pid ∧ pid ≠ gone := by
  cases clients with
  | none => simp [Billable]
  | some list =>
    by_cases hpid : pid = gone
    · subst hpid
      simp [Billable]
    · simp [Billable, hpid, AList.lookup_erase_ne]

theorem billable_insert (clients : ClientList) (new : Pid)
    (data : HandlerClientData) (pid : Pid) : Billable (some (clients.insert new data)) pid ↔
      if pid = new then data.fromPark = false else Billable (some clients) pid := by
  by_cases hpid : pid = new
  · subst hpid
    simp [Billable]
  · simp [Billable, hpid, AList.lookup_insert_ne]

theorem not_billable_of_notMem {clients : ClientList} {pid : Pid} (h : pid ∉ clients) :
    ¬ Billable (some clients) pid := by
  simp [Billable, AList.lookup_eq_none.mpr h]

theorem accounts_init (tokens : ℕ) :
    Accounts ((init tokens : RestaurantSystem C), BillingHistory.start) where
  current h := by cases h
  next h := by cases h
  alone _ := rfl
  past _ pid round h := by cases h

/-- The past rounds of an admission go on being past ones when no round starts. -/
theorem past_record_admission (h : BillingHistory) (pid : Pid) (data : HandlerClientData)
    (hpast : ∀ q, ∀ round ∈ h.owed q, round ≤ h.rounds + 1) :
    ∀ q, ∀ round ∈ (h.record (some (.admission pid data))).owed q, round ≤ h.rounds + 1 := by
  intro q round hround
  cases hpark : data.fromPark with
  | true =>
    simp only [BillingHistory.record, hpark, if_true] at hround
    exact hpast q round hround
  | false =>
    simp only [BillingHistory.record, hpark, Bool.false_eq_true, if_false,
      Function.update_apply, Option.mem_def] at hround
    split_ifs at hround with hq
    · simp only [Option.some.injEq] at hround
      omega
    · exact hpast q round hround

/-- An admission enters the client in the list and in the debts of the round being filled. -/
theorem next_record_admission (h : BillingHistory) {clients : ClientList} {pid : Pid}
    (hnew : pid ∉ clients) (data : HandlerClientData)
    (hnext : ∀ q, Billable (some clients) q ↔ h.owed q = some (h.rounds + 1)) (q : Pid) :
    Billable (some (clients.insert pid data)) q ↔
      (h.record (some (.admission pid data))).owed q = some (h.rounds + 1) := by
  have hout : h.owed pid ≠ some (h.rounds + 1) :=
    fun ho => not_billable_of_notMem hnew ((hnext pid).mpr ho)
  rw [billable_insert]
  by_cases hq : q = pid
  · subst hq
    cases hpark : data.fromPark <;> simp [BillingHistory.record, hpark, hout]
  · rw [if_neg hq, hnext q]
    cases hpark : data.fromPark <;> simp [BillingHistory.record, hpark, hq]

theorem Accounts.step {s t : RestaurantSystem C} {h : BillingHistory} {e : Option RoundEvent}
    (hs : Accounts (s, h)) (hstep : RoundStep s t e)
    (hstopped : s.point = .stopped → t.point = .stopped) : Accounts (t, h.record e) := by
  have hlive : t.point ≠ .stopped → s.point ≠ .stopped := fun ht hsp => ht (hstopped hsp)
  obtain ⟨hcur, hnxt, halone, hpast⟩ := hs
  dsimp only at hcur hnxt halone hpast
  cases hstep with
  | exit pid billed hbilled hcurrent hsn hnext =>
    refine ⟨fun hsome q => ?_, ?_, ?_, fun ht q round hround => ?_⟩
    · have hsome' : s.current.isSome = true := by simpa [hcurrent] using hsome
      dsimp only [BillingHistory.record]
      rw [hcurrent, billable_erase, hcur hsome' q, Function.update_apply]
      by_cases hq : q = pid <;> simp [hq]
    · simp [hnext]
    · simp [hnext]
    · simp only [BillingHistory.record, Function.update_apply, Option.mem_def] at hround
      split_ifs at hround
      simpa [BillingHistory.record, hnext, hsn] using hpast (hlive ht) q round hround
  | admission pid data clients hsn hnew hcurrent hnext =>
    rw [hsn] at hnxt halone hpast
    have hnone : s.current = none := halone rfl
    have hrounds : (h.record (some (.admission pid data))).rounds = h.rounds := by
      cases hpark : data.fromPark <;> simp [BillingHistory.record, hpark]
    refine ⟨?_, fun _ q => ?_, fun _ => hcurrent.trans hnone, fun ht => ?_⟩
    · simp [hcurrent, hnone]
    · dsimp only
      rw [hnext, hrounds]
      exact next_record_admission h hnew data (hnxt rfl) q
    · dsimp only
      rw [hnext, hrounds]
      exact past_record_admission h pid data (hpast (hlive ht))
  | install clients hsn hcurrent hnext =>
    rw [hsn] at hnxt hpast
    refine ⟨fun _ q => ?_, ?_, ?_, fun ht q round hround => ?_⟩
    · rw [hcurrent]
      exact hnxt rfl q
    · simp [hnext]
    · simp [hnext]
    · rw [hnext]
      exact hpast (hlive ht) q round hround
  | finish hsn hcurrent hnext =>
    rw [hsn] at hpast
    refine ⟨?_, ?_, ?_, ?_⟩
    · simp [hcurrent]
    · simp [hnext]
    · simp [hnext]
    · rw [hnext]
      exact fun ht => hpast (hlive ht)
  | begin hsn hsc hcurrent hnext =>
    rw [hsn] at hpast
    have ht : t.point ≠ .stopped := fun hstop => by simp [next_of_stopped hstop] at hnext
    refine ⟨?_, fun _ q => ?_, fun _ => hcurrent, fun _ q round hround => ?_⟩
    · simp [hcurrent]
    · rw [hnext]
      refine iff_of_false (billable_empty q) fun ho => ?_
      have hle : h.rounds + 1 ≤ h.rounds + 0 := hpast (hlive ht) q _ ho
      omega
    · have := hpast (hlive ht) q round hround
      exact this.trans (Nat.add_le_add_left (Nat.zero_le _) _)
  | abandon hsn hcurrent hnext =>
    rw [hsn] at hnxt halone hpast
    refine ⟨?_, ?_, ?_, fun ht q round hround => ?_⟩
    · simp [hcurrent, halone rfl]
    · simp [hnext]
    · simp [hnext]
    · have hle := hpast (hlive ht) q round hround
      have hne : round ≠ h.rounds + 1 := fun heq =>
        billable_empty q ((hnxt rfl q).mpr (heq ▸ hround))
      rw [hnext]
      simp only [Option.isSome_some, Option.isSome_none, Bool.toNat_true, Bool.toNat_false] at hle ⊢
      change round ≤ h.rounds + 0
      omega
  | stop hstop hcurrent =>
    have hnext : t.next = none := next_of_stopped hstop
    refine ⟨?_, ?_, ?_, fun ht => absurd hstop ht⟩
    · rw [hcurrent]
      exact hcur
    · simp [hnext]
    · simp [hnext]
  | keep hcurrent hnext =>
    refine ⟨?_, ?_, ?_, fun ht => ?_⟩
    · rw [hcurrent]
      exact hcur
    · rw [hnext]
      exact hnxt
    · rw [hcurrent, hnext]
      exact halone
    · rw [hnext]
      exact hpast (hlive ht)

/-- In an account that is right, an exit in the round of the admission is billed. -/
theorem Accounts.billed {s t : RestaurantSystem C} {h : BillingHistory} {pid : Pid}
    {billed : Bool} (hs : Accounts (s, h)) (hstep : RoundStep s t (some (.exit pid billed)))
    {round : ℕ} (howed : round ∈ h.owed pid) :
    billed = true ↔ s.proc.handler.isSome = true ∧ round = h.rounds := by
  cases hstep with
  | exit _ _ hbilled =>
    rw [hbilled]
    cases hc : s.proc.handler with
    | none => simp [Billable, RestaurantSystem.current, hc]
    | some handler =>
      have hsome : s.current.isSome = true := by simp [RestaurantSystem.current, hc]
      rw [hs.current hsome pid]
      simp [Option.mem_def.mp howed]

theorem billedOnExit_step [DecidableEq C] {cfg : AttractionConfig}
    {x y : RestaurantSystem C × BillingHistory} {a : RestaurantAction C}
    (hx : Accounts x ∧ BilledOnExit x) (ha : ExitsInRound cfg x a)
    (h : (billingMachine C cfg).step x a = some y) : Accounts y ∧ BilledOnExit y := by
  obtain ⟨hacc, hbilled⟩ := hx
  obtain ⟨hstep, hrec⟩ := Machine.observe_step.mp h
  rcases x with ⟨s, n⟩
  rcases y with ⟨t, m⟩
  dsimp only at hstep hrec
  subst hrec
  have hround := step_round hstep
  refine ⟨hacc.step hround (step_of_stopped hstep), ?_⟩
  cases he : s.event cfg a with
  | none => exact hbilled
  | some e => cases e with
    | install => exact hbilled
    | admission pid data => by_cases hp : data.fromPark = true <;>
        simpa [BilledOnExit, BillingHistory.record, hp] using hbilled
    | exit pid billed =>
      rw [he] at hround
      cases ho : n.owed pid with
      | none => simpa [BilledOnExit, BillingHistory.record, ho] using hbilled
      | some round =>
        have hattempt := (hacc.billed hround ho).mpr (ha pid billed he round ho)
        simpa [BilledOnExit, BillingHistory.record, hattempt] using hbilled

/-- An exit after the round of the admission leaves the client without a bill. -/
theorem billedOnExit_broken [DecidableEq C] {cfg : AttractionConfig}
    {x y : RestaurantSystem C × BillingHistory} {a : RestaurantAction C}
    (hacc : Accounts x) (ha : ¬ ExitsInRound cfg x a)
    (h : (billingMachine C cfg).step x a = some y) : ¬ BilledOnExit y := by
  obtain ⟨hstep, hrec⟩ := Machine.observe_step.mp h
  rcases x with ⟨s, n⟩
  rcases y with ⟨t, m⟩
  dsimp only at hstep hrec
  subst hrec
  simp only [ExitsInRound, not_forall] at ha
  obtain ⟨pid, billed, he, round, ho, hout⟩ := ha
  have hround := step_round hstep
  rw [he] at hround
  have hattempt : billed = false := by
    rw [← Bool.not_eq_true, hacc.billed hround ho]
    exact hout
  simp [BilledOnExit, BillingHistory.record, he, hattempt, Option.mem_def.mp ho]

/-- In every run of the restaurant each first exit after an admission from outside leads to a
bill exactly as long as the round of the admission is still in `m_handler` at every such exit. -/
theorem billedOnExit_iff_inRound [DecidableEq C] (cfg : AttractionConfig) (tokens : ℕ)
    (as : List (RestaurantAction C)) :
    (billingMachine C cfg).Always BilledOnExit (init tokens, .start) as ↔
      (billingMachine C cfg).Meets (ExitsInRound cfg) (init tokens, .start) as :=
  Machine.always_iff_meets (I := fun x => Accounts x ∧ BilledOnExit x) (fun _ h => h.2)
    (fun _ _ _ hx ha h => billedOnExit_step hx ha h)
    (fun _ _ _ hx ha h => billedOnExit_broken hx.1 ha h) as ⟨accounts_init tokens, rfl⟩

end RestaurantSystem

/-- PID 7 is admitted from outside at time 0 and leaves when the round ends at time 60. -/
def roundEndRun : List (RestaurantAction Unit) :=
  let x : ReplyOutcome := .faultless 7 0
  [.mailbox (.send () 0 ⟨7, .enterRestaurant, .enterRestaurant ⟨false, false⟩⟩),
    .mailbox (.signal ()), .check 0, .wake true, .finishCheck 0, .handle x, .decide, .register x,
    .register x, .install, .start 0, .announce (.ok ()), .check 0, .wake false, .finishCheck 60,
    .handle x, .decide, .register x, .install,
    .mailbox (.send () 0 ⟨7, .exitRestaurant, .emptyMessage⟩), .mailbox (.signal ()), .check 60,
    .wake true, .finishCheck 60, .handle x]

/-- Its exit is handled and no bill is tried. -/
theorem roundEnd_leaves_unbilled :
    ∃ x, (RestaurantSystem.billingMachine Unit ⟨60, 50, 1, true, -1, -1, -1, -1⟩).exec
        (.init 0, .start) roundEndRun = some x ∧
      x.2.unbilled = [7] ∧ ¬ RestaurantSystem.BilledOnExit x := by
  refine ⟨_, rfl, by decide, fun h => List.cons_ne_nil _ _ h⟩

end AmusementPark.Restaurant
