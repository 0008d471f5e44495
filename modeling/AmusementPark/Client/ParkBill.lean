import AmusementPark.Client.ClientProc
import AmusementPark.Cashier.CashierProc

/-! # The park bill

Client and cashier decide separately about the bill at the exit: the client by
its own flags, the cashier by its record and by the flag in the exit message.
That flag never says that the client has visited the restaurant, so the two
decisions agree exactly for the clients that have not.
-/
namespace AmusementPark.Client
open Cashier

/-- What the cashier does for somebody else between the entry and the exit of the client. -/
inductive OtherWork (pid : Pid) where
  | handle (msg : RegisterMQMessage) (other : msg.senderPID ≠ pid) (x : ReplyOutcome)
  | serve (isOpen : Bool) (parkSize : ℕ) (message : RegisterMQMessage)
      (other : message.senderPID ≠ pid) (x : ReplyOutcome)

def OtherWork.apply {pid : Pid} (k : CashierProc) : OtherWork pid → CashierProc
  | .handle msg _ x => CashierProc.pHandleRegisterMQ msg x k
  | .serve isOpen parkSize message _ x =>
    (CashierProc.pRegisterClient isOpen parkSize message x k).2

/-- A client that the cashier has registered at `entryTime` and that leaves at `now` after its
visits, with everything the cashier has done for others in between. -/
structure ParkStay where
  pid : Pid
  data : ClientData
  visits : List Visit
  before : CashierProc
  entryTime : ℤ
  others : List (OtherWork pid)
  now : ℤ

namespace ParkStay

def client (s : ParkStay) : ClientProc := (ClientProc.init s.data).stay s.visits

def cashier (s : ParkStay) : CashierProc :=
  s.others.foldl OtherWork.apply
    (s.before.register s.pid (ClientProc.enterPark s.data) s.entryTime)

/-- The bill of an exit in which no call fails. -/
def bill (s : ParkStay) : Option ℚ :=
  (CashierProc.pHandleExitPark (ClientProc.exitParkMessage s.pid s.client.visitedRestaurant)
    (.faultless s.pid s.now) s.cashier).2

/-- The record that the registration has made of the client. -/
def entry (s : ParkStay) : Cashier.ClientData :=
  ⟨s.data.hasChild, s.data.isVip, s.entryTime, s.data.ticketType⟩

/-- The bill is the ticket's price with the price of the meal. -/
def ChargesRestaurant (s : ParkStay) : Prop :=
  s.bill = some (CashierProc.pCalculatePrice s.entry s.now false +
    (40 + 20 * s.data.hasChild.toNat))

/-- Both sides decide alike: about the meal, and about there being a bill at all. -/
def Agreement (s : ParkStay) : Prop :=
  (s.ChargesRestaurant ↔ s.client.visitedRestaurant = true) ∧
    (s.bill.isSome = true ↔ s.client.waitsForParkBill true = true)

theorem lookup_apply {pid : Pid} (k : CashierProc) (w : OtherWork pid) :
    (w.apply k).clients.lookup pid = k.clients.lookup pid := by
  cases w with
  | handle msg other x => exact (CashierProc.pHandleRegisterMQ_frame msg x k pid other).1
  | serve isOpen parkSize message other x =>
    exact CashierProc.pRegisterClient_lookup_of_ne isOpen parkSize message x k pid other

theorem lookup_foldl_apply {pid : Pid} (k : CashierProc) (others : List (OtherWork pid)) :
    (others.foldl OtherWork.apply k).clients.lookup pid = k.clients.lookup pid := by
  induction others generalizing k with
  | nil => rfl
  | cons w others ih => rw [List.foldl_cons, ih, lookup_apply]

/-- The record of the client outlives whatever the cashier does for others. -/
theorem cashier_lookup (s : ParkStay) : s.cashier.clients.lookup s.pid = some s.entry := by
  rw [cashier, lookup_foldl_apply]
  exact AList.lookup_insert _

/-- A VIP gets no bill, everybody else one without the meal. -/
theorem bill_eq (s : ParkStay) : s.bill =
    if s.data.isVip then none else some (CashierProc.pCalculatePrice s.entry s.now false) := by
  unfold bill CashierProc.pHandleExitPark
  simp only [ClientProc.exitParkMessage, s.cashier_lookup]
  cases hvip : s.data.isVip <;>
    simp [entry, hvip, ReplyOutcome.faultless, ReplyOutcome.delivered,
      ReplyOutcome.billHandshake, ackMsg]

theorem not_chargesRestaurant (s : ParkStay) : ¬ s.ChargesRestaurant := by
  intro hcharge
  rw [ChargesRestaurant, bill_eq] at hcharge
  cases hvip : s.data.isVip with
  | true => simp [hvip] at hcharge
  | false =>
    simp only [hvip, Bool.false_eq_true, if_false, Option.some.injEq, left_eq_add] at hcharge
    have hmeal : (0 : ℚ) < 40 + 20 * s.data.hasChild.toNat := by positivity
    exact hmeal.ne' hcharge

/-- Client and cashier agree on the bill exactly when no visit to the restaurant from inside
the park has succeeded. -/
theorem agreement_iff_no_meal (s : ParkStay) :
    s.Agreement ↔ .restaurant (.ok true) ∉ s.visits := by
  have hvisited := ClientProc.stay_visitedRestaurant s.data s.visits
  have hdata : s.client.data = s.data := ClientProc.stay_data _ _
  constructor
  · rintro ⟨hcharge, -⟩ hmeal
    exact s.not_chargesRestaurant (hcharge.mpr (hvisited.mpr hmeal))
  · intro hnone
    have hflag : s.client.visitedRestaurant = false := by
      rw [← Bool.not_eq_true]
      exact mt hvisited.mp hnone
    refine ⟨iff_of_false s.not_chargesRestaurant (by simp [hflag]), ?_⟩
    rw [bill_eq, ClientProc.waitsForParkBill, hflag, hdata]
    cases s.data.isVip <;> simp

end ParkStay

/-- A VIP and an ordinary client that have both had a meal in the park. -/
def mealStay (isVip : Bool) : ParkStay where
  pid := 7
  data := ⟨isVip, false, if isVip then .vip else .h2, ⟨30, 180⟩, ⟨0, 0⟩⟩
  visits := [.attraction 0 (.ok ()), .restaurant (.ok true)]
  before := .init
  entryTime := 0
  others := []
  now := 60

/-- The ordinary client is not charged for its meal; the VIP waits for a bill that is never
sent. -/
theorem mealStay_disagrees :
    (mealStay false).client.visitedRestaurant = true ∧ ¬ (mealStay false).ChargesRestaurant ∧
      (mealStay true).client.waitsForParkBill true = true ∧ (mealStay true).bill = none ∧
      ¬ (mealStay false).Agreement ∧ ¬ (mealStay true).Agreement := by
  have hmeal (isVip : Bool) : ¬ (mealStay isVip).Agreement := by
    rintro ⟨hcharge, -⟩
    exact (mealStay isVip).not_chargesRestaurant (hcharge.mpr rfl)
  exact ⟨rfl, (mealStay false).not_chargesRestaurant, rfl, rfl, hmeal false, hmeal true⟩

end AmusementPark.Client
