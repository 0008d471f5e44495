import AmusementPark.Attraction.Requests
import AmusementPark.Restaurant.Requests
import AmusementPark.Rounds.Closing

/-! # First come, first served

The requests of both workers of rounds, from the client's `mq_send` to the
worker's `pRegisterClient`. Closing orders, full rounds, failed exchanges and
the end of the park leave the order alone.
-/
namespace AmusementPark
open Library Worker Attraction Restaurant

variable {C : Type*} [DecidableEq C]

/-- In every run of the attraction and of the restaurant whose clients send with priority 0: the
messages received so far and the queue are the messages sent, and the entry requests handled so far
and `m_enterQueue` are the entry requests received, both in order. -/
theorem requestsInOrder_attraction_restaurant (attractionCfg restaurantCfg : AttractionConfig)
    (attractionID tokens : ℕ) (as : List (AttractionAction C)) (rs : List (RestaurantAction C))
    (has : (AttractionSystem.requestMachine C attractionCfg).Meets (fun _ a => a.SendsAtZero)
      (.init attractionID attractionCfg tokens, .empty) as)
    (hrs : (RestaurantSystem.requestMachine C restaurantCfg).Meets (fun _ a => a.SendsAtZero)
      (.init tokens, .empty) rs) :
    (AttractionSystem.requestMachine C attractionCfg).Always AttractionSystem.RequestsInOrder
        (.init attractionID attractionCfg tokens, .empty) as ∧
      (RestaurantSystem.requestMachine C restaurantCfg).Always RestaurantSystem.RequestsInOrder
        (.init tokens, .empty) rs :=
  ⟨AttractionSystem.requestFlow_always attractionID tokens attractionCfg has,
    RestaurantSystem.requestFlow_always tokens restaurantCfg hrs⟩

/-- Two visitors ask before the worker wakes up; the second one's request is received a round
later, and waits behind the pause. -/
theorem twoVisitors_requestsInOrder :
    (AttractionSystem.requestMachine Bool ⟨30, 20, 1, true, 120, -1, -1, -1⟩).Always
        AttractionSystem.RequestsInOrder (.init 0 ⟨30, 20, 1, true, 120, -1, -1, -1⟩ 0, .empty)
        [.mailbox (.send false 0 entryRequest), .mailbox (.send true 0 { entryRequest with
            senderPID := 8 }), .mailbox (.signal true), .mailbox (.signal false), .check 0,
          .wake true, .finishCheck 0, .testPaused, .handle, .decide, .check 0, .wake true,
          .finishCheck 0, .testPaused, .handle, .sigUsr1 (.ok ()), .decide, .create,
          .sigUsr2 (.ok ()), .check 1, .wake false, .finishCheck 1, .testPaused, .handle, .decide,
          .create, .register (.faultless 7 1), .register (.faultless 8 1)] ∧
      (RestaurantSystem.requestMachine Bool ⟨60, 50, 1, true, -1, -1, -1, -1⟩).Always
        RestaurantSystem.RequestsInOrder (.init 0, .empty)
        [.mailbox (.send false 0 tableRequest), .mailbox (.send true 0 { tableRequest with
            senderPID := 8 }), .mailbox (.signal false), .check 0, .wake true, .finishCheck 0,
          .handle (.faultless 7 0), .decide, .register (.faultless 7 0), .register (.faultless 7 0),
          .install, .start 0, .announce (.ok ())] :=
  requestsInOrder_attraction_restaurant _ _ 0 0 _ _ (by decide) (by decide)

end AmusementPark
