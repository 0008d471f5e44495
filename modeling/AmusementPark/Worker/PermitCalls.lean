import AmusementPark.Worker.ReplyExchange
import AmusementPark.Library.Procedure

/-! # The permit handshake cut at its calls

A signal may arrive between any two calls of a registration. The handshake opens
the reply queue, sends the permit, receives the answer and logs it.
-/
namespace AmusementPark
open Library Library.Outcome

/-- An `ACK` is received. -/
def ReplyOutcome.acknowledged (x : ReplyOutcome) : Except Exn Bool :=
  x.received.map fun msg => msg.any fun m => m.mType = .ack

/-- The permit handshake is its four calls. -/
theorem ReplyOutcome.permitHandshake_eq (x : ReplyOutcome) (allowed : Bool) :
    x.permitHandshake allowed = x.opened.bind fun opened =>
      if opened then x.sent.bind fun sent =>
        if sent && allowed then x.acknowledged.bind fun acked =>
          if acked then x.logged.map fun _ => true else .ok false
        else .ok false
      else .ok false := by
  simp only [permitHandshake, acknowledged]
  cases x.opened with
  | error e => rfl
  | ok opened => cases opened with
    | false => rfl
    | true => cases x.sent with
      | error e => rfl
      | ok sent => cases sent with
        | false => rfl
        | true => cases allowed with
          | false => rfl
          | true => cases x.received with
            | error e => rfl
            | ok msg => cases msg with
              | none => rfl
              | some msg =>
                by_cases hack : msg.mType = .ack <;> cases x.logged <;>
                  simp [Except.bind, Except.map, hack]

section Ends
variable {σ π : Type*} {x : ReplyOutcome} {step : σ → π → Outcome σ π Bool Exn}
  {handler : π → Option π} {s t : σ}

/-- The `catch` block of a registration: two log messages. -/
theorem ReplyOutcome.ends_catching {catching : π}
    (hcatching : step s catching = call s x.caught fun _ => (s, .returns true))
    (hcatch : handler catching = none) :
    Ends step handler s catching (x.caught.map fun _ => true, s) := by
  cases h : x.caught with
  | error e => exact .throws (hcatching.trans (by rw [h, call])) hcatch
  | ok u => exact .returns (hcatching.trans (by rw [h, call]))

/-- A procedure that makes the calls of the handshake one after the other, and then `admitting`,
ends as the handshake does. -/
theorem ReplyOutcome.ends_permitHandshake {allowed : Bool}
    (opening sending receiving acked admitting catching : π)
    (hopening : step s opening = call s x.opened fun opened =>
      (s, if opened then .next sending else .returns true))
    (hsending : step s sending = call s x.sent fun sent =>
      (s, if sent && allowed then .next receiving else .returns true))
    (hreceiving : step s receiving = call s x.acknowledged fun ack =>
      (s, if ack then .next acked else .returns true))
    (hacked : step s acked = call s x.logged fun _ => (s, .next admitting))
    (hadmitting : Ends step handler s admitting (.ok true, t))
    (htry : ∀ p ∈ [opening, sending, receiving, acked], handler p = some catching)
    (hcaught : Ends step handler s catching (x.caught.map fun _ => true, s)) :
    Ends step handler s opening (match x.permitHandshake allowed with
      | .error _ => (x.caught.map fun _ => true, s)
      | .ok false => (.ok true, s)
      | .ok true => (.ok true, t)) := by
  rw [permitHandshake_eq]
  cases hopened : x.opened with
  | error e =>
    exact .caught (hopening.trans (by rw [hopened, call])) (htry opening (by simp)) hcaught
  | ok opened => cases opened with
    | false => exact .returns (hopening.trans (by rw [hopened]; rfl))
    | true =>
      apply Ends.next (hopening.trans (by rw [hopened]; rfl))
      cases hsent : x.sent with
      | error e =>
        exact .caught (hsending.trans (by rw [hsent, call])) (htry sending (by simp)) hcaught
      | ok sent => cases hgoes : sent && allowed with
        | false => simpa [Except.bind, hgoes] using Ends.returns (hsending.trans (by
            rw [hsent, call, hgoes]; rfl))
        | true =>
          simp only [Except.bind, hgoes, if_true]
          apply Ends.next (hsending.trans (by rw [hsent, call, hgoes]; rfl))
          cases hack : x.acknowledged with
          | error e =>
            exact .caught (hreceiving.trans (by rw [hack, call])) (htry receiving (by simp))
              hcaught
          | ok ack => cases ack with
            | false => exact .returns (hreceiving.trans (by rw [hack]; rfl))
            | true =>
              apply Ends.next (hreceiving.trans (by rw [hack]; rfl))
              cases hlogged : x.logged with
              | error e =>
                exact .caught (hacked.trans (by rw [hlogged, call])) (htry acked (by simp))
                  hcaught
              | ok u => exact .next (hacked.trans (by rw [hlogged, call])) hadmitting

end Ends
end AmusementPark
