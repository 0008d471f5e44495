import AmusementPark.Library.Machine

/-! # Messages guarded by wake-up tokens

Senders queue a message and afterwards post a token; a consumer that sleeps
takes a token and then receives one message, if there is one. No message is
stranded as long as the queued messages are covered by the tokens, by the
senders that still owe theirs and by the token in the consumer's hand. Only a
token thrown away beside a queued message can break this.
-/
namespace AmusementPark.Library

/-- Queued messages, posted tokens, tokens still owed by senders, a token in hand. -/
structure WakeupCounter where
  queued : ℕ
  tokens : ℕ
  owed : ℕ
  inHand : Bool
deriving DecidableEq

namespace WakeupCounter

/-- What senders and consumer do to the counters. -/
inductive Event where
  | send
  | signal
  | post
  | take
  | receive
  | discard

def step (w : WakeupCounter) : Event → Option WakeupCounter
  | .send => some { w with queued := w.queued + 1, owed := w.owed + 1 }
  | .signal => if 0 < w.owed then some { w with owed := w.owed - 1, tokens := w.tokens + 1 }
      else none
  | .post => some { w with tokens := w.tokens + 1 }
  | .take => if 0 < w.tokens ∧ w.inHand = false then
      some { w with tokens := w.tokens - 1, inHand := true } else none
  | .receive => some { w with queued := w.queued - 1, inHand := false }
  | .discard => if w.queued = 0 ∨ w.inHand = false then some { w with inHand := false } else none

def machine : Machine WakeupCounter Event := ⟨step⟩

/-- No message is stranded. -/
def Covered (w : WakeupCounter) : Prop := w.queued ≤ w.tokens + w.owed + w.inHand.toNat

theorem Covered.step {w v : WakeupCounter} {e : Event} (hw : w.Covered)
    (h : machine.step w e = some v) : v.Covered := by
  have hhand := Bool.toNat_le w.inHand
  unfold Covered at hw ⊢
  cases e with
  | send =>
    obtain rfl := Option.some.inj h
    dsimp only
    omega
  | signal =>
    simp only [machine, WakeupCounter.step, Option.ite_none_right_eq_some,
      Option.some.injEq] at h
    obtain ⟨howed, rfl⟩ := h
    dsimp only
    omega
  | post =>
    obtain rfl := Option.some.inj h
    dsimp only
    omega
  | take =>
    simp only [machine, WakeupCounter.step, Option.ite_none_right_eq_some,
      Option.some.injEq] at h
    obtain ⟨⟨htok, hfree⟩, rfl⟩ := h
    simp only [hfree, Bool.toNat_false, Bool.toNat_true] at hw ⊢
    omega
  | receive =>
    -- the token in hand pays for the message that is taken
    obtain rfl := Option.some.inj h
    simp only [Bool.toNat_false]
    omega
  | discard =>
    simp only [machine, WakeupCounter.step, Option.ite_none_right_eq_some,
      Option.some.injEq] at h
    obtain ⟨hempty | hfree, rfl⟩ := h
    · dsimp only
      omega
    · simp only [hfree, Bool.toNat_false] at hw ⊢
      omega

end WakeupCounter
end AmusementPark.Library
