import AmusementPark.Cashier.CashierProc
import AmusementPark.Library.Exceptions

/-! # One message of the cashier, call by call

`pHandleRegisterMQ` with its nested `try` blocks as they stand: every call out
of the process may throw, and what is thrown goes through the same handlers as
in the code. Whatever happens, nothing leaves the function, an exit deregisters
its sender and nothing else changes.
-/
namespace AmusementPark.Cashier
open Library

/-- What `std::get` throws. -/
def badVariantAccess : StdException := ⟨"std::get: wrong index for variant"⟩

/-- How `mq_open` on the reply queue ends: `other` is any error but `ENOENT`. -/
inductive ReplyOpened where
  | opened
  | enoent
  | other

/-- How `SendMessage` on the reply queue ends before its error handler is asked. -/
inductive ReplySent where
  | sent
  | gaveUp
  | ebadf
  | other

/-- What the calls out of the cashier do while one message is handled. A log message may fail by
its text, the reply may fail by its content. -/
structure HandlingOutcome where
  self : Pid
  now : ℤ
  logMessage : String → Except StdException Unit
  price : Except StdException Unit
  openReplyMQ : ReplyOpened
  sendReply : ClientMQMessage → ReplySent
  receiveMessage : Except StdException (Option ClientMQMessage)

/-- A member function of `CashierProc`. -/
abbrev Handler := EStateM StdException CashierProc

namespace HandlingOutcome
variable (x : HandlingOutcome)

def pLogMessage (message : String) : Handler Unit := ofExcept (x.logMessage message)

def pCreateReplyMQ (pid : Pid) : Handler Bool :=
  match x.openReplyMQ with
  | .opened => pure true
  | .enoent => do
    x.pLogMessage
      ("Klient " ++ toString pid ++ " przestal dzialac przed odebraniem wiadomosci z kasy!")
    pure false
  | .other => throw ⟨"Couldn't open message queue /park-" ++ toString pid ++ "-client-park!"⟩

def pSendReply (pid : Pid) (msg : ClientMQMessage) : Handler Bool :=
  match x.sendReply msg with
  | .sent => pure true
  | .gaveUp => pure false
  | .ebadf => do
    x.pLogMessage
      ("Klient " ++ toString pid ++ " opuscil kolejke przed odebraniem wiadomosci!")
    pure false
  | .other => throw ⟨"Couldn't send message!"⟩

/-- `pCalculatePrice`, past the look-ups that may throw. -/
def pCalculatePrice (data : ClientData) (usedRestaurant : Bool) : Handler ℚ := do
  ofExcept x.price
  pure (CashierProc.pCalculatePrice data x.now usedRestaurant)

/-- `std::get<ExitPark>`. -/
def getExitPark : RegisterMessageContent → Handler ExitPark
  | .exitPark content => pure content
  | .enterPark _ => throw badVariantAccess

/-- `std::get<EnterPark>`. -/
def getEnterPark : RegisterMessageContent → Handler EnterPark
  | .enterPark content => pure content
  | .exitPark _ => throw badVariantAccess

/-- The exchange of the bill on the reply queue. -/
def exchangeBill (pid : Pid) (price : ℚ) : Handler Unit := do
  let opened ← x.pCreateReplyMQ pid
  if !opened then pure ()
  else do
    let sent ← x.pSendReply pid ⟨x.self, .bill, .bill price⟩
    if !sent then throw ⟨"Nie mozna bylo wyslac odpowiedzi do klienta!"⟩
    else do
      let msg ← ofExcept x.receiveMessage
      match msg with
      | none => throw ⟨"Klient nie wyslal potwierdzenia rachunku (kasa)!"⟩
      | some msg =>
        if msg.mType = .ack then
          x.pLogMessage ("Klient " ++ toString pid ++ " wychodzi z parku!")
        else pure ()

/-- The `try` block of `pHandleExitPark` for a registered client. -/
def leavePark (message : RegisterMQMessage) (data : ClientData) : Handler Unit := do
  let msgContent ← getExitPark message.content
  if data.vip && !msgContent.visitedRestaurant then
    x.pLogMessage ("Vip o pid " ++ toString message.senderPID ++
      " opuszcza park (nie korzystal z restauracji)!")
  else do
    let price ← x.pCalculatePrice data msgContent.visitedRestaurant
    x.exchangeBill message.senderPID price

def pHandleExitPark (message : RegisterMQMessage) : Handler Unit := do
  let c ← get
  match c.clients.lookup message.senderPID with
  | none => x.pLogMessage ("Blad: klient (" ++ toString message.senderPID ++
      ") spoza parku wyslal wiadomosc o wyjsciu z parku!")
  | some data =>
    try x.leavePark message data
    catch e => do
      x.pLogMessage ("Przy obsludze klienta " ++ toString message.senderPID ++
        " nastapil blad w komunikacji!")
      x.pLogMessage ("BLAD: " ++ e.what)

def pHandleEnterPark (message : RegisterMQMessage) : Handler Unit := do
  let msg ← getEnterPark message.content
  if msg.isVip then modify fun c => { c with enterVipQueue := c.enterVipQueue ++ [message] }
  else modify fun c => { c with enterQueue := c.enterQueue ++ [message] }

def pRemoveClient (pid : Pid) : Handler Unit := modify (CashierProc.pRemoveClient pid)

/-- `pHandleRegisterMQ` once it has taken a message. -/
def pHandleRegisterMQ (registerMsg : RegisterMQMessage) : Handler Unit := do
  try
    match registerMsg.mType with
    | .enterPark => pHandleEnterPark registerMsg
    | .exitPark => do
      try x.pHandleExitPark registerMsg
      catch e => do
        pRemoveClient registerMsg.senderPID
        throw e
      pRemoveClient registerMsg.senderPID
    | .other _ => pure ()
  catch _ => pure ()

/-! ## The calls of an exit keep the state -/

theorem keeps_pLogMessage (message : String) : Keeps (x.pLogMessage message) :=
  keeps_ofExcept _

theorem keeps_pCreateReplyMQ (pid : Pid) : Keeps (x.pCreateReplyMQ pid) := by
  unfold pCreateReplyMQ
  cases x.openReplyMQ with
  | opened => exact keeps_pure true
  | enoent => exact (x.keeps_pLogMessage _).bind fun _ => keeps_pure false
  | other => exact keeps_throw _

theorem keeps_pSendReply (pid : Pid) (msg : ClientMQMessage) : Keeps (x.pSendReply pid msg) := by
  unfold pSendReply
  cases x.sendReply msg with
  | sent => exact keeps_pure true
  | gaveUp => exact keeps_pure false
  | ebadf => exact (x.keeps_pLogMessage _).bind fun _ => keeps_pure false
  | other => exact keeps_throw _

theorem keeps_exchangeBill (pid : Pid) (price : ℚ) : Keeps (x.exchangeBill pid price) := by
  unfold exchangeBill
  apply (x.keeps_pCreateReplyMQ pid).bind
  intro opened
  apply (keeps_pure ()).ite
  apply (x.keeps_pSendReply pid _).bind
  intro sent
  apply (keeps_throw _).ite
  apply (keeps_ofExcept x.receiveMessage).bind
  intro msg
  cases msg with
  | none => exact keeps_throw _
  | some msg => exact (x.keeps_pLogMessage _).ite (keeps_pure ())

theorem keeps_leavePark (message : RegisterMQMessage) (data : ClientData) :
    Keeps (x.leavePark message data) := by
  unfold leavePark
  have hget : Keeps (getExitPark message.content) := by
    cases message.content with
    | enterPark content => exact keeps_throw _
    | exitPark content => exact keeps_pure content
  apply hget.bind
  intro msgContent
  have hprice : Keeps (x.pCalculatePrice data msgContent.visitedRestaurant) :=
    (keeps_ofExcept x.price).bind fun _ => keeps_pure _
  exact (x.keeps_pLogMessage _).ite
    (hprice.bind fun price => x.keeps_exchangeBill message.senderPID price)

theorem keeps_pHandleExitPark (message : RegisterMQMessage) :
    Keeps (x.pHandleExitPark message) := by
  unfold pHandleExitPark
  apply keeps_get.bind
  intro c
  split
  · exact x.keeps_pLogMessage _
  · apply (x.keeps_leavePark message _).handle
    intro e
    exact (x.keeps_pLogMessage _).bind fun _ => x.keeps_pLogMessage _

/-! ## The message as a whole -/

/-- No exception leaves the function, and it changes the state as the model of the cashier's main
loop does, whatever that model is told about the calls. -/
theorem pHandleRegisterMQ_refines (registerMsg : RegisterMQMessage) (y : ReplyOutcome)
    (c : CashierProc) : x.pHandleRegisterMQ registerMsg c =
      .ok () (CashierProc.pHandleRegisterMQ registerMsg y c) := by
  unfold pHandleRegisterMQ
  cases htype : registerMsg.mType with
  | other raw =>
    simp only [CashierProc.pHandleRegisterMQ, htype]
    rfl
  | enterPark =>
    simp only [CashierProc.pHandleRegisterMQ, htype, pHandleEnterPark,
      CashierProc.pHandleEnterPark]
    cases registerMsg.content with
    | exitPark content => rfl
    | enterPark content => cases hvip : content.isVip <;> simp [getEnterPark, hvip] <;> rfl
  | exitPark =>
    rw [CashierProc.pHandleRegisterMQ_exit registerMsg y c htype]
    have hremove : (pRemoveClient registerMsg.senderPID : Handler Unit) c =
        .ok () (CashierProc.pRemoveClient registerMsg.senderPID c) := rfl
    obtain ⟨r, hr⟩ := (x.keeps_pHandleExitPark registerMsg).cleanup hremove
    cases r with
    | ok u => exact tryCatch_of_ok hr
    | error e => exact tryCatch_of_error hr

/-- The sender is off the books, with the people it stood for, and the rest is as it was. -/
structure Deregistered (pid : Pid) (c d : CashierProc) : Prop where
  clients : ∀ q, d.clients.lookup q = if q = pid then none else c.clients.lookup q
  clientCounter : d.clientCounter = c.clientCounter -
    ((c.clients.lookup pid).elim 0 ClientData.people : ℕ)
  queues : d.enterVipQueue = c.enterVipQueue ∧ d.enterQueue = c.enterQueue
  terminated : d.terminated = c.terminated

theorem deregistered_pRemoveClient (pid : Pid) (c : CashierProc) :
    Deregistered pid c (CashierProc.pRemoveClient pid c) := by
  unfold CashierProc.pRemoveClient
  cases h : c.clients.lookup pid with
  | none =>
    refine ⟨fun q => ?_, by simp [h], ⟨rfl, rfl⟩, rfl⟩
    by_cases hq : q = pid
    · rw [if_pos hq, hq, h]
    · rw [if_neg hq]
  | some data =>
    refine ⟨fun q => ?_, by simp [h], ⟨rfl, rfl⟩, rfl⟩
    by_cases hq : q = pid
    · rw [if_pos hq, hq]
      exact AList.lookup_erase _ _
    · rw [if_neg hq]
      exact AList.lookup_erase_ne hq

/-- What a message makes of the cashier. -/
def Handled (registerMsg : RegisterMQMessage) (c d : CashierProc) : Prop :=
  match registerMsg.mType, registerMsg.content with
  | .exitPark, _ => Deregistered registerMsg.senderPID c d
  | .enterPark, .enterPark content =>
    d = if content.isVip then { c with enterVipQueue := c.enterVipQueue ++ [registerMsg] }
      else { c with enterQueue := c.enterQueue ++ [registerMsg] }
  | _, _ => d = c

/-- Whatever the calls of the exchange return or throw, `pHandleRegisterMQ` ends, an exit
deregisters its sender, an entry request of the right content joins the queue of its class, and
no other message changes anything. -/
theorem pHandleRegisterMQ_handled (registerMsg : RegisterMQMessage) (c : CashierProc) :
    ∃ d, x.pHandleRegisterMQ registerMsg c = .ok () d ∧ Handled registerMsg c d := by
  refine ⟨_, x.pHandleRegisterMQ_refines registerMsg (.faultless x.self x.now) c, ?_⟩
  unfold Handled
  split
  · next htype =>
    rw [CashierProc.pHandleRegisterMQ_exit registerMsg _ c htype]
    exact deregistered_pRemoveClient registerMsg.senderPID c
  · next content htype hcontent =>
    simp only [CashierProc.pHandleRegisterMQ, htype, CashierProc.pHandleEnterPark, hcontent]
    cases content.isVip <;> rfl
  · next hexit henter =>
    cases htype : registerMsg.mType with
    | exitPark => exact absurd htype hexit
    | other raw => simp only [CashierProc.pHandleRegisterMQ, htype]
    | enterPark =>
      cases hcontent : registerMsg.content with
      | enterPark content => exact absurd hcontent (henter content htype)
      | exitPark content =>
        simp only [CashierProc.pHandleRegisterMQ, htype, CashierProc.pHandleEnterPark, hcontent]

end HandlingOutcome
end AmusementPark.Cashier
