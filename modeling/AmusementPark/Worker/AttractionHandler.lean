import AmusementPark.Messages
import AmusementPark.Library.AssocTotal

/-! # One round of an attraction

`AttractionHandler` holds the clients of one wagon or one sitting, the time at
which it finishes and the leave semaphore its clients wait on.
-/
namespace AmusementPark.Worker
open Library

/-- `__AttractionHandlerClientData`. -/
structure HandlerClientData where
  hasChild : Bool
  fromPark : Bool
deriving DecidableEq

structure AttractionHandlerData where
  leaveSemaphore : ℕ
  maxClientCount : ℕ
  attractionDuration : ℕ
  isRestaurant : Bool
deriving DecidableEq

structure AttractionHandler where
  clientList : AList fun _ : Pid => HandlerClientData
  data : AttractionHandlerData
  finishTime : ℤ
  started : Bool
  released : Bool
deriving DecidableEq

namespace AttractionHandler

/-- The constructor; it also sets the leave semaphore to 0. -/
def construct (data : AttractionHandlerData) : AttractionHandler := ⟨∅, data, 0, false, false⟩

def removeClient (pid : Pid) (h : AttractionHandler) : Bool × AttractionHandler :=
  (decide (pid ∈ h.clientList), { h with clientList := h.clientList.erase pid })

def isEmpty (h : AttractionHandler) : Bool := h.clientList.entries.isEmpty

def finished (now : ℤ) (h : AttractionHandler) : Bool :=
  decide (h.finishTime ≤ now) || h.isEmpty

def addClient (pid : Pid) (hasChild fromPark : Bool) (h : AttractionHandler) :
    Bool × AttractionHandler :=
  if pid ∈ h.clientList then (false, h)
  else (true, { h with clientList := h.clientList.insert pid ⟨hasChild, fromPark⟩ })

def getClientCount (h : AttractionHandler) : ℕ :=
  assocTotal (fun data : HandlerClientData => partySize data.hasChild) h.clientList

def startAttraction (now : ℤ) (h : AttractionHandler) : AttractionHandler :=
  if h.started then h
  else { h with finishTime := now + h.data.attractionDuration, started := true }

/-- `ReleaseClients`, with the amount it signals on the leave semaphore. -/
def releaseClients (h : AttractionHandler) : AttractionHandler × Option ℕ :=
  if h.released then (h, none)
  else ({ h with released := true }, some h.clientList.entries.length)

@[simp] theorem construct_clientList (data : AttractionHandlerData) :
    (construct data).clientList = ∅ := rfl

@[simp] theorem removeClient_clientList (pid : Pid) (h : AttractionHandler) :
    (h.removeClient pid).2.clientList = h.clientList.erase pid := rfl

@[simp] theorem startAttraction_clientList (now : ℤ) (h : AttractionHandler) :
    (h.startAttraction now).clientList = h.clientList := by
  unfold startAttraction
  split <;> rfl

@[simp] theorem startAttraction_released (now : ℤ) (h : AttractionHandler) :
    (h.startAttraction now).released = h.released := by
  unfold startAttraction
  split <;> rfl

@[simp] theorem releaseClients_clientList (h : AttractionHandler) :
    h.releaseClients.1.clientList = h.clientList := by
  unfold releaseClients
  split <;> rfl

@[simp] theorem releaseClients_released (h : AttractionHandler) :
    h.releaseClients.1.released = true := by
  unfold releaseClients
  split
  · assumption
  · rfl

@[simp] theorem addClient_released (pid : Pid) (hasChild fromPark : Bool) (h : AttractionHandler) :
    (h.addClient pid hasChild fromPark).2.released = h.released := by
  unfold addClient
  split <;> rfl

@[simp] theorem addClient_started (pid : Pid) (hasChild fromPark : Bool) (h : AttractionHandler) :
    (h.addClient pid hasChild fromPark).2.started = h.started := by
  unfold addClient
  split <;> rfl

theorem mem_addClient_clientList {pid q : Pid} {hasChild fromPark : Bool} {h : AttractionHandler} :
    q ∈ (h.addClient pid hasChild fromPark).2.clientList ↔ q = pid ∨ q ∈ h.clientList := by
  unfold addClient
  by_cases hpid : pid ∈ h.clientList
  · rw [if_pos hpid]
    exact ⟨.inr, fun hq => hq.elim (fun heq => heq ▸ hpid) id⟩
  · rw [if_neg hpid]
    exact AList.mem_insert _

/-- `AddClient` never changes an entry that is there. -/
theorem addClient_lookup (pid q : Pid) (hasChild fromPark : Bool) (h : AttractionHandler) :
    (h.addClient pid hasChild fromPark).2.clientList.lookup q =
      if q = pid ∧ pid ∉ h.clientList then some ⟨hasChild, fromPark⟩
      else h.clientList.lookup q := by
  unfold addClient
  by_cases hmem : pid ∈ h.clientList
  · simp [hmem]
  · by_cases hq : q = pid
    · subst hq
      simp [hmem]
    · simp [hmem, hq, AList.lookup_insert_ne]

@[simp] theorem construct_getClientCount (data : AttractionHandlerData) :
    (construct data).getClientCount = 0 := rfl

theorem getClientCount_congr {h k : AttractionHandler} (hlist : k.clientList = h.clientList) :
    k.getClientCount = h.getClientCount := by rw [getClientCount, hlist, getClientCount]

theorem getClientCount_removeClient_le (pid : Pid) (h : AttractionHandler) :
    (h.removeClient pid).2.getClientCount ≤ h.getClientCount :=
  assocTotal_erase_le _ h.clientList pid

/-- `AddClient` adds the people of a new client and ignores a repeated PID. -/
theorem getClientCount_addClient_le (pid : Pid) (hasChild fromPark : Bool)
    (h : AttractionHandler) : (h.addClient pid hasChild fromPark).2.getClientCount ≤
      h.getClientCount + partySize hasChild := by
  unfold addClient
  by_cases hmem : pid ∈ h.clientList
  · rw [if_pos hmem]
    exact Nat.le_add_right _ _
  · rw [if_neg hmem]
    exact (assocTotal_insert_of_notMem _ _ hmem).le

end AttractionHandler
end AmusementPark.Worker
