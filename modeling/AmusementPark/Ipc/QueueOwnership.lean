import AmusementPark.Ipc.MessageQueue
import AmusementPark.Library.Holdings
import AmusementPark.Library.Machine

/-! # Who closes and unlinks a message queue

A `MessageQueue` object from its construction to its destruction, with the
descriptors it obtains and the queue names it creates. The descriptor is
forgotten only after both `mq_close` and `mq_unlink` have succeeded, so a failed
`mq_unlink` leaves an object that will close its descriptor a second time.
-/
namespace AmusementPark.Ipc
open Library

/-- The members of `MessageQueueParams` that the object keeps. -/
structure MessageQueueParams where
  msqName : String
  create : Bool
deriving DecidableEq

/-- `PARK_QUEUE_ID`. -/
def parkQueueID : String := "/park-"

/-- Whether `mq_close` and `mq_unlink` succeed. -/
structure CloseOutcome where
  closed : Bool
  unlinked : Bool
deriving DecidableEq

/-- The calls of `OpenMessageQueue`: those of closing the old queue, the descriptor that `mq_open`
returns, if it does, and what the error handler makes of a failure. -/
structure OpenOutcome where
  closing : CloseOutcome
  opened : Option ℕ
  handled : Except StdException Bool

/-- The object with its history: the descriptors it has obtained and closed, the names it has
created and unlinked, and whether an `mq_unlink` has failed. -/
structure QueueObject where
  queue : MessageQueue
  descriptors : List (Use ℤ)
  names : List (Use String)
  unlinkFailed : Bool
  destroyed : Bool

inductive QueueAction where
  | openQueue (params : MessageQueueParams) (o : OpenOutcome)
  | closeQueue (o : CloseOutcome)
  | destroy (o : CloseOutcome)

namespace QueueObject

/-- The constructor. -/
def init : QueueObject := ⟨⟨-1, "", false⟩, [], [], false, false⟩

def mqClose (s : QueueObject) (closed : Bool) : QueueObject :=
  { s with descriptors := .release s.queue.msqID closed :: s.descriptors }

def mqUnlink (s : QueueObject) (unlinked : Bool) : QueueObject :=
  { s with
    names := .release s.queue.msqName unlinked :: s.names
    unlinkFailed := s.unlinkFailed || !unlinked }

/-- The end of `CloseMessageQueue`. -/
def forget (s : QueueObject) : QueueObject :=
  { s with queue := { s.queue with msqID := -1, owner := false } }

def closeMessageQueue (o : CloseOutcome) (s : QueueObject) :
    Except StdException Bool × QueueObject :=
  if s.queue.msqID = -1 then (.ok false, s)
  else
    let s := s.mqClose o.closed
    if !o.closed then (.error ⟨"Couldn't unlink message queue!"⟩, s)
    else if s.queue.owner then
      let s := s.mqUnlink o.unlinked
      if !o.unlinked then (.error ⟨"Couldn't close message queue!"⟩, s)
      else (.ok true, s.forget)
    else (.ok true, s.forget)

/-- `OpenMessageQueue` past the test of the old queue. -/
def mqOpen (params : MessageQueueParams) (o : OpenOutcome) (s : QueueObject) :
    Except StdException Bool × QueueObject :=
  let msqName := parkQueueID ++ params.msqName
  match o.opened with
  | none =>
    let s := { s with queue := { s.queue with msqID := -1, msqName := msqName } }
    match o.handled with
    | .error e => (.error e, s)
    | .ok true => (.ok false, s)
    | .ok false => (.error ⟨"Couldn't open message queue " ++ msqName ++ "!"⟩, s)
  | some msqID => (.ok true, { s with
      queue := ⟨msqID, msqName, params.create⟩
      descriptors := .acquire msqID :: s.descriptors
      names := if params.create then .acquire msqName :: s.names else s.names })

def openMessageQueue (params : MessageQueueParams) (o : OpenOutcome) (s : QueueObject) :
    Except StdException Bool × QueueObject :=
  if 0 ≤ s.queue.msqID then
    match s.closeMessageQueue o.closing with
    | (.error e, s) => (.error e, s)
    | (.ok _, s) => s.mqOpen params o
  else s.mqOpen params o

/-- The destructor calls `CloseMessageQueue`. An exception does not leave it, but ends the
process. -/
def step (s : QueueObject) (a : QueueAction) : Option QueueObject :=
  if s.destroyed then none else some <|
    match a with
    | .openQueue params o => (s.openMessageQueue params o).2
    | .closeQueue o => (s.closeMessageQueue o).2
    | .destroy o => { (s.closeMessageQueue o).2 with destroyed := true }

def machine : Machine QueueObject QueueAction := ⟨step⟩

/-! ## The three shapes of an object -/

/-- Only descriptors that are open are closed, and only names that the object has created and not
unlinked are unlinked. -/
structure Disciplined (s : QueueObject) : Prop where
  descriptors : Orderly s.descriptors
  names : Orderly s.names

instance (s : QueueObject) : Decidable s.Disciplined :=
  decidable_of_iff (Orderly s.descriptors ∧ Orderly s.names)
    ⟨fun h => ⟨h.1, h.2⟩, fun h => ⟨h.1, h.2⟩⟩

/-- The object holds no queue. -/
structure Detached (s : QueueObject) : Prop where
  unlinkFailed : s.unlinkFailed = false
  msqID : s.queue.msqID = -1
  owner : s.queue.owner = false
  descriptors : held s.descriptors = 0
  names : held s.names = 0

/-- The object holds one queue, and its name if it has created it. -/
structure Attached (s : QueueObject) : Prop where
  unlinkFailed : s.unlinkFailed = false
  msqID : 0 ≤ s.queue.msqID
  descriptors : held s.descriptors = {s.queue.msqID}
  names : held s.names = if s.queue.owner then {s.queue.msqName} else 0

/-- The object has closed its descriptor and keeps it. -/
structure Stale (s : QueueObject) : Prop where
  unlinkFailed : s.unlinkFailed = true
  msqID : 0 ≤ s.queue.msqID
  descriptors : held s.descriptors = 0

/-- The invariant of an object that has misused nothing. -/
def Sound (s : QueueObject) : Prop := s.Disciplined ∧ (s.Detached ∨ s.Attached ∨ s.Stale)

/-- No `mq_unlink` of the object has failed so far. -/
def Unlinked (s : QueueObject) (_ : QueueAction) : Prop := s.unlinkFailed = false

variable {s t : QueueObject}

theorem sound_init : init.Sound := ⟨⟨trivial, trivial⟩, .inl ⟨rfl, rfl, rfl, rfl, rfl⟩⟩

theorem closeMessageQueue_of_detached (h : s.Detached) (o : CloseOutcome) :
    s.closeMessageQueue o = (.ok false, s) := by
  rw [closeMessageQueue, if_pos h.msqID]

/-- Closing a queue that is held lets go of it, or throws and keeps it or goes stale. -/
theorem closeMessageQueue_of_attached (h : s.Attached) (hs : s.Disciplined) (o : CloseOutcome) :
    (∃ b u, s.closeMessageQueue o = (.ok b, u) ∧ u.Disciplined ∧ u.Detached) ∨
      ∃ e u, s.closeMessageQueue o = (.error e, u) ∧ u.Disciplined ∧ (u.Attached ∨ u.Stale) := by
  have hopen : s.queue.msqID ≠ -1 := by
    have := h.msqID
    omega
  have hclosing (done : Bool) := hs.descriptors.release h.descriptors done
  obtain ⟨closed, unlinked⟩ := o
  cases closed with
  | false =>
    simp only [closeMessageQueue, hopen, if_false, Bool.not_false, if_true]
    exact .inr ⟨_, _, rfl, ⟨hclosing _, hs.names⟩,
      .inl ⟨h.unlinkFailed, h.msqID, h.descriptors, h.names⟩⟩
  | true =>
    have hnone := held_release_of_singleton h.descriptors
    cases howner : s.queue.owner with
    | false =>
      have hnames : held s.names = 0 := by simpa [howner] using h.names
      simp only [closeMessageQueue, hopen, if_false, Bool.not_true, Bool.false_eq_true, mqClose,
        howner]
      exact .inl ⟨_, _, rfl, ⟨hclosing _, hs.names⟩, ⟨h.unlinkFailed, rfl, rfl, hnone, hnames⟩⟩
    | true =>
      have hnames : held s.names = {s.queue.msqName} := by simpa [howner] using h.names
      have hunlinking (done : Bool) := hs.names.release hnames done
      cases unlinked with
      | false =>
        simp only [closeMessageQueue, hopen, if_false, Bool.not_true, Bool.false_eq_true, mqClose,
          howner, if_true, Bool.not_false]
        exact .inr ⟨_, _, rfl, ⟨hclosing _, hunlinking _⟩,
          .inr ⟨Bool.or_true _, h.msqID, hnone⟩⟩
      | true =>
        have hunlinked := held_release_of_singleton hnames
        simp only [closeMessageQueue, hopen, if_false, Bool.not_true, Bool.false_eq_true, mqClose,
          howner, if_true]
        refine .inl ⟨_, _, rfl, ⟨hclosing _, hunlinking _⟩, ⟨?_, rfl, rfl, hnone, hunlinked⟩⟩
        simp [forget, mqUnlink, h.unlinkFailed]

/-- Opening an object that holds nothing attaches it or leaves it as it is. -/
theorem mqOpen_of_detached (h : s.Detached) (hs : s.Disciplined) (params : MessageQueueParams)
    (o : OpenOutcome) : (s.mqOpen params o).2.Sound := by
  cases hopened : o.opened with
  | none =>
    have hsound : Sound { s with queue := { s.queue with
        msqID := -1
        msqName := parkQueueID ++ params.msqName } } :=
      ⟨⟨hs.descriptors, hs.names⟩, .inl ⟨h.unlinkFailed, rfl, h.owner, h.descriptors, h.names⟩⟩
    rcases hhandled : o.handled with e | _ | _ <;>
      simpa only [mqOpen, hopened, hhandled] using hsound
  | some msqID =>
    simp only [mqOpen, hopened]
    refine ⟨⟨hs.descriptors, ?_⟩, .inr (.inl ⟨h.unlinkFailed, Int.natCast_nonneg _, ?_, ?_⟩)⟩
    · cases params.create
      · exact hs.names
      · exact hs.names
    · simp [h.descriptors]
    · cases params.create <;> simp [h.names]

/-- A stale object closes its descriptor again. -/
theorem closeMessageQueue_of_stale (h : s.Stale) (o : CloseOutcome) :
    ¬ Orderly (s.closeMessageQueue o).2.descriptors := by
  have hopen : s.queue.msqID ≠ -1 := by
    have := h.msqID
    omega
  have hmisused := not_orderly_release h.descriptors s.queue.msqID o.closed
  simp only [closeMessageQueue, hopen, if_false]
  split
  · exact hmisused
  · split
    · split <;> exact hmisused
    · exact hmisused

/-- `mq_open` only adds to the history. -/
theorem orderly_of_mqOpen {params : MessageQueueParams} {o : OpenOutcome}
    (h : Orderly (s.mqOpen params o).2.descriptors) : Orderly s.descriptors := by
  unfold mqOpen at h
  dsimp only at h
  split at h
  · split at h <;> exact h
  · exact h

/-! ## Runs -/

/-- The closing of an object that is not stale. -/
theorem Sound.close (hs : s.Sound) (hnot : ¬ s.Stale) (o : CloseOutcome) :
    (s.closeMessageQueue o).2.Sound := by
  obtain ⟨hdisciplined, hdetached | hattached | hstale⟩ := hs
  · rw [closeMessageQueue_of_detached hdetached]
    exact ⟨hdisciplined, .inl hdetached⟩
  · obtain ⟨b, u, hrun, hkept, hdone⟩ | ⟨e, u, hrun, hkept, hfailed⟩ :=
      closeMessageQueue_of_attached hattached hdisciplined o
    · rw [hrun]
      exact ⟨hkept, .inl hdone⟩
    · rw [hrun]
      exact ⟨hkept, .inr hfailed⟩
  · exact absurd hstale hnot

/-- The opening of an object that is not stale. -/
theorem Sound.openMessageQueue (hs : s.Sound) (hnot : ¬ s.Stale) (params : MessageQueueParams)
    (o : OpenOutcome) : (s.openMessageQueue params o).2.Sound := by
  obtain ⟨hdisciplined, hdetached | hattached | hstale⟩ := hs
  · have hclosed : ¬ 0 ≤ s.queue.msqID := by
      have := hdetached.msqID
      omega
    simp only [QueueObject.openMessageQueue, hclosed, if_false]
    exact mqOpen_of_detached hdetached hdisciplined params o
  · simp only [QueueObject.openMessageQueue, hattached.msqID, if_true]
    obtain ⟨b, u, hrun, hkept, hdone⟩ | ⟨e, u, hrun, hkept, hfailed⟩ :=
      closeMessageQueue_of_attached hattached hdisciplined o.closing
    · rw [hrun]
      exact mqOpen_of_detached hdone hkept params o
    · rw [hrun]
      exact ⟨hkept, .inr hfailed⟩
  · exact absurd hstale hnot

theorem Sound.destroy (hs : s.Sound) : Sound { s with destroyed := true } := by
  obtain ⟨hkept, hdetached | hattached | hstale⟩ := hs
  · exact ⟨⟨hkept.1, hkept.2⟩, .inl ⟨hdetached.1, hdetached.2, hdetached.3, hdetached.4,
      hdetached.5⟩⟩
  · exact ⟨⟨hkept.1, hkept.2⟩, .inr (.inl ⟨hattached.1, hattached.2, hattached.3, hattached.4⟩)⟩
  · exact ⟨⟨hkept.1, hkept.2⟩, .inr (.inr ⟨hstale.1, hstale.2, hstale.3⟩)⟩

theorem Sound.step (hs : s.Sound) {a : QueueAction} (ha : s.Unlinked a)
    (h : machine.step s a = some t) : t.Sound := by
  have hnot : ¬ s.Stale := by
    intro hstale
    cases ha.symm.trans hstale.unlinkFailed
  simp only [machine, QueueObject.step, Option.ite_none_left_eq_some, Option.some.injEq] at h
  obtain ⟨-, rfl⟩ := h
  cases a with
  | openQueue params o => exact hs.openMessageQueue hnot params o
  | closeQueue o => exact hs.close hnot o
  | destroy o => exact (hs.close hnot o).destroy

theorem not_disciplined_of_stale (hs : s.Sound) {a : QueueAction} (ha : ¬ s.Unlinked a)
    (h : machine.step s a = some t) : ¬ t.Disciplined := by
  have hstale : s.Stale := by
    obtain hdetached | hattached | hstale := hs.2
    · exact absurd hdetached.unlinkFailed ha
    · exact absurd hattached.unlinkFailed ha
    · exact hstale
  intro hdisciplined
  simp only [machine, QueueObject.step, Option.ite_none_left_eq_some, Option.some.injEq] at h
  obtain ⟨-, rfl⟩ := h
  cases a with
  | closeQueue o => exact closeMessageQueue_of_stale hstale o hdisciplined.descriptors
  | destroy o => exact closeMessageQueue_of_stale hstale o hdisciplined.descriptors
  | openQueue params o =>
    have horderly := hdisciplined.descriptors
    simp only [openMessageQueue, hstale.msqID, if_true] at horderly
    have hmisused := closeMessageQueue_of_stale hstale o.closing
    rcases hrun : s.closeMessageQueue o.closing with ⟨e | b, u⟩
    · rw [hrun] at horderly hmisused
      exact hmisused horderly
    · rw [hrun] at horderly hmisused
      exact hmisused (orderly_of_mqOpen horderly)

/-- An object closes and unlinks only what it holds, in every run, exactly as long as nothing is
done with it, and it is not destroyed, after one of its `mq_unlink` has failed. -/
theorem disciplined_iff_unlinked (as : List QueueAction) :
    machine.Always Disciplined init as ↔ machine.Meets Unlinked init as :=
  Machine.always_iff_meets (fun _ h => h.1) (fun _ _ _ hs ha h => hs.step ha h)
    (fun _ _ _ hs ha h => not_disciplined_of_stale hs ha h) as sound_init

/-- An owner whose queue is gone when it unlinks it, and its destruction. -/
def unlinkFails : List QueueAction :=
  [.openQueue ⟨"7-register", true⟩ ⟨⟨true, true⟩, some 3, .ok false⟩, .closeQueue ⟨true, false⟩,
    .destroy ⟨false, false⟩]

/-- The destructor calls `mq_close` on descriptor 3, which is closed. -/
theorem unlinkFails_closes_twice :
    (machine.exec init unlinkFails).map QueueObject.descriptors =
      some [.release 3 false, .release 3 true, .acquire 3] ∧
    ¬ machine.Always Disciplined init unlinkFails := by
  decide

end QueueObject
end AmusementPark.Ipc
