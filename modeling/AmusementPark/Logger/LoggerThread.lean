import AmusementPark.Library.Exceptions
import AmusementPark.Library.PartialWrites
import AmusementPark.Logger.LogMessage

/-! # The logger

`LoggerThread` writes every message it receives to the main log and, by the role
of the sender, to one of four others. `File::Write` takes any result of `write`
but -1 for a success, so the bytes that a short write leaves out are missing
from a log that the thread believes to be complete.
-/
namespace AmusementPark.Logger
open Library

/-- What `write` returns: -1, or the number of bytes it has taken. -/
inductive WriteResult where
  | error
  | written (n : ℕ)
deriving DecidableEq

def WriteResult.taken : WriteResult → ℕ
  | .error => 0
  | .written n => n

/-! ## Files -/

/-- A `File` with what the file on the disk holds. -/
structure File where
  isOpen : Bool
  content : Bytes
deriving DecidableEq

/-- `File::Open` with `LOGGER_FILE_FLAGS`, which truncate the file. -/
def File.open (opened : Bool) (f : File) : Except StdException Bool × File :=
  if f.isOpen then (.ok false, f)
  else if opened then (.ok true, ⟨true, []⟩)
  else (.error ⟨"open error"⟩, f)

/-- `File::Write` of a string, when `write` returns `r`. -/
def File.write (str : Bytes) (r : WriteResult) (f : File) : Bool × File :=
  if !f.isOpen then (false, f)
  else match r with
    | .error => (false, f)
    | .written n => (true, { f with content := f.content ++ str.take n })

/-- `t_logFiles`, with the results of the calls of `write` still to come. -/
structure LogFiles where
  files : Fin 5 → File
  results : List WriteResult

/-- A write to the `i`th file; nothing is returned while the call is still in the kernel. -/
def LogFiles.write (i : Fin 5) (str : Bytes) (s : LogFiles) : Option (Bool × LogFiles) :=
  if !(s.files i).isOpen then some (false, s)
  else match s.results with
    | [] => none
    | r :: results =>
      let w := (s.files i).write str r
      some (w.1, ⟨Function.update s.files i w.2, results⟩)

/-- The file of a role beside the main log, by the test of `LoggerThread`. -/
def logFileOf (role : ProcessRole) : Option (Fin 5) :=
  if h : role = .main ∨ 5 ≤ sizeOfInt role.toInt then none
  else some ⟨sizeOfInt role.toInt, by omega⟩

/-! ## The thread -/

/-- How far the thread has got: it waits in a call, it has received the terminator, it has caught
an exception, or it has read through a null pointer or past the end of a message. -/
inductive LoggerPoint where
  | waiting
  | terminated
  | caught (e : StdException)
  | crashed
deriving DecidableEq

/-- What `ReceiveMessage` returns or throws. -/
abbrev Received := Except StdException (Option LoggerMQMessage)

/-- The loop of `LoggerThread`. -/
def loggerLoop (putTime : ℤ → Bytes) : List Received → LogFiles → LoggerPoint × LogFiles
  | [], s => (.waiting, s)
  | .error e :: _, s => (.caught e, s)
  | .ok none :: _, s => (.crashed, s)
  | .ok (some msg) :: rest, s =>
    if msg.senderPID = -1 then (.terminated, s)
    else if ∀ k, msg.message k ≠ 0 then (.crashed, s)
    else
      let msgStr := createLogMessage putTime msg
      match s.write 0 msgStr with
      | none => (.waiting, s)
      | some (false, s) => (.caught ⟨"write error"⟩, s)
      | some (true, s) =>
        match logFileOf msg.senderRole with
        | none => loggerLoop putTime rest s
        | some i =>
          match s.write i msgStr with
          | none => (.waiting, s)
          | some (false, s) => (.caught ⟨"write error"⟩, s)
          | some (true, s) => loggerLoop putTime rest s

/-- The loop that opens the log files. -/
def openLogFiles (opened : Fin 5 → Bool) :
    List (Fin 5) → (Fin 5 → File) → Except StdException Unit × (Fin 5 → File)
  | [], files => (.ok (), files)
  | i :: is, files =>
    match (files i).open (opened i) with
    | (.error e, f) => (.error e, Function.update files i f)
    | (.ok _, f) => openLogFiles opened is (Function.update files i f)

/-- A run of `LoggerThread`: where it has got, `g_loggerStatus`, and the files. -/
structure LoggerRun where
  point : LoggerPoint
  status : ℤ
  files : Fin 5 → File

/-- `LoggerThread`, with what the files hold before, whether they can be opened, what `GetLoggerMQ`
does, what is received, and the results of the writes. -/
def loggerThread (putTime : ℤ → Bytes) (disk : Fin 5 → Bytes) (opened : Fin 5 → Bool)
    (getLoggerMQ : Except StdException Unit) (received : List Received)
    (results : List WriteResult) : LoggerRun :=
  match openLogFiles opened (List.finRange 5) fun i => ⟨false, disk i⟩ with
  | (.error e, files) => ⟨.caught e, -1, files⟩
  | (.ok (), files) =>
    match getLoggerMQ with
    | .error e => ⟨.caught e, -1, files⟩
    | .ok () =>
      match loggerLoop putTime received ⟨files, results⟩ with
      | (.caught e, s) => ⟨.caught e, -1, s.files⟩
      | (point, s) => ⟨point, 1, s.files⟩

/-! ## What the logs should hold -/

/-- The logs of the roles other than `MAIN`, in the order of `logFileNames`. -/
def roleFiles : List (ProcessRole × Fin 5) :=
  [(.cashier, 1), (.attraction, 2), (.restaurant, 3), (.client, 4)]

/-- The main log holds all messages, and the log of each role those of the role, in order. -/
structure LogComplete (putTime : ℤ → Bytes) (msgs : List LoggerMQMessage)
    (files : Fin 5 → File) : Prop where
  main : (files 0).content = msgs.flatMap (createLogMessage putTime)
  role : ∀ p ∈ roleFiles, (files p.2).content =
    (msgs.filter fun msg => msg.senderRole = p.1).flatMap (createLogMessage putTime)

/-- The writes that a message asks for. -/
def requestsOf (putTime : ℤ → Bytes) (msg : LoggerMQMessage) : List (Fin 5 × Bytes) :=
  (0, createLogMessage putTime msg) ::
    (logFileOf msg.senderRole).toList.map fun i => (i, createLogMessage putTime msg)

def requests (putTime : ℤ → Bytes) (msgs : List LoggerMQMessage) : List (Fin 5 × Bytes) :=
  msgs.flatMap (requestsOf putTime)

/-- The writes of the messages with what `write` takes of them. -/
def writesOf (requests : List (Fin 5 × Bytes)) (results : List WriteResult) :
    List (PartialWrite (Fin 5) UInt8) :=
  (requests.zip results).map fun p => ⟨p.1.1, p.1.2, p.2.taken⟩

/-- No write takes fewer bytes than the text has. -/
def NoShortWrite (putTime : ℤ → Bytes) (msgs : List LoggerMQMessage) (results : List WriteResult) :
    Prop :=
  ∀ w ∈ writesOf (requests putTime msgs) results, w.text.length ≤ w.taken

instance (putTime : ℤ → Bytes) (msgs : List LoggerMQMessage) (results : List WriteResult) :
    Decidable (NoShortWrite putTime msgs results) :=
  inferInstanceAs (Decidable (∀ w ∈ writesOf (requests putTime msgs) results, _))

variable {putTime : ℤ → Bytes} {msgs : List LoggerMQMessage}

/-- `MAIN` and the values that are no role have no log of their own. -/
theorem logFileOf_eq_some_iff {role : ProcessRole} {i : Fin 5} :
    logFileOf role = some i ↔ (role, i) ∈ roleFiles := by
  cases role with
  | other raw h =>
    have hsize : 5 ≤ sizeOfInt raw := by
      rw [sizeOfInt]
      omega
    rw [logFileOf, dif_pos (.inr hsize)]
    simp [roleFiles]
  | main => revert i; decide
  | cashier => revert i; decide
  | attraction => revert i; decide
  | restaurant => revert i; decide
  | client => revert i; decide

/-- All that is asked of the main log. -/
theorem requests_main (putTime : ℤ → Bytes) (msgs : List LoggerMQMessage) :
    ((requests putTime msgs).filter fun q => q.1 = 0).flatMap Prod.snd =
      msgs.flatMap (createLogMessage putTime) := by
  induction msgs with
  | nil => rfl
  | cons msg msgs ih =>
    have hone : ((requestsOf putTime msg).filter fun q => q.1 = 0).flatMap Prod.snd =
        createLogMessage putTime msg := by
      cases hfile : logFileOf msg.senderRole with
      | none => simp [requestsOf, hfile]
      | some i =>
        have hi : i ≠ 0 := by
          rintro rfl
          have hmem := logFileOf_eq_some_iff.mp hfile
          simp [roleFiles] at hmem
        simp [requestsOf, hfile, hi]
    rw [requests, List.flatMap_cons, List.filter_append, List.flatMap_append, hone, ← requests, ih,
      List.flatMap_cons]

/-- All that is asked of the log of a role. -/
theorem requests_role (putTime : ℤ → Bytes) (msgs : List LoggerMQMessage) {role : ProcessRole}
    {i : Fin 5} (h : (role, i) ∈ roleFiles) :
    ((requests putTime msgs).filter fun q => q.1 = i).flatMap Prod.snd =
      (msgs.filter fun msg => msg.senderRole = role).flatMap (createLogMessage putTime) := by
  have hmain : i ≠ 0 := by
    rintro rfl
    simp [roleFiles] at h
  have hunique : ∀ p ∈ roleFiles, ∀ q ∈ roleFiles, p.2 = q.2 → p.1 = q.1 := by decide
  induction msgs with
  | nil => rfl
  | cons msg msgs ih =>
    rw [requests, List.flatMap_cons, List.filter_append, List.flatMap_append, ← requests, ih]
    by_cases hrole : msg.senderRole = role
    · have hfile : logFileOf msg.senderRole = some i := logFileOf_eq_some_iff.mpr (hrole ▸ h)
      rw [List.filter_cons_of_pos (by simpa using hrole), List.flatMap_cons]
      simp [requestsOf, hfile, hmain.symm]
    · rw [List.filter_cons_of_neg (by simpa using hrole)]
      cases hfile : logFileOf msg.senderRole with
      | none => simp [requestsOf, hfile, hmain.symm]
      | some k =>
        have hk : k ≠ i := by
          rintro rfl
          exact hrole (hunique _ (logFileOf_eq_some_iff.mp hfile) _ h rfl)
        simp [requestsOf, hfile, hmain.symm, hk]

/-- What the writes ask of a file, when each of them has been made. -/
theorem asked_writesOf {requests : List (Fin 5 × Bytes)} {results : List WriteResult}
    (h : requests.length ≤ results.length) (i : Fin 5) :
    PartialWrite.asked (PartialWrite.forFile i (writesOf requests results)) =
      (requests.filter fun q => q.1 = i).flatMap Prod.snd := by
  induction requests generalizing results with
  | nil => rfl
  | cons q requests ih =>
    cases results with
    | nil => cases h
    | cons r results =>
      have hcons : writesOf (q :: requests) (r :: results) =
          ⟨q.1, q.2, r.taken⟩ :: writesOf requests results := rfl
      rw [hcons, PartialWrite.asked_forFile_cons, ih (Nat.le_of_succ_le_succ h)]
      by_cases hq : q.1 = i
      · rw [if_pos hq, List.filter_cons_of_pos (by simpa using hq), List.flatMap_cons]
      · rw [if_neg hq, List.filter_cons_of_neg (by simpa using hq), List.nil_append]

/-! ## What a run does -/

/-- A write that succeeds has taken the next result and appended what that says. -/
theorem LogFiles.write_eq_true {s t : LogFiles} {i : Fin 5} {str : Bytes}
    (hopen : ∀ j, (s.files j).isOpen = true) (h : s.write i str = some (true, t)) :
    ∃ r, s.results = r :: t.results ∧ (∀ j, (t.files j).isOpen = true) ∧
      ∀ j, (t.files j).content =
        (s.files j).content ++ if i = j then str.take r.taken else [] := by
  simp only [LogFiles.write, hopen i, Bool.not_true, Bool.false_eq_true, if_false] at h
  cases hresults : s.results with
  | nil =>
    rw [hresults] at h
    cases h
  | cons r results =>
    rw [hresults] at h
    cases r with
    | error =>
      simp [File.write, hopen i] at h
    | written n =>
      simp only [File.write, hopen i, Bool.not_true, Bool.false_eq_true, if_false,
        Option.some.injEq, Prod.mk.injEq, true_and] at h
      subst h
      refine ⟨.written n, rfl, ?_, ?_⟩
      · intro j
        dsimp only
        by_cases hj : j = i
        · subst hj
          rw [Function.update_self]
        · rw [Function.update_of_ne hj]
          exact hopen j
      · intro j
        dsimp only
        by_cases hj : j = i
        · subst hj
          rw [Function.update_self, if_pos rfl]
          rfl
        · rw [Function.update_of_ne hj, if_neg (Ne.symm hj), List.append_nil]

/-- The messages as they are received, with the terminator behind them. -/
def receivedOf (msgs : List LoggerMQMessage) (terminator : LoggerMQMessage) : List Received :=
  (msgs ++ [terminator]).map fun msg => .ok (some msg)

theorem writesOf_append {requests later : List (Fin 5 × Bytes)} {results rest : List WriteResult}
    (h : requests.length = results.length) : writesOf (requests ++ later) (results ++ rest) =
      writesOf requests results ++ writesOf later rest := by
  rw [writesOf, List.zip_append h, List.map_append]
  rfl

/-- A message that the loop gets past has had all its writes made. -/
theorem loggerLoop_message {s t : LogFiles} {msg : LoggerMQMessage} {rest : List Received}
    (hopen : ∀ j, (s.files j).isOpen = true) (hmsg : msg.senderPID ≠ -1)
    (h : loggerLoop putTime (.ok (some msg) :: rest) s = (.terminated, t)) :
    ∃ u results, loggerLoop putTime rest u = (.terminated, t) ∧
      (∀ j, (u.files j).isOpen = true) ∧ s.results = results ++ u.results ∧
      (requestsOf putTime msg).length = results.length ∧ ∀ j, (u.files j).content =
        (s.files j).content ++ PartialWrite.kept
          (PartialWrite.forFile j (writesOf (requestsOf putTime msg) results)) := by
  rw [loggerLoop, if_neg hmsg] at h
  split at h
  · cases h
  dsimp only at h
  split at h
  · cases h
  · cases h
  next u hfirst =>
    obtain ⟨r, hresults, huopen, hucontent⟩ := LogFiles.write_eq_true hopen hfirst
    cases hfile : logFileOf msg.senderRole with
    | none =>
      rw [hfile] at h
      have hone : requestsOf putTime msg = [(0, createLogMessage putTime msg)] := by
        rw [requestsOf, hfile]
        rfl
      refine ⟨u, [r], h, huopen, hresults, by rw [hone]; rfl, ?_⟩
      intro j
      have hwrites : writesOf [(0, createLogMessage putTime msg)] [r] =
          [⟨0, createLogMessage putTime msg, r.taken⟩] := rfl
      rw [hone, hwrites, PartialWrite.kept_forFile_cons, hucontent j]
      exact congrArg _ (List.append_nil _).symm
    | some i =>
      rw [hfile] at h
      dsimp only at h
      split at h
      · cases h
      · cases h
      next v hsecond =>
        obtain ⟨q, hresults', hvopen, hvcontent⟩ := LogFiles.write_eq_true huopen hsecond
        have htwo : requestsOf putTime msg =
            [(0, createLogMessage putTime msg), (i, createLogMessage putTime msg)] := by
          rw [requestsOf, hfile]
          rfl
        refine ⟨v, [r, q], h, hvopen, by rw [hresults, hresults']; rfl, by rw [htwo]; rfl, ?_⟩
        intro j
        have hwrites : writesOf [(0, createLogMessage putTime msg),
            (i, createLogMessage putTime msg)] [r, q] =
              [⟨0, createLogMessage putTime msg, r.taken⟩,
                ⟨i, createLogMessage putTime msg, q.taken⟩] := rfl
        rw [htwo, hwrites, PartialWrite.kept_forFile_cons, PartialWrite.kept_forFile_cons,
          hvcontent j, hucontent j, List.append_assoc]
        exact congrArg _ (congrArg _ (List.append_nil _).symm)

/-- A loop that gets to the terminator has made all the writes, each with its result. -/
theorem loggerLoop_terminated {s t : LogFiles} {terminator : LoggerMQMessage}
    (hopen : ∀ j, (s.files j).isOpen = true) (hmsgs : ∀ msg ∈ msgs, msg.senderPID ≠ -1)
    (hterminator : terminator.senderPID = -1)
    (h : loggerLoop putTime (receivedOf msgs terminator) s = (.terminated, t)) :
    (requests putTime msgs).length ≤ s.results.length ∧ ∀ j, (t.files j).content =
      (s.files j).content ++ PartialWrite.kept
        (PartialWrite.forFile j (writesOf (requests putTime msgs) s.results)) := by
  induction msgs generalizing s with
  | nil =>
    simp only [receivedOf, List.nil_append, List.map_cons, loggerLoop, hterminator, if_true,
      Prod.mk.injEq, true_and] at h
    subst h
    refine ⟨Nat.zero_le _, ?_⟩
    intro j
    exact (List.append_nil _).symm
  | cons msg msgs ih =>
    obtain ⟨hmsg, hrest⟩ := List.forall_mem_cons.mp hmsgs
    have hrequests : requests putTime (msg :: msgs) =
        requestsOf putTime msg ++ requests putTime msgs := List.flatMap_cons
    obtain ⟨u, results, hrun, huopen, hresults, hnow, hucontent⟩ :=
      loggerLoop_message hopen hmsg h
    obtain ⟨hlength, hcontent⟩ := ih huopen hrest hrun
    rw [hrequests, hresults]
    constructor
    · rw [List.length_append, List.length_append]
      omega
    · intro j
      rw [hcontent j, hucontent j, writesOf_append hnow, PartialWrite.kept_forFile_append,
        List.append_assoc]

/-- The opening of files that are closed succeeds only if all of them are empty then. -/
theorem openLogFiles_ok {opened : Fin 5 → Bool} {is : List (Fin 5)} {files files' : Fin 5 → File}
    (hnodup : is.Nodup) (hclosed : ∀ i ∈ is, (files i).isOpen = false)
    (h : openLogFiles opened is files = (.ok (), files')) :
    (∀ i ∈ is, files' i = ⟨true, []⟩) ∧ ∀ i ∉ is, files' i = files i := by
  induction is generalizing files with
  | nil =>
    obtain rfl := (Prod.mk.inj h).2
    exact ⟨by simp, fun _ _ => rfl⟩
  | cons i is ih =>
    obtain ⟨hi, hrest⟩ := List.nodup_cons.mp hnodup
    have hfile := hclosed i List.mem_cons_self
    cases hopened : opened i with
    | false => simp [openLogFiles, File.open, hfile, hopened] at h
    | true =>
      simp only [openLogFiles, File.open, hfile, hopened, Bool.false_eq_true, if_false,
        if_true] at h
      have hclosed' : ∀ k ∈ is, (Function.update files i ⟨true, []⟩ k).isOpen = false := by
        intro k hk
        rw [Function.update_of_ne (by rintro rfl; exact hi hk)]
        exact hclosed k (List.mem_cons_of_mem _ hk)
      obtain ⟨hin, hout⟩ := ih hrest hclosed' h
      constructor
      · intro k hk
        by_cases hmem : k ∈ is
        · exact hin k hmem
        · obtain rfl := (List.mem_cons.mp hk).resolve_right hmem
          rw [hout k hmem, Function.update_self]
      · intro k hk
        rw [List.mem_cons, not_or] at hk
        rw [hout k hk.2, Function.update_of_ne hk.1]

/-- A thread that gets to the terminator has filled the logs with what its writes have taken. -/
theorem loggerThread_terminated {disk : Fin 5 → Bytes} {opened : Fin 5 → Bool}
    {getLoggerMQ : Except StdException Unit} {terminator : LoggerMQMessage}
    {results : List WriteResult} (hmsgs : ∀ msg ∈ msgs, msg.senderPID ≠ -1)
    (hterminator : terminator.senderPID = -1)
    (h : (loggerThread putTime disk opened getLoggerMQ (receivedOf msgs terminator)
      results).point = .terminated) :
    (requests putTime msgs).length ≤ results.length ∧ ∀ j, ((loggerThread putTime disk opened
      getLoggerMQ (receivedOf msgs terminator) results).files j).content =
        PartialWrite.kept (PartialWrite.forFile j (writesOf (requests putTime msgs) results)) := by
  unfold loggerThread at h ⊢
  rcases hopen : openLogFiles opened (List.finRange 5) fun i => ⟨false, disk i⟩ with ⟨e | _, files⟩
  · simp [hopen] at h
  have hfiles : files = fun _ => ⟨true, []⟩ := by
    funext i
    exact (openLogFiles_ok (List.nodup_finRange 5) (fun _ _ => rfl) hopen).1 i (List.mem_finRange i)
  rw [hopen, hfiles] at h
  rw [hfiles]
  cases getLoggerMQ with
  | error e => cases h
  | ok _ =>
    rcases hrun : loggerLoop putTime (receivedOf msgs terminator) ⟨fun _ => ⟨true, []⟩, results⟩
      with ⟨point, t⟩
    dsimp only at h ⊢
    rw [hrun] at h ⊢
    obtain rfl : point = .terminated := by
      cases point with
      | terminated => rfl
      | waiting => cases h
      | caught e => cases h
      | crashed => cases h
    exact loggerLoop_terminated (fun _ => rfl) hmsgs hterminator hrun

/-- The logs are complete if and only if each file holds what the writes ask of it. -/
theorem logComplete_iff {files : Fin 5 → File} {results : List WriteResult}
    (hlength : (requests putTime msgs).length ≤ results.length) :
    LogComplete putTime msgs files ↔ ∀ j, (files j).content =
      PartialWrite.asked (PartialWrite.forFile j (writesOf (requests putTime msgs) results)) := by
  constructor
  · intro h j
    rw [asked_writesOf hlength]
    by_cases hj : j = 0
    · rw [hj, requests_main]
      exact h.main
    · have hroles : ∀ j : Fin 5, j ≠ 0 → ∃ p ∈ roleFiles, p.2 = j := by decide
      obtain ⟨p, hp, rfl⟩ := hroles j hj
      rw [requests_role putTime msgs hp]
      exact h.role p hp
  · intro h
    constructor
    · rw [h 0, asked_writesOf hlength, requests_main]
    · intro p hp
      rw [h p.2, asked_writesOf hlength, requests_role putTime msgs hp]

/-- A thread that gets to the terminator has written complete logs if and only if no write was
short. -/
theorem logComplete_iff_noShortWrite (putTime : ℤ → Bytes) (disk : Fin 5 → Bytes)
    (opened : Fin 5 → Bool) (getLoggerMQ : Except StdException Unit) {msgs : List LoggerMQMessage}
    {terminator : LoggerMQMessage} (hmsgs : ∀ msg ∈ msgs, msg.senderPID ≠ -1)
    (hterminator : terminator.senderPID = -1) (results : List WriteResult)
    (h : (loggerThread putTime disk opened getLoggerMQ (receivedOf msgs terminator)
      results).point = .terminated) :
    LogComplete putTime msgs (loggerThread putTime disk opened getLoggerMQ
      (receivedOf msgs terminator) results).files ↔ NoShortWrite putTime msgs results := by
  obtain ⟨hlength, hcontent⟩ := loggerThread_terminated hmsgs hterminator h
  rw [logComplete_iff hlength, NoShortWrite, ← PartialWrite.kept_forFile_eq_asked_iff]
  simp only [hcontent]

/-- A message of a cashier with PID 7, whose text is the letter a. -/
def cashierMessage : LoggerMQMessage := ⟨7, .cashier, 0, fun k => if k.val = 0 then 97 else 0⟩

def endMessage : LoggerMQMessage := ⟨-1, .main, 0, fun _ => 0⟩

/-- The run with the results of its writes. -/
def cashierRun (results : List WriteResult) : LoggerRun :=
  loggerThread (fun _ => [48]) (fun _ => []) (fun _ => true) (.ok ())
    (receivedOf [cashierMessage] endMessage) results

theorem fullWrites_complete : LogComplete (fun _ => [48]) [cashierMessage]
    (cashierRun [.written 11, .written 11]).files :=
  (logComplete_iff_noShortWrite (fun _ => [48]) (fun _ => []) (fun _ => true) (.ok ())
    (by decide) rfl [.written 11, .written 11] (by decide +kernel)).mpr (by decide +kernel)

/-- A disk that takes five of the eleven bytes leaves the main log with them, and no error. -/
theorem shortWrite_loses :
    (cashierRun [.written 5, .written 11]).point = .terminated ∧
    (cashierRun [.written 5, .written 11]).status = 1 ∧
    ((cashierRun [.written 5, .written 11]).files 0).content = [91, 48, 93, 32, 40] ∧
    ((cashierRun [.written 5, .written 11]).files 1).content =
      [91, 48, 93, 32, 40, 55, 41, 58, 32, 97, 10] ∧
    ¬ LogComplete (fun _ => [48]) [cashierMessage]
      (cashierRun [.written 5, .written 11]).files := by
  have hmain : ((cashierRun [.written 5, .written 11]).files 0).content = [91, 48, 93, 32, 40] := by
    decide +kernel
  refine ⟨by decide +kernel, by decide +kernel, hmain, by decide +kernel, ?_⟩
  intro h
  have hcomplete := h.main
  rw [hmain] at hcomplete
  have hlength := congrArg List.length hcomplete
  revert hlength
  decide +kernel

end AmusementPark.Logger
