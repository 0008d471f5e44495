import AmusementPark.Library.Format
import AmusementPark.Logger.LogMessage

/-! # Reading the log

The lines that `CreateLogMessage` writes, as a format: a time up to its closing
bracket, the process identifier, and the text up to the end of the line.
-/
namespace AmusementPark.Logger
open Library

/-- The bytes of a literal. -/
def ascii (text : String) : Bytes := text.toList.map Char.toUInt8

/-! ## Numbers -/

/-- A number of `std::to_string` or of a stream, without its sign. -/
def digits : Format UInt8 ℕ :=
  .word (fun b => (Char.ofUInt8 b).isDigit) (fun n => (Nat.toDigits 10 n).map Char.toUInt8)
    fun text => if text = [] then none
      else some (Nat.ofDigitChars 10 (text.map Char.ofUInt8) 0)

/-- An `int`, as `decimal` writes it. -/
def number : Format UInt8 ℤ where
  print := decimal
  read input := match input with
    | [] => none
    | b :: rest => if b = 45 then (digits.read rest).map fun (n, rest) => (-(n : ℤ), rest)
        else (digits.read (b :: rest)).map fun (n, rest) => ((n : ℤ), rest)

/-- What follows a number does not begin with a digit. -/
def EndsNumber (rest : Bytes) : Prop := ∀ b ∈ rest.head?, (Char.ofUInt8 b).isDigit = false

theorem ofUInt8_toUInt8 {c : Char} (h : c.isDigit = true) : Char.ofUInt8 c.toUInt8 = c := by
  simp only [Char.isDigit, Bool.and_eq_true, decide_eq_true_eq] at h
  have hle : c.val.toNat ≤ 57 := UInt32.le_iff_toNat_le.mp h.2
  apply Char.ext
  apply UInt32.toNat_inj.mp
  change c.val.toUInt8.toUInt32.toNat = c.val.toNat
  rw [UInt8.toNat_toUInt32, UInt32.toNat_toUInt8]
  exact Nat.mod_eq_of_lt (by omega)

/-- The digits of a number are digits again when they are read. -/
theorem isDigit_of_mem_digits {n : ℕ} {b : UInt8} (h : b ∈ digits.print n) :
    (Char.ofUInt8 b).isDigit = true := by
  obtain ⟨c, hc, rfl⟩ := List.mem_map.mp h
  have hdigit := Nat.isDigit_of_mem_toDigits (by omega) (by omega) hc
  rwa [ofUInt8_toUInt8 hdigit]

theorem readsBack_digits (n : ℕ) : digits.ReadsBack EndsNumber n := by
  refine Format.readsBack_word (fun b hb => isDigit_of_mem_digits hb) ?_
  have hne : (Nat.toDigits 10 n).map Char.toUInt8 ≠ [] := by simp
  have hback : ((Nat.toDigits 10 n).map Char.toUInt8).map Char.ofUInt8 = Nat.toDigits 10 n := by
    rw [List.map_map]
    nth_rewrite 2 [← List.map_id (Nat.toDigits 10 n)]
    apply List.map_congr_left
    intro c hc
    exact ofUInt8_toUInt8 (Nat.isDigit_of_mem_toDigits (by omega) (by omega) hc)
  simp only [if_neg hne, hback, Nat.ofDigitChars_ten_toDigits]

theorem decimal_of_neg {n : ℤ} (h : n < 0) : decimal n = 45 :: digits.print n.natAbs := by
  rw [decimal, if_pos h]
  rfl

theorem decimal_of_nonneg {n : ℤ} (h : ¬ n < 0) : decimal n = digits.print n.natAbs := by
  rw [decimal, if_neg h]
  rfl

theorem readsBack_number (n : ℤ) : number.ReadsBack EndsNumber n := by
  intro rest hrest
  have hdigits := readsBack_digits n.natAbs rest hrest
  change number.read (decimal n ++ rest) = some (n, rest)
  by_cases hn : n < 0
  · have habs : -(n.natAbs : ℤ) = n := by omega
    rw [decimal_of_neg hn, List.cons_append]
    change (digits.read _).map _ = _
    rw [hdigits, Option.map_some]
    exact congrArg (fun m => some (m, rest)) habs
  · have habs : (n.natAbs : ℤ) = n := by omega
    have hne : digits.print n.natAbs ≠ [] := by simp [digits, Format.word]
    obtain ⟨b, text, htext⟩ := List.exists_cons_of_ne_nil hne
    have hb : b ≠ 45 := by
      rintro rfl
      have hsign := isDigit_of_mem_digits (n := n.natAbs) (b := 45) (by rw [htext]; simp)
      exact absurd hsign (by decide)
    rw [decimal_of_nonneg hn]
    rw [htext, List.cons_append] at hdigits ⊢
    change (if b = 45 then _ else (digits.read _).map _) = _
    rw [if_neg hb, hdigits, Option.map_some]
    exact congrArg (fun m => some (m, rest)) habs

/-! ## Lines -/

/-- A line of a log. -/
structure LogEntry where
  time : Bytes
  senderPID : Pid
  text : Bytes
deriving DecidableEq

/-- `[time] (pid): text`. -/
def logLine : Format UInt8 LogEntry :=
  ((Format.upTo 93).seq ((number.seq ((Format.upTo 10).before (ascii "): "))).before
    (ascii " ("))).before (ascii "[") |>.via (fun e => (e.time, e.senderPID, e.text))
      fun p => ⟨p.1, p.2.1, p.2.2⟩

/-- What the log shows of a message. -/
def entryOf (putTime : ℤ → Bytes) (message : LoggerMQMessage) : LogEntry :=
  ⟨putTime message.timestamp, message.senderPID, cString message.message⟩

theorem createLogMessage_eq_print (putTime : ℤ → Bytes) (message : LoggerMQMessage) :
    createLogMessage putTime message = logLine.print (entryOf putTime message) := by
  have hopen : ascii "[" = [91] := rfl
  have hpid : ascii " (" = [32, 40] := rfl
  have htext : ascii "): " = [41, 58, 32] := rfl
  simp only [createLogMessage, logLine, entryOf, Format.via, Format.before, Format.seq,
    Format.upTo, number, hopen, hpid, htext, List.append_assoc, List.cons_append, List.nil_append]

theorem readsBack_logLine {e : LogEntry} (htime : 93 ∉ e.time) (htext : 10 ∉ e.text) :
    logLine.ReadsBack (fun _ => True) e := by
  refine Format.ReadsBack.via ?_ rfl
  refine Format.ReadsBack.before ?_ _
  refine Format.ReadsBack.seq (Format.readsBack_upTo htime fun _ => True) ?_ fun _ _ => trivial
  refine Format.ReadsBack.before ?_ _
  refine Format.ReadsBack.seq (readsBack_number e.senderPID)
    ((Format.readsBack_upTo htext fun _ => True).before _) ?_
  -- the number ends at the closing bracket
  intro rest _ b hb
  obtain rfl : (41 : UInt8) = b := Option.some.inj hb
  decide

/-- The messages of a log, if its text is one. -/
def readLog (content : Bytes) : Option (List LogEntry) := logLine.readAll content

/-- A text of lines without a bracket in the time or an end of line in the message is read back. -/
theorem readLog_flatMap {putTime : ℤ → Bytes} (htime : ∀ time, 93 ∉ putTime time)
    {msgs : List LoggerMQMessage} (htext : ∀ msg ∈ msgs, 10 ∉ cString msg.message) :
    readLog (msgs.flatMap (createLogMessage putTime)) = some (msgs.map (entryOf putTime)) := by
  have hlines : msgs.flatMap (createLogMessage putTime) =
      (msgs.map (entryOf putTime)).flatMap logLine.print := by
    rw [List.flatMap_map]
    exact List.flatMap_congr fun msg _ => createLogMessage_eq_print putTime msg
  rw [hlines]
  apply Format.readAll_flatMap
  intro e he
  obtain ⟨msg, hmsg, rfl⟩ := List.mem_map.mp he
  refine ⟨readsBack_logLine (htime _) (htext msg hmsg), ?_⟩
  simp [logLine, Format.via, Format.before, ascii]

example : readLog (ascii "[12:00] (7): open\n[12:01] (-3): closed\n") = some
    [⟨ascii "12:00", 7, ascii "open"⟩, ⟨ascii "12:01", -3, ascii "closed"⟩] := by decide

end AmusementPark.Logger
