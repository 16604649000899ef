/-
What the log of requests remembers: the last of the messages that came in, each as it was before it was answered.

Half of the log is dropped whenever it is full, so how long it is depends on how many messages came in (`kept`). `submitted` is
the whole history, as far back as the log was last cleared. Only an exchange adds to the log and only clearing it takes
messages away (`step_requests`), so `run_remembers` follows from what one message does (`Remembers.logRequest`).
-/
import MailboxCursor.Proofs.Firmware.Turn
import Mathlib.Data.List.DropRight

namespace MailboxCursor.Firmware

/-- the message that a step brings in -/
def Step.message? : Step → Option Message
  | exchange m => some m
  | _ => none

/-- the messages that came in since the log was new or last cleared, oldest first -/
def submitted (steps : List Step) : List Message :=
  (steps.rtakeWhile fun s => s ≠ .set .clearRequests).filterMap Step.message?

/-- how many of `n` messages the log still holds -/
def kept (n : Nat) : Nat :=
  if n ≤ 4096 then n else 2049 + (n - 4097) % 2048

/-- the log is what is left of the messages `all` -/
structure Remembers (fw : Firmware) (all : List Message) : Prop where
  /-- the last of them, in order and unchanged -/
  log : fw.requests.toList = all.rtake (kept all.length)
  size : fw.requests.size = kept all.length
  bounded : fw.requests.size ≤ 4096
  latest : fw.requests.back? = all.getLast?
  /-- a log by tag leaves out the messages for other tags, and no others -/
  tagged : ∀ tag : Tag, fw.requestsFor tag = (all.rtake (kept all.length)).filter fun m => m.tag = tag.id

variable {fw : Firmware} {all : List Message}

/-! ## How long the log is -/

theorem kept_le (n : Nat) : kept n ≤ n := by
  unfold kept
  split_ifs <;> omega

theorem kept_le_capacity (n : Nat) : kept n ≤ requestLogCapacity := by
  unfold kept requestLogCapacity
  split_ifs <;> omega

/-- The log grows by one message, and by one over the newer half when it is full. -/
theorem kept_succ (n : Nat) :
    kept (n + 1) = (if requestLogCapacity ≤ kept n then requestLogCapacity / 2 else kept n) + 1 := by
  unfold kept requestLogCapacity
  split_ifs <;> omega

theorem rtake_drop {α : Type} (l : List α) {j k : Nat} (hk : k ≤ l.length) : (l.rtake k).drop j = l.rtake (k - j) := by
  unfold List.rtake
  rw [List.drop_drop]
  by_cases hj : j ≤ k
  · congr 1
    omega
  · rw [List.drop_of_length_le (by omega), List.drop_of_length_le (by omega)]

/-- Everything that is to be known of the log follows from what it holds. -/
theorem Remembers.of_log (h : fw.requests.toList = all.rtake (kept all.length)) : fw.Remembers all := by
  have hsize : fw.requests.size = kept all.length := by
    have hle := kept_le all.length
    rw [← Array.length_toList, h, List.rtake, List.length_drop]
    omega
  refine ⟨h, hsize, hsize.trans_le (kept_le_capacity _), ?_, fun tag => ?_⟩
  · rw [← Array.getLast?_toList, h]
    rcases List.eq_nil_or_concat' all with rfl | ⟨earlier, m, rfl⟩
    · rfl
    · rw [List.length_append, List.length_singleton, kept_succ, List.rtake_concat_succ, List.getLast?_concat,
        List.getLast?_concat]
  · unfold requestsFor
    rw [h]
    exact List.filter_congr fun m _ => by rw [Bool.beq_eq_decide_eq]

/-! ## What a step does to the log -/

/-- One message more, with the older half of a full log dropped before it. -/
theorem Remembers.logRequest (h : fw.Remembers all) (m : Message) : (fw.logRequest m).Remembers (all ++ [m]) := by
  refine .of_log ?_
  rw [List.length_append, List.length_singleton, kept_succ, List.rtake_concat_succ]
  unfold Firmware.logRequest
  rw [Array.toList_push, h.size]
  congr 1
  by_cases hfull : requestLogCapacity ≤ kept all.length
  · have hlength : kept all.length = requestLogCapacity := le_antisymm (kept_le_capacity _) hfull
    rw [if_pos hfull, if_pos hfull, Array.toList_extract, List.extract_eq_take_drop, h.log, rtake_drop all (kept_le _),
      List.take_of_length_le, hlength]
    · rfl
    · rw [List.rtake, List.length_drop]
      omega
  · rw [if_neg hfull, if_neg hfull, h.log]

theorem openWindow_requests (fw : Firmware) (bus : BusAddress) (len : UInt64) :
    (fw.openWindow bus len).device.requests = fw.requests := by
  rcases fw.openWindow_cases bus len with ⟨e, -, hafter⟩ | ⟨b, -, -, -, hafter⟩
  · rw [hafter]
  · rw [hafter]

theorem closeWindow_requests (fw : Firmware) (w : Window) : (fw.closeWindow w).device.requests = fw.requests := by
  rcases fw.closeWindow_cases w with ⟨e, -, hafter⟩ | ⟨b, -, -, -, hafter⟩
  · rw [hafter]
  · rw [hafter]

theorem write_requests (fw : Firmware) (w : Window) (offset : Nat) (bytes : List UInt8) :
    (fw.write w offset bytes).requests = fw.requests := by
  unfold Firmware.write
  split <;> rfl

theorem set_requests (fw : Firmware) {s : Setting} (hclear : s ≠ .clearRequests) : (fw.set s).requests = fw.requests := by
  cases s with
  | clearRequests => exact absurd rfl hclear
  | _ => rfl

/-- What a step does to the log: it brings a message in, or clears the log, or leaves it alone. -/
theorem step_requests (fw : Firmware) (s : Step) :
    (fw.step s).requests =
      if s = .set .clearRequests then #[]
      else match s.message? with
        | some m => (fw.logRequest m).requests
        | none => fw.requests := by
  cases s with
  | exchange m => exact fw.exchange_requests m
  | openWindow bus len => exact fw.openWindow_requests bus len
  | closeWindow w => exact fw.closeWindow_requests w
  | write w offset bytes => exact fw.write_requests w offset bytes
  | set s =>
    by_cases hclear : s = .clearRequests
    · rw [hclear]
      rfl
    · rw [if_neg fun h => hclear (Step.set.inj h)]
      exact fw.set_requests hclear

theorem submitted_concat (steps : List Step) (s : Step) :
    submitted (steps ++ [s]) =
      if s = .set .clearRequests then [] else submitted steps ++ s.message?.toList := by
  unfold submitted
  rw [List.rtakeWhile_concat]
  by_cases hclear : s = .set .clearRequests
  · simp [hclear]
  · simp only [hclear, ne_eq, not_false_eq_true, decide_true, if_true, if_false, List.filterMap_append]
    cases s <;> rfl

theorem Remembers.step {steps : List Step} (h : fw.Remembers (submitted steps)) (s : Step) :
    (fw.step s).Remembers (submitted (steps ++ [s])) := by
  rw [submitted_concat]
  by_cases hclear : s = .set .clearRequests
  · rw [if_pos hclear, hclear]
    exact .of_log rfl
  have hrequests := fw.step_requests s
  rw [if_neg hclear] at hrequests ⊢
  refine .of_log ?_
  rw [hrequests]
  cases s.message? with
  | none =>
    rw [Option.toList_none, List.append_nil]
    exact h.log
  | some m => exact (h.logRequest m).log

/-- **The log is a bounded end of the history, however a firmware is used.** After any messages, whichever of them failed, and
any windows, writes, faults and settings between them: the log holds the last of the messages that came in since it was new or
last cleared, all of them up to 4096 and then between 2049 and 4096 of them, in order and as they were before they were answered.
The latest message is always there, and the log for a tag is the log without the messages for other tags. -/
theorem run_remembers (id : Nat) (steps : List Step) : ((fresh id).run steps).Remembers (submitted steps) := by
  -- from the end of the run, since clearing the log forgets what came before
  induction steps using List.reverseRecOn with
  | nil => exact .of_log rfl
  | append_singleton steps s ih =>
    rw [run, List.foldl_append]
    exact ih.step s

end MailboxCursor.Firmware
