/-
Any number of firmwares side by side, with the accounts of each.

An `Account` is a firmware with everything that was achieved on it. In a `Ledger` there is one for each device, and `act` is one
call at one of them: a message, a window opened, a change of settings, or a window that is out, handed to any device to be
closed.

`Ledger.run_balanced`: whatever the calls, as long as no device has made so many blocks that its handles come round, the counts
of every block are those of the calls, no window that is out dangles, closing one at another device is without effect, and a
block is released just when nobody holds it. Every call keeps the accounts (`Ledger.act_audited`), so every run does.
-/
import MailboxCursor.Proofs.Firmware.Audit

namespace MailboxCursor

open Firmware (Entry Step)

/-! ## Releasing a block -/

namespace Firmware

variable {fw : Firmware} {m : Message}

/-- the message is whole, and names a block that is neither locked nor mapped -/
def Releasable (fw : Firmware) (m : Message) : Prop :=
  m.sizeBytes.toNat = m.len * 4 ∧ 1 ≤ m.requestPayload.length ∧
    ∃ b ∈ fw.blocks, b.handle = m.requestPayload.getD 0 0 ∧ b.locks = 0 ∧ b.mappings = 0

theorem release_of_releasable (h : BusSpace fw.blocks fw.nextHandle) {b : Block} (hb : b ∈ fw.blocks)
    (hlocks : b.locks = 0) (hmappings : b.mappings = 0) :
    fw.release b.handle = ({ fw with blocks := Blocks.erase fw.blocks b.handle }, statusOk) := by
  have hheld : ¬(b.isLocked || b.mappings != 0) = true := by simp [Block.isLocked, hlocks, hmappings]
  unfold release
  rw [h.table.find?_handle hb]
  dsimp only
  rw [if_neg hheld]

theorem release_of_held {handle : UInt32}
    (h : ¬∃ b ∈ fw.blocks, b.handle = handle ∧ b.locks = 0 ∧ b.mappings = 0) :
    fw.release handle = (fw, statusError) := by
  unfold release
  cases hfind : Blocks.find? fw.blocks handle with
  | none => rfl
  | some b =>
    obtain ⟨hb, hhandle⟩ := Blocks.mem_of_find? hfind
    dsimp only
    rw [if_pos]
    by_contra hfree
    simp only [Block.isLocked, Bool.or_eq_true, bne_iff_ne, ne_eq, not_or, not_not] at hfree
    exact h ⟨b, hb, hhandle, hfree⟩

/-- A block is released, and said to be, just when the message says so and nobody holds the block; else nothing changes. -/
theorem exchange_release (h : BusSpace fw.blocks fw.nextHandle) (htag : m.tag = Tag.releaseMemory.id)
    (hfault : fw.isFaulty m.tag = false) :
    fw.Releasable m ∧ (fw.exchange m).word m = .ok statusOk ∧
        (fw.exchange m).device.blocks = Blocks.erase fw.blocks (m.requestPayload.getD 0 0) ∨
      ¬fw.Releasable m ∧ (fw.exchange m).word m ≠ .ok statusOk ∧ (fw.exchange m).device.blocks = fw.blocks := by
  have ht : Tag.ofWord? m.tag = some .releaseMemory := by rw [htag, Tag.ofWord?_id]
  by_cases hwhole : m.sizeBytes.toNat = m.len * 4 ∧ 1 ≤ m.requestPayload.length
  swap
  · right
    have hbad : m.sizeBytes.toNat = m.len * 4 → m.requestPayload.length < Tag.releaseMemory.requestWords := by
      intro hsize
      exact not_le.1 fun hlen => hwhole ⟨hsize, hlen⟩
    obtain ⟨e, he⟩ := word_of_malformed hfault ht hbad
    rw [he, exchange_of_malformed hfault ht hbad]
    exact ⟨fun hfree => hwhole ⟨hfree.1, hfree.2.1⟩, nofun, rfl⟩
  have haccepts : fw.accepts? m = some (.releaseMemory, m.requestPayload) :=
    accepts?_eq_some_iff.2 ⟨hfault, hwhole.1, ht, rfl, hwhole.2, rfl⟩
  have hroom : Tag.releaseMemory.responseWords ≤ m.valueWords := hwhole.2.trans m.length_requestPayload_le
  have hact : fw.act .releaseMemory m.requestPayload =
    ((fw.release (m.requestPayload.getD 0 0)).1, [(fw.release (m.requestPayload.getD 0 0)).2]) := rfl
  rw [word_of_accepts haccepts hroom, exchange_of_accepts haccepts, hact]
  by_cases hfree : ∃ b ∈ fw.blocks, b.handle = m.requestPayload.getD 0 0 ∧ b.locks = 0 ∧ b.mappings = 0
  · left
    obtain ⟨b, hb, hhandle, hlocks, hmappings⟩ := hfree
    refine ⟨⟨hwhole.1, hwhole.2, b, hb, hhandle, hlocks, hmappings⟩, ?_⟩
    rw [← hhandle, release_of_releasable h hb hlocks hmappings]
    exact ⟨rfl, rfl⟩
  · right
    rw [release_of_held hfree]
    have hstatus : statusError ≠ statusOk := by decide
    exact ⟨fun h => hfree h.2.2, fun heq => hstatus (Except.ok.inj heq), rfl⟩

end Firmware

/-! ## Accounts of many devices -/

/-- a firmware with what was achieved on it, the newest first -/
structure Account where
  firmware : Firmware
  entries : List Entry

namespace Account

def post (a : Account) (s : Step) : Account :=
  ⟨a.firmware.step s, (a.firmware.achieved? s).toList ++ a.entries⟩

/-- the windows that were handed out and not taken back -/
def out (a : Account) : List Window :=
  Entry.out a.entries

def allocations (a : Account) : Nat :=
  Entry.allocations a.entries

/-- fewer allocations than there are handles -/
def IsYoung (a : Account) : Prop :=
  a.allocations < 2 ^ 32 - 1

variable {a : Account}

theorem allocations_post (a : Account) (s : Step) :
    a.allocations ≤ (a.post s).allocations ∧ (a.post s).allocations ≤ a.allocations + 1 := by
  unfold allocations post Entry.allocations
  dsimp only
  rw [List.countP_append]
  have hone : (a.firmware.achieved? s).toList.countP Entry.allocates ≤ 1 :=
    List.countP_le_length.trans (Option.length_toList_le)
  omega

/-- A call keeps the accounts, if the handles have not come round and a window that it takes back was out. -/
theorem post_audited (h : Audited a.firmware a.entries) {s : Step}
    (hout : ∀ handle w, a.firmware.achieved? s = some (.unmapped handle w) → w ∈ a.out) (hyoung : (a.post s).IsYoung) :
    Audited (a.post s).firmware (a.post s).entries :=
  h.turn (Firmware.step_turn h.space s) (a.firmware.step_id s) rfl rfl hout hyoung

end Account

/-- one account for each device -/
abbrev Ledger : Type := Nat → Account

namespace Ledger

/-- devices that nobody has used -/
def new : Ledger :=
  fun n => ⟨.fresh n, []⟩

def post (l : Ledger) (n : Nat) (s : Step) : Ledger :=
  Function.update l n ((l n).post s)

/-- a window can be closed only while it is out -/
def allows (l : Ledger) : Step → Bool
  | .closeWindow w => (l w.owner).out.contains w
  | _ => true

/-- one call at one device -/
def act (l : Ledger) (call : Nat × Step) : Ledger :=
  if l.allows call.2 then l.post call.1 call.2 else l

def run (l : Ledger) (calls : List (Nat × Step)) : Ledger :=
  calls.foldl act l

/-- fewer allocations at each device than there are handles -/
def IsYoung (l : Ledger) : Prop :=
  ∀ n, (l n).IsYoung

def Audited (l : Ledger) : Prop :=
  ∀ n, (l n).firmware.id = n ∧ ((l n).IsYoung → MailboxCursor.Audited (l n).firmware (l n).entries)

variable {l : Ledger}

theorem audited_new : new.Audited := by
  intro n
  exact ⟨rfl, fun _ => .fresh n⟩

theorem post_audited (h : l.Audited) {n : Nat} {s : Step}
    (hout : ∀ handle w, (l n).firmware.achieved? s = some (.unmapped handle w) → w ∈ (l n).out) :
    (l.post n s).Audited := by
  intro k
  by_cases hk : k = n
  · subst hk
    unfold post
    rw [Function.update_self]
    refine ⟨((l k).firmware.step_id s).trans (h k).1, fun hyoung => ?_⟩
    have hbefore : (l k).IsYoung := lt_of_le_of_lt ((l k).allocations_post s).1 hyoung
    exact Account.post_audited ((h k).2 hbefore) hout hyoung
  · unfold post
    rw [Function.update_of_ne hk]
    exact h k

/-- **Every call keeps the accounts.** -/
theorem act_audited (h : l.Audited) (call : Nat × Step) : (l.act call).Audited := by
  unfold act
  split_ifs with hallows
  · apply post_audited h
    intro handle w hentry
    obtain ⟨hcall, howner⟩ := Firmware.of_achieved?_unmapped hentry
    rw [hcall] at hallows
    rw [(h call.1).1] at howner
    rw [← howner]
    exact List.contains_iff_mem.1 hallows
  · exact h

theorem run_audited (h : l.Audited) (calls : List (Nat × Step)) : (l.run calls).Audited := by
  induction calls generalizing l with
  | nil => exact h
  | cons c calls ih => exact ih (act_audited h c)

/-! ## What the accounts show -/

/-- The counts of every block are those of the calls, and what is out can be relied on. -/
structure Balanced (l : Ledger) : Prop where
  /-- a block has as many mappings as windows onto it were handed out and not taken back -/
  mappings : ∀ n, ∀ b ∈ (l n).firmware.blocks,
    (l n).entries.countP (Entry.maps b.handle) = (l n).entries.countP (Entry.unmaps b.handle) + b.mappings
  /-- and these are the windows that are out and have the block's start for their base -/
  held : ∀ n, ∀ b ∈ (l n).firmware.blocks, (l n).out.countP (Window.isOnto n b) = b.mappings
  /-- a block has been locked so much oftener than unlocked as it has locks -/
  locks : ∀ n, ∀ b ∈ (l n).firmware.blocks,
    (l n).entries.countP (Entry.locks b.handle) = (l n).entries.countP (Entry.unlocks b.handle) + b.locks.toNat
  /-- a window that is out is held by one block of its device -/
  anchored : ∀ n, ∀ w ∈ (l n).out, ∃ b, (l n).firmware.Anchors b w
  /-- no other device takes it back -/
  foreign : ∀ n, ∀ w ∈ (l n).out, ∀ k ≠ n, (l k).firmware.closeWindow w =
    ⟨.error (.unmapFailed w.bus w.len (.other "region not mapped here")), (l k).firmware, []⟩
  /-- a block is released when nobody holds it, and no message for that purpose does anything else -/
  released : ∀ n (m : Message), m.tag = Tag.releaseMemory.id → (l n).firmware.isFaulty m.tag = false →
    (l n).firmware.Releasable m ∧ ((l n).firmware.exchange m).word m = .ok Firmware.statusOk ∧
        ((l n).firmware.exchange m).device.blocks =
          Blocks.erase (l n).firmware.blocks (m.requestPayload.getD 0 0) ∨
      ¬(l n).firmware.Releasable m ∧ ((l n).firmware.exchange m).word m ≠ .ok Firmware.statusOk ∧
        ((l n).firmware.exchange m).device.blocks = (l n).firmware.blocks

theorem Audited.balanced (h : l.Audited) (hyoung : l.IsYoung) : l.Balanced where
  mappings n b hb := (((h n).2 (hyoung n)).tallied b hb).mappings
  held n b hb := by
    have hheld := (((h n).2 (hyoung n)).tallied b hb).held
    rw [(h n).1] at hheld
    exact hheld
  locks n b hb := (((h n).2 (hyoung n)).tallied b hb).locks
  anchored n w hw := ((h n).2 (hyoung n)).anchors hw
  foreign n w hw k hk := by
    apply Firmware.closeWindow_of_owner_ne
    rw [(((h n).2 (hyoung n)).placed w hw).1, (h n).1, (h k).1]
    exact hk.symm
  released n m htag hfault := Firmware.exchange_release ((h n).2 (hyoung n)).space htag hfault

/-- **No window dangles.** After any calls at any number of devices that nobody had used, with fewer than `2 ^ 32 - 1`
allocations that succeeded at any of them: the counts of every block are those of the calls, and each window that was handed out
and not taken back lies in one block of its device, which stays until it is closed there. -/
theorem run_balanced (calls : List (Nat × Step)) (hyoung : (new.run calls).IsYoung) : (new.run calls).Balanced :=
  (run_audited audited_new calls).balanced hyoung

/-! ### How often a ledger allocates -/

theorem act_allocations (l : Ledger) (call : Nat × Step) (k : Nat) :
    (l.act call k).allocations ≤ (l k).allocations + 1 := by
  unfold act
  split_ifs
  · unfold post
    by_cases hk : k = call.1
    · subst hk
      rw [Function.update_self]
      exact ((l call.1).allocations_post call.2).2
    · rw [Function.update_of_ne hk]
      exact Nat.le_succ _
  · exact Nat.le_succ _

theorem run_allocations (l : Ledger) (calls : List (Nat × Step)) (k : Nat) :
    (l.run calls k).allocations ≤ (l k).allocations + calls.length := by
  induction calls generalizing l with
  | nil => exact le_refl _
  | cons c calls ih =>
    calc (l.run (c :: calls) k).allocations
        ≤ (l.act c k).allocations + calls.length := ih (l.act c)
      _ ≤ (l k).allocations + 1 + calls.length := Nat.add_le_add_right (l.act_allocations c k) _
      _ = (l k).allocations + (c :: calls).length := by rw [List.length_cons]; omega

/-- Few calls leave a ledger young. -/
theorem isYoung_run_new (calls : List (Nat × Step)) (h : calls.length < 2 ^ 32 - 1) : (new.run calls).IsYoung := by
  intro n
  calc (new.run calls n).allocations
      ≤ 0 + calls.length := new.run_allocations calls n
    _ = calls.length := Nat.zero_add _
    _ < 2 ^ 32 - 1 := h

/-- requests to the device 0 -/
def asked (requests : List (Tag × List UInt32)) : List (Nat × Step) :=
  requests.flatMap fun r => (Message.request r.1 r.2).toOption.toList.map fun m => (0, .exchange m)

/-- two windows onto one block, one of them handed to the wrong device before it is closed; the block is not released -/
def crossedCalls : List (Nat × Step) :=
  asked [(.allocateMemory, [16, 4096, 0]), (.lockMemory, [1])] ++
    [(0, .openWindow ⟨0xde000000⟩ 16), (0, .openWindow ⟨0xde000004⟩ 8),
      (1, .closeWindow ⟨0, 0xde000000, 16, 4, ⟨0xde000004⟩, 8⟩),
      (0, .closeWindow ⟨0, 0xde000000, 16, 4, ⟨0xde000004⟩, 8⟩)] ++
    asked [(.unlockMemory, [1]), (.releaseMemory, [1])]

theorem run_balanced_crossed :
    (new.run crossedCalls).IsYoung ∧ (new.run crossedCalls).Balanced ∧
      (new.run crossedCalls 0).out = [⟨0, 0xde000000, 16, 0, ⟨0xde000000⟩, 16⟩] ∧
      (new.run crossedCalls 0).firmware.blocks.map (fun b => (b.handle, b.locks, b.mappings)) = [(1, 0, 1)] := by
  have hyoung : (new.run crossedCalls).IsYoung := isYoung_run_new crossedCalls (by decide +kernel)
  exact ⟨hyoung, run_balanced crossedCalls hyoung, by decide +kernel, by decide +kernel⟩

end Ledger
end MailboxCursor
