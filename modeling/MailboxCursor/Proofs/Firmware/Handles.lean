/-
The handles of new blocks: counted up, and given out again once they have come round.

Handles are words, and zero is none, so there are `2 ^ 32 - 1` of them. `Numbered` says where the count stands after so many
allocations; every turn of the table keeps it. `run_grants` is what follows for a request for memory that is answered with a
handle: a block with this handle is added, and every block with another handle stays as it is. As long as there were fewer
allocations than there are handles, no live block had the handle before.

After that a live block may well have it: nothing looks among the live blocks for a handle that is free, and a block whose
handle is given out once more is lost. `handle_given_twice` is a run that ends so.
-/
import MailboxCursor.Proofs.Firmware.Ledger

namespace MailboxCursor

open Firmware (Entry Step Turn)

namespace Firmware

/-! ## Counting handles -/

/-- the number of handles -/
def handleCount : Nat := 2 ^ 32 - 1

/-- Handles are counted up to the highest word, and then from one again. -/
theorem toNat_handleAfter_mod (h : UInt32) : (handleAfter h).toNat = h.toNat % handleCount + 1 := by
  have hword := h.toNat_lt
  unfold handleCount
  by_cases hlast : h.toNat + 1 < 2 ^ 32
  · rw [toNat_handleAfter hlast, Nat.mod_eq_of_lt (by omega)]
  · have hhighest : h.toNat = 2 ^ 32 - 1 := by omega
    have hround : h + 1 = 0 := by
      rw [← UInt32.toNat_inj, UInt32.toNat_add, hhighest]
      rfl
    rw [handleAfter, if_pos hround, hhighest]
    rfl

/-- requests one after the other -/
def asking (requests : List (Tag × List UInt32)) : List Step :=
  requests.flatMap fun r => (Message.request r.1 r.2).toOption.toList.map .exchange

/-! ## A request for memory -/

variable {fw : Firmware} {m : Message} {h : UInt32}

/-- The blocks after a request for memory that was answered with a handle. -/
theorem exchange_of_answered (htag : m.tag = Tag.allocateMemory.id)
    (hasked : m.code ≠ Message.success ∨ fw.isFaulty m.tag = false) (hanswer : (fw.exchange m).word m = .ok h)
    (hsome : h ≠ 0) :
    ∃ b, fw.added? .allocateMemory m.requestPayload = some b ∧ b.handle = h ∧ h = fw.nextHandle ∧
      (fw.exchange m).device.blocks = Blocks.insert b fw.blocks := by
  have ht : Tag.ofWord? m.tag = some .allocateMemory := by rw [htag, Tag.ofWord?_id]
  have haccepts := accepts?_of_word hasked ht rfl hanswer
  obtain ⟨-, -, -, -, hlong, -⟩ := accepts?_eq_some_iff.1 haccepts
  have hroom : Tag.allocateMemory.responseWords ≤ m.valueWords :=
    (show 1 ≤ 3 by decide).trans (hlong.trans m.length_requestPayload_le)
  rw [word_of_accepts haccepts hroom, act_allocateMemory] at hanswer
  have hhandle := Except.ok.inj hanswer
  cases hadded : fw.added? .allocateMemory m.requestPayload with
  | none =>
    rw [hadded] at hhandle
    exact absurd hhandle.symm hsome
  | some b =>
    rw [hadded] at hhandle
    obtain ⟨bus, -, hb, hblocks, -⟩ := act_of_added hadded
    have hnext : b.handle = fw.nextHandle := by rw [hb, newBlock]
    rw [exchange_of_accepts haccepts]
    exact ⟨b, rfl, hhandle, hhandle.symm.trans hnext, hblocks⟩

end Firmware

/-- A block is the one that is found under its handle. -/
theorem BusSpace.mem_iff {bs : List Block} {next : UInt32} (h : BusSpace bs next) {c : Block} :
    c ∈ bs ↔ Blocks.find? bs c.handle = some c :=
  ⟨h.table.find?_handle, fun hfind => (Blocks.mem_of_find? hfind).1⟩

/-! ## Where the count stands -/

/-- the next handle and those of the live blocks, by the number of allocations among the entries -/
structure Numbered (fw : Firmware) (es : List Entry) : Prop where
  space : BusSpace fw.blocks fw.nextHandle
  next : fw.nextHandle.toNat = Entry.allocations es % Firmware.handleCount + 1
  given : ∀ b ∈ fw.blocks, b.handle.toNat ≤ Entry.allocations es

namespace Numbered

variable {fw fw' : Firmware} {es es' : List Entry}

theorem fresh (id : Nat) : Numbered (.fresh id) [] where
  space := Firmware.busSpace_fresh id
  next := rfl
  given := by rintro _ ⟨⟩

/-- The handle that is given out is the number of the allocation, or less once the handles have come round. -/
theorem next_le (h : Numbered fw es) : fw.nextHandle.toNat ≤ Entry.allocations es + 1 := by
  rw [h.next]
  exact Nat.add_le_add_right (Nat.mod_le _ _) 1

/-- Before the handles come round, the next one is higher than any that is in use. -/
theorem older (h : Numbered fw es) (hyoung : Entry.allocations es < Firmware.handleCount) :
    ∀ b ∈ fw.blocks, b.handle < fw.nextHandle := by
  intro b hb
  rw [UInt32.lt_iff_toNat_lt, h.next, Nat.mod_eq_of_lt hyoung]
  exact Nat.lt_succ_of_le (h.given b hb)

/-- Blocks that are changed where they are keep their handles. -/
theorem modify (h : Numbered fw es) (hspace : BusSpace fw'.blocks fw'.nextHandle) {handle : UInt32} {f : Block → Block}
    (hblocks : fw'.blocks = Blocks.modify fw.blocks handle f) (hf : ∀ b, (f b).site = b.site)
    (hnext : fw'.nextHandle = fw.nextHandle) (hcount : Entry.allocations es' = Entry.allocations es) :
    Numbered fw' es' where
  space := hspace
  next := by rw [hnext, h.next, hcount]
  given := by
    rw [hblocks, hcount]
    exact Blocks.forall_modify hf (fun hsite hb => by rw [Block.handle_of_site hsite]; exact hb) h.given

/-- **Every turn of the table keeps the count.** -/
theorem turn (h : Numbered fw es) {e : Option Entry} {bs : List Block} {next : UInt32} (hturn : Turn fw e bs next)
    (hblocks : fw'.blocks = bs) (hnext : fw'.nextHandle = next) : Numbered fw' (e.toList ++ es) := by
  have hspace : BusSpace fw'.blocks fw'.nextHandle := by
    rw [hblocks, hnext]
    exact hturn.busSpace h.space
  cases hturn with
  | quiet handle hf => exact h.modify hspace hblocks (fun b => (hf b).1) hnext rfl
  | allocated hplace flags =>
    have hcount : Entry.allocations (.allocated fw.nextHandle :: es) = Entry.allocations es + 1 :=
      List.countP_cons_of_pos rfl
    refine ⟨hspace, ?_, fun b hb => ?_⟩
    · rw [hnext, Firmware.toNat_handleAfter_mod, h.next]
      show _ = Entry.allocations (.allocated fw.nextHandle :: es) % Firmware.handleCount + 1
      rw [hcount, Nat.mod_add_mod]
    · show _ ≤ Entry.allocations (.allocated fw.nextHandle :: es)
      rw [hcount]
      rw [hblocks] at hb
      rcases Blocks.mem_insert hb with rfl | hb
      · exact h.next_le
      · exact (h.given b hb).trans (Nat.le_succ _)
  | released hb hlocks hmappings =>
    refine ⟨hspace, hnext ▸ h.next, fun c hc => ?_⟩
    rw [hblocks] at hc
    exact h.given c (Blocks.mem_erase.1 hc).1
  | locked => exact h.modify hspace hblocks (fun _ => rfl) hnext rfl
  | unlocked => exact h.modify hspace hblocks (fun _ => rfl) hnext rfl
  | mapped => exact h.modify hspace hblocks (fun _ => rfl) hnext rfl
  | unmapped => exact h.modify hspace hblocks (fun _ => rfl) hnext rfl

end Numbered

namespace Account

/-- the account of a firmware that nobody has used -/
def opened (id : Nat) : Account :=
  ⟨.fresh id, []⟩

def run (a : Account) (steps : List Step) : Account :=
  steps.foldl post a

theorem run_firmware (a : Account) (steps : List Step) : (a.run steps).firmware = a.firmware.run steps := by
  induction steps generalizing a with
  | nil => rfl
  | cons s steps ih => exact ih (a.post s)

theorem run_numbered {a : Account} (h : Numbered a.firmware a.entries) (steps : List Step) :
    Numbered (a.run steps).firmware (a.run steps).entries := by
  induction steps generalizing a with
  | nil => exact h
  | cons s steps ih => exact ih (h.turn (Firmware.step_turn h.space s) rfl rfl)

end Account

/-! ## What is granted -/

/-- what a request for memory that is answered with `h` makes of the firmware `fw`, after `n` allocations -/
structure Grants (fw : Firmware) (n : Nat) (fw' : Firmware) (h : UInt32) : Prop where
  /-- handles are given out in their order, and then from the first again -/
  number : h.toNat = n % Firmware.handleCount + 1
  /-- the new block is neither locked nor mapped, and a block with another handle stays as it is -/
  added : ∃ b, b.handle = h ∧ b.locks = 0 ∧ b.mappings = 0 ∧
    ∀ c, c ∈ fw'.blocks ↔ c = b ∨ c ∈ fw.blocks ∧ c.handle ≠ h
  /-- while there are handles that were never given out, one of these is taken -/
  unused : n < Firmware.handleCount → ∀ c ∈ fw.blocks, c.handle ≠ h

theorem Numbered.grants {fw : Firmware} {es : List Entry} (hn : Numbered fw es) {m : Message} {h : UInt32}
    (htag : m.tag = Tag.allocateMemory.id) (hasked : m.code ≠ Message.success ∨ fw.isFaulty m.tag = false)
    (hanswer : (fw.exchange m).word m = .ok h) (hsome : h ≠ 0) :
    Grants fw (Entry.allocations es) (fw.exchange m).device h := by
  obtain ⟨b, hadded, hhandle, hnext, hblocks⟩ := Firmware.exchange_of_answered htag hasked hanswer hsome
  obtain ⟨bus, -, hb, -⟩ := Firmware.act_of_added hadded
  have hnumber : h.toNat = Entry.allocations es % Firmware.handleCount + 1 := by rw [hnext, hn.next]
  have hspace : BusSpace (fw.exchange m).device.blocks (fw.exchange m).device.nextHandle :=
    Firmware.step_busSpace hn.space (.exchange m)
  refine ⟨hnumber, ⟨b, hhandle, by rw [hb]; rfl, by rw [hb]; rfl, fun c => ?_⟩, fun hyoung c hc hsame => ?_⟩
  · rw [hspace.mem_iff, hblocks, Blocks.find?_insert, hn.space.mem_iff, ← hhandle]
    split_ifs with hc
    · rw [Option.some.injEq]
      exact ⟨fun heq => Or.inl heq.symm, fun hor => (hor.resolve_right fun hand => hand.2 hc.symm).symm⟩
    · exact ⟨fun heq => Or.inr ⟨heq, Ne.symm hc⟩, fun hor => (hor.resolve_left fun heq => hc (by rw [heq])).1⟩
  · have hgiven := hn.given c hc
    rw [hsame, hnumber, Nat.mod_eq_of_lt hyoung] at hgiven
    omega

/-- **What an allocation does.** However a firmware was used before: a request for memory that it answers with a handle adds a
block with this handle, every block with another handle stays as it was, and the handle is that of no live block as long as
fewer blocks were made before than there are handles. Only a message that was sent with an answer in it already, while the
firmware withholds its own, is left out. -/
theorem run_grants (id : Nat) (steps : List Step) {m : Message} {h : UInt32} (htag : m.tag = Tag.allocateMemory.id)
    (hasked : m.code ≠ Message.success ∨ ((Account.opened id).run steps).firmware.isFaulty m.tag = false)
    (hanswer : (((Account.opened id).run steps).firmware.exchange m).word m = .ok h) (hsome : h ≠ 0) :
    Grants ((Account.opened id).run steps).firmware ((Account.opened id).run steps).allocations
      (((Account.opened id).run steps).firmware.exchange m).device h :=
  (Account.run_numbered (Numbered.fresh id) steps).grants htag hasked hanswer hsome

/-- A second block beside one that is locked. -/
theorem run_grants_second : ∃ a m,
    a = (Account.opened 0).run (Firmware.asking [(.allocateMemory, [4096, 4096, 0]), (.lockMemory, [1])]) ∧
    Message.request .allocateMemory [16, 4096, 0] = .ok m ∧ m.tag = Tag.allocateMemory.id ∧
    m.code ≠ Message.success ∧ (a.firmware.exchange m).word m = .ok 2 ∧ a.allocations = 1 ∧
    Grants a.firmware a.allocations (a.firmware.exchange m).device 2 := by
  let steps := Firmware.asking [(.allocateMemory, [4096, 4096, 0]), (.lockMemory, [1])]
  let m : Message := ⟨Vector.ofFn fun i => (Message.image Tag.allocateMemory.id [16, 4096, 0] 3).getD i 0, 9, by decide⟩
  have htag : m.tag = Tag.allocateMemory.id := by decide +kernel
  have hcode : m.code ≠ Message.success := by decide +kernel
  have hanswer : (((Account.opened 0).run steps).firmware.exchange m).word m = .ok 2 := by decide +kernel
  exact ⟨_, m, rfl, rfl, htag, hcode, hanswer, by decide +kernel,
    run_grants 0 steps htag (Or.inl hcode) hanswer (by decide)⟩

namespace Firmware

/-! ## Handles that have come round -/

/-- a block is made and released again, `k` times, beside one that is made first and stays -/
def wear : Nat → List Step
  | 0 => asking [(.allocateMemory, [4096, 4096, 0])]
  | k + 1 => wear k ++ asking [(.allocateMemory, [4096, 4096, 0]), (.releaseMemory, [UInt32.ofNat (k + 2)])]

/-- the block that stays -/
def stayer : Block :=
  ⟨1, 0xde000000, 4096, 0, 0, .fresh 0xff⟩

/-- nothing is live but the block that stays, and `n` is the next handle -/
structure Worn (fw : Firmware) (n : Nat) : Prop where
  blocks : fw.blocks = [stayer]
  faults : fw.faults = .none
  next : fw.nextHandle.toNat = n

variable {fw : Firmware}

theorem asking_cons {tag : Tag} {p : List UInt32} {m : Message} (hm : Message.request tag p = .ok m)
    (rs : List (Tag × List UInt32)) : asking ((tag, p) :: rs) = .exchange m :: asking rs := by
  simp [asking, hm, Except.toOption]

theorem isFaulty_of_none (h : fw.faults = .none) (tag : UInt32) : fw.isFaulty tag = false := by
  simp [isFaulty, Faults.fails, Faults.withholds, Faults.none, h]

theorem run_asking_nil (fw : Firmware) : fw.run (asking []) = fw := rfl

/-- Without faults a request is acted on. -/
theorem run_asking (hfaults : fw.faults = .none) (tag : Tag) {p : List UInt32} (hp : tag.requestWords ≤ p.length)
    (hfit : p.length ≤ 26) (hlock : tag ≠ .lockMemory) (rs : List (Tag × List UInt32)) :
    ∃ m, fw.run (asking ((tag, p) :: rs)) = ((fw.act tag p).1.logRequest m).run (asking rs) := by
  obtain ⟨m, hm⟩ := Message.request_eq_ok tag (p := p) hfit
  have htakes : fw.takes tag p = true :=
    takes_of_ne (isFaulty_of_none hfaults tag.id) hlock
  refine ⟨m, ?_⟩
  rw [asking_cons hm]
  show (fw.exchange m).device.run (asking rs) = _
  rw [exchange_of_accepts (accepts?_of_takes hm hp htakes)]

/-- A block without locks and mappings goes when it is released. -/
theorem release_newBlock (fw fw' : Firmware) (bus size : UInt32) (flags : AllocFlags)
    (hfind : Blocks.find? fw'.blocks fw.nextHandle = some (fw.newBlock bus size flags)) :
    (fw'.act .releaseMemory [fw.nextHandle]).1 = { fw' with blocks := Blocks.erase fw'.blocks fw.nextHandle } := by
  simp only [act, release, List.getD_cons_zero, hfind]
  rfl

namespace Worn

variable {n : Nat}

theorem logRequest (h : fw.Worn n) (m : Message) : (fw.logRequest m).Worn n :=
  ⟨h.blocks, h.faults, h.next⟩

/-- After the first allocation. -/
theorem run_wear_zero : ((fresh 0).run (wear 0)).Worn 2 := by
  unfold wear
  have hfaults : (fresh 0).faults = .none := rfl
  obtain ⟨m, hrun⟩ := run_asking hfaults .allocateMemory (p := [4096, 4096, 0]) (by decide) (by decide) (by decide) []
  rw [hrun, run_asking_nil]
  apply logRequest
  exact ⟨by decide +kernel, by decide +kernel, by decide +kernel⟩

theorem place? (h : fw.Worn n) : fw.place? 4096 (max 4096 1) = some 0xde001000 := by
  unfold Firmware.place?
  rw [h.blocks, h.faults]
  decide +kernel

/-- The block that is made beside the one that stays. -/
theorem allocate (h : fw.Worn n) : (fw.act .allocateMemory [4096, 4096, 0]).1 =
    { fw with
      blocks := Blocks.insert (fw.newBlock 0xde001000 4096 ⟨0⟩) [stayer]
      nextHandle := handleAfter fw.nextHandle } := by
  have hplace := h.place?
  simp only [act, Firmware.allocate, List.getD_cons_zero, List.getD_cons_succ, hplace, h.blocks]
  rfl

/-- After one block more that came and went, the next handle is the one after its own. -/
theorem cycle (h : fw.Worn n) (hn : 1 < n) :
    (fw.run (asking [(.allocateMemory, [4096, 4096, 0]), (.releaseMemory, [UInt32.ofNat n])])).Worn
      (n % handleCount + 1) := by
  have hhandle : UInt32.ofNat n = fw.nextHandle := by rw [← h.next, UInt32.ofNat_toNat]
  have hlater : stayer.handle < fw.nextHandle := by
    rw [UInt32.lt_iff_toNat_lt, h.next]
    exact hn
  obtain ⟨m, hallocate⟩ := run_asking h.faults .allocateMemory (p := [4096, 4096, 0]) (by decide) (by decide)
    (by decide) [(.releaseMemory, [UInt32.ofNat n])]
  rw [hallocate, h.allocate, hhandle]
  have hfaults : (Firmware.logRequest { fw with
      blocks := Blocks.insert (fw.newBlock 0xde001000 4096 ⟨0⟩) [stayer]
      nextHandle := handleAfter fw.nextHandle } m).faults = .none := h.faults
  obtain ⟨m', hrelease⟩ := run_asking hfaults .releaseMemory (p := [fw.nextHandle]) le_rfl (by simp) (by decide) []
  have hfind : Blocks.find? (Blocks.insert (fw.newBlock 0xde001000 4096 ⟨0⟩) [stayer]) fw.nextHandle =
      some (fw.newBlock 0xde001000 4096 ⟨0⟩) := by
    rw [Blocks.find?_insert, if_pos]
    rfl
  rw [hrelease, run_asking_nil, release_newBlock fw _ 0xde001000 4096 ⟨0⟩ hfind]
  apply logRequest
  refine ⟨?_, h.faults, ?_⟩
  · show Blocks.erase (Blocks.insert (fw.newBlock 0xde001000 4096 ⟨0⟩) [stayer]) fw.nextHandle = [stayer]
    have hlast : ∀ c ∈ [stayer], c.handle < (fw.newBlock 0xde001000 4096 ⟨0⟩).handle := by
      rintro _ (_ | _)
      · exact hlater
      · contradiction
    rw [Blocks.insert_eq_append hlast]
    have hstays : stayer.handle ≠ fw.nextHandle := UInt32.ne_of_lt hlater
    simp [Blocks.erase, hstays, newBlock]
  · show (handleAfter fw.nextHandle).toNat = _
    rw [toNat_handleAfter_mod, h.next]

/-- A block that is made under the handle of the one that stays takes its place. -/
theorem exchange_again (h : fw.Worn 1) {m : Message} (hm : Message.request .allocateMemory [4096, 4096, 0] = .ok m) :
    fw.isFaulty m.tag = false ∧ (fw.exchange m).word m = .ok stayer.handle ∧
      (fw.exchange m).device.blocks = [fw.newBlock 0xde001000 4096 ⟨0⟩] := by
  have hhandle : fw.nextHandle = stayer.handle := UInt32.toNat_inj.1 h.next
  have hfault : fw.isFaulty m.tag = false := isFaulty_of_none h.faults m.tag
  have haccepts : fw.accepts? m = some (.allocateMemory, [4096, 4096, 0]) :=
    accepts?_of_takes hm (by decide) (takes_eq_true_iff.2 ⟨isFaulty_of_none h.faults _, rfl⟩)
  have hroom : Tag.allocateMemory.responseWords ≤ m.valueWords := by
    rw [Message.valueWords_of_request hm]
    exact le_max_right _ _
  have hadded : fw.added? .allocateMemory [4096, 4096, 0] = some (fw.newBlock 0xde001000 4096 ⟨0⟩) :=
    Option.map_eq_some_iff.2 ⟨_, h.place?, rfl⟩
  refine ⟨hfault, ?_, ?_⟩
  · rw [word_of_accepts haccepts hroom, act_allocateMemory, hadded, ← hhandle]
    rfl
  · rw [exchange_of_accepts haccepts, h.allocate]
    show Blocks.insert (fw.newBlock 0xde001000 4096 ⟨0⟩) [stayer] = _
    have hsame : (fw.newBlock 0xde001000 4096 ⟨0⟩).handle = stayer.handle := hhandle
    rw [Blocks.insert, hsame, if_neg (UInt32.lt_irrefl _), if_pos rfl]

end Worn

/-- As often as there are handles but one, a block came and went: the next handle is the first again. -/
theorem run_wear (k : Nat) (hk : k < handleCount) : ((fresh 0).run (wear k)).Worn ((k + 1) % handleCount + 1) := by
  induction k with
  | zero => exact Worn.run_wear_zero
  | succ k ih =>
    have hworn : ((fresh 0).run (wear k)).Worn (k + 2) := by
      have hbefore := ih (by omega)
      rw [Nat.mod_eq_of_lt hk] at hbefore
      exact hbefore
    unfold wear
    rw [run, List.foldl_append]
    exact hworn.cycle (by omega)

/-- **A handle is given out twice**, once the handles have come round: a request for memory is answered with the handle of a
block that is live, and this block is not live any more afterwards. -/
theorem handle_given_twice : ∃ fw m, fw = ((Account.opened 0).run (wear (2 ^ 32 - 2))).firmware ∧
    Message.request .allocateMemory [4096, 4096, 0] = .ok m ∧ fw.isFaulty m.tag = false ∧ stayer ∈ fw.blocks ∧
    (fw.exchange m).word m = .ok stayer.handle ∧ stayer ∉ (fw.exchange m).device.blocks ∧
    (fw.exchange m).device.blocks.length = fw.blocks.length := by
  obtain ⟨m, hm⟩ := Message.request_eq_ok .allocateMemory (p := [4096, 4096, 0]) (by decide)
  have hworn : ((Account.opened 0).run (wear (2 ^ 32 - 2))).firmware.Worn 1 := by
    rw [Account.run_firmware]
    exact run_wear (2 ^ 32 - 2) (by decide)
  obtain ⟨hfault, hword, hblocks⟩ := hworn.exchange_again hm
  refine ⟨_, m, rfl, hm, hfault, ?_, hword, ?_, ?_⟩
  · rw [hworn.blocks]
    exact List.mem_singleton_self stayer
  · rw [hblocks, List.mem_singleton]
    exact fun hsame => absurd (congrArg Block.bus hsame) (by decide)
  · rw [hblocks, hworn.blocks, List.length_singleton, List.length_singleton]

end Firmware
end MailboxCursor
