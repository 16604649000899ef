/-
An acquisition brings a block or leaves nothing, whichever of its steps fails and for whatever reason.

It has three steps, and each may fail: because of a fault that is switched on, because the firmware refuses, or because there is
no window onto the block. As long as the block is the newest, and requests to unlock and to release come through (`Orderly`),
what was done is undone exactly: `Newest` says that a table ends with the block, each step on the way up and on the way back
changes this block alone, and so the table in front of it is as it was (`acquire_error_blocks`).

`acquire_all_or_nothing` is what follows in any state that a firmware can come to before its handles come round: after a failure
the live blocks are those from before, the first failure is reported, and the requests are those of the steps that were taken
and of their undoing; after a success there is one block more, at its place, locked and mapped once, and filled.
-/
import MailboxCursor.Proofs.Firmware.Leases
import MailboxCursor.Proofs.Firmware.Placement

namespace MailboxCursor

open Firmware

/-! ## Firmware that takes everything back -/

namespace Firmware

/-- the blocks are in order, and requests to unlock and to release are not made to fail -/
structure Orderly (fw : Firmware) : Prop where
  space : BusSpace fw.blocks fw.nextHandle
  unlocks : fw.isFaulty Tag.unlockMemory.id = false
  releases : fw.isFaulty Tag.releaseMemory.id = false

namespace Orderly

variable {fw : Firmware}

theorem congr {fw' : Firmware} (h : Orderly fw) (hspace : BusSpace fw'.blocks fw'.nextHandle)
    (hconfig : fw'.config = fw.config) : Orderly fw' where
  space := hspace
  unlocks := (isFaulty_of_config hconfig _).trans h.unlocks
  releases := (isFaulty_of_config hconfig _).trans h.releases

theorem exchanges (tag : Tag) : Link.Keeps Orderly tag := by
  intro fw m _ h
  exact h.congr (step_busSpace h.space (.exchange m)) (exchange_config fw m)

theorem openWindow (h : Orderly fw) (bus : BusAddress) (len : UInt64) : Orderly (fw.openWindow bus len).device :=
  h.congr (step_busSpace h.space (.openWindow bus len)) (openWindow_config fw bus len)

theorem closeWindow (h : Orderly fw) (w : Window) : Orderly (fw.closeWindow w).device :=
  h.congr (step_busSpace h.space (.closeWindow w)) (closeWindow_config fw w)

theorem write (h : Orderly fw) (w : Window) (offset : Nat) (bytes : List UInt8) : Orderly (fw.write w offset bytes) :=
  h.congr (step_busSpace h.space (.write w offset bytes)) (write_config fw w offset bytes)

end Orderly

/-! ## The newest block -/

/-- the table ends with `b`, whose handle is the highest; `bs` are the blocks in front of it -/
structure Newest (fw : Firmware) (bs : List Block) (b : Block) : Prop where
  blocks : fw.blocks = bs ++ [b]
  older : ∀ c ∈ bs, c.handle < b.handle

namespace Newest

variable {fw fw' : Firmware} {bs : List Block} {b c : Block}

theorem single (h : fw.blocks = [b]) : Newest fw [] b :=
  ⟨h, by rintro _ ⟨⟩⟩

theorem mem (h : Newest fw bs b) : b ∈ fw.blocks := by
  rw [h.blocks]
  exact List.mem_append_right _ (List.mem_singleton_self b)

theorem find? (h : Newest fw bs b) : Blocks.find? fw.blocks b.handle = some b := by
  have hold : bs.find? (fun c => c.handle == b.handle) = none := by
    rw [List.find?_eq_none]
    intro c hc
    simpa using UInt32.ne_of_lt (h.older c hc)
  rw [h.blocks, Blocks.find?, List.find?_append, hold]
  simp

/-- A change of the newest block leaves it the newest. -/
theorem modify (h : Newest fw bs b) {f : Block → Block} (hf : (f b).handle = b.handle)
    (hblocks : fw'.blocks = Blocks.modify fw.blocks b.handle f) : Newest fw' bs (f b) where
  blocks := by
    rw [hblocks, h.blocks]
    exact Blocks.modify_append h.older
  older := by
    rw [hf]
    exact h.older

theorem erase (h : Newest fw bs b) (hblocks : fw'.blocks = Blocks.erase fw.blocks b.handle) : fw'.blocks = bs := by
  rw [hblocks, h.blocks]
  exact Blocks.erase_append h.older

end Newest
end Firmware

namespace Link

variable {l l' : Link Firmware} {bs : List Block} {b : Block} {handle : MemoryHandle} {size alignment : UInt32}
  {flags : AllocFlags} {e : MailboxError}

/-! ### Back -/

theorem unlock_newest (h : Orderly l.device) (hn : Newest l.device bs b) (hhandle : handle.val = b.handle)
    (hlocks : b.locks ≠ 0) : Newest (l.unlock handle).2.device bs { b with locks := b.locks - 1 } := by
  have hfind : Blocks.find? l.device.blocks handle.val = some b := by
    rw [hhandle]
    exact hn.find?
  obtain ⟨l₁, hunlocked, hleaves⟩ := unlock_granted h.unlocks hfind (bne_iff_ne.2 hlocks)
  rw [hunlocked]
  rw [hhandle] at hleaves
  exact hn.modify rfl hleaves.blocks

theorem free_newest (h : Orderly l.device) (hn : Newest l.device bs b) (hhandle : handle.val = b.handle)
    (hlocks : b.locks = 0) (hmappings : b.mappings = 0) : (l.free handle).2.device.blocks = bs := by
  have hfind : Blocks.find? l.device.blocks handle.val = some b := by
    rw [hhandle]
    exact hn.find?
  obtain ⟨l₁, hfreed, hleaves⟩ := free_granted h.releases hfind hlocks hmappings
  rw [hfreed]
  rw [hhandle] at hleaves
  exact hn.erase hleaves.blocks

theorem unwindAllocated_newest (h : Orderly l.device) (hn : Newest l.device bs b) (hhandle : handle.val = b.handle)
    (hlocks : b.locks = 0) (hmappings : b.mappings = 0) : (l.unwindAllocated handle).device.blocks = bs := by
  unfold unwindAllocated
  rw [noteUnwinding_device]
  exact free_newest h hn hhandle hlocks hmappings

theorem unwindLocked_newest (h : Orderly l.device) (hn : Newest l.device bs b) (hhandle : handle.val = b.handle)
    (hlocks : b.locks = 1) (hmappings : b.mappings = 0) : (l.unwindLocked handle).device.blocks = bs := by
  have hunlocked := unlock_newest h hn hhandle (by rw [hlocks]; decide)
  have horderly : Orderly (l.unlock handle).2.device := unlock_keeps (Orderly.exchanges _) h
  have hlast : b.locks - 1 = 0 := by rw [hlocks]; rfl
  rw [hlast] at hunlocked
  unfold unwindLocked
  apply unwindAllocated_newest
  · rw [noteUnwinding_device]
    exact horderly
  · rw [noteUnwinding_device]
    exact hunlocked
  · exact hhandle
  · rfl
  · exact hmappings

/-- The release of the newest block leaves the others. -/
theorem release_newest {g : GpuBlock} (h : Orderly l.device) (hn : Newest l.device bs b)
    (hhandle : g.handle.val = b.handle) (hwindow : l.device.windowBlock? g.window = some b) (hlocks : b.locks = 1)
    (hmappings : b.mappings = 1) : (l.release g).2.device.blocks = bs := by
  obtain ⟨l₁, hclosed, hleaves⟩ := closeWindow_granted hwindow (by rw [hmappings]; decide)
  have horderly₁ : Orderly (l.closeWindow g.window).2.device := h.closeWindow g.window
  rw [hclosed] at horderly₁
  have hn₁ := hn.modify rfl hleaves.blocks
  have hunlocked := unlock_newest horderly₁ hn₁ hhandle (by rw [hlocks]; decide)
  have horderly₂ : Orderly (l₁.unlock g.handle).2.device := unlock_keeps (Orderly.exchanges _) horderly₁
  have hlast : b.locks - 1 = 0 := by rw [hlocks]; rfl
  have hlastMapping : b.mappings - 1 = 0 := by rw [hmappings]
  simp only [release, note_device, hclosed]
  exact free_newest horderly₂ hunlocked hhandle hlast hlastMapping

/-! ### Up -/

theorem allocate_orderly {r : Except MailboxError MemoryHandle} (h : Orderly l.device)
    (hallocated : l.allocate size alignment flags = (r, l')) : Orderly l'.device := by
  have hkept : Orderly (l.allocate size alignment flags).2.device := allocate_keeps (Orderly.exchanges _) h
  rwa [hallocated] at hkept

theorem lock_orderly {r : Except MailboxError BusAddress} (h : Orderly l.device) (hlocked : l.lock handle = (r, l')) :
    Orderly l'.device := by
  have hkept : Orderly (l.lock handle).2.device := lock_keeps (Orderly.exchanges _) h
  rwa [hlocked] at hkept

theorem openWindow_orderly {bus : BusAddress} {len : UInt64} {r : Except MailboxError Window} (h : Orderly l.device)
    (hopened : l.openWindow bus len = (r, l')) : Orderly l'.device := by
  have hkept : Orderly (l.openWindow bus len).2.device := h.openWindow bus len
  rwa [hopened] at hkept

theorem allocate_newest (older : ∀ c ∈ l.device.blocks, c.handle < l.device.nextHandle)
    (hok : l.allocate size alignment flags = (.ok handle, l')) :
    ∃ bus, l.device.place? size (max alignment 1) = some bus ∧ handle.val = l.device.nextHandle ∧
      Newest l'.device l.device.blocks (l.device.newBlock bus size flags) := by
  obtain ⟨bus, m, hplace, hhandle, -, hafter⟩ := allocate_ok hok
  refine ⟨bus, hplace, hhandle, ?_, older⟩
  rw [hafter]
  exact Blocks.insert_eq_append older

theorem lock_newest {bus : BusAddress} (hn : Newest l.device bs b) (hhandle : handle.val = b.handle)
    (hok : l.lock handle = (.ok bus, l')) :
    bus.val = b.bus ∧ Newest l'.device bs { b with locks := b.locks + 1 } := by
  obtain ⟨c, m, hfind, hbus, -, hafter⟩ := lock_ok hok
  rw [hhandle] at hfind hafter
  obtain rfl : b = c := Option.some.inj (hn.find?.symm.trans hfind)
  have hblocks : l'.device.blocks = Blocks.modify l.device.blocks b.handle fun b => { b with locks := b.locks + 1 } := by
    rw [hafter, logRequest_blocks]
  exact ⟨hbus, hn.modify rfl hblocks⟩

theorem openWindow_newest {w : Window} (hspace : BusSpace l.device.blocks l.device.nextHandle)
    (hn : Newest l.device bs b) (hok : l.openWindow ⟨b.bus⟩ b.size.toUInt64 = (.ok w, l')) :
    w = ⟨l'.device.id, b.start, b.size.toNat, 0, ⟨b.bus⟩, b.size.toUInt64⟩ ∧
      Newest l'.device bs { b with mappings := b.mappings + 1 } := by
  obtain ⟨c, hfind, -, hw, hafter⟩ := openWindow_ok hok
  -- the block holds its own range, and no other block does
  have hholds : b.holds b.bus.toNat b.size.toUInt64.toNat = true := Block.holds_iff.2 ⟨le_rfl, le_rfl⟩
  have hcholds := List.find?_some hfind
  have hsize : 0 < b.size.toUInt64.toNat := (hspace.laid b hn.mem).size
  obtain rfl : c = b := hspace.unique hsize (List.mem_of_find?_eq_some hfind) hn.mem hcholds hholds
  have hid : l'.device.id = l.device.id := by rw [hafter]
  have hoffset : c.bus.toNat - c.start = 0 := Nat.sub_self _
  have hblocks : l'.device.blocks =
      Blocks.modify l.device.blocks c.handle fun b => { b with mappings := b.mappings + 1 } := by
    rw [hafter]
  refine ⟨?_, hn.modify rfl hblocks⟩
  rw [hw, hoffset, hid]

/-! ## All or nothing -/

/-- **An acquisition that fails leaves nothing**, whichever of its steps was the one to fail. -/
theorem acquire_error_blocks (h : Orderly l.device) (older : ∀ c ∈ l.device.blocks, c.handle < l.device.nextHandle)
    (hfailed : l.acquire size alignment flags = (.error e, l')) : l'.device.blocks = l.device.blocks := by
  obtain ⟨rs, hfails⟩ := acquire_failed hfailed
  cases hfails with
  | allocate hallocated => exact allocate_error h.space.next hallocated
  | @lock handle l₁ l₂ hallocated hlocked =>
    have horderly₁ := allocate_orderly h hallocated
    obtain ⟨place, -, hhandle, hn₁⟩ := allocate_newest older hallocated
    have hbus : ∀ b ∈ l₁.device.blocks, b.bus ≠ 0 := fun b hb => (horderly₁.space.laid b hb).bus_ne
    have hn₂ : Newest l₂.device _ _ := ⟨(lock_error hbus hlocked).trans hn₁.blocks, hn₁.older⟩
    exact unwindAllocated_newest (lock_orderly horderly₁ hlocked) hn₂ hhandle rfl rfl
  | @map handle bus l₁ l₂ l₃ hallocated hlocked hopened =>
    have horderly₃ := openWindow_orderly (lock_orderly (allocate_orderly h hallocated) hlocked) hopened
    obtain ⟨place, -, hhandle, hn₁⟩ := allocate_newest older hallocated
    obtain ⟨-, hn₂⟩ := lock_newest hn₁ hhandle hlocked
    rw [← openWindow_error hopened] at hn₂
    exact unwindLocked_newest horderly₃ hn₂ hhandle rfl rfl

theorem acquire_error_of_empty (h : Orderly l.device) (hempty : l.device.blocks = [])
    (hfailed : l.acquire size alignment flags = (.error e, l')) : l'.device.blocks = [] := by
  have older : ∀ c ∈ l.device.blocks, c.handle < l.device.nextHandle := by
    rw [hempty]
    rintro _ ⟨⟩
  rw [acquire_error_blocks h older hfailed, hempty]

end Link

/-- what an acquisition that brought `g` has made of the firmware `fw` -/
structure Acquired (fw fw' : Firmware) (size alignment : UInt32) (flags : AllocFlags) (g : GpuBlock) : Prop where
  /-- one block more, under a handle of its own, locked and mapped once; all others are as they were -/
  added : ∃ b, fw'.blocks = fw.blocks ++ [b] ∧ (∀ c ∈ fw.blocks, c.handle ≠ b.handle) ∧ b.handle = g.handle.val ∧
    b.bus = g.bus.val ∧ b.size = size ∧ b.locks = 1 ∧ b.mappings = 1
  /-- the window is as long as the block, and shows what the block was filled with -/
  window : g.window.bus = g.bus ∧ g.window.len = size.toUInt64 ∧
    fw'.read g.window = List.replicate size.toNat (if flags.contains .zero then 0 else 0xff)
  power : ∃ k, max alignment.toNat 1 = 2 ^ k
  aligned : max alignment.toNat 4096 ∣ g.bus.val.toNat
  size : g.size = size

namespace Link

variable {l l' : Link Firmware} {size alignment : UInt32} {flags : AllocFlags}

/-- **An acquisition that succeeds brings a block of its own**, ready to be used. -/
theorem acquire_acquired {g : GpuBlock} (h : Orderly l.device)
    (older : ∀ c ∈ l.device.blocks, c.handle < l.device.nextHandle)
    (hok : l.acquire size alignment flags = (.ok g, l')) : Acquired l.device l'.device size alignment flags g := by
  obtain ⟨l₁, l₂, l₃, event, hallocated, hlocked, hopened, hsize, rfl⟩ := acquire_ok hok
  have horderly₂ := lock_orderly (allocate_orderly h hallocated) hlocked
  have horderly₃ := openWindow_orderly horderly₂ hopened
  obtain ⟨place, hplace, hhandle, hn₁⟩ := allocate_newest older hallocated
  obtain ⟨hbus, hn₂⟩ := lock_newest hn₁ hhandle hlocked
  have hplaced : g.bus = ⟨place⟩ := congrArg BusAddress.mk hbus
  rw [hplaced] at hopened
  obtain ⟨hwindow, hn₃⟩ := openWindow_newest horderly₂.space hn₂ hopened
  -- what the place that was found says of the alignment
  obtain ⟨-, -, hpower, -⟩ := place?_eq_some_iff.1 hplace
  rw [isPowerOfTwo_iff, UInt32.toNat_max, UInt32.toNat_one] at hpower
  have haligned := (place?_isLeast h.space hplace).1.aligned
  have hmax : max (max alignment.toNat 1) busGranule = max alignment.toNat 4096 := by
    rw [busGranule]
    omega
  constructor
  case added =>
    refine ⟨_, hn₃.blocks, fun c hc => UInt32.ne_of_lt (older c hc), hhandle.symm, ?_, rfl, rfl, rfl⟩
    rw [hplaced]
    rfl
  case window =>
    rw [hwindow, hplaced]
    refine ⟨rfl, rfl, ?_⟩
    rw [note_device, Firmware.read, windowBlock?_eq_some horderly₃.space.table hn₃.mem rfl rfl]
    exact Memory.read_of_patches_nil rfl 0 size.toNat
  case power => exact hpower
  case aligned =>
    rw [hplaced, ← hmax]
    exact haligned
  case size => exact hsize

/-- **All or nothing.** In whatever state a firmware is before its handles come round, and whatever faults are switched on but
those of the requests to unlock and to release: an acquisition that fails leaves every live block as it was and adds none, it
reports the failure of the first step that fails, and has sent one request for each step until then, and one for each that it
takes back; an acquisition that succeeds adds one block that is ready to be used. -/
theorem acquire_all_or_nothing (id : Nat) (steps : List Step)
    (hrun : l.device = ((Account.opened id).run steps).firmware) (hyoung : ((Account.opened id).run steps).IsYoung)
    (hunlock : l.device.isFaulty Tag.unlockMemory.id = false)
    (hrelease : l.device.isFaulty Tag.releaseMemory.id = false) (size alignment : UInt32) (flags : AllocFlags) :
    (∀ e l', l.acquire size alignment flags = (.error e, l') →
      l'.device.blocks = l.device.blocks ∧ ∃ rs, l.FailsAt size alignment flags e l' rs ∧ l.Sends rs l') ∧
    ∀ g l', l.acquire size alignment flags = (.ok g, l') →
      Acquired l.device l'.device size alignment flags g ∧
        l.Sends [(.allocateMemory, [size, alignment, flags.bits]), (.lockMemory, [g.handle.val])] l' := by
  have hnumbered : Numbered ((Account.opened id).run steps).firmware ((Account.opened id).run steps).entries :=
    Account.run_numbered (Numbered.fresh id) steps
  rw [← hrun] at hnumbered
  have horderly : Orderly l.device := ⟨hnumbered.space, hunlock, hrelease⟩
  have older : ∀ c ∈ l.device.blocks, c.handle < l.device.nextHandle := hnumbered.older hyoung
  constructor
  · intro e l' hfailed
    obtain ⟨rs, hfails⟩ := acquire_failed hfailed
    exact ⟨acquire_error_blocks horderly older hfailed, rs, hfails, hfails.sends⟩
  · intro g l' hok
    exact ⟨acquire_acquired horderly older hok, acquire_sends hok⟩

/-- Beside a live block, the lock of a new one is withheld: the new block is given back, and the live one is still there. -/
theorem acquire_all_or_nothing_withheld :
    let steps := asking [(.allocateMemory, [4096, 4096, 0])] ++ [.set (.withhold .lockMemory)]
    let a := (Account.opened 0).run steps
    let l : Link Firmware := .fresh a.firmware
    let e : MailboxError := .exchangeFailed Tag.lockMemory.id (.response (.notProcessed 0))
    a.IsYoung ∧ l.device.isFaulty Tag.unlockMemory.id = false ∧ l.device.isFaulty Tag.releaseMemory.id = false ∧
      ∃ l', l.acquire 5000 16384 .l1NonAllocating = (.error e, l') ∧ l.device.blocks.length = 1 ∧
        l'.device.blocks = l.device.blocks ∧
        l'.sent.toList.map Message.tag = [Tag.allocateMemory.id, Tag.lockMemory.id, Tag.releaseMemory.id] := by
  intro steps a l e
  have hrun : l.device = ((Account.opened 0).run steps).firmware := rfl
  have hyoung : a.IsYoung := by
    rw [Account.IsYoung]
    decide +kernel
  have hunlock : l.device.isFaulty Tag.unlockMemory.id = false := by decide +kernel
  have hrelease : l.device.isFaulty Tag.releaseMemory.id = false := by decide +kernel
  have hresult : (l.acquire 5000 16384 .l1NonAllocating).1 = .error e := by decide +kernel
  have hfailed : l.acquire 5000 16384 .l1NonAllocating = (.error e, (l.acquire 5000 16384 .l1NonAllocating).2) := by
    rw [← hresult]
  have hkept := (acquire_all_or_nothing 0 steps hrun hyoung hunlock hrelease 5000 16384 .l1NonAllocating).1
  obtain ⟨hblocks, -⟩ := hkept e _ hfailed
  exact ⟨hyoung, hunlock, hrelease, _, hfailed, by decide +kernel, hblocks, by decide +kernel⟩

end Link
end MailboxCursor
