/-
Blocks that come and go on firmware without faults, in any order.

Without faults an acquisition depends on nothing but the room between the live blocks: it is granted just when there is a
place (`acquire_granted`), and refused without a trace when there is none (`acquire_refused`). A release of a block that is
held always succeeds and takes out this block alone (`release_granted`). `Leases` is a firmware with the blocks that were
acquired on it and not released, and `Lent` the invariant: what is held is what is live, each block locked and mapped once.

`run_returns` has what follows for any run: every release of a held block succeeds, the counts are those of the blocks held,
an acquisition and the release of its block leave the table as it was, and so the two can be repeated at one and the same bus
address as long as there are handles.
-/
import MailboxCursor.Proofs.Firmware.Handles

namespace MailboxCursor

namespace Blocks

variable {bs : List Block} {b : Block} {handle : UInt32} {f : Block → Block}

/-- Of a table with a new block at its end, only this block has its handle. -/
theorem modify_append (h : ∀ c ∈ bs, c.handle < b.handle) : modify (bs ++ [b]) b.handle f = bs ++ [f b] := by
  have hold : modify bs b.handle f = bs := by
    calc modify bs b.handle f
        = bs.map fun c => c := List.map_congr_left fun c hc => if_neg (UInt32.ne_of_lt (h c hc))
      _ = bs := List.map_id' bs
  simp only [modify, List.map_append, List.map_cons, List.map_nil, if_true] at hold ⊢
  rw [hold]

theorem erase_append (h : ∀ c ∈ bs, c.handle < b.handle) : erase (bs ++ [b]) b.handle = bs := by
  have hold : erase bs b.handle = bs := by
    refine List.filter_eq_self.2 ?_
    intro c hc
    exact bne_iff_ne.2 (UInt32.ne_of_lt (h c hc))
  simp only [erase, List.filter_append, List.filter_cons, List.filter_nil, bne_self_eq_false, Bool.false_eq_true,
    if_false, List.append_nil] at hold ⊢
  exact hold

/-- Whatever was made of a block, it goes. -/
theorem erase_modify (hf : ∀ b, (f b).handle = b.handle) : erase (modify bs handle f) handle = erase bs handle := by
  induction bs with
  | nil => rfl
  | cons c cs ih =>
    simp only [erase, modify, List.map_cons, List.filter_cons] at ih ⊢
    by_cases hc : c.handle = handle
    · simp [hc, hf, ih]
    · simp [hc, ih]

theorem find?_modified (hfind : find? bs handle = some b) (hf : ∀ b, (f b).handle = b.handle) :
    find? (modify bs handle f) handle = some (f b) := by
  rw [find?_modify bs handle handle f hf, if_pos rfl, hfind]
  rfl

end Blocks

open Firmware

/-! ## Single steps without faults -/

/-- the firmware differs from an earlier one in its blocks and the next handle at most, and in what it shows and has logged -/
structure Firmware.Leaves (fw fw' : Firmware) (bs : List Block) (next : UInt32) : Prop where
  blocks : fw'.blocks = bs
  next : fw'.nextHandle = next
  config : fw'.config = fw.config

namespace Firmware.Leaves

variable {fw fw' fw'' : Firmware} {bs bs' : List Block} {next next' : UInt32}

theorem trans (h : Leaves fw fw' bs next) (h' : Leaves fw' fw'' bs' next') : Leaves fw fw'' bs' next' :=
  ⟨h'.blocks, h'.next, h'.config.trans h.config⟩

theorem id_eq (h : Leaves fw fw' bs next) : fw'.id = fw.id :=
  congrArg (fun v => v.1) h.config

theorem faults_eq (h : Leaves fw fw' bs next) : fw'.faults = fw.faults :=
  faults_of_config h.config

theorem sound (h : Leaves fw fw' bs next) (hsound : fw.faults = .none) : fw'.faults = .none :=
  h.faults_eq.trans hsound

end Firmware.Leaves

theorem Firmware.takes_of_sound {fw : Firmware} (hsound : fw.faults = .none) {tag : Tag} (htag : tag ≠ .lockMemory)
    (p : List UInt32) : fw.takes tag p = true :=
  takes_of_ne (isFaulty_of_none hsound tag.id) htag

namespace Link

variable {l : Link Firmware} {b : Block} {bs : List Block} {handle : MemoryHandle} {size alignment bus : UInt32}

theorem allocate_granted (hsound : l.device.faults = .none) (hnext : l.device.nextHandle ≠ 0)
    (hplace : l.device.place? size (max alignment 1) = some bus) (flags : AllocFlags) :
    ∃ l', l.allocate size alignment flags = (.ok ⟨l.device.nextHandle⟩, l') ∧
      Leaves l.device l'.device (Blocks.insert (l.device.newBlock bus size flags) l.device.blocks)
        (handleAfter l.device.nextHandle) := by
  obtain ⟨m, hallocated⟩ := allocate_firmware l size alignment flags
  rw [if_pos (takes_of_sound hsound (by decide) _)] at hallocated
  have hact : l.device.allocate size alignment flags =
      ({ l.device with
          blocks := Blocks.insert (l.device.newBlock bus size flags) l.device.blocks
          nextHandle := handleAfter l.device.nextHandle }, l.device.nextHandle) := by
    simp only [Firmware.allocate, hplace]
    rfl
  rw [hact, handleOf, if_neg hnext] at hallocated
  refine ⟨_, Prod.ext hallocated.1 rfl, ?_⟩
  rw [hallocated.2]
  exact ⟨rfl, rfl, rfl⟩

theorem lock_granted (hsound : l.device.faults = .none) (hfind : Blocks.find? l.device.blocks handle.val = some b)
    (hlocks : b.locks = 0) (hbus : b.bus ≠ 0) :
    ∃ l', l.lock handle = (.ok ⟨b.bus⟩, l') ∧
      Leaves l.device l'.device
        (Blocks.modify l.device.blocks handle.val fun b => { b with locks := b.locks + 1 }) l.device.nextHandle := by
  obtain ⟨m, hlocked⟩ := lock_firmware l handle
  have hcount : l.device.exhaustsLocks .lockMemory [handle.val] = false := by
    simp [exhaustsLocks, hfind, hlocks]
  rw [if_pos (takes_eq_true_iff.2 ⟨isFaulty_of_none hsound _, hcount⟩)] at hlocked
  simp only [Firmware.lock, hfind, busOf, if_neg hbus] at hlocked
  refine ⟨_, Prod.ext hlocked.1 rfl, ?_⟩
  rw [hlocked.2]
  exact ⟨rfl, rfl, rfl⟩

/-- A window onto the whole of a locked block. -/
theorem openWindow_granted (hsound : l.device.faults = .none) (hspace : BusSpace l.device.blocks l.device.nextHandle)
    (hb : b ∈ l.device.blocks) (hlocked : b.isLocked = true) :
    ∃ l', l.openWindow ⟨b.bus⟩ b.size.toUInt64 =
        (.ok ⟨l.device.id, b.start, b.size.toNat, 0, ⟨b.bus⟩, b.size.toUInt64⟩, l') ∧
      Leaves l.device l'.device
        (Blocks.modify l.device.blocks b.handle fun b => { b with mappings := b.mappings + 1 }) l.device.nextHandle := by
  have hlen : b.size.toUInt64.toNat = b.size.toNat := rfl
  have hrange : l.device.exhaustsAddresses ⟨b.bus⟩ b.size.toUInt64 = false := by
    have hstart := b.bus.toNat_lt
    have hsize := b.size.toNat_lt
    have hfits : ¬UInt64.size ≤ b.bus.toNat + b.size.toNat := by
      rw [UInt64.size]
      omega
    simp [exhaustsAddresses, hfits]
  -- the block holds its own range, and no other block does
  have hholds : b.holds b.bus.toNat b.size.toUInt64.toNat = true := by
    rw [Block.holds_iff, hlen]
    exact ⟨le_rfl, le_rfl⟩
  have hfind : (l.device.blocks.find? fun c => c.holds b.bus.toNat b.size.toUInt64.toNat) = some b := by
    have hsome : (l.device.blocks.find? fun c => c.holds b.bus.toNat b.size.toUInt64.toNat).isSome = true :=
      List.find?_isSome.2 ⟨b, hb, hholds⟩
    obtain ⟨c, hc⟩ := Option.isSome_iff_exists.1 hsome
    have hcholds := List.find?_some hc
    have hsize : 0 < b.size.toUInt64.toNat := (hspace.laid b hb).size
    rw [hc, hspace.unique hsize (List.mem_of_find?_eq_some hc) hb hcholds hholds]
  have hopened : l.device.openWindow ⟨b.bus⟩ b.size.toUInt64 =
      ⟨.ok ⟨l.device.id, b.start, b.size.toNat, b.bus.toNat - b.start, ⟨b.bus⟩, b.size.toUInt64⟩,
        { l.device with
          blocks := Blocks.modify l.device.blocks b.handle fun b => { b with mappings := b.mappings + 1 } }, []⟩ := by
    rw [Firmware.openWindow, if_neg (by rw [hsound]; decide), if_neg (by rw [hrange]; decide), hfind]
    dsimp only
    rw [if_pos hlocked]
  have hoffset : b.bus.toNat - b.start = 0 := Nat.sub_self _
  rw [hoffset] at hopened
  refine ⟨_, Prod.ext (congrArg Access.result hopened) rfl, ?_⟩
  have hafter : (l.openWindow ⟨b.bus⟩ b.size.toUInt64).2.device = _ := congrArg Access.device hopened
  rw [hafter]
  exact ⟨rfl, rfl, rfl⟩

theorem closeWindow_granted {w : Window} (hwindow : l.device.windowBlock? w = some b) (hmappings : b.mappings ≠ 0) :
    ∃ l', l.closeWindow w = (.ok (), l') ∧
      Leaves l.device l'.device
        (Blocks.modify l.device.blocks b.handle fun b => { b with mappings := b.mappings - 1 }) l.device.nextHandle := by
  have hclosed : l.device.closeWindow w =
      ⟨.ok (),
        { l.device with
          blocks := Blocks.modify l.device.blocks b.handle fun b => { b with mappings := b.mappings - 1 } }, []⟩ := by
    have hkept : (l.device.windowBlock? w).filter (fun b => b.mappings != 0) = some b := by
      rw [hwindow, Option.filter_some, if_pos (bne_iff_ne.2 hmappings)]
    rw [Firmware.closeWindow, hkept]
  refine ⟨_, Prod.ext (congrArg Access.result hclosed) rfl, ?_⟩
  have hafter : (l.closeWindow w).2.device = _ := congrArg Access.device hclosed
  rw [hafter]
  exact ⟨rfl, rfl, rfl⟩

/-- Of unlocking and freeing only a fault on their own tags takes anything away. -/
theorem unlock_granted (hfault : l.device.isFaulty Tag.unlockMemory.id = false)
    (hfind : Blocks.find? l.device.blocks handle.val = some b) (hlocked : b.isLocked = true) :
    ∃ l', l.unlock handle = (.ok (), l') ∧
      Leaves l.device l'.device
        (Blocks.modify l.device.blocks handle.val fun b => { b with locks := b.locks - 1 }) l.device.nextHandle := by
  obtain ⟨m, hunlocked⟩ := unlock_firmware l handle
  rw [if_pos (takes_of_ne hfault (by decide))] at hunlocked
  simp only [Firmware.unlock, hfind, if_pos hlocked] at hunlocked
  refine ⟨_, Prod.ext hunlocked.1 rfl, ?_⟩
  rw [hunlocked.2]
  exact ⟨rfl, rfl, rfl⟩

theorem free_granted (hfault : l.device.isFaulty Tag.releaseMemory.id = false)
    (hfind : Blocks.find? l.device.blocks handle.val = some b) (hlocks : b.locks = 0) (hmappings : b.mappings = 0) :
    ∃ l', l.free handle = (.ok (), l') ∧
      Leaves l.device l'.device (Blocks.erase l.device.blocks handle.val) l.device.nextHandle := by
  obtain ⟨m, hfreed⟩ := free_firmware l handle
  have hidle : ¬(b.isLocked || b.mappings != 0) = true := by simp [Block.isLocked, hlocks, hmappings]
  rw [if_pos (takes_of_ne hfault (by decide))] at hfreed
  simp only [Firmware.release, hfind, if_neg hidle] at hfreed
  refine ⟨_, Prod.ext hfreed.1 rfl, ?_⟩
  rw [hfreed.2]
  exact ⟨rfl, rfl, rfl⟩

/-! ## Whole ways without faults -/

/-- what an acquisition at a bus address gives out -/
def lease (l : Link Firmware) (bus size : UInt32) : GpuBlock :=
  ⟨⟨l.device.nextHandle⟩, ⟨bus⟩, ⟨l.device.id, bus.toNat, size.toNat, 0, ⟨bus⟩, size.toUInt64⟩, size⟩

/-- the block of an acquisition: locked and mapped once -/
def leasedBlock (l : Link Firmware) (bus size : UInt32) (flags : AllocFlags) : Block :=
  { l.device.newBlock bus size flags with locks := 1, mappings := 1 }

/-- **Where there is a place, a block is granted**, and added to the table with its lock and its mapping. -/
theorem acquire_granted (hsound : l.device.faults = .none) (hspace : BusSpace l.device.blocks l.device.nextHandle)
    (holder : ∀ c ∈ l.device.blocks, c.handle < l.device.nextHandle)
    (hplace : l.device.place? size (max alignment 1) = some bus) (flags : AllocFlags) :
    ∃ l', l.acquire size alignment flags = (.ok (l.lease bus size), l') ∧
      Leaves l.device l'.device (l.device.blocks ++ [l.leasedBlock bus size flags])
        (handleAfter l.device.nextHandle) := by
  have hlaid := isLaid_newBlock hplace flags hspace.next
  have hspace₁ : BusSpace (l.device.blocks ++ [l.device.newBlock bus size flags]) (handleAfter l.device.nextHandle) := by
    rw [← Blocks.insert_eq_append holder]
    exact hspace.insert (handleAfter_ne_zero _) hlaid fun c hc => apart_newBlock hplace flags hc
  obtain ⟨l₁, hallocated, hleaves₁⟩ := allocate_granted hsound hspace.next hplace flags
  rw [Blocks.insert_eq_append holder] at hleaves₁
  have hfind₁ : Blocks.find? l₁.device.blocks (MemoryHandle.mk l.device.nextHandle).val =
      some (l.device.newBlock bus size flags) := by
    rw [hleaves₁.blocks]
    exact hspace₁.table.find?_handle (List.mem_append_right _ (List.mem_singleton_self _))
  obtain ⟨l₂, hlocked, hleaves₂⟩ := lock_granted (hleaves₁.sound hsound) hfind₁ rfl hlaid.bus_ne
  have hblocks₂ : l₂.device.blocks = l.device.blocks ++ [{ l.device.newBlock bus size flags with locks := 1 }] := by
    rw [hleaves₂.blocks, hleaves₁.blocks]
    exact Blocks.modify_append holder
  have hspace₂ : BusSpace l₂.device.blocks l₂.device.nextHandle := by
    rw [hleaves₂.blocks, hleaves₂.next, hleaves₁.blocks, hleaves₁.next]
    exact hspace₁.modify _ fun _ => rfl
  have hsound₂ := hleaves₂.sound (hleaves₁.sound hsound)
  have hmem₂ : { l.device.newBlock bus size flags with locks := 1 } ∈ l₂.device.blocks := by
    rw [hblocks₂]
    exact List.mem_append_right _ (List.mem_singleton_self _)
  obtain ⟨l₃, hopened, hleaves₃⟩ := openWindow_granted hsound₂ hspace₂ hmem₂ rfl
  have hblocks₃ : l₃.device.blocks = l.device.blocks ++ [l.leasedBlock bus size flags] := by
    rw [hleaves₃.blocks, hblocks₂]
    exact Blocks.modify_append holder
  have hid : l₂.device.id = l.device.id := hleaves₂.id_eq.trans hleaves₁.id_eq
  have hlocked : l₁.lock ⟨l.device.nextHandle⟩ = (.ok ⟨bus⟩, l₂) := hlocked
  have hopened : l₂.openWindow ⟨bus⟩ size.toUInt64 = (.ok (l.lease bus size).window, l₃) := by
    rw [hid] at hopened
    exact hopened
  have hleaves := (hleaves₁.trans hleaves₂).trans hleaves₃
  refine ⟨_, by simp only [acquire, hallocated, hlocked, hopened]; rfl, ?_⟩
  exact ⟨hblocks₃, hleaves₃.next.trans (hleaves₂.next.trans hleaves₁.next), hleaves.config⟩

/-- **Where there is no place, a block is refused**, and the table stays as it was. -/
theorem acquire_refused (hsound : l.device.faults = .none) (hplace : l.device.place? size (max alignment 1) = none)
    (flags : AllocFlags) :
    ∃ l', l.acquire size alignment flags = (.error (.allocationRefused size), l') ∧
      Leaves l.device l'.device l.device.blocks l.device.nextHandle := by
  obtain ⟨m, hallocated⟩ := allocate_firmware l size alignment flags
  rw [if_pos (takes_of_sound hsound (by decide) _)] at hallocated
  have hact : l.device.allocate size alignment flags = (l.device, 0) := by
    simp only [Firmware.allocate, hplace]
  rw [hact, handleOf, if_pos rfl] at hallocated
  have hrefused : l.allocate size alignment flags =
      (.error (.allocationRefused size), (l.allocate size alignment flags).2) := Prod.ext hallocated.1 rfl
  refine ⟨(l.allocate size alignment flags).2, by rw [acquire, hrefused], ?_⟩
  rw [hallocated.2]
  exact ⟨rfl, rfl, rfl⟩

end Link

/-- the block, among those of the device `id`, that is held under a lease -/
structure Leased (id : Nat) (bs : List Block) (g : GpuBlock) (b : Block) : Prop where
  live : b ∈ bs
  handle : g.handle.val = b.handle
  owner : g.window.owner = id
  base : g.window.base = b.start

/-- A lease is good as long as its block is there. -/
theorem Leased.of_mem {id : Nat} {bs bs' : List Block} {g : GpuBlock} {b : Block} (h : Leased id bs g b) (hb : b ∈ bs') :
    Leased id bs' g b :=
  ⟨hb, h.handle, h.owner, h.base⟩

/-- **A block that is held is taken back**, and only this one goes. -/
theorem Link.release_granted {l : Link Firmware} {g : GpuBlock} {b : Block} (hsound : l.device.faults = .none)
    (hspace : BusSpace l.device.blocks l.device.nextHandle) (hleased : Leased l.device.id l.device.blocks g b)
    (hlocks : b.locks = 1) (hmappings : b.mappings = 1) :
    ∃ l', l.release g = (.ok (), l') ∧
      Leaves l.device l'.device (Blocks.erase l.device.blocks b.handle) l.device.nextHandle := by
  have hfind : Blocks.find? l.device.blocks g.handle.val = some b := by
    rw [hleased.handle]
    exact hspace.table.find?_handle hleased.live
  have hwindow := windowBlock?_eq_some hspace.table hleased.live hleased.owner hleased.base
  obtain ⟨l₁, hclosed, hleaves₁⟩ := closeWindow_granted hwindow (by rw [hmappings]; decide)
  rw [← hleased.handle] at hleaves₁
  have hfind₁ : Blocks.find? l₁.device.blocks g.handle.val = some { b with mappings := 0 } := by
    have hlast : b.mappings - 1 = 0 := by rw [hmappings]
    rw [hleaves₁.blocks, ← hlast]
    exact Blocks.find?_modified hfind fun _ => rfl
  obtain ⟨l₂, hunlocked, hleaves₂⟩ :=
    unlock_granted (isFaulty_of_none (hleaves₁.sound hsound) _) hfind₁ (by simp [Block.isLocked, hlocks])
  have hfind₂ : Blocks.find? l₂.device.blocks g.handle.val = some { b with locks := 0, mappings := 0 } := by
    have hlast : b.locks - 1 = 0 := by rw [hlocks]; rfl
    rw [hleaves₂.blocks, ← hlast]
    exact Blocks.find?_modified hfind₁ fun _ => rfl
  obtain ⟨l₃, hfreed, hleaves₃⟩ :=
    free_granted (isFaulty_of_none (hleaves₂.sound (hleaves₁.sound hsound)) _) hfind₂ rfl rfl
  have hblocks : l₃.device.blocks = Blocks.erase l.device.blocks b.handle := by
    calc l₃.device.blocks
        = Blocks.erase l₂.device.blocks g.handle.val := hleaves₃.blocks
      _ = Blocks.erase l₁.device.blocks g.handle.val := by
        rw [hleaves₂.blocks]
        exact Blocks.erase_modify fun _ => rfl
      _ = Blocks.erase l.device.blocks g.handle.val := by
        rw [hleaves₁.blocks]
        exact Blocks.erase_modify fun _ => rfl
      _ = Blocks.erase l.device.blocks b.handle := by rw [hleased.handle]
  have hleaves := (hleaves₁.trans hleaves₂).trans hleaves₃
  refine ⟨_, by simp only [release, hclosed, hunlocked, hfreed]; rfl, ?_⟩
  exact ⟨hblocks, hleaves₃.next.trans (hleaves₂.next.trans hleaves₁.next), hleaves.config⟩

theorem leased_lease (l : Link Firmware) (bus size : UInt32) (flags : AllocFlags) :
    Leased l.device.id (l.device.blocks ++ [l.leasedBlock bus size flags]) (l.lease bus size)
      (l.leasedBlock bus size flags) :=
  ⟨List.mem_append_right _ (List.mem_singleton_self _), rfl, rfl, rfl⟩

/-! ## A block that comes and goes -/

/-- firmware without faults on which `n` blocks were granted, fewer than there are handles -/
structure Lends (fw : Firmware) (n : Nat) : Prop where
  sound : fw.faults = .none
  space : BusSpace fw.blocks fw.nextHandle
  next : fw.nextHandle.toNat = n + 1
  older : ∀ b ∈ fw.blocks, b.handle < fw.nextHandle

namespace Lends

variable {l l' : Link Firmware} {n : Nat} {size alignment bus : UInt32} {flags : AllocFlags}

/-- What lends goes on lending with another table, if that is in order. -/
theorem of_leaves {fw fw' : Firmware} {bs : List Block} {next : UInt32} (hleaves : Leaves fw fw' bs next)
    (hsound : fw.faults = .none) (hspace : BusSpace bs next) (hnext : next.toNat = n + 1)
    (holder : ∀ b ∈ bs, b.handle < next) : Lends fw' n := by
  have hsound' := hleaves.sound hsound
  obtain ⟨rfl, rfl, -⟩ := hleaves
  exact ⟨hsound', hspace, hnext, holder⟩

/-- The next handle but one is higher than the next, until the handles come round. -/
theorem next_lt (h : Lends l.device n) (hn : n + 1 < handleCount) :
    (handleAfter l.device.nextHandle).toNat = n + 1 + 1 ∧ l.device.nextHandle < handleAfter l.device.nextHandle := by
  have hnext := h.next
  have hafter : (handleAfter l.device.nextHandle).toNat = l.device.nextHandle.toNat + 1 :=
    toNat_handleAfter (by rw [handleCount] at hn; omega)
  rw [UInt32.lt_iff_toNat_lt]
  omega

/-- A block that is granted lies beside the others. -/
theorem space_granted (h : Lends l.device n) (hplace : l.device.place? size (max alignment 1) = some bus) :
    BusSpace (l.device.blocks ++ [l.leasedBlock bus size flags]) (handleAfter l.device.nextHandle) := by
  have hlast : ∀ c ∈ l.device.blocks, c.handle < (l.leasedBlock bus size flags).handle := h.older
  have hsite : (l.leasedBlock bus size flags).site = (l.device.newBlock bus size flags).site := rfl
  rw [← Blocks.insert_eq_append hlast]
  refine h.space.insert (handleAfter_ne_zero _) ?_ ?_
  · exact (isLaid_newBlock hplace flags h.space.next).congr hsite
  · intro c hc
    exact (apart_newBlock hplace flags hc).congr hsite rfl

theorem granted (h : Lends l.device n) (hn : n + 1 < handleCount)
    (hplace : l.device.place? size (max alignment 1) = some bus)
    (hleaves : Leaves l.device l'.device (l.device.blocks ++ [l.leasedBlock bus size flags])
      (handleAfter l.device.nextHandle)) : Lends l'.device (n + 1) := by
  obtain ⟨hnext, hlt⟩ := h.next_lt hn
  refine .of_leaves hleaves h.sound (h.space_granted hplace) hnext ?_
  intro b hb
  rcases List.mem_append.1 hb with hb | hb
  · exact UInt32.lt_trans (h.older b hb) hlt
  · rw [List.mem_singleton.1 hb]
    exact hlt

/-- **What is granted is at its place**, and there is one. -/
theorem place_of_acquire (h : Lends l.device n) {g : GpuBlock}
    (hok : l.acquire size alignment flags = (.ok g, l')) :
    ∃ bus, l.device.place? size (max alignment 1) = some bus ∧ g = l.lease bus size ∧
      Leaves l.device l'.device (l.device.blocks ++ [l.leasedBlock bus size flags])
        (handleAfter l.device.nextHandle) := by
  cases hplace : l.device.place? size (max alignment 1) with
  | none =>
    obtain ⟨l₁, hrefused, -⟩ := Link.acquire_refused h.sound hplace flags
    cases (Prod.mk.inj (hrefused.symm.trans hok)).1
  | some bus =>
    obtain ⟨l₁, hgranted, hleaves⟩ := Link.acquire_granted h.sound h.space h.older hplace flags
    obtain ⟨hg, rfl⟩ := Prod.mk.inj (hgranted.symm.trans hok)
    exact ⟨bus, rfl, (Except.ok.inj hg).symm, hleaves⟩

/-- **A block that is given back at once was never there**: the table is as it was, and only the next handle is another. -/
theorem returned (h : Lends l.device n) {g : GpuBlock} (hok : l.acquire size alignment flags = (.ok g, l')) :
    ∃ l'', l'.release g = (.ok (), l'') ∧
      Leaves l.device l''.device l.device.blocks (handleAfter l.device.nextHandle) := by
  obtain ⟨bus, hplace, rfl, hleaves⟩ := h.place_of_acquire hok
  have hspace : BusSpace l'.device.blocks l'.device.nextHandle := by
    rw [hleaves.blocks, hleaves.next]
    exact h.space_granted hplace
  have hleased : Leased l'.device.id l'.device.blocks (l.lease bus size) (l.leasedBlock bus size flags) := by
    rw [hleaves.id_eq, hleaves.blocks]
    exact leased_lease l bus size flags
  obtain ⟨l'', hreleased, hleaves'⟩ := Link.release_granted (hleaves.sound h.sound) hspace hleased rfl rfl
  have hblocks : l''.device.blocks = l.device.blocks := by
    rw [hleaves'.blocks, hleaves.blocks]
    exact Blocks.erase_append h.older
  exact ⟨l'', hreleased, hblocks, hleaves'.next.trans hleaves.next, (hleaves.trans hleaves').config⟩

theorem of_returned (h : Lends l.device n) (hn : n + 1 < handleCount)
    (hleaves : Leaves l.device l'.device l.device.blocks (handleAfter l.device.nextHandle)) :
    Lends l'.device (n + 1) := by
  obtain ⟨hnext, hlt⟩ := h.next_lt hn
  have hspace : BusSpace l.device.blocks (handleAfter l.device.nextHandle) :=
    ⟨h.space.laid, h.space.apart, h.space.ordered, handleAfter_ne_zero _⟩
  exact .of_leaves hleaves h.sound hspace hnext fun b hb => UInt32.lt_trans (h.older b hb) hlt

end Lends

/-- Where the next block goes depends on the live blocks alone. -/
theorem Firmware.Leaves.place? {fw fw' : Firmware} {next : UInt32} (h : Leaves fw fw' fw.blocks next)
    (size alignment : UInt32) : fw'.place? size alignment = fw.place? size alignment := by
  rw [Firmware.place?, Firmware.place?, h.blocks, h.faults_eq]

/-- blocks acquired and released again, one after the other, so many times; the bus addresses that they had -/
def Link.turnOver (size alignment : UInt32) (flags : AllocFlags) :
    Nat → Link Firmware → Except MailboxError (List BusAddress) × Link Firmware
  | 0, l => (.ok [], l)
  | k + 1, l =>
    match l.acquire size alignment flags with
    | (.error e, l) => (.error e, l)
    | (.ok g, l) =>
      match l.release g with
      | (.error e, l) => (.error e, l)
      | (.ok (), l) => (turnOver size alignment flags k l).map (Except.map fun buses => g.bus :: buses) fun l => l

/-- **The same place every time**, as long as there are handles. -/
theorem Lends.turnOver {l : Link Firmware} {n k : Nat} {size alignment bus : UInt32} (h : Lends l.device n)
    (hplace : l.device.place? size (max alignment 1) = some bus) (flags : AllocFlags) (hk : n + k < handleCount) :
    (l.turnOver size alignment flags k).1 = .ok (List.replicate k ⟨bus⟩) ∧
      (l.turnOver size alignment flags k).2.device.blocks = l.device.blocks := by
  induction k generalizing l n with
  | zero => exact ⟨rfl, rfl⟩
  | succ k ih =>
    obtain ⟨l₁, hgranted, -⟩ := Link.acquire_granted h.sound h.space h.older hplace flags
    obtain ⟨l₂, hreleased, hleaves⟩ := h.returned hgranted
    have hlends : Lends l₂.device (n + 1) := h.of_returned (by omega) hleaves
    have hplace₂ : l₂.device.place? size (max alignment 1) = some bus := (hleaves.place? _ _).trans hplace
    obtain ⟨hbuses, hblocks⟩ := ih hlends hplace₂ (by omega)
    simp only [Link.turnOver, hgranted, hreleased, Prod.map]
    rw [hbuses, hblocks, hleaves.blocks]
    exact ⟨rfl, rfl⟩

/-! ## Blocks in any order -/

/-- a firmware, the blocks that were acquired on it and not released, and how many were acquired in all -/
structure Leases where
  link : Link Firmware
  held : List GpuBlock
  granted : Nat

/-- what can be done with blocks -/
inductive Deal where
  | acquire (size alignment : UInt32) (flags : AllocFlags)
  /-- of the block at this place among those held, if there is one -/
  | release (i : Nat)
deriving DecidableEq, Repr

namespace Leases

def new (id : Nat) : Leases :=
  ⟨.fresh (.fresh id), [], 0⟩

def deal (s : Leases) : Deal → Leases
  | .acquire size alignment flags =>
    match s.link.acquire size alignment flags with
    | (.error _, l) => { s with link := l }
    | (.ok g, l) => ⟨l, s.held ++ [g], s.granted + 1⟩
  | .release i =>
    match s.held[i]? with
    | none => s
    | some g => { s with link := (s.link.release g).2, held := s.held.eraseIdx i }

def run (s : Leases) (deals : List Deal) : Leases :=
  deals.foldl deal s

/-- fewer blocks were granted than there are handles -/
def IsYoung (s : Leases) : Prop :=
  s.granted < handleCount

variable {s : Leases}

/-- What is held is what is live: every live block is locked and mapped once, and held once. -/
structure Lent (s : Leases) : Prop extends Lends s.link.device s.granted where
  engaged : ∀ b ∈ s.link.device.blocks, b.locks = 1 ∧ b.mappings = 1
  leased : ∀ g ∈ s.held, ∃ b, Leased s.link.device.id s.link.device.blocks g b
  handles : (s.link.device.blocks.map Block.handle).Perm (s.held.map fun g => g.handle.val)

theorem granted_deal (s : Leases) (d : Deal) : s.granted ≤ (s.deal d).granted := by
  cases d with
  | acquire size alignment flags =>
    rw [deal]
    rcases s.link.acquire size alignment flags with ⟨e | g, l⟩
    · exact le_rfl
    · exact Nat.le_succ _
  | release i =>
    rw [deal]
    cases s.held[i]? with
    | none => exact le_rfl
    | some g => exact le_rfl

theorem granted_run (s : Leases) (deals : List Deal) : s.granted ≤ (s.run deals).granted := by
  induction deals generalizing s with
  | nil => exact le_rfl
  | cons d deals ih => exact (s.granted_deal d).trans (ih (s.deal d))

namespace Lent

theorem new (id : Nat) : Lent (Leases.new id) where
  sound := rfl
  space := busSpace_fresh id
  next := rfl
  older := nofun
  engaged := nofun
  leased := nofun
  handles := .nil

/-- What was done to the firmware and to what is held keeps the two in step, if it does so for the blocks. -/
theorem of_leaves {l : Link Firmware} {held : List GpuBlock} {n : Nat} {bs : List Block} {next : UInt32}
    (hleaves : Leaves s.link.device l.device bs next) (hlends : Lends l.device n)
    (hengaged : ∀ b ∈ bs, b.locks = 1 ∧ b.mappings = 1)
    (hleased : ∀ g ∈ held, ∃ b, Leased s.link.device.id bs g b)
    (hhandles : (bs.map Block.handle).Perm (held.map fun g => g.handle.val)) : Lent ⟨l, held, n⟩ := by
  have hid := hleaves.id_eq
  obtain ⟨rfl, -, -⟩ := hleaves
  rw [← hid] at hleased
  exact ⟨hlends, hengaged, hleased, hhandles⟩

theorem acquire (h : Lent s) (size alignment : UInt32) (flags : AllocFlags)
    (hyoung : (s.deal (.acquire size alignment flags)).IsYoung) : Lent (s.deal (.acquire size alignment flags)) := by
  cases hplace : s.link.device.place? size (max alignment 1) with
  | none =>
    obtain ⟨l', hrefused, hleaves⟩ := Link.acquire_refused h.sound hplace flags
    have hdeal : s.deal (.acquire size alignment flags) = { s with link := l' } := by
      simp only [deal, hrefused]
    rw [hdeal]
    exact of_leaves hleaves (.of_leaves hleaves h.sound h.space h.next h.older) h.engaged h.leased h.handles
  | some bus =>
    obtain ⟨l', hgranted, hleaves⟩ := Link.acquire_granted h.sound h.space h.older hplace flags
    have hdeal : s.deal (.acquire size alignment flags) =
        ⟨l', s.held ++ [s.link.lease bus size], s.granted + 1⟩ := by
      simp only [deal, hgranted]
    rw [hdeal] at hyoung ⊢
    refine of_leaves hleaves (h.toLends.granted hyoung hplace hleaves) ?_ ?_ ?_
    · intro b hb
      rcases List.mem_append.1 hb with hb | hb
      · exact h.engaged b hb
      · rw [List.mem_singleton.1 hb]
        exact ⟨rfl, rfl⟩
    · intro g hg
      rcases List.mem_append.1 hg with hg | hg
      · obtain ⟨b, hleased⟩ := h.leased g hg
        exact ⟨b, hleased.of_mem (List.mem_append_left _ hleased.live)⟩
      · rw [List.mem_singleton.1 hg]
        exact ⟨_, leased_lease s.link bus size flags⟩
    · rw [List.map_append, List.map_append]
      exact h.handles.append_right _

/-- The handles of the blocks that stay are those of the blocks that are still held. -/
theorem handles_erased (h : Lent s) {i : Nat} {g : GpuBlock} (hg : s.held[i]? = some g) :
    ((Blocks.erase s.link.device.blocks g.handle.val).map Block.handle).Perm
      ((s.held.eraseIdx i).map fun g => g.handle.val) := by
  have hnodup : (s.link.device.blocks.map Block.handle).Nodup :=
    List.pairwise_map.2 (h.space.ordered.imp fun hlt => UInt32.ne_of_lt hlt)
  have herased : (Blocks.erase s.link.device.blocks g.handle.val).map Block.handle =
      (s.link.device.blocks.map Block.handle).erase g.handle.val := by
    rw [hnodup.erase_eq_filter, List.filter_map]
    rfl
  obtain ⟨hi, rfl⟩ := List.getElem?_eq_some_iff.1 hg
  have hlength : i < (s.held.map fun g => g.handle.val).length := by rwa [List.length_map]
  have hhandle : (s.held.map fun g => g.handle.val)[i] = s.held[i].handle.val := List.getElem_map _
  rw [herased, ← List.eraseIdx_map, ← hhandle]
  exact (h.handles.erase _).trans (List.erase_getElem hlength)

theorem release (h : Lent s) (i : Nat) : Lent (s.deal (.release i)) := by
  cases hg : s.held[i]? with
  | none =>
    have hdeal : s.deal (.release i) = s := by simp only [deal, hg]
    rw [hdeal]
    exact h
  | some g =>
    obtain ⟨b, hleased⟩ := h.leased g (List.mem_of_getElem? hg)
    obtain ⟨hlocks, hmappings⟩ := h.engaged b hleased.live
    obtain ⟨l', hreleased, hleaves⟩ := Link.release_granted h.sound h.space hleased hlocks hmappings
    have hdeal : s.deal (.release i) = { s with link := l', held := s.held.eraseIdx i } := by
      simp only [deal, hg, hreleased]
    rw [hdeal]
    have hhandles := h.handles_erased hg
    rw [hleased.handle] at hhandles
    have hkept : ∀ c ∈ Blocks.erase s.link.device.blocks b.handle, c ∈ s.link.device.blocks :=
      fun c hc => (Blocks.mem_erase.1 hc).1
    refine of_leaves hleaves (.of_leaves hleaves h.sound (h.space.erase b.handle) h.next fun c hc => ?_) ?_ ?_ hhandles
    · exact h.older c (hkept c hc)
    · exact fun c hc => h.engaged c (hkept c hc)
    · intro g' hg'
      obtain ⟨c, hleased'⟩ := h.leased g' (List.mem_of_mem_eraseIdx hg')
      -- its handle is one of those that stay, so its block stays
      have hstays : g'.handle.val ∈ (Blocks.erase s.link.device.blocks b.handle).map Block.handle :=
        hhandles.mem_iff.2 (List.mem_map.2 ⟨g', hg', rfl⟩)
      obtain ⟨d, hd, hsame⟩ := List.mem_map.1 hstays
      have hdc : d = c := h.space.table.eq_of_handle (hkept d hd) hleased'.live (hsame.trans hleased'.handle)
      exact ⟨c, hleased'.of_mem (hdc ▸ hd)⟩

/-- **Every deal keeps what is held in step with what is live.** -/
theorem deal (h : Lent s) (d : Deal) (hyoung : (s.deal d).IsYoung) : Lent (s.deal d) := by
  cases d with
  | acquire size alignment flags => exact h.acquire size alignment flags hyoung
  | release i => exact h.release i

theorem run (h : Lent s) (deals : List Deal) (hyoung : (s.run deals).IsYoung) : Lent (s.run deals) := by
  induction deals generalizing s with
  | nil => exact h
  | cons d deals ih =>
    have hbefore : (s.deal d).IsYoung := lt_of_le_of_lt ((s.deal d).granted_run deals) hyoung
    exact ih (h.deal d hbefore) hyoung

theorem outstanding (h : Lent s) :
    s.link.device.outstanding = ⟨s.held.length, s.held.length, s.held.length⟩ := by
  have hlength : s.link.device.blocks.length = s.held.length := by
    have hperm := h.handles.length_eq
    rwa [List.length_map, List.length_map] at hperm
  have hlocked : s.link.device.blocks.filter Block.isLocked = s.link.device.blocks := by
    refine List.filter_eq_self.2 ?_
    intro b hb
    rw [Block.isLocked, (h.engaged b hb).1]
    rfl
  have hmapped (bs : List Block) (k : Nat) (hbs : ∀ b ∈ bs, b.mappings = 1) :
      bs.foldl (fun n b => n + b.mappings) k = k + bs.length := by
    induction bs generalizing k with
    | nil => rfl
    | cons b bs ih =>
      rw [List.foldl_cons, hbs b List.mem_cons_self, ih _ fun c hc => hbs c (List.mem_cons_of_mem b hc),
        List.length_cons]
      omega
  rw [Firmware.outstanding, hlocked, hmapped _ 0 fun b hb => (h.engaged b hb).2, hlength, Nat.zero_add]

end Lent

/-- what can be relied on, whatever was dealt -/
structure Returns (s : Leases) : Prop where
  /-- every block that is held can be released -/
  released : ∀ g ∈ s.held, (s.link.release g).1 = .ok ()
  counted : s.link.device.outstanding = ⟨s.held.length, s.held.length, s.held.length⟩
  /-- a block that was just obtained is released as if it had never been there -/
  undone : ∀ size alignment flags g l, s.link.acquire size alignment flags = (.ok g, l) →
    (l.release g).1 = .ok () ∧ (l.release g).2.device.blocks = s.link.device.blocks
  refused : ∀ size alignment flags e l, s.link.acquire size alignment flags = (.error e, l) →
    l.device.blocks = s.link.device.blocks
  /-- and it can be obtained and released again, at the same place, as long as there are handles -/
  repeated : ∀ size alignment flags g l, s.link.acquire size alignment flags = (.ok g, l) →
    ∀ k, s.granted + k < handleCount →
      (s.link.turnOver size alignment flags k).1 = .ok (List.replicate k g.bus) ∧
        (s.link.turnOver size alignment flags k).2.device.blocks = s.link.device.blocks

theorem Lent.returns (h : Lent s) : Returns s where
  released g hg := by
    obtain ⟨b, hleased⟩ := h.leased g hg
    obtain ⟨hlocks, hmappings⟩ := h.engaged b hleased.live
    obtain ⟨l', hreleased, -⟩ := Link.release_granted h.sound h.space hleased hlocks hmappings
    rw [hreleased]
  counted := h.outstanding
  undone size alignment flags g l hok := by
    obtain ⟨l', hreleased, hleaves⟩ := h.toLends.returned hok
    rw [hreleased]
    exact ⟨rfl, hleaves.blocks⟩
  refused size alignment flags e l herror := by
    cases hplace : s.link.device.place? size (max alignment 1) with
    | none =>
      obtain ⟨l', hrefused, hleaves⟩ := Link.acquire_refused h.sound hplace flags
      obtain ⟨-, rfl⟩ := Prod.mk.inj (hrefused.symm.trans herror)
      exact hleaves.blocks
    | some bus =>
      obtain ⟨l', hgranted, -⟩ := Link.acquire_granted h.sound h.space h.older hplace flags
      cases (Prod.mk.inj (hgranted.symm.trans herror)).1
  repeated size alignment flags g l hok k hk := by
    obtain ⟨bus, hplace, rfl, -⟩ := h.toLends.place_of_acquire hok
    exact h.toLends.turnOver hplace flags hk

/-- **Acquisition and release cancel out.** On firmware without faults, whatever blocks were acquired, refused and released, in
whatever order, as long as fewer were granted than there are handles: every block that is held can be released, each is one
handle, one lock and one mapping, and a block that is acquired and released leaves no trace, so that the same can be done any
number of times, at the same bus address, while there are handles. -/
theorem run_returns (id : Nat) (deals : List Deal) (hyoung : ((new id).run deals).IsYoung) :
    Returns ((new id).run deals) :=
  ((Lent.new id).run deals hyoung).returns

/-- Two blocks, one that is refused, and the first of the two goes. -/
theorem run_returns_crossed :
    let deals : List Deal := [.acquire 16 4096 ⟨12⟩, .acquire 8192 0 ⟨0⟩, .acquire 0 4096 ⟨0⟩, .release 0]
    ((new 0).run deals).IsYoung ∧ Returns ((new 0).run deals) ∧
      ((new 0).run deals).held.map (fun g => g.bus.val) = [0xde001000] := by
  intro deals
  have hyoung : ((new 0).run deals).IsYoung := by
    rw [IsYoung]
    decide +kernel
  exact ⟨hyoung, run_returns 0 deals hyoung, by decide +kernel⟩

end Leases
end MailboxCursor
