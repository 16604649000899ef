/-
What the emulated firmware makes of bytes: nothing that anyone is told.

`Firmware.blot` takes out of a firmware's state the contents of the block behind a window, and the pixels that were captured, all
but their number. Whatever is asked of a blotted firmware is answered as it is otherwise, and leaves the same state but for what
is blotted out (`act_blot`, `exchange_blot` and so on). So two firmwares that are equal when blotted (`BlotAlike`) stay so, and
that is `Firmware.veil`.

What is written through the window lies under the blot only if the block behind it is the only one of its handle, so the blocks
have to be in order.
-/
import MailboxCursor.Proofs.Device.Veil
import MailboxCursor.Proofs.Firmware.Picture
import MailboxCursor.Proofs.Firmware.Turn

namespace MailboxCursor

/-! ## Blots -/

/-- the block with nothing in its memory, if it starts at `base` -/
def Block.blot (base : Nat) (b : Block) : Block :=
  { b with memory := if b.start = base then .fresh 0 else b.memory }

/-- A change of the memory of a block is blotted out, if the block is. -/
theorem Block.blot_memory {base : Nat} {b : Block} (h : b.start = base) (m m' : Memory) :
    { b with memory := m }.blot base = { b with memory := m' }.blot base := by
  have hblot (m : Memory) : { b with memory := m }.blot base = { b with memory := .fresh 0 } :=
    congrArg (fun m => { b with memory := m }) (if_pos h)
  rw [hblot, hblot]

/-- A blot on a blot changes nothing. -/
theorem Block.blot_blot (base : Nat) (b : Block) : (b.blot base).blot base = b.blot base := by
  by_cases h : b.start = base
  · exact b.blot_memory h _ _
  · exact congrArg (fun m => { b with memory := m }) (if_neg h)

/-- Locks and mappings are counted beside the blot. -/
theorem Block.blot_counts (base : Nat) (b : Block) (locks : UInt32) (mappings : Nat) :
    { b.blot base with locks := locks, mappings := mappings }.blot base =
      { b with locks := locks, mappings := mappings }.blot base :=
  congrArg (fun m => { b with locks := locks, mappings := mappings, memory := m })
    (congrArg Block.memory (b.blot_blot base))

namespace Blocks

variable (base : Nat) (bs : List Block)

/-- the table with one block blotted out -/
def blot : List Block :=
  bs.map (Block.blot base)

/-- A block is found by anything but its memory. -/
theorem find?_blot {p : Block → Bool} (hp : ∀ b : Block, p (b.blot base) = p b) :
    (blot base bs).find? p = (bs.find? p).map (Block.blot base) := by
  have hcomp : p ∘ Block.blot base = p := funext hp
  rw [blot, List.find?_map, hcomp]

theorem find?_handle_blot (h : UInt32) : find? (blot base bs) h = (find? bs h).map (Block.blot base) :=
  find?_blot base bs fun _ => rfl

theorem blot_blot : blot base (blot base bs) = blot base bs := by
  simp only [blot, List.map_map, Function.comp_def, Block.blot_blot]

/-- A change that does the same, but for what is blotted out, to a blotted block. -/
theorem modify_blot (h : UInt32) {f : Block → Block} (hf : ∀ b : Block, (f (b.blot base)).blot base = (f b).blot base) :
    blot base (modify (blot base bs) h f) = blot base (modify bs h f) := by
  simp only [blot, modify, List.map_map]
  refine List.map_congr_left fun b _ => ?_
  show (if b.handle = h then f (b.blot base) else b.blot base).blot base = (if b.handle = h then f b else b).blot base
  split_ifs
  · exact hf b
  · exact b.blot_blot base

theorem erase_blot (h : UInt32) : erase (blot base bs) h = blot base (erase bs h) := by
  rw [erase, blot, List.filter_map]
  rfl

theorem insert_blot (b : Block) : blot base (insert b (blot base bs)) = blot base (insert b bs) := by
  induction bs with
  | nil => rfl
  | cons c cs ih =>
    show blot base (if b.handle < c.handle then b :: c.blot base :: blot base cs
      else if b.handle = c.handle then b :: blot base cs else c.blot base :: insert b (blot base cs)) =
      blot base (if b.handle < c.handle then b :: c :: cs else if b.handle = c.handle then b :: cs else c :: insert b cs)
    split_ifs
    · show _ :: _ :: blot base (blot base cs) = _ :: _ :: blot base cs
      rw [Block.blot_blot, blot_blot]
    · show _ :: blot base (blot base cs) = _ :: blot base cs
      rw [blot_blot]
    · show (c.blot base).blot base :: blot base (insert b (blot base cs)) = c.blot base :: blot base (insert b cs)
      rw [Block.blot_blot, ih]

theorem map_span_blot : (blot base bs).map Block.span = bs.map Block.span :=
  List.map_map

end Blocks

namespace Firmware

/-- the firmware without the contents of the block that the window was opened on, and without the captured pixels -/
def blot (w : Window) (fw : Firmware) : Firmware :=
  { fw with
    blocks := Blocks.blot w.base fw.blocks
    cursorImage := fw.cursorImage.map fun pixels => pixels.map fun _ => 0 }

/-! ## Requests -/

variable (w : Window) (fw : Firmware)

theorem blot_blot : (fw.blot w).blot w = fw.blot w := by
  have himage : (fw.cursorImage.map fun pixels => pixels.map fun _ => (0 : UInt32)).map (fun pixels => pixels.map fun _ => 0) =
      fw.cursorImage.map fun pixels => pixels.map fun _ => (0 : UInt32) := by
    cases fw.cursorImage with
    | none => rfl
    | some pixels => simp only [Option.map_some, List.map_map, Function.comp_def]
  simp only [blot, Blocks.blot_blot, himage]

/-- Tables that are equal when blotted make firmwares that are. -/
theorem blot_congr {bs bs' : List Block} (h : Blocks.blot w.base bs = Blocks.blot w.base bs') :
    { fw.blot w with blocks := bs }.blot w = { fw with blocks := bs' }.blot w := by
  have himage := congrArg cursorImage (fw.blot_blot w)
  simp only [blot] at himage ⊢
  rw [h, himage]

theorem allocate_blot (size alignment : UInt32) (flags : AllocFlags) :
    ((fw.blot w).allocate size alignment flags).2 = (fw.allocate size alignment flags).2 ∧
      ((fw.blot w).allocate size alignment flags).1.blot w = (fw.allocate size alignment flags).1.blot w := by
  have hplace : (fw.blot w).place? size (max alignment 1) = fw.place? size (max alignment 1) := by
    simp only [place?, blot, Blocks.map_span_blot]
  rw [allocate, allocate, hplace]
  cases fw.place? size (max alignment 1) with
  | none => exact ⟨rfl, fw.blot_blot w⟩
  | some bus =>
    exact ⟨rfl, { fw with nextHandle := handleAfter fw.nextHandle }.blot_congr w (Blocks.insert_blot w.base fw.blocks _)⟩

theorem find?_handle_blot (handle : UInt32) :
    Blocks.find? (fw.blot w).blocks handle = (Blocks.find? fw.blocks handle).map (Block.blot w.base) :=
  Blocks.find?_handle_blot w.base fw.blocks handle

theorem lock_blot (handle : UInt32) :
    ((fw.blot w).lock handle).2 = (fw.lock handle).2 ∧ ((fw.blot w).lock handle).1.blot w = (fw.lock handle).1.blot w := by
  rw [lock, lock, find?_handle_blot]
  cases Blocks.find? fw.blocks handle with
  | none => exact ⟨rfl, fw.blot_blot w⟩
  | some b =>
    exact ⟨rfl, fw.blot_congr w
      (Blocks.modify_blot _ _ _ fun b => b.blot_counts w.base (b.locks + 1) b.mappings)⟩

theorem unlock_blot (handle : UInt32) :
    ((fw.blot w).unlock handle).2 = (fw.unlock handle).2 ∧
      ((fw.blot w).unlock handle).1.blot w = (fw.unlock handle).1.blot w := by
  rw [unlock, unlock, find?_handle_blot]
  cases Blocks.find? fw.blocks handle with
  | none => exact ⟨rfl, fw.blot_blot w⟩
  | some b =>
    simp only [Option.map_some]
    have hlocked : (b.blot w.base).isLocked = b.isLocked := rfl
    rw [hlocked]
    split_ifs
    · exact ⟨rfl, fw.blot_congr w
        (Blocks.modify_blot _ _ _ fun b => b.blot_counts w.base (b.locks - 1) b.mappings)⟩
    · exact ⟨rfl, fw.blot_blot w⟩

theorem release_blot (handle : UInt32) :
    ((fw.blot w).release handle).2 = (fw.release handle).2 ∧
      ((fw.blot w).release handle).1.blot w = (fw.release handle).1.blot w := by
  rw [release, release, find?_handle_blot]
  cases Blocks.find? fw.blocks handle with
  | none => exact ⟨rfl, fw.blot_blot w⟩
  | some b =>
    simp only [Option.map_some]
    have hheld : ((b.blot w.base).isLocked || (b.blot w.base).mappings != 0) = (b.isLocked || b.mappings != 0) := rfl
    rw [hheld]
    split_ifs
    · exact ⟨rfl, fw.blot_blot w⟩
    · refine ⟨rfl, fw.blot_congr w ?_⟩
      show Blocks.blot w.base (Blocks.erase (Blocks.blot w.base fw.blocks) handle) = _
      rw [Blocks.erase_blot, Blocks.blot_blot]

/-- Of what was captured there are as many words, whatever the memory held. -/
theorem setCursorGeometry_blot (g : CursorGeometry) :
    ((fw.blot w).setCursorGeometry g).2 = (fw.setCursorGeometry g).2 ∧
      ((fw.blot w).setCursorGeometry g).1.blot w = (fw.setCursorGeometry g).1.blot w := by
  have hblock : (fw.blot w).imageBlock? g = (fw.imageBlock? g).map (Block.blot w.base) := by
    unfold imageBlock?
    split_ifs
    · exact Blocks.find?_blot w.base fw.blocks fun _ => rfl
    · rfl
  rw [setCursorGeometry_eq, setCursorGeometry_eq, hblock]
  cases fw.imageBlock? g with
  | none => exact ⟨rfl, fw.blot_blot w⟩
  | some b =>
    have hlength : (imageOn (b.blot w.base) g).length = (imageOn b g).length := by
      simp only [imageOn, length_wordsOfBytes, Memory.length_read]
    refine ⟨rfl, ?_⟩
    simp only [Option.map_some, blot, Blocks.blot_blot, List.map_const', hlength]

/-- A request that is acted on is answered the same, and leaves the same but for the blot. -/
theorem act_blot (tag : Tag) (p : List UInt32) :
    ((fw.blot w).act tag p).2 = (fw.act tag p).2 ∧ ((fw.blot w).act tag p).1.blot w = (fw.act tag p).1.blot w := by
  have hone {r r' : Firmware × UInt32} (h : r.2 = r'.2 ∧ r.1.blot w = r'.1.blot w) :
      [r.2] = [r'.2] ∧ r.1.blot w = r'.1.blot w := ⟨congrArg (fun word => [word]) h.1, h.2⟩
  cases tag with
  | getFirmwareVersion => exact ⟨rfl, fw.blot_blot w⟩
  | getOverscan => exact ⟨rfl, fw.blot_blot w⟩
  | allocateMemory => exact hone (fw.allocate_blot w _ _ _)
  | lockMemory => exact hone (fw.lock_blot w _)
  | unlockMemory => exact hone (fw.unlock_blot w _)
  | releaseMemory => exact hone (fw.release_blot w _)
  | setCursorInfo => exact hone (fw.setCursorGeometry_blot w _)
  | setCursorState => exact ⟨rfl, (fw.setCursorPlace ⟨p.getD 0 0 != 0, p.getD 1 0, p.getD 2 0⟩).1.blot_blot w⟩

theorem exhaustsLocks_blot (tag : Tag) (p : List UInt32) :
    (fw.blot w).exhaustsLocks tag p = fw.exhaustsLocks tag p := by
  rw [exhaustsLocks, exhaustsLocks, find?_handle_blot]
  cases Blocks.find? fw.blocks (p.getD 0 0) with
  | none => rfl
  | some b => rfl

/-! ## Everything that is asked of a firmware -/

theorem exchange_blot (m : Message) :
    ((fw.blot w).exchange m).Alike (fun d d' => d.blot w = d'.blot w) (fw.exchange m) := by
  have hlogged : (fw.blot w).logRequest m = (fw.logRequest m).blot w := rfl
  unfold exchange
  rw [hlogged]
  generalize fw.logRequest m = fw
  have hfails : (fw.blot w).faults.fails m.tag = fw.faults.fails m.tag := rfl
  have hwithholds : (fw.blot w).faults.withholds m.tag = fw.faults.withholds m.tag := rfl
  dsimp only
  rw [hfails, hwithholds]
  split_ifs
  · exact ⟨rfl, rfl, fw.blot_blot w, rfl⟩
  · exact ⟨rfl, rfl, fw.blot_blot w, rfl⟩
  · exact ⟨rfl, rfl, fw.blot_blot w, rfl⟩
  cases Tag.ofWord? m.tag with
  | none => exact ⟨rfl, rfl, fw.blot_blot w, rfl⟩
  | some tag =>
    obtain ⟨hvalues, hleft⟩ := fw.act_blot w tag m.requestPayload
    dsimp only
    rw [exhaustsLocks_blot, hvalues]
    split_ifs
    · exact ⟨rfl, rfl, fw.blot_blot w, rfl⟩
    · exact ⟨rfl, rfl, fw.blot_blot w, rfl⟩
    · exact ⟨rfl, rfl, hleft, rfl⟩

theorem openWindow_blot (bus : BusAddress) (len : UInt64) :
    ((fw.blot w).openWindow bus len).Alike (fun d d' => d.blot w = d'.blot w) (fw.openWindow bus len) := by
  have hfailMaps : (fw.blot w).faults.failMaps = fw.faults.failMaps := rfl
  have hexhausts : (fw.blot w).exhaustsAddresses bus len = fw.exhaustsAddresses bus len := by
    simp only [exhaustsAddresses, blot, Blocks.blot, List.any_map]
    rfl
  have hfind : ((fw.blot w).blocks.find? fun b => b.holds bus.val.toNat len.toNat) =
      (fw.blocks.find? fun b => b.holds bus.val.toNat len.toNat).map (Block.blot w.base) :=
    Blocks.find?_blot w.base fw.blocks fun _ => rfl
  unfold openWindow
  rw [hfailMaps, hexhausts, hfind]
  split_ifs
  · exact ⟨rfl, fw.blot_blot w, rfl⟩
  · exact ⟨rfl, fw.blot_blot w, rfl⟩
  cases fw.blocks.find? fun b => b.holds bus.val.toNat len.toNat with
  | none => exact ⟨rfl, fw.blot_blot w, rfl⟩
  | some b =>
    have hlocked : (b.blot w.base).isLocked = b.isLocked := rfl
    simp only [Option.map_some, hlocked]
    split_ifs
    · exact ⟨rfl, fw.blot_congr w
        (Blocks.modify_blot _ _ _ fun b => b.blot_counts w.base b.locks (b.mappings + 1)), rfl⟩
    · exact ⟨rfl, fw.blot_blot w, rfl⟩

theorem windowBlock?_blot (v : Window) :
    (fw.blot w).windowBlock? v = (fw.windowBlock? v).map (Block.blot w.base) := by
  have hid : (fw.blot w).id = fw.id := rfl
  rw [windowBlock?, windowBlock?, hid]
  split_ifs
  · exact Blocks.find?_blot w.base fw.blocks fun _ => rfl
  · rfl

theorem closeWindow_blot (v : Window) :
    ((fw.blot w).closeWindow v).Alike (fun d d' => d.blot w = d'.blot w) (fw.closeWindow v) := by
  have hmapped : ((fw.blot w).windowBlock? v).filter (fun b => b.mappings != 0) =
      ((fw.windowBlock? v).filter fun b => b.mappings != 0).map (Block.blot w.base) := by
    rw [windowBlock?_blot, Option.filter_map]
    rfl
  unfold closeWindow
  rw [hmapped]
  cases (fw.windowBlock? v).filter fun b => b.mappings != 0 with
  | none => exact ⟨rfl, fw.blot_blot w, rfl⟩
  | some b =>
    exact ⟨rfl, fw.blot_congr w
      (Blocks.modify_blot _ _ _ fun b => b.blot_counts w.base b.locks (b.mappings - 1)), rfl⟩

/-- Bytes that go beside the blot are the same on either side, and those that go under it do not count. -/
theorem write_blot (v : Window) (offset : Nat) (bytes : List UInt8) :
    ((fw.blot w).write v offset bytes).blot w = (fw.write v offset bytes).blot w := by
  rw [write, write, windowBlock?_blot]
  cases fw.windowBlock? v with
  | none => exact fw.blot_blot w
  | some b =>
    refine fw.blot_congr w (Blocks.modify_blot _ _ _ fun b => ?_)
    by_cases h : b.start = w.base
    · exact b.blot_memory h _ _
    · have hmemory : (b.blot w.base).memory = b.memory := if_neg h
      rw [hmemory]
      rfl

theorem set_blot (s : Setting) : ((fw.blot w).set s).blot w = (fw.set s).blot w := by
  have hset : (fw.blot w).set s = (fw.set s).blot w := by
    cases s with
    | version | overscan | fail | withhold | refuseAllocations | failMaps | clearFaults | clearRequests => rfl
  rw [hset, blot_blot]

variable {fw}

/-- Whatever is written through the window is under the blot. -/
theorem blot_write (h : BusSpace fw.blocks fw.nextHandle) (offset : Nat) (bytes : List UInt8) :
    (fw.write w offset bytes).blot w = fw.blot w := by
  rw [write]
  cases hblock : fw.windowBlock? w with
  | none => rfl
  | some b =>
    obtain ⟨hb, -, hbase⟩ := of_windowBlock? hblock
    have hcovered : Blocks.blot w.base (Blocks.modify fw.blocks b.handle fun b =>
        { b with memory := b.memory.write (w.offset + offset) bytes }) = Blocks.blot w.base fw.blocks := by
      rw [Blocks.blot, Blocks.modify, List.map_map]
      refine List.map_congr_left fun c hc => ?_
      show (if c.handle = b.handle then { c with memory := c.memory.write (w.offset + offset) bytes } else c).blot w.base = _
      split_ifs with hsame
      · obtain rfl := h.table.eq_of_handle hc hb hsame
        exact c.blot_memory hbase.symm _ c.memory
      · rfl
    exact congrArg (fun bs => { fw.blot w with blocks := bs }) hcovered

/-! ## The veil -/

/-- equal but for a blot, and in order -/
structure BlotAlike (w : Window) (fw fw' : Firmware) : Prop where
  blotted : fw.blot w = fw'.blot w
  space : BusSpace fw.blocks fw.nextHandle
  space' : BusSpace fw'.blocks fw'.nextHandle

variable {w} {fw' : Firmware}

/-- What comes out the same of a firmware and of the blotted one comes out the same of two firmwares that are equal when
blotted. -/
theorem BlotAlike.access {α : Type} {f : Firmware → Access Firmware α} (s : Step) (h : BlotAlike w fw fw')
    (hstep : ∀ fw, (f fw).device = fw.step s)
    (hf : ∀ fw, (f (fw.blot w)).Alike (fun d d' => d.blot w = d'.blot w) (f fw)) : (f fw).Alike (BlotAlike w) (f fw') := by
  have hleft := hf fw
  have hright := hf fw'
  rw [h.blotted] at hleft
  refine ⟨hleft.result.symm.trans hright.result, ⟨hleft.device.symm.trans hright.device, ?_, ?_⟩,
    hleft.events.symm.trans hright.events⟩
  · rw [hstep]
    exact step_busSpace h.space s
  · rw [hstep]
    exact step_busSpace h.space' s

theorem BlotAlike.exchange (h : BlotAlike w fw fw') (m : Message) :
    (fw.exchange m).Alike (BlotAlike w) (fw'.exchange m) := by
  have hleft := fw.exchange_blot w m
  have hright := fw'.exchange_blot w m
  rw [h.blotted] at hleft
  exact ⟨hleft.result.symm.trans hright.result, hleft.words.symm.trans hright.words,
    ⟨hleft.device.symm.trans hright.device, step_busSpace h.space (.exchange m), step_busSpace h.space' (.exchange m)⟩,
    hleft.events.symm.trans hright.events⟩

/-- The firmware does not look at what is written through a window. -/
def veil : Veil Firmware where
  Alike := BlotAlike
  exchange m h := h.exchange m
  openWindow bus len h := h.access (.openWindow bus len) (fun _ => rfl) fun fw => fw.openWindow_blot _ bus len
  closeWindow v h := h.access (.closeWindow v) (fun _ => rfl) fun fw => fw.closeWindow_blot _ v
  write {w fw fw'} v offset bytes h := by
    have hwritten : (fw.write v offset bytes).blot w = (fw'.write v offset bytes).blot w := by
      rw [← write_blot, h.blotted, write_blot]
    exact ⟨hwritten, step_busSpace h.space (.write v offset bytes), step_busSpace h.space' (.write v offset bytes)⟩
  cover {w fw fw'} offset bytes bytes' _ h := by
    have hwritten : (fw.write w offset bytes).blot w = (fw'.write w offset bytes').blot w := by
      rw [blot_write w h.space, blot_write w h.space', h.blotted]
    exact ⟨hwritten, step_busSpace h.space (.write w offset bytes), step_busSpace h.space' (.write w offset bytes')⟩
  adjust {w fw fw'} s h := by
    have hset : (fw.set s).blot w = (fw'.set s).blot w := by
      rw [← set_blot, h.blotted, set_blot]
    exact ⟨hset, step_busSpace h.space (.set s), step_busSpace h.space' (.set s)⟩

/-- However a firmware has been used, it is in order. -/
theorem orderly_run (id : Nat) (steps : List Step) : veil.Orderly ((fresh id).run steps) :=
  fun _ => ⟨rfl, run_keeps_busSpace (busSpace_fresh id) steps, run_keeps_busSpace (busSpace_fresh id) steps⟩

end Firmware
end MailboxCursor
