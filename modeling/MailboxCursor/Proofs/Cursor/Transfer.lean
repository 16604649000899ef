/-
The transfer buffer of a controller over the emulated firmware, with nobody else at the device.

Before it has started a controller has allocated nothing; as long as it is ready, the firmware has one block, which is the
controller's transfer buffer, locked and mapped once, with a window onto all of it (`Holds`). `session_tenure` is this
invariant (`Tenure`) over any session.
-/
import MailboxCursor.Proofs.Cursor.Session
import MailboxCursor.Proofs.Firmware.Requests

namespace MailboxCursor

open Firmware

/-- Laying a picture into the transfer buffer shows nothing of it yet. -/
theorem Controller.withPicture_cursor (c : Controller Firmware) (block : GpuBlock) (picture : Picture) :
    (c.withPicture block picture).link.device.cursor = c.link.device.cursor :=
  (write_cursor _ _ _ _).trans (write_cursor _ _ _ _)

theorem Controller.withPicture_isFaulty (c : Controller Firmware) (block : GpuBlock) (picture : Picture) (tag : UInt32) :
    (c.withPicture block picture).link.device.isFaulty tag = c.link.device.isFaulty tag :=
  (write_isFaulty _ _ _ _ _).trans (write_isFaulty _ _ _ _ _)

/-- the firmware's only block is the controller's transfer buffer -/
structure Holds (c : Controller Firmware) (block : GpuBlock) (b : Block) : Prop where
  transfer : c.transfer = some block
  blocks : c.link.device.blocks = [b]
  handle : block.handle.val = b.handle
  bus : block.bus.val = b.bus
  window : block.window = ⟨c.link.device.id, b.start, b.size.toNat, 0, block.bus, b.size.toUInt64⟩
  size : b.size = cursorBufferBytes
  locks : b.locks = 1
  mappings : b.mappings = 1

structure Tenure (c : Controller Firmware) : Prop where
  unborn : c.phase = .uninitialized → c.link.device.blocks = [] ∧ c.link.device.cursorGeometry = none
  held : c.phase.isReady = true → ∃ block b, Holds c block b

namespace Holds

variable {c c' : Controller Firmware} {block : GpuBlock} {b : Block}

theorem congr (h : Holds c block b) (htransfer : c'.transfer = c.transfer)
    (hblocks : c'.link.device.blocks = c.link.device.blocks) (hid : c'.link.device.id = c.link.device.id) :
    Holds c' block b :=
  { h with
    transfer := htransfer.trans h.transfer
    blocks := hblocks.trans h.blocks
    window := by rw [hid]; exact h.window }

theorem window_len (h : Holds c block b) : block.window.len.toNat = cursorBufferBytes.toNat := by
  rw [h.window, h.size]
  rfl

theorem windowBlock (h : Holds c block b) : c.link.device.windowBlock? block.window = some b := by
  rw [windowBlock?, h.window, h.blocks]
  simp

/-- Bytes written through the transfer buffer's window go to the block's memory, clipped to the window. -/
theorem write (h : Holds c block b) (bytes : List UInt8) :
    Holds { c with link := c.link.write block.window 0 bytes } block
      { b with memory := b.memory.write 0 (bytes.take cursorBufferBytes.toNat) } := by
  have htake : bytes.take (block.window.room 0 bytes.length) = bytes.take cursorBufferBytes.toNat := by
    rw [Window.room, h.window_len, Nat.sub_zero, List.take_eq_take_iff]
    omega
  have hoffset : block.window.offset = 0 := by rw [h.window]
  have hafter : (c.link.write block.window 0 bytes).device =
      { c.link.device with
        blocks := [{ b with memory := b.memory.write 0 (bytes.take cursorBufferBytes.toNat) }] } := by
    show c.link.device.write block.window 0 (bytes.take (block.window.room 0 bytes.length)) = _
    simp only [Firmware.write, h.windowBlock, htake, hoffset, h.blocks, Nat.add_zero]
    simp [Blocks.modify]
  exact
    { h with
      blocks := by rw [hafter]
      window := by rw [hafter]; exact h.window }

/-- the block once a picture lies in it -/
def painted (b : Block) (picture : Picture) : Block :=
  { b with
    memory := (b.memory.write 0 (List.replicate cursorBufferBytes.toNat 0)).write 0
      (picture.bytesWithin cursorBufferBytes.toNat) }

theorem withPicture (h : Holds c block b) (picture : Picture) :
    Holds (c.withPicture block picture) block (painted b picture) := by
  have hcleared := h.write (List.replicate cursorBufferBytes.toNat 0)
  have hpainted := hcleared.write (picture.bytesWithin cursorBufferBytes.toNat)
  have hfits : (picture.bytesWithin cursorBufferBytes.toNat).length ≤ cursorBufferBytes.toNat := by
    rw [Picture.length_bytesWithin]
    omega
  rw [List.take_of_length_le (by rw [List.length_replicate]), List.take_of_length_le hfits] at hpainted
  rw [Controller.withPicture, h.window_len]
  exact hpainted

end Holds

/-! ## The invariant -/

namespace Tenure

variable {c : Controller Firmware}

theorem new (id : Nat) (settings : CursorSettings) : Tenure (Controller.new id settings) where
  unborn _ := ⟨rfl, rfl⟩
  held h := by cases h

theorem adjust (h : Tenure c) (s : Setting) : Tenure (c.adjust s) where
  unborn hphase := by
    obtain ⟨hblocks, hgeometry⟩ := h.unborn hphase
    exact ⟨by simpa [Controller.adjust] using hblocks, by simpa [Controller.adjust] using hgeometry⟩
  held hready := by
    obtain ⟨block, b, hb⟩ := h.held hready
    exact ⟨block, b, hb.congr rfl (set_blocks _ s) (set_id _ s)⟩

theorem start (h : Tenure c) (hphase : c.phase = .uninitialized) : Tenure c.start.2 := by
  rcases Controller.start_cases c hphase with ⟨e, l, event, -, hstart⟩ | ⟨v, l, event, -, -, hstart⟩ |
    ⟨v, l, e, l', event, -, -, -, hstart⟩ | ⟨v, l, block, l', event, event', hversion, -, hacquired, hstart⟩
  · rw [hstart]
    exact ⟨(by rintro ⟨⟩), (by rintro ⟨⟩)⟩
  · rw [hstart]
    exact ⟨(by rintro ⟨⟩), (by rintro ⟨⟩)⟩
  · rw [hstart]
    exact ⟨(by rintro ⟨⟩), (by rintro ⟨⟩)⟩
  · have hempty : l.device.blocks = [] := by
      have := Link.askVersion_keeps (keeps_blocks (Or.inl rfl)) (h.unborn hphase).1
      rwa [hversion] at this
    obtain ⟨b, hblocks, hhandle, hbus, hwindow, hsize, hlocks, hmappings⟩ := Link.acquire_ok_of_empty hempty hacquired
    have hheld : Holds { c with link := l', transfer := some block } block b :=
      ⟨rfl, hblocks, hhandle, hbus, hwindow, hsize, hlocks, hmappings⟩
    have hcleared := hheld.write (List.replicate block.window.len.toNat 0)
    rw [hstart]
    exact ⟨(by rintro ⟨⟩), fun _ => ⟨block, _, hcleared.congr rfl rfl rfl⟩⟩

theorem place (h : Tenure c) (hready : c.phase.isReady = true) (enabled : Bool) (x y : Int32) :
    Tenure (c.place enabled x y).2 := by
  obtain ⟨block, b, hb⟩ := h.held hready
  obtain ⟨m, l, ⟨event, hplace, hafter⟩ | ⟨e, hplace, hafter⟩⟩ := c.place_firmware enabled x y
  all_goals
    have hblocks : l.device.blocks = c.link.device.blocks := by rw [hafter]; rfl
    have hid : l.device.id = c.link.device.id := by rw [hafter]; rfl
    rw [hplace]
    refine ⟨fun hphase => ?_, fun _ => ⟨block, b, hb.congr rfl hblocks hid⟩⟩
  · cases enabled <;> cases hphase
  · exact absurd hphase (Phase.ne_uninitialized hready)

theorem upload (h : Tenure c) (hready : c.phase.isReady = true) {block : GpuBlock} (hblock : c.transfer = some block)
    (picture : Picture) : Tenure (c.upload block picture).2 := by
  obtain ⟨block', b, hb⟩ := h.held hready
  obtain rfl : block = block' := Option.some.inj (hblock.symm.trans hb.transfer)
  have hpainted := hb.withPicture picture
  obtain ⟨m, l, ⟨b', event, hupload, -, hafter⟩ | ⟨e, hupload, hafter, -⟩⟩ := c.upload_firmware block picture
  all_goals
    have hblocks : l.device.blocks = (c.withPicture block picture).link.device.blocks := by rw [hafter]; rfl
    have hid : l.device.id = (c.withPicture block picture).link.device.id := by rw [hafter]; rfl
    rw [hupload]
    refine ⟨fun hphase => absurd hphase (Phase.ne_uninitialized hready), fun _ => ?_⟩
    exact ⟨block, _, hpainted.congr rfl hblocks hid⟩

theorem invariant : Controller.Invariant Tenure where
  note _ _ h := ⟨h.unborn, fun hready => by obtain ⟨block, b, hb⟩ := h.held hready; exact ⟨block, b, hb.congr rfl rfl rfl⟩⟩
  recolor _ _ h :=
    ⟨h.unborn, fun hready => by obtain ⟨block, b, hb⟩ := h.held hready; exact ⟨block, b, hb.congr rfl rfl rfl⟩⟩
  start _ hphase h := h.start hphase
  place _ enabled x y hready h := h.place hready enabled x y
  upload _ _ picture _ hready _ _ _ hblock h := h.upload hready hblock picture
  close c _ := by
    have hphase := c.close_phase
    constructor
    · intro h
      rw [hphase] at h
      cases h
    · intro h
      rw [hphase] at h
      cases h

end Tenure

/-- **The transfer buffer over a session.** Whatever was done and whatever went wrong: a controller that has not started
has allocated nothing, and a ready one holds the firmware's only block, locked and mapped. -/
theorem session_tenure (id : Nat) (settings : CursorSettings) (actions : List Action) :
    Tenure ((Controller.new id settings).session actions) :=
  Controller.session_keeps Tenure.invariant (fun _ s h => h.adjust s) _ actions (Tenure.new id settings)

end MailboxCursor
