/-
Images, from the host's planes to what the emulated firmware shows.

`session_load`: after any session that leaves the controller ready and the request for a picture free of faults, an image of
at most 64 by 64 pixels with planes long enough is loaded, and the firmware has captured exactly its pixels, clear beside
them; what lies behind them in the transfer buffer is clear too. So nothing shows of an earlier image, whether that was
larger, or failed half way. `session_cursorImage` says that the picture stays until another load is accepted.

The pixels take the way through `painted`, the buffer's memory after the two writes of an upload: `read_painted` is its
front, `byte_painted` the rest.
-/
import MailboxCursor.Proofs.Cursor.Transfer
import MailboxCursor.Proofs.Firmware.Memory
import MailboxCursor.Proofs.Image.Render

namespace MailboxCursor

open Firmware

/-! ## Pictures stay -/

namespace Controller

/-- What has been captured is changed by no step but an upload. -/
theorem steady_cursorImage (v : Option (List UInt32)) :
    Steady fun c : Controller Firmware => c.link.device.cursorImage = v :=
  Steady.of_keeps (P := fun fw : Firmware => fw.cursorImage = v) (fun _ h => keeps_cursorImage h)
    (fun fw bus len h => (congrArg (fun c => c.2.2) (openWindow_cursor fw bus len)).trans h)
    (fun fw w h => (congrArg (fun c => c.2.2) (closeWindow_cursor fw w)).trans h)
    fun fw w offset bytes h => (congrArg (fun c => c.2.2) (write_cursor fw w offset bytes)).trans h

/-- the step of a session is the load of an image, and the firmware accepts it -/
def Accepts (c : Controller Firmware) : Action → Prop
  | .operate op => ∃ image, c.image? op = some image ∧ c.phase.isReady = true ∧ (c.load image).1 = .ok ()
  | .adjust _ => False

/-- no step of the session is an accepted load -/
def AcceptsNone (c : Controller Firmware) : List Action → Prop
  | [] => True
  | a :: as => ¬c.Accepts a ∧ (c.act a).AcceptsNone as

theorem load_refused (c : Controller Firmware) (image : Image)
    (h : ¬(c.phase.isReady = true ∧ (c.load image).1 = .ok ())) :
    (c.load image).2.link.device.cursorImage = c.link.device.cursorImage := by
  rcases c.load_cases image with ⟨-, hload⟩ | ⟨hready, -, hload⟩ | ⟨hready, -, -, hload⟩
  · rw [hload]
  · rw [hload]
    exact (steady_cursorImage c.link.device.cursorImage).refuseImage c _ _ hready rfl
  rcases hload with ⟨e, -, hload⟩ | ⟨picture, -, ⟨-, hload⟩ | ⟨block, -, hload⟩⟩
  · rw [hload]
  · rw [hload]
  rw [hload] at h ⊢
  obtain ⟨m, l, ⟨b, event, hupload, -, -⟩ | ⟨e, hupload, hafter, -⟩⟩ := c.upload_firmware block picture
  · rw [hupload] at h
    exact absurd ⟨hready, rfl⟩ h
  · rw [hupload]
    calc l.device.cursorImage
        = (c.withPicture block picture).link.device.cursorImage := by rw [hafter]; rfl
      _ = c.link.device.cursorImage := congrArg (fun v => v.2.2) (c.withPicture_cursor block picture)

theorem act_cursorImage {c : Controller Firmware} {a : Action} (h : ¬c.Accepts a) :
    (c.act a).link.device.cursorImage = c.link.device.cursorImage := by
  cases a with
  | adjust s => exact set_cursorImage _ s
  | operate op =>
    refine (steady_cursorImage c.link.device.cursorImage).perform c op (fun image himage => ?_) rfl
    exact c.load_refused image fun hok => h ⟨image, himage, hok⟩

/-- A picture stays until another load is accepted. -/
theorem session_cursorImage {c : Controller Firmware} {actions : List Action} (h : c.AcceptsNone actions) :
    (c.session actions).link.device.cursorImage = c.link.device.cursorImage := by
  induction actions generalizing c with
  | nil => rfl
  | cons a actions ih => exact (ih h.2).trans (act_cursorImage h.1)

end Controller

/-! ## The transfer buffer with a picture in it -/

namespace Holds

variable {c : Controller Firmware} {block : GpuBlock} {b : Block} {image : Image} {colors : Palette}

theorem bytesWithin_picture (hw : image.width ≤ maxCursorSize) (hh : image.height ≤ maxCursorSize) :
    (image.picture colors).bytesWithin cursorBufferBytes.toNat = bytesOfWords (image.picture colors).pixels.toList := by
  obtain ⟨-, -, hW, -⟩ := shownSize_bounds hw
  obtain ⟨-, -, hH, -⟩ := shownSize_bounds hh
  have hroom : cursorBufferBytes.toNat / 4 = 64 * 64 := rfl
  rw [Picture.bytesWithin, hroom, List.take_of_length_le]
  rw [Array.length_toList, Image.size_picture]
  exact Nat.mul_le_mul hW hH

/-- The pixels lie at the front of the buffer, word after word. -/
theorem read_painted (hw : image.width ≤ maxCursorSize) (hh : image.height ≤ maxCursorSize) :
    (painted b (image.picture colors)).memory.read 0
        ((image.picture colors).width.toNat * (image.picture colors).height.toNat * 4) =
      bytesOfWords (image.picture colors).pixels.toList := by
  have hlen : (image.picture colors).width.toNat * (image.picture colors).height.toNat * 4 =
      (bytesOfWords (image.picture colors).pixels.toList).length := by
    rw [length_bytesOfWords, Array.length_toList, Image.size_picture]
    omega
  rw [painted, bytesWithin_picture hw hh, hlen]
  exact Memory.read_write_self _ 0 _

/-- Behind the pixels the buffer is clear. -/
theorem byte_painted (hw : image.width ≤ maxCursorSize) (hh : image.height ≤ maxCursorSize) {i : Nat}
    (hi : 4 * ((image.picture colors).width.toNat * (image.picture colors).height.toNat) ≤ i)
    (hi' : i < cursorBufferBytes.toNat) : (painted b (image.picture colors)).memory.byte i = 0 := by
  have hlen : (bytesOfWords (image.picture colors).pixels.toList).length ≤ i := by
    rw [length_bytesOfWords, Array.length_toList, Image.size_picture]
    exact hi
  rw [painted, bytesWithin_picture hw hh, Memory.byte_write, if_neg (by omega), Memory.byte_write, List.length_replicate,
    if_pos (by omega), List.getD_eq_getElem?_getD, List.getElem?_replicate]
  split_ifs <;> rfl

/-- The firmware finds the picture where it is told to look for it. -/
theorem imageBlock?_picture (h : Holds c block b) (colors : Palette) (hw : image.width ≤ maxCursorSize)
    (hh : image.height ≤ maxCursorSize) :
    c.link.device.imageBlock? (geometryOf (image.picture colors) block.bus) = some b := by
  obtain ⟨-, hW, hW', -⟩ := shownSize_bounds hw
  obtain ⟨-, hH, hH', -⟩ := shownSize_bounds hh
  have hshow : (geometryOf (image.picture colors) block.bus).isShowable = true := by
    have hmax : CursorGeometry.maxSize.toNat = 64 := rfl
    have hzero : (0 : UInt32).toNat = 0 := rfl
    simp only [CursorGeometry.isShowable, geometryOf, Image.picture, Bool.and_eq_true, bne_iff_ne, ne_eq, decide_eq_true_eq,
      UInt32.le_iff_toNat_le, UInt32.lt_iff_toNat_lt, ← UInt32.toNat_inj, hmax, hzero]
    omega
  have hbytes := imageBytes_of_isShowable hshow
  have hprod : (shownSize image.width).toNat * (shownSize image.height).toNat ≤ 64 * 64 := Nat.mul_le_mul hW' hH'
  have hsize : b.size.toNat = 64 * 64 * 4 := by rw [h.size]; rfl
  have hlocked : b.isLocked = true := by rw [Block.isLocked, h.locks]; rfl
  have hbus : (geometryOf (image.picture colors) block.bus).bus.val.toNat = b.start := congrArg UInt32.toNat h.bus
  have hholds : b.holds (geometryOf (image.picture colors) block.bus).bus.val.toNat
      (geometryOf (image.picture colors) block.bus).imageBytes = true := by
    rw [hbytes, hbus, Block.holds, Block.stop, hsize, Bool.and_eq_true, decide_eq_true_eq, decide_eq_true_eq]
    simp only [geometryOf, Image.picture]
    omega
  rw [imageBlock?, if_pos hshow, h.blocks]
  simp only [List.find?_cons, hlocked, hholds, Bool.and_self]

/-- The words that the firmware reads for a picture are the pixels of it. -/
theorem imageOn_painted (h : Holds c block b) (hw : image.width ≤ maxCursorSize) (hh : image.height ≤ maxCursorSize) :
    imageOn (painted b (image.picture colors)) (geometryOf (image.picture colors) block.bus) =
      (image.picture colors).pixels.toList := by
  have hbytes := imageBytes_of_isShowable (isShowable_of_imageBlock? (h.imageBlock?_picture colors hw hh))
  have hoffset : (geometryOf (image.picture colors) block.bus).bus.val.toNat -
      (painted b (image.picture colors)).start = 0 := by
    have hbus : block.bus.val.toNat = b.start := congrArg UInt32.toNat h.bus
    show block.bus.val.toNat - b.start = 0
    omega
  rw [imageOn, hoffset, hbytes]
  exact (congrArg wordsOfBytes (read_painted hw hh)).trans (wordsOfBytes_bytesOfWords _)

/-- A ready controller uploads the picture of every image that the hardware can show, and the firmware captures the picture
where it lies, if the request for it is not made to fail. -/
theorem load_eq (h : Holds c block b) (hready : c.phase.isReady = true)
    (hfault : c.link.device.isFaulty Tag.setCursorInfo.id = false) (hw : image.width ≤ maxCursorSize)
    (hh : image.height ≤ maxCursorSize) (hplanes : image.shortPlane? = none) :
    ∃ m l event,
      c.load image =
        (.ok (), { c with link := l, surface := c.surface.drawnAs (image.picture c.surface.colors) }.note event) ∧
      l.device =
        { (c.withPicture block (image.picture c.surface.colors)).link.device with
          cursorGeometry := some (geometryOf (image.picture c.surface.colors) block.bus)
          cursorImage := some (image.picture c.surface.colors).pixels.toList }.logRequest m := by
  have hpainted := h.withPicture (image.picture c.surface.colors)
  have hload : c.load image = c.upload block (image.picture c.surface.colors) := by
    rcases c.load_cases image with ⟨hnot, -⟩ | ⟨-, hlarge, -⟩ | ⟨-, -, -, ⟨e, hrender, -⟩ | ⟨picture, hrender, hload⟩⟩
    · rw [hready] at hnot
      cases hnot
    · exact absurd hlarge (not_or.2 ⟨UInt32.not_lt.2 hw, UInt32.not_lt.2 hh⟩)
    · rw [Image.render_eq_picture hw hh hplanes] at hrender
      cases hrender
    · obtain rfl := Image.eq_of_render hrender
      obtain ⟨hnone, -⟩ | ⟨block', hblock, hload⟩ := hload
      · cases hnone.symm.trans h.transfer
      · obtain rfl := Option.some.inj (h.transfer.symm.trans hblock)
        exact hload
  have hfound := hpainted.imageBlock?_picture c.surface.colors hw hh
  rw [hload]
  obtain ⟨m, l, ⟨b', event, hupload, hfound', hafter⟩ | ⟨e, -, -, hfault' | hlost⟩⟩ :=
    c.upload_firmware block (image.picture c.surface.colors)
  · obtain rfl := Option.some.inj (hfound.symm.trans hfound')
    rw [h.imageOn_painted hw hh] at hafter
    exact ⟨m, l, event, hupload, hafter⟩
  -- neither a fault nor a missing block is there to fail the request
  · rw [Controller.withPicture_isFaulty, hfault] at hfault'
    cases hfault'
  · cases hfound.symm.trans hlost

/-- A ready controller loads every image that the hardware can show, if the request for it is not made to fail. -/
theorem load (h : Holds c block b) (hready : c.phase.isReady = true)
    (hfault : c.link.device.isFaulty Tag.setCursorInfo.id = false) (hw : image.width ≤ maxCursorSize)
    (hh : image.height ≤ maxCursorSize) (hplanes : image.shortPlane? = none) :
    (c.load image).1 = .ok () ∧
      (c.load image).2.link.device.cursorImage = some (image.picture c.surface.colors).pixels.toList ∧
      Holds (c.load image).2 block (painted b (image.picture c.surface.colors)) := by
  have hpainted := h.withPicture (image.picture c.surface.colors)
  obtain ⟨m, l, event, hload, hafter⟩ := h.load_eq hready hfault hw hh hplanes
  have himage : l.device.cursorImage = some (image.picture c.surface.colors).pixels.toList := by
    rw [hafter]
    rfl
  rw [hload]
  refine ⟨rfl, himage, hpainted.congr rfl ?_ ?_⟩
  · show l.device.blocks = _
    rw [hafter]
    rfl
  · show l.device.id = _
    rw [hafter]
    rfl

end Holds

/-! ## Whole sessions -/

/-- the pixels of an image are what the firmware has captured, and the transfer buffer is clear behind them -/
structure Uploaded (c : Controller Firmware) (image : Image) (colors : Palette) (pixels : List UInt32) : Prop where
  captured : c.link.device.cursorImage = some pixels
  length : pixels.length = (shownSize image.width).toNat * (shownSize image.height).toNat
  pixel : ∀ x y, x < (shownSize image.width).toNat → y < (shownSize image.height).toNat →
    pixels[y * (shownSize image.width).toNat + x]? =
      some (if x < image.width.toNat ∧ y < image.height.toNat then image.shown colors x y else 0)
  rest : ∃ block, c.transfer = some block ∧ (c.link.read block.window).length = cursorBufferBytes.toNat ∧
    ∀ i, 4 * ((shownSize image.width).toNat * (shownSize image.height).toNat) ≤ i → i < cursorBufferBytes.toNat →
      (c.link.read block.window)[i]? = some 0

theorem Holds.uploaded {c : Controller Firmware} {block : GpuBlock} {b : Block} {image : Image} {colors : Palette}
    (h : Holds c block (Holds.painted b (image.picture colors))) (hw : image.width ≤ maxCursorSize)
    (hh : image.height ≤ maxCursorSize) (himage : c.link.device.cursorImage = some (image.picture colors).pixels.toList) :
    Uploaded c image colors (image.picture colors).pixels.toList where
  captured := himage
  length := by
    rw [Array.length_toList, Image.size_picture]
    rfl
  pixel x y hx hy := by
    rw [Array.getElem?_toList]
    refine (Image.getElem_picture hx hy).trans (congrArg some ?_)
    rw [Image.shade, Image.pixel_eq_shown]
  rest := by
    have hoffset : block.window.offset = 0 := by rw [h.window]
    have hread : c.link.read block.window =
        (Holds.painted b (image.picture colors)).memory.read 0 cursorBufferBytes.toNat := by
      show c.link.device.read block.window = _
      rw [Firmware.read, h.windowBlock, hoffset, h.window_len]
    refine ⟨block, h.transfer, by rw [hread, Memory.length_read], fun i hi hi' => ?_⟩
    rw [hread, Memory.getElem?_read hi', Nat.zero_add]
    exact congrArg some (Holds.byte_painted hw hh hi hi')

/-- **Images arrive as they are.** After any session that leaves the controller ready, whatever was loaded and whatever went
wrong before, an image that the hardware can show is loaded and shown pixel by pixel, in the colours of the moment; and
until another load is accepted it stays, whatever else is done. -/
theorem session_load (id : Nat) (settings : CursorSettings) (actions : List Action) (image : Image)
    (hready : ((Controller.new id settings).session actions).phase.isReady = true)
    (hfault : ((Controller.new id settings).session actions).link.device.isFaulty Tag.setCursorInfo.id = false)
    (hw : image.width ≤ 64) (hh : image.height ≤ 64) (hplanes : ∀ plane ∈ image.planes, plane.2.1 ≤ plane.2.2) :
    let c := (Controller.new id settings).session actions
    let c' := (c.load image).2
    (c.load image).1 = .ok () ∧ ∃ pixels, Uploaded c' image c.surface.colors pixels ∧
      ∀ later, c'.AcceptsNone later → (c'.session later).link.device.cursorImage = some pixels := by
  obtain ⟨block, b, hb⟩ := (session_tenure id settings actions).held hready
  obtain ⟨hok, himage, hheld⟩ := hb.load hready hfault hw hh (Image.shortPlane?_eq_none hplanes)
  exact ⟨hok, _, hheld.uploaded hw hh himage, fun later hlater => (Controller.session_cursorImage hlater).trans himage⟩

/-- Two pixels of two colours, loaded after the cursor could not be shown: white, black, and nothing beside them. -/
theorem session_load_dots : ∃ pixels,
    (((Controller.new 0 .default).session [.operate .start, .adjust (.fail .setCursorState), .operate .display]).load
      (.mono 2 1 #[1, 0, 0, 0] #[3, 0, 0, 0] .default)).2.link.device.cursorImage = some pixels ∧ pixels.length = 256 ∧
    pixels[0]? = some 0xffffffff ∧ pixels[1]? = some 0xff000000 ∧ pixels[2]? = some 0 := by
  obtain ⟨-, pixels, h, -⟩ := session_load 0 .default
    [.operate .start, .adjust (.fail .setCursorState), .operate .display] (.mono 2 1 #[1, 0, 0, 0] #[3, 0, 0, 0] .default)
    (by decide +kernel) (by decide +kernel) (by decide) (by decide) (by decide)
  have hcolors : ((Controller.new 0 .default).session
      [.operate .start, .adjust (.fail .setCursorState), .operate .display]).surface.colors = .default := by decide +kernel
  rw [hcolors] at h
  have hwhite := h.pixel 0 0 (by decide +kernel) (by decide +kernel)
  have hblack := h.pixel 1 0 (by decide +kernel) (by decide +kernel)
  have hclear := h.pixel 2 0 (by decide +kernel) (by decide +kernel)
  exact ⟨pixels, h.captured, h.length, hwhite, hblack, hclear⟩

end MailboxCursor
