/-
Operations that are done again at once.

What an operation asks for depends on what the controller has recorded. The five that put the cursor somewhere or show an image
(`Operation.Repeatable`) ask for the same when they are done again, whether the first request was agreed to and recorded or not:
what a success records is what was asked for, and nothing else goes into the request. So nothing is ever taken for done already,
and sent only once.

Over the emulated firmware, what succeeds twice might as well have been done once (`Unmoved`). That is plain for a place. For an
image it rests on `Memory.write_write`: the buffer is cleared as far as it was drawn on, so that nothing is left to tell by that
it was drawn on before.
-/
import MailboxCursor.Proofs.Cursor.Machine
import MailboxCursor.Proofs.Firmware.FlatMemory
import MailboxCursor.Proofs.Firmware.Memory

namespace MailboxCursor

/-- the operations that send one request to a ready controller's firmware, and may be done again -/
inductive Operation.Repeatable : Operation → Prop where
  | display : Repeatable .display
  | hide : Repeatable .hide
  | moveTo (x y : Int32) : Repeatable (.moveTo x y)
  | enableFor (width height : UInt32) : Repeatable (.enableFor width height)
  | load {image : Image} (width : image.width ≤ 64) (height : image.height ≤ 64)
    (long : ∀ p ∈ image.planes, p.2.1 ≤ p.2.2) : Repeatable (.load image)

def Reply.Succeeds (r : Reply) : Prop :=
  ∀ e, r ≠ .failed e

theorem Reply.Succeeds.eq_ok {r : Except CursorError Unit} (h : (Reply.ofUnit r).Succeeds) : r = .ok () := by
  obtain e | ⟨⟩ := r
  · exact absurd rfl (h e)
  · rfl

/-! ## Bytes written again -/

namespace Firmware

/-- What a write makes of the blocks depends on them alone, and on which device this is. -/
theorem write_eq {fw : Firmware} (fw' : Firmware) (hid : fw'.id = fw.id) (hblocks : fw'.blocks = fw.blocks) (w : Window)
    (offset : Nat) (bytes : List UInt8) : fw'.write w offset bytes = { fw' with blocks := (fw.write w offset bytes).blocks } := by
  have hblock : fw'.windowBlock? w = fw.windowBlock? w := by rw [windowBlock?, windowBlock?, hid, hblocks]
  rw [write, write, hblock]
  cases fw.windowBlock? w with
  | none => exact congrArg (fun bs => { fw' with blocks := bs }) hblocks
  | some b =>
    dsimp only
    rw [hblocks]

/-- Nothing is left of bytes that others were written over. -/
theorem write_write (fw : Firmware) (w : Window) (offset : Nat) {as bs : List UInt8} (h : as.length ≤ bs.length) :
    (fw.write w offset as).write w offset bs = fw.write w offset bs := by
  cases hblock : fw.windowBlock? w with
  | none => simp only [write, hblock]
  | some b =>
    let lay (bytes : List UInt8) (b : Block) : Block :=
      { b with memory := b.memory.write (w.offset + offset) bytes }
    have hwrite (bytes : List UInt8) :
        fw.write w offset bytes = { fw with blocks := Blocks.modify fw.blocks b.handle (lay bytes) } := by
      simp only [write, hblock, lay]
    have hfound : (fw.write w offset as).windowBlock? w = some (lay as b) := by
      obtain ⟨-, howner, -⟩ := of_windowBlock? hblock
      have hstart : ((fun c : Block => c.start == w.base) ∘ fun c => if c.handle = b.handle then lay as c else c) =
          fun c => c.start == w.base := by
        funext c
        simp only [Function.comp_apply]
        split_ifs <;> rfl
      rw [windowBlock?, if_pos howner] at hblock
      rw [hwrite, windowBlock?, if_pos howner, Blocks.modify, List.find?_map, hstart, hblock, Option.map_some, if_pos rfl]
    rw [write, hfound, hwrite, hwrite]
    -- twice changed under one handle
    simp only [Blocks.modify, List.map_map]
    congr 2
    funext c
    simp only [Function.comp_apply, lay]
    split_ifs with hc
    · simp only [Memory.write_write _ _ h]
    · rfl

/-- Bytes that are laid over cleared ones, where both lie already, leave everything as it is. -/
theorem write_again (fw : Firmware) {fw' : Firmware} {w : Window} {offset : Nat} {zeros bytes : List UInt8}
    (hshort : bytes.length ≤ zeros.length) (hid : fw'.id = fw.id)
    (hblocks : fw'.blocks = ((fw.write w offset zeros).write w offset bytes).blocks) :
    (fw'.write w offset zeros).write w offset bytes = fw' := by
  have hlaid : (((fw.write w offset zeros).write w offset bytes).write w offset zeros).write w offset bytes =
      (fw.write w offset zeros).write w offset bytes := by
    rw [write_write _ _ _ hshort, write_write _ _ _ (le_refl _)]
  generalize hd : (fw.write w offset zeros).write w offset bytes = d at hblocks hlaid
  have hsame : fw'.id = d.id := by rw [hid, ← hd, write_id, write_id]
  calc (fw'.write w offset zeros).write w offset bytes
      = Firmware.write { fw' with blocks := (d.write w offset zeros).blocks } w offset bytes := by
        rw [write_eq fw' hsame hblocks]
    _ = { fw' with blocks := ((d.write w offset zeros).write w offset bytes).blocks } :=
        write_eq { fw' with blocks := (d.write w offset zeros).blocks } (hsame.trans (write_id d w offset zeros).symm) rfl w
          offset bytes
    _ = fw' := by rw [hlaid, ← hblocks]

end Firmware

namespace Controller

/-! ## What is asked for again -/

section Asked

variable {δ : Type} [Device δ] {c : Controller δ} {op : Operation} {enabled : Bool} {x y : Int32} {block : GpuBlock}

/-- where an operation puts the cursor of a ready controller, if that is what it does -/
def target? (c : Controller δ) : Operation → Option (Bool × Int32 × Int32)
  | .display => some (true, c.surface.x, c.surface.y)
  | .hide => some (false, c.surface.x, c.surface.y)
  | .moveTo x y => some (c.surface.enabled, x, y)
  | .enableFor width height => some (width ≤ maxCursorSize && height ≤ maxCursorSize, c.surface.x, c.surface.y)
  | _ => none

theorem perform_of_target (hready : c.phase.isReady = true) (htarget : c.target? op = some (enabled, x, y)) :
    (op.perform c).2 = (c.place enabled x y).2 ∧
      ((op.perform c).1.Succeeds → (c.place enabled x y).1 = .ok ()) := by
  cases op with
  | display | hide | moveTo =>
    cases htarget
    simp only [Operation.perform, display, hide, moveTo, if_pos hready]
    exact ⟨rfl, Reply.Succeeds.eq_ok⟩
  | enableFor =>
    cases htarget
    simp only [Operation.perform, enableFor, if_pos hready]
    rcases c.place _ _ _ with ⟨e | ⟨⟩, c'⟩
    · exact ⟨rfl, fun h => absurd rfl (h e)⟩
    · exact ⟨rfl, fun _ => rfl⟩
  | start | recolor | load | close | hostShow | hostHide | hostMove | hostColors | hostLoad | hostLoadPixels | hostEnable =>
    cases htarget

/-- Once the cursor is where it was put, or could not be put there, it is put in the same place again. -/
theorem target?_place (htarget : c.target? op = some (enabled, x, y)) :
    (c.place enabled x y).2.target? op = some (enabled, x, y) := by
  obtain ⟨m, l, -, -, hplace | hplace⟩ := c.place_leaves enabled x y
  · rw [hplace]
    exact htarget
  rw [hplace]
  cases op with
  | display | hide | moveTo | enableFor =>
    cases htarget
    rfl
  | start | recolor | load | close | hostShow | hostHide | hostMove | hostColors | hostLoad | hostLoadPixels | hostEnable =>
    cases htarget

theorem place_sent (c : Controller δ) {m : Message}
    (hm : Message.request .setCursorState (placeRequest enabled x y) = .ok m) :
    (c.place enabled x y).2.link.sent = c.link.sent.push m := by
  obtain ⟨m', l, hm', hsent, hplace | hplace⟩ := c.place_leaves enabled x y
  all_goals
    obtain rfl : m' = m := Except.ok.inj (hm'.symm.trans hm)
    rw [hplace, ← hsent]

theorem upload_sent (c : Controller δ) {picture : Picture} {m : Message}
    (hm : Message.request .setCursorInfo (pictureRequest picture block.bus) = .ok m) :
    (c.upload block picture).2.link.sent = c.link.sent.push m := by
  obtain ⟨m', l, hm', hsent, hupload | hupload⟩ := c.upload_leaves block picture
  all_goals
    obtain rfl : m' = m := Except.ok.inj (hm'.symm.trans hm)
    rw [hupload, ← hsent]

/-- The load of an image that the hardware can show is an upload of its picture. -/
theorem load_eq_upload (hready : c.phase.isReady = true) (hblock : c.transfer = some block) {image : Image}
    (hw : image.width ≤ 64) (hh : image.height ≤ 64) (hlong : ∀ p ∈ image.planes, p.2.1 ≤ p.2.2) :
    c.load image = c.upload block (image.picture c.surface.colors) := by
  have hsmall : ¬(maxCursorSize < image.width ∨ maxCursorSize < image.height) :=
    not_or.2 ⟨UInt32.not_lt.2 hw, UInt32.not_lt.2 hh⟩
  rw [load, if_pos hready, if_neg hsmall, Image.render_eq_picture hw hh (Image.shortPlane?_eq_none hlong), hblock]

/-- Once an image was uploaded, or could not be, the same picture of it is uploaded again. -/
theorem load_upload_eq (hready : c.phase.isReady = true) (hblock : c.transfer = some block) {image : Image}
    (hw : image.width ≤ 64) (hh : image.height ≤ 64) (hlong : ∀ p ∈ image.planes, p.2.1 ≤ p.2.2) :
    (c.upload block (image.picture c.surface.colors)).2.load image =
      (c.upload block (image.picture c.surface.colors)).2.upload block (image.picture c.surface.colors) := by
  obtain ⟨m, l, -, -, hupload⟩ := c.upload_leaves block (image.picture c.surface.colors)
  generalize (c.upload block (image.picture c.surface.colors)).2 = c' at hupload ⊢
  obtain ⟨hphase, htransfer, hcolors⟩ : c'.phase = c.phase ∧ c'.transfer = c.transfer ∧
      c'.surface.colors = c.surface.colors := by
    rcases hupload with rfl | rfl
    · exact ⟨rfl, rfl, rfl⟩
    · exact ⟨rfl, rfl, rfl⟩
  rw [← hcolors]
  exact load_eq_upload (by rw [hphase, hready]) (htransfer.trans hblock) hw hh hlong

/-- An operation that is done again asks for the same again, whatever came of the first request. -/
theorem perform_twice_sent (hready : c.phase.isReady = true) (hblock : c.transfer = some block) (hop : op.Repeatable) :
    ∃ m, (op.perform c).2.link.sent = c.link.sent.push m ∧
      (op.perform (op.perform c).2).2.link.sent = (c.link.sent.push m).push m := by
  have hplaced {enabled : Bool} {x y : Int32} (htarget : c.target? op = some (enabled, x, y)) :
      ∃ m, (op.perform c).2.link.sent = c.link.sent.push m ∧
        (op.perform (op.perform c).2).2.link.sent = (c.link.sent.push m).push m := by
    obtain ⟨m, hm⟩ := Message.request_eq_ok .setCursorState (p := placeRequest enabled x y)
      (by simp [placeRequest, Message.maxValueWords, Message.capacity, Message.valueStart])
    refine ⟨m, ?_⟩
    rw [(perform_of_target hready htarget).1,
      (perform_of_target (c.place_ready enabled x y hready) (target?_place htarget)).1, place_sent c hm,
      place_sent _ hm, place_sent c hm]
    exact ⟨rfl, rfl⟩
  cases hop with
  | display | hide | moveTo | enableFor => exact hplaced rfl
  | @load image width height long =>
    obtain ⟨m, hm⟩ := Message.request_eq_ok .setCursorInfo
      (p := pictureRequest (image.picture c.surface.colors) block.bus)
      (by simp [pictureRequest, Message.maxValueWords, Message.capacity, Message.valueStart])
    have hload (c' : Controller δ) : (Operation.perform c' (.load image)).2 = (c'.load image).2 := rfl
    refine ⟨m, ?_⟩
    rw [hload, hload, load_eq_upload hready hblock width height long, load_upload_eq hready hblock width height long,
      upload_sent c hm, upload_sent _ hm, upload_sent c hm]
    exact ⟨rfl, rfl⟩

end Asked

/-! ## What is done again -/

/-- `c'` is `c` but for the messages that it has sent since: the same controller, over the same firmware -/
structure Unmoved (c c' : Controller Firmware) : Prop where
  controller : c' = { c with link := c'.link }
  firmware : c.link.device.Untouched c'.link.device
  buffer : ∀ block, c.transfer = some block → c'.link.read block.window = c.link.read block.window

variable {c c₁ c₂ : Controller Firmware} {op : Operation}

/-- What the firmware shows is what its blocks hold. -/
theorem unmoved_of_untouched (hcontroller : c₂ = { c₁ with link := c₂.link })
    (hfirmware : c₁.link.device.Untouched c₂.link.device) : Unmoved c₁ c₂ := by
  refine ⟨hcontroller, hfirmware, fun block _ => ?_⟩
  show c₂.link.device.read block.window = c₁.link.device.read block.window
  rw [hfirmware]
  rfl

/-- The cursor is put where it is. -/
theorem place_place {enabled : Bool} {x y : Int32} (h : c.place enabled x y = (.ok (), c₁))
    (h' : c₁.place enabled x y = (.ok (), c₂)) : Unmoved c₁ c₂ := by
  obtain ⟨m, l, ⟨event, hplace, hdevice⟩ | ⟨e, hplace, -⟩⟩ := c.place_firmware enabled x y
  swap
  · cases h.symm.trans hplace
  obtain ⟨m', l', ⟨event', hplace', hdevice'⟩ | ⟨e, hplace', -⟩⟩ := c₁.place_firmware enabled x y
  swap
  · cases h'.symm.trans hplace'
  obtain ⟨-, rfl⟩ := Prod.mk.inj (h.symm.trans hplace)
  obtain ⟨-, rfl⟩ := Prod.mk.inj (h'.symm.trans hplace')
  have hthere : l.device.cursorPlace = some ⟨enabled, x.toUInt32, y.toUInt32⟩ := by
    rw [hdevice]
    rfl
  have hstays : { l.device with cursorPlace := some ⟨enabled, x.toUInt32, y.toUInt32⟩ } = l.device := by
    rw [← hthere]
  refine unmoved_of_untouched rfl ?_
  show l.device.Untouched l'.device
  rw [hdevice']
  show l.device.Untouched ({ l.device with cursorPlace := some ⟨enabled, x.toUInt32, y.toUInt32⟩ }.logRequest m')
  rw [hstays]
  exact l.device.untouched_logRequest m'

/-- All of the buffer is cleared before a picture is laid into it. -/
theorem withPicture_eq (block : GpuBlock) (picture : Picture) :
    ∃ zeros bytes, bytes.length ≤ zeros.length ∧ ∀ c : Controller Firmware, (c.withPicture block picture).link.device =
      (c.link.device.write block.window 0 zeros).write block.window 0 bytes := by
  refine ⟨(List.replicate block.window.len.toNat 0).take (block.window.room 0 (List.replicate block.window.len.toNat 0).length),
    (picture.bytesWithin block.window.len.toNat).take
      (block.window.room 0 (picture.bytesWithin block.window.len.toNat).length), ?_, fun _ => rfl⟩
  refine (Window.length_take_room_le block.window 0 _).trans ?_
  simp [Window.room]

/-- The image is uploaded that is uploaded. -/
theorem upload_upload {block : GpuBlock} {picture : Picture} (h : c.upload block picture = (.ok (), c₁))
    (h' : c₁.upload block picture = (.ok (), c₂)) : Unmoved c₁ c₂ := by
  obtain ⟨m, l, ⟨b, event, hupload, hblock, hdevice⟩ | ⟨e, hupload, -⟩⟩ := c.upload_firmware block picture
  swap
  · cases h.symm.trans hupload
  obtain ⟨m', l', ⟨b', event', hupload', hblock', hdevice'⟩ | ⟨e, hupload', -⟩⟩ := c₁.upload_firmware block picture
  swap
  · cases h'.symm.trans hupload'
  obtain ⟨-, rfl⟩ := Prod.mk.inj (h.symm.trans hupload)
  obtain ⟨-, rfl⟩ := Prod.mk.inj (h'.symm.trans hupload')
  obtain ⟨zeros, bytes, hshort, hlaid⟩ := withPicture_eq block picture
  rw [hlaid] at hblock hdevice hblock' hdevice'
  generalize hd : (c.link.device.write block.window 0 zeros).write block.window 0 bytes = d at hblock hdevice
  have hagain : (l.device.write block.window 0 zeros).write block.window 0 bytes = l.device := by
    refine Firmware.write_again c.link.device hshort ?_ ?_
    · rw [hdevice, ← Firmware.write_id c.link.device block.window 0 zeros,
        ← Firmware.write_id (c.link.device.write block.window 0 zeros) block.window 0 bytes, hd]
      rfl
    · rw [hdevice, hd]
      rfl
  have hblocks : l.device.blocks = d.blocks := by
    rw [hdevice]
    rfl
  change ((l.device.write block.window 0 zeros).write block.window 0 bytes).imageBlock? _ = some b' at hblock'
  change l'.device = { (l.device.write block.window 0 zeros).write block.window 0 bytes with
    cursorGeometry := _
    cursorImage := _ }.logRequest m' at hdevice'
  rw [hagain] at hblock' hdevice'
  obtain rfl : b' = b := by
    rw [Firmware.imageBlock?, hblocks] at hblock'
    exact Option.some.inj (hblock'.symm.trans hblock)
  have hstays : { l.device with
      cursorGeometry := some (Firmware.geometryOf picture block.bus)
      cursorImage := some (Firmware.imageOn b' (Firmware.geometryOf picture block.bus)) } = l.device := by
    rw [hdevice]
    rfl
  refine unmoved_of_untouched rfl ?_
  show l.device.Untouched l'.device
  rw [hdevice', hstays]
  exact l.device.untouched_logRequest m'

/-- What succeeds twice might as well have been done once. -/
theorem perform_twice {block : GpuBlock} (hready : c.phase.isReady = true) (hblock : c.transfer = some block)
    (hop : op.Repeatable) (h : (op.perform c).1.Succeeds) (h' : (op.perform (op.perform c).2).1.Succeeds) :
    Unmoved (op.perform c).2 (op.perform (op.perform c).2).2 := by
  have hplaced {enabled : Bool} {x y : Int32} (htarget : c.target? op = some (enabled, x, y)) :
      Unmoved (op.perform c).2 (op.perform (op.perform c).2).2 := by
    obtain ⟨hplace, hok⟩ := perform_of_target hready htarget
    rw [hplace] at h' ⊢
    obtain ⟨hplace', hok'⟩ := perform_of_target (c.place_ready enabled x y hready) (target?_place htarget)
    rw [hplace']
    exact place_place (Prod.ext (hok h) rfl) (Prod.ext (hok' h') rfl)
  cases hop with
  | display | hide | moveTo | enableFor => exact hplaced rfl
  | @load image width height long =>
    have hload := load_eq_upload hready hblock width height long
    have hload' := load_upload_eq hready hblock width height long
    -- what is left after each time
    have hfirst : (Operation.perform c (.load image)).2 = (c.upload block (image.picture c.surface.colors)).2 :=
      congrArg Prod.snd hload
    have hsecond : (Operation.perform (c.upload block (image.picture c.surface.colors)).2 (.load image)).2 =
        ((c.upload block (image.picture c.surface.colors)).2.upload block (image.picture c.surface.colors)).2 :=
      congrArg Prod.snd hload'
    rw [hfirst] at h' ⊢
    rw [hsecond]
    have hok := (congrArg Prod.fst hload).symm.trans h.eq_ok
    have hok' := (congrArg Prod.fst hload').symm.trans h'.eq_ok
    exact upload_upload (Prod.ext hok rfl) (Prod.ext hok' rfl)

/-- **Doing it again does nothing new, and is never left out.** Over any device, whatever it answers: an operation that puts the
cursor somewhere or shows an image sends one message, and the same message once more when it is done again, whatever came of
the first. Over the emulated firmware, when both succeed, the second leaves the controller, its transfer buffer and the firmware
as they were, but for the log. -/
theorem repeated :
    (∀ {δ : Type} [Device δ] (c : Controller δ), c.Reached → c.phase.isReady = true → ∀ op : Operation, op.Repeatable →
      ∃ m, (op.perform c).2.link.sent = c.link.sent.push m ∧
        (op.perform (op.perform c).2).2.link.sent = (c.link.sent.push m).push m) ∧
    ∀ c : Controller Firmware, c.Reached → c.phase.isReady = true → ∀ op : Operation, op.Repeatable →
      (op.perform c).1.Succeeds → (op.perform (op.perform c).2).1.Succeeds →
        Unmoved (op.perform c).2 (op.perform (op.perform c).2).2 := by
  constructor
  · intro δ _ c hreached hready op hop
    obtain ⟨block, hblock⟩ := hreached.transfer_eq_some hready
    exact perform_twice_sent hready hblock hop
  · intro c hreached hready op hop h h'
    obtain ⟨block, hblock⟩ := hreached.transfer_eq_some hready
    exact perform_twice hready hblock hop h h'

/-- A controller that has just started loads an image twice; another one, the requests of which are withheld, is told twice to
show its cursor. -/
theorem repeated_load_and_display :
    let c := (new 0 .default).run [.start]
    let image : Operation := .load (.argb 1 1 #[0xff00ff00])
    let c' : Controller Firmware := { c with link := { c.link with device := c.link.device.set (.withhold .setCursorState) } }
    (c.Reached ∧ c.phase.isReady = true ∧ image.Repeatable ∧ (image.perform c).1 = .done ∧
      (image.perform (image.perform c).2).1 = .done ∧ Unmoved (image.perform c).2 (image.perform (image.perform c).2).2) ∧
    c'.Reached ∧ c'.phase.isReady = true ∧ (Operation.perform c' .display).1 ≠ .done ∧
      ∃ m, (Operation.perform (Operation.perform c' .display).2 .display).2.link.sent = (c'.link.sent.push m).push m := by
  intro c image c'
  have hreached : c.Reached := .performed .start (.created _ _)
  have hready : c.phase.isReady = true := by decide +kernel
  have himage : image.Repeatable := .load (by decide) (by decide) (by decide)
  have hfirst : (image.perform c).1 = .done := by decide +kernel
  have hsecond : (image.perform (image.perform c).2).1 = .done := by decide +kernel
  have hunmoved : Unmoved (image.perform c).2 (image.perform (image.perform c).2).2 :=
    repeated.2 c hreached hready image himage (by rw [hfirst]; nofun) (by rw [hsecond]; nofun)
  have hreached' : c'.Reached := .meanwhile _ hreached
  have hready' : c'.phase.isReady = true := by decide +kernel
  obtain ⟨m, -, hsent⟩ := repeated.1 c' hreached' hready' .display .display
  exact ⟨⟨hreached, hready, himage, hfirst, hsecond, hunmoved⟩, hreached', hready', by decide +kernel, m, hsent⟩

end Controller
end MailboxCursor
