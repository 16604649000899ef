/-
Projections: a device that is another one with something more beside it.

A device that also keeps a record answers as the device inside it does. `Projection` says that forgetting the record commutes
with everything that can be asked of a device; then it commutes with everything that a link and a controller do, which is
`run_map` and `abandon_map` in the end. So what is proved of the record is proved of the run that keeps none.
-/
import Mathlib.Tactic
import MailboxCursor.Cursor.Operation

namespace MailboxCursor

variable {δ ε : Type}

/-- the same outcome, the device seen through `f` -/
def Exchange.map (f : δ → ε) (x : Exchange δ) : Exchange ε :=
  ⟨x.result, x.words, f x.device, x.events⟩

def Access.map {α : Type} (f : δ → ε) (a : Access δ α) : Access ε α :=
  ⟨a.result, f a.device, a.events⟩

structure Projection (δ ε : Type) [Device δ] [Device ε] where
  toFun : δ → ε
  exchange : ∀ d m, Device.exchange (toFun d) m = (Device.exchange d m).map toFun
  openWindow : ∀ d bus len, Device.openWindow (toFun d) bus len = (Device.openWindow d bus len).map toFun
  closeWindow : ∀ d w, Device.closeWindow (toFun d) w = (Device.closeWindow d w).map toFun
  read : ∀ d w, Device.read (toFun d) w = Device.read d w
  write : ∀ d w offset bytes, Device.write (toFun d) w offset bytes = toFun (Device.write d w offset bytes)

variable [Device δ] [Device ε] (f : Projection δ ε)

/-! ## Links -/

namespace Link

def map (l : Link δ) : Link ε :=
  ⟨f.toFun l.device, l.sent, l.events⟩

variable (l : Link δ)

@[simp] theorem map_device : (l.map f).device = f.toFun l.device := rfl
@[simp] theorem note_map (e : Event) : (l.map f).note e = (l.note e).map f := rfl

@[simp] theorem noteUnwinding_map (step : String) (h : MemoryHandle) (r : Except MailboxError Unit) :
    (l.map f).noteUnwinding step h r = (l.noteUnwinding step h r).map f := by
  cases r <;> rfl

theorem send_map (m : Message) : (l.map f).send m = ((l.send m).1, (l.send m).2.1, (l.send m).2.2.map f) := by
  simp only [send, map_device, f.exchange]
  rfl

theorem openWindow_map (bus : BusAddress) (len : UInt64) :
    (l.map f).openWindow bus len = (l.openWindow bus len).map id (map f) := by
  simp only [openWindow, map_device, f.openWindow]
  rfl

theorem closeWindow_map (w : Window) : (l.map f).closeWindow w = (l.closeWindow w).map id (map f) := by
  simp only [closeWindow, map_device, f.closeWindow]
  rfl

theorem read_map (w : Window) : (l.map f).read w = l.read w :=
  f.read l.device w

theorem write_map (w : Window) (offset : Nat) (bytes : List UInt8) :
    (l.map f).write w offset bytes = (l.write w offset bytes).map f := by
  simp only [write, map_device, f.write]
  rfl

theorem sendChecked_map (m : Message) : (l.map f).sendChecked m = (l.sendChecked m).map id (map f) := by
  rw [sendChecked, sendChecked, send_map]
  rcases l.send m with ⟨e | ⟨⟩, answered, l⟩
  · rfl
  · dsimp only
    cases answered.response <;> rfl

theorem ask_map (tag : Tag) (payload : List UInt32) (n : Nat) :
    (l.map f).ask tag payload n = (l.ask tag payload n).map id (map f) := by
  rw [ask, ask]
  cases Message.request tag payload with
  | error e => rfl
  | ok m =>
    simp only [note_map, sendChecked_map]
    rcases (l.note _).sendChecked m with ⟨e | r, l⟩
    · rfl
    · dsimp only [Prod.map_apply, id]
      cases r.first n <;> rfl

theorem askWord_map (tag : Tag) (payload : List UInt32) :
    (l.map f).askWord tag payload = (l.askWord tag payload).map id (map f) := by
  rw [askWord, askWord, ask_map]
  rcases l.ask tag payload 1 with ⟨_ | _, _⟩ <;> rfl

theorem askVersion_map : (l.map f).askVersion = l.askVersion.map id (map f) := by
  rw [askVersion, askVersion, askWord_map]
  rcases l.askWord .getFirmwareVersion [] with ⟨_ | _, _⟩ <;> rfl

theorem allocate_map (size alignment : UInt32) (flags : AllocFlags) :
    (l.map f).allocate size alignment flags = (l.allocate size alignment flags).map id (map f) := by
  rw [allocate, allocate, askWord_map]
  rcases l.askWord .allocateMemory [size, alignment, flags.bits] with ⟨e | handle, l⟩
  · rfl
  · by_cases h : handle = 0 <;> simp [h]

theorem lock_map (handle : MemoryHandle) : (l.map f).lock handle = (l.lock handle).map id (map f) := by
  rw [lock, lock, askWord_map]
  rcases l.askWord .lockMemory [handle.val] with ⟨e | bus, l⟩
  · rfl
  · by_cases h : bus = 0 <;> simp [h]

theorem unlock_map (handle : MemoryHandle) : (l.map f).unlock handle = (l.unlock handle).map id (map f) := by
  rw [unlock, unlock, askWord_map]
  rcases l.askWord .unlockMemory [handle.val] with ⟨e | status, l⟩
  · rfl
  · by_cases h : status = 0 <;> simp [h]

theorem free_map (handle : MemoryHandle) : (l.map f).free handle = (l.free handle).map id (map f) := by
  rw [free, free, askWord_map]
  rcases l.askWord .releaseMemory [handle.val] with ⟨e | status, l⟩
  · rfl
  · by_cases h : status = 0 <;> simp [h]

theorem unwindAllocated_map (handle : MemoryHandle) :
    (l.map f).unwindAllocated handle = (l.unwindAllocated handle).map f := by
  simp only [unwindAllocated, free_map, Prod.map_fst, Prod.map_snd, id, noteUnwinding_map]

theorem unwindLocked_map (handle : MemoryHandle) : (l.map f).unwindLocked handle = (l.unwindLocked handle).map f := by
  simp only [unwindLocked, unlock_map, Prod.map_fst, Prod.map_snd, id, noteUnwinding_map, unwindAllocated_map]

theorem acquire_map (size alignment : UInt32) (flags : AllocFlags) :
    (l.map f).acquire size alignment flags = (l.acquire size alignment flags).map id (map f) := by
  rw [acquire, acquire, allocate_map]
  rcases l.allocate size alignment flags with ⟨e | handle, l⟩
  · rfl
  simp only [Prod.map_apply, id, lock_map]
  rcases l.lock handle with ⟨e | bus, l⟩
  · simp only [Prod.map_apply, id, unwindAllocated_map]
  simp only [Prod.map_apply, id, openWindow_map]
  rcases l.openWindow bus size.toUInt64 with ⟨e | w, l⟩
  · simp only [Prod.map_apply, id, unwindLocked_map]
  · rfl

theorem release_map (b : GpuBlock) : (l.map f).release b = (l.release b).map id (map f) := by
  simp only [release, closeWindow_map, unlock_map, free_map, Prod.map_fst, Prod.map_snd, Prod.map_apply, id, note_map]

end Link

/-! ## Controllers -/

namespace Controller

def map (c : Controller δ) : Controller ε :=
  ⟨c.link.map f, c.settings, c.phase, c.surface, c.firmware, c.transfer⟩

variable (c : Controller δ)

@[simp] theorem map_link : (c.map f).link = c.link.map f := rfl
@[simp] theorem map_settings : (c.map f).settings = c.settings := rfl
@[simp] theorem map_phase : (c.map f).phase = c.phase := rfl
@[simp] theorem map_surface : (c.map f).surface = c.surface := rfl
@[simp] theorem map_transfer : (c.map f).transfer = c.transfer := rfl
@[simp] theorem note_map (e : Event) : (c.map f).note e = (c.note e).map f := rfl

theorem tell_map (tag : Tag) (payload : List UInt32) :
    (c.map f).tell tag payload = (c.tell tag payload).map id (map f) := by
  rw [tell, tell, map_link, Link.askWord_map]
  rcases c.link.askWord tag payload with ⟨e | status, l⟩
  · rfl
  · by_cases h : status = 0
    · simp only [Prod.map_apply, id, if_pos h]
      rfl
    · simp only [Prod.map_apply, id, if_neg h]
      rfl

theorem place_map (enabled : Bool) (x y : Int32) :
    (c.map f).place enabled x y = (c.place enabled x y).map id (map f) := by
  rw [place, place, tell_map]
  rcases c.tell .setCursorState _ with ⟨_ | ⟨⟩, _⟩ <;> rfl

theorem prepare_map : (c.map f).prepare = c.prepare.map id (map f) := by
  rw [prepare, prepare, map_link, Link.askVersion_map]
  rcases c.link.askVersion with ⟨e | v, l⟩
  · rfl
  by_cases h : v.val < c.settings.minFirmware.val
  · simp only [Prod.map_apply, id, map_settings, h, if_true]
    rfl
  simp only [Prod.map_apply, id, map_settings, h, if_false, Link.acquire_map]
  rcases l.acquire cursorBufferBytes pageAlignment .l1NonAllocating with ⟨e | block, l⟩
  · rfl
  · simp only [Prod.map_apply, id, Link.write_map]
    rfl

theorem start_map : (c.map f).start = c.start.map id (map f) := by
  rw [start, start, map_phase]
  cases c.phase with
  | uninitialized =>
    simp only [prepare_map]
    rcases c.prepare with ⟨_ | ⟨⟩, _⟩ <;> rfl
  | hidden => rfl
  | visible => rfl
  | unavailable => rfl
  | closed => rfl

theorem releaseTransfer_map : (c.map f).releaseTransfer = c.releaseTransfer.map id (map f) := by
  rw [releaseTransfer, releaseTransfer, map_transfer]
  cases c.transfer with
  | none => rfl
  | some block =>
    simp only [map_link, Link.release_map]
    rcases c.link.release block with ⟨_ | ⟨⟩, _⟩ <;> rfl

theorem close_map : (c.map f).close = c.close.map id (map f) := by
  obtain ⟨link, settings, phase, surface, firmware, transfer⟩ := c
  have htold : tell ⟨link.map f, settings, .closed, surface, firmware, transfer⟩ .setCursorState
        [0, surface.x.toUInt32, surface.y.toUInt32] =
      (tell ⟨link, settings, .closed, surface, firmware, transfer⟩ .setCursorState
        [0, surface.x.toUInt32, surface.y.toUInt32]).map id (map f) :=
    tell_map f ⟨link, settings, .closed, surface, firmware, transfer⟩ _ _
  have hhidden (c : Controller δ) : ({ c.map f with surface := { c.surface with enabled := false } } : Controller ε) =
      map f { c with surface := { c.surface with enabled := false } } := rfl
  rw [close, close]
  by_cases h : phase.isReady = true
  · simp only [map, h, if_true, htold]
    rcases tell ⟨link, settings, .closed, surface, firmware, transfer⟩ .setCursorState _ with ⟨e | ⟨⟩, c⟩
    · simp only [Prod.map_apply, id, releaseTransfer_map]
      rfl
    · simp only [Prod.map_apply, id, map_surface, hhidden, releaseTransfer_map]
      rfl
  · simp only [map_phase, h]
    rfl

theorem abandon_map : (c.map f).abandon = c.abandon.map f := by
  rw [abandon, abandon, close_map]
  rcases c.close with ⟨_ | ⟨⟩, _⟩ <;> rfl

theorem display_map : (c.map f).display = c.display.map id (map f) := by
  rw [display, display, map_phase]
  split_ifs
  · exact place_map f c _ _ _
  · rfl

theorem hide_map : (c.map f).hide = c.hide.map id (map f) := by
  rw [hide, hide, map_phase]
  split_ifs
  · exact place_map f c _ _ _
  · rfl

theorem moveTo_map (x y : Int32) : (c.map f).moveTo x y = (c.moveTo x y).map id (map f) := by
  rw [moveTo, moveTo, map_phase]
  split_ifs
  · exact place_map f c _ _ _
  · rfl

theorem enableFor_map (width height : UInt32) :
    (c.map f).enableFor width height = (c.enableFor width height).map id (map f) := by
  rw [enableFor, enableFor, map_phase]
  split_ifs
  · simp only [place_map, map_surface]
    rcases c.place (width ≤ maxCursorSize && height ≤ maxCursorSize) c.surface.x c.surface.y with ⟨_ | ⟨⟩, _⟩ <;> rfl
  · rfl

theorem refuseImage_map (width height : UInt32) :
    (c.map f).refuseImage width height = (c.refuseImage width height).map id (map f) := by
  rw [refuseImage, refuseImage, map_surface]
  split_ifs
  · simp only [place_map]
    rcases c.place false c.surface.x c.surface.y with ⟨_ | ⟨⟩, _⟩ <;> rfl
  · rfl

theorem upload_map (block : GpuBlock) (picture : Picture) :
    (c.map f).upload block picture = (c.upload block picture).map id (map f) := by
  simp only [upload, map_link, Link.write_map]
  rw [show ∀ l, ({ c.map f with link := l.map f } : Controller ε) = map f { c with link := l } from fun _ => rfl,
    tell_map]
  rcases tell { c with link := _ } .setCursorInfo _ with ⟨_ | ⟨⟩, _⟩ <;> rfl

theorem load_map (image : Image) : (c.map f).load image = (c.load image).map id (map f) := by
  rw [load, load, map_phase, map_surface, map_transfer]
  split_ifs
  · exact refuseImage_map f c _ _
  · cases image.render c.surface.colors with
    | error e => rfl
    | ok picture =>
      cases c.transfer with
      | none => rfl
      | some block => exact upload_map f c block picture
  · rfl

theorem noteFailure_map (op : String) (r : Except CursorError Unit × Controller δ) :
    noteFailure op (r.map id (map f)) = (noteFailure op r).map f := by
  rcases r with ⟨_ | ⟨⟩, _⟩ <;> rfl

theorem hostEnable_map (width height : UInt32) :
    (c.map f).hostEnable width height = (c.hostEnable width height).map id (map f) := by
  rw [hostEnable, hostEnable, enableFor_map]
  rcases c.enableFor width height with ⟨_ | _, _⟩ <;> rfl

end Controller

theorem Operation.perform_map (c : Controller δ) (op : Operation) :
    op.perform (c.map f) = (op.perform c).map id (Controller.map f) := by
  cases op with
  | start => simp only [perform, Controller.start_map]; rfl
  | display => simp only [perform, Controller.display_map]; rfl
  | hide => simp only [perform, Controller.hide_map]; rfl
  | moveTo x y => simp only [perform, Controller.moveTo_map]; rfl
  | recolor colors => rfl
  | enableFor width height => simp only [perform, Controller.enableFor_map]; rfl
  | load image => simp only [perform, Controller.load_map]; rfl
  | close => simp only [perform, Controller.close_map]; rfl
  | hostShow => simp only [perform, Controller.hostShow, Controller.display_map, Controller.noteFailure_map]; rfl
  | hostHide => simp only [perform, Controller.hostHide, Controller.hide_map, Controller.noteFailure_map]; rfl
  | hostMove x y => simp only [perform, Controller.hostMove, Controller.moveTo_map, Controller.noteFailure_map]; rfl
  | hostColors colors => rfl
  | hostLoad width height bits =>
    simp only [perform, Controller.hostLoad, Controller.load_map, Controller.noteFailure_map]
    rfl
  | hostLoadPixels width height pixels =>
    simp only [perform, Controller.hostLoadPixels, Controller.load_map, Controller.noteFailure_map]
    rfl
  | hostEnable width height => simp only [perform, Controller.hostEnable_map]; rfl

/-- A run seen through a projection is the run of what is seen. -/
theorem Controller.run_map (c : Controller δ) (ops : List Operation) : (c.map f).run ops = (c.run ops).map f := by
  induction ops generalizing c with
  | nil => rfl
  | cons op ops ih =>
    show ((op.perform (c.map f)).2).run ops = (((op.perform c).2).run ops).map f
    rw [Operation.perform_map, ← ih]
    rfl

end MailboxCursor
