/-
How a controller's operations are put together, over any device.

Every operation comes down to `tell` (one request that is answered with a status), to the acquisition and release of the
transfer buffer, and to changes of the controller's own record. `tell_eq`, `place_cases`, `upload_cases`, `start_cases` and
`close_eq` list what each can do. `Invariant.perform` is the form for invariants: what the few steps keep, every operation
keeps, the windowing system's calls included, and every run (`Invariant.run`). A property that only uploads can break is
`Steady`, and what no exchange but that of a picture changes of the device is of that kind (`Steady.of_keeps`).
-/
import MailboxCursor.Cursor.Operation
import MailboxCursor.Proofs.Device.Ask

namespace MailboxCursor

/-- the record of a cursor put at a place, shown or not -/
def Surface.putAt (s : Surface) (enabled : Bool) (x y : Int32) : Surface :=
  { s with enabled := enabled, x := x, y := y }

/-- the record of a cursor with a new picture -/
def Surface.drawnAs (s : Surface) (picture : Picture) : Surface :=
  { s with
    width := picture.width
    height := picture.height
    format := argbFormat
    hotspotX := picture.hotspotX
    hotspotY := picture.hotspotY }

theorem Phase.ne_uninitialized {p : Phase} (h : p.isReady = true) : p ≠ .uninitialized := by
  rintro rfl
  cases h

namespace Controller

variable {δ : Type}

variable [Device δ]

/-! ## One request -/

/-- what a status means to a controller: any but zero is a refusal -/
def verdict (tag : Tag) : Except MailboxError UInt32 → Except CursorError Unit
  | .error e => .error (.mailbox e)
  | .ok status => if status = 0 then .ok () else .error (.firmwareRejected tag status)

/-- A request changes nothing of a controller but its link, and the link as the request for one word does. -/
theorem tell_eq (c : Controller δ) (tag : Tag) (p : List UInt32) :
    ∃ l, c.tell tag p = (verdict tag (c.link.askWord tag p).1, { c with link := l }) ∧
      l.device = (c.link.askWord tag p).2.device ∧ l.sent = (c.link.askWord tag p).2.sent := by
  rw [tell]
  rcases c.link.askWord tag p with ⟨e | status, l⟩
  · exact ⟨l, rfl, rfl, rfl⟩
  · dsimp only
    by_cases h : status = 0
    · rw [if_pos h]
      exact ⟨l, by simp [verdict, h], rfl, rfl⟩
    · rw [if_neg h]
      exact ⟨_, Prod.ext (by rw [verdict, if_neg h]) rfl, rfl, rfl⟩

/-! ## Operations -/

/-- the request that puts the cursor at a place -/
def placeRequest (enabled : Bool) (x y : Int32) : List UInt32 :=
  [if enabled then 1 else 0, x.toUInt32, y.toUInt32]

/-- the request that points the firmware at a picture -/
def pictureRequest (picture : Picture) (bus : BusAddress) : List UInt32 :=
  [picture.width, picture.height, argbFormat, bus.val, picture.hotspotX, picture.hotspotY]

/-- the phase of a cursor that is shown or not -/
def shownPhase (enabled : Bool) : Phase :=
  if enabled then .visible else .hidden

theorem place_cases (c : Controller δ) (enabled : Bool) (x y : Int32) :
    (∃ e c', c.tell .setCursorState (placeRequest enabled x y) = (.error e, c') ∧
      c.place enabled x y = (.error e, c')) ∨
    ∃ c' event, c.tell .setCursorState (placeRequest enabled x y) = (.ok (), c') ∧
      c.place enabled x y =
        (.ok (), { c' with surface := c'.surface.putAt enabled x y, phase := shownPhase enabled }.note event) := by
  rw [place, placeRequest]
  rcases c.tell .setCursorState [if enabled then 1 else 0, x.toUInt32, y.toUInt32] with ⟨e | ⟨⟩, c'⟩
  · exact Or.inl ⟨e, c', rfl, rfl⟩
  · exact Or.inr ⟨c', _, rfl, rfl⟩

/-- the controller once a picture lies in its transfer buffer -/
def withPicture (c : Controller δ) (block : GpuBlock) (picture : Picture) : Controller δ :=
  { c with
    link := (c.link.write block.window 0 (List.replicate block.window.len.toNat 0)).write block.window 0
      (picture.bytesWithin block.window.len.toNat) }

theorem upload_cases (c : Controller δ) (block : GpuBlock) (picture : Picture) :
    (∃ e c', (c.withPicture block picture).tell .setCursorInfo (pictureRequest picture block.bus) = (.error e, c') ∧
      c.upload block picture = (.error e, c')) ∨
    ∃ c' event, (c.withPicture block picture).tell .setCursorInfo (pictureRequest picture block.bus) = (.ok (), c') ∧
      c.upload block picture = (.ok (), { c' with surface := c'.surface.drawnAs picture }.note event) := by
  simp only [upload, pictureRequest, withPicture]
  rcases tell _ .setCursorInfo _ with ⟨e | ⟨⟩, c'⟩
  · exact Or.inl ⟨e, c', rfl, rfl⟩
  · exact Or.inr ⟨c', _, rfl, rfl⟩

/-- A load that gets as far as a picture ends as the upload of it; any other ends before the transfer buffer. -/
theorem load_cases (c : Controller δ) (image : Image) :
    (c.phase.isReady = false ∧ c.load image = (.ok (), c)) ∨
    (c.phase.isReady = true ∧ (maxCursorSize < image.width ∨ maxCursorSize < image.height) ∧
      c.load image = c.refuseImage image.width image.height) ∨
    (c.phase.isReady = true ∧ image.width ≤ maxCursorSize ∧ image.height ≤ maxCursorSize ∧
      ((∃ e, image.render c.surface.colors = .error e ∧ c.load image = (.error (.raster e), c)) ∨
        ∃ picture, image.render c.surface.colors = .ok picture ∧
          (c.transfer = none ∧ c.load image = (.ok (), c) ∨
            ∃ block, c.transfer = some block ∧ c.load image = c.upload block picture))) := by
  rw [load]
  by_cases hready : c.phase.isReady = true
  swap
  · exact Or.inl ⟨by simpa using hready, by rw [if_neg hready]⟩
  right
  rw [if_pos hready]
  by_cases hlarge : maxCursorSize < image.width ∨ maxCursorSize < image.height
  · exact Or.inl ⟨hready, hlarge, by rw [if_pos hlarge]⟩
  right
  rw [if_neg hlarge]
  rw [not_or, UInt32.not_lt, UInt32.not_lt] at hlarge
  refine ⟨hready, hlarge.1, hlarge.2, ?_⟩
  rcases image.render c.surface.colors with e | picture
  · exact Or.inl ⟨e, rfl, rfl⟩
  · refine Or.inr ⟨picture, rfl, ?_⟩
    cases c.transfer with
    | none => exact Or.inl ⟨rfl, rfl⟩
    | some block => exact Or.inr ⟨block, rfl, rfl⟩

/-- A controller that starts asks for the version, and acquires and clears its transfer buffer if that is new enough. -/
theorem start_cases (c : Controller δ) (h : c.phase = .uninitialized) :
    (∃ e l event, c.link.askVersion = (.error e, l) ∧
      c.start = (.error (.mailbox e), { c with link := l.note event, phase := .unavailable })) ∨
    (∃ v l event, c.link.askVersion = (.ok v, l) ∧ v.val < c.settings.minFirmware.val ∧
      c.start = (.error (.unsupportedFirmware v c.settings.minFirmware),
        { c with link := l.note event, phase := .unavailable, firmware := some v })) ∨
    (∃ v l e l' event, c.link.askVersion = (.ok v, l) ∧ ¬v.val < c.settings.minFirmware.val ∧
      l.acquire cursorBufferBytes pageAlignment .l1NonAllocating = (.error e, l') ∧
      c.start = (.error (.mailbox e),
        { c with link := l'.note event, phase := .unavailable, firmware := some v })) ∨
    ∃ v l block l' event event', c.link.askVersion = (.ok v, l) ∧ ¬v.val < c.settings.minFirmware.val ∧
      l.acquire cursorBufferBytes pageAlignment .l1NonAllocating = (.ok block, l') ∧
      c.start = (.ok (),
        { c with
          link := ((l'.write block.window 0 (List.replicate block.window.len.toNat 0)).note event).note event'
          phase := .hidden
          firmware := some v
          transfer := some block }) := by
  simp only [start, h, prepare]
  rcases hversion : c.link.askVersion with ⟨e | v, l⟩
  · exact Or.inl ⟨e, l, _, rfl, rfl⟩
  right
  dsimp only
  by_cases hold : v.val < c.settings.minFirmware.val
  · rw [if_pos hold]
    exact Or.inl ⟨v, l, _, rfl, hold, rfl⟩
  right
  rw [if_neg hold]
  rcases hacquired : l.acquire cursorBufferBytes pageAlignment .l1NonAllocating with ⟨e | block, l'⟩
  · exact Or.inl ⟨v, l, e, l', _, rfl, hold, hacquired, rfl⟩
  · exact Or.inr ⟨v, l, block, l', _, _, rfl, hold, hacquired, rfl⟩

/-- Starting keeps what its requests, the mapping and writing keep of the device. -/
theorem start_keeps {P : δ → Prop} (hv : Link.Keeps P .getFirmwareVersion) (ha : Link.Keeps P .allocateMemory)
    (hl : Link.Keeps P .lockMemory) (hu : Link.Keeps P .unlockMemory) (hr : Link.Keeps P .releaseMemory)
    (ho : ∀ d bus len, P d → P (Device.openWindow d bus len).device)
    (hw : ∀ d w offset bytes, P d → P (Device.write d w offset bytes)) (c : Controller δ)
    (hphase : c.phase = .uninitialized) (h : P c.link.device) : P c.start.2.link.device := by
  have hasked := Link.askVersion_keeps hv h
  rcases start_cases c hphase with ⟨e, l, event, hversion, hstart⟩ | ⟨v, l, event, hversion, -, hstart⟩ |
    ⟨v, l, e, l', event, hversion, -, hacquired, hstart⟩ |
    ⟨v, l, block, l', event, event', hversion, -, hacquired, hstart⟩
  all_goals
    rw [hversion] at hasked
    rw [hstart]
  · exact hasked
  · exact hasked
  all_goals
    have hgot : P (l.acquire cursorBufferBytes pageAlignment .l1NonAllocating).2.device :=
      Link.acquire_keeps hl hu hr ho (Link.allocate_keeps ha hasked)
    rw [hacquired] at hgot
  · exact hgot
  · exact hw _ _ _ _ hgot

theorem tell_keeps {P : δ → Prop} {tag : Tag} {payload : List UInt32} (hx : Link.Keeps P tag) (c : Controller δ)
    (h : P c.link.device) : P (c.tell tag payload).2.link.device := by
  obtain ⟨l, htold, hdevice, -⟩ := c.tell_eq tag payload
  rw [htold]
  show P l.device
  rw [hdevice]
  exact Link.askWord_keeps hx h

theorem place_keeps {P : δ → Prop} (hs : Link.Keeps P .setCursorState) (c : Controller δ) (enabled : Bool) (x y : Int32)
    (h : P c.link.device) : P (c.place enabled x y).2.link.device := by
  have hkept : P (c.tell .setCursorState (placeRequest enabled x y)).2.link.device := tell_keeps hs c h
  rcases place_cases c enabled x y with ⟨e, c', htold, hplace⟩ | ⟨c', event, htold, hplace⟩
  all_goals
    rw [htold] at hkept
    rw [hplace]
    exact hkept

/-- Uploading keeps what the request for a picture and writing keep of the device. -/
theorem upload_keeps {P : δ → Prop} (hi : Link.Keeps P .setCursorInfo)
    (hw : ∀ d w offset bytes, P d → P (Device.write d w offset bytes)) (c : Controller δ) (block : GpuBlock)
    (picture : Picture) (h : P c.link.device) : P (c.upload block picture).2.link.device := by
  have hwritten : P (c.withPicture block picture).link.device := hw _ _ _ _ (hw _ _ _ _ h)
  have hkept : P ((c.withPicture block picture).tell .setCursorInfo
      (pictureRequest picture block.bus)).2.link.device := tell_keeps hi _ hwritten
  rcases upload_cases c block picture with ⟨e, c', htold, hupload⟩ | ⟨c', event, htold, hupload⟩
  all_goals
    rw [htold] at hkept
    rw [hupload]
    exact hkept

/-- A ready controller is ready after it has put the cursor somewhere, or failed to. -/
theorem place_ready (c : Controller δ) (enabled : Bool) (x y : Int32) (h : c.phase.isReady = true) :
    (c.place enabled x y).2.phase.isReady = true := by
  obtain ⟨l, htold, -, -⟩ := c.tell_eq .setCursorState (placeRequest enabled x y)
  rcases place_cases c enabled x y with ⟨e, c', htold', hplace⟩ | ⟨c', event, -, hplace⟩
  · rw [hplace, ← (Prod.mk.inj (htold.symm.trans htold')).2]
    exact h
  · rw [hplace]
    cases enabled <;> rfl

theorem upload_phase (c : Controller δ) (block : GpuBlock) (picture : Picture) :
    (c.upload block picture).2.phase = c.phase := by
  obtain ⟨l, htold, -, -⟩ :=
    (c.withPicture block picture).tell_eq .setCursorInfo (pictureRequest picture block.bus)
  rcases upload_cases c block picture with ⟨e, c', htold', hupload⟩ | ⟨c', event, htold', hupload⟩
  all_goals
    rw [hupload]
    obtain ⟨-, rfl⟩ := Prod.mk.inj (htold.symm.trans htold')
    rfl

theorem start_of_started (c : Controller δ) (h : c.phase ≠ .uninitialized) : c.start.2 = c := by
  rw [start]
  cases hphase : c.phase with
  | uninitialized => exact absurd hphase h
  | hidden => rfl
  | visible => rfl
  | unavailable => rfl
  | closed => rfl

/-- the record of a cursor that is taken off the screen, if the firmware agreed to it -/
def afterHide (s : Surface) : Except CursorError Unit → Surface
  | .ok () => { s with enabled := false }
  | .error _ => s

/-- the link once the transfer buffer, if there is one, is given back -/
def givenBack (l : Link δ) : Option GpuBlock → Link δ
  | none => l
  | some block => (l.release block).2

theorem releaseTransfer_eq (c : Controller δ) :
    c.releaseTransfer.2 = { c with link := givenBack c.link c.transfer, transfer := none } := by
  obtain ⟨link, settings, phase, surface, firmware, transfer⟩ := c
  cases transfer with
  | none => rfl
  | some block =>
    simp only [releaseTransfer, givenBack]
    rcases link.release block with ⟨e | ⟨⟩, l⟩
    · rfl
    · rfl

/-- A controller that closes hides the cursor and releases its transfer buffer, whatever comes of either. -/
theorem close_eq (c : Controller δ) (h : c.phase.isReady = true) :
    ∃ hidden l event,
      { c with phase := .closed }.tell .setCursorState (placeRequest false c.surface.x c.surface.y) =
        (hidden, { c with phase := .closed, link := l }) ∧
      c.close.2 =
        { c with
          link := (givenBack l c.transfer).note event
          phase := .closed
          surface := afterHide c.surface hidden
          transfer := none } := by
  obtain ⟨l, htold, -, -⟩ :=
    tell_eq { c with phase := .closed } .setCursorState (placeRequest false c.surface.x c.surface.y)
  generalize verdict .setCursorState _ = hidden at htold
  have hreleased := releaseTransfer_eq { c with link := l, phase := .closed, surface := afterHide c.surface hidden }
  refine ⟨hidden, l, .info "hardware cursor closed", htold, ?_⟩
  simp only [placeRequest, Bool.false_eq_true, if_false] at htold
  rw [close, if_pos h]
  simp only [htold]
  cases hidden <;> simp only [afterHide] at hreleased ⊢ <;> rw [hreleased] <;> rfl

theorem givenBack_keeps {P : δ → Prop} (hu : Link.Keeps P .unlockMemory) (hr : Link.Keeps P .releaseMemory)
    (hc : ∀ d w, P d → P (Device.closeWindow d w).device) {l : Link δ} (transfer : Option GpuBlock) (h : P l.device) :
    P (givenBack l transfer).device := by
  cases transfer with
  | none => exact h
  | some block => exact Link.release_keeps hu hr (hc _ _ h)

theorem close_of_not_ready (c : Controller δ) (h : c.phase.isReady = false) : c.close.2 = { c with phase := .closed } := by
  rw [close, h]
  rfl

theorem close_phase (c : Controller δ) : c.close.2.phase = .closed := by
  by_cases h : c.phase.isReady = true
  · obtain ⟨hidden, l, event, -, hclose⟩ := close_eq c h
    rw [hclose]
  · rw [close_of_not_ready c (by simpa using h)]

theorem abandon_phase (c : Controller δ) : c.abandon.phase = .closed := by
  have hclosed := c.close_phase
  rw [abandon]
  rcases hclose : c.close with ⟨e | ⟨⟩, c'⟩
  · rw [hclose] at hclosed
    exact hclosed
  · rw [hclose] at hclosed
    exact hclosed

theorem close_keeps {P : δ → Prop} (hs : Link.Keeps P .setCursorState) (hu : Link.Keeps P .unlockMemory)
    (hr : Link.Keeps P .releaseMemory) (hc : ∀ d w, P d → P (Device.closeWindow d w).device) (c : Controller δ)
    (h : P c.link.device) : P c.close.2.link.device := by
  by_cases hready : c.phase.isReady = true
  · obtain ⟨hidden, l, event, htold, hclose⟩ := close_eq c hready
    have hkept : P (tell { c with phase := .closed } .setCursorState
        (placeRequest false c.surface.x c.surface.y)).2.link.device := tell_keeps hs _ h
    rw [htold] at hkept
    rw [hclose]
    exact givenBack_keeps hu hr hc c.transfer hkept
  · rw [close_of_not_ready c (by simpa using hready)]
    exact h

/-! ## What every step keeps -/

/-- a property that every step but the upload of a picture keeps -/
structure Steady (P : Controller δ → Prop) : Prop where
  note : ∀ c e, P c → P (c.note e)
  recolor : ∀ c colors, P c → P (c.recolor colors)
  start : ∀ c, c.phase = .uninitialized → P c → P c.start.2
  place : ∀ c enabled x y, c.phase.isReady = true → P c → P (c.place enabled x y).2
  close : ∀ c, P c → P c.close.2

/-- a property that every step of an operation keeps -/
structure Invariant (P : Controller δ → Prop) : Prop extends Steady P where
  upload : ∀ c (image : Image) picture block, c.phase.isReady = true → image.width ≤ maxCursorSize →
    image.height ≤ maxCursorSize → image.render c.surface.colors = .ok picture → c.transfer = some block →
    P c → P (c.upload block picture).2

/-- the image that an operation loads -/
def image? (c : Controller δ) : Operation → Option Image
  | .load image => some image
  | .hostLoad width height bits => some (c.hostImage width height bits)
  | .hostLoadPixels width height pixels => some (.argb width height pixels)
  | _ => none

namespace Steady

variable {P : Controller δ → Prop}

/-- What no exchange but that of a picture changes of the device, no step but an upload changes. -/
theorem of_keeps {P : δ → Prop} (hx : ∀ tag, tag ≠ .setCursorInfo → Link.Keeps P tag)
    (ho : ∀ d bus len, P d → P (Device.openWindow d bus len).device)
    (hc : ∀ d w, P d → P (Device.closeWindow d w).device)
    (hw : ∀ d w offset bytes, P d → P (Device.write d w offset bytes)) :
    Steady fun c : Controller δ => P c.link.device where
  note _ _ h := h
  recolor _ _ h := h
  start c hphase h := start_keeps (hx _ (by decide)) (hx _ (by decide)) (hx _ (by decide)) (hx _ (by decide))
    (hx _ (by decide)) ho hw c hphase h
  place c enabled x y _ h := place_keeps (hx _ (by decide)) c enabled x y h
  close c h := close_keeps (hx _ (by decide)) (hx _ (by decide)) (hx _ (by decide)) hc c h

theorem display (hP : Steady P) (c : Controller δ) (h : P c) : P c.display.2 := by
  rw [Controller.display]
  split_ifs with hready
  · exact hP.place c _ _ _ hready h
  · exact h

theorem hide (hP : Steady P) (c : Controller δ) (h : P c) : P c.hide.2 := by
  rw [Controller.hide]
  split_ifs with hready
  · exact hP.place c _ _ _ hready h
  · exact h

theorem moveTo (hP : Steady P) (c : Controller δ) (x y : Int32) (h : P c) : P (c.moveTo x y).2 := by
  rw [Controller.moveTo]
  split_ifs with hready
  · exact hP.place c _ _ _ hready h
  · exact h

theorem enableFor (hP : Steady P) (c : Controller δ) (width height : UInt32) (h : P c) :
    P (c.enableFor width height).2 := by
  rw [Controller.enableFor]
  split_ifs with hready
  · have hplaced := hP.place c (width ≤ maxCursorSize && height ≤ maxCursorSize) c.surface.x c.surface.y hready h
    rcases hplace : c.place (width ≤ maxCursorSize && height ≤ maxCursorSize) c.surface.x c.surface.y with ⟨e | ⟨⟩, c'⟩
    · rw [hplace] at hplaced
      simp only [hplace]
      exact hplaced
    · rw [hplace] at hplaced
      simp only [hplace]
      exact hplaced
  · exact h

theorem refuseImage (hP : Steady P) (c : Controller δ) (width height : UInt32) (hready : c.phase.isReady = true)
    (h : P c) : P (c.refuseImage width height).2 := by
  rw [Controller.refuseImage]
  split_ifs
  · have hplaced := hP.place c false c.surface.x c.surface.y hready h
    rcases hplace : c.place false c.surface.x c.surface.y with ⟨e | ⟨⟩, c'⟩
    · rw [hplace] at hplaced
      exact hplaced
    · rw [hplace] at hplaced
      exact hplaced
  · exact h

theorem startAny (hP : Steady P) (c : Controller δ) (h : P c) : P c.start.2 := by
  by_cases hphase : c.phase = .uninitialized
  · exact hP.start c hphase h
  · rw [start_of_started c hphase]
    exact h

theorem noteFailure (hP : Steady P) (op : String) {r : Except CursorError Unit × Controller δ} (h : P r.2) :
    P (Controller.noteFailure op r) := by
  rcases r with ⟨e | ⟨⟩, c⟩
  · exact hP.note c _ h
  · exact h

theorem hostEnable (hP : Steady P) (c : Controller δ) (width height : UInt32) (h : P c) :
    P (c.hostEnable width height).2 := by
  have henabled := hP.enableFor c width height h
  rw [Controller.hostEnable]
  rcases henable : c.enableFor width height with ⟨e | on, c'⟩
  · rw [henable] at henabled
    exact hP.note c' _ henabled
  · rw [henable] at henabled
    exact henabled

/-- Every operation keeps what its steps keep, if the load of an image does. -/
theorem perform (hP : Steady P) (c : Controller δ) (op : Operation)
    (hload : ∀ image, c.image? op = some image → P (c.load image).2) (h : P c) : P (op.perform c).2 := by
  cases op with
  | start => exact hP.startAny c h
  | display => exact hP.display c h
  | hide => exact hP.hide c h
  | moveTo x y => exact hP.moveTo c x y h
  | recolor colors => exact hP.recolor c colors h
  | enableFor width height => exact hP.enableFor c width height h
  | load image => exact hload image rfl
  | close => exact hP.close c h
  | hostShow => exact hP.noteFailure _ (hP.display c h)
  | hostHide => exact hP.noteFailure _ (hP.hide c h)
  | hostMove x y => exact hP.noteFailure _ (hP.moveTo c x y h)
  | hostColors colors => exact hP.recolor c colors h
  | hostLoad width height bits => exact hP.noteFailure _ (hload _ rfl)
  | hostLoadPixels width height pixels => exact hP.noteFailure _ (hload _ rfl)
  | hostEnable width height => exact hP.hostEnable c width height h

end Steady

namespace Invariant

variable {P : Controller δ → Prop}

/-- What nothing changes of the device, no step changes. -/
theorem of_keeps {P : δ → Prop} (hx : ∀ tag, Link.Keeps P tag)
    (ho : ∀ d bus len, P d → P (Device.openWindow d bus len).device)
    (hc : ∀ d w, P d → P (Device.closeWindow d w).device)
    (hw : ∀ d w offset bytes, P d → P (Device.write d w offset bytes)) :
    Invariant fun c : Controller δ => P c.link.device where
  toSteady := Steady.of_keeps (fun tag _ => hx tag) ho hc hw
  upload c _ picture block _ _ _ _ _ h := upload_keeps (hx _) hw c block picture h

theorem load (hP : Invariant P) (c : Controller δ) (image : Image) (h : P c) : P (c.load image).2 := by
  rcases load_cases c image with ⟨-, hload⟩ | ⟨hready, -, hload⟩ | ⟨hready, hw, hh, hload⟩
  · rw [hload]
    exact h
  · rw [hload]
    exact hP.toSteady.refuseImage c _ _ hready h
  · rcases hload with ⟨e, -, hload⟩ | ⟨picture, hpicture, ⟨-, hload⟩ | ⟨block, hblock, hload⟩⟩
    · rw [hload]
      exact h
    · rw [hload]
      exact h
    · rw [hload]
      exact hP.upload c image picture block hready hw hh hpicture hblock h

/-- Every operation keeps what its steps keep, and so do the windowing system's calls. -/
theorem perform (hP : Invariant P) (c : Controller δ) (op : Operation) (h : P c) : P (op.perform c).2 :=
  hP.toSteady.perform c op (fun image _ => hP.load c image h) h

theorem run (hP : Invariant P) (c : Controller δ) (ops : List Operation) (h : P c) : P (c.run ops) := by
  induction ops generalizing c with
  | nil => exact h
  | cons op ops ih => exact ih _ (hP.perform c op h)

theorem abandon (hP : Invariant P) (c : Controller δ) (h : P c) : P c.abandon := by
  have hclosed := hP.close c h
  rw [Controller.abandon]
  rcases hclose : c.close with ⟨e | ⟨⟩, c'⟩
  · rw [hclose] at hclosed
    exact hP.note c' _ hclosed
  · rw [hclose] at hclosed
    exact hclosed

end Invariant
end Controller
end MailboxCursor
