/-
What colours and pixels decide, one operation at a time: nothing.

Images have the same shape if they differ in what they show and in nothing else (`Image.SameShape`). They are refused for the
same reason or make pictures of the same size (`SameShape.render`). Two controllers are alike if nothing tells them apart but
their colours and what lies behind the window of the transfer buffer (`Controller.Alike`). Everything that is done to two of
them, but for colours and with images of the same shape, ends the same and leaves them alike (`Alike.perform`); so does the
end (`Alike.abandon`).

The one exception is the start, which opens the window: there the two have to be over the same device still
(`start_recolor`).
-/
import MailboxCursor.Cursor.Operation
import MailboxCursor.Proofs.Cursor.Steps
import MailboxCursor.Proofs.Device.Veil

namespace MailboxCursor

/-! ## Shapes -/

/-- images of the same kind, size and layout, with planes of the same length -/
inductive Image.SameShape : Image → Image → Prop where
  | mono (width height : UInt32) (layout : PlaneLayout) {source source' mask mask' : Array UInt8}
    (sources : source.size = source'.size) (masks : mask.size = mask'.size) :
    SameShape (.mono width height source mask layout) (.mono width height source' mask' layout)
  | argb (width height : UInt32) {pixels pixels' : Array UInt32} (lengths : pixels.size = pixels'.size) :
    SameShape (.argb width height pixels) (.argb width height pixels')

/-- the same operation, but for colours and for what an image shows -/
inductive Operation.SameShape : Operation → Operation → Prop where
  | same (op : Operation) : SameShape op op
  | recolor (colors colors' : Palette) : SameShape (.recolor colors) (.recolor colors')
  | hostColors (colors colors' : Palette) : SameShape (.hostColors colors) (.hostColors colors')
  | load {image image' : Image} (images : image.SameShape image') : SameShape (.load image) (.load image')
  | hostLoad (width height : UInt32) {bits bits' : Array UInt8} (lengths : bits.size = bits'.size) :
    SameShape (.hostLoad width height bits) (.hostLoad width height bits')
  | hostLoadPixels (width height : UInt32) {pixels pixels' : Array UInt32} (lengths : pixels.size = pixels'.size) :
    SameShape (.hostLoadPixels width height pixels) (.hostLoadPixels width height pixels')

/-- pictures that differ in their pixels only -/
inductive Picture.SameShape (p : Picture) : Picture → Prop where
  | mk {pixels : Array UInt32} (lengths : p.pixels.size = pixels.size) : SameShape p { p with pixels := pixels }

theorem Picture.SameShape.length_bytesWithin {p p' : Picture} (h : p.SameShape p') (room : Nat) :
    (p.bytesWithin room).length = (p'.bytesWithin room).length := by
  obtain ⟨hlengths⟩ := h
  simp only [Picture.length_bytesWithin, hlengths]

namespace Image

variable {image image' : Image}

theorem SameShape.refl (image : Image) : image.SameShape image := by
  cases image with
  | mono width height source mask layout => exact .mono width height layout rfl rfl
  | argb width height pixels => exact .argb width height rfl

theorem SameShape.size_eq (h : image.SameShape image') : image'.width = image.width ∧ image'.height = image.height := by
  cases h with
  | mono => exact ⟨rfl, rfl⟩
  | argb => exact ⟨rfl, rfl⟩

theorem SameShape.shortPlane?_eq (h : image.SameShape image') : image'.shortPlane? = image.shortPlane? := by
  cases h with
  | mono width height layout sources masks => simp only [shortPlane?, planes, sources, masks]
  | argb width height lengths => simp only [shortPlane?, planes, lengths]

theorem SameShape.exhaustsRows_eq (h : image.SameShape image') (rows width : Nat) :
    image'.exhaustsRows rows width = image.exhaustsRows rows width := by
  cases h with
  | mono => rfl
  | argb => rfl

/-- Images of the same shape are refused for the same reason, or make pictures of the same shape, in whatever colours. -/
theorem SameShape.render (h : image.SameShape image') (colors colors' : Palette) :
    (∃ e, image.render colors = .error e ∧ image'.render colors' = .error e) ∨
    ∃ p p', image.render colors = .ok p ∧ image'.render colors' = .ok p' ∧ p.SameShape p' := by
  obtain ⟨hwidth, hheight⟩ := h.size_eq
  simp only [Image.render, hwidth, hheight, h.shortPlane?_eq, h.exhaustsRows_eq]
  split_ifs
  · exact Or.inl ⟨_, rfl, rfl⟩
  · cases image.shortPlane? with
    | some e => exact Or.inl ⟨e, rfl, rfl⟩
    | none => exact Or.inl ⟨_, rfl, rfl⟩
  · cases image.shortPlane? with
    | some e => exact Or.inl ⟨e, rfl, rfl⟩
    | none => exact Or.inr ⟨_, _, rfl, rfl, .mk (by simp only [Array.size_map])⟩

end Image

namespace Controller

variable {δ : Type}

/-- The host's two planes are cut out of its bits by their number. -/
theorem hostImage_sameShape (c : Controller δ) (width height : UInt32) {bits bits' : Array UInt8}
    (h : bits.size = bits'.size) : (c.hostImage width height bits).SameShape (c.hostImage width height bits') := by
  simp only [hostImage, h]
  exact .mono width height _ (by simp only [Array.size_extract, h]) (by simp only [Array.size_extract, h])

/-! ## Controllers -/

variable [Adjustable δ]

/-- the same controller with other colours, and over a device with something else behind the window -/
structure Alike (V : Veil δ) (w : Option Window) (c c' : Controller δ) : Prop where
  links : c.link.Alike V w c'.link
  same : c' = { c with link := c'.link, surface := { c.surface with colors := c'.surface.colors } }

namespace Alike

variable {V : Veil δ} {w : Option Window} {c c' : Controller δ}

theorem eq_with (h : Alike V w c c') : ∃ link colors, c.link.Alike V w link ∧
    c' = { c with link := link, surface := { c.surface with colors := colors } } :=
  ⟨c'.link, c'.surface.colors, h.links, h.same⟩

theorem phase_eq (h : Alike V w c c') : c'.phase = c.phase := by
  rw [h.same]

theorem transfer_eq (h : Alike V w c c') : c'.transfer = c.transfer := by
  rw [h.same]

/-- Both cursors are in the same place, shown or not. -/
theorem shown_eq (h : Alike V w c c') :
    c'.surface.enabled = c.surface.enabled ∧ c'.surface.x = c.surface.x ∧ c'.surface.y = c.surface.y := by
  rw [h.same]
  exact ⟨rfl, rfl, rfl⟩

theorem note (h : Alike V w c c') (e : Event) : Alike V w (c.note e) (c'.note e) := by
  obtain ⟨link, colors, hlinks, rfl⟩ := h.eq_with
  exact ⟨hlinks.note e, rfl⟩

/-- Colours make no difference, whichever of the two they are stored in. -/
theorem recolor_left (h : Alike V w c c') (colors : Palette) : Alike V w (c.recolor colors) c' := by
  obtain ⟨link, colors', hlinks, rfl⟩ := h.eq_with
  exact ⟨hlinks, rfl⟩

theorem recolor_right (h : Alike V w c c') (colors : Palette) : Alike V w c (c'.recolor colors) := by
  obtain ⟨link, colors', hlinks, rfl⟩ := h.eq_with
  exact ⟨hlinks, rfl⟩

/-- With nothing hidden, only colours are different. -/
theorem eq_recolor (h : Alike V none c c') : ∃ colors, c' = c.recolor colors := by
  obtain ⟨⟨device, sent, events⟩, colors, ⟨hdevice, hsent, hevents⟩, rfl⟩ := h.eq_with
  obtain rfl : c.link.device = device := hdevice
  obtain rfl : c.link.sent = sent := hsent
  obtain rfl : c.link.events = events := hevents
  exact ⟨colors, rfl⟩

/-- Over a device in order, a controller is like itself with any colours, whatever is hidden. -/
theorem recolor_of_orderly (h : V.Orderly c.link.device) (w : Option Window) (colors : Palette) :
    Alike V w c (c.recolor colors) :=
  ⟨⟨h.agree w, rfl, rfl⟩, rfl⟩

/-! ## Requests -/

theorem tell (h : Alike V w c c') (tag : Tag) (payload : List UInt32) :
    Alongside (Alike V w) (c.tell tag payload) (c'.tell tag payload) := by
  obtain ⟨link, colors, hlinks, rfl⟩ := h.eq_with
  have hasked := hlinks.askWord tag payload
  unfold Controller.tell
  dsimp only
  generalize c.link.askWord tag payload = r at hasked ⊢
  generalize link.askWord tag payload = r' at hasked ⊢
  obtain ⟨e | status, hleft⟩ := hasked
  · exact .mk _ ⟨hleft, rfl⟩
  dsimp only
  split_ifs
  · exact .mk _ ⟨hleft, rfl⟩
  · exact .mk _ ⟨hleft.note _, rfl⟩

theorem place (h : Alike V w c c') (enabled : Bool) (x y : Int32) :
    Alongside (Alike V w) (c.place enabled x y) (c'.place enabled x y) := by
  have htold := h.tell .setCursorState (placeRequest enabled x y)
  unfold Controller.place
  rw [← placeRequest]
  generalize c.tell .setCursorState (placeRequest enabled x y) = r at htold ⊢
  generalize c'.tell .setCursorState (placeRequest enabled x y) = r' at htold ⊢
  obtain ⟨e | ⟨⟩, hleft⟩ := htold
  · exact .mk _ hleft
  obtain ⟨link, colors, hlinks, rfl⟩ := hleft.eq_with
  exact .mk _ ⟨hlinks.note _, rfl⟩

/-! ## Position and visibility -/

theorem display (h : Alike V w c c') : Alongside (Alike V w) c.display c'.display := by
  obtain ⟨-, hx, hy⟩ := h.shown_eq
  rw [Controller.display, Controller.display, h.phase_eq, hx, hy]
  split_ifs
  · exact h.place true _ _
  · exact .mk _ h

theorem hide (h : Alike V w c c') : Alongside (Alike V w) c.hide c'.hide := by
  obtain ⟨-, hx, hy⟩ := h.shown_eq
  rw [Controller.hide, Controller.hide, h.phase_eq, hx, hy]
  split_ifs
  · exact h.place false _ _
  · exact .mk _ h

theorem moveTo (h : Alike V w c c') (x y : Int32) : Alongside (Alike V w) (c.moveTo x y) (c'.moveTo x y) := by
  obtain ⟨henabled, -⟩ := h.shown_eq
  rw [Controller.moveTo, Controller.moveTo, h.phase_eq, henabled]
  split_ifs
  · exact h.place _ x y
  · exact .mk _ h

theorem enableFor (h : Alike V w c c') (width height : UInt32) :
    Alongside (Alike V w) (c.enableFor width height) (c'.enableFor width height) := by
  obtain ⟨-, hx, hy⟩ := h.shown_eq
  have hplaced := h.place (width ≤ maxCursorSize && height ≤ maxCursorSize) c.surface.x c.surface.y
  rw [Controller.enableFor, Controller.enableFor, h.phase_eq, hx, hy]
  dsimp only
  split_ifs
  · generalize c.place _ c.surface.x c.surface.y = r at hplaced ⊢
    generalize c'.place _ c.surface.x c.surface.y = r' at hplaced ⊢
    obtain ⟨e | ⟨⟩, hleft⟩ := hplaced
    · exact .mk _ hleft
    · exact .mk _ hleft
  · exact .mk _ h

theorem hostEnable (h : Alike V w c c') (width height : UInt32) :
    Alongside (Alike V w) (c.hostEnable width height) (c'.hostEnable width height) := by
  have henabled := h.enableFor width height
  unfold Controller.hostEnable
  generalize c.enableFor width height = r at henabled ⊢
  generalize c'.enableFor width height = r' at henabled ⊢
  obtain ⟨e | on, hleft⟩ := henabled
  · exact .mk _ (hleft.note _)
  · exact .mk _ hleft

/-! ## Images -/

theorem refuseImage (h : Alike V w c c') (width height : UInt32) :
    Alongside (Alike V w) (c.refuseImage width height) (c'.refuseImage width height) := by
  obtain ⟨henabled, hx, hy⟩ := h.shown_eq
  have hplaced := h.place false c.surface.x c.surface.y
  rw [Controller.refuseImage, Controller.refuseImage, henabled, hx, hy]
  split_ifs
  · generalize c.place false c.surface.x c.surface.y = r at hplaced ⊢
    generalize c'.place false c.surface.x c.surface.y = r' at hplaced ⊢
    obtain ⟨e | ⟨⟩, hleft⟩ := hplaced
    · exact .mk _ hleft
    · exact .mk _ hleft
  · exact .mk _ h

/-- What is laid into the transfer buffer is hidden; the request that follows names the buffer and the size of the picture. -/
theorem upload {block : GpuBlock} (h : Alike V (some block.window) c c') {p p' : Picture} (hshape : p.SameShape p') :
    Alongside (Alike V (some block.window)) (c.upload block p) (c'.upload block p') := by
  have hlaid : Alike V (some block.window) (c.withPicture block p) (c'.withPicture block p') := by
    obtain ⟨link, colors, hlinks, rfl⟩ := h.eq_with
    exact ⟨(hlinks.cover 0 rfl).cover 0 (hshape.length_bytesWithin block.window.len.toNat), rfl⟩
  obtain ⟨-⟩ := hshape
  have htold := hlaid.tell .setCursorInfo (pictureRequest p block.bus)
  simp only [withPicture, pictureRequest] at htold
  simp only [Controller.upload]
  generalize @Controller.tell δ _ _ .setCursorInfo _ = r at htold ⊢
  generalize @Controller.tell δ _ _ .setCursorInfo _ = r' at htold ⊢
  obtain ⟨e | ⟨⟩, hleft⟩ := htold
  · exact .mk _ hleft
  obtain ⟨link, colors, hlinks, rfl⟩ := hleft.eq_with
  exact .mk _ ⟨hlinks.note _, rfl⟩

/-- Whether an image is shown, refused or hidden for its size does not depend on what it shows. -/
theorem load (h : Alike V w c c') (hw : ∀ block, c.transfer = some block → w = some block.window) {image image' : Image}
    (hshape : image.SameShape image') : Alongside (Alike V w) (c.load image) (c'.load image') := by
  obtain ⟨hwidth, hheight⟩ := hshape.size_eq
  rw [Controller.load, Controller.load, hwidth, hheight, h.transfer_eq, h.phase_eq]
  split_ifs
  · exact h.refuseImage _ _
  · obtain ⟨e, hrender, hrender'⟩ | ⟨p, p', hrender, hrender', hpictures⟩ :=
      hshape.render c.surface.colors c'.surface.colors
    · rw [hrender, hrender']
      exact .mk _ h
    rw [hrender, hrender']
    dsimp only
    cases hblock : c.transfer with
    | none => exact .mk _ h
    | some block =>
      obtain rfl := hw block hblock
      exact h.upload hpictures
  · exact .mk _ h

/-! ## The end -/

theorem releaseTransfer (h : Alike V w c c') : Alongside (Alike V w) c.releaseTransfer c'.releaseTransfer := by
  rw [Controller.releaseTransfer, Controller.releaseTransfer, h.transfer_eq]
  cases c.transfer with
  | none => exact .mk _ h
  | some block =>
    have hreleased := h.links.release block
    dsimp only
    generalize c.link.release block = r at hreleased ⊢
    generalize c'.link.release block = r' at hreleased ⊢
    obtain ⟨link, colors, -, rfl⟩ := h.eq_with
    obtain ⟨e | ⟨⟩, hleft⟩ := hreleased
    · exact .mk _ ⟨hleft, rfl⟩
    · exact .mk _ ⟨hleft, rfl⟩

theorem close (h : Alike V w c c') : Alongside (Alike V w) c.close c'.close := by
  obtain ⟨-, hx, hy⟩ := h.shown_eq
  have hclosed : Alike V w { c with phase := .closed } { c' with phase := .closed } := by
    obtain ⟨link, colors, hlinks, rfl⟩ := h.eq_with
    exact ⟨hlinks, rfl⟩
  have htold := hclosed.tell .setCursorState [0, c.surface.x.toUInt32, c.surface.y.toUInt32]
  have hfinish {d d' : Controller δ} (h : Alike V w d d') (f : Except CursorError Unit → Except CursorError Unit)
      (e : Event) : Alongside (Alike V w) (f d.releaseTransfer.1, d.releaseTransfer.2.note e)
        (f d'.releaseTransfer.1, d'.releaseTransfer.2.note e) := by
    have hreleased := h.releaseTransfer
    generalize d.releaseTransfer = r at hreleased ⊢
    generalize d'.releaseTransfer = r' at hreleased ⊢
    obtain ⟨freed, hleft⟩ := hreleased
    exact .mk _ (hleft.note e)
  rw [Controller.close, Controller.close, h.phase_eq]
  dsimp only
  rw [hx, hy]
  split_ifs
  · generalize Controller.tell { c with phase := .closed } _ _ = r at htold ⊢
    generalize Controller.tell { c' with phase := .closed } _ _ = r' at htold ⊢
    obtain ⟨e | ⟨⟩, hleft⟩ := htold
    · exact hfinish hleft (fun _ => .error e) _
    · refine hfinish ?_ id _
      obtain ⟨link, colors, hlinks, rfl⟩ := hleft.eq_with
      exact ⟨hlinks, rfl⟩
  · exact .mk _ hclosed

theorem abandon (h : Alike V w c c') : Alike V w c.abandon c'.abandon := by
  have hclosed := h.close
  rw [Controller.abandon, Controller.abandon]
  generalize c.close = r at hclosed ⊢
  generalize c'.close = r' at hclosed ⊢
  obtain ⟨e | ⟨⟩, hleft⟩ := hclosed
  · exact hleft.note _
  · exact hleft

/-! ## Operations -/

/-- A call of the windowing system ends in a log line where the operation ends in an error. -/
theorem noteFailure (what : String) {r r' : Except CursorError Unit × Controller δ} (h : Alongside (Alike V w) r r') :
    Alike V w (Controller.noteFailure what r) (Controller.noteFailure what r') := by
  obtain ⟨e | ⟨⟩, hleft⟩ := h
  · exact hleft.note _
  · exact hleft

theorem start (h : Alike V w c c') (hstarted : c.phase ≠ .uninitialized) : Alongside (Alike V w) c.start c'.start := by
  have hreply : c.start.1 = c'.start.1 := by
    rw [Controller.start, Controller.start, h.phase_eq]
    cases hphase : c.phase with
    | uninitialized => exact absurd hphase hstarted
    | hidden | visible | unavailable | closed => rfl
  refine .of_eq hreply ?_
  rwa [c.start_of_started hstarted, c'.start_of_started (h.phase_eq ▸ hstarted)]

/-- **One operation.** But for the start, every operation on one of two controllers that are alike, and the same but for colours
and for what an image shows on the other, brings the same result and leaves them alike. -/
theorem perform (h : Alike V w c c') (hw : ∀ block, c.transfer = some block → w = some block.window)
    {op op' : Operation} (hstart : op = .start → c.phase ≠ .uninitialized) (hshape : op.SameShape op') :
    Alongside (Alike V w) (op.perform c) (op'.perform c') := by
  cases hshape with
  | recolor colors colors' | hostColors colors colors' => exact .mk _ ((h.recolor_left colors).recolor_right colors')
  | load images => exact (h.load hw images).map _
  | hostLoad width height lengths =>
    have hsettings : c'.hostImage = c.hostImage := by rw [h.same]; rfl
    exact .mk _ (noteFailure _ (h.load hw (hsettings ▸ c.hostImage_sameShape width height lengths)))
  | hostLoadPixels width height lengths => exact .mk _ (noteFailure _ (h.load hw (.argb width height lengths)))
  | same =>
    cases op with
    | start => exact (h.start (hstart rfl)).map _
    | display => exact h.display.map _
    | hide => exact h.hide.map _
    | moveTo x y => exact (h.moveTo x y).map _
    | recolor colors | hostColors colors => exact .mk _ ((h.recolor_left colors).recolor_right colors)
    | enableFor width height => exact (h.enableFor width height).map _
    | load image => exact (h.load hw (.refl image)).map _
    | close => exact h.close.map _
    | hostShow => exact .mk _ (noteFailure _ h.display)
    | hostHide => exact .mk _ (noteFailure _ h.hide)
    | hostMove x y => exact .mk _ (noteFailure _ (h.moveTo x y))
    | hostLoad width height bits =>
      have hsettings : c'.hostImage = c.hostImage := by rw [h.same]; rfl
      exact .mk _ (noteFailure _ (h.load hw (hsettings ▸ .refl _)))
    | hostLoadPixels width height pixels => exact .mk _ (noteFailure _ (h.load hw (.refl _)))
    | hostEnable width height => exact (h.hostEnable width height).map _

end Alike

/-- A start does not look at the colours. -/
theorem start_recolor (c : Controller δ) (colors : Palette) :
    (c.recolor colors).start = c.start.map id fun c => c.recolor colors := by
  have hprepare : (c.recolor colors).prepare = c.prepare.map id fun c => c.recolor colors := by
    rw [prepare, prepare]
    have hlink : (c.recolor colors).link = c.link := rfl
    rw [hlink]
    rcases c.link.askVersion with ⟨e | version, l⟩
    · rfl
    have hsettings : (c.recolor colors).settings = c.settings := rfl
    dsimp only
    rw [hsettings]
    split_ifs
    · rfl
    rcases l.acquire cursorBufferBytes pageAlignment .l1NonAllocating with ⟨e | block, l⟩
    · rfl
    · rfl
  have hphase : (c.recolor colors).phase = c.phase := rfl
  rw [start, start, hphase, hprepare]
  cases c.phase with
  | hidden | visible | unavailable | closed => rfl
  | uninitialized =>
    rcases c.prepare with ⟨e | ⟨⟩, c'⟩
    · rfl
    · rfl

end Controller
end MailboxCursor
