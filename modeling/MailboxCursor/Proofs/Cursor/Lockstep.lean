/-
The controller's record and the emulated firmware's are in step.

A controller keeps a record of the cursor, its surface; the firmware keeps what it was last told. `session_inStep`: after any
session, whatever failed in it, the two agree (`InStep`). What the firmware was never told is blank in the record; where the
cursor is, whether it is shown, and which picture it has are the same on both sides; and the picture was read from the
transfer buffer as long as there is one.

A request that fails has no effect on the firmware, and one that takes effect is recorded: `place_firmware` and
`upload_firmware`.
-/
import MailboxCursor.Proofs.Cursor.Transfer

namespace MailboxCursor

open Firmware

structure InStep (c : Controller Firmware) : Prop where
  neverPlaced : c.link.device.cursorPlace = none → c.surface.enabled = false ∧ c.surface.x = 0 ∧ c.surface.y = 0
  placed : ∀ p, c.link.device.cursorPlace = some p → p.enabled = c.surface.enabled ∧
    p.x.toBitVec = c.surface.x.toBitVec ∧ p.y.toBitVec = c.surface.y.toBitVec
  neverDrawn : c.link.device.cursorGeometry = none → c.surface.width = 0 ∧ c.surface.height = 0
  drawn : ∀ g, c.link.device.cursorGeometry = some g → g.width = c.surface.width ∧ g.height = c.surface.height ∧
    g.format = c.surface.format ∧ g.hotspotX = c.surface.hotspotX ∧ g.hotspotY = c.surface.hotspotY
  /-- a ready controller's picture lies in its transfer buffer -/
  source : ∀ g, c.link.device.cursorGeometry = some g → c.phase.isReady = true →
    ∃ block, c.transfer = some block ∧ g.bus = block.bus
  captured : ∀ g, c.link.device.cursorGeometry = some g →
    ∃ pixels, c.link.device.cursorImage = some pixels ∧ pixels.length = g.width.toNat * g.height.toNat

/-! ## The invariant -/

namespace InStep

variable {c c' : Controller Firmware}

theorem new (id : Nat) (settings : CursorSettings) : InStep (Controller.new id settings) := by
  refine ⟨fun _ => ⟨rfl, rfl, rfl⟩, ?_, fun _ => ⟨rfl, rfl⟩, ?_, ?_, ?_⟩
  all_goals rintro _ ⟨⟩

/-- A change of neither the firmware's record nor the controller's keeps them in step. -/
theorem congr (h : InStep c) (hcursor : c'.link.device.cursor = c.link.device.cursor)
    (hsurface : c'.surface = { c.surface with colors := c'.surface.colors })
    (hsource : ∀ g, c.link.device.cursorGeometry = some g → c'.phase.isReady = true →
      ∃ block, c'.transfer = some block ∧ g.bus = block.bus) : InStep c' := by
  simp only [Firmware.cursor, Prod.mk.injEq] at hcursor
  obtain ⟨hplace, hgeometry, himage⟩ := hcursor
  refine ⟨?_, ?_, ?_, ?_, ?_, ?_⟩
  · rw [hplace, hsurface]
    exact h.neverPlaced
  · rw [hplace, hsurface]
    exact h.placed
  · rw [hgeometry, hsurface]
    exact h.neverDrawn
  · rw [hgeometry, hsurface]
    exact h.drawn
  · rw [hgeometry]
    exact hsource
  · rw [hgeometry, himage]
    exact h.captured

/-- A cursor that was put somewhere, and is recorded there, is in step as far as it was drawn before. -/
theorem moved (h : InStep c) {enabled : Bool} {x y : Int32}
    (hplaced : c'.link.device.cursorPlace = some ⟨enabled, x.toUInt32, y.toUInt32⟩)
    (hgeometry : c'.link.device.cursorGeometry = c.link.device.cursorGeometry)
    (himage : c'.link.device.cursorImage = c.link.device.cursorImage) (hsurface : c'.surface = c.surface.putAt enabled x y)
    (hsource : ∀ g, c.link.device.cursorGeometry = some g → c'.phase.isReady = true →
      ∃ block, c'.transfer = some block ∧ g.bus = block.bus) : InStep c' := by
  refine ⟨?_, ?_, ?_, ?_, ?_, ?_⟩
  · intro hnone
    cases hplaced.symm.trans hnone
  · intro p hp
    obtain rfl := Option.some.inj (hplaced.symm.trans hp)
    rw [hsurface]
    exact ⟨rfl, rfl, rfl⟩
  · rw [hgeometry, hsurface]
    exact h.neverDrawn
  · rw [hgeometry, hsurface]
    exact h.drawn
  · rw [hgeometry]
    exact hsource
  · rw [hgeometry, himage]
    exact h.captured

theorem start (h : InStep c) (ht : Tenure c) (hphase : c.phase = .uninitialized) : InStep c.start.2 := by
  have hcursor : c.start.2.link.device.cursor = c.link.device.cursor :=
    Controller.start_keeps (P := fun fw : Firmware => fw.cursor = c.link.device.cursor)
      (keeps_cursor (by decide) (by decide)) (keeps_cursor (by decide) (by decide))
      (keeps_cursor (by decide) (by decide)) (keeps_cursor (by decide) (by decide))
      (keeps_cursor (by decide) (by decide)) (fun fw bus len hfw => (openWindow_cursor fw bus len).trans hfw)
      (fun fw w offset bytes hfw => (write_cursor fw w offset bytes).trans hfw) c hphase rfl
  have hsurface : c.start.2.surface = c.surface := by
    rcases Controller.start_cases c hphase with ⟨e, l, event, -, hstart⟩ | ⟨v, l, event, -, -, hstart⟩ |
      ⟨v, l, e, l', event, -, -, -, hstart⟩ | ⟨v, l, block, l', event, event', -, -, -, hstart⟩
    all_goals rw [hstart]
  refine h.congr hcursor (by rw [hsurface]) ?_
  -- nothing was drawn before the start, so there is no picture to ask for
  intro g hg
  rw [(ht.unborn hphase).2] at hg
  cases hg

theorem place (h : InStep c) (hready : c.phase.isReady = true) (enabled : Bool) (x y : Int32) :
    InStep (c.place enabled x y).2 := by
  obtain ⟨m, l, ⟨event, hplace, hafter⟩ | ⟨e, hplace, hafter⟩⟩ := c.place_firmware enabled x y
  · rw [hplace]
    have hplaced : l.device.cursorPlace = some ⟨enabled, x.toUInt32, y.toUInt32⟩ := by rw [hafter]; rfl
    have hgeometry : l.device.cursorGeometry = c.link.device.cursorGeometry := by rw [hafter]; rfl
    have himage : l.device.cursorImage = c.link.device.cursorImage := by rw [hafter]; rfl
    exact h.moved hplaced hgeometry himage rfl fun g hg _ => h.source g hg hready
  · rw [hplace]
    have hcursor : l.device.cursor = c.link.device.cursor := by rw [hafter]; rfl
    exact h.congr hcursor rfl fun g hg _ => h.source g hg hready

theorem upload (h : InStep c) (hready : c.phase.isReady = true) {block : GpuBlock} (hblock : c.transfer = some block)
    (picture : Picture) : InStep (c.upload block picture).2 := by
  have hdrawn := c.withPicture_cursor block picture
  obtain ⟨m, l, ⟨b, event, hupload, hfound, hafter⟩ | ⟨e, hupload, hafter, -⟩⟩ := c.upload_firmware block picture
  · rw [hupload]
    have hplace : l.device.cursorPlace = c.link.device.cursorPlace := by
      rw [hafter]
      exact congrArg (fun v => v.1) hdrawn
    have hgeometry : l.device.cursorGeometry = some (geometryOf picture block.bus) := by rw [hafter]; rfl
    have himage : l.device.cursorImage = some (imageOn b (geometryOf picture block.bus)) := by rw [hafter]; rfl
    refine ⟨?_, ?_, ?_, ?_, ?_, ?_⟩
    · intro hnone
      exact h.neverPlaced (hplace.symm.trans hnone)
    · intro p hp
      exact h.placed p (hplace.symm.trans hp)
    · intro hnone
      cases hgeometry.symm.trans hnone
    · intro g hg
      obtain rfl := Option.some.inj (hgeometry.symm.trans hg)
      exact ⟨rfl, rfl, rfl, rfl, rfl⟩
    · intro g hg _
      obtain rfl := Option.some.inj (hgeometry.symm.trans hg)
      exact ⟨block, hblock, rfl⟩
    · intro g hg
      obtain rfl := Option.some.inj (hgeometry.symm.trans hg)
      exact ⟨_, himage, length_imageOn hfound⟩
  · rw [hupload]
    have hcursor : l.device.cursor = c.link.device.cursor := by
      rw [hafter]
      exact hdrawn
    exact h.congr hcursor rfl fun g hg _ => h.source g hg hready

/-- Hiding the cursor on the way out is recorded as far as the firmware agreed to it. -/
theorem hidden {l : Link Firmware} {r : Except CursorError Unit} (h : InStep c)
    (htold : { c with phase := .closed }.tell .setCursorState (Controller.placeRequest false c.surface.x c.surface.y) =
      (r, { c with phase := .closed, link := l })) :
    InStep { c with link := l, phase := .closed, surface := Controller.afterHide c.surface r, transfer := none } := by
  obtain ⟨m, l', r', htold', hafter⟩ :=
    Controller.tell_place { c with phase := .closed } false c.surface.x c.surface.y
  rw [htold'] at htold
  obtain ⟨rfl, hl⟩ := Prod.mk.inj htold
  obtain rfl : l' = l := congrArg Controller.link hl
  rcases hafter with ⟨rfl, hafter⟩ | ⟨⟨e, rfl⟩, hafter⟩
  · have hplaced : l'.device.cursorPlace = some ⟨false, c.surface.x.toUInt32, c.surface.y.toUInt32⟩ := by rw [hafter]; rfl
    have hgeometry : l'.device.cursorGeometry = c.link.device.cursorGeometry := by rw [hafter]; rfl
    have himage : l'.device.cursorImage = c.link.device.cursorImage := by rw [hafter]; rfl
    refine h.moved hplaced hgeometry himage rfl ?_
    intro _ _ hready
    cases hready
  · have hcursor : l'.device.cursor = c.link.device.cursor := by rw [hafter]; rfl
    refine h.congr hcursor rfl ?_
    intro _ _ hready
    cases hready

theorem close (h : InStep c) : InStep c.close.2 := by
  by_cases hready : c.phase.isReady = true
  swap
  · rw [Controller.close_of_not_ready c (by simpa using hready)]
    refine h.congr rfl rfl fun _ _ hready => ?_
    cases hready
  obtain ⟨r, l, event, htold, hclose⟩ := Controller.close_eq c hready
  have hcursor : (Controller.givenBack l c.transfer).device.cursor = l.device.cursor :=
    Controller.givenBack_keeps (P := fun fw : Firmware => fw.cursor = l.device.cursor)
      (keeps_cursor (by decide) (by decide)) (keeps_cursor (by decide) (by decide))
      (fun fw w hfw => (closeWindow_cursor fw w).trans hfw) c.transfer rfl
  rw [hclose]
  refine (h.hidden htold).congr hcursor rfl fun _ _ hready => ?_
  cases hready

theorem adjust (h : InStep c) (s : Setting) : InStep (c.adjust s) := by
  have hcursor : (c.adjust s).link.device.cursor = c.link.device.cursor := by
    simp only [Firmware.cursor, Controller.adjust, set_cursorPlace, set_cursorGeometry, set_cursorImage]
  exact h.congr hcursor rfl h.source

/-- Every operation keeps the two in step, as long as there is the transfer buffer that it needs. -/
theorem invariant : Controller.Invariant fun c => Tenure c ∧ InStep c where
  note c e h := ⟨Tenure.invariant.note c e h.1, h.2.congr rfl rfl h.2.source⟩
  recolor c colors h := ⟨Tenure.invariant.recolor c colors h.1, h.2.congr rfl rfl h.2.source⟩
  start _ hphase h := ⟨h.1.start hphase, h.2.start h.1 hphase⟩
  place _ enabled x y hready h := ⟨h.1.place hready enabled x y, h.2.place hready enabled x y⟩
  upload _ _ picture _ hready _ _ _ hblock h := ⟨h.1.upload hready hblock picture, h.2.upload hready hblock picture⟩
  close c h := ⟨Tenure.invariant.close c h.1, h.2.close⟩

end InStep

/-- **Controller and firmware are in step.** After any session over a firmware that nobody had used, with requests failing
in any way and at any point of it, the controller's record of the cursor is what the firmware shows. -/
theorem session_inStep (id : Nat) (settings : CursorSettings) (actions : List Action) :
    InStep ((Controller.new id settings).session actions) :=
  (Controller.session_keeps InStep.invariant (fun _ s h => ⟨h.1.adjust s, h.2.adjust s⟩) _ actions
    ⟨Tenure.new id settings, InStep.new id settings⟩).2

end MailboxCursor
