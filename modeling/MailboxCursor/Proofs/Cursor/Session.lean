/-
Sessions: a controller over the emulated firmware, with the ways in which the firmware misbehaves changed between its
operations, and nobody else at the device.

`session_keeps` is induction over a session, and `session_keeps_of` the same where only certain settings are changed.
`place_firmware` and `upload_firmware` say what the controller's two requests do to the firmware: they take effect and
succeed, or they leave everything but the log as it was and fail.
-/
import MailboxCursor.Proofs.Cursor.Steps
import MailboxCursor.Proofs.Firmware.Picture
import MailboxCursor.Proofs.Firmware.Requests

namespace MailboxCursor

/-- one step of a session -/
inductive Action where
  | operate (op : Operation)
  /-- change how the firmware misbehaves -/
  | adjust (s : Firmware.Setting)
deriving DecidableEq, Repr

namespace Controller

def adjust (c : Controller Firmware) (s : Firmware.Setting) : Controller Firmware :=
  { c with link := { c.link with device := c.link.device.set s } }

def act (c : Controller Firmware) : Action → Controller Firmware
  | .operate op => (op.perform c).2
  | .adjust s => c.adjust s

def session (c : Controller Firmware) (actions : List Action) : Controller Firmware :=
  actions.foldl act c

/-- a controller over a firmware that nobody has used -/
def new (id : Nat) (settings : CursorSettings) : Controller Firmware :=
  create (.fresh (.fresh id)) settings

/-- What every step and every change of a setting that occurs keeps, a session keeps. -/
theorem session_keeps_of {P : Controller Firmware → Prop} {allowed : Firmware.Setting → Prop} (hP : Invariant P)
    (hset : ∀ c s, allowed s → P c → P (c.adjust s)) (c : Controller Firmware) (actions : List Action)
    (hallowed : ∀ s, .adjust s ∈ actions → allowed s) (h : P c) : P (c.session actions) := by
  induction actions generalizing c with
  | nil => exact h
  | cons a actions ih =>
    refine ih _ (fun s hs => hallowed s (List.mem_cons_of_mem a hs)) ?_
    cases a with
    | operate op => exact hP.perform c op h
    | adjust s => exact hset c s (hallowed s List.mem_cons_self) h

theorem session_keeps {P : Controller Firmware → Prop} (hP : Invariant P) (hset : ∀ c s, P c → P (c.adjust s))
    (c : Controller Firmware) (actions : List Action) (h : P c) : P (c.session actions) :=
  session_keeps_of hP (fun c s _ => hset c s) c actions (fun _ _ => trivial) h

end Controller

/-! ## The controller's two requests -/

namespace Firmware

/-- the geometry that a request for a picture asks for -/
def geometryOf (picture : Picture) (bus : BusAddress) : CursorGeometry :=
  ⟨picture.width, picture.height, argbFormat, bus, picture.hotspotX, picture.hotspotY⟩

end Firmware

namespace Controller

open Firmware

/-- A request of a status over the firmware: acted on and judged by the status, or failed and without effect. -/
theorem tell_firmware (c : Controller Firmware) (tag : Tag) (p : List UInt32) (hp : tag.requestWords ≤ p.length)
    (hfit : p.length ≤ 26) :
    ∃ m l r, c.tell tag p = (r, { c with link := l }) ∧
      ((c.link.device.takes tag p = true ∧ r = verdict tag (.ok ((c.link.device.act tag p).2.headD 0)) ∧
          l.device = (c.link.device.act tag p).1.logRequest m) ∨
        (c.link.device.takes tag p = false ∧ (∃ e, r = .error e) ∧ l.device = c.link.device.logRequest m)) := by
  obtain ⟨m, -, hasked⟩ := askWord_firmware c.link tag p hp hfit
  obtain ⟨l, htold, hdevice, -⟩ := tell_eq c tag p
  refine ⟨m, l, _, htold, ?_⟩
  split at hasked
  next h =>
    obtain ⟨hword, hafter⟩ := hasked
    exact Or.inl ⟨h, by rw [hword], by rw [hdevice, hafter]⟩
  next h =>
    obtain ⟨⟨e, hword⟩, hafter⟩ := hasked
    exact Or.inr ⟨by simpa using h, ⟨.mailbox e, by rw [hword]; rfl⟩, by rw [hdevice, hafter]⟩

/-- Putting the cursor at a place: done and recorded by the firmware, or failed and without effect. -/
theorem tell_place (c : Controller Firmware) (enabled : Bool) (x y : Int32) :
    ∃ m l r, c.tell .setCursorState (placeRequest enabled x y) = (r, { c with link := l }) ∧
      ((r = .ok () ∧
          l.device = { c.link.device with cursorPlace := some ⟨enabled, x.toUInt32, y.toUInt32⟩ }.logRequest m) ∨
        ((∃ e, r = .error e) ∧ l.device = c.link.device.logRequest m)) := by
  obtain ⟨m, l, r, htold, ⟨-, hr, hafter⟩ | ⟨-, hr, hafter⟩⟩ :=
    c.tell_firmware .setCursorState (placeRequest enabled x y) (le_refl 3) (by simp [placeRequest])
  · refine ⟨m, l, r, htold, Or.inl ⟨hr, ?_⟩⟩
    rw [hafter]
    cases enabled <;> rfl
  · exact ⟨m, l, r, htold, Or.inr ⟨hr, hafter⟩⟩

/-- Pointing the firmware at a picture: done and captured from a locked block, or failed and without effect. -/
theorem tell_picture (c : Controller Firmware) (picture : Picture) (bus : BusAddress) :
    ∃ m l r, c.tell .setCursorInfo (pictureRequest picture bus) = (r, { c with link := l }) ∧
      ((∃ b, r = .ok () ∧ c.link.device.imageBlock? (geometryOf picture bus) = some b ∧
          l.device =
            { c.link.device with
              cursorGeometry := some (geometryOf picture bus)
              cursorImage := some (imageOn b (geometryOf picture bus)) }.logRequest m) ∨
        ((∃ e, r = .error e) ∧ l.device = c.link.device.logRequest m ∧
          (c.link.device.isFaulty Tag.setCursorInfo.id = true ∨
            c.link.device.imageBlock? (geometryOf picture bus) = none))) := by
  obtain ⟨m, l, r, htold, ⟨-, hr, hafter⟩ | ⟨htakes, hr, hafter⟩⟩ :=
    c.tell_firmware .setCursorInfo (pictureRequest picture bus) (le_refl 6) (by simp [pictureRequest])
  · have hact : c.link.device.act .setCursorInfo (pictureRequest picture bus) =
        ((c.link.device.setCursorGeometry (geometryOf picture bus)).1,
          [(c.link.device.setCursorGeometry (geometryOf picture bus)).2]) := rfl
    rw [hact, setCursorGeometry_eq] at hr hafter
    refine ⟨m, l, r, htold, ?_⟩
    cases hblock : c.link.device.imageBlock? (geometryOf picture bus) with
    | some b =>
      rw [hblock] at hr hafter
      exact Or.inl ⟨b, hr, rfl, hafter⟩
    | none =>
      rw [hblock] at hr hafter
      exact Or.inr ⟨⟨_, hr⟩, hafter, Or.inr rfl⟩
  · refine ⟨m, l, r, htold, Or.inr ⟨hr, hafter, Or.inl ?_⟩⟩
    by_contra hfault
    rw [Bool.not_eq_true] at hfault
    rw [takes_of_ne hfault (by decide)] at htakes
    cases htakes

/-- Putting the cursor at a place over the firmware: recorded on both sides, or failed and recorded on neither. -/
theorem place_firmware (c : Controller Firmware) (enabled : Bool) (x y : Int32) :
    ∃ m l,
      (∃ event, c.place enabled x y =
          (.ok (), { c with
            link := l
            surface := c.surface.putAt enabled x y
            phase := shownPhase enabled }.note event) ∧
        l.device = { c.link.device with cursorPlace := some ⟨enabled, x.toUInt32, y.toUInt32⟩ }.logRequest m) ∨
      (∃ e, c.place enabled x y = (.error e, { c with link := l }) ∧ l.device = c.link.device.logRequest m) := by
  obtain ⟨m, l, r, htold, hafter⟩ := c.tell_place enabled x y
  refine ⟨m, l, ?_⟩
  rcases c.place_cases enabled x y with ⟨e, c', htold', hplace⟩ | ⟨c', event, htold', hplace⟩
  · obtain ⟨rfl, rfl⟩ := Prod.mk.inj (htold.symm.trans htold')
    obtain ⟨hr, -⟩ | ⟨-, hafter⟩ := hafter
    · cases hr
    · exact Or.inr ⟨e, hplace, hafter⟩
  · obtain ⟨rfl, rfl⟩ := Prod.mk.inj (htold.symm.trans htold')
    obtain ⟨-, hafter⟩ | ⟨⟨e, he⟩, -⟩ := hafter
    · exact Or.inl ⟨event, hplace, hafter⟩
    · cases he

/-- Uploading a picture over the firmware: captured from a locked block and recorded, or failed and recorded nowhere. -/
theorem upload_firmware (c : Controller Firmware) (block : GpuBlock) (picture : Picture) :
    ∃ m l,
      (∃ b event, c.upload block picture =
          (.ok (), { c with link := l, surface := c.surface.drawnAs picture }.note event) ∧
        (c.withPicture block picture).link.device.imageBlock? (geometryOf picture block.bus) = some b ∧
        l.device =
          { (c.withPicture block picture).link.device with
            cursorGeometry := some (geometryOf picture block.bus)
            cursorImage := some (imageOn b (geometryOf picture block.bus)) }.logRequest m) ∨
      (∃ e, c.upload block picture = (.error e, { c with link := l }) ∧
        l.device = (c.withPicture block picture).link.device.logRequest m ∧
        ((c.withPicture block picture).link.device.isFaulty Tag.setCursorInfo.id = true ∨
          (c.withPicture block picture).link.device.imageBlock? (geometryOf picture block.bus) = none)) := by
  obtain ⟨m, l, r, htold, hafter⟩ := (c.withPicture block picture).tell_picture picture block.bus
  refine ⟨m, l, ?_⟩
  rcases c.upload_cases block picture with ⟨e, c', htold', hupload⟩ | ⟨c', event, htold', hupload⟩
  · obtain ⟨rfl, rfl⟩ := Prod.mk.inj (htold.symm.trans htold')
    obtain ⟨_, hr, -⟩ | ⟨-, hafter, hwhy⟩ := hafter
    · cases hr
    · exact Or.inr ⟨e, hupload, hafter, hwhy⟩
  · obtain ⟨rfl, rfl⟩ := Prod.mk.inj (htold.symm.trans htold')
    obtain ⟨b, -, hfound, hafter⟩ | ⟨⟨e, he⟩, -⟩ := hafter
    · exact Or.inl ⟨b, event, hupload, hfound, hafter⟩
    · cases he

end Controller
end MailboxCursor
