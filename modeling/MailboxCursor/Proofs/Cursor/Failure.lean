/-
Operations that fail, over any device.

What a controller records changes only after the firmware has agreed, so an operation that fails leaves the record and the
transfer buffer's place as they were (`Spared`). The one exception is an image that is too large for the hardware: a cursor on
the screen is hidden first, and the load fails after that (`Refused`). `failed_operations` says so of every operation that can
fail before the controller is closed; and over the emulated firmware a load that fails leaves the picture that is shown.
-/
import MailboxCursor.Proofs.Cursor.Transfer
import MailboxCursor.Proofs.Firmware.Fate
import MailboxCursor.Proofs.Image.Render

namespace MailboxCursor

/-- what fails at the device, of the controller's two requests, fails as an exchange -/
def Device.FailsPlainly (δ : Type) [Device δ] : Prop :=
  ∀ (d : δ) (m : Message) (e : MailboxError), m.tag = Tag.setCursorState.id ∨ m.tag = Tag.setCursorInfo.id →
    (Device.exchange d m).result = .error e → e.isExchangeFailure = true

/-- An answer that cannot be read is a failed exchange. -/
theorem Exchange.isExchangeFailure_of_answer {δ : Type} {x : Exchange δ} {m : Message} {n : Nat} {e : MailboxError}
    (hresult : ∀ e, x.result = .error e → e.isExchangeFailure = true) (h : x.answer m n = .error e) :
    e.isExchangeFailure = true := by
  unfold Exchange.answer at h
  split at h
  next e' he' =>
    obtain rfl := Except.error.inj h
    exact hresult e' he'
  next =>
    split at h
    next =>
      obtain rfl := Except.error.inj h
      rfl
    next =>
      split at h
      next =>
        obtain rfl := Except.error.inj h
        rfl
      next => cases h

theorem Exchange.isExchangeFailure_of_word {δ : Type} {x : Exchange δ} {m : Message} {e : MailboxError}
    (hresult : ∀ e, x.result = .error e → e.isExchangeFailure = true) (h : x.word m = .error e) :
    e.isExchangeFailure = true := by
  unfold Exchange.word at h
  rcases hanswer : x.answer m 1 with e' | ws
  · rw [hanswer] at h
    obtain rfl : e' = e := Except.error.inj h
    exact isExchangeFailure_of_answer hresult hanswer
  · rw [hanswer] at h
    cases h

/-- The emulated firmware fails a request for the cursor only as an exchange. -/
theorem Firmware.failsPlainly : Device.FailsPlainly Firmware := by
  intro fw m e htag hresult
  change (fw.exchange m).result = .error e at hresult
  have hcount : ∀ tag, Tag.ofWord? m.tag = some tag → fw.exhaustsLocks tag m.requestPayload = false := by
    intro tag ht
    rcases htag with htag | htag
    all_goals
      rw [htag, Tag.ofWord?_id] at ht
      obtain rfl := Option.some.inj ht
      rfl
  have hbrings := exchange_brings hcount (due_fate fw m)
  cases hfate : fw.fate m with
  | failed =>
    rw [hfate] at hbrings
    obtain ⟨⟨cause, hcause⟩, -⟩ := hbrings
    obtain rfl := Except.error.inj (hresult.symm.trans hcause)
    rfl
  | withheld | malformed | unknown | acted =>
    rw [hfate] at hbrings
    cases hresult.symm.trans hbrings.1

namespace Reply

variable {α γ : Type} {c' : γ} {e : CursorError}

/-- An operation whose reply is a failure has ended in this failure. -/
theorem eq_of_failed {f : Except CursorError α → Reply} (hok : ∀ a e, f (.ok a) ≠ failed e)
    (herror : ∀ e, f (.error e) = failed e) {r : Except CursorError α × γ} (h : r.map f id = (failed e, c')) :
    r = (.error e, c') := by
  rcases r with ⟨e' | a, c₁⟩
  · obtain ⟨heq, rfl⟩ := Prod.mk.inj h
    obtain rfl : e' = e := failed.inj ((herror e').symm.trans heq)
    rfl
  · exact absurd (Prod.mk.inj h).1 (hok a e)

theorem eq_of_ofUnit {r : Except CursorError Unit × γ} (h : r.map ofUnit id = (failed e, c')) : r = (.error e, c') :=
  eq_of_failed nofun (fun _ => rfl) h

theorem eq_of_ofBool {r : Except CursorError Bool × γ} (h : r.map ofBool id = (failed e, c')) : r = (.error e, c') :=
  eq_of_failed nofun (fun _ => rfl) h

end Reply

namespace Controller

/-- Of two equal failures the errors are equal, and what they leave. -/
theorem failed_inj {α γ : Type} {e e' : CursorError} {c c' : γ}
    (h : ((.error e', c') : Except CursorError α × γ) = (.error e, c)) : e' = e ∧ c' = c := by
  obtain ⟨heq, hc⟩ := Prod.mk.inj h
  exact ⟨Except.error.inj heq, hc⟩

/-- What has succeeded has not failed. -/
theorem not_failed {α γ : Type} {e : CursorError} {a : α} {c c' : γ} :
    ((.ok a, c') : Except CursorError α × γ) ≠ (.error e, c) := by
  intro h
  cases (Prod.mk.inj h).1

variable {δ : Type}

/-- the phase of a ready controller is that of its record -/
structure Agrees (c : Controller δ) : Prop where
  unborn : c.phase = .uninitialized → c.surface.enabled = false
  ready : c.phase.isReady = true → c.phase = shownPhase c.surface.enabled

theorem Agrees.congr {c c' : Controller δ} (h : c.Agrees) (hphase : c'.phase = c.phase)
    (henabled : c'.surface.enabled = c.surface.enabled) : c'.Agrees := by
  constructor
  · rw [hphase, henabled]
    exact h.unborn
  · rw [hphase, henabled]
    exact h.ready

variable [Device δ]

/-! ## What the steps leave -/

/-- a failure that leaves the controller as it was -/
structure Spared (c c' : Controller δ) (e : CursorError) : Prop where
  /-- whatever the device has made of the messages, the controller has recorded nothing -/
  kept : c' = { c with link := c'.link }
  /-- an image is refused before anything is sent, and any other failure is that of an exchange, if the device's own are -/
  cause : (∃ plane needed found, e = .raster (.bitmapTooShort plane needed found) ∧ c' = c) ∨
    (Device.FailsPlainly δ → e.isExchangeFailure = true)

/-- the load of an image that is too large, which always fails -/
inductive Refused (c : Controller δ) (image : Image) : CursorError → Controller δ → Prop where
  /-- there is no cursor on the screen -/
  | unseen (henabled : c.surface.enabled = false) (hphase : c.Agrees → c.phase = .hidden) :
      Refused c image (.geometryUnsupported image.width image.height) c
  /-- the cursor is taken off the screen where it is -/
  | hidden {l : Link δ} {m : Message} (henabled : c.surface.enabled = true)
      (hm : Message.request .setCursorState [0, c.surface.x.toUInt32, c.surface.y.toUInt32] = .ok m)
      (hsent : l.sent = c.link.sent.push m) (hanswer : (Device.exchange c.link.device m).word m = .ok 0) :
      Refused c image (.geometryUnsupported image.width image.height)
        { c with link := l, phase := .hidden, surface := { c.surface with enabled := false } }
  /-- it cannot be taken off the screen -/
  | stuck {l : Link δ} {m : Message} {e : CursorError} (henabled : c.surface.enabled = true)
      (hm : Message.request .setCursorState [0, c.surface.x.toUInt32, c.surface.y.toUInt32] = .ok m)
      (hsent : l.sent = c.link.sent.push m) (hhide : c.hide = (.error e, { c with link := l })) :
      Refused c image e { c with link := l }

variable {c c' : Controller δ} {e : CursorError} {tag : Tag} {p : List UInt32}

/-- A request of a status: one message, and what it says is the answer to that. -/
theorem tell_sent (c : Controller δ) (tag : Tag) (hfit : p.length ≤ 26) :
    ∃ m l, Message.request tag p = .ok m ∧ l.sent = c.link.sent.push m ∧
      c.tell tag p = (verdict tag ((Device.exchange c.link.device m).word m), { c with link := l }) := by
  obtain ⟨m, hm⟩ := Message.request_eq_ok tag hfit
  obtain ⟨l, htold, -, hsent⟩ := c.tell_eq tag p
  refine ⟨m, l, hm, ?_, ?_⟩
  · rw [hsent, Link.askWord_sent hm]
  · rw [htold, Link.askWord_result hm]

/-- A verdict fails as an exchange if the answer does; a status other than zero is such a failure. -/
theorem isExchangeFailure_of_verdict {r : Except MailboxError UInt32} (hr : ∀ e, r = .error e → e.isExchangeFailure = true)
    (h : verdict tag r = .error e) : e.isExchangeFailure = true := by
  unfold verdict at h
  rcases r with e' | status
  · obtain rfl := Except.error.inj h
    exact hr e' rfl
  · dsimp only at h
    split_ifs at h
    obtain rfl := Except.error.inj h
    rfl

theorem eq_zero_of_verdict {r : Except MailboxError UInt32} (h : verdict tag r = .ok ()) : r = .ok 0 := by
  unfold verdict at h
  rcases r with e' | status
  · cases h
  · dsimp only at h
    split_ifs at h with hzero
    rw [hzero]

theorem tell_failed (htag : tag = .setCursorState ∨ tag = .setCursorInfo) (hfit : p.length ≤ 26)
    (h : c.tell tag p = (.error e, c')) :
    c' = { c with link := c'.link } ∧ (Device.FailsPlainly δ → e.isExchangeFailure = true) := by
  obtain ⟨m, l, hm, -, htold⟩ := c.tell_sent tag hfit
  obtain ⟨hverdict, rfl⟩ := Prod.mk.inj (htold.symm.trans h)
  refine ⟨rfl, fun hplain => isExchangeFailure_of_verdict (fun e he => ?_) hverdict⟩
  have hm : m.tag = tag.id := Message.tag_of_compose hm
  refine Exchange.isExchangeFailure_of_word (fun e => hplain c.link.device m e ?_) he
  rw [hm]
  rcases htag with rfl | rfl
  · exact Or.inl rfl
  · exact Or.inr rfl

theorem place_failed {enabled : Bool} {x y : Int32} (h : c.place enabled x y = (.error e, c')) : Spared c c' e := by
  rcases c.place_cases enabled x y with ⟨e', c₁, htold, hplace⟩ | ⟨c₁, event, -, hplace⟩
  · obtain ⟨rfl, rfl⟩ := failed_inj (hplace.symm.trans h)
    obtain ⟨hkept, hcause⟩ := tell_failed (Or.inl rfl) (by simp [placeRequest]) htold
    exact ⟨hkept, Or.inr hcause⟩
  · exact absurd (hplace.symm.trans h) not_failed

theorem upload_failed {block : GpuBlock} {picture : Picture} (h : c.upload block picture = (.error e, c')) :
    Spared c c' e := by
  rcases c.upload_cases block picture with ⟨e', c₁, htold, hupload⟩ | ⟨c₁, event, -, hupload⟩
  · obtain ⟨rfl, rfl⟩ := failed_inj (hupload.symm.trans h)
    obtain ⟨hkept, hcause⟩ := tell_failed (Or.inr rfl) (by simp [pictureRequest]) htold
    exact ⟨hkept, Or.inr hcause⟩
  · exact absurd (hupload.symm.trans h) not_failed

/-! ## What the operations leave -/

theorem display_failed (h : c.display = (.error e, c')) : Spared c c' e := by
  unfold display at h
  split_ifs at h
  · exact place_failed h
  · cases h

theorem hide_failed (h : c.hide = (.error e, c')) : Spared c c' e := by
  unfold hide at h
  split_ifs at h
  · exact place_failed h
  · cases h

theorem moveTo_failed {x y : Int32} (h : c.moveTo x y = (.error e, c')) : Spared c c' e := by
  unfold moveTo at h
  split_ifs at h
  · exact place_failed h
  · cases h

theorem enableFor_failed {width height : UInt32} (h : c.enableFor width height = (.error e, c')) : Spared c c' e := by
  unfold enableFor at h
  split_ifs at h
  · dsimp only at h
    split at h
    next => cases h
    next e' c₁ hplace =>
      obtain ⟨rfl, rfl⟩ := failed_inj h
      exact place_failed hplace
  · cases h

/-- A load of an image that the hardware can show fails for the image, or for the request at its end. -/
theorem load_failed {image : Image} (hw : image.width ≤ maxCursorSize) (hh : image.height ≤ maxCursorSize)
    (h : c.load image = (.error e, c')) : Spared c c' e := by
  rcases c.load_cases image with ⟨-, hload⟩ | ⟨-, hlarge, -⟩ | ⟨-, -, -, hsmall⟩
  · exact absurd (hload.symm.trans h) not_failed
  · rcases hlarge with hlarge | hlarge
    · exact absurd hw (UInt32.not_le.2 hlarge)
    · exact absurd hh (UInt32.not_le.2 hlarge)
  rcases hsmall with ⟨cause, hrender, hload⟩ | ⟨picture, -, ⟨-, hload⟩ | ⟨block, -, hload⟩⟩
  · obtain ⟨rfl, rfl⟩ := failed_inj (hload.symm.trans h)
    obtain ⟨plane, needed, found, rfl⟩ := Image.bitmapTooShort_of_render hw hh hrender
    exact ⟨rfl, Or.inl ⟨plane, needed, found, rfl, rfl⟩⟩
  · exact absurd (hload.symm.trans h) not_failed
  · exact upload_failed (hload.symm.trans h)

/-- A load of an image that is too large fails, and hides a cursor that is on the screen if that can be done. -/
theorem load_oversize {image : Image} (hready : c.phase.isReady = true)
    (hlarge : maxCursorSize < image.width ∨ maxCursorSize < image.height) (h : c.load image = (.error e, c')) :
    Refused c image e c' := by
  rcases c.load_cases image with ⟨hnot, -⟩ | ⟨-, -, hload⟩ | ⟨-, hw, hh, -⟩
  · rw [hready] at hnot
    cases hnot
  swap
  · rcases hlarge with hlarge | hlarge
    · exact absurd hw (UInt32.not_le.2 hlarge)
    · exact absurd hh (UInt32.not_le.2 hlarge)
  rw [hload] at h
  unfold refuseImage at h
  by_cases henabled : c.surface.enabled = true
  swap
  · rw [if_neg henabled] at h
    obtain ⟨rfl, rfl⟩ := failed_inj h
    have henabled : c.surface.enabled = false := Bool.eq_false_iff.2 henabled
    refine .unseen henabled fun hagrees => ?_
    rw [hagrees.ready hready, henabled]
    rfl
  rw [if_pos henabled] at h
  obtain ⟨m, l, hm, hsent, htold⟩ :=
    c.tell_sent .setCursorState (p := placeRequest false c.surface.x c.surface.y) (by simp [placeRequest])
  rcases c.place_cases false c.surface.x c.surface.y with ⟨e', c₁, htold', hplace⟩ | ⟨c₁, event, htold', hplace⟩
  all_goals
    rw [hplace] at h
    obtain ⟨rfl, rfl⟩ := failed_inj h
    obtain ⟨hverdict, rfl⟩ := Prod.mk.inj (htold.symm.trans htold')
  · refine .stuck henabled hm hsent ?_
    rw [hide, if_pos hready, hplace]
  · exact .hidden henabled hm (l := l.note event) hsent (eq_zero_of_verdict hverdict)

theorem start_ne_failed (hready : c.phase.isReady = true) : c.start ≠ (.error e, c') := by
  unfold start
  cases hphase : c.phase with
  | uninitialized => exact absurd hphase (Phase.ne_uninitialized hready)
  | unavailable =>
    rw [hphase] at hready
    cases hready
  | hidden | visible | closed => exact not_failed

/-! ## The phase and the record -/

namespace Agrees

theorem start (h : c.Agrees) (hphase : c.phase = .uninitialized) : c.start.2.Agrees := by
  rcases c.start_cases hphase with ⟨_, _, _, -, hstart⟩ | ⟨_, _, _, -, -, hstart⟩ | ⟨_, _, _, _, _, -, -, -, hstart⟩ |
    ⟨_, _, _, _, _, _, -, -, -, hstart⟩
  · rw [hstart]
    exact ⟨nofun, nofun⟩
  · rw [hstart]
    exact ⟨nofun, nofun⟩
  · rw [hstart]
    exact ⟨nofun, nofun⟩
  · rw [hstart]
    refine ⟨nofun, fun _ => ?_⟩
    rw [h.unborn hphase]
    rfl

theorem place (h : c.Agrees) (enabled : Bool) (x y : Int32) : (c.place enabled x y).2.Agrees := by
  rcases hplace : c.place enabled x y with ⟨e | ⟨⟩, c'⟩
  · have hkept : c' = _ := (place_failed hplace).kept
    rw [hkept]
    exact h.congr rfl rfl
  · rcases c.place_cases enabled x y with ⟨e, c₁, -, hplaced⟩ | ⟨c₁, event, -, hplaced⟩
    · exact absurd (hplace.symm.trans hplaced) not_failed
    · obtain ⟨-, rfl⟩ := Prod.mk.inj (hplaced.symm.trans hplace)
      cases enabled
      · exact ⟨nofun, fun _ => rfl⟩
      · exact ⟨nofun, fun _ => rfl⟩

theorem upload (h : c.Agrees) (block : GpuBlock) (picture : Picture) : (c.upload block picture).2.Agrees := by
  refine h.congr (c.upload_phase block picture) ?_
  obtain ⟨l, htold, -⟩ := (c.withPicture block picture).tell_eq .setCursorInfo (pictureRequest picture block.bus)
  rcases c.upload_cases block picture with ⟨e, c₁, htold', hupload⟩ | ⟨c₁, event, htold', hupload⟩
  all_goals
    obtain ⟨-, rfl⟩ := Prod.mk.inj (htold.symm.trans htold')
    rw [hupload]
    rfl

theorem invariant : Invariant (Agrees : Controller δ → Prop) where
  note _ _ h := h.congr rfl rfl
  recolor _ _ h := h.congr rfl rfl
  start _ hphase h := h.start hphase
  place _ enabled x y _ h := h.place enabled x y
  upload _ _ picture block _ _ _ _ _ h := h.upload block picture
  close c _ := by
    have hphase := c.close_phase
    constructor
    · intro h
      rw [hphase] at h
      cases h
    · intro h
      rw [hphase] at h
      cases h

end Agrees

/-- After a run the phase of a ready controller is that of its record. -/
theorem run_agrees (link : Link δ) (settings : CursorSettings) (ops : List Operation) :
    ((create link settings).run ops).Agrees :=
  Agrees.invariant.run _ ops ⟨fun _ => rfl, nofun⟩

/-- how a ready controller's operation fails that is not the last one -/
def Failed (c : Controller δ) (op : Operation) (e : CursorError) (c' : Controller δ) : Prop :=
  (∃ image, op = .load image ∧ (64 < image.width ∨ 64 < image.height) ∧ Refused c image e c') ∨
    (∀ image, op = .load image → image.width ≤ 64 ∧ image.height ≤ 64) ∧ Spared c c' e

theorem perform_failed {op : Operation} (hready : c.phase.isReady = true) (hclose : op ≠ .close)
    (h : op.perform c = (.failed e, c')) : Failed c op e c' := by
  cases op with
  | start => exact absurd (Reply.eq_of_ofUnit h) (start_ne_failed hready)
  | display => exact Or.inr ⟨nofun, display_failed (Reply.eq_of_ofUnit h)⟩
  | hide => exact Or.inr ⟨nofun, hide_failed (Reply.eq_of_ofUnit h)⟩
  | moveTo x y => exact Or.inr ⟨nofun, moveTo_failed (Reply.eq_of_ofUnit h)⟩
  | enableFor width height => exact Or.inr ⟨nofun, enableFor_failed (Reply.eq_of_ofBool h)⟩
  | load image =>
    by_cases hlarge : 64 < image.width ∨ 64 < image.height
    · exact Or.inl ⟨image, rfl, hlarge, load_oversize hready hlarge (Reply.eq_of_ofUnit h)⟩
    · rw [not_or, UInt32.not_lt, UInt32.not_lt] at hlarge
      refine Or.inr ⟨?_, load_failed hlarge.1 hlarge.2 (Reply.eq_of_ofUnit h)⟩
      rintro _ ⟨⟩
      exact hlarge
  | close => exact absurd rfl hclose
  -- the other operations have no failure to tell of
  | recolor | hostShow | hostHide | hostMove | hostColors | hostLoad | hostLoadPixels | hostEnable =>
    cases (Prod.mk.inj h).1

/-! ## What the firmware shows -/

/-- the picture that the firmware shows, and where it was read from -/
def shown (c : Controller Firmware) : Option CursorGeometry × Option (List UInt32) :=
  (c.link.device.cursorGeometry, c.link.device.cursorImage)

theorem refuseImage_shown (c : Controller Firmware) (width height : UInt32) :
    (c.refuseImage width height).2.shown = c.shown := by
  unfold refuseImage
  split_ifs
  · obtain ⟨m, l, ⟨event, hplace, hafter⟩ | ⟨e, hplace, hafter⟩⟩ := c.place_firmware false c.surface.x c.surface.y
    all_goals
      rw [hplace]
      show (l.device.cursorGeometry, l.device.cursorImage) = c.shown
      rw [hafter]
      rfl
  · rfl

theorem upload_failed_shown {c c' : Controller Firmware} {block : GpuBlock} {picture : Picture} {e : CursorError}
    (h : c.upload block picture = (.error e, c')) : c'.shown = c.shown := by
  obtain ⟨m, l, ⟨b, event, hupload, -⟩ | ⟨e', hupload, hafter, -⟩⟩ := c.upload_firmware block picture
  · exact absurd (hupload.symm.trans h) not_failed
  · obtain ⟨-, rfl⟩ := Prod.mk.inj (hupload.symm.trans h)
    have hcursor := c.withPicture_cursor block picture
    show (l.device.cursorGeometry, l.device.cursorImage) = c.shown
    rw [hafter]
    exact congrArg Prod.snd hcursor

/-- A picture is shown until another one is loaded, and not only asked for. -/
theorem load_failed_shown {c c' : Controller Firmware} {image : Image} {e : CursorError}
    (h : c.load image = (.error e, c')) : c'.shown = c.shown := by
  rcases c.load_cases image with ⟨-, hload⟩ | ⟨-, -, hload⟩ | ⟨-, -, -, hsmall⟩
  · exact absurd (hload.symm.trans h) not_failed
  · have hkept := c.refuseImage_shown image.width image.height
    rw [← hload, h] at hkept
    exact hkept
  rcases hsmall with ⟨cause, -, hload⟩ | ⟨picture, -, ⟨-, hload⟩ | ⟨block, -, hload⟩⟩
  · obtain ⟨-, rfl⟩ := Prod.mk.inj (hload.symm.trans h)
    rfl
  · exact absurd (hload.symm.trans h) not_failed
  · exact upload_failed_shown (hload.symm.trans h)

/-- **Failures leave no trace.** Over any device, whatever it does: an operation that fails leaves a ready controller as it was,
but for the load of an image that is too large, which hides the cursor if it can; of the operations that can fail only
closing is left out. And over the emulated firmware, a load that fails leaves the picture that is shown. -/
theorem failed_operations (δ : Type) [Device δ] :
    (∀ (c c' : Controller δ) (op : Operation) (e : CursorError), c.phase.isReady = true → op ≠ .close →
      op.perform c = (.failed e, c') → Failed c op e c') ∧
    (∀ (link : Link δ) (settings : CursorSettings) (ops : List Operation), ((create link settings).run ops).Agrees) ∧
    ∀ (c c' : Controller Firmware) (image : Image) (e : CursorError), c.load image = (.error e, c') → c'.shown = c.shown :=
  ⟨fun _ _ _ _ => perform_failed, run_agrees, fun _ _ _ _ => load_failed_shown⟩

/-- Two pixels that the firmware does not answer for: the cursor on the screen stays. -/
theorem failed_operations_withheld : ∃ (c c' : Controller Firmware) (op : Operation) (e : CursorError),
    c = (new 0 .default).session [.operate .start, .operate .display, .adjust (.withhold .setCursorInfo)] ∧
      c.phase.isReady = true ∧ op ≠ .close ∧ op.perform c = (.failed e, c') ∧
      Failed c op e c' ∧ c'.shown = c.shown ∧ e.isExchangeFailure = true := by
  let image : Image := .mono 2 1 #[1, 0, 0, 0] #[3, 0, 0, 0] .default
  let e : CursorError := .mailbox (.exchangeFailed Tag.setCursorInfo.id (.response (.notProcessed 0)))
  obtain ⟨c, hc⟩ : ∃ c : Controller Firmware,
    c = (new 0 .default).session [.operate .start, .operate .display, .adjust (.withhold .setCursorInfo)] := ⟨_, rfl⟩
  have hready : c.phase.isReady = true := by
    rw [hc]
    decide +kernel
  have hreply : ((Operation.load image).perform c).1 = .failed e := by
    rw [hc]
    decide +kernel
  obtain ⟨c', h⟩ : ∃ c', (Operation.load image).perform c = (.failed e, c') := ⟨_, Prod.ext hreply rfl⟩
  obtain ⟨hfailures, -, hshown⟩ := failed_operations Firmware
  have hfailed : Failed c (.load image) e c' := hfailures c c' _ e hready nofun h
  have hexchange : e.isExchangeFailure = true := by
    rcases hfailed with ⟨_, ⟨⟩, hlarge, -⟩ | ⟨-, hspared⟩
    · exact absurd hlarge (by decide)
    · rcases hspared.cause with ⟨plane, needed, found, hraster, -⟩ | hplainly
      · exact CursorError.noConfusion hraster
      · exact hplainly Firmware.failsPlainly
  exact ⟨c, c', .load image, e, hc, hready, nofun, h, hfailed, hshown c c' image e (Reply.eq_of_ofUnit h), hexchange⟩

end Controller
end MailboxCursor
