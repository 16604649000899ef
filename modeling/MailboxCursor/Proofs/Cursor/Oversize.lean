/-
Images that are too large for the hardware, over any device.

A controller `Declines` an image when its load fails for the size, or when it is asked about the size and says no. Either
leaves the cursor off (`perform_declines`), and an operation that does not ask for the cursor to be shown leaves a cursor that
is off alone (`perform_dark`): the messages it sends do not show one. `declined_stays_dark` is this over what follows, the
end of the controller included. Nothing remembers the image, though: the next call that shows the cursor does show it
(`display_after_declined`), with the picture that was there before.
-/
import MailboxCursor.Proofs.Cursor.Machine

namespace MailboxCursor

/-- the message asks for the cursor to be on the screen -/
def Message.asksToShow (m : Message) : Prop :=
  m.tag = Tag.setCursorState.id ∧ m.requestPayload.head? ≠ some 0

theorem Message.not_asksToShow_of_tag {m : Message} {tag : Tag} (hm : m.tag = tag.id) (htag : tag ≠ .setCursorState) :
    ¬m.asksToShow := by
  rintro ⟨hstate, -⟩
  exact htag (Tag.id_inj (hm.symm.trans hstate))

namespace Link

variable {δ : Type}

/-- the messages sent in between do not ask for the cursor to be shown -/
def StaysDark (l l' : Link δ) : Prop :=
  ∃ more : List Message, l'.sent.toList = l.sent.toList ++ more ∧ ∀ m ∈ more, ¬m.asksToShow

namespace StaysDark

variable {l l' l'' : Link δ} {m : Message}

theorem of_sent_eq (h : l'.sent = l.sent) : StaysDark l l' :=
  ⟨[], by rw [h, List.append_nil], nofun⟩

theorem refl (l : Link δ) : StaysDark l l :=
  of_sent_eq rfl

theorem trans (h : StaysDark l l') (h' : StaysDark l' l'') : StaysDark l l'' := by
  obtain ⟨more, hsent, hmore⟩ := h
  obtain ⟨more', hsent', hmore'⟩ := h'
  refine ⟨more ++ more', ?_, ?_⟩
  · rw [hsent', hsent, List.append_assoc]
  · intro m hm
    rcases List.mem_append.1 hm with hm | hm
    · exact hmore m hm
    · exact hmore' m hm

theorem push (hsent : l'.sent = l.sent.push m) (hm : ¬m.asksToShow) : StaysDark l l' := by
  refine ⟨[m], ?_, ?_⟩
  · rw [hsent, Array.toList_push]
  · intro m' hm'
    rw [List.mem_singleton.1 hm']
    exact hm

end StaysDark

variable [Device δ]

/-- A request for another tag than that of the cursor's state shows nothing. -/
theorem askWord_dark (l : Link δ) (tag : Tag) (payload : List UInt32) (htag : tag ≠ .setCursorState) :
    StaysDark l (l.askWord tag payload).2 := by
  rw [askWord_eq]
  cases hm : Message.request tag payload with
  | error e =>
    rw [ask_of_error hm]
    exact .refl l
  | ok m => exact .push (ask_sent hm) (Message.not_asksToShow_of_tag (Message.tag_of_compose hm) htag)

theorem release_dark (l : Link δ) (b : GpuBlock) : StaysDark l (l.release b).2 := by
  have hunlocked (l : Link δ) : StaysDark l (l.unlock b.handle).2 :=
    (askWord_dark l .unlockMemory [b.handle.val] (by decide)).trans (.of_sent_eq (unlock_eq l b.handle).2.2)
  have hfreed (l : Link δ) : StaysDark l (l.free b.handle).2 :=
    (askWord_dark l .releaseMemory [b.handle.val] (by decide)).trans (.of_sent_eq (free_eq l b.handle).2.2)
  -- the mapping is taken down without a message
  have hclosed : StaysDark l (l.closeWindow b.window).2 := .of_sent_eq rfl
  exact (hclosed.trans (hunlocked _)).trans (hfreed _)

end Link

namespace Controller

open Link (StaysDark)

variable {δ : Type}

@[simp] theorem noteFailure_surface (what : String) (r : Except CursorError Unit × Controller δ) :
    (noteFailure what r).surface = r.2.surface := by
  rcases r with ⟨_ | _, _⟩ <;> rfl

variable [Device δ]

theorem givenBack_dark (l : Link δ) (transfer : Option GpuBlock) : StaysDark l (givenBack l transfer) := by
  cases transfer with
  | none => exact .refl l
  | some block => exact l.release_dark block

/-! ## Images that are declined -/

/-- the operation finds an image, or the size of one, too large for the hardware -/
inductive Declines (c : Controller δ) (op : Operation) : Prop where
  | load {image : Image} (width height : UInt32) (loads : c.image? op = some image)
      (failed : (c.load image).1 = .error (.geometryUnsupported width height)) : Declines c op
  | enable (width height : UInt32) (asks : op = .enableFor width height ∨ op = .hostEnable width height)
      (denied : (c.enableFor width height).1 = .ok false) : Declines c op

variable {c : Controller δ} {op : Operation}

/-- A placement that succeeds is on record. -/
theorem place_enabled (c : Controller δ) (enabled : Bool) (x y : Int32) (h : (c.place enabled x y).1 = .ok ()) :
    (c.place enabled x y).2.surface.enabled = enabled := by
  rcases c.place_cases enabled x y with ⟨e, c', -, hplace⟩ | ⟨c', event, -, hplace⟩
  · rw [hplace] at h
    cases h
  · rw [hplace]
    rfl

/-- No request fails for the size of an image. -/
theorem tell_ne_geometry (c : Controller δ) (tag : Tag) (payload : List UInt32) (width height : UInt32) :
    (c.tell tag payload).1 ≠ .error (.geometryUnsupported width height) := by
  intro hfailed
  obtain ⟨l, htold, -⟩ := c.tell_eq tag payload
  rw [htold] at hfailed
  dsimp only at hfailed
  generalize (c.link.askWord tag payload).1 = r at hfailed
  cases r with
  | error e => cases hfailed
  | ok status =>
    rw [verdict] at hfailed
    split_ifs at hfailed
    cases hfailed

theorem place_ne_geometry (c : Controller δ) (enabled : Bool) (x y : Int32) (width height : UInt32) :
    (c.place enabled x y).1 ≠ .error (.geometryUnsupported width height) := by
  have htell := c.tell_ne_geometry .setCursorState (placeRequest enabled x y) width height
  rcases c.place_cases enabled x y with ⟨e, c', htold, hplace⟩ | ⟨c', event, htold, hplace⟩
  all_goals
    rw [htold] at htell
    rw [hplace]
  · exact htell
  · intro hfailed
    cases hfailed

theorem upload_ne_geometry (c : Controller δ) (block : GpuBlock) (picture : Picture) (width height : UInt32) :
    (c.upload block picture).1 ≠ .error (.geometryUnsupported width height) := by
  have htell := (c.withPicture block picture).tell_ne_geometry .setCursorInfo (pictureRequest picture block.bus) width
    height
  rcases c.upload_cases block picture with ⟨e, c', htold, hupload⟩ | ⟨c', event, htold, hupload⟩
  all_goals
    rw [htold] at htell
    rw [hupload]
  · exact htell
  · intro hfailed
    cases hfailed

theorem refuseImage_dark {w h width height : UInt32}
    (hfailed : (c.refuseImage w h).1 = .error (.geometryUnsupported width height)) :
    (c.refuseImage w h).2.surface.enabled = false := by
  have hplaced := c.place_enabled false c.surface.x c.surface.y
  have hgeometry := c.place_ne_geometry false c.surface.x c.surface.y width height
  unfold refuseImage at hfailed ⊢
  split_ifs at hfailed ⊢ with henabled
  · generalize c.place false c.surface.x c.surface.y = r at hfailed hplaced hgeometry ⊢
    rcases r with ⟨e | ⟨⟩, c'⟩
    · exact absurd hfailed hgeometry
    · exact hplaced rfl
  · simpa using henabled

/-- A load that fails for the size of its image leaves the cursor off. -/
theorem load_dark {image : Image} {width height : UInt32}
    (hfailed : (c.load image).1 = .error (.geometryUnsupported width height)) :
    (c.load image).2.surface.enabled = false := by
  rcases c.load_cases image with ⟨-, hload⟩ | ⟨-, -, hload⟩ | ⟨-, -, -, hload⟩
  · rw [hload] at hfailed
    cases hfailed
  · rw [hload] at hfailed ⊢
    exact refuseImage_dark hfailed
  rcases hload with ⟨e, -, hload⟩ | ⟨picture, -, ⟨-, hload⟩ | ⟨block, -, hload⟩⟩
  · rw [hload] at hfailed
    cases hfailed
  · rw [hload] at hfailed
    cases hfailed
  · rw [hload] at hfailed
    exact absurd hfailed (c.upload_ne_geometry block picture width height)

/-- A size that is denied leaves the cursor off. -/
theorem enableFor_dark {width height : UInt32} (hready : c.phase.isReady = true)
    (hdenied : (c.enableFor width height).1 = .ok false) : (c.enableFor width height).2.surface.enabled = false := by
  have hplaced := c.place_enabled (width ≤ maxCursorSize && height ≤ maxCursorSize) c.surface.x c.surface.y
  rw [enableFor, if_pos hready] at hdenied ⊢
  dsimp only at hdenied ⊢
  generalize c.place (width ≤ maxCursorSize && height ≤ maxCursorSize) c.surface.x c.surface.y = r at hplaced hdenied ⊢
  rcases r with ⟨e | ⟨⟩, c'⟩
  · cases hdenied
  · exact (hplaced rfl).trans (Except.ok.inj hdenied)

theorem hostEnable_surface (c : Controller δ) (width height : UInt32) :
    (c.hostEnable width height).2.surface = (c.enableFor width height).2.surface := by
  rw [hostEnable]
  rcases c.enableFor width height with ⟨_ | _, _⟩ <;> rfl

/-- What is declined leaves the cursor off, whoever asked for it. -/
theorem perform_declines (hready : c.phase.isReady = true) (h : Declines c op) :
    (op.perform c).2.surface.enabled = false := by
  cases h with
  | load width height loads failed =>
    have hoff := load_dark failed
    cases op with
    | load =>
      obtain rfl := Option.some.inj loads
      exact hoff
    | hostLoad | hostLoadPixels =>
      obtain rfl := Option.some.inj loads
      exact (congrArg Surface.enabled (noteFailure_surface _ _)).trans hoff
    | start | display | hide | moveTo | recolor | enableFor | close | hostShow | hostHide | hostMove | hostColors |
      hostEnable => cases loads
  | enable width height asks denied =>
    have hoff := enableFor_dark hready denied
    rcases asks with rfl | rfl
    · exact hoff
    · exact (congrArg Surface.enabled (c.hostEnable_surface width height)).trans hoff

/-! ## What follows -/

/-- a controller that has started, with its cursor off -/
structure IsDark (c : Controller δ) : Prop where
  started : c.phase ≠ .uninitialized
  off : c.surface.enabled = false

theorem not_asksToShow_of_hidden {m : Message} {x y : Int32}
    (hm : Message.request .setCursorState (placeRequest false x y) = .ok m) : ¬m.asksToShow := by
  rintro ⟨-, hshown⟩
  rw [Message.requestPayload_of_compose hm] at hshown
  exact hshown rfl

/-- A placement out of sight is no message that shows the cursor. -/
theorem place_dark (x y : Int32) (h : IsDark c) :
    (c.place false x y).2.surface.enabled = false ∧ StaysDark c.link (c.place false x y).2.link := by
  obtain ⟨m, l, hm, hsent, hplace⟩ := c.place_leaves false x y
  have hdark : StaysDark c.link l := .push hsent (not_asksToShow_of_hidden hm)
  rcases hplace with hplace | hplace
  · rw [hplace]
    exact ⟨h.off, hdark⟩
  · rw [hplace]
    exact ⟨rfl, hdark⟩

theorem upload_dark (block : GpuBlock) (picture : Picture) (h : IsDark c) :
    (c.upload block picture).2.surface.enabled = false ∧ StaysDark c.link (c.upload block picture).2.link := by
  obtain ⟨m, l, hm, hsent, hupload⟩ := c.upload_leaves block picture
  have hdark : StaysDark c.link l :=
    .push hsent (Message.not_asksToShow_of_tag (Message.tag_of_compose hm) (by decide))
  rcases hupload with hupload | hupload
  · rw [hupload]
    exact ⟨h.off, hdark⟩
  · rw [hupload]
    exact ⟨h.off, hdark⟩

theorem close_dark (h : IsDark c) : c.close.2.surface.enabled = false ∧ StaysDark c.link c.close.2.link := by
  by_cases hready : c.phase.isReady = true
  swap
  · rw [c.close_of_not_ready (by simpa using hready)]
    exact ⟨h.off, .refl c.link⟩
  obtain ⟨hidden, m, l, event, hm, hsent, hclose⟩ := c.close_leaves hready
  have hdark : StaysDark c.link l := .push hsent (not_asksToShow_of_hidden hm)
  rw [hclose]
  refine ⟨?_, hdark.trans ((givenBack_dark l c.transfer).trans (.of_sent_eq rfl))⟩
  cases hidden with
  | error e => exact h.off
  | ok => rfl

theorem abandon_dark (h : IsDark c) : c.abandon.surface.enabled = false ∧ StaysDark c.link c.abandon.link := by
  have hclosed := close_dark h
  rw [abandon]
  generalize c.close = r at hclosed ⊢
  rcases r with ⟨e | ⟨⟩, c'⟩
  · exact ⟨hclosed.1, hclosed.2.trans (.of_sent_eq rfl)⟩
  · exact hclosed

theorem Course.dark {c' : Controller δ} (hraises : op.raises = false) (h : IsDark c) (hcourse : Course c op c') :
    c'.surface.enabled = false ∧ StaysDark c.link c'.link := by
  induction hcourse with
  | idle => exact ⟨h.off, .refl c.link⟩
  | recolored colors => exact ⟨h.off, .refl c.link⟩
  | @placed enabled x y raised =>
    -- nothing asks for the cursor here: neither the operation nor the record
    have hoff : enabled = false := by
      rw [hraises, h.off] at raised
      simpa using raised
    rw [hoff]
    exact place_dark x y h
  | drawn => exact upload_dark _ _ h
  | closed => exact close_dark h
  | noted e course ih => exact ⟨ih.1, ih.2.trans (.of_sent_eq rfl)⟩

/-- **One step.** An operation that does not ask for the cursor leaves a cursor that is off alone. -/
theorem perform_dark (hraises : op.raises = false) (h : IsDark c) :
    IsDark (op.perform c).2 ∧ StaysDark c.link (op.perform c).2.link := by
  have hstarted : (op.perform c).2.phase ≠ .uninitialized := (c.perform_turn op).ne_uninitialized h.started
  by_cases hready : c.phase.isReady = true
  · obtain ⟨hoff, hdark⟩ := (c.perform_course hready op).dark hraises h
    exact ⟨⟨hstarted, hoff⟩, hdark⟩
  · have hignored := c.perform_of_not_ready (by simpa using hready) op fun _ => h.started
    rw [hignored] at hstarted ⊢
    exact ⟨⟨hstarted, h.off⟩, .refl c.link⟩

theorem run_dark (ops : List Operation) (hraises : ∀ op ∈ ops, op.raises = false) (h : IsDark c) :
    IsDark (c.run ops) ∧ StaysDark c.link (c.run ops).link := by
  induction ops generalizing c with
  | nil => exact ⟨h, .refl c.link⟩
  | cons op ops ih =>
    obtain ⟨hstep, hdark⟩ := perform_dark (hraises op List.mem_cons_self) h
    obtain ⟨hrun, hdark'⟩ := ih (fun op' hop' => hraises op' (List.mem_cons_of_mem op hop')) hstep
    exact ⟨hrun, hdark.trans hdark'⟩

/-- **What is declined stays off.** Over any device: once a ready controller has declined an image, or the size of one,
no message asks for the cursor to be shown, whatever is done and until the controller is gone, unless somebody asks for it:
with a call that shows the cursor, or with a size that the hardware can show. A load asks for nothing. -/
theorem declined_stays_dark (c : Controller δ) (op : Operation) (ops : List Operation) (dropped : Bool)
    (hready : c.phase.isReady = true) (hdeclines : Declines c op) (hraises : ∀ op ∈ ops, op.raises = false) :
    (((op.perform c).2.live ops dropped).surface.enabled = false) ∧
      ∃ more, ((op.perform c).2.live ops dropped).link.sent.toList = (op.perform c).2.link.sent.toList ++ more ∧
        ∀ m ∈ more, ¬m.asksToShow := by
  have hdark : IsDark (op.perform c).2 :=
    ⟨(c.perform_turn op).ne_uninitialized (Phase.ne_uninitialized hready), perform_declines hready hdeclines⟩
  obtain ⟨hrun, hsent⟩ := run_dark ops hraises hdark
  cases dropped with
  | false => exact ⟨hrun.off, hsent⟩
  | true =>
    obtain ⟨hoff, habandoned⟩ := abandon_dark hrun
    exact ⟨hoff, hsent.trans habandoned⟩

/-- A size that is declined, and then an image, a move and the end: no message shows the cursor. -/
theorem declined_stays_dark_moved :
    let c : Controller Firmware := (new 0 .default).run [.start, .display]
    let ops : List Operation := [.load (.argb 1 1 #[0xffffffff]), .moveTo 3 4]
    c.phase.isReady = true ∧ Declines c (.enableFor 80 80) ∧ (∀ op ∈ ops, op.raises = false) ∧
      (((Operation.enableFor 80 80).perform c).2.live ops true).surface.enabled = false := by
  intro c ops
  have hready : c.phase.isReady = true := by decide +kernel
  have hdeclines : Declines c (.enableFor 80 80) := .enable 80 80 (Or.inl rfl) (by decide +kernel)
  have hraises : ∀ op ∈ ops, op.raises = false := by decide
  exact ⟨hready, hdeclines, hraises, (declined_stays_dark c (.enableFor 80 80) ops true hready hdeclines hraises).1⟩

/-! ## The call that shows the cursor -/

/-- A ready controller that is to show its cursor asks for it, whatever it has declined. -/
theorem display_asksToShow (hready : c.phase.isReady = true) :
    ∃ m, c.display.2.link.sent = c.link.sent.push m ∧ m.asksToShow := by
  obtain ⟨m, l, hm, hsent, hplace⟩ := c.place_leaves true c.surface.x c.surface.y
  refine ⟨m, ?_, Message.tag_of_compose hm, ?_⟩
  · rw [display, if_pos hready]
    rcases hplace with hplace | hplace
    · rw [hplace]
      exact hsent
    · rw [hplace]
      exact hsent
  · rw [Message.requestPayload_of_compose hm]
    simp [placeRequest]

/-- An image that is too large takes the cursor off the screen; no other image is offered, and the cursor is shown again. -/
theorem display_after_declined :
    let c : Controller Firmware := (new 0 .default).run [.start, .load (.argb 1 1 #[0xffffffff]), .display]
    let large : Operation := .load (.argb 65 1 (Array.replicate 65 0))
    c.phase.isReady = true ∧ Declines c large ∧ (large.perform c).2.phase = .hidden ∧
      ∃ m, (large.perform c).2.display.2.link.sent = (large.perform c).2.link.sent.push m ∧ m.asksToShow := by
  intro c large
  have hloads : c.image? large = some (.argb 65 1 (Array.replicate 65 0)) := rfl
  have hfailed : (c.load (.argb 65 1 (Array.replicate 65 0))).1 = .error (.geometryUnsupported 65 1) := by
    decide +kernel
  have hdeclines : Declines c large := .load 65 1 hloads hfailed
  have hhidden : (large.perform c).2.phase = .hidden := by decide +kernel
  exact ⟨by decide +kernel, hdeclines, hhidden, display_asksToShow (by rw [hhidden]; rfl)⟩

end Controller
end MailboxCursor
