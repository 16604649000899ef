/-
The controller as a state machine, over any device, whatever it answers.

`Course` lists the ways in which an operation on a ready controller can go, and `perform_course` says that there is no other.
`perform_of_not_ready` is the other half: a controller that is not ready ignores what is done to it, but for the start that
makes it ready. `start_leaves`, `place_leaves`, `upload_leaves` and `close_leaves` say what the steps that ask for something
leave of the controller. From these come the phases that follow one another (`Phase.Turn`), what holds between operations
(`Regular`), and that the device is tried once at most. `state_machine` has it all.
-/
import MailboxCursor.Proofs.Cursor.Failure
import MailboxCursor.Proofs.Cursor.Trace

namespace MailboxCursor

/-! ## Operations by what they can do -/

namespace Operation

/-- the operations that put a hidden cursor on the screen, if the device agrees -/
def raises : Operation → Bool
  | display | hostShow => true
  | enableFor width height | hostEnable width height => width ≤ maxCursorSize && height ≤ maxCursorSize
  | _ => false

/-- the colours that an operation stores -/
def colors? : Operation → Option Palette
  | recolor colors | hostColors colors => some colors
  | _ => none

end Operation

/-- the phases that an operation leads from and to -/
inductive Phase.Turn : Operation → Phase → Phase → Prop where
  | stays (op : Operation) (p : Phase) : Turn op p p
  | starts : Turn .start .uninitialized .hidden
  | fails : Turn .start .uninitialized .unavailable
  | appears (op : Operation) : Turn op .hidden .visible
  | disappears (op : Operation) : Turn op .visible .hidden
  | closes (p : Phase) : Turn .close p .closed

/-- A ready controller may show its cursor or not. -/
theorem Phase.Turn.shown (op : Operation) {p : Phase} (h : p.isReady = true) (enabled : Bool) :
    Turn op p (Controller.shownPhase enabled) := by
  cases p with
  | hidden =>
    cases enabled with
    | false => exact .stays op .hidden
    | true => exact .appears op
  | visible =>
    cases enabled with
    | false => exact .disappears op
    | true => exact .stays op .visible
  | uninitialized | unavailable | closed => cases h

/-- Nothing leads away from the end. -/
theorem Phase.Turn.eq_closed {op : Operation} {p : Phase} (h : Turn op .closed p) : p = .closed := by
  cases h with
  | stays => rfl
  | closes => rfl

/-- Nothing leads back to the beginning. -/
theorem Phase.Turn.ne_uninitialized {op : Operation} {p q : Phase} (h : Turn op p q) (hp : p ≠ .uninitialized) :
    q ≠ .uninitialized := by
  cases h with
  | stays => exact hp
  | starts | fails | appears | disappears | closes => nofun

/-- no picture yet, or one of a size that the hardware shows -/
def Surface.IsSized (s : Surface) : Prop :=
  s.width = 0 ∧ s.height = 0 ∨ IsShownSize s.width ∧ IsShownSize s.height

namespace Controller

variable {δ : Type}

/-! ## What a step leaves -/

/-- the controller after an operation that it ignores: colours are stored all the same, and the end is noted -/
def ignoring (c : Controller δ) (op : Operation) : Controller δ :=
  { c with
    phase := if op = .close then .closed else c.phase
    surface := { c.surface with colors := op.colors?.getD c.surface.colors } }

variable [Device δ]

/-- A start ends for good: without a transfer buffer or with one. -/
theorem start_leaves (c : Controller δ) (h : c.phase = .uninitialized) :
    (∃ l firmware, c.start.2 = { c with link := l, phase := .unavailable, firmware := firmware }) ∨
    ∃ l firmware block,
      c.start.2 = { c with link := l, phase := .hidden, firmware := firmware, transfer := some block } := by
  rcases c.start_cases h with ⟨_, _, _, -, hstart⟩ | ⟨_, _, _, -, -, hstart⟩ | ⟨_, _, _, _, _, -, -, -, hstart⟩ |
    ⟨_, _, _, _, _, _, -, -, -, hstart⟩
  · exact Or.inl ⟨_, _, congrArg Prod.snd hstart⟩
  · exact Or.inl ⟨_, _, congrArg Prod.snd hstart⟩
  · exact Or.inl ⟨_, _, congrArg Prod.snd hstart⟩
  · exact Or.inr ⟨_, _, _, congrArg Prod.snd hstart⟩

/-- A placement sends its one request; it changes the record and the phase if the device agrees, and nothing otherwise. -/
theorem place_leaves (c : Controller δ) (enabled : Bool) (x y : Int32) :
    ∃ m l, Message.request .setCursorState (placeRequest enabled x y) = .ok m ∧ l.sent = c.link.sent.push m ∧
      ((c.place enabled x y).2 = { c with link := l } ∨
        (c.place enabled x y).2 =
          { c with link := l, phase := shownPhase enabled, surface := c.surface.putAt enabled x y }) := by
  obtain ⟨m, l, hm, hsent, htold⟩ :=
    c.tell_sent .setCursorState (p := placeRequest enabled x y) (by simp [placeRequest])
  rcases c.place_cases enabled x y with ⟨e, c', htold', hplace⟩ | ⟨c', event, htold', hplace⟩
  all_goals
    obtain ⟨-, rfl⟩ := Prod.mk.inj (htold.symm.trans htold')
    rw [hplace]
  · exact ⟨m, l, hm, hsent, Or.inl rfl⟩
  · exact ⟨m, l.note event, hm, hsent, Or.inr rfl⟩

/-- An upload sends its one request; it changes the record if the device agrees, and nothing otherwise. -/
theorem upload_leaves (c : Controller δ) (block : GpuBlock) (picture : Picture) :
    ∃ m l, Message.request .setCursorInfo (pictureRequest picture block.bus) = .ok m ∧ l.sent = c.link.sent.push m ∧
      ((c.upload block picture).2 = { c with link := l } ∨
        (c.upload block picture).2 = { c with link := l, surface := c.surface.drawnAs picture }) := by
  obtain ⟨m, l, hm, hsent, htold⟩ := (c.withPicture block picture).tell_sent .setCursorInfo
    (p := pictureRequest picture block.bus) (by simp [pictureRequest])
  rcases c.upload_cases block picture with ⟨e, c', htold', hupload⟩ | ⟨c', event, htold', hupload⟩
  all_goals
    obtain ⟨-, rfl⟩ := Prod.mk.inj (htold.symm.trans htold')
    rw [hupload]
  · exact ⟨m, l, hm, hsent, Or.inl rfl⟩
  · exact ⟨m, l.note event, hm, hsent, Or.inr rfl⟩

/-- A ready controller that closes asks for the cursor to be hidden, and then gives its transfer buffer back. -/
theorem close_leaves (c : Controller δ) (hready : c.phase.isReady = true) :
    ∃ hidden m l event, Message.request .setCursorState (placeRequest false c.surface.x c.surface.y) = .ok m ∧
      l.sent = c.link.sent.push m ∧
      c.close.2 =
        { c with
          link := (givenBack l c.transfer).note event
          phase := .closed
          surface := afterHide c.surface hidden
          transfer := none } := by
  obtain ⟨hidden, l, event, htold, hclose⟩ := c.close_eq hready
  obtain ⟨m, l', hm, hsent, htold'⟩ := tell_sent { c with phase := .closed } .setCursorState
    (p := placeRequest false c.surface.x c.surface.y) (by simp [placeRequest])
  have hlinks := congrArg Controller.link (Prod.mk.inj (htold.symm.trans htold')).2
  obtain rfl : l = l' := hlinks
  exact ⟨hidden, m, l, event, hm, hsent, hclose⟩

/-! ## The ways of an operation -/

/-- the ways in which an operation on a ready controller can go, with what it leaves -/
inductive Course (c : Controller δ) (op : Operation) : Controller δ → Prop where
  | idle : Course c op c
  | recolored (colors : Palette) : Course c op (c.recolor colors)
  /-- only some operations show a cursor that is hidden; any other leaves it hidden -/
  | placed {enabled : Bool} (x y : Int32) (raised : enabled = true → op.raises = true ∨ c.surface.enabled = true) :
      Course c op (c.place enabled x y).2
  | drawn {image : Image} {picture : Picture} {block : GpuBlock} (width : image.width ≤ maxCursorSize)
      (height : image.height ≤ maxCursorSize) (rendered : image.render c.surface.colors = .ok picture)
      (held : c.transfer = some block) : Course c op (c.upload block picture).2
  | closed (asked : op = .close) : Course c op c.close.2
  | noted {c' : Controller δ} (e : Event) (course : Course c op c') : Course c op (c'.note e)

namespace Course

variable {c : Controller δ} {op : Operation}

theorem noteFailure {what : String} {r : Except CursorError Unit × Controller δ} (h : Course c op r.2) :
    Course c op (Controller.noteFailure what r) := by
  rcases r with ⟨e | ⟨⟩, c'⟩
  · exact .noted _ h
  · exact h

theorem display (hready : c.phase.isReady = true) (hraises : op.raises = true) : Course c op c.display.2 := by
  rw [Controller.display, if_pos hready]
  exact .placed _ _ fun _ => Or.inl hraises

theorem hide (hready : c.phase.isReady = true) : Course c op c.hide.2 := by
  rw [Controller.hide, if_pos hready]
  exact .placed _ _ fun henabled => absurd henabled Bool.false_ne_true

theorem moveTo (hready : c.phase.isReady = true) (x y : Int32) : Course c op (c.moveTo x y).2 := by
  rw [Controller.moveTo, if_pos hready]
  exact .placed x y fun henabled => Or.inr henabled

theorem enableFor (hready : c.phase.isReady = true) {width height : UInt32}
    (hraises : (width ≤ maxCursorSize && height ≤ maxCursorSize) = true → op.raises = true) :
    Course c op (c.enableFor width height).2 := by
  have hplaced : Course c op
      (c.place (width ≤ maxCursorSize && height ≤ maxCursorSize) c.surface.x c.surface.y).2 :=
    .placed _ _ fun henabled => Or.inl (hraises henabled)
  rw [Controller.enableFor, if_pos hready]
  dsimp only
  generalize c.place (width ≤ maxCursorSize && height ≤ maxCursorSize) c.surface.x c.surface.y = r at hplaced ⊢
  rcases r with ⟨e | ⟨⟩, c'⟩
  · exact hplaced
  · exact hplaced

theorem refuseImage (width height : UInt32) : Course c op (c.refuseImage width height).2 := by
  have hplaced : Course c op (c.place false c.surface.x c.surface.y).2 :=
    .placed _ _ fun henabled => absurd henabled Bool.false_ne_true
  rw [Controller.refuseImage]
  split_ifs
  · generalize c.place false c.surface.x c.surface.y = r at hplaced ⊢
    rcases r with ⟨e | ⟨⟩, c'⟩
    · exact hplaced
    · exact hplaced
  · exact .idle

theorem load (image : Image) : Course c op (c.load image).2 := by
  rcases c.load_cases image with ⟨-, hload⟩ | ⟨-, -, hload⟩ | ⟨-, hw, hh, hload⟩
  · rw [hload]
    exact .idle
  · rw [hload]
    exact .refuseImage image.width image.height
  rcases hload with ⟨e, -, hload⟩ | ⟨picture, hpicture, ⟨-, hload⟩ | ⟨block, hblock, hload⟩⟩
  · rw [hload]
    exact .idle
  · rw [hload]
    exact .idle
  · rw [hload]
    exact .drawn hw hh hpicture hblock

theorem hostEnable (hready : c.phase.isReady = true) {width height : UInt32}
    (hraises : (width ≤ maxCursorSize && height ≤ maxCursorSize) = true → op.raises = true) :
    Course c op (c.hostEnable width height).2 := by
  have henabled : Course c op (c.enableFor width height).2 := .enableFor hready hraises
  rw [Controller.hostEnable]
  generalize c.enableFor width height = r at henabled ⊢
  rcases r with ⟨e | on, c'⟩
  · exact .noted _ henabled
  · exact henabled

end Course

/-- An operation on a ready controller goes one of the ways of `Course`. -/
theorem perform_course (c : Controller δ) (hready : c.phase.isReady = true) (op : Operation) :
    Course c op (op.perform c).2 := by
  cases op with
  | start =>
    show Course c .start c.start.2
    rw [c.start_of_started (Phase.ne_uninitialized hready)]
    exact .idle
  | display => exact .display hready rfl
  | hide => exact .hide hready
  | moveTo x y => exact .moveTo hready x y
  | recolor colors => exact .recolored colors
  | enableFor width height => exact .enableFor hready fun hfits => hfits
  | load image => exact .load image
  | close => exact .closed rfl
  | hostShow => exact (Course.display hready rfl).noteFailure
  | hostHide => exact (Course.hide hready).noteFailure
  | hostMove x y => exact (Course.moveTo hready x y).noteFailure
  | hostColors colors => exact .recolored colors
  | hostLoad width height bits => exact (Course.load _).noteFailure
  | hostLoadPixels width height pixels => exact (Course.load _).noteFailure
  | hostEnable width height => exact .hostEnable hready fun hfits => hfits

/-- A controller that is not ready ignores every operation but its start. -/
theorem perform_of_not_ready (c : Controller δ) (hready : c.phase.isReady = false) (op : Operation)
    (hstart : op = .start → c.phase ≠ .uninitialized) : (op.perform c).2 = c.ignoring op := by
  cases op with
  | start => exact c.start_of_started (hstart rfl)
  | close => exact c.close_of_not_ready hready
  | recolor | hostColors => rfl
  | display | hide | moveTo | enableFor | load =>
    simp [Operation.perform, ignoring, Operation.colors?, display, hide, moveTo, enableFor, load, hready]
  | hostShow | hostHide | hostMove | hostLoad | hostLoadPixels | hostEnable =>
    simp [Operation.perform, ignoring, Operation.colors?, hostShow, hostHide, hostMove, hostLoad, hostLoadPixels, hostEnable,
      noteFailure, display, hide, moveTo, enableFor, load, hready]

/-- A controller that is not ready has nothing to take off the screen or to give back when it is dropped. -/
theorem abandon_of_not_ready (c : Controller δ) (hready : c.phase.isReady = false) :
    c.abandon = { c with phase := .closed } := by
  have hclose : c.close = (.ok (), { c with phase := .closed }) := by
    rw [close, hready]
    rfl
  rw [abandon, hclose]

/-! ## Phases -/

theorem Course.turn {c c' : Controller δ} {op : Operation} (hready : c.phase.isReady = true) (h : Course c op c') :
    Phase.Turn op c.phase c'.phase := by
  induction h with
  | idle => exact .stays op c.phase
  | recolored colors => exact .stays op c.phase
  | placed x y raised =>
    obtain ⟨m, l, -, -, hplace | hplace⟩ := c.place_leaves _ x y
    · rw [hplace]
      exact .stays op c.phase
    · rw [hplace]
      exact .shown op hready _
  | drawn =>
    rw [c.upload_phase]
    exact .stays op c.phase
  | closed asked =>
    rw [asked, c.close_phase]
    exact .closes c.phase
  | noted e course ih => exact ih

theorem start_turn (c : Controller δ) : Phase.Turn .start c.phase c.start.2.phase := by
  by_cases hphase : c.phase = .uninitialized
  · rw [hphase]
    rcases c.start_leaves hphase with ⟨l, firmware, hstart⟩ | ⟨l, firmware, block, hstart⟩
    · rw [hstart]
      exact .fails
    · rw [hstart]
      exact .starts
  · rw [c.start_of_started hphase]
    exact .stays .start c.phase

theorem start_phase_ne (c : Controller δ) : c.start.2.phase ≠ .uninitialized := by
  by_cases hphase : c.phase = .uninitialized
  · rcases c.start_leaves hphase with ⟨l, firmware, hstart⟩ | ⟨l, firmware, block, hstart⟩
    · rw [hstart]
      nofun
    · rw [hstart]
      nofun
  · rw [c.start_of_started hphase]
    exact hphase

/-- Every operation turns the phase as it should. -/
theorem perform_turn (c : Controller δ) (op : Operation) : Phase.Turn op c.phase (op.perform c).2.phase := by
  by_cases hready : c.phase.isReady = true
  · exact (c.perform_course hready op).turn hready
  by_cases hstart : op = .start
  · rw [hstart]
    exact c.start_turn
  rw [c.perform_of_not_ready (by simpa using hready) op fun hop => absurd hop hstart]
  by_cases hclose : op = .close
  · rw [hclose]
    exact .closes c.phase
  · rw [ignoring, if_neg hclose]
    exact .stays op c.phase

theorem run_closed (c : Controller δ) (ops : List Operation) (h : c.phase = .closed) : (c.run ops).phase = .closed := by
  induction ops generalizing c with
  | nil => exact h
  | cons op ops ih =>
    have hturn := c.perform_turn op
    rw [h] at hturn
    exact ih _ hturn.eq_closed

theorem run_started (c : Controller δ) (ops : List Operation) (h : c.phase ≠ .uninitialized) :
    (c.run ops).phase ≠ .uninitialized := by
  induction ops generalizing c with
  | nil => exact h
  | cons op ops ih => exact ih _ ((c.perform_turn op).ne_uninitialized h)

/-- A start after a start finds nothing to do: the device is tried once at most. -/
theorem start_after_start (c : Controller δ) (ops : List Operation) :
    (c.start.2.run ops).start.2 = c.start.2.run ops :=
  start_of_started _ (run_started _ ops c.start_phase_ne)

/-! ## Between operations -/

/-- the transfer buffer is held as long as the controller is ready -/
def HoldsBuffer (c : Controller δ) : Prop :=
  c.transfer.isSome = c.phase.isReady

theorem HoldsBuffer.start {c : Controller δ} (hphase : c.phase = .uninitialized) (h : c.HoldsBuffer) :
    c.start.2.HoldsBuffer := by
  rw [HoldsBuffer, hphase] at h
  rcases c.start_leaves hphase with ⟨l, firmware, hstart⟩ | ⟨l, firmware, block, hstart⟩
  · rw [hstart]
    exact h
  · rw [hstart]
    rfl

theorem HoldsBuffer.invariant : Invariant (HoldsBuffer : Controller δ → Prop) where
  note _ _ h := h
  recolor _ _ h := h
  start _ hphase h := h.start hphase
  place c enabled x y hready h := by
    have hafter := c.place_ready enabled x y hready
    rw [HoldsBuffer, hafter]
    obtain ⟨m, l, -, -, hplace | hplace⟩ := c.place_leaves enabled x y
    · rw [hplace]
      exact h.trans hready
    · rw [hplace]
      exact h.trans hready
  upload c _ picture block _ _ _ _ _ h := by
    rw [HoldsBuffer, c.upload_phase]
    obtain ⟨m, l, -, -, hupload | hupload⟩ := c.upload_leaves block picture
    · rw [hupload]
      exact h
    · rw [hupload]
      exact h
  close c h := by
    rw [HoldsBuffer, c.close_phase]
    by_cases hready : c.phase.isReady = true
    · obtain ⟨hidden, m, l, event, -, -, hclose⟩ := c.close_leaves hready
      rw [hclose]
      rfl
    · have hready : c.phase.isReady = false := by simpa using hready
      rw [c.close_of_not_ready hready]
      exact h.trans hready

/-- No step but an upload touches the size of the picture, and pictures have the sizes that the hardware shows. -/
theorem sized_invariant : Invariant fun c : Controller δ => c.surface.IsSized where
  note _ _ h := h
  recolor _ _ h := h
  start c hphase h := by
    rcases c.start_leaves hphase with ⟨l, firmware, hstart⟩ | ⟨l, firmware, block, hstart⟩
    · rw [hstart]
      exact h
    · rw [hstart]
      exact h
  place c enabled x y _ h := by
    obtain ⟨m, l, -, -, hplace | hplace⟩ := c.place_leaves enabled x y
    · rw [hplace]
      exact h
    · rw [hplace]
      exact h
  upload c image picture block _ hw hh hpicture _ h := by
    obtain rfl := Image.eq_of_render hpicture
    obtain ⟨-, hleast, hmost, heven⟩ := shownSize_bounds hw
    obtain ⟨-, hleast', hmost', heven'⟩ := shownSize_bounds hh
    obtain ⟨m, l, -, -, hupload | hupload⟩ := c.upload_leaves block (image.picture c.surface.colors)
    · rw [hupload]
      exact h
    · rw [hupload]
      exact Or.inr ⟨⟨hleast, hmost, heven⟩, ⟨hleast', hmost', heven'⟩⟩
  close c h := by
    by_cases hready : c.phase.isReady = true
    · obtain ⟨hidden, m, l, event, -, -, hclose⟩ := c.close_leaves hready
      rw [hclose]
      cases hidden with
      | error e => exact h
      | ok => exact h
    · rw [c.close_of_not_ready (by simpa using hready)]
      exact h

/-- No step changes the settings. -/
theorem settings_invariant (settings : CursorSettings) :
    Invariant fun c : Controller δ => c.settings = settings where
  note _ _ h := h
  recolor _ _ h := h
  start c hphase h := by
    rcases c.start_leaves hphase with ⟨l, firmware, hstart⟩ | ⟨l, firmware, block, hstart⟩
    · rw [hstart]
      exact h
    · rw [hstart]
      exact h
  place c enabled x y _ h := by
    obtain ⟨m, l, -, -, hplace | hplace⟩ := c.place_leaves enabled x y
    · rw [hplace]
      exact h
    · rw [hplace]
      exact h
  upload c _ picture block _ _ _ _ _ h := by
    obtain ⟨m, l, -, -, hupload | hupload⟩ := c.upload_leaves block picture
    · rw [hupload]
      exact h
    · rw [hupload]
      exact h
  close c h := by
    by_cases hready : c.phase.isReady = true
    · obtain ⟨hidden, m, l, event, -, -, hclose⟩ := c.close_leaves hready
      rw [hclose]
      exact h
    · rw [c.close_of_not_ready (by simpa using hready)]
      exact h

theorem Invariant.live {P : Controller δ → Prop} (hP : Invariant P) (c : Controller δ) (ops : List Operation)
    (dropped : Bool) (h : P c) : P (c.live ops dropped) := by
  have hrun := hP.run c ops h
  cases dropped with
  | false => exact hrun
  | true => exact hP.abandon _ hrun

/-- a controller that was created and then used, while anything may have happened to the device in between -/
inductive Reached : Controller δ → Prop where
  | created (link : Link δ) (settings : CursorSettings) : Reached (create link settings)
  | performed (op : Operation) {c : Controller δ} (before : Reached c) : Reached (op.perform c).2
  | meanwhile (d : δ) {c : Controller δ} (before : Reached c) : Reached { c with link := { c.link with device := d } }

theorem Reached.holdsBuffer {c : Controller δ} (h : Reached c) : c.HoldsBuffer := by
  induction h with
  | created link settings => exact rfl
  | performed op before ih => exact HoldsBuffer.invariant.perform _ op ih
  | meanwhile d before ih => exact ih

/-- A controller that is ready holds a transfer buffer. -/
theorem Reached.transfer_eq_some {c : Controller δ} (h : Reached c) (hready : c.phase.isReady = true) :
    ∃ block, c.transfer = some block :=
  Option.isSome_iff_exists.1 (h.holdsBuffer.trans hready)

/-- what holds of a controller between operations -/
structure Regular (c : Controller δ) : Prop where
  held : c.transfer.isSome = c.phase.isReady
  shown : c.phase.isReady = true → (c.phase = .visible ↔ c.surface.enabled = true)
  sized : c.surface.IsSized

theorem live_regular (link : Link δ) (settings : CursorSettings) (ops : List Operation) (dropped : Bool) :
    Regular ((create link settings).live ops dropped) where
  held := HoldsBuffer.invariant.live _ ops dropped rfl
  shown hready := by
    have hagrees : ((create link settings).live ops dropped).Agrees :=
      Agrees.invariant.live _ ops dropped ⟨fun _ => rfl, nofun⟩
    rw [hagrees.ready hready]
    cases ((create link settings).live ops dropped).surface.enabled with
    | false => decide
    | true => decide
  sized := sized_invariant.live _ ops dropped (Or.inl ⟨rfl, rfl⟩)

/-- The rules that a controller keeps. What is said of the link holds of the device's own record of calls too: a device may
be one that keeps such a record. -/
structure Ruled (c : Controller δ) : Prop where
  regular : Regular c
  turns : ∀ op : Operation, Phase.Turn op c.phase (op.perform c).2.phase
  dropped : Phase.Turn .close c.phase c.abandon.phase
  final : c.phase = .closed → ∀ ops, (c.run ops).phase = .closed
  /-- after a start, whatever came of it and whatever happened since, another one changes nothing, the link included -/
  once : ∀ ops, (c.start.2.run ops).start.2 = c.start.2.run ops
  failedBefore : c.phase = .unavailable → c.start = (.error .startFailedBefore, c)
  /-- nothing is sent, opened or closed: the link is the same -/
  ignores : c.phase.isReady = false → ∀ op : Operation, (op = .start → c.phase ≠ .uninitialized) →
    (op.perform c).2 = c.ignoring op
  droppedIdle : c.phase.isReady = false → c.abandon = { c with phase := .closed }

/-- **The state machine.** Over any device, whatever it answers: after every run, and once the controller is dropped, it keeps
the rules. -/
theorem state_machine (link : Link δ) (settings : CursorSettings) (ops : List Operation) (dropped : Bool) :
    Ruled ((create link settings).live ops dropped) where
  regular := live_regular link settings ops dropped
  turns := perform_turn _
  dropped := by
    rw [abandon_phase]
    exact .closes _
  final := fun h more => run_closed _ more h
  once := start_after_start _
  failedBefore := fun h => by rw [start, h]
  ignores := fun hready op hstart => perform_of_not_ready _ hready op hstart
  droppedIdle := abandon_of_not_ready _

end Controller
end MailboxCursor
