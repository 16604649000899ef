/-
The sweep across the screen over firmware without faults.

What is sent is followed request by request (`Link.Sends`), and `Link.placements` are the requests for the cursor's place
among it. A controller that serves (`Serving`) is ready on firmware without faults, so that nothing it does can fail: it places
the cursor, loads the arrow and closes. `Poised.sweep` is the induction over the moves: it ends after the last of them, or at
the first place that is no coordinate any more. `checkedSweep` is the same sweep with an arithmetic that knows when it leaves
the machine's words; it never does (`checkedSweep_eq`).

`loops_run` has the two loops of the command line.
-/
import MailboxCursor.Proofs.Command.Cycles
import MailboxCursor.Proofs.Cursor.HostImage
import MailboxCursor.Proofs.Cursor.Repeat

namespace MailboxCursor

open Firmware

/-! ## Where the cursor is put -/

namespace Link

variable {δ : Type}

/-- the payloads of the requests for the cursor's place, oldest first -/
def placements (l : Link δ) : List (List ℕ) :=
  (l.sent.toList.filter fun m => m.tag == Tag.setCursorState.id).map fun m => m.requestPayload.map UInt32.toNat

theorem Sends.placements {l l' : Link δ} {rs : List (Tag × List UInt32)} (h : l.Sends rs l') :
    l'.placements = l.placements ++
      (rs.filter fun r => r.1 = .setCursorState).map fun r => r.2.map UInt32.toNat := by
  obtain ⟨ms, hms, hsent⟩ := h
  rw [Link.placements, Link.placements, hsent, List.filter_append, List.map_append]
  congr 1
  clear hsent
  induction hms with
  | nil => rfl
  | @cons r m rs ms hm _ ih =>
    have htag : (m.tag == Tag.setCursorState.id) = decide (r.1 = .setCursorState) := by
      rw [Message.tag_of_compose hm, Bool.eq_iff_iff, beq_iff_eq, decide_eq_true_iff]
      exact ⟨Tag.id_inj, congrArg Tag.id⟩
    rw [List.filter_cons, List.filter_cons, htag]
    split_ifs
    · rw [List.map_cons, List.map_cons, ih, Message.requestPayload_of_compose hm]
    · exact ih

end Link

/-! ## Controllers without faults -/

namespace Controller

/-- Faults come from nowhere. -/
theorem sound_invariant : Invariant fun c : Controller Firmware => c.link.device.faults = .none :=
  Invariant.of_keeps (P := fun fw : Firmware => fw.faults = .none)
    (fun _ fw m _ h => (faults_of_config (exchange_config fw m)).trans h)
    (fun fw bus len h => (faults_of_config (openWindow_config fw bus len)).trans h)
    (fun fw w h => (faults_of_config (closeWindow_config fw w)).trans h)
    fun fw w offset bytes h => (faults_of_config (write_config fw w offset bytes)).trans h

/-- a ready controller on firmware without faults -/
structure Serving (c : Controller Firmware) : Prop where
  accounted : Accounted c
  sound : c.link.device.faults = .none
  ready : c.phase.isReady = true

namespace Serving

variable {c : Controller Firmware}

/-- The cursor is placed where it is to be. -/
theorem place (h : Serving c) (enabled : Bool) (x y : Int32) :
    ∃ c', c.place enabled x y = (.ok (), c') ∧ Serving c' ∧ c'.surface = c.surface.putAt enabled x y ∧
      c.link.Sends [(.setCursorState, placeRequest enabled x y)] c'.link := by
  have haccounted := Accounted.invariant.place c enabled x y h.ready h.accounted
  have hsound := sound_invariant.place c enabled x y h.ready h.sound
  have hready := c.place_ready enabled x y h.ready
  obtain ⟨m, l, hm, hsent, hplace⟩ := place_sound (isFaulty_of_none h.sound _) enabled x y
  rw [hplace] at haccounted hsound hready
  refine ⟨_, hplace, ⟨haccounted, hsound, hready⟩, rfl, [m], .cons hm .nil, ?_⟩
  show l.sent.toList = _
  rw [hsent, Array.toList_push]

/-- An image that the hardware can show is loaded. -/
theorem load (h : Serving c) {image : Image} (hw : image.width ≤ maxCursorSize) (hh : image.height ≤ maxCursorSize)
    (hlong : ∀ p ∈ image.planes, p.2.1 ≤ p.2.2) :
    ∃ c' block picture, c.load image = (.ok (), c') ∧ Serving c' ∧ c'.surface = c.surface.drawnAs picture ∧
      c.link.Sends [(.setCursorInfo, pictureRequest picture block)] c'.link := by
  obtain ⟨block, b, hb⟩ := h.accounted.tenure.held h.ready
  have haccounted := Accounted.invariant.load c image h.accounted
  have hsound := sound_invariant.load c image h.sound
  have hupload := load_eq_upload h.ready hb.transfer hw hh hlong
  obtain ⟨m, hm⟩ := Message.request_eq_ok .setCursorInfo
    (p := pictureRequest (image.picture c.surface.colors) block.bus)
    (by simp [pictureRequest, Message.maxValueWords, Message.capacity, Message.valueStart])
  have hsent := c.upload_sent hm
  obtain ⟨m', l, event, hload, -⟩ :=
    hb.load_eq h.ready (isFaulty_of_none h.sound _) hw hh (Image.shortPlane?_eq_none hlong)
  rw [← hupload] at hsent
  rw [hload] at haccounted hsound hsent
  refine ⟨_, block.bus, image.picture c.surface.colors, hload, ⟨haccounted, hsound, h.ready⟩, rfl, [m], .cons hm .nil, ?_⟩
  rw [hsent, Array.toList_push]

/-- It closes: the cursor is hidden where it is, and the transfer buffer given back. -/
theorem close (h : Serving c) :
    ∃ c' block, c.close = (.ok (), c') ∧ c'.phase = .closed ∧
      c.link.Sends [(.setCursorState, placeRequest false c.surface.x c.surface.y), (.unlockMemory, [block]),
        (.releaseMemory, [block])] c'.link := by
  obtain ⟨block, b, hb⟩ := h.accounted.tenure.held h.ready
  obtain ⟨m, l, hm, hsent, htold, hdevice⟩ :=
    tell_place_sound { c with phase := .closed } (isFaulty_of_none h.sound _) false c.surface.x c.surface.y
  have hhidden : c.link.Sends [(.setCursorState, placeRequest false c.surface.x c.surface.y)] l := by
    refine ⟨[m], .cons hm .nil, ?_⟩
    rw [hsent, Array.toList_push]
  -- the request for the place leaves the blocks as they are
  have hblocks : l.device.blocks = c.link.device.blocks := by rw [hdevice]; rfl
  have hid : l.device.id = c.link.device.id := by rw [hdevice]; rfl
  have hspace : BusSpace l.device.blocks l.device.nextHandle := by
    rw [hdevice]
    exact h.accounted.orderly.space
  have hsound : l.device.faults = .none := by
    rw [hdevice]
    exact h.sound
  have hheld : Holds { c with link := l } block b := hb.congr rfl hblocks hid
  obtain ⟨l', hreleased, -⟩ := Link.release_granted hsound hspace hheld.leased hheld.locks hheld.mappings
  have hback := l.release_sends block
  rw [hreleased] at hback
  obtain ⟨hidden, l₁, event, htold₁, hclose⟩ := c.close_eq h.ready
  obtain ⟨rfl, hlink⟩ := Prod.mk.inj (htold.symm.trans htold₁)
  obtain rfl : l = l₁ := congrArg Controller.link hlink
  have hresult : c.close.1 = .ok () := by
    rw [close_told h.ready hb.transfer htold, hreleased]
    rfl
  refine ⟨c.close.2, block.handle.val, Prod.ext hresult rfl, c.close_phase, ?_⟩
  rw [hclose, hb.transfer, givenBack, hreleased]
  exact hhidden.trans hback

end Serving
end Controller

/-! ## From the start to the sweep -/

namespace Command

open Controller

/-- The firmware tells its version. -/
theorem Calm.askVersion {l : Link Firmware} (h : Calm l) :
    ∃ l', l.askVersion = (.ok l.device.version, l') ∧ Calm l' := by
  obtain ⟨hresult, hdevice, -⟩ := l.askVersion_eq
  obtain ⟨m, -, hasked⟩ := askWord_firmware l .getFirmwareVersion [] le_rfl (by simp)
  rw [if_pos (takes_of_sound h.sound (by decide) [])] at hasked
  refine ⟨l.askVersion.2, Prod.ext (by rw [hresult, hasked.1]; rfl) rfl, ⟨?_, ?_⟩, ?_⟩
  · exact Link.askVersion_keeps (keeps_isClean (Or.inl rfl)) h.clean
  · exact Link.askVersion_keeps (Orderly.exchanges _) h.orderly
  · rw [hdevice, hasked.2]
    exact h.sound

variable {l : Link Firmware} {settings : CursorSettings}

theorem start_serving (hcalm : Calm l) (haccounted : Accounted (Controller.create l settings))
    (hversion : settings.minFirmware.val ≤ l.device.version.val) :
    ∃ c handle, (Controller.create l settings).start = (.ok (), c) ∧ Serving c ∧ c.surface = .blank ∧
      l.Sends [(.getFirmwareVersion, []),
        (.allocateMemory, [cursorBufferBytes, pageAlignment, AllocFlags.l1NonAllocating.bits]),
        (.lockMemory, [handle])] c.link := by
  obtain ⟨l₁, hasked, hcalm₁⟩ := hcalm.askVersion
  obtain ⟨g, l₂, hacquired, -, -⟩ := hcalm₁.acquire
  have hnew : ¬l.device.version.val < settings.minFirmware.val := UInt32.not_lt.2 hversion
  have hstarted := Accounted.invariant.start (Controller.create l settings) rfl haccounted
  have hsound := sound_invariant.start (Controller.create l settings) rfl hcalm.sound
  have hasks := l.askVersion_sends
  rw [hasked] at hasks
  rcases (Controller.create l settings).start_cases rfl with ⟨e, l', event, hfailed, -⟩ |
    ⟨v, l', event, htold, hold, -⟩ | ⟨v, l', e, l'', event, htold, -, hrefused, -⟩ |
    ⟨v, l', block, l'', event, event', htold, -, hgranted, hstart⟩
  · cases hasked.symm.trans hfailed
  · cases hasked.symm.trans htold
    exact absurd hold hnew
  · cases hasked.symm.trans htold
    cases hacquired.symm.trans hrefused
  · cases hasked.symm.trans htold
    rw [hstart] at hstarted hsound
    exact ⟨_, block.handle.val, hstart, ⟨hstarted, hsound, rfl⟩, rfl,
      (hasks.trans (Link.acquire_sends hgranted)).congr rfl⟩

theorem size_arrow : Arrow.pixels.size = 256 := by
  rw [Arrow.pixels, Array.size_map, Array.size_range]
  rfl

/-- The arrow has a pixel for every place. -/
theorem arrow_planes : ∀ p ∈ Arrow.image.planes, p.2.1 ≤ p.2.2 := by
  intro p hp
  obtain rfl : p = (.pixels, 1024, Arrow.pixels.size * 4) := List.mem_singleton.1 hp
  rw [size_arrow]

/-- A controller that is set up for a command shows nothing yet, and nothing was placed. -/
theorem ready_serving (hcalm : Calm l) (haccounted : Accounted (Controller.create l settings))
    (hversion : settings.minFirmware.val ≤ l.device.version.val) :
    ∃ c, ready l settings = (.ok (), c) ∧ Serving c ∧ c.surface.x = 0 ∧ c.surface.y = 0 ∧
      c.link.placements = l.placements := by
  obtain ⟨c, handle, hstart, hserving, hblank, hsends⟩ := start_serving hcalm haccounted hversion
  obtain ⟨c', bus, picture, hload, hserving', hdrawn, hsends'⟩ :=
    hserving.load (show Arrow.image.width ≤ maxCursorSize by decide) (by decide) arrow_planes
  have hplacements := (hsends.trans hsends').placements
  refine ⟨c', by rw [ready, hstart]; simp only [hload], hserving', ?_, ?_, ?_⟩
  · rw [hdrawn, hblank]
    rfl
  · rw [hdrawn, hblank]
    rfl
  · rw [hplacements]
    exact List.append_nil _

/-! ## Moves -/

/-- what a move to the `i`th place of the sweep asks for -/
def diagonal (i : ℕ) : List ℕ :=
  [1, 8 * i, 8 * i]

/-- a pause after each of `n` moves, if there is one at all -/
def pauses (pause n : ℕ) : Array Effect :=
  if pause = 0 then #[] else Array.replicate n (.pause pause)

theorem pauses_zero (pause : ℕ) : pauses pause 0 = #[] := by
  rw [pauses]
  split_ifs
  · rfl
  · rfl

theorem append_pauses_succ (effects : Array Effect) (pause n : ℕ) :
    (if pause = 0 then effects else effects.push (.pause pause)) ++ pauses pause n = effects ++ pauses pause (n + 1) := by
  rw [pauses, pauses]
  split_ifs
  · rfl
  · apply Array.toList_inj.1
    simp [List.replicate_succ]

/-- a serving controller with the cursor shown on the diagonal -/
structure Poised (c : Controller Firmware) (place : ℕ) : Prop extends Serving c where
  shown : c.surface.enabled = true
  x : c.surface.x = Int32.ofNat place
  y : c.surface.y = Int32.ofNat place

theorem toNat_placeRequest {place : ℕ} (hplace : place < UInt32.size) (enabled : Bool) :
    (placeRequest enabled (Int32.ofNat place) (Int32.ofNat place)).map UInt32.toNat =
      [if enabled then 1 else 0, place, place] := by
  have hword : (Int32.ofNat place).toUInt32.toNat = place := by
    rw [Int32.toUInt32_ofNat', UInt32.toNat_ofNat_of_lt' hplace]
  simp only [placeRequest, List.map_cons, List.map_nil, hword]
  cases enabled
  · rfl
  · rfl

/-- One step of a sweep that has not come to the last coordinate yet, its places counted without bound. -/
theorem sweep_succ {δ : Type} [Device δ] (pause left : ℕ) {step : ℕ} (hstep : step ≤ 2 ^ 28) (effects : Array Effect)
    (c : Controller δ) :
    sweep pause (left + 1) (UInt32.ofNat step) effects c =
      if 2 ^ 31 ≤ 8 * step then (.error .sweepTooLong, effects, c)
      else
        match c.moveTo (Int32.ofNat (8 * step)) (Int32.ofNat (8 * step)) with
        | (.error e, c) => (.error (.move e), effects, c)
        | (.ok (), c) =>
          sweep pause left (UInt32.ofNat (step + 1)) (if pause = 0 then effects else effects.push (.pause pause)) c := by
  have hproduct : UInt32.ofNat step * sweepStride = UInt32.ofNat (8 * step) := by
    rw [Nat.mul_comm, UInt32.ofNat_mul]
    rfl
  have hplace : (UInt32.ofNat (8 * step)).toNat = 8 * step := by
    apply UInt32.toNat_ofNat_of_lt'
    rw [UInt32.size]
    omega
  have hnext : UInt32.ofNat step + 1 = UInt32.ofNat (step + 1) := (UInt32.ofNat_add step 1).symm
  rw [sweep, hproduct, hplace, UInt32.toInt32_ofNat', hnext]
  rfl

namespace Poised

variable {c : Controller Firmware} {place : ℕ}

theorem of_place {c' : Controller Firmware} (h : Serving c')
    (hsurface : c'.surface = c.surface.putAt true (Int32.ofNat place) (Int32.ofNat place)) : Poised c' place := by
  refine ⟨h, ?_, ?_, ?_⟩
  all_goals
    rw [hsurface]
    rfl

theorem move (h : Poised c place) {next : ℕ} (hnext : next < UInt32.size) :
    ∃ c', c.moveTo (Int32.ofNat next) (Int32.ofNat next) = (.ok (), c') ∧ Poised c' next ∧
      c'.link.placements = c.link.placements ++ [[1, next, next]] := by
  obtain ⟨c', hplace, hserving, hsurface, hsends⟩ :=
    h.toServing.place true (Int32.ofNat next) (Int32.ofNat next)
  refine ⟨c', ?_, .of_place hserving hsurface, ?_⟩
  · rw [moveTo, if_pos h.ready, h.shown, hplace]
  · rw [hsends.placements]
    congr 1
    exact congrArg (fun p => [p]) (toNat_placeRequest hnext true)

/-- **The sweep**: it ends with the last of its moves, or before the first place that is no coordinate; each move asks for the
next place on the diagonal, and the cursor stays where it came to. -/
theorem sweep (pause left : ℕ) {step : ℕ} (hstep : step ≤ 2 ^ 28) (effects : Array Effect)
    (h : Poised c (8 * (step - 1))) :
    ∃ c', Command.sweep pause left (UInt32.ofNat step) effects c =
        (if left ≤ 2 ^ 28 - step then .ok () else .error .sweepTooLong,
          effects ++ pauses pause (min left (2 ^ 28 - step)), c') ∧
      Poised c' (8 * (step + min left (2 ^ 28 - step) - 1)) ∧
      c'.link.placements = c.link.placements ++ (List.range' step (min left (2 ^ 28 - step))).map diagonal := by
  induction left generalizing step effects c with
  | zero =>
    refine ⟨c, ?_, ?_, ?_⟩
    · simp [Command.sweep, pauses_zero]
    · simpa using h
    · simp
  | succ left ih =>
    rw [sweep_succ pause left hstep]
    by_cases hlast : step = 2 ^ 28
    · -- there is no coordinate to move to
      have hnone : min (left + 1) (2 ^ 28 - step) = 0 := by omega
      rw [if_pos (by omega), if_neg (by omega), hnone, pauses_zero]
      exact ⟨c, by simp, by simpa using h, by simp⟩
    · have hplace : 8 * step < UInt32.size := by
        rw [UInt32.size]
        omega
      obtain ⟨c', hmove, hpoised, hplacements⟩ := h.move hplace
      obtain ⟨c'', hsweep, hpoised', hplacements'⟩ := ih (show step + 1 ≤ 2 ^ 28 by omega)
        (if pause = 0 then effects else effects.push (.pause pause)) hpoised
      have hmoves : min (left + 1) (2 ^ 28 - step) = min left (2 ^ 28 - (step + 1)) + 1 := by omega
      have hfits : left + 1 ≤ 2 ^ 28 - step ↔ left ≤ 2 ^ 28 - (step + 1) := by omega
      rw [if_neg (by omega), hmove]
      refine ⟨c'', ?_, ?_, ?_⟩
      · simp only [hsweep, hmoves, hfits, append_pauses_succ]
      · rw [hmoves, ← Nat.add_assoc, Nat.add_right_comm]
        exact hpoised'
      · rw [hplacements', hplacements, hmoves, List.range'_succ, List.map_cons, List.append_assoc]
        rfl

/-- At the end the cursor is hidden where it stands. -/
theorem close (h : Poised c place) (hplace : place < UInt32.size) :
    ∃ c', c.close = (.ok (), c') ∧ c'.phase.isReady = false ∧
      c'.link.placements = c.link.placements ++ [[0, place, place]] := by
  obtain ⟨c', handle, hclose, hphase, hsends⟩ := h.toServing.close
  refine ⟨c', hclose, by rw [hphase]; rfl, ?_⟩
  rw [h.x, h.y] at hsends
  rw [hsends.placements]
  congr 1
  exact congrArg (fun p => [p]) (toNat_placeRequest hplace false)

end Poised

/-! ## The sweep in exact arithmetic -/

/-- the sweep with places that are counted without bound; nothing, if one of them is no machine word -/
def checkedSweep {δ : Type} [Device δ] (pause : ℕ) : ℕ → ℕ → Array Effect → Controller δ →
    Option (Except CommandError Unit × Array Effect × Controller δ)
  | 0, _, effects, c => some (.ok (), effects, c)
  | left + 1, step, effects, c =>
    let place := step * sweepStride.toNat
    if UInt32.size ≤ place then none
    else if 2 ^ 31 ≤ place then some (.error .sweepTooLong, effects, c)
    else
      match c.moveTo (Int32.ofNat place) (Int32.ofNat place) with
      | (.error e, c) => some (.error (.move e), effects, c)
      | (.ok (), c) =>
        checkedSweep pause left (step + 1) (if pause = 0 then effects else effects.push (.pause pause)) c

/-- **No product overflows**: the sweep stops at the first place that is no coordinate, long before one that is no word. -/
theorem checkedSweep_eq {δ : Type} [Device δ] (pause left : ℕ) {step : ℕ} (hstep : step ≤ 2 ^ 28) (effects : Array Effect)
    (c : Controller δ) :
    checkedSweep pause left step effects c = some (Command.sweep pause left (UInt32.ofNat step) effects c) := by
  induction left generalizing step effects c with
  | zero => rfl
  | succ left ih =>
    have hplace : step * sweepStride.toNat = 8 * step := Nat.mul_comm step 8
    have hword : ¬UInt32.size ≤ 8 * step := by
      rw [UInt32.size]
      omega
    rw [checkedSweep, hplace, sweep_succ pause left hstep, if_neg hword]
    by_cases hlast : 2 ^ 31 ≤ 8 * step
    · rw [if_pos hlast, if_pos hlast]
    rw [if_neg hlast, if_neg hlast]
    rcases c.moveTo (Int32.ofNat (8 * step)) (Int32.ofNat (8 * step)) with ⟨e | ⟨⟩, c'⟩
    · rfl
    · exact ih (by omega) _ c'

/-! ## The loops -/

/-- moves that a sweep of so many steps makes: as many as end at a coordinate -/
def moves (steps : UInt32) : ℕ :=
  min steps.toNat (2 ^ 28)

/-- what the sweep comes to over `l` -/
structure Sweeps (l : Link Firmware) (settings : CursorSettings) (steps : UInt32) (pause : ℕ) : Prop where
  /-- it succeeds just if there is a coordinate for every step -/
  result : (demo l settings steps pause).result =
    if steps.toNat ≤ 2 ^ 28 then .ok () else .error .sweepTooLong
  /-- the cursor is shown in the corner, moved along the diagonal, and hidden where it is -/
  placements : (demo l settings steps pause).link.placements =
    [1, 0, 0] :: (List.range (moves steps)).map diagonal ++ [[0, 8 * (moves steps - 1), 8 * (moves steps - 1)]]
  /-- the last position is told if all of the moves were made; without any, the cursor is in the corner -/
  effects : (demo l settings steps pause).effects = pauses pause (moves steps) ++
    if steps.toNat ≤ 2 ^ 28 then
      #[.line s!"demo finished: {steps} moves, last position ({8 * (steps.toNat - 1)}, {8 * (steps.toNat - 1)})"]
    else #[]
  /-- no product on the way overflows -/
  exact : ∀ c : Controller Firmware, checkedSweep pause steps.toNat 0 #[] c = some (sweep pause steps.toNat 0 #[] c)

theorem leave_link {c : Controller Firmware} (hready : c.phase.isReady = false) (result : Except CommandError Unit)
    (effects : Array Effect) : (leave result effects c).link = c.link := by
  rw [leave, c.abandon_of_not_ready hready]

/-- A command that sweeps gets as far as its last move. -/
theorem swept (hcalm : Calm l) (haccounted : Accounted (Controller.create l settings))
    (hversion : settings.minFirmware.val ≤ l.device.version.val) (steps : UInt32) (pause : ℕ) :
    ∃ c c₁ c₂, ready l settings = (.ok (), c) ∧ c.display = (.ok (), c₁) ∧
      sweep pause steps.toNat 0 #[] c₁ =
        (if steps.toNat ≤ 2 ^ 28 then .ok () else .error .sweepTooLong, pauses pause (moves steps), c₂) ∧
      Poised c₂ (8 * (moves steps - 1)) ∧
      c₂.link.placements = l.placements ++ [1, 0, 0] :: (List.range (moves steps)).map diagonal := by
  obtain ⟨c, hready, hserving, hx, hy, hplacements⟩ := ready_serving hcalm haccounted hversion
  obtain ⟨c₁, hplace, hserving₁, hsurface, hsends⟩ := hserving.place true 0 0
  have hdisplay : c.display = (.ok (), c₁) := by
    rw [Controller.display, if_pos hserving.ready, hx, hy, hplace]
  have hpoised : Poised c₁ 0 := .of_place hserving₁ hsurface
  have hshown : c₁.link.placements = l.placements ++ [[1, 0, 0]] := by
    rw [hsends.placements, hplacements]
    rfl
  obtain ⟨c₂, hsweep, hpoised₂, hplacements₂⟩ := hpoised.sweep pause steps.toNat (Nat.zero_le (2 ^ 28)) #[]
  rw [Nat.sub_zero, Array.empty_append] at hsweep
  rw [Nat.sub_zero, Nat.zero_add] at hpoised₂
  rw [Nat.sub_zero, ← List.range_eq_range', hshown, List.append_assoc] at hplacements₂
  exact ⟨c, c₁, c₂, hready, hdisplay, hsweep, hpoised₂, hplacements₂⟩

theorem demo_sweeps (hcalm : Calm l) (haccounted : Accounted (Controller.create l settings))
    (hversion : settings.minFirmware.val ≤ l.device.version.val) (hnew : l.placements = []) (steps : UInt32) (pause : ℕ) :
    Sweeps l settings steps pause := by
  obtain ⟨c, c₁, c₂, hready, hdisplay, hsweep, hpoised, hplacements⟩ := swept hcalm haccounted hversion steps pause
  have hlast : 8 * (moves steps - 1) < 2 ^ 31 := by
    rw [moves]
    omega
  obtain ⟨c₃, hclose, hclosed, hplacements₃⟩ := hpoised.close (hlast.trans (by decide))
  rw [hplacements, hnew] at hplacements₃
  have hexact (c : Controller Firmware) :
      checkedSweep pause steps.toNat 0 #[] c = some (sweep pause steps.toNat 0 #[] c) :=
    checkedSweep_eq pause steps.toNat (Nat.zero_le _) #[] c
  by_cases hfits : steps.toNat ≤ 2 ^ 28
  · have hmoves : moves steps = steps.toNat := Nat.min_eq_left hfits
    have hx : c₂.surface.x.toInt = (8 * (steps.toNat - 1) : ℕ) := by
      rw [hpoised.x, Int32.toInt_ofNat_of_lt hlast, hmoves]
    have hy : c₂.surface.y.toInt = (8 * (steps.toNat - 1) : ℕ) := by
      rw [hpoised.y, Int32.toInt_ofNat_of_lt hlast, hmoves]
    have hdone : demo l settings steps pause = leave (.ok ()) (pauses pause (moves steps) ++
        #[.line s!"demo finished: {steps} moves, last position ({8 * (steps.toNat - 1)}, {8 * (steps.toNat - 1)})"]) c₃ := by
      rw [demo, hready]
      simp only [hdisplay, hsweep, if_pos hfits, hclose, hx, hy]
      rfl
    refine ⟨?_, ?_, ?_, hexact⟩
    · rw [hdone, if_pos hfits]
      rfl
    · rw [hdone, leave_link hclosed, hplacements₃]
      rfl
    · rw [hdone, if_pos hfits]
      rfl
  · -- the controller is closed on the way out
    have habandoned : c₂.abandon = c₃ := by
      rw [abandon, hclose]
    have hdone : demo l settings steps pause = leave (.error .sweepTooLong) (pauses pause (moves steps)) c₂ := by
      rw [demo, hready]
      simp only [hdisplay, hsweep, if_neg hfits]
    refine ⟨?_, ?_, ?_, hexact⟩
    · rw [hdone, if_neg hfits]
      rfl
    · rw [hdone, leave, habandoned, hplacements₃]
      rfl
    · rw [hdone, if_neg hfits, Array.append_empty]
      rfl

/-- **The loops of the command line.** On new firmware without faults that is not too old for the settings. The sweep succeeds
just if there are at most 2 ^ 28 steps; it asks for the cursor in the corner, then for each place on the diagonal up to there
or to its last step, then for no cursor at the last place, and tells this place if it succeeds. Its product never overflows.
The check of GPU memory succeeds whatever the number of its cycles, with every buffer at the same bus address, and leaves
nothing behind. -/
theorem loops_run (id : ℕ) (version : FirmwareVersion) (overscan : Overscan) (settings : CursorSettings)
    (hversion : settings.minFirmware.val ≤ version.val) (steps : UInt32) (pause : ℕ) (count : UInt32) :
    Sweeps (.fresh (configured id version overscan .none)) settings steps pause ∧
      Checks (.fresh (configured id version overscan .none)) count := by
  have hcalm := Calm.fresh id version overscan
  have haccounted : Accounted (Controller.create (.fresh (configured id version overscan .none)) settings) :=
    { tenure := ⟨fun _ => ⟨rfl, rfl⟩, nofun⟩
      orderly := hcalm.orderly
      clear := fun _ => rfl }
  exact ⟨demo_sweeps hcalm haccounted hversion rfl steps pause, hcalm.checks count⟩

/-- As many steps and cycles as a word can count: the sweep is too long, and the check goes through. -/
theorem loops_run_longest :
    let l := Link.fresh (configured 0 defaultVersion ⟨0, 0, 0, 0⟩ .none)
    CursorSettings.default.minFirmware.val ≤ defaultVersion.val ∧
      (demo l .default 0xffffffff 0).result = .error .sweepTooLong ∧
      (demo l .default 0x10000000 0).result = .ok () ∧
      (demo l .default 0 16).link.placements = [[1, 0, 0], [0, 0, 0]] ∧
      (allocTest l 0xffffffff).result = .ok () := by
  intro l
  have hversion : CursorSettings.default.minFirmware.val ≤ defaultVersion.val := by decide
  have hlong := loops_run 0 defaultVersion ⟨0, 0, 0, 0⟩ .default hversion 0xffffffff 0 0xffffffff
  have hwhole := loops_run 0 defaultVersion ⟨0, 0, 0, 0⟩ .default hversion 0x10000000 0 0
  have hnone := loops_run 0 defaultVersion ⟨0, 0, 0, 0⟩ .default hversion 0 16 0
  refine ⟨hversion, ?_, ?_, ?_, hlong.2.result⟩
  · rw [hlong.1.result]
    rfl
  · rw [hwhole.1.result]
    rfl
  · rw [hnone.1.placements]
    rfl

end Command

end MailboxCursor
