/-
What the commands leave behind on the emulated firmware.

Two things are at stake, and both go through the controller's end: its transfer buffer, which `Accounted` follows, and the
cursor on the screen. The cursor can always be taken off: either requests for its state work, and the one on the way out does
it, or they never worked, and then the cursor was never put there (`Hides`). `Tidy` is the invariant of a controller in a
command, whatever step the command ends at, and `cycles_idle` that of the memory check. `command_leaves_nothing` is about
every command, with any faults but those that keep memory from being given back.
-/
import MailboxCursor.Command.Program
import MailboxCursor.Proofs.Cursor.Accounting

namespace MailboxCursor

/-- requests for the tag are not made to fail, and do not come back untouched -/
def Faults.spares (f : Faults) (tag : Tag) : Prop :=
  tag ∉ f.failing ∧ tag ∉ f.withheld

namespace Firmware

/-! ## The cursor on the screen -/

/-- no cursor is on the screen -/
def IsDark (fw : Firmware) : Prop :=
  ∀ place, fw.cursorPlace = some place → place.enabled = false

/-- a cursor that could not be taken off the screen is not there -/
def Hides (fw : Firmware) : Prop :=
  fw.isFaulty Tag.setCursorState.id = true → fw.IsDark

variable {fw fw' : Firmware} {tag : Tag}

theorem IsDark.congr (h : fw.IsDark) (hplace : fw'.cursorPlace = fw.cursorPlace) : fw'.IsDark := by
  intro place hshown
  exact h place (hplace.symm.trans hshown)

theorem Hides.congr (h : fw.Hides) (hplace : fw'.cursorPlace = fw.cursorPlace) (hconfig : fw'.config = fw.config) :
    fw'.Hides := by
  intro hfaulty
  rw [isFaulty_of_config hconfig] at hfaulty
  exact (h hfaulty).congr hplace

theorem act_cursorPlace (fw : Firmware) (p : List UInt32) (htag : tag ≠ .setCursorState) :
    (fw.act tag p).1.cursorPlace = fw.cursorPlace := by
  by_cases hpicture : tag = .setCursorInfo
  · rw [hpicture]
    simp only [act, setCursorGeometry_eq]
    split <;> rfl
  · exact congrArg Prod.fst (act_cursor fw p hpicture htag)

theorem openWindow_cursorPlace (fw : Firmware) (bus : BusAddress) (len : UInt64) :
    (fw.openWindow bus len).device.cursorPlace = fw.cursorPlace :=
  congrArg Prod.fst (openWindow_cursor fw bus len)

theorem closeWindow_cursorPlace (fw : Firmware) (w : Window) :
    (fw.closeWindow w).device.cursorPlace = fw.cursorPlace :=
  congrArg Prod.fst (closeWindow_cursor fw w)

theorem write_cursorPlace (fw : Firmware) (w : Window) (offset : Nat) (bytes : List UInt8) :
    (fw.write w offset bytes).cursorPlace = fw.cursorPlace :=
  congrArg Prod.fst (write_cursor fw w offset bytes)

theorem keeps_isDark (htag : tag ≠ .setCursorState) : Link.Keeps IsDark tag :=
  keeps_of_act (fun fw p h => h.congr (act_cursorPlace fw p htag)) fun _ _ h => h

/-- Requests that are not acted on do not show a cursor. -/
theorem keeps_hides (tag : Tag) : Link.Keeps Hides tag := by
  intro fw m _ h
  show (fw.exchange m).device.Hides
  have hconfig := exchange_config fw m
  rw [exchange_device] at hconfig ⊢
  cases haccepts : fw.accepts? m with
  | none => exact h
  | some r =>
    obtain ⟨t, p⟩ := r
    rw [haccepts] at hconfig
    by_cases hstate : t = .setCursorState
    · -- the request was acted on, so there is no fault on its tag
      obtain ⟨hfault, -, ht, -⟩ := accepts?_eq_some_iff.1 haccepts
      rw [← Tag.id_of_ofWord? ht, hstate] at hfault
      intro hfaulty
      rw [isFaulty_of_config hconfig, hfault] at hfaulty
      cases hfaulty
    · exact h.congr (act_cursorPlace fw p hstate) hconfig

theorem Hides.invariant : Controller.Invariant fun c : Controller Firmware => Hides c.link.device :=
  Controller.Invariant.of_keeps (P := Hides) keeps_hides
    (fun fw bus len h => h.congr (openWindow_cursorPlace fw bus len) (openWindow_config fw bus len))
    (fun fw w h => h.congr (closeWindow_cursorPlace fw w) (closeWindow_config fw w))
    fun fw w offset bytes h => h.congr (write_cursorPlace fw w offset bytes) (write_config fw w offset bytes)

/-! ## Nothing left -/

/-- nothing is allocated, and no cursor is on the screen -/
structure IsClean (fw : Firmware) : Prop where
  blocks : fw.blocks = []
  dark : fw.IsDark

theorem IsClean.outstanding (h : fw.IsClean) : fw.outstanding = ⟨0, 0, 0⟩ := by
  rw [Firmware.outstanding, h.blocks]
  rfl

/-- Questions leave nothing behind. -/
theorem keeps_isClean (htag : tag = .getFirmwareVersion ∨ tag = .getOverscan) : Link.Keeps IsClean tag := by
  apply keeps_of_act
  · intro fw p h
    rcases htag with rfl | rfl
    · exact h
    · exact h
  · exact fun _ _ h => ⟨h.blocks, h.dark⟩

/-- a new firmware with everything set that can be set -/
def configured (id : Nat) (version : FirmwareVersion) (overscan : Overscan) (faults : Faults) : Firmware :=
  { fresh id with version := version, overscan := overscan, faults := faults }

theorem isFaulty_of_spares (h : fw.faults.spares tag) : fw.isFaulty tag.id = false := by
  have hlist {tags : List Tag} (hout : tag ∉ tags) : (tags.any fun t => t.id == tag.id) = false := by
    rw [List.any_eq_false]
    intro t ht hid
    rw [Tag.id_inj (eq_of_beq hid)] at ht
    exact hout ht
  rw [isFaulty, Faults.fails, Faults.withholds, hlist h.1, hlist h.2]
  rfl

end Firmware

open Firmware

/-- A request to hide the cursor hides it, or there was none. -/
theorem Link.askWord_hidden (l : Link Firmware) (x y : UInt32) (h : Hides l.device) :
    IsDark (l.askWord .setCursorState [0, x, y]).2.device := by
  obtain ⟨m, -, hasked⟩ := askWord_firmware l .setCursorState [0, x, y] (le_refl 3) (by simp)
  split at hasked
  next =>
    rw [hasked.2]
    intro place hplace
    obtain rfl := Option.some.inj hplace
    rfl
  next htakes =>
    have hfaulty : l.device.isFaulty Tag.setCursorState.id = true := by
      by_contra hsound
      exact htakes (takes_of_ne (by simpa using hsound) (by decide))
    rw [hasked.2]
    exact h hfaulty

/-! ## Controllers -/

/-- a controller that leaves nothing behind when it is dropped -/
structure Tidy (c : Controller Firmware) : Prop where
  accounted : Accounted c
  hides : Hides c.link.device
  dark : c.phase.isReady = false → IsDark c.link.device

namespace Tidy

variable {c : Controller Firmware}

theorem start_dark (h : Tidy c) (hphase : c.phase = .uninitialized) : IsDark c.start.2.link.device := by
  have hdark : IsDark c.link.device := h.dark (by rw [hphase]; rfl)
  exact Controller.start_keeps (keeps_isDark (by decide)) (keeps_isDark (by decide)) (keeps_isDark (by decide))
    (keeps_isDark (by decide)) (keeps_isDark (by decide))
    (fun fw bus len hfw => hfw.congr (openWindow_cursorPlace fw bus len))
    (fun fw w offset bytes hfw => hfw.congr (write_cursorPlace fw w offset bytes)) c hphase hdark

theorem close_dark (h : Tidy c) : IsDark c.close.2.link.device := by
  by_cases hready : c.phase.isReady = true
  swap
  · have hready : c.phase.isReady = false := by simpa using hready
    rw [c.close_of_not_ready hready]
    exact h.dark hready
  obtain ⟨hidden, l, event, htold, hclose⟩ := c.close_eq hready
  obtain ⟨l', htold', hdevice, -⟩ := Controller.tell_eq { c with phase := .closed } .setCursorState
    (Controller.placeRequest false c.surface.x c.surface.y)
  have hlinks : l = l' := congrArg Controller.link (Prod.mk.inj (htold.symm.trans htold')).2
  have hdark : IsDark l.device := by
    rw [hlinks, hdevice]
    exact c.link.askWord_hidden _ _ h.hides
  rw [hclose]
  exact Controller.givenBack_keeps (keeps_isDark (by decide)) (keeps_isDark (by decide))
    (fun fw w hfw => hfw.congr (closeWindow_cursorPlace fw w)) c.transfer hdark

theorem invariant : Controller.Invariant Tidy where
  note c e h := ⟨Accounted.invariant.note c e h.accounted, h.hides, h.dark⟩
  recolor c colors h := ⟨Accounted.invariant.recolor c colors h.accounted, h.hides, h.dark⟩
  start c hphase h := by
    refine ⟨Accounted.invariant.start c hphase h.accounted, Hides.invariant.start c hphase h.hides, ?_⟩
    exact fun _ => h.start_dark hphase
  place c enabled x y hready h := by
    refine ⟨Accounted.invariant.place c enabled x y hready h.accounted,
      Hides.invariant.place c enabled x y hready h.hides, fun hnot => ?_⟩
    rw [c.place_ready enabled x y hready] at hnot
    cases hnot
  upload c image picture block hready hw hh hpicture hblock h := by
    refine ⟨Accounted.invariant.upload c image picture block hready hw hh hpicture hblock h.accounted,
      Hides.invariant.upload c image picture block hready hw hh hpicture hblock h.hides, fun hnot => ?_⟩
    rw [c.upload_phase block picture, hready] at hnot
    cases hnot
  close c h := ⟨Accounted.invariant.close c h.accounted, Hides.invariant.close c h.hides, fun _ => h.close_dark⟩

theorem leave (h : Tidy c) (result : Except CommandError Unit) (effects : Array Effect) :
    IsClean (Command.leave result effects c).link.device := by
  have habandoned := invariant.abandon c h
  have hphase : c.abandon.phase.isReady = false := by
    rw [c.abandon_phase]
    rfl
  exact ⟨habandoned.accounted.clear hphase, habandoned.dark hphase⟩

end Tidy

/-! ## Commands with a controller -/

namespace Command

variable {l : Link Firmware} {settings : CursorSettings}

theorem ready_tidy (h : Tidy (Controller.create l settings)) : Tidy (ready l settings).2 := by
  have hstarted := Tidy.invariant.startAny _ h
  unfold ready
  generalize (Controller.create l settings).start = r at hstarted ⊢
  rcases r with ⟨e | ⟨⟩, c⟩
  · exact hstarted
  have hloaded := Tidy.invariant.load c Arrow.image hstarted
  dsimp only
  generalize c.load Arrow.image = r at hloaded ⊢
  rcases r with ⟨e | ⟨⟩, c'⟩
  · exact hloaded
  · exact hloaded

theorem display_clean (h : Tidy (Controller.create l settings)) (x y : Int32) (seconds : Nat) :
    IsClean (display l settings x y seconds).link.device := by
  have hready := ready_tidy h
  unfold display
  generalize ready l settings = r at hready ⊢
  rcases r with ⟨e | ⟨⟩, c⟩
  · exact hready.leave _ _
  have hmoved := Tidy.invariant.moveTo c x y hready
  dsimp only
  generalize c.moveTo x y = r at hmoved ⊢
  rcases r with ⟨e | ⟨⟩, c⟩
  · exact hmoved.leave _ _
  have hshown := Tidy.invariant.display c hmoved
  dsimp only
  generalize c.display = r at hshown ⊢
  rcases r with ⟨e | ⟨⟩, c⟩
  · exact hshown.leave _ _
  have hclosed := Tidy.invariant.close c hshown
  dsimp only
  generalize c.close = r at hclosed ⊢
  rcases r with ⟨e | ⟨⟩, c⟩
  · exact hclosed.leave _ _
  · exact hclosed.leave _ _

/-- The sweep keeps a controller tidy, wherever it ends. -/
theorem sweep_tidy (pause left : Nat) (step : UInt32) (effects : Array Effect) {c : Controller Firmware} (h : Tidy c) :
    Tidy (sweep pause left step effects c).2.2 := by
  induction left generalizing step effects c with
  | zero => exact h
  | succ left ih =>
    have hmoved := Tidy.invariant.moveTo c (step * sweepStride).toInt32 (step * sweepStride).toInt32 h
    rw [sweep]
    by_cases hlong : 0x80000000 ≤ (step * sweepStride).toNat
    · rw [if_pos hlong]
      exact h
    rw [if_neg hlong]
    generalize c.moveTo (step * sweepStride).toInt32 (step * sweepStride).toInt32 = r at hmoved ⊢
    rcases r with ⟨e | ⟨⟩, c'⟩
    · exact hmoved
    · exact ih _ _ hmoved

theorem demo_clean (h : Tidy (Controller.create l settings)) (steps : UInt32) (pause : Nat) :
    IsClean (demo l settings steps pause).link.device := by
  have hready := ready_tidy h
  unfold demo
  generalize ready l settings = r at hready ⊢
  rcases r with ⟨e | ⟨⟩, c⟩
  · exact hready.leave _ _
  have hshown := Tidy.invariant.display c hready
  dsimp only
  generalize c.display = r at hshown ⊢
  rcases r with ⟨e | ⟨⟩, c⟩
  · exact hshown.leave _ _
  have hswept := sweep_tidy pause steps.toNat 0 #[] hshown
  dsimp only
  generalize sweep pause steps.toNat 0 #[] c = r at hswept ⊢
  rcases r with ⟨e | ⟨⟩, effects, c⟩
  · exact hswept.leave _ _
  have hclosed := Tidy.invariant.close c hswept
  dsimp only
  generalize c.close = r at hclosed ⊢
  rcases r with ⟨e | ⟨⟩, c'⟩
  · exact hclosed.leave _ _
  · exact hclosed.leave _ _

/-! ## Commands without one -/

theorem info_clean (h : IsClean l.device) (settings : CursorSettings) : IsClean (info l settings).link.device := by
  have hversion : IsClean l.askVersion.2.device := Link.askVersion_keeps (keeps_isClean (Or.inl rfl)) h
  unfold info
  generalize l.askVersion = r at hversion ⊢
  rcases r with ⟨e | version, l'⟩
  · exact hversion
  have hoverscan : IsClean (l'.ask .getOverscan [] 4).2.device := Link.ask_keeps (keeps_isClean (Or.inr rfl)) hversion
  dsimp only [Link.askOverscan]
  generalize l'.ask .getOverscan [] 4 = r at hoverscan ⊢
  rcases r with ⟨e | words, l''⟩
  · exact hoverscan
  · exact hoverscan

theorem hide_clean (h : IsClean l.device) : IsClean (hide l).link.device := by
  have hhidden : IsClean (l.askWord .setCursorState [0, 0, 0]).2.device :=
    ⟨Link.askWord_keeps (keeps_blocks (Or.inr (Or.inr rfl))) h.blocks, l.askWord_hidden 0 0 fun _ => h.dark⟩
  unfold hide
  generalize l.askWord .setCursorState [0, 0, 0] = r at hhidden ⊢
  rcases r with ⟨e | status, l'⟩
  · exact hhidden
  · dsimp only
    split_ifs
    · exact hhidden
    · exact hhidden

/-- nothing is left on the device, and what will be allocated can be given back -/
structure Idle (l : Link Firmware) : Prop where
  clean : IsClean l.device
  orderly : Orderly l.device

/-- Blocks come and go without a change to the cursor. -/
theorem acquire_dark (h : IsDark l.device) (size alignment : UInt32) (flags : AllocFlags) :
    IsDark (l.acquire size alignment flags).2.device :=
  Link.acquire_keeps (keeps_isDark (by decide)) (keeps_isDark (by decide)) (keeps_isDark (by decide))
    (fun fw bus len hfw => hfw.congr (openWindow_cursorPlace fw bus len))
    (Link.allocate_keeps (keeps_isDark (by decide)) h)

theorem acquire_orderly (h : Orderly l.device) (size alignment : UInt32) (flags : AllocFlags) :
    Orderly (l.acquire size alignment flags).2.device :=
  Link.acquire_keeps (Orderly.exchanges _) (Orderly.exchanges _) (Orderly.exchanges _)
    (fun _ bus len hfw => hfw.openWindow bus len) (Link.allocate_keeps (Orderly.exchanges _) h)

/-- An acquisition that fails leaves an idle device idle. -/
theorem Idle.acquire_error {l' : Link Firmware} {size alignment : UInt32} {flags : AllocFlags} {e : MailboxError}
    (h : Idle l) (hfailed : l.acquire size alignment flags = (.error e, l')) : Idle l' := by
  have hdark := acquire_dark h.clean.dark size alignment flags
  have horderly := acquire_orderly h.orderly size alignment flags
  rw [hfailed] at hdark horderly
  exact ⟨⟨Link.acquire_error_of_empty h.orderly h.clean.blocks hfailed, hdark⟩, horderly⟩

/-- A block acquired on an idle device is held as a controller holds its transfer buffer. -/
theorem Idle.holds {l' : Link Firmware} {block : GpuBlock} (h : Idle l)
    (hok : l.acquire cursorBufferBytes pageAlignment .l1NonAllocating = (.ok block, l')) :
    ∃ b, Holds { Controller.create l' .default with transfer := some block } block b := by
  obtain ⟨b, hblocks, hhandle, hbus, hwindow, hsize, hlocks, hmappings⟩ := Link.acquire_ok_of_empty h.clean.blocks hok
  exact ⟨b, rfl, hblocks, hhandle, hbus, hwindow, hsize, hlocks, hmappings⟩

/-- A block acquired, filled and released leaves an idle device idle. -/
theorem Idle.release {l' : Link Firmware} {block : GpuBlock} (h : Idle l)
    (hok : l.acquire cursorBufferBytes pageAlignment .l1NonAllocating = (.ok block, l')) (bytes : List UInt8) :
    Idle ((l'.write block.window 0 bytes).release block).2 := by
  have hdark := acquire_dark h.clean.dark cursorBufferBytes pageAlignment .l1NonAllocating
  have horderly := acquire_orderly h.orderly cursorBufferBytes pageAlignment .l1NonAllocating
  rw [hok] at hdark horderly
  have hdark : IsDark (l'.write block.window 0 bytes).device := hdark.congr (write_cursorPlace _ _ _ _)
  have horderly : Orderly (l'.write block.window 0 bytes).device := horderly.write _ _ _
  obtain ⟨b, hheld⟩ := h.holds hok
  have hwritten := hheld.write bytes
  refine ⟨⟨?_, ?_⟩, ?_⟩
  · exact Link.release_newest horderly (.single hwritten.blocks) hwritten.handle hwritten.windowBlock hwritten.locks
      hwritten.mappings
  · exact Link.release_keeps (keeps_isDark (by decide)) (keeps_isDark (by decide))
      (hdark.congr (closeWindow_cursorPlace _ _))
  · exact Link.release_keeps (Orderly.exchanges _) (Orderly.exchanges _) (horderly.closeWindow _)

/-- Every cycle of the memory check leaves an idle device idle, and so do all of them. -/
theorem cycles_idle (left : Nat) (cycle : UInt32) (h : Idle l) : Idle (cycles left cycle l).2 := by
  induction left generalizing cycle l with
  | zero => exact h
  | succ left ih =>
    rw [cycles]
    rcases hacquired : l.acquire cursorBufferBytes pageAlignment .l1NonAllocating with ⟨e | block, l'⟩
    · exact h.acquire_error hacquired
    have hreleased := h.release hacquired (List.replicate block.window.len.toNat (pattern cycle))
    dsimp only
    generalize ((l'.write block.window 0 (List.replicate block.window.len.toNat (pattern cycle))).release block) = r
      at hreleased ⊢
    rcases r with ⟨e | ⟨⟩, l''⟩
    · exact hreleased
    dsimp only
    split_ifs
    · exact ih (cycle + 1) hreleased
    · exact hreleased

theorem allocTest_clean (h : Idle l) (count : UInt32) : IsClean (allocTest l count).link.device := by
  have hidle := cycles_idle count.toNat 0 h
  unfold allocTest
  generalize cycles count.toNat 0 l = r at hidle ⊢
  rcases r with ⟨e | ⟨⟩, l'⟩
  · exact hidle.clean
  · exact hidle.clean

end Command

/-! ## Every command -/

theorem command_clean {l : Link Firmware} {settings : CursorSettings} (htidy : Tidy (Controller.create l settings))
    (command : CommandLine) : IsClean (Program.command l settings command).link.device := by
  have hclean : IsClean l.device := ⟨htidy.accounted.clear rfl, htidy.dark rfl⟩
  cases command with
  | info => exact Command.info_clean hclean settings
  | display x y seconds => exact Command.display_clean htidy x y seconds
  | hide => exact Command.hide_clean hclean
  | demo steps pause => exact Command.demo_clean htidy steps pause
  | allocTest count => exact Command.allocTest_clean ⟨hclean, htidy.accounted.orderly⟩ count

/-- **Commands leave nothing behind.** Whatever the firmware's version and overscan, and whatever fails on it or is withheld
or refused, if only not the requests that give memory back: when a command returns, well or badly, nothing is allocated,
locked or mapped, and no cursor is on the screen. -/
theorem command_leaves_nothing (id : Nat) (version : FirmwareVersion) (overscan : Overscan) (faults : Faults)
    (settings : CursorSettings) (command : CommandLine) (hunlock : faults.spares .unlockMemory)
    (hrelease : faults.spares .releaseMemory) :
    let l := (Program.command (.fresh (configured id version overscan faults)) settings command).link
    l.device.outstanding = ⟨0, 0, 0⟩ ∧ ∀ place, l.device.cursorPlace = some place → place.enabled = false := by
  have htidy : Tidy (Controller.create (.fresh (configured id version overscan faults)) settings) :=
    { accounted :=
        { tenure := ⟨fun _ => ⟨rfl, rfl⟩, nofun⟩
          orderly := ⟨busSpace_fresh id, isFaulty_of_spares hunlock, isFaulty_of_spares hrelease⟩
          clear := fun _ => rfl }
      hides := fun _ => nofun
      dark := fun _ => nofun }
  have hclean := command_clean htidy command
  exact ⟨hclean.outstanding, hclean.dark⟩

/-- The arrow is to be swept over firmware that takes no picture: the buffer is given back, and the cursor is off. -/
theorem command_leaves_nothing_blind :
    let faults : Faults := ⟨[.setCursorInfo], [.getOverscan], false, false⟩
    let l := (Program.command (.fresh (configured 0 defaultVersion ⟨0, 0, 0, 0⟩ faults)) .default (.demo 3 0)).link
    faults.spares .unlockMemory ∧ faults.spares .releaseMemory ∧ l.device.outstanding = ⟨0, 0, 0⟩ ∧
      ∀ place, l.device.cursorPlace = some place → place.enabled = false := by
  intro faults
  have hunlock : faults.spares .unlockMemory := ⟨by decide, by decide⟩
  have hrelease : faults.spares .releaseMemory := ⟨by decide, by decide⟩
  exact ⟨hunlock, hrelease,
    command_leaves_nothing 0 defaultVersion ⟨0, 0, 0, 0⟩ faults .default (.demo 3 0) hunlock hrelease⟩

end MailboxCursor
