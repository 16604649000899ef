/-
The check of GPU memory over firmware without faults.

Every cycle finds the table of blocks empty and leaves it empty, so it does not matter how many there were before, and not
even that the handles come round: its block goes to the first free place, which is the same every time (`Calm.acquire`), what
was filled in is read back, and the release succeeds (`Calm.release`). `Calm.cycle` is one cycle and `Calm.cycles` the induction
over them. It runs over a recorded device, where the bus addresses of all the cycles can be read off the calls.
-/
import MailboxCursor.Proofs.Command.Clean
import MailboxCursor.Proofs.Cursor.Teardown
import MailboxCursor.Proofs.Firmware.Leases
import MailboxCursor.Proofs.Firmware.Memory

namespace MailboxCursor

/-! ## Where the windows were opened -/

/-- the bus address of a window that was opened -/
def Call.mapped? : Call → Option BusAddress
  | .opened bus _ a => if a.result.isOk then some bus else none
  | _ => none

theorem Asks.mapped? {tag : Tag} {payload : List UInt32} {r : Except MailboxError UInt32} {a : Call}
    (h : Asks tag payload r a) : a.mapped? = none := by
  cases h
  rfl

/-- An acquisition that brings a block opens one window, at the block's bus address. -/
theorem Acquires.mapped {size alignment : UInt32} {flags : AllocFlags} {g : GpuBlock} {calls : List Call}
    (h : Acquires size alignment flags (.ok g) calls) : calls.filterMap Call.mapped? = [g.bus] := by
  cases h with
  | acquired allocated _ locked _ mapped =>
    rw [List.filterMap_cons_none allocated.mapped?, List.filterMap_cons_none locked.mapped?]
    simp [Call.mapped?, mapped, Except.isOk, Except.toBool]

/-- A release opens none. -/
theorem GivesBack.mapped {g : GpuBlock} {calls : List Call} {outcomes : List (Except MailboxError Unit)}
    (h : GivesBack g calls outcomes) : calls.filterMap Call.mapped? = [] := by
  cases h with
  | mk unlocked freed =>
    rw [List.filterMap_cons_none rfl, List.filterMap_cons_none unlocked.mapped?,
      List.filterMap_cons_none freed.mapped?]
    rfl

/-! ## The check over a projection -/

section Projection

variable {δ ε : Type} [Device δ] [Device ε]

/-- the same outcome, the device seen through `f` -/
def Outcome.map (f : Projection δ ε) (o : Outcome δ) : Outcome ε :=
  ⟨o.result, o.effects, o.link.map f⟩

namespace Command

theorem cycles_map (f : Projection δ ε) (left : Nat) (cycle : UInt32) (l : Link δ) :
    cycles left cycle (l.map f) = (cycles left cycle l).map id (Link.map f) := by
  induction left generalizing cycle l with
  | zero => rfl
  | succ left ih =>
    rw [cycles, cycles, Link.acquire_map]
    rcases l.acquire cursorBufferBytes pageAlignment .l1NonAllocating with ⟨e | g, l⟩
    · rfl
    simp only [Prod.map_apply, id, Link.write_map, Link.read_map, Link.release_map]
    rcases (l.write g.window 0 (List.replicate g.window.len.toNat (pattern cycle))).release g with ⟨e | ⟨⟨⟩⟩, l'⟩
    · rfl
    simp only [Prod.map_apply, id, ih]
    split_ifs
    · rfl
    · rfl

theorem allocTest_map (f : Projection δ ε) (l : Link δ) (count : UInt32) :
    allocTest (l.map f) count = (allocTest l count).map f := by
  rw [allocTest, allocTest, cycles_map]
  rcases cycles count.toNat 0 l with ⟨e | ⟨⟩, l⟩
  · rfl
  · rfl

end Command
end Projection

/-! ## One cycle -/

open Firmware

/-- a controller's transfer buffer as a block that is held -/
theorem Holds.leased {c : Controller Firmware} {block : GpuBlock} {b : Block} (h : Holds c block b) :
    Leased c.link.device.id c.link.device.blocks block b where
  live := by
    rw [h.blocks]
    exact List.mem_singleton_self b
  handle := h.handle
  owner := by rw [h.window]
  base := by rw [h.window]

/-- What was written into the whole of a transfer buffer is read back. -/
theorem Holds.read_write {c : Controller Firmware} {block : GpuBlock} {b : Block} (h : Holds c block b) (byte : UInt8) :
    (c.link.write block.window 0 (List.replicate block.window.len.toNat byte)).read block.window =
      List.replicate block.window.len.toNat byte := by
  have hlen := h.window_len
  have hwritten := h.write (List.replicate block.window.len.toNat byte)
  have hoffset : block.window.offset = 0 := by rw [h.window]
  have htake : (List.replicate block.window.len.toNat byte).take cursorBufferBytes.toNat =
      List.replicate block.window.len.toNat byte := by
    rw [hlen]
    exact List.take_of_length_le (by rw [List.length_replicate])
  rw [htake] at hwritten
  have hread : (c.link.write block.window 0 (List.replicate block.window.len.toNat byte)).read block.window =
      (b.memory.write 0 (List.replicate block.window.len.toNat byte)).read 0 block.window.len.toNat := by
    show Firmware.read _ _ = _
    rw [Firmware.read, hwritten.windowBlock, hoffset]
  have hself := b.memory.read_write_self 0 (List.replicate block.window.len.toNat byte)
  rw [List.length_replicate] at hself
  exact hread.trans hself

namespace Command

/-- an idle device without faults -/
structure Calm (l : Link Firmware) : Prop extends Idle l where
  sound : l.device.faults = .none

namespace Calm

variable {l : Link Firmware}

theorem fresh (id : Nat) (version : FirmwareVersion) (overscan : Overscan) :
    Calm (.fresh (configured id version overscan .none)) where
  clean := ⟨rfl, nofun⟩
  orderly := ⟨busSpace_fresh id, rfl, rfl⟩
  sound := rfl

/-- An empty table has its first place at the very start. -/
theorem place? (h : Calm l) : l.device.place? cursorBufferBytes (max pageAlignment 1) = some 0xde000000 := by
  unfold Firmware.place?
  rw [h.clean.blocks, h.sound]
  decide +kernel

/-- The block of every cycle lies at the same bus address. -/
theorem acquire (h : Calm l) :
    ∃ g l', l.acquire cursorBufferBytes pageAlignment .l1NonAllocating = (.ok g, l') ∧ g.bus = ⟨0xde000000⟩ ∧
      l'.device.faults = .none := by
  have holder : ∀ b ∈ l.device.blocks, b.handle < l.device.nextHandle := by
    rw [h.clean.blocks]
    nofun
  obtain ⟨l', hacquired, hleaves⟩ :=
    Link.acquire_granted h.sound h.orderly.space holder h.place? .l1NonAllocating
  exact ⟨_, l', hacquired, rfl, hleaves.sound h.sound⟩

/-- It keeps the byte that it is filled with, and when it is released, the device is as calm as before. -/
theorem release {l' : Link Firmware} {g : GpuBlock} (h : Calm l)
    (hok : l.acquire cursorBufferBytes pageAlignment .l1NonAllocating = (.ok g, l')) (hsound : l'.device.faults = .none)
    (byte : UInt8) :
    (l'.write g.window 0 (List.replicate g.window.len.toNat byte)).read g.window =
        List.replicate g.window.len.toNat byte ∧
      ∃ l'', (l'.write g.window 0 (List.replicate g.window.len.toNat byte)).release g = (.ok (), l'') ∧ Calm l'' := by
  have hidle := h.toIdle.release hok (List.replicate g.window.len.toNat byte)
  have horderly := acquire_orderly h.orderly cursorBufferBytes pageAlignment .l1NonAllocating
  rw [hok] at horderly
  obtain ⟨b, hheld⟩ := h.holds hok
  have hwritten := hheld.write (List.replicate g.window.len.toNat byte)
  have hfaults : (l'.write g.window 0 (List.replicate g.window.len.toNat byte)).device.faults = .none :=
    (faults_of_config (write_config _ _ _ _)).trans hsound
  obtain ⟨l'', hreleased, hleaves⟩ :=
    Link.release_granted hfaults (horderly.write g.window 0 _).space hwritten.leased hwritten.locks hwritten.mappings
  refine ⟨hheld.read_write byte, l'', hreleased, ?_, hleaves.sound hfaults⟩
  rwa [hreleased] at hidle

/-! ## All cycles, over a recorded device -/

variable {l : Link (Recorded Firmware)}

/-- One cycle goes through, with a window at the one bus address, and leaves the rest of the cycles to a calm device. -/
theorem cycle (h : Calm (l.map Recorded.plain)) (left : Nat) (cycle : UInt32) :
    ∃ l' calls, Command.cycles (left + 1) cycle l = Command.cycles left (cycle + 1) l' ∧
      Calm (l'.map Recorded.plain) ∧ l.Made calls l' ∧ calls.filterMap Call.mapped? = [⟨0xde000000⟩] := by
  -- the steps over the device itself, and the calls that they are over the recorded one
  obtain ⟨g, p₁, hacquired, hbus, hsound⟩ := h.acquire
  obtain ⟨hread, p₂, hreleased, hcalm⟩ := h.release hacquired hsound (pattern cycle)
  obtain ⟨as, hacquires, hmade⟩ := l.acquire_made cursorBufferBytes pageAlignment .l1NonAllocating
  rw [Link.acquire_map] at hacquired
  rcases hgot : l.acquire cursorBufferBytes pageAlignment .l1NonAllocating with ⟨r, l₁⟩
  rw [hgot] at hacquired hacquires hmade
  obtain ⟨rfl, rfl⟩ : r = .ok g ∧ l₁.map Recorded.plain = p₁ := Prod.mk.inj hacquired
  obtain ⟨bytes, hwrote⟩ := l₁.write_made g.window 0 (List.replicate g.window.len.toNat (pattern cycle))
  generalize hfilled : l₁.write g.window 0 (List.replicate g.window.len.toNat (pattern cycle)) = l₂ at hwrote
  rw [Link.write_map, hfilled] at hread hreleased
  obtain ⟨fs, outcomes, hback, hmade', -⟩ := l₂.release_calls g
  rw [Link.release_map] at hreleased
  rcases hgave : l₂.release g with ⟨r, l₃⟩
  rw [hgave] at hreleased hmade'
  obtain ⟨rfl, rfl⟩ : r = .ok () ∧ l₃.map Recorded.plain = p₂ := Prod.mk.inj hreleased
  have hintact : (l₂.read g.window).all (fun b => b == pattern cycle) = true := by
    rw [← Link.read_map Recorded.plain, hread, List.all_replicate]
    simp
  refine ⟨l₃, (as ++ [.wrote g.window 0 bytes]) ++ fs, ?_, hcalm, (hmade.trans hwrote).trans hmade', ?_⟩
  · simp only [Command.cycles, hgot, hfilled, hgave, hintact, if_true]
  · simp only [List.filterMap_append, hacquires.mapped, hback.mapped, hbus]
    rfl

/-- **All cycles succeed**, each with a window at the same bus address, and the device is calm when they are over. -/
theorem cycles (h : Calm (l.map Recorded.plain)) (left : Nat) (cycle : UInt32) :
    ∃ l' calls, Command.cycles left cycle l = (.ok (), l') ∧ Calm (l'.map Recorded.plain) ∧ l.Made calls l' ∧
      calls.filterMap Call.mapped? = List.replicate left ⟨0xde000000⟩ := by
  induction left generalizing cycle l with
  | zero => exact ⟨l, [], rfl, h, .refl l, rfl⟩
  | succ left ih =>
    obtain ⟨l₁, calls, hcycle, hcalm, hmade, hbus⟩ := h.cycle left cycle
    obtain ⟨l₂, calls', hcycles, hleft, hmade', hbuses⟩ := ih hcalm (cycle + 1)
    refine ⟨l₂, calls ++ calls', hcycle.trans hcycles, hleft, hmade.trans hmade', ?_⟩
    rw [List.filterMap_append, hbus, hbuses]
    rfl

end Calm

/-- what the check of GPU memory comes to over `l` -/
structure Checks (l : Link Firmware) (count : UInt32) : Prop where
  result : (allocTest l count).result = .ok ()
  effects : (allocTest l count).effects = #[.line s!"alloc-test: {count} cycles ok"]
  /-- nothing is left of the blocks -/
  outstanding : (allocTest l count).link.device.outstanding = ⟨0, 0, 0⟩
  /-- as many windows were opened as there are cycles, all at one bus address -/
  buses : ∃ bus, (allocTest l.recorded count).link.device.calls.filterMap Call.mapped? = List.replicate count.toNat bus
  /-- nothing comes of recording the calls -/
  same : allocTest l count = (allocTest l.recorded count).map Recorded.plain

theorem Calm.checks {l : Link Firmware} (h : Calm l) (count : UInt32) : Checks l count := by
  have hsame : allocTest l count = (allocTest l.recorded count).map Recorded.plain :=
    allocTest_map Recorded.plain l.recorded count
  have hcalm : Calm (l.recorded.map Recorded.plain) := h
  obtain ⟨l', calls, hcycles, hcalm', hmade, hbuses⟩ := hcalm.cycles count.toNat 0
  have hdone : allocTest l.recorded count = ⟨.ok (), #[.line s!"alloc-test: {count} cycles ok"], l'⟩ := by
    rw [allocTest, hcycles]
  have hcalls : l'.device.calls = calls := hmade.recorded
  rw [hdone] at hsame
  refine ⟨?_, ?_, ?_, ⟨⟨0xde000000⟩, ?_⟩, ?_⟩
  · rw [hsame]
    rfl
  · rw [hsame]
    rfl
  · rw [hsame]
    exact hcalm'.clean.outstanding
  · rw [hdone, hcalls]
    exact hbuses
  · rw [hdone]
    exact hsame

end Command
end MailboxCursor
