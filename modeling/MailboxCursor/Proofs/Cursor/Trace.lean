/-
The calls that a controller makes of its device in all its life, in order.

`Life` is the grammar of them: the version; then, if that is new enough, an acquisition of the transfer buffer; then, if it
came to one, placements and pictures as long as the controller serves (`Serves`); and in the end the cursor is hidden and
the buffer given back. `live_calls`: the record of every life is a word of this grammar, whatever the device answers. So
pictures are asked for only while the transfer buffer that they are read from is locked and mapped.
-/
import MailboxCursor.Proofs.Cursor.Steps
import MailboxCursor.Proofs.Device.Recorder
import MailboxCursor.Proofs.Image.Render

namespace MailboxCursor

/-! ## The grammar -/

/-- a size that pictures have -/
structure IsShownSize (w : UInt32) : Prop where
  least : 16 ≤ w.toNat
  most : w.toNat ≤ 64
  even : w.toNat % 2 = 0

/-- what a controller asks while it has the transfer buffer `block` -/
inductive Serves (block : GpuBlock) : Call → Prop where
  | wrote {offset : Nat} {bytes : List UInt8} : Serves block (.wrote block.window offset bytes)
  | placed {enabled : Bool} {x y : Int32} {r : Except MailboxError UInt32} {call : Call}
    (asked : Asks .setCursorState [if enabled then 1 else 0, x.toUInt32, y.toUInt32] r call) : Serves block call
  | drawn {w h : UInt32} {r : Except MailboxError UInt32} {call : Call} (width : IsShownSize w) (height : IsShownSize h)
    (asked : Asks .setCursorInfo [w, h, 0, block.bus.val, 0, 0] r call) : Serves block call

/-- the calls of a controller that has come to a transfer buffer -/
inductive Service (least : FirmwareVersion) (block : GpuBlock) : List Call → Prop where
  | mk {version : UInt32} {v : Call} {up body : List Call} (asked : Asks .getFirmwareVersion [] (.ok version) v)
    (supported : least.val ≤ version) (acquired : Acquires 16384 4096 ⟨12⟩ (.ok block) up)
    (served : ∀ call ∈ body, Serves block call) : Service least block (v :: up ++ body)

/-- the calls of a controller that works with firmware from the version `least` on -/
inductive Life (least : FirmwareVersion) : List Call → Prop where
  | unborn : Life least []
  | unsupported {r : Except MailboxError UInt32} {v : Call} (asked : Asks .getFirmwareVersion [] r v)
    (old : ∀ version, r = .ok version → version < least.val) : Life least [v]
  | failed {version : UInt32} {e : MailboxError} {v : Call} {up : List Call}
    (asked : Asks .getFirmwareVersion [] (.ok version) v) (supported : least.val ≤ version)
    (acquired : Acquires 16384 4096 ⟨12⟩ (.error e) up) : Life least (v :: up)
  | serving {block : GpuBlock} {calls : List Call} (served : Service least block calls) : Life least calls
  | ended {block : GpuBlock} {calls : List Call} {x y : Int32} {a : Access Unit Unit}
    {r r' r'' : Except MailboxError UInt32} {z u f : Call} (served : Service least block calls)
    (hidden : Asks .setCursorState [0, x.toUInt32, y.toUInt32] r z)
    (unlocked : Asks .unlockMemory [block.handle.val] r' u) (freed : Asks .releaseMemory [block.handle.val] r'' f) :
    Life least (calls ++ [z, .closed block.window a, u, f])

theorem Service.append {least : FirmwareVersion} {block : GpuBlock} {calls more : List Call}
    (h : Service least block calls) (hmore : ∀ call ∈ more, Serves block call) :
    Service least block (calls ++ more) := by
  obtain ⟨asked, supported, acquired, served⟩ := h
  rw [List.append_assoc]
  refine .mk asked supported acquired fun call hcall => ?_
  rcases List.mem_append.1 hcall with hcall | hcall
  · exact served call hcall
  · exact hmore call hcall

/-! ## The invariant -/

variable {δ : Type}

/-- the record of a controller, by its phase -/
structure Lives (least : FirmwareVersion) (c : Controller (Recorded δ)) : Prop where
  least_eq : c.settings.minFirmware = least
  sent : c.link.sent.toList = Call.messages c.link.device.calls
  life : Life least c.link.device.calls
  unborn : c.phase = .uninitialized → c.link.device.calls = []
  serving : c.phase.isReady = true → ∃ block, c.transfer = some block ∧ Service least block c.link.device.calls

namespace Lives

variable {least : FirmwareVersion} {c c' : Controller (Recorded δ)} {calls : List Call}

theorem new (d : δ) (settings : CursorSettings) :
    Lives settings.minFirmware (Controller.create (.fresh (Recorded.fresh d)) settings) :=
  ⟨rfl, rfl, .unborn, fun _ => rfl, by rintro ⟨⟩⟩

/-- The messages of new calls are sent. -/
theorem sent_of_made (h : Lives least c) {l : Link (Recorded δ)} (hmade : Link.Made c.link calls l) :
    l.sent.toList = Call.messages l.device.calls := by
  rw [hmade.sent, hmade.recorded, Call.messages_append, h.sent]

/-- A controller in service stays in it, whatever it does of what is allowed. -/
theorem serve (h : Lives least c) (hready : c.phase.isReady = true) (hready' : c'.phase.isReady = true)
    (hsettings : c'.settings = c.settings) (htransfer : c'.transfer = c.transfer)
    (hmade : Link.Made c.link calls c'.link)
    (hserves : ∀ block, c.transfer = some block → ∀ call ∈ calls, Serves block call) : Lives least c' := by
  obtain ⟨block, hblock, hserved⟩ := h.serving hready
  have hserved' : Service least block c'.link.device.calls := by
    rw [hmade.recorded]
    exact hserved.append (hserves block hblock)
  refine ⟨?_, h.sent_of_made hmade, .serving hserved', ?_, ?_⟩
  · rw [hsettings, h.least_eq]
  · intro hphase
    exact absurd hphase (Phase.ne_uninitialized hready')
  · intro _
    exact ⟨block, htransfer.trans hblock, hserved'⟩

/-- A controller that is over and done with stays so. -/
theorem finish (h : Lives least c) (hphase : c'.phase ≠ .uninitialized) (hready : c'.phase.isReady = false)
    (hsettings : c'.settings = c.settings) (hmade : Link.Made c.link calls c'.link)
    (hlife : Life least (c.link.device.calls ++ calls)) :
    Lives least c' := by
  refine ⟨?_, h.sent_of_made hmade, ?_, ?_, ?_⟩
  · rw [hsettings, h.least_eq]
  · rw [hmade.recorded]
    exact hlife
  · intro hunborn
    exact absurd hunborn hphase
  · intro hready'
    rw [hready] at hready'
    cases hready'

variable [Device δ]

/-- One request makes one call, and changes nothing of the controller but its link. -/
theorem tell_made (c : Controller (Recorded δ)) (tag : Tag) (payload : List UInt32) (hfit : payload.length ≤ 26) :
    ∃ r call l, (c.tell tag payload).2 = { c with link := l } ∧ Asks tag payload r call ∧
      Link.Made c.link [call] l := by
  obtain ⟨l, htold, hdevice, hsent⟩ := c.tell_eq tag payload
  obtain ⟨call, hasks, hmade⟩ := c.link.askWord_made tag payload hfit
  exact ⟨_, call, l, by rw [htold], hasks, hmade.congr hdevice hsent⟩

theorem start (h : Lives least c) (hphase : c.phase = .uninitialized) : Lives least c.start.2 := by
  have hunborn := h.unborn hphase
  obtain ⟨r, v, hasked, hr, hmadev⟩ := c.link.askVersion_made
  rcases c.start_cases hphase with ⟨e, l, event, hversion, hstart⟩ | ⟨version, l, event, hversion, hold, hstart⟩ |
    ⟨version, l, e, l', event, hversion, hnew, hacquired, hstart⟩ |
    ⟨version, l, block, l', event, event', hversion, hnew, hacquired, hstart⟩
  all_goals
    rw [hversion] at hr hmadev
    rw [hstart]
  · cases r with
    | ok version => cases hr
    | error e =>
      refine h.finish (by rintro ⟨⟩) rfl rfl (hmadev.congr rfl rfl) ?_
      rw [hunborn]
      exact .unsupported hasked (by rintro _ ⟨⟩)
  all_goals
    obtain ⟨version, rfl, rfl⟩ : ∃ w, r = .ok w ∧ version = ⟨w⟩ := by
      cases r with
      | error e => cases hr
      | ok w => exact ⟨w, rfl, Except.ok.inj hr⟩
  · refine h.finish (by rintro ⟨⟩) rfl rfl (hmadev.congr rfl rfl) ?_
    rw [hunborn]
    refine .unsupported hasked ?_
    rintro _ ⟨⟩
    rw [← h.least_eq]
    exact hold
  all_goals
    rw [h.least_eq] at hnew
    obtain ⟨up, hacquires, hmade⟩ := l.acquire_made cursorBufferBytes pageAlignment .l1NonAllocating
    rw [hacquired] at hacquires hmade
    have hmade := hmadev.trans hmade
  · refine h.finish (by rintro ⟨⟩) rfl rfl (hmade.congr rfl rfl) ?_
    rw [hunborn]
    exact .failed hasked (UInt32.not_lt.1 hnew) hacquires
  · obtain ⟨bytes, hcleared⟩ := l'.write_made block.window 0 (List.replicate block.window.len.toNat 0)
    have hserved : Service least block
        (c.link.device.calls ++ ([v] ++ up ++ [.wrote block.window 0 bytes])) := by
      rw [hunborn]
      refine .mk hasked (UInt32.not_lt.1 hnew) hacquires fun call hcall => ?_
      rw [List.mem_singleton.1 hcall]
      exact .wrote
    have hmade := hmade.trans hcleared
    rw [← hmade.recorded] at hserved
    exact ⟨h.least_eq, h.sent_of_made (hmade.congr rfl rfl), .serving hserved, by rintro ⟨⟩,
      fun _ => ⟨block, rfl, hserved⟩⟩

theorem place (h : Lives least c) (hready : c.phase.isReady = true) (enabled : Bool) (x y : Int32) :
    Lives least (c.place enabled x y).2 := by
  obtain ⟨r, call, l, htold, hasks, hmade⟩ :=
    tell_made c .setCursorState (Controller.placeRequest enabled x y) (by simp [Controller.placeRequest])
  have hserves : ∀ block, c.transfer = some block → ∀ call' ∈ [call], Serves block call' := by
    intro block _ call' hcall
    rw [List.mem_singleton.1 hcall]
    exact .placed hasks
  rcases c.place_cases enabled x y with ⟨e, c', htold', hplace⟩ | ⟨c', event, htold', hplace⟩
  · rw [htold'] at htold
    obtain rfl : c' = { c with link := l } := htold
    rw [hplace]
    exact h.serve hready hready rfl rfl hmade hserves
  · rw [htold'] at htold
    obtain rfl : c' = { c with link := l } := htold
    rw [hplace]
    exact h.serve hready (by cases enabled <;> rfl) rfl rfl (hmade.congr rfl rfl) hserves

theorem upload (h : Lives least c) (hready : c.phase.isReady = true) {image : Image} {picture : Picture} {block : GpuBlock}
    (hw : image.width ≤ maxCursorSize) (hh : image.height ≤ maxCursorSize)
    (hpicture : image.render c.surface.colors = .ok picture) (hblock : c.transfer = some block) :
    Lives least (c.upload block picture).2 := by
  obtain rfl := Image.eq_of_render hpicture
  obtain ⟨-, hW, hW', hWeven⟩ := shownSize_bounds hw
  obtain ⟨-, hH, hH', hHeven⟩ := shownSize_bounds hh
  obtain ⟨cleared, hcleared⟩ := c.link.write_made block.window 0 (List.replicate block.window.len.toNat 0)
  obtain ⟨drawn, hdrawn⟩ := (c.link.write block.window 0 (List.replicate block.window.len.toNat 0)).write_made block.window 0
    ((image.picture c.surface.colors).bytesWithin block.window.len.toNat)
  obtain ⟨r, call, l, htold, hasks, hmade⟩ := tell_made (c.withPicture block (image.picture c.surface.colors)) .setCursorInfo
    (Controller.pictureRequest (image.picture c.surface.colors) block.bus) (by simp [Controller.pictureRequest])
  have hmade := (hcleared.trans hdrawn).trans hmade
  have hserves : ∀ block', c.transfer = some block' → ∀ call' ∈ [.wrote block.window 0 cleared] ++
      [.wrote block.window 0 drawn] ++ [call], Serves block' call' := by
    intro block' hblock' call' hcall
    obtain rfl := Option.some.inj (hblock.symm.trans hblock')
    simp only [List.cons_append, List.nil_append, List.mem_cons, List.not_mem_nil, or_false] at hcall
    rcases hcall with rfl | rfl | rfl
    · exact .wrote
    · exact .wrote
    · exact .drawn ⟨hW, hW', hWeven⟩ ⟨hH, hH', hHeven⟩ hasks
  rcases c.upload_cases block (image.picture c.surface.colors) with ⟨e, c', htold', hupload⟩ | ⟨c', event, htold', hupload⟩
  · rw [htold'] at htold
    obtain rfl : c' = { c.withPicture block (image.picture c.surface.colors) with link := l } := htold
    rw [hupload]
    exact h.serve hready hready rfl rfl hmade hserves
  · rw [htold'] at htold
    obtain rfl : c' = { c.withPicture block (image.picture c.surface.colors) with link := l } := htold
    rw [hupload]
    exact h.serve hready hready rfl rfl (hmade.congr rfl rfl) hserves

theorem close (h : Lives least c) : Lives least c.close.2 := by
  by_cases hready : c.phase.isReady = true
  swap
  · rw [c.close_of_not_ready (by simpa using hready)]
    refine h.finish (by rintro ⟨⟩) rfl rfl (Link.Made.refl c.link) ?_
    rw [List.append_nil]
    exact h.life
  obtain ⟨block, hblock, hserved⟩ := h.serving hready
  obtain ⟨hidden, l, event, htold, hclose⟩ := c.close_eq hready
  obtain ⟨r, z, l₁, htold', hasks, hmadez⟩ := tell_made { c with phase := .closed } .setCursorState
    (Controller.placeRequest false c.surface.x c.surface.y) (by simp [Controller.placeRequest])
  rw [htold] at htold'
  obtain rfl : l = l₁ := congrArg Controller.link htold'
  obtain ⟨a, r', u, r'', f, hunlocked, hfreed, hmade⟩ := l.release_made block
  have hgivenBack : Controller.givenBack l c.transfer = (l.release block).2 := by rw [hblock]; rfl
  rw [hclose, hgivenBack]
  exact h.finish (by rintro ⟨⟩) rfl rfl ((hmadez.trans hmade).congr rfl rfl) (.ended hserved hasks hunlocked hfreed)

theorem invariant : Controller.Invariant fun c : Controller (Recorded δ) => Lives least c where
  note _ _ h := ⟨h.least_eq, h.sent, h.life, h.unborn, h.serving⟩
  recolor _ _ h := ⟨h.least_eq, h.sent, h.life, h.unborn, h.serving⟩
  start _ hphase h := h.start hphase
  place _ enabled x y hready h := h.place hready enabled x y
  upload _ _ _ _ hready hw hh hpicture hblock h := h.upload hready hw hh hpicture hblock
  close _ h := h.close

end Lives

/-! ## Whole lives -/

variable [Device δ]

/-- a whole life: some operations, and then the controller may be dropped -/
def Controller.live (c : Controller δ) (ops : List Operation) (dropped : Bool) : Controller δ :=
  if dropped then (c.run ops).abandon else c.run ops

theorem Controller.live_map {ε : Type} [Device ε] (f : Projection δ ε) (c : Controller δ) (ops : List Operation)
    (dropped : Bool) : (c.map f).live ops dropped = (c.live ops dropped).map f := by
  cases dropped with
  | false => exact c.run_map f ops
  | true =>
    show ((c.map f).run ops).abandon = (c.run ops).abandon.map f
    rw [run_map, abandon_map]

/-- **The calls of a life.** Over any device, whatever it answers: the calls that a controller makes in all its life are a
word of the grammar, and the messages among them are those that it sent. Nothing comes of recording them: without the record
the life is the same. -/
theorem live_calls (d : δ) (settings : CursorSettings) (ops : List Operation) (dropped : Bool) :
    let c := (Controller.create (.fresh (Recorded.fresh d)) settings).live ops dropped
    Life settings.minFirmware c.link.device.calls ∧ c.link.sent.toList = Call.messages c.link.device.calls ∧
      c.map Recorded.plain = (Controller.create (.fresh d) settings).live ops dropped := by
  have hplain : (Controller.create (.fresh d) settings) =
      (Controller.create (.fresh (Recorded.fresh d)) settings).map Recorded.plain := rfl
  have hlives : Lives settings.minFirmware
      ((Controller.create (.fresh (Recorded.fresh d)) settings).live ops dropped) := by
    have hrun := Lives.invariant.run _ ops (Lives.new d settings)
    rw [Controller.live]
    split_ifs
    · exact Lives.invariant.abandon _ hrun
    · exact hrun
  refine ⟨hlives.life, hlives.sent, ?_⟩
  rw [hplain, Controller.live_map]

end MailboxCursor
