/-
What requests do to the emulated firmware when they succeed or fail, and which part of it each message can change.

`allocate_ok`, `lock_ok` and `openWindow_ok` name the block that a step of an acquisition was about, `askWord_picture_ok` the
one that a picture was captured from; a step that fails changes no block (`allocate_error`, `lock_error`, `openWindow_error`).
`exchange_device` is the firmware after any exchange, and `keeps_cursor` the frame: only the two cursor tags change what is
shown, and no message what was set (`act_config`).
-/
import MailboxCursor.Proofs.Firmware.Exchange
import MailboxCursor.Proofs.Firmware.Picture

namespace MailboxCursor

namespace Firmware

/-- The firmware after an exchange: it has acted on the request, or only logged the message. -/
theorem exchange_device (fw : Firmware) (m : Message) :
    (fw.exchange m).device =
      match fw.accepts? m with
      | some (tag, p) => (fw.act tag p).1.logRequest m
      | none => fw.logRequest m := by
  cases h : fw.accepts? m with
  | none => exact (exchange_of_refused h).1
  | some r => rw [exchange_of_accepts h]

/-- What acting on a request keeps, an exchange for the tag keeps, if the log takes no part in it. -/
theorem keeps_of_act {P : Firmware → Prop} {tag : Tag} (hact : ∀ fw p, P fw → P (fw.act tag p).1)
    (hlog : ∀ fw m, P fw → P (fw.logRequest m)) : Link.Keeps P tag := by
  intro fw m htag h
  show P (fw.exchange m).device
  rw [exchange_device]
  cases haccepts : fw.accepts? m with
  | none => exact hlog fw m h
  | some r =>
    obtain ⟨t, p⟩ := r
    obtain ⟨-, -, ht, -⟩ := accepts?_eq_some_iff.1 haccepts
    rw [htag, Tag.ofWord?_id] at ht
    obtain rfl := Option.some.inj ht
    exact hlog _ m (hact fw p h)

/-- what only a change of settings changes -/
def config (fw : Firmware) : Nat × FirmwareVersion × Overscan × Faults :=
  (fw.id, fw.version, fw.overscan, fw.faults)

/-- Whatever is asked of a firmware, its settings and its log stay as they are. -/
theorem act_kept (fw : Firmware) (tag : Tag) (p : List UInt32) :
    (fw.act tag p).1.config = fw.config ∧ (fw.act tag p).1.requests = fw.requests := by
  cases tag with
  | getFirmwareVersion => exact ⟨rfl, rfl⟩
  | getOverscan => exact ⟨rfl, rfl⟩
  | setCursorState => exact ⟨rfl, rfl⟩
  | setCursorInfo =>
    simp only [act, setCursorGeometry_eq]
    split <;> exact ⟨rfl, rfl⟩
  | allocateMemory =>
    simp only [act, allocate]
    split <;> exact ⟨rfl, rfl⟩
  | lockMemory =>
    simp only [act, lock]
    split <;> exact ⟨rfl, rfl⟩
  | unlockMemory =>
    simp only [act, unlock]
    split
    · split <;> exact ⟨rfl, rfl⟩
    · exact ⟨rfl, rfl⟩
  | releaseMemory =>
    simp only [act, release]
    split
    · split <;> exact ⟨rfl, rfl⟩
    · exact ⟨rfl, rfl⟩

theorem act_config (fw : Firmware) (tag : Tag) (p : List UInt32) : (fw.act tag p).1.config = fw.config :=
  (act_kept fw tag p).1

theorem act_requests (fw : Firmware) (tag : Tag) (p : List UInt32) : (fw.act tag p).1.requests = fw.requests :=
  (act_kept fw tag p).2

/-- However an exchange ends, the message is logged, and nothing else is. -/
theorem exchange_requests (fw : Firmware) (m : Message) : (fw.exchange m).device.requests = (fw.logRequest m).requests := by
  rw [exchange_device]
  cases fw.accepts? m with
  | none => rfl
  | some r =>
    unfold logRequest
    simp only [act_requests]

theorem act_id (fw : Firmware) (tag : Tag) (p : List UInt32) : (fw.act tag p).1.id = fw.id :=
  congrArg Prod.fst (act_config fw tag p)

theorem exchange_config (fw : Firmware) (m : Message) : (fw.exchange m).device.config = fw.config := by
  rw [exchange_device]
  cases fw.accepts? m with
  | none => rfl
  | some r => exact fw.act_config r.1 r.2

theorem faults_of_config {fw fw' : Firmware} (h : fw'.config = fw.config) : fw'.faults = fw.faults :=
  congrArg (fun v => v.2.2.2) h

theorem isFaulty_of_config {fw fw' : Firmware} (h : fw'.config = fw.config) (tag : UInt32) :
    fw'.isFaulty tag = fw.isFaulty tag := by
  rw [isFaulty, isFaulty, faults_of_config h]

/-! ## Memory requests -/

/-- the block that an allocation makes at a bus address -/
def newBlock (fw : Firmware) (bus size : UInt32) (flags : AllocFlags) : Block :=
  ⟨fw.nextHandle, bus, size, 0, 0, .fresh (if flags.contains .zero then 0 else 0xff)⟩

/-- the block that a request adds to the table, if it is for memory and there is room -/
def added? (fw : Firmware) (tag : Tag) (p : List UInt32) : Option Block :=
  match tag with
  | .allocateMemory =>
    (fw.place? (p.getD 0 0) (max (p.getD 1 0) 1)).map fun bus => fw.newBlock bus (p.getD 0 0) ⟨p.getD 2 0⟩
  | _ => none

/-- An allocation is answered with the handle of the block that it adds, or with zero. -/
theorem act_allocateMemory (fw : Firmware) (p : List UInt32) :
    (fw.act .allocateMemory p).2 = [((fw.added? .allocateMemory p).map Block.handle).getD 0] := by
  simp only [act, allocate, added?]
  cases fw.place? (p.getD 0 0) (max (p.getD 1 0) 1) <;> rfl

/-! ## Settings -/

section

variable (fw : Firmware) (s : Setting)

@[simp] theorem set_id : (fw.set s).id = fw.id := by cases s <;> rfl
@[simp] theorem set_blocks : (fw.set s).blocks = fw.blocks := by cases s <;> rfl
@[simp] theorem set_nextHandle : (fw.set s).nextHandle = fw.nextHandle := by cases s <;> rfl
@[simp] theorem set_cursorPlace : (fw.set s).cursorPlace = fw.cursorPlace := by cases s <;> rfl
@[simp] theorem set_cursorGeometry : (fw.set s).cursorGeometry = fw.cursorGeometry := by cases s <;> rfl
@[simp] theorem set_cursorImage : (fw.set s).cursorImage = fw.cursorImage := by cases s <;> rfl

end

/-! ## What is shown -/

/-- what the firmware holds of the cursor -/
def cursor (fw : Firmware) : Option CursorPlace × Option CursorGeometry × Option (List UInt32) :=
  (fw.cursorPlace, fw.cursorGeometry, fw.cursorImage)

theorem act_cursor (fw : Firmware) {tag : Tag} (p : List UInt32) (hi : tag ≠ .setCursorInfo)
    (hs : tag ≠ .setCursorState) : (fw.act tag p).1.cursor = fw.cursor := by
  cases tag with
  | getFirmwareVersion => rfl
  | getOverscan => rfl
  | setCursorInfo => exact absurd rfl hi
  | setCursorState => exact absurd rfl hs
  | allocateMemory =>
    simp only [act, allocate]
    split <;> rfl
  | lockMemory =>
    simp only [act, lock]
    split <;> rfl
  | unlockMemory =>
    simp only [act, unlock]
    split
    · split <;> rfl
    · rfl
  | releaseMemory =>
    simp only [act, release]
    split
    · split <;> rfl
    · rfl

/-- A message for any tag but the cursor's two leaves what is shown as it is. -/
theorem keeps_cursor {v : Option CursorPlace × Option CursorGeometry × Option (List UInt32)} {tag : Tag}
    (hi : tag ≠ .setCursorInfo) (hs : tag ≠ .setCursorState) :
    Link.Keeps (fun fw : Firmware => fw.cursor = v) tag :=
  keeps_of_act (fun fw p h => (act_cursor fw p hi hs).trans h) fun _ _ h => h

/-- Only the request for a picture changes the picture. -/
theorem act_cursorImage (fw : Firmware) {tag : Tag} (p : List UInt32) (hi : tag ≠ .setCursorInfo) :
    (fw.act tag p).1.cursorImage = fw.cursorImage := by
  by_cases hs : tag = .setCursorState
  · rw [hs]
    rfl
  · exact congrArg (fun c => c.2.2) (act_cursor fw p hi hs)

theorem keeps_cursorImage {v : Option (List UInt32)} {tag : Tag} (hi : tag ≠ .setCursorInfo) :
    Link.Keeps (fun fw : Firmware => fw.cursorImage = v) tag :=
  keeps_of_act (fun fw p h => (act_cursorImage fw p hi).trans h) fun _ _ h => h

/-- Only the four memory tags change what is allocated. -/
theorem act_blocks (fw : Firmware) {tag : Tag} (p : List UInt32)
    (h : tag = .getFirmwareVersion ∨ tag = .setCursorInfo ∨ tag = .setCursorState) :
    (fw.act tag p).1.blocks = fw.blocks := by
  rcases h with rfl | rfl | rfl
  · rfl
  · simp only [act, setCursorGeometry]
    split
    · split <;> rfl
    · rfl
  · rfl

theorem keeps_blocks {bs : List Block} {tag : Tag}
    (h : tag = .getFirmwareVersion ∨ tag = .setCursorInfo ∨ tag = .setCursorState) :
    Link.Keeps (fun fw : Firmware => fw.blocks = bs) tag :=
  keeps_of_act (fun fw p hbs => (act_blocks fw p h).trans hbs) fun _ _ hbs => hbs

/-! ## Windows -/

/-- A window is refused and nothing changes, or it is opened on a locked block, which has one mapping more. -/
theorem openWindow_cases (fw : Firmware) (bus : BusAddress) (len : UInt64) :
    (∃ e, (fw.openWindow bus len).result = .error e ∧ (fw.openWindow bus len).device = fw) ∨
    ∃ b, fw.blocks.find? (fun b => b.holds bus.val.toNat len.toNat) = some b ∧ b.isLocked = true ∧
      (fw.openWindow bus len).result = .ok ⟨fw.id, b.start, b.size.toNat, bus.val.toNat - b.start, bus, len⟩ ∧
      (fw.openWindow bus len).device =
        { fw with
          blocks := Blocks.modify fw.blocks b.handle fun b => { b with mappings := b.mappings + 1 } } := by
  rw [openWindow]
  by_cases hfails : fw.faults.failMaps = true
  · rw [if_pos hfails]
    exact Or.inl ⟨_, rfl, rfl⟩
  rw [if_neg hfails]
  by_cases hexhausts : fw.exhaustsAddresses bus len = true
  · rw [if_pos hexhausts]
    exact Or.inl ⟨_, rfl, rfl⟩
  rw [if_neg hexhausts]
  cases hfind : fw.blocks.find? fun b => b.holds bus.val.toNat len.toNat with
  | none => exact Or.inl ⟨_, rfl, rfl⟩
  | some b =>
    dsimp only
    by_cases hlocked : b.isLocked = true
    · rw [if_pos hlocked]
      exact Or.inr ⟨b, rfl, hlocked, rfl, rfl⟩
    · rw [if_neg hlocked]
      exact Or.inl ⟨_, rfl, rfl⟩

theorem openWindow_config (fw : Firmware) (bus : BusAddress) (len : UInt64) :
    (fw.openWindow bus len).device.config = fw.config := by
  rcases fw.openWindow_cases bus len with ⟨e, -, hafter⟩ | ⟨b, -, -, -, hafter⟩
  · rw [hafter]
  · rw [hafter]
    rfl

theorem of_windowBlock? {fw : Firmware} {b : Block} {w : Window} (h : fw.windowBlock? w = some b) :
    b ∈ fw.blocks ∧ w.owner = fw.id ∧ w.base = b.start := by
  rw [windowBlock?] at h
  split_ifs at h with howner
  have hbase := List.find?_some h
  exact ⟨List.mem_of_find?_eq_some h, howner, (eq_of_beq hbase).symm⟩

/-- Closing a window fails and nothing changes, or the block that it was opened on has one mapping less. -/
theorem closeWindow_cases (fw : Firmware) (w : Window) :
    (∃ e, (fw.closeWindow w).result = .error e ∧ (fw.closeWindow w).device = fw) ∨
    ∃ b, fw.windowBlock? w = some b ∧ b.mappings ≠ 0 ∧ (fw.closeWindow w).result = .ok () ∧
      (fw.closeWindow w).device =
        { fw with
          blocks := Blocks.modify fw.blocks b.handle fun b => { b with mappings := b.mappings - 1 } } := by
  rw [closeWindow]
  cases hfind : (fw.windowBlock? w).filter fun b => b.mappings != 0 with
  | none => exact Or.inl ⟨_, rfl, rfl⟩
  | some b =>
    obtain ⟨hblock, hmappings⟩ := Option.filter_eq_some_iff.1 hfind
    exact Or.inr ⟨b, hblock, bne_iff_ne.1 hmappings, rfl, rfl⟩

theorem closeWindow_config (fw : Firmware) (w : Window) : (fw.closeWindow w).device.config = fw.config := by
  rcases fw.closeWindow_cases w with ⟨e, -, hafter⟩ | ⟨b, -, -, -, hafter⟩
  · rw [hafter]
  · rw [hafter]
    rfl

theorem write_config (fw : Firmware) (w : Window) (offset : Nat) (bytes : List UInt8) :
    (fw.write w offset bytes).config = fw.config := by
  rw [write]
  split <;> rfl

theorem openWindow_id (fw : Firmware) (bus : BusAddress) (len : UInt64) : (fw.openWindow bus len).device.id = fw.id :=
  congrArg Prod.fst (openWindow_config fw bus len)

theorem closeWindow_id (fw : Firmware) (w : Window) : (fw.closeWindow w).device.id = fw.id :=
  congrArg Prod.fst (closeWindow_config fw w)

theorem write_id (fw : Firmware) (w : Window) (offset : Nat) (bytes : List UInt8) : (fw.write w offset bytes).id = fw.id :=
  congrArg Prod.fst (write_config fw w offset bytes)

/-- Closing a window of another device fails and changes nothing. -/
theorem closeWindow_of_owner_ne {fw : Firmware} {w : Window} (h : w.owner ≠ fw.id) :
    fw.closeWindow w = ⟨.error (.unmapFailed w.bus w.len (.other "region not mapped here")), fw, []⟩ := by
  rw [closeWindow, windowBlock?, if_neg h]
  rfl

theorem openWindow_cursor (fw : Firmware) (bus : BusAddress) (len : UInt64) :
    (fw.openWindow bus len).device.cursor = fw.cursor := by
  rcases fw.openWindow_cases bus len with ⟨e, -, hafter⟩ | ⟨b, -, -, -, hafter⟩
  · rw [hafter]
  · rw [hafter]
    rfl

theorem closeWindow_cursor (fw : Firmware) (w : Window) : (fw.closeWindow w).device.cursor = fw.cursor := by
  rcases fw.closeWindow_cases w with ⟨e, -, hafter⟩ | ⟨b, -, -, -, hafter⟩
  · rw [hafter]
  · rw [hafter]
    rfl

theorem write_cursor (fw : Firmware) (w : Window) (offset : Nat) (bytes : List UInt8) :
    (fw.write w offset bytes).cursor = fw.cursor := by
  rw [write]
  split <;> rfl

theorem write_isFaulty (fw : Firmware) (w : Window) (offset : Nat) (bytes : List UInt8) (tag : UInt32) :
    (fw.write w offset bytes).isFaulty tag = fw.isFaulty tag :=
  isFaulty_of_config (write_config fw w offset bytes) tag

end Firmware

namespace Link

open Firmware

variable {l l' : Link Firmware}

/-! ## Requests that succeed, and requests that fail -/

/-- A request of one word whose answer is read in some way: acted on, or failed and without effect. -/
theorem asked_firmware {α : Type} {read : Except MailboxError UInt32 → Except MailboxError α}
    (herror : ∀ e, read (.error e) = .error e) {tag : Tag} {p : List UInt32} (hp : tag.requestWords ≤ p.length)
    (hfit : p.length ≤ 26) {r : Except MailboxError α × Link Firmware} (hresult : r.1 = read (l.askWord tag p).1)
    (hdevice : r.2.device = (l.askWord tag p).2.device) :
    ∃ m, if l.device.takes tag p then
        r.1 = read (.ok ((l.device.act tag p).2.headD 0)) ∧ r.2.device = (l.device.act tag p).1.logRequest m
      else (∃ e, r.1 = .error e) ∧ r.2.device = l.device.logRequest m := by
  obtain ⟨m, -, hasked⟩ := askWord_firmware l tag p hp hfit
  refine ⟨m, ?_⟩
  rw [hresult, hdevice]
  split_ifs at hasked ⊢
  · rw [hasked.1, hasked.2]
    exact ⟨rfl, rfl⟩
  · obtain ⟨⟨e, he⟩, hafter⟩ := hasked
    rw [he, hafter]
    exact ⟨⟨e, herror e⟩, rfl⟩

theorem allocate_firmware (l : Link Firmware) (size alignment : UInt32) (flags : AllocFlags) :
    ∃ m, if l.device.takes .allocateMemory [size, alignment, flags.bits] then
        (l.allocate size alignment flags).1 = handleOf size (.ok (l.device.allocate size alignment flags).2) ∧
          (l.allocate size alignment flags).2.device = (l.device.allocate size alignment flags).1.logRequest m
      else (∃ e, (l.allocate size alignment flags).1 = .error e) ∧
        (l.allocate size alignment flags).2.device = l.device.logRequest m :=
  asked_firmware (fun _ => rfl) (le_refl 3) (by simp) (allocate_eq l size alignment flags).1
    (allocate_eq l size alignment flags).2.1

theorem lock_firmware (l : Link Firmware) (h : MemoryHandle) :
    ∃ m, if l.device.takes .lockMemory [h.val] then
        (l.lock h).1 = busOf h (.ok (l.device.lock h.val).2) ∧
          (l.lock h).2.device = (l.device.lock h.val).1.logRequest m
      else (∃ e, (l.lock h).1 = .error e) ∧ (l.lock h).2.device = l.device.logRequest m :=
  asked_firmware (fun _ => rfl) (le_refl 1) (by simp) (lock_eq l h).1 (lock_eq l h).2.1

theorem unlock_firmware (l : Link Firmware) (h : MemoryHandle) :
    ∃ m, if l.device.takes .unlockMemory [h.val] then
        (l.unlock h).1 = doneOf (.unlockFailed h) (.ok (l.device.unlock h.val).2) ∧
          (l.unlock h).2.device = (l.device.unlock h.val).1.logRequest m
      else (∃ e, (l.unlock h).1 = .error e) ∧ (l.unlock h).2.device = l.device.logRequest m :=
  asked_firmware (fun _ => rfl) (le_refl 1) (by simp) (unlock_eq l h).1 (unlock_eq l h).2.1

theorem free_firmware (l : Link Firmware) (h : MemoryHandle) :
    ∃ m, if l.device.takes .releaseMemory [h.val] then
        (l.free h).1 = doneOf (.freeFailed h) (.ok (l.device.release h.val).2) ∧
          (l.free h).2.device = (l.device.release h.val).1.logRequest m
      else (∃ e, (l.free h).1 = .error e) ∧ (l.free h).2.device = l.device.logRequest m :=
  asked_firmware (fun _ => rfl) (le_refl 1) (by simp) (free_eq l h).1 (free_eq l h).2.1

theorem allocate_ok {size alignment : UInt32} {flags : AllocFlags} {h : MemoryHandle}
    (hok : l.allocate size alignment flags = (.ok h, l')) :
    ∃ bus m, l.device.place? size (max alignment 1) = some bus ∧ h.val = l.device.nextHandle ∧ h.val ≠ 0 ∧
      l'.device =
        { l.device with
          blocks := Blocks.insert (l.device.newBlock bus size flags) l.device.blocks
          nextHandle := handleAfter l.device.nextHandle }.logRequest m := by
  obtain ⟨m, hallocated⟩ := allocate_firmware l size alignment flags
  rw [hok] at hallocated
  split_ifs at hallocated
  swap
  · obtain ⟨⟨e, he⟩, -⟩ := hallocated
    cases he
  obtain ⟨hhandle, hafter⟩ := hallocated
  obtain ⟨hvalue, hzero⟩ := handleOf_eq_ok hhandle.symm
  have hvalue := Except.ok.inj hvalue
  cases hplace : l.device.place? size (max alignment 1) with
  | none =>
    simp only [Firmware.allocate, hplace] at hvalue
    exact absurd hvalue.symm hzero
  | some bus =>
    simp only [Firmware.allocate, hplace] at hvalue hafter
    exact ⟨bus, m, rfl, hvalue.symm, hzero, by rw [hafter]; rfl⟩

/-- An allocation that fails leaves the blocks as they are, unless zero were a handle. -/
theorem allocate_error {size alignment : UInt32} {flags : AllocFlags} {e : MailboxError}
    (hnext : l.device.nextHandle ≠ 0) (hfailed : l.allocate size alignment flags = (.error e, l')) :
    l'.device.blocks = l.device.blocks := by
  obtain ⟨m, hallocated⟩ := allocate_firmware l size alignment flags
  rw [hfailed] at hallocated
  split_ifs at hallocated
  swap
  · rw [hallocated.2, logRequest_blocks]
  obtain ⟨hhandle, hafter⟩ := hallocated
  cases hplace : l.device.place? size (max alignment 1) with
  | none =>
    simp only [Firmware.allocate, hplace] at hafter
    rw [hafter, logRequest_blocks]
  | some bus =>
    simp only [Firmware.allocate, hplace] at hhandle
    rw [handleOf, if_neg hnext] at hhandle
    cases hhandle

theorem lock_ok {h : MemoryHandle} {bus : BusAddress} (hok : l.lock h = (.ok bus, l')) :
    ∃ b m, Blocks.find? l.device.blocks h.val = some b ∧ bus.val = b.bus ∧ b.locks ≠ 0xffffffff ∧
      l'.device =
        { l.device with
          blocks := Blocks.modify l.device.blocks h.val fun b => { b with locks := b.locks + 1 } }.logRequest m := by
  obtain ⟨m, hlocked⟩ := lock_firmware l h
  rw [hok] at hlocked
  split_ifs at hlocked with htakes
  swap
  · obtain ⟨⟨e, he⟩, -⟩ := hlocked
    cases he
  obtain ⟨hbus, hafter⟩ := hlocked
  obtain ⟨hvalue, hzero⟩ := busOf_eq_ok hbus.symm
  have hvalue := Except.ok.inj hvalue
  cases hfind : Blocks.find? l.device.blocks h.val with
  | none =>
    simp only [Firmware.lock, hfind] at hvalue
    exact absurd hvalue.symm hzero
  | some b =>
    simp only [Firmware.lock, hfind] at hvalue hafter
    exact ⟨b, m, rfl, hvalue.symm, locks_ne_of_exhaustsLocks hfind (takes_eq_true_iff.1 htakes).2, hafter⟩

/-- A lock that fails leaves the blocks as they are, unless one had the bus address zero. -/
theorem lock_error {h : MemoryHandle} {e : MailboxError} (hbus : ∀ b ∈ l.device.blocks, b.bus ≠ 0)
    (hfailed : l.lock h = (.error e, l')) : l'.device.blocks = l.device.blocks := by
  obtain ⟨m, hlocked⟩ := lock_firmware l h
  rw [hfailed] at hlocked
  split_ifs at hlocked
  swap
  · rw [hlocked.2, logRequest_blocks]
  obtain ⟨hresult, hafter⟩ := hlocked
  cases hfind : Blocks.find? l.device.blocks h.val with
  | none =>
    simp only [Firmware.lock, hfind] at hafter
    rw [hafter, logRequest_blocks]
  | some b =>
    simp only [Firmware.lock, hfind] at hresult
    rw [busOf, if_neg (hbus b (List.mem_of_find?_eq_some hfind))] at hresult
    cases hresult

theorem openWindow_error {bus : BusAddress} {len : UInt64} {e : MailboxError}
    (hfailed : l.openWindow bus len = (.error e, l')) : l'.device = l.device := by
  have hresult : (l.device.openWindow bus len).result = .error e := congrArg Prod.fst hfailed
  have hdevice : l'.device = (l.device.openWindow bus len).device := (congrArg (fun r => r.2.device) hfailed).symm
  rw [hdevice]
  rcases l.device.openWindow_cases bus len with ⟨_, -, hafter⟩ | ⟨b, -, -, hw, -⟩
  · exact hafter
  · cases hresult.symm.trans hw

theorem openWindow_ok {bus : BusAddress} {len : UInt64} {w : Window} (hok : l.openWindow bus len = (.ok w, l')) :
    ∃ b, l.device.blocks.find? (fun b => b.holds bus.val.toNat len.toNat) = some b ∧ b.isLocked = true ∧
      w = ⟨l.device.id, b.start, b.size.toNat, bus.val.toNat - b.start, bus, len⟩ ∧
      l'.device =
        { l.device with
          blocks := Blocks.modify l.device.blocks b.handle fun b => { b with mappings := b.mappings + 1 } } := by
  have hresult : (l.device.openWindow bus len).result = .ok w := congrArg Prod.fst hok
  have hdevice : l'.device = (l.device.openWindow bus len).device := (congrArg (fun r => r.2.device) hok).symm
  rw [hdevice]
  rcases l.device.openWindow_cases bus len with ⟨e, he, -⟩ | ⟨b, hfind, hlocked, hw, hafter⟩
  · cases hresult.symm.trans he
  · exact ⟨b, hfind, hlocked, Except.ok.inj (hresult.symm.trans hw), hafter⟩

/-- A request for a picture that is answered with success was acted on, and captured the picture from a block. -/
theorem askWord_picture_ok {g : CursorGeometry}
    (hok : (l.askWord .setCursorInfo [g.width, g.height, g.format, g.bus.val, g.hotspotX, g.hotspotY]).1 = .ok statusOk) :
    ∃ b, l.device.imageBlock? g = some b ∧
      (l.askWord .setCursorInfo [g.width, g.height, g.format, g.bus.val, g.hotspotX, g.hotspotY]).2.device.cursorImage =
        some (imageOn b g) := by
  obtain ⟨m, -, hasked⟩ := askWord_firmware l .setCursorInfo
    [g.width, g.height, g.format, g.bus.val, g.hotspotX, g.hotspotY] (le_refl 6) (by simp)
  split at hasked
  swap
  · obtain ⟨⟨e, he⟩, -⟩ := hasked
    cases he.symm.trans hok
  obtain ⟨hword, hafter⟩ := hasked
  have hact : l.device.act .setCursorInfo [g.width, g.height, g.format, g.bus.val, g.hotspotX, g.hotspotY] =
      ((l.device.setCursorGeometry g).1, [(l.device.setCursorGeometry g).2]) := rfl
  rw [hact, setCursorGeometry_eq] at hword hafter
  have hstatus := Except.ok.inj (hword.symm.trans hok)
  cases hfound : l.device.imageBlock? g with
  | none =>
    rw [hfound] at hstatus
    exact absurd (show statusError = statusOk from hstatus) (by decide)
  | some b =>
    rw [hfound] at hafter
    exact ⟨b, rfl, by rw [hafter]; rfl⟩

/-- The first block is the only one. -/
theorem allocate_ok_of_empty {size alignment : UInt32} {flags : AllocFlags} {h : MemoryHandle}
    (hempty : l.device.blocks = []) (hok : l.allocate size alignment flags = (.ok h, l')) :
    ∃ place, h.val = (l.device.newBlock place size flags).handle ∧
      l'.device.blocks = [l.device.newBlock place size flags] := by
  obtain ⟨place, m, -, hhandle, -, hafter⟩ := allocate_ok hok
  refine ⟨place, hhandle, ?_⟩
  rw [hafter, logRequest_blocks, hempty]
  rfl

theorem lock_ok_single {h : MemoryHandle} {b : Block} {bus : BusAddress} (hblocks : l.device.blocks = [b])
    (hhandle : h.val = b.handle) (hok : l.lock h = (.ok bus, l')) :
    bus.val = b.bus ∧ l'.device.blocks = [{ b with locks := b.locks + 1 }] := by
  obtain ⟨c, m, hfind, hbus, -, hafter⟩ := lock_ok hok
  rw [hblocks] at hfind
  obtain rfl := List.mem_singleton.1 (List.mem_of_find?_eq_some hfind)
  refine ⟨hbus, ?_⟩
  rw [hafter, logRequest_blocks, hblocks]
  simp [Blocks.modify, hhandle]

/-- What an acquisition leaves on a firmware that nothing was allocated on: one block, locked and mapped once. -/
theorem acquire_ok_of_empty {size alignment : UInt32} {flags : AllocFlags} {block : GpuBlock}
    (hempty : l.device.blocks = []) (hok : l.acquire size alignment flags = (.ok block, l')) :
    ∃ b, l'.device.blocks = [b] ∧ block.handle.val = b.handle ∧ block.bus.val = b.bus ∧
      block.window = ⟨l'.device.id, b.start, b.size.toNat, 0, block.bus, b.size.toUInt64⟩ ∧
      b.size = size ∧ b.locks = 1 ∧ b.mappings = 1 := by
  obtain ⟨l₁, l₂, l₃, event, hallocated, hlocked, hopened, -, rfl⟩ := acquire_ok hok
  obtain ⟨place, hhandle, hblocks₁⟩ := allocate_ok_of_empty hempty hallocated
  obtain ⟨hbus, hblocks₂⟩ := lock_ok_single hblocks₁ hhandle hlocked
  obtain ⟨b₃, hfind₃, -, hw, hd₃⟩ := openWindow_ok hopened
  rw [hblocks₂] at hfind₃ hd₃
  obtain rfl := List.mem_singleton.1 (List.mem_of_find?_eq_some hfind₃)
  have hblocks₃ : l₃.device.blocks = [{ l.device.newBlock place size flags with locks := 1, mappings := 1 }] := by
    rw [hd₃]
    simp [Blocks.modify, newBlock]
  refine ⟨_, hblocks₃, hhandle, hbus, ?_, rfl, rfl, rfl⟩
  rw [note_device, hd₃]
  rw [hw, hbus]
  simp [newBlock, Block.start]

end Link
end MailboxCursor
