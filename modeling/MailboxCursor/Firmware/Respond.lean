/-
What the emulated firmware does with a message.

`exchange` logs the request, applies the faults that are switched on, checks that the message is whole and long enough for
its tag, and only then lets `act` act on it.
-/
import MailboxCursor.Firmware.FirstFit
import MailboxCursor.AllocFlags
import MailboxCursor.Firmware.State

namespace MailboxCursor.Firmware

def statusOk : UInt32 := 0
def statusError : UInt32 := 1

/-! ## Memory -/

def isPowerOfTwo (w : UInt32) : Bool :=
  1 <<< Nat.log2 w.toNat == w.toNat

/-- the handle after `h`; zero is left out -/
def handleAfter (h : UInt32) : UInt32 :=
  if h + 1 = 0 then 1 else h + 1

/-- the bus address for a new block, if there is one -/
def place? (fw : Firmware) (size alignment : UInt32) : Option UInt32 :=
  if fw.faults.refuseAllocations || size == 0 || !isPowerOfTwo alignment then none
  else
    (FirstFit.firstFit (fw.blocks.map Block.span) size.toNat (max alignment.toNat busGranule)).map UInt32.ofNat

/-- a new block; the answer is its handle, or zero -/
def allocate (fw : Firmware) (size alignment : UInt32) (flags : AllocFlags) : Firmware × UInt32 :=
  match fw.place? size (max alignment 1) with
  | none => (fw, 0)
  | some bus =>
    let fill := if flags.contains .zero then 0 else 0xff
    let block : Block := ⟨fw.nextHandle, bus, size, 0, 0, .fresh fill⟩
    ({ fw with blocks := Blocks.insert block fw.blocks, nextHandle := handleAfter fw.nextHandle }, fw.nextHandle)

/-- one lock more; the answer is the block's bus address, or zero -/
def lock (fw : Firmware) (handle : UInt32) : Firmware × UInt32 :=
  match Blocks.find? fw.blocks handle with
  | some b =>
    ({ fw with blocks := Blocks.modify fw.blocks handle fun b => { b with locks := b.locks + 1 } }, b.bus)
  | none => (fw, 0)

/-- one lock less -/
def unlock (fw : Firmware) (handle : UInt32) : Firmware × UInt32 :=
  match Blocks.find? fw.blocks handle with
  | some b =>
    if b.isLocked then
      ({ fw with blocks := Blocks.modify fw.blocks handle fun b => { b with locks := b.locks - 1 } }, statusOk)
    else (fw, statusError)
  | none => (fw, statusError)

/-- the block goes, unless it is locked or mapped -/
def release (fw : Firmware) (handle : UInt32) : Firmware × UInt32 :=
  match Blocks.find? fw.blocks handle with
  | some b =>
    if b.isLocked || b.mappings != 0 then (fw, statusError)
    else ({ fw with blocks := Blocks.erase fw.blocks handle }, statusOk)
  | none => (fw, statusError)

/-! ## Cursor -/

/-- a new image, if it can be shown and lies in locked memory; its pixels are read at once -/
def setCursorGeometry (fw : Firmware) (g : CursorGeometry) : Firmware × UInt32 :=
  if g.isShowable then
    match fw.blocks.find? fun b => b.isLocked && b.holds g.bus.val.toNat g.imageBytes with
    | some b =>
      let bytes := b.memory.read (g.bus.val.toNat - b.start) g.imageBytes
      ({ fw with cursorGeometry := some g, cursorImage := some (wordsOfBytes bytes) }, statusOk)
    | none => (fw, statusError)
  else (fw, statusError)

def setCursorPlace (fw : Firmware) (p : CursorPlace) : Firmware × UInt32 :=
  ({ fw with cursorPlace := some p }, statusOk)

/-! ## One message -/

/-- what a whole request does, and the words of its answer -/
def act (fw : Firmware) (tag : Tag) (payload : List UInt32) : Firmware × List UInt32 :=
  let arg := fun i => payload.getD i 0
  let one := fun (r : Firmware × UInt32) => (r.1, [r.2])
  match tag with
  | .getFirmwareVersion => (fw, [fw.version.val])
  | .getOverscan => (fw, [fw.overscan.top, fw.overscan.bottom, fw.overscan.left, fw.overscan.right])
  | .allocateMemory => one (fw.allocate (arg 0) (arg 1) ⟨arg 2⟩)
  | .lockMemory => one (fw.lock (arg 0))
  | .unlockMemory => one (fw.unlock (arg 0))
  | .releaseMemory => one (fw.release (arg 0))
  | .setCursorInfo => one (fw.setCursorGeometry ⟨arg 0, arg 1, arg 2, ⟨arg 3⟩, arg 4, arg 5⟩)
  | .setCursorState => one (fw.setCursorPlace ⟨arg 0 != 0, arg 1, arg 2⟩)

/-- the request would lock a block more often than its count can hold -/
def exhaustsLocks (fw : Firmware) (tag : Tag) (payload : List UInt32) : Bool :=
  tag == .lockMemory && (Blocks.find? fw.blocks (payload.getD 0 0)).any fun b => b.locks == 0xffffffff

/-- the whole of one exchange -/
def exchange (fw : Firmware) (m : Message) : Exchange Firmware :=
  let fw := fw.logRequest m
  if fw.faults.fails m.tag then
    ⟨.error (.exchangeFailed m.tag (.ioctl (.other "injected mailbox failure"))), m.words, fw,
      [.debug s!"emulated firmware: failing tag {Hex.full m.tag}"]⟩
  else if fw.faults.withholds m.tag then
    ⟨.ok (), m.words, fw, [.debug s!"emulated firmware: withholding response to tag {Hex.full m.tag}"]⟩
  else if m.sizeBytes.toNat ≠ m.len * 4 then ⟨.ok (), (m.withCode Message.parseFailure).words, fw, []⟩
  else
    match Tag.ofWord? m.tag with
    | none => ⟨.ok (), (m.answered []).words, fw, []⟩
    | some tag =>
      if m.requestPayload.length < tag.requestWords then
        ⟨.ok (), (m.withCode Message.parseFailure).words, fw, []⟩
      else if fw.exhaustsLocks tag m.requestPayload then ⟨.error .countOutOfRange, m.words, fw, []⟩
      else
        let (fw, values) := fw.act tag m.requestPayload
        ⟨.ok (), (m.answered values).words, fw, []⟩

end MailboxCursor.Firmware
