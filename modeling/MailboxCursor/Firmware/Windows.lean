/-
Windows onto the emulated firmware's memory, and the emulated firmware as a device.

A window can be opened only onto a locked block, and a block with an open window cannot be released; so the block that a
window was opened on is there for as long as the window is.
-/
import MailboxCursor.Firmware.Respond

namespace MailboxCursor.Firmware

def refuseMap (fw : Firmware) (bus : BusAddress) (len : UInt64) (reason : String) : Access Firmware Window :=
  ⟨.error (.mapFailed bus len (.other reason)), fw, []⟩

/-- the end of the window at `bus` leaves the range of a 64-bit word, and some block would have to be compared with it -/
def exhaustsAddresses (fw : Firmware) (bus : BusAddress) (len : UInt64) : Bool :=
  UInt64.size ≤ bus.val.toNat + len.toNat && fw.blocks.any fun b => b.start ≤ bus.val.toNat

/-- a window of `len` bytes at `bus`, onto the first block that holds all of it -/
def openWindow (fw : Firmware) (bus : BusAddress) (len : UInt64) : Access Firmware Window :=
  if fw.faults.failMaps then fw.refuseMap bus len "injected map failure"
  else if fw.exhaustsAddresses bus len then ⟨.error .countOutOfRange, fw, []⟩
  else
    match fw.blocks.find? fun b => b.holds bus.val.toNat len.toNat with
    | none => fw.refuseMap bus len "no allocation at bus address"
    | some b =>
      if b.isLocked then
        ⟨.ok ⟨fw.id, b.start, b.size.toNat, bus.val.toNat - b.start, bus, len⟩,
          { fw with blocks := Blocks.modify fw.blocks b.handle fun b => { b with mappings := b.mappings + 1 } }, []⟩
      else fw.refuseMap bus len "allocation is not locked"

/-- the block that a window was opened on -/
def windowBlock? (fw : Firmware) (w : Window) : Option Block :=
  if w.owner = fw.id then fw.blocks.find? fun b => b.start == w.base else none

def closeWindow (fw : Firmware) (w : Window) : Access Firmware Unit :=
  match (fw.windowBlock? w).filter fun b => b.mappings != 0 with
  | some b =>
    ⟨.ok (),
      { fw with blocks := Blocks.modify fw.blocks b.handle fun b => { b with mappings := b.mappings - 1 } }, []⟩
  | none => ⟨.error (.unmapFailed w.bus w.len (.other "region not mapped here")), fw, []⟩

/-- the bytes that a window shows -/
def read (fw : Firmware) (w : Window) : List UInt8 :=
  match fw.windowBlock? w with
  | some b => b.memory.read w.offset w.len.toNat
  | none => []

/-- the same as runs -/
def readRuns (fw : Firmware) (w : Window) : List (Nat × UInt8) :=
  match fw.windowBlock? w with
  | some b => b.memory.runs w.offset w.len.toNat
  | none => []

/-- bytes written at an offset of a window -/
def write (fw : Firmware) (w : Window) (offset : Nat) (bytes : List UInt8) : Firmware :=
  match fw.windowBlock? w with
  | some b =>
    { fw with
      blocks := Blocks.modify fw.blocks b.handle fun b =>
        { b with memory := b.memory.write (w.offset + offset) bytes } }
  | none => fw

instance : Device Firmware where
  exchange := exchange
  openWindow := openWindow
  closeWindow := closeWindow
  read := read
  write := write

end MailboxCursor.Firmware
