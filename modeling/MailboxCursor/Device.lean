/-
Devices: anything that takes property messages and maps bus memory.

`Device δ` is a transition system with states `δ`. It answers a message by rewriting the buffer as it likes, or fails;
it opens and closes windows onto its memory; and it holds the bytes that a window shows. The emulated firmware, a scripted
device in front of another, and a device node with a memory file are three instances; a statement about every instance is
a statement about every behaviour that firmware can show.
-/
import MailboxCursor.Event
import MailboxCursor.MailboxError
import MailboxCursor.Message.Response

namespace MailboxCursor

/-- a range of bus memory opened to the processor; it holds no bytes itself, the device does -/
structure Window where
  /-- the device that opened it -/
  owner : Nat
  /-- where the mapping that contains the window starts, and how many bytes it has -/
  base : Nat
  span : Nat
  /-- where the window starts inside the mapping -/
  offset : Nat
  bus : BusAddress
  len : UInt64
deriving DecidableEq, Repr

namespace Window

def isEmpty (w : Window) : Bool :=
  w.len == 0

/-- how many of `count` bytes written at `offset` fall inside the window -/
def room (w : Window) (offset count : Nat) : Nat :=
  min count (w.len.toNat - offset)

end Window

/-- what one message brings: the outcome, the buffer afterwards, the device afterwards, and what it reported -/
structure Exchange (δ : Type) where
  result : Except MailboxError Unit
  words : Buffer
  device : δ
  events : List Event

/-- what opening or closing a window brings -/
structure Access (δ α : Type) where
  result : Except MailboxError α
  device : δ
  events : List Event

class Device (δ : Type) where
  exchange : δ → Message → Exchange δ
  /-- a window of so many bytes at a bus address -/
  openWindow : δ → BusAddress → UInt64 → Access δ Window
  closeWindow : δ → Window → Access δ Unit
  /-- the bytes that a window shows -/
  read : δ → Window → List UInt8
  /-- bytes written into a window, from an offset on -/
  write : δ → Window → Nat → List UInt8 → δ

end MailboxCursor
