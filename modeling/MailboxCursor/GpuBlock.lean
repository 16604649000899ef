/-
GPU memory, in three steps: allocate, lock, map; and back in the other order.

The single steps are `Link.allocate`, `Link.lock`, `Link.unlock` and `Link.free`. `Link.acquire` does the way up as one,
and undoes what it has done when a step fails; `Link.release` does the way down and tries every step even after a failure.
-/
import MailboxCursor.AllocFlags
import MailboxCursor.Link

namespace MailboxCursor

/-- alignment of blocks that are to be mapped -/
def pageAlignment : UInt32 := 4096

/-- an allocation that is locked and mapped -/
structure GpuBlock where
  handle : MemoryHandle
  bus : BusAddress
  window : Window
  size : UInt32
deriving DecidableEq, Repr

namespace Link

variable {δ : Type} [Device δ]

/-! ## Single steps -/

def allocate (l : Link δ) (size alignment : UInt32) (flags : AllocFlags) : Except MailboxError MemoryHandle × Link δ :=
  match l.askWord .allocateMemory [size, alignment, flags.bits] with
  | (.error e, l) => (.error e, l)
  | (.ok handle, l) =>
    if handle = 0 then
      (.error (.allocationRefused size),
        l.note (.warn
          s!"firmware refused allocation of {size} bytes (align {alignment}, flags {flags.text})"))
    else (.ok ⟨handle⟩, l)

/-- pin an allocation; its bus address holds until it is unlocked -/
def lock (l : Link δ) (handle : MemoryHandle) : Except MailboxError BusAddress × Link δ :=
  match l.askWord .lockMemory [handle.val] with
  | (.error e, l) => (.error e, l)
  | (.ok bus, l) =>
    if bus = 0 then (.error (.lockFailed handle), l.note (.warn s!"firmware failed to lock handle {handle.text}"))
    else (.ok ⟨bus⟩, l)

def unlock (l : Link δ) (handle : MemoryHandle) : Except MailboxError Unit × Link δ :=
  match l.askWord .unlockMemory [handle.val] with
  | (.error e, l) => (.error e, l)
  | (.ok status, l) =>
    if status = 0 then (.ok (), l)
    else
      (.error (.unlockFailed handle status),
        l.note (.warn s!"firmware failed to unlock handle {handle.text}: status {Hex.short status}"))

def free (l : Link δ) (handle : MemoryHandle) : Except MailboxError Unit × Link δ :=
  match l.askWord .releaseMemory [handle.val] with
  | (.error e, l) => (.error e, l)
  | (.ok status, l) =>
    if status = 0 then (.ok (), l)
    else
      (.error (.freeFailed handle status),
        l.note (.warn s!"firmware failed to release handle {handle.text}: status {Hex.short status}"))

/-! ## Both ways as a whole -/

/-- a warning if a step of an unwinding fails; the caller reports the first error -/
def noteUnwinding (l : Link δ) (step : String) (handle : MemoryHandle) : Except MailboxError Unit → Link δ
  | .ok () => l
  | .error e => l.note (.warn s!"unwinding allocation: {step} of {handle.text} failed: {e.text}")

/-- give back an allocation that was not locked in the end -/
def unwindAllocated (l : Link δ) (handle : MemoryHandle) : Link δ :=
  let (freed, l) := l.free handle
  l.noteUnwinding "release" handle freed

/-- give back an allocation that was locked but not mapped in the end -/
def unwindLocked (l : Link δ) (handle : MemoryHandle) : Link δ :=
  let (unlocked, l) := l.unlock handle
  (l.noteUnwinding "unlock" handle unlocked).unwindAllocated handle

/-- a block of `size` bytes, allocated, locked and mapped; if a step fails, the earlier ones are undone -/
def acquire (l : Link δ) (size alignment : UInt32) (flags : AllocFlags) : Except MailboxError GpuBlock × Link δ :=
  match l.allocate size alignment flags with
  | (.error e, l) => (.error e, l)
  | (.ok handle, l) =>
    match l.lock handle with
    | (.error e, l) => (.error e, l.unwindAllocated handle)
    | (.ok bus, l) =>
      match l.openWindow bus size.toUInt64 with
      | (.error e, l) => (.error e, l.unwindLocked handle)
      | (.ok window, l) =>
        (.ok ⟨handle, bus, window, size⟩,
          l.note (.debug s!"allocated {size} bytes: handle {handle.text}, bus {bus.text}"))

/-- the first failure of three steps, if any -/
def firstFailure {ε : Type} (a b c : Except ε Unit) : Except ε Unit :=
  match a, b with
  | .error e, _ => .error e
  | .ok (), .error e => .error e
  | .ok (), .ok () => c

/-- unmap, unlock and free a block; every step is tried, the first failure is reported -/
def release (l : Link δ) (b : GpuBlock) : Except MailboxError Unit × Link δ :=
  let (unmapped, l) := l.closeWindow b.window
  let (unlocked, l) := l.unlock b.handle
  let (freed, l) := l.free b.handle
  (firstFailure unmapped unlocked freed,
    l.note (.debug s!"released {b.size} bytes: handle {b.handle.text}, bus {b.bus.text}"))

end Link
end MailboxCursor
