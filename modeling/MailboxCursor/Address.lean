/-
The three numbers that name things in GPU memory: where it lies for the firmware, which allocation it is, and how old the
firmware is that answers.
-/
import MailboxCursor.Text.Hex

namespace MailboxCursor

/-- address of locked memory as the firmware sees it -/
structure BusAddress where
  val : UInt32
deriving DecidableEq, Repr

/-- name of a relocatable allocation; zero names none -/
structure MemoryHandle where
  val : UInt32
deriving DecidableEq, Repr

/-- build time of the firmware, in seconds; a larger one is newer -/
structure FirmwareVersion where
  val : UInt32
deriving DecidableEq, Repr

namespace BusAddress

/-- the same memory as the processor addresses it: the top two bits only choose a cache alias -/
def physical (a : BusAddress) : UInt32 :=
  a.val &&& 0x3fffffff

def text (a : BusAddress) : String :=
  Hex.full a.val

/-- the form that shows the type -/
def describe (a : BusAddress) : String :=
  s!"BusAddress({a.val})"

end BusAddress

namespace MemoryHandle

def text (h : MemoryHandle) : String :=
  Hex.short h.val

/-- the form that shows the type -/
def describe (h : MemoryHandle) : String :=
  s!"MemoryHandle({h.val})"

end MemoryHandle

namespace FirmwareVersion

def text (v : FirmwareVersion) : String :=
  toString v.val.toNat

/-- the form that shows the type -/
def describe (v : FirmwareVersion) : String :=
  s!"FirmwareVersion({v.val})"

end FirmwareVersion
end MailboxCursor
