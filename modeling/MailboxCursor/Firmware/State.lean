/-
The emulated firmware's state: what it reports, the live allocations, the faults that are switched on, the requests it
has seen, and the cursor as it was last set.
-/
import MailboxCursor.Firmware.Block
import MailboxCursor.Link

namespace MailboxCursor

/-- where the cursor was last put, and whether it was shown -/
structure CursorPlace where
  enabled : Bool
  x : UInt32
  y : UInt32
deriving DecidableEq, Repr

/-- the cursor image that was last accepted -/
structure CursorGeometry where
  width : UInt32
  height : UInt32
  format : UInt32
  bus : BusAddress
  hotspotX : UInt32
  hotspotY : UInt32
deriving DecidableEq, Repr

namespace CursorGeometry

/-- the largest cursor, in either direction -/
def maxSize : UInt32 := 64

/-- neither empty nor too large, with the hotspot inside -/
def isShowable (g : CursorGeometry) : Bool :=
  g.width != 0 && g.height != 0 && g.width ≤ maxSize && g.height ≤ maxSize
    && g.hotspotX < g.width && g.hotspotY < g.height

/-- bytes of the image -/
def imageBytes (g : CursorGeometry) : Nat :=
  (g.width * g.height).toNat * 4

end CursorGeometry

/-- faults that are switched on -/
structure Faults where
  /-- tags whose transactions fail -/
  failing : List Tag
  /-- tags whose requests come back untouched -/
  withheld : List Tag
  refuseAllocations : Bool
  failMaps : Bool
deriving DecidableEq, Repr

namespace Faults

def none : Faults :=
  ⟨[], [], false, false⟩

def fails (f : Faults) (tag : UInt32) : Bool :=
  f.failing.any fun t => t.id == tag

def withholds (f : Faults) (tag : UInt32) : Bool :=
  f.withheld.any fun t => t.id == tag

end Faults

/-- what is held against the firmware -/
structure Outstanding where
  handles : Nat
  locked : Nat
  mappings : Nat
deriving DecidableEq, Repr

def Outstanding.isClean (o : Outstanding) : Bool :=
  o == ⟨0, 0, 0⟩

structure Firmware where
  /-- which device this is; its windows bear the same number -/
  id : Nat
  version : FirmwareVersion
  overscan : Overscan
  /-- live allocations in the order of their handles -/
  blocks : List Block
  nextHandle : UInt32
  faults : Faults
  /-- requests as they came in, oldest first -/
  requests : Array Message
  cursorPlace : Option CursorPlace
  cursorGeometry : Option CursorGeometry
  /-- pixels read from memory when the geometry was accepted -/
  cursorImage : Option (List UInt32)

namespace Firmware

/-- recent enough for the cursor -/
def defaultVersion : FirmwareVersion := ⟨1418143306⟩

def fresh (id : Nat) : Firmware :=
  { id := id
    version := defaultVersion
    overscan := ⟨0, 0, 0, 0⟩
    blocks := []
    nextHandle := 1
    faults := .none
    requests := #[]
    cursorPlace := none
    cursorGeometry := none
    cursorImage := none }

def outstanding (fw : Firmware) : Outstanding where
  handles := fw.blocks.length
  locked := (fw.blocks.filter Block.isLocked).length
  mappings := fw.blocks.foldl (fun n b => n + b.mappings) 0

/-! ## Requests seen -/

/-- the older half of the request log is dropped when it holds this many -/
def requestLogCapacity : Nat := 4096

def logRequest (fw : Firmware) (m : Message) : Firmware :=
  let kept :=
    if requestLogCapacity ≤ fw.requests.size then fw.requests.extract (requestLogCapacity / 2) fw.requests.size
    else fw.requests
  { fw with requests := kept.push m }

def requestsFor (fw : Firmware) (tag : Tag) : List Message :=
  fw.requests.toList.filter fun m => m.tag == tag.id

/-! ## Settings -/

/-- what can be changed about the firmware from outside -/
inductive Setting where
  | version (v : FirmwareVersion)
  | overscan (o : Overscan)
  | fail (tag : Tag)
  | withhold (tag : Tag)
  | refuseAllocations (on : Bool)
  | failMaps (on : Bool)
  | clearFaults
  | clearRequests
deriving DecidableEq, Repr

def set (fw : Firmware) : Setting → Firmware
  | .version v => { fw with version := v }
  | .overscan o => { fw with overscan := o }
  | .fail tag => { fw with faults := { fw.faults with failing := tag :: fw.faults.failing } }
  | .withhold tag => { fw with faults := { fw.faults with withheld := tag :: fw.faults.withheld } }
  | .refuseAllocations on => { fw with faults := { fw.faults with refuseAllocations := on } }
  | .failMaps on => { fw with faults := { fw.faults with failMaps := on } }
  | .clearFaults => { fw with faults := .none }
  | .clearRequests => { fw with requests := #[] }

/-- events of switching the device off: blocks that are still mapped are left behind -/
def shutdown (fw : Firmware) : List Event :=
  (fw.blocks.filter fun b => b.mappings != 0).map fun b =>
    .warn s!"emulated firmware dropped with handle {b.handle} still mapped; leaking it"

end Firmware
end MailboxCursor
