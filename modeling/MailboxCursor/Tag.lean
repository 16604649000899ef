/-
Property tags: what one message asks of the firmware. `Tag.id` is the word on the wire, `Tag.ofWord?` reads it back.
-/

namespace MailboxCursor

/-- the tags that the memory and cursor layers send -/
inductive Tag where
  | getFirmwareVersion
  | allocateMemory
  | lockMemory
  | unlockMemory
  | releaseMemory
  | getOverscan
  | setCursorInfo
  | setCursorState
deriving DecidableEq, Repr

namespace Tag

def all : List Tag :=
  [getFirmwareVersion, allocateMemory, lockMemory, unlockMemory, releaseMemory, getOverscan, setCursorInfo,
    setCursorState]

/-- the tag's word in a message -/
def id : Tag → UInt32
  | getFirmwareVersion => 0x00000001
  | allocateMemory => 0x0003000c
  | lockMemory => 0x0003000d
  | unlockMemory => 0x0003000e
  | releaseMemory => 0x0003000f
  | getOverscan => 0x0004000a
  | setCursorInfo => 0x00008010
  | setCursorState => 0x00008011

def ofWord? (w : UInt32) : Option Tag :=
  all.find? fun t => t.id == w

/-- words that the firmware needs in a request -/
def requestWords : Tag → Nat
  | getFirmwareVersion | getOverscan => 0
  | allocateMemory | setCursorState => 3
  | lockMemory | unlockMemory | releaseMemory => 1
  | setCursorInfo => 6

/-- words that the firmware answers with -/
def responseWords : Tag → Nat
  | getOverscan => 4
  | _ => 1

/-- the tag's name in log lines and errors -/
def name : Tag → String
  | getFirmwareVersion => "GetFirmwareVersion"
  | allocateMemory => "AllocateMemory"
  | lockMemory => "LockMemory"
  | unlockMemory => "UnlockMemory"
  | releaseMemory => "ReleaseMemory"
  | getOverscan => "GetOverscan"
  | setCursorInfo => "SetCursorInfo"
  | setCursorState => "SetCursorState"

theorem ofWord?_id (t : Tag) : ofWord? t.id = some t := by
  cases t <;> decide

/-- No two tags have the same word. -/
theorem id_inj {t u : Tag} (h : t.id = u.id) : t = u := by
  have hread := congrArg ofWord? h
  rw [ofWord?_id, ofWord?_id] at hread
  exact Option.some.inj hread

theorem id_of_ofWord? {w : UInt32} {t : Tag} (h : ofWord? w = some t) : t.id = w := by
  have := List.find?_some h
  simpa using this

end Tag
end MailboxCursor
