/-
Why a command failed: what it was doing, and beneath that the causes. `report` is the text that the user is shown.
-/
import MailboxCursor.Cursor.Error
import MailboxCursor.Settings

namespace MailboxCursor

inductive CommandError where
  | settings (cause : SettingError)
  | device (path : String) (cause : MailboxError)
  | versionQuery (cause : MailboxError)
  | overscanQuery (cause : MailboxError)
  | initialisation (cause : CursorError)
  | upload (cause : CursorError)
  | move (cause : CursorError)
  | display (cause : CursorError)
  | close (cause : CursorError)
  | stateUpdate (cause : MailboxError)
  | hideRejected (status : UInt32)
  /-- a position of the sweep is no coordinate any more -/
  | sweepTooLong
  | allocation (cycle : UInt32) (cause : MailboxError)
  | release (cycle : UInt32) (cause : MailboxError)
  | readback (cycle : UInt32) (bus : BusAddress)
deriving DecidableEq, Repr

namespace CommandError

/-- what the command was doing -/
def text : CommandError → String
  | settings _ => "invalid environment configuration"
  | device path _ => s!"failed to open mailbox device {path}"
  | versionQuery _ => "firmware version query failed"
  | overscanQuery _ => "overscan query failed"
  | initialisation _ => "hardware cursor initialisation failed"
  | upload _ => "cursor image upload failed"
  | move _ => "cursor move failed"
  | display _ => "cursor show failed"
  | close _ => "cursor release failed"
  | stateUpdate _ => "cursor state update failed"
  | hideRejected status => s!"firmware rejected cursor hide (status {Hex.short status})"
  | sweepTooLong => "demo sweep too long"
  | allocation cycle _ => s!"allocation failed in cycle {cycle}"
  | release cycle _ => s!"release failed in cycle {cycle}"
  | readback cycle bus => s!"readback mismatch in cycle {cycle} (bus {bus.text})"

/-- texts of what lies beneath, nearest first -/
def causes : CommandError → List String
  | settings e => [e.text]
  | device _ e | versionQuery e | overscanQuery e | stateUpdate e | allocation _ e | release _ e =>
    e.text :: e.causes
  | initialisation e | upload e | move e | display e | close e => e.text :: e.causes
  | sweepTooLong => ["out of range integral type conversion attempted"]
  | hideRejected _ | readback _ _ => []

/-- a text whose further lines are indented as far as its first -/
def indented (margin text : String) : String :=
  ("\n" ++ margin).intercalate (text.splitOn "\n")

/-- the causes as listed for the user: alone, or numbered -/
def causeLines : List String → List String
  | [] => []
  | [cause] => ["    " ++ indented "    " cause]
  | causes => causes.zipIdx.map fun c => "    " ++ toString c.2 ++ ": " ++ indented "       " c.1

/-- the text that the user is shown -/
def report (e : CommandError) : String :=
  let head := "Error: " ++ e.text ++ "\n"
  match causeLines e.causes with
  | [] => head
  | lines => head ++ "\nCaused by:\n" ++ "\n".intercalate lines ++ "\n"

end CommandError
end MailboxCursor
