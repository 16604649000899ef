/-
Why a property message could not be composed or its answer could not be read.
-/
import MailboxCursor.Text.Hex

namespace MailboxCursor

inductive MessageError where
  /-- the request and its room for the answer do not fit the buffer -/
  | overflow (tag : UInt32) (words capacity : Nat)
  /-- a size leaves the range of a 64-bit machine word before it could be compared with the buffer's -/
  | sizeOutOfRange
  /-- the response code is neither success nor parse error -/
  | notProcessed (code : UInt32)
  | parseError
  /-- the message is marked as processed but its tag is not -/
  | tagNotAcknowledged (tag : UInt32)
  /-- the answer holds fewer words than the caller needs -/
  | truncated (tag : UInt32) (expected found : Nat)
deriving DecidableEq, Repr

def MessageError.text : MessageError → String
  | overflow tag words capacity =>
    s!"property message for tag {Hex.full tag} needs {words} words (capacity {capacity})"
  | sizeOutOfRange => "attempt to add with overflow"
  | notProcessed code => s!"firmware did not process the request (response code {Hex.full code})"
  | parseError => "firmware failed to parse the request buffer"
  | tagNotAcknowledged tag => s!"firmware did not acknowledge tag {Hex.full tag}"
  | truncated tag expected found =>
    s!"response for tag {Hex.full tag} too short: expected {expected} words, found {found}"

end MailboxCursor
