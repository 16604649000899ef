/-
Why a mailbox operation failed.

`MailboxError.text` is the text of the error itself, `MailboxError.causes` those of what lies beneath it, nearest
first. `isExchangeFailure` and `isDeviceUnavailable` are the two questions that callers ask.
-/
import MailboxCursor.Address
import MailboxCursor.Message.Error

namespace MailboxCursor

/-- what the operating system answered -/
inductive SystemError where
  | notFound
  | outOfMemory
  | alreadyExists
  | notDirectory
  | isDirectory
  | invalidArgument
  | notTerminal
  | nameTooLong
  /-- refused before the system was asked -/
  | invalidInput
  /-- any other cause, with its text -/
  | other (text : String)
deriving DecidableEq, Repr

def SystemError.text : SystemError → String
  | notFound => "No such file or directory (os error 2)"
  | outOfMemory => "Cannot allocate memory (os error 12)"
  | alreadyExists => "File exists (os error 17)"
  | notDirectory => "Not a directory (os error 20)"
  | isDirectory => "Is a directory (os error 21)"
  | invalidArgument => "Invalid argument (os error 22)"
  | notTerminal => "Inappropriate ioctl for device (os error 25)"
  | nameTooLong => "File name too long (os error 36)"
  | invalidInput => "invalid input parameter"
  | other text => text

/-- why a transaction brought no usable answer -/
inductive ExchangeFailure where
  | ioctl (cause : SystemError)
  | response (cause : MessageError)
deriving DecidableEq, Repr

def ExchangeFailure.text : ExchangeFailure → String
  | ioctl cause => s!"ioctl failed: {cause.text}"
  | response cause => cause.text

inductive MailboxError where
  | deviceUnavailable (path : String) (cause : SystemError)
  | exchangeFailed (tag : UInt32) (reason : ExchangeFailure)
  | allocationRefused (size : UInt32)
  | lockFailed (handle : MemoryHandle)
  | unlockFailed (handle : MemoryHandle) (status : UInt32)
  | freeFailed (handle : MemoryHandle) (status : UInt32)
  | mapFailed (bus : BusAddress) (len : UInt64) (cause : SystemError)
  | unmapFailed (bus : BusAddress) (len : UInt64) (cause : SystemError)
  | message (cause : MessageError)
  /-- the end of a window, or a count of locks, leaves the range of its machine word -/
  | countOutOfRange
deriving DecidableEq, Repr

namespace MailboxError

def text : MailboxError → String
  | deviceUnavailable path cause => s!"mailbox device {path} unavailable: {cause.text}"
  | exchangeFailed tag reason => s!"property transaction for tag {Hex.full tag} failed: {reason.text}"
  | allocationRefused size => s!"firmware refused to allocate {size} bytes"
  | lockFailed handle => s!"firmware failed to lock memory handle {handle.text}"
  | unlockFailed handle status =>
    s!"firmware failed to unlock memory handle {handle.text} (status {Hex.short status})"
  | freeFailed handle status =>
    s!"firmware failed to release memory handle {handle.text} (status {Hex.short status})"
  | mapFailed bus len cause => s!"failed to map {len} bytes at bus address {bus.text}: {cause.text}"
  | unmapFailed bus len cause => s!"failed to unmap {len} bytes at bus address {bus.text}: {cause.text}"
  | message cause => cause.text
  | countOutOfRange => "attempt to add with overflow"

/-- texts of what lies beneath, nearest first -/
def causes : MailboxError → List String
  | deviceUnavailable _ cause => [cause.text]
  | exchangeFailed _ (.ioctl cause) => [(ExchangeFailure.ioctl cause).text, cause.text]
  | exchangeFailed _ (.response cause) => [cause.text]
  | mapFailed _ _ cause => [cause.text]
  | unmapFailed _ _ cause => [cause.text]
  | _ => []

/-- the exchange with the firmware itself failed -/
def isExchangeFailure : MailboxError → Bool
  | exchangeFailed _ _ => true
  | _ => false

def isDeviceUnavailable : MailboxError → Bool
  | deviceUnavailable _ _ => true
  | _ => false

end MailboxError
end MailboxCursor
