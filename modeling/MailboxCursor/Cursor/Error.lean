/-
Why a cursor operation failed.
-/
import MailboxCursor.Image.Raster
import MailboxCursor.MailboxError
import MailboxCursor.Tag

namespace MailboxCursor

inductive CursorError where
  | unsupportedFirmware (found minimum : FirmwareVersion)
  | geometryUnsupported (width height : UInt32)
  | startFailedBefore
  /-- the firmware answered with a status other than zero -/
  | firmwareRejected (tag : Tag) (status : UInt32)
  | raster (cause : RasterError)
  | mailbox (cause : MailboxError)
deriving DecidableEq, Repr

namespace CursorError

def text : CursorError → String
  | unsupportedFirmware found minimum =>
    s!"firmware version {found.text} predates hardware cursor support (need {minimum.text})"
  | geometryUnsupported width height => s!"cursor of {width}x{height} exceeds the 64x64 hardware limit"
  | startFailedBefore => "hardware cursor initialisation already failed"
  | firmwareRejected tag status => s!"firmware rejected {tag.name} (status {Hex.short status})"
  | raster cause => cause.text
  | mailbox cause => cause.text

/-- texts of what lies beneath, nearest first -/
def causes : CursorError → List String
  | mailbox cause => cause.causes
  | _ => []

def isDeviceUnavailable : CursorError → Bool
  | mailbox cause => cause.isDeviceUnavailable
  | _ => false

/-- the request reached the firmware but did not take effect -/
def isExchangeFailure : CursorError → Bool
  | mailbox cause => cause.isExchangeFailure
  | firmwareRejected _ _ => true
  | _ => false

end CursorError
end MailboxCursor
