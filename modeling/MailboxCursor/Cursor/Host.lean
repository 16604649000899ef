/-
The windowing system's side of the cursor. It has no way to act on an error, so each of its calls ends in a log line where
the controller's ends in an error, and the last cursor stays on the screen.
-/
import MailboxCursor.Cursor.Controller

namespace MailboxCursor

/-- what the hardware can show -/
structure CursorCapabilities where
  maxWidth : UInt32
  maxHeight : UInt32
  bitsPerPixel : UInt32
  /-- pixels of any colour, not two colours only -/
  argb : Bool
deriving DecidableEq, Repr

def hardwareCapabilities : CursorCapabilities :=
  ⟨maxCursorSize, maxCursorSize, 32, true⟩

namespace Controller

variable {δ : Type}

/-- the controller after an operation, with a warning if it failed -/
def noteFailure (op : String) (r : Except CursorError Unit × Controller δ) : Controller δ :=
  match r with
  | (.ok (), c) => c
  | (.error e, c) => c.note (.warn s!"hardware cursor {op} failed: {e.text}")

/-- the image in `bits`: the source plane, then the mask plane, in the configured layout -/
def hostImage (c : Controller δ) (width height : UInt32) (bits : Array UInt8) : Image :=
  let plane := min (c.settings.layout.rowBytes width * height.toNat) bits.size
  .mono width height (bits.extract 0 plane) (bits.extract plane bits.size) c.settings.layout

variable [Device δ]

def hostShow (c : Controller δ) : Controller δ :=
  noteFailure "show" c.display

def hostHide (c : Controller δ) : Controller δ :=
  noteFailure "hide" c.hide

/-- the upper left corner; the host has allowed for the hotspot -/
def hostMove (c : Controller δ) (x y : Int32) : Controller δ :=
  noteFailure "move" (c.moveTo x y)

def hostLoad (c : Controller δ) (width height : UInt32) (bits : Array UInt8) : Controller δ :=
  noteFailure "image upload" (c.load (c.hostImage width height bits))

def hostLoadPixels (c : Controller δ) (width height : UInt32) (pixels : Array UInt32) : Controller δ :=
  noteFailure "image upload" (c.load (.argb width height pixels))

/-- whether an image of this size is shown in hardware from now on -/
def hostEnable (c : Controller δ) (width height : UInt32) : Bool × Controller δ :=
  match c.enableFor width height with
  | (.ok enabled, c) => (enabled, c)
  | (.error e, c) => (false, c.note (.warn s!"hardware cursor enable failed: {e.text}"))

end Controller
end MailboxCursor
