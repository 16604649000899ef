/-
Turning a host's cursor image into pixels that the firmware can scan out.

The image goes into the upper left corner of a picture of the least size that the firmware shows: at least 16 pixels each
way, and even. `Image.planes` says how long the image's planes have to be, `Image.pixel` is one pixel of it,
`Image.render` builds the picture from it, and `Picture.overlay` lays the pixels into a buffer of any length.
-/
import MailboxCursor.Image.Color
import MailboxCursor.Image.Layout
import MailboxCursor.Words

namespace MailboxCursor

/-- the largest cursor that the hardware shows, in either direction -/
def maxCursorSize : UInt32 := 64

/-- the smallest -/
def minCursorSize : UInt32 := 16

/-- bytes of the largest cursor; the transfer buffer always has this size -/
def cursorBufferBytes : UInt32 := maxCursorSize * maxCursorSize * 4

/-- the least even number that is at least the minimum and `v`, or the largest even one -/
def shownSize (v : UInt32) : UInt32 :=
  let v := min (max v minCursorSize) 0xfffffffe
  v + (v &&& 1)

/-- a cursor image as the host gives it -/
inductive Image where
  /-- two colours: `source` chooses between them, `mask` between them and nothing -/
  | mono (width height : UInt32) (source mask : Array UInt8) (layout : PlaneLayout)
  /-- pixels `0xAARRGGBB`, row after row -/
  | argb (width height : UInt32) (pixels : Array UInt32)
deriving DecidableEq, Repr

inductive Plane where
  | source
  | mask
  | pixels
deriving DecidableEq, Repr

def Plane.name : Plane → String
  | source => "Source"
  | mask => "Mask"
  | pixels => "Pixels"

inductive RasterError where
  /-- sizes in bytes -/
  | bitmapTooShort (plane : Plane) (needed found : Nat)
  /-- the picture would not fit any address space -/
  | pictureTooLarge
  /-- the start of a row leaves the range of a 32-bit word -/
  | rowOutOfRange
deriving DecidableEq, Repr

def RasterError.text : RasterError → String
  | bitmapTooShort plane needed found => s!"{plane.name} bitmap holds {found} bytes, {needed} needed"
  | pictureTooLarge => "capacity overflow"
  | rowOutOfRange => "attempt to multiply with overflow"

/-- pixels ready for the transfer buffer, row after row -/
structure Picture where
  width : UInt32
  height : UInt32
  hotspotX : UInt32
  hotspotY : UInt32
  pixels : Array UInt32
deriving DecidableEq, Repr

namespace Image

def width : Image → UInt32
  | mono w _ _ _ _ => w
  | argb w _ _ => w

def height : Image → UInt32
  | mono _ h _ _ _ => h
  | argb _ h _ => h

/-- the planes, with the bytes they need and have -/
def planes : Image → List (Plane × Nat × Nat)
  | mono w h source mask layout =>
    let needed := layout.rowBytes w * h.toNat
    [(.source, needed, source.size), (.mask, needed, mask.size)]
  | argb w h pixels => [(.pixels, w.toNat * h.toNat * 4, pixels.size * 4)]

/-- the first plane that is too short -/
def shortPlane? (i : Image) : Option RasterError :=
  (i.planes.find? fun p => p.2.2 < p.2.1).map fun p => .bitmapTooShort p.1 p.2.1 p.2.2

/-- pixel `x` of row `y` -/
def pixel (colors : Palette) (x y : Nat) : Image → UInt32
  | mono w _ source mask layout =>
    let row := y * layout.rowBytes w
    (if layout.bit mask row x then 0xff000000 else 0)
      ||| (if layout.bit source row x then colors.foreground.toArgb 0 else colors.background.toArgb 0)
  | argb w _ pixels => pixels.getD (y * w.toNat + x) 0

/-- the same with nothing around it: beyond the image every pixel is clear -/
def shade (image : Image) (colors : Palette) (x y : Nat) : UInt32 :=
  if x < image.width.toNat ∧ y < image.height.toNat then image.pixel colors x y else 0

/-- rows are addressed with 32-bit words in a picture of two colours: the last one of them must be in range -/
def exhaustsRows (i : Image) (rows width : Nat) : Bool :=
  match i with
  | mono _ _ _ _ _ => UInt32.size ≤ (rows - 1) * width
  | argb _ _ _ => false

end Image

/-- the picture of an image in the given colours; the hotspot stays in the corner, the host has allowed for it -/
def Image.render (image : Image) (colors : Palette) : Except RasterError Picture :=
  let width := shownSize image.width
  let height := shownSize image.height
  if 0x8000000000000000 ≤ width.toNat * height.toNat * 4 then .error .pictureTooLarge
  else
    match image.shortPlane? with
    | some e => .error e
    | none =>
      if image.exhaustsRows (min image.height.toNat height.toNat) width.toNat then .error .rowOutOfRange
      else
        .ok ⟨width, height, 0, 0, (Array.range (width.toNat * height.toNat)).map fun i =>
          image.shade colors (i % width.toNat) (i / width.toNat)⟩

namespace Picture

/-- the bytes that go into a buffer of `room` bytes: whole pixels only -/
def bytesWithin (r : Picture) (room : Nat) : List UInt8 :=
  bytesOfWords (r.pixels.toList.take (room / 4))

theorem length_bytesWithin (r : Picture) (room : Nat) :
    (r.bytesWithin room).length = 4 * min (room / 4) r.pixels.size := by
  rw [bytesWithin, length_bytesOfWords, List.length_take, Array.length_toList]

/-- a buffer with the pixels laid over its start, and how many bytes they are -/
def overlay (r : Picture) (dst : List UInt8) : List UInt8 × Nat :=
  let bytes := r.bytesWithin dst.length
  (bytes ++ dst.drop bytes.length, bytes.length)

end Picture
end MailboxCursor
