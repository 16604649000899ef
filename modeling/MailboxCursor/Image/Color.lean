/-
Colours as the windowing system gives them, 16 bits a channel, and as the firmware shows them, 8 bits a channel in one
word.
-/

namespace MailboxCursor

structure Color where
  red : UInt16
  green : UInt16
  blue : UInt16
deriving DecidableEq, Repr

namespace Color

def black : Color := ⟨0, 0, 0⟩
def white : Color := ⟨0xffff, 0xffff, 0xffff⟩

/-- a channel of 8 bits at 16: the byte twice -/
def widen (w : UInt32) : UInt16 :=
  ((w &&& 0xff) * 0x101).toUInt16

/-- from a packed `0x00RRGGBB` -/
def ofRgb888 (rgb : UInt32) : Color :=
  ⟨widen (rgb >>> 16), widen (rgb >>> 8), widen rgb⟩

/-- packed `0xAARRGGBB`, with the upper byte of each channel -/
def toArgb (c : Color) (alpha : UInt8) : UInt32 :=
  alpha.toUInt32 <<< 24 ||| (c.red >>> 8).toUInt32 <<< 16 ||| (c.green >>> 8).toUInt32 <<< 8
    ||| (c.blue >>> 8).toUInt32

/-- the form that shows the type -/
def describe (c : Color) : String :=
  s!"DeviceColor \x7b red: {c.red}, green: {c.green}, blue: {c.blue} \x7d"

end Color

/-- the two colours of an image that has only those -/
structure Palette where
  foreground : Color
  background : Color
deriving DecidableEq, Repr

namespace Palette

def default : Palette := ⟨.white, .black⟩

/-- the form that shows the type -/
def describe (c : Palette) : String :=
  s!"CursorColors \x7b foreground: {c.foreground.describe}, background: {c.background.describe} \x7d"

end Palette
end MailboxCursor
