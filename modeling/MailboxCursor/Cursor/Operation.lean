/-
Everything that can be done to a controller, as one type, so that a controller's life is a list of operations.
`Operation.perform` is one step and `Controller.run` the whole life.
-/
import MailboxCursor.Cursor.Host

namespace MailboxCursor

inductive Operation where
  | start
  | display
  | hide
  | moveTo (x y : Int32)
  | recolor (colors : Palette)
  | enableFor (width height : UInt32)
  | load (image : Image)
  | close
  | hostShow
  | hostHide
  | hostMove (x y : Int32)
  | hostColors (colors : Palette)
  | hostLoad (width height : UInt32) (bits : Array UInt8)
  | hostLoadPixels (width height : UInt32) (pixels : Array UInt32)
  | hostEnable (width height : UInt32)
deriving DecidableEq, Repr

/-- what an operation tells its caller -/
inductive Reply where
  | done
  | enabled (on : Bool)
  | failed (cause : CursorError)
deriving DecidableEq, Repr

namespace Reply

def ofUnit : Except CursorError Unit → Reply
  | .ok () => done
  | .error e => failed e

def ofBool : Except CursorError Bool → Reply
  | .ok on => enabled on
  | .error e => failed e

end Reply

namespace Operation

variable {δ : Type} [Device δ]

/-- one operation on a controller -/
def perform (c : Controller δ) : Operation → Reply × Controller δ
  | start => c.start.map .ofUnit id
  | display => c.display.map .ofUnit id
  | hide => c.hide.map .ofUnit id
  | moveTo x y => (c.moveTo x y).map .ofUnit id
  | recolor colors => (.done, c.recolor colors)
  | enableFor width height => (c.enableFor width height).map .ofBool id
  | load image => (c.load image).map .ofUnit id
  | close => c.close.map .ofUnit id
  | hostShow => (.done, c.hostShow)
  | hostHide => (.done, c.hostHide)
  | hostMove x y => (.done, c.hostMove x y)
  | hostColors colors => (.done, c.recolor colors)
  | hostLoad width height bits => (.done, c.hostLoad width height bits)
  | hostLoadPixels width height pixels => (.done, c.hostLoadPixels width height pixels)
  | hostEnable width height => (c.hostEnable width height).map .enabled id

end Operation

/-- a whole list of operations, one after the other -/
def Controller.run {δ : Type} [Device δ] (c : Controller δ) (ops : List Operation) : Controller δ :=
  ops.foldl (fun c op => (op.perform c).2) c

end MailboxCursor
