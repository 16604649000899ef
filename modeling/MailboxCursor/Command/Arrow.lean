/-
The built-in cursor: a white arrow with a black outline that points to the upper left.
-/
import MailboxCursor.Image.Raster

namespace MailboxCursor.Arrow

def size : Nat := 16

/-- rows of the head; the last of them is its lower edge -/
def headRows : Nat := size - 4

def inHead (x y : Nat) : Bool :=
  y < headRows && x ≤ y

/-- the stem is three pixels wide and leans to the right -/
def stemStart (y : Nat) : Nat := y / 2 + 1
def stemEnd (y : Nat) : Nat := y / 2 + 3

def inTail (x y : Nat) : Bool :=
  !inHead x y && headRows / 2 ≤ y && stemStart y ≤ x && x ≤ stemEnd y

def onOutline (x y : Nat) : Bool :=
  if inHead x y then x == 0 || x == y || y == headRows - 1
  else x == stemStart y || x == stemEnd y || y == size - 1

def pixel (x y : Nat) : UInt32 :=
  if inHead x y || inTail x y then if onOutline x y then 0xff000000 else 0xffffffff else 0

def pixels : Array UInt32 :=
  (Array.range (size * size)).map fun i => pixel (i % size) (i / size)

def image : Image :=
  .argb 16 16 pixels

end MailboxCursor.Arrow
