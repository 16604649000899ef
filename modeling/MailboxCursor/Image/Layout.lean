/-
How the rows of a one-bit plane lie in memory: each row starts on a whole byte, at a multiple of the scanline pad.
-/
import MailboxCursor.Align

namespace MailboxCursor

/-- which bit of a byte is the leftmost pixel -/
inductive BitOrder where
  | lsbFirst
  | msbFirst
deriving DecidableEq, Repr

structure PlaneLayout where
  /-- rows are padded to a multiple of this many bits; fewer than eight count as eight -/
  scanlinePad : UInt32
  order : BitOrder
deriving DecidableEq, Repr

namespace PlaneLayout

def default : PlaneLayout := ⟨32, .lsbFirst⟩

/-- bits of one row, padding included -/
def rowBits (l : PlaneLayout) (width : UInt32) : Nat :=
  alignUp width.toNat (max l.scanlinePad.toNat 8)

/-- bytes of one row -/
def rowBytes (l : PlaneLayout) (width : UInt32) : Nat :=
  (l.rowBits width + 7) / 8

/-- pixel `x` of the row that starts at byte `row` of a plane; beyond the plane every pixel is clear -/
def bit (l : PlaneLayout) (plane : Array UInt8) (row x : Nat) : Bool :=
  let byte := plane.getD (row + x / 8) 0
  let shift := match l.order with
    | .lsbFirst => x % 8
    | .msbFirst => 7 - x % 8
  byte.toNat.testBit shift

/-- every pixel of a row lies in a byte of the row, whatever the pad -/
theorem div_eight_lt_rowBytes (l : PlaneLayout) (width : UInt32) {x : Nat} (h : x < width.toNat) :
    x / 8 < l.rowBytes width := by
  have hbits : width.toNat ≤ l.rowBits width := le_alignUp _ (by omega)
  simp only [rowBytes]
  omega

end PlaneLayout
end MailboxCursor
