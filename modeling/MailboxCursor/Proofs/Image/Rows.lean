/-
Where the bits of an image of two colours are read: inside its planes, and each of them in a row of its own.

`PlaneLayout.bit` reads a clear bit where a plane has no byte. `row?` and `bit?` are the same reads with nothing in place of a
byte that is not there: a row is cut out of the plane only if the plane has all of it, and a bit is read only in a byte of the
row. `rows_inBounds` says that no read fails which rendering makes, whatever the pad of the layout and the width, and that no
size which is computed on the way leaves the range of a machine word.
-/
import MailboxCursor.Proofs.Cursor.HostImage

namespace MailboxCursor

/-! ## Reads that may fail -/

namespace PlaneLayout

/-- row `y` of a plane, if the plane has all of it -/
def row? (l : PlaneLayout) (width : UInt32) (plane : Array UInt8) (y : ℕ) : Option (Array UInt8) :=
  if (y + 1) * l.rowBytes width ≤ plane.size then
    some (plane.extract (y * l.rowBytes width) ((y + 1) * l.rowBytes width))
  else none

/-- pixel `x` of a row, if the row reaches so far -/
def bit? (l : PlaneLayout) (row : Array UInt8) (x : ℕ) : Option Bool :=
  row[x / 8]?.map fun byte => byte.toNat.testBit (l.place x)

end PlaneLayout

/-- pixel `x` of row `y`, if the image has all that it is read from -/
def Image.pixel? (colors : Palette) (x y : ℕ) : Image → Option UInt32
  | mono w _ source mask layout => do
    let lit ← (layout.row? w source y).bind fun row => layout.bit? row x
    let solid ← (layout.row? w mask y).bind fun row => layout.bit? row x
    some ((if solid then 0xff000000 else 0)
      ||| (if lit then colors.foreground.toArgb 0 else colors.background.toArgb 0))
  | argb w _ pixels => pixels[y * w.toNat + x]?

/-! ## What is to hold of them -/

/-- in a plane with all of its rows, each row is there and each of its pixels has a bit in it -/
def PlaneLayout.ReadsRows (l : PlaneLayout) (width height : UInt32) (plane : Array UInt8) : Prop :=
  ∀ y < height.toNat, ∃ row, l.row? width plane y = some row ∧ row.size = l.rowBytes width ∧
    ∀ x < width.toNat, l.bit? row x = some (l.bit plane (y * l.rowBytes width) x)

/-- every pixel of a picture is read from the image, or lies beside it -/
def Image.DrawnFrom (image : Image) (colors : Palette) (p : Picture) : Prop :=
  ∀ y < p.height.toNat, ∀ x < p.width.toNat,
    p.pixels[y * p.width.toNat + x]? =
      if x < image.width.toNat ∧ y < image.height.toNat then image.pixel? colors x y else some 0

/-- the bytes that the windowing system hands over are cut into two planes, and nothing of them is lost -/
structure PlaneLayout.Cuts (l : PlaneLayout) (width height : UInt32) (bits source mask : Array UInt8) : Prop where
  size : source.size = min (l.rowBytes width * height.toNat) bits.size
  whole : source ++ mask = bits
  /-- the rows of the planes are rows of the bytes, those of the mask behind those of the source -/
  rows : 2 * (l.rowBytes width * height.toNat) ≤ bits.size → ∀ y < height.toNat,
    l.row? width source y = l.row? width bits y ∧ l.row? width mask y = l.row? width bits (height.toNat + y)

/-- planes of this layout and width can be addressed by row -/
structure PlaneLayout.InBounds (l : PlaneLayout) (width : UInt32) : Prop where
  row_lt : l.rowBits width < 2 ^ 64 ∧ l.rowBytes width < 2 ^ 64
  plane_lt : ∀ height : UInt32, l.rowBytes width * height.toNat < 2 ^ 64
  /-- a row has a bit for every pixel -/
  covers : width.toNat ≤ 8 * l.rowBytes width
  column_lt : ∀ x < width.toNat, x / 8 < l.rowBytes width
  rows : ∀ (height : UInt32) (plane : Array UInt8), l.rowBytes width * height.toNat ≤ plane.size →
    l.ReadsRows width height plane
  drawn : ∀ (height : UInt32) (source mask : Array UInt8) (colors : Palette) (p : Picture),
    (Image.mono width height source mask l).render colors = .ok p →
      (Image.mono width height source mask l).DrawnFrom colors p
  cut : ∀ {δ : Type} (c : Controller δ) (height : UInt32) (bits : Array UInt8), c.settings.layout = l →
    ∃ source mask, c.hostImage width height bits = .mono width height source mask l ∧
      l.Cuts width height bits source mask

namespace PlaneLayout

variable {l : PlaneLayout} {width height : UInt32} {plane : Array UInt8} {x y : ℕ}

theorem row_bounds (l : PlaneLayout) (width : UInt32) : l.rowBits width < 2 ^ 64 ∧ l.rowBytes width < 2 ^ 64 := by
  have hbits := (l.planeBytes_lt width 0).1
  rw [rowBytes]
  omega

/-- Rounding up twice loses no pixel: to a multiple of the pad, and to whole bytes. -/
theorem le_row (l : PlaneLayout) (width : UInt32) : width.toNat ≤ 8 * l.rowBytes width := by
  have hbits : width.toNat ≤ l.rowBits width := le_alignUp _ (by omega)
  rw [rowBytes]
  omega

/-- Rows end where the plane ends, at the latest. -/
theorem row_le (hplane : l.rowBytes width * height.toNat ≤ plane.size) (hy : y < height.toNat) :
    (y + 1) * l.rowBytes width ≤ plane.size :=
  calc (y + 1) * l.rowBytes width ≤ height.toNat * l.rowBytes width := Nat.mul_le_mul_right _ hy
    _ = l.rowBytes width * height.toNat := Nat.mul_comm _ _
    _ ≤ plane.size := hplane

theorem row?_eq (hplane : (y + 1) * l.rowBytes width ≤ plane.size) :
    l.row? width plane y = some (plane.extract (y * l.rowBytes width) ((y + 1) * l.rowBytes width)) :=
  if_pos hplane

theorem size_row (hplane : (y + 1) * l.rowBytes width ≤ plane.size) :
    (plane.extract (y * l.rowBytes width) ((y + 1) * l.rowBytes width)).size = l.rowBytes width := by
  rw [Array.size_extract, Nat.min_eq_left hplane, Nat.succ_mul]
  omega

/-- Inside a row, a bit is read as it stands. -/
theorem bit?_eq {row : Array UInt8} (hx : x / 8 < row.size) : l.bit? row x = some (l.bit row 0 x) := by
  have hbyte : row.getD (0 + x / 8) 0 = row[x / 8] := by
    rw [Nat.zero_add, Array.getD_eq_getD_getElem?, Array.getElem?_eq_getElem hx, Option.getD_some]
  rw [bit?, Array.getElem?_eq_getElem hx, Option.map_some, bit, hbyte]
  rfl

theorem readsRows (hplane : l.rowBytes width * height.toNat ≤ plane.size) : l.ReadsRows width height plane := by
  intro y hy
  have hrow := row_le hplane hy
  have hsize := size_row hrow
  refine ⟨_, row?_eq hrow, hsize, fun x hx => ?_⟩
  have hcolumn := l.div_eight_lt_rowBytes width hx
  rw [bit?_eq (hsize.symm ▸ hcolumn), bit_extract, Nat.add_zero]
  rw [Nat.min_eq_left hrow, Nat.succ_mul]
  omega

/-- The rows of a part of the bytes that starts at row `first`. -/
theorem row?_extract {bits : Array UInt8} {start stop : ℕ} (first : ℕ) (hstart : start = first * l.rowBytes width)
    (hrow : start + (y + 1) * l.rowBytes width ≤ stop) (hstop : stop ≤ bits.size) :
    l.row? width (bits.extract start stop) y = l.row? width bits (first + y) := by
  have hfirst : (first + y) * l.rowBytes width = start + y * l.rowBytes width := by
    rw [hstart, Nat.add_mul]
  have hlast : (first + y + 1) * l.rowBytes width = start + (y + 1) * l.rowBytes width := by
    rw [hstart, Nat.add_assoc, Nat.add_mul]
  have hpart : (y + 1) * l.rowBytes width ≤ (bits.extract start stop).size := by
    rw [Array.size_extract, Nat.min_eq_left hstop]
    omega
  rw [row?_eq hpart, row?_eq (by omega), Array.extract_extract, hfirst, hlast, Nat.min_eq_left hrow]

end PlaneLayout

/-! ## Rendering -/

/-- A pixel of an image with planes that are long enough is read without a byte missing. -/
theorem Image.pixel?_eq {image : Image} {colors : Palette} {x y : ℕ} (henough : ∀ e, ¬image.Lacks e)
    (hx : x < image.width.toNat) (hy : y < image.height.toNat) :
    image.pixel? colors x y = some (image.pixel colors x y) := by
  cases image with
  | mono w h source mask layout =>
    obtain ⟨hsource, hmask⟩ := le_size_of_not_lacks henough
    obtain ⟨row, hrow, -, hlit⟩ := PlaneLayout.readsRows hsource y hy
    obtain ⟨row', hrow', -, hsolid⟩ := PlaneLayout.readsRows hmask y hy
    simp only [pixel?, hrow, hrow', Option.bind_some, hlit x hx, hsolid x hx, Option.bind_eq_bind]
    rfl
  | argb w h pixels =>
    have hdepicts : (argb w h pixels).Depicts colors x y _ := depicts_pixel henough hx hy
    exact hdepicts

theorem Image.drawnFrom {image : Image} {colors : Palette} {p : Picture} (h : image.render colors = .ok p) :
    image.DrawnFrom colors p := by
  intro y hy x hx
  have hplanes := shortPlane?_of_render h
  obtain rfl := eq_of_render h
  rw [getElem_picture hx hy, shade]
  split_ifs with hin
  · rw [pixel?_eq (shortPlane?_eq_none_iff.1 hplanes) hin.1 hin.2]
  · rfl

/-! ## The cut -/

namespace Controller

theorem hostImage_cuts {δ : Type} (c : Controller δ) (width height : UInt32) (bits : Array UInt8) :
    ∃ source mask, c.hostImage width height bits = .mono width height source mask c.settings.layout ∧
      c.settings.layout.Cuts width height bits source mask := by
  refine ⟨_, _, rfl, ?_, ?_, fun henough y hy => ?_⟩
  · rw [Array.size_extract]
    omega
  · rw [Array.extract_append_extract]
    simp
  · have hcut : min (c.settings.layout.rowBytes width * height.toNat) bits.size =
        c.settings.layout.rowBytes width * height.toNat := by omega
    have hrow : (y + 1) * c.settings.layout.rowBytes width ≤ c.settings.layout.rowBytes width * height.toNat := by
      rw [Nat.mul_comm _ height.toNat]
      exact Nat.mul_le_mul_right _ hy
    rw [hcut]
    constructor
    · rw [PlaneLayout.row?_extract 0 (by omega) (by omega) (by omega), Nat.zero_add]
    · exact PlaneLayout.row?_extract height.toNat (Nat.mul_comm _ _) (by omega) le_rfl

end Controller

/-- **Rows of an image of two colours are always in bounds.** For every pad of the layout, one below eight or one that is no whole
number of bytes among them, and every width: the bytes of a row and of a plane of any height are in the range of a machine word,
a row has a bit for every pixel, and every row and every bit that is read is there, whenever an image is drawn. The planes that
the windowing system's bytes are cut into are parts of them, row for row. -/
theorem PlaneLayout.rows_inBounds (l : PlaneLayout) (width : UInt32) : l.InBounds width where
  row_lt := l.row_bounds width
  plane_lt height := (l.planeBytes_lt width height).2
  covers := l.le_row width
  column_lt _ hx := l.div_eight_lt_rowBytes width hx
  rows _ _ hplane := readsRows hplane
  drawn _ _ _ _ _ h := Image.drawnFrom h
  cut := by
    rintro δ c height bits rfl
    exact c.hostImage_cuts width height bits

/-- Rows of thirteen pixels, padded to a multiple of twelve bits: the last pixel is in the third byte of its row, and there is no
third row in a plane of seven bytes. -/
example : (⟨12, .msbFirst⟩ : PlaneLayout).rowBytes 13 = 3 ∧
    PlaneLayout.row? ⟨12, .msbFirst⟩ 13 #[0, 0, 0, 0, 0, 8, 0] 1 = some #[0, 0, 8] ∧
    PlaneLayout.bit? ⟨12, .msbFirst⟩ #[0, 0, 8] 12 = some false ∧
    PlaneLayout.bit? ⟨12, .lsbFirst⟩ #[0, 16] 12 = some true ∧
    PlaneLayout.row? ⟨12, .msbFirst⟩ 13 #[0, 0, 0, 0, 0, 8, 0] 2 = none := by
  decide +kernel

end MailboxCursor
