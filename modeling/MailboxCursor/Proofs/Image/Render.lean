/-
Rendering an image that the hardware can show.

`picture` is what rendering brings if it brings anything (`eq_of_render`), and it does for every image of at most 64 by 64
pixels whose planes are long enough (`render_eq_picture`). Its size is even and between 16 and 64 (`shownSize_bounds`), and
the pixel at each place of it is the image's there, or clear beside the image (`getElem_picture`).
-/
import Mathlib.Tactic
import MailboxCursor.Image.Raster

namespace MailboxCursor

/-! ## Colours -/

/-- The word of a colour is its channels' upper bytes, blue lowest. -/
theorem Color.toArgb_eq (c : Color) (alpha : UInt8) :
    c.toArgb alpha = wordOfBytes (c.blue >>> 8).toUInt8 (c.green >>> 8).toUInt8 (c.red >>> 8).toUInt8 alpha := by
  have hupper (v : UInt16) : (v >>> 8).toUInt8.toUInt32 = (v >>> 8).toUInt32 := by
    apply UInt32.toNat_inj.1
    have hsmall : v.toNat >>> 8 < 2 ^ 8 := by
      rw [Nat.shiftRight_eq_div_pow]
      have := v.toNat_lt
      omega
    rw [UInt8.toNat_toUInt32, UInt16.toNat_toUInt8, UInt16.toNat_toUInt32, UInt16.toNat_shiftRight]
    exact Nat.mod_eq_of_lt hsmall
  have hturn (a b c d : UInt32) : a ||| b ||| c ||| d = d ||| c ||| b ||| a := by ac_rfl
  rw [wordOfBytes, hupper, hupper, hupper, toArgb, hturn]

theorem Color.toArgb_alpha (c : Color) (alpha : UInt8) : c.toArgb alpha = alpha.toUInt32 <<< 24 ||| c.toArgb 0 := by
  have hnone : (0 : UInt8).toUInt32 <<< 24 = (0 : UInt32) := rfl
  rw [toArgb, toArgb, hnone, UInt32.zero_or, UInt32.or_assoc, UInt32.or_assoc, UInt32.or_assoc]

/-! ## Sizes -/

theorem toNat_shownSize {v : UInt32} (h : v.toNat < 0xffffffff) :
    (shownSize v).toNat = max v.toNat 16 + max v.toNat 16 % 2 := by
  have hmin : (min (max v minCursorSize) 0xfffffffe).toNat = max v.toNat 16 := by
    have hleast : minCursorSize.toNat = 16 := rfl
    have hmost : (0xfffffffe : UInt32).toNat = 0xfffffffe := rfl
    rw [UInt32.toNat_min, UInt32.toNat_max, hleast, hmost]
    omega
  rw [shownSize, UInt32.toNat_add, UInt32.toNat_and, hmin, UInt32.toNat_one, Nat.and_one_is_mod]
  omega

/-- A picture has an even size between 16 and 64, and is at least as large as its image. -/
theorem shownSize_bounds {v : UInt32} (h : v ≤ maxCursorSize) :
    v.toNat ≤ (shownSize v).toNat ∧ 16 ≤ (shownSize v).toNat ∧ (shownSize v).toNat ≤ 64 ∧ (shownSize v).toNat % 2 = 0 := by
  have hv : v.toNat ≤ 64 := UInt32.le_iff_toNat_le.1 h
  rw [toNat_shownSize (by omega)]
  omega

theorem shownSize_mul_le {v w : UInt32} (hv : v ≤ maxCursorSize) (hw : w ≤ maxCursorSize) :
    (shownSize v).toNat * (shownSize w).toNat ≤ 64 * 64 := by
  obtain ⟨-, -, hV, -⟩ := shownSize_bounds hv
  obtain ⟨-, -, hW, -⟩ := shownSize_bounds hw
  exact Nat.mul_le_mul hV hW

namespace Image

variable {image : Image} {colors : Palette}

/-- the picture of an image, whatever the length of its planes -/
def picture (image : Image) (colors : Palette) : Picture :=
  ⟨shownSize image.width, shownSize image.height, 0, 0,
    (Array.range ((shownSize image.width).toNat * (shownSize image.height).toNat)).map fun i =>
      image.shade colors (i % (shownSize image.width).toNat) (i / (shownSize image.width).toNat)⟩

theorem eq_of_render {p : Picture} (h : image.render colors = .ok p) : p = image.picture colors := by
  simp only [render] at h
  by_cases hlarge : 0x8000000000000000 ≤ (shownSize image.width).toNat * (shownSize image.height).toNat * 4
  · rw [if_pos hlarge] at h
    cases h
  rw [if_neg hlarge] at h
  cases hshort : image.shortPlane? with
  | some e =>
    rw [hshort] at h
    cases h
  | none =>
    rw [hshort] at h
    dsimp only at h
    by_cases hrows : image.exhaustsRows (min image.height.toNat (shownSize image.height).toNat)
        (shownSize image.width).toNat = true
    · rw [if_pos hrows] at h
      cases h
    · rw [if_neg hrows] at h
      exact (Except.ok.inj h).symm

/-- Nothing is drawn of an image with a plane that is too short. -/
theorem shortPlane?_of_render {p : Picture} (h : image.render colors = .ok p) : image.shortPlane? = none := by
  cases hshort : image.shortPlane? with
  | none => rfl
  | some e =>
    simp only [render, hshort] at h
    split at h <;> cases h

theorem shortPlane?_eq_none (h : ∀ p ∈ image.planes, p.2.1 ≤ p.2.2) : image.shortPlane? = none := by
  rw [shortPlane?, Option.map_eq_none_iff, List.find?_eq_none]
  intro p hp hshort
  exact absurd (h p hp) (not_le.2 (of_decide_eq_true hshort))

theorem exhaustsRows_of_le {rows width : Nat} (hrows : rows ≤ 64) (hwidth : width ≤ 64) :
    image.exhaustsRows rows width = false := by
  cases image with
  | mono w h source mask layout =>
    have hprod : (rows - 1) * width ≤ 64 * 64 := Nat.mul_le_mul (by omega) hwidth
    rw [exhaustsRows, decide_eq_false_iff_not, UInt32.size]
    omega
  | argb w h pixels => rfl

/-- Rendering where there is room for the picture and no plane is too short. -/
theorem render_of_room (hroom : (shownSize image.width).toNat * (shownSize image.height).toNat * 4 < 0x8000000000000000)
    (hplanes : image.shortPlane? = none) :
    image.render colors =
      if image.exhaustsRows (min image.height.toNat (shownSize image.height).toNat) (shownSize image.width).toNat then
        .error .rowOutOfRange
      else .ok (image.picture colors) := by
  simp only [render, hplanes]
  rw [if_neg (not_le.2 hroom)]
  rfl

theorem render_eq_picture (hw : image.width ≤ maxCursorSize) (hh : image.height ≤ maxCursorSize)
    (hplanes : image.shortPlane? = none) : image.render colors = .ok (image.picture colors) := by
  obtain ⟨-, -, hW, -⟩ := shownSize_bounds hw
  obtain ⟨-, -, hH, -⟩ := shownSize_bounds hh
  have hprod := shownSize_mul_le hw hh
  rw [render_of_room (by omega) hplanes, exhaustsRows_of_le (by omega) hW, if_neg Bool.false_ne_true]

/-- An image that the hardware can show is refused for a short plane, and for nothing else. -/
theorem bitmapTooShort_of_render {e : RasterError} (hw : image.width ≤ maxCursorSize) (hh : image.height ≤ maxCursorSize)
    (h : image.render colors = .error e) : ∃ plane needed found, e = .bitmapTooShort plane needed found := by
  cases hshort : image.shortPlane? with
  | none =>
    rw [render_eq_picture hw hh hshort] at h
    cases h
  | some e' =>
    have hprod := shownSize_mul_le hw hh
    simp only [render, hshort] at h
    rw [if_neg (by omega)] at h
    obtain rfl : e' = e := Except.error.inj h
    rw [shortPlane?, Option.map_eq_some_iff] at hshort
    obtain ⟨plane, -, rfl⟩ := hshort
    exact ⟨_, _, _, rfl⟩

theorem size_picture : (image.picture colors).pixels.size =
    (image.picture colors).width.toNat * (image.picture colors).height.toNat := by
  simp [picture]

/-- The word of a picture at each of its places. -/
theorem getElem_picture {x y : Nat} (hx : x < (image.picture colors).width.toNat)
    (hy : y < (image.picture colors).height.toNat) :
    (image.picture colors).pixels[y * (image.picture colors).width.toNat + x]? = some (image.shade colors x y) := by
  change x < (shownSize image.width).toNat at hx
  have hplace : y * (shownSize image.width).toNat + x <
      (shownSize image.width).toNat * (shownSize image.height).toNat := by
    have hrow : (y + 1) * (shownSize image.width).toNat ≤ (shownSize image.height).toNat * (shownSize image.width).toNat :=
      Nat.mul_le_mul_right _ hy
    rw [Nat.mul_comm (shownSize image.width).toNat]
    rw [Nat.succ_mul] at hrow
    omega
  have hcolumn : (y * (shownSize image.width).toNat + x) % (shownSize image.width).toNat = x := by
    rw [Nat.mul_comm, Nat.mul_add_mod, Nat.mod_eq_of_lt hx]
  have hrow : (y * (shownSize image.width).toNat + x) / (shownSize image.width).toNat = y := by
    rw [Nat.mul_comm, Nat.mul_add_div (Nat.zero_lt_of_lt hx), Nat.div_eq_of_lt hx, Nat.add_zero]
  simp only [picture, Array.getElem?_map, Array.getElem?_range, hplace, if_true, Option.map_some, hcolumn, hrow]

/-- a pixel of an image, channel by channel: blue, green, red and alpha -/
def shown (colors : Palette) (x y : Nat) : Image → UInt32
  | mono w _ source mask layout =>
    let row := y * layout.rowBytes w
    let color := if layout.bit source row x then colors.foreground else colors.background
    wordOfBytes (color.blue >>> 8).toUInt8 (color.green >>> 8).toUInt8 (color.red >>> 8).toUInt8
      (if layout.bit mask row x then 0xff else 0)
  | argb w _ pixels => pixels.getD (y * w.toNat + x) 0

theorem pixel_eq_shown (colors : Palette) (x y : Nat) (image : Image) : image.pixel colors x y = image.shown colors x y := by
  cases image with
  | argb w h pixels => rfl
  | mono w h source mask layout =>
    have halpha (solid : Bool) : (if solid then 0xff else 0 : UInt8).toUInt32 <<< 24 =
        if solid then 0xff000000 else 0 := by
      cases solid <;> rfl
    simp only [shown, pixel, ← Color.toArgb_eq]
    rw [Color.toArgb_alpha (if layout.bit source (y * layout.rowBytes w) x then _ else _), halpha]
    congr 1
    split_ifs <;> rfl

end Image
end MailboxCursor
