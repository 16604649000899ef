/-
Images of two colours, and the images of true colour that show the same.

Both have the same picture (`mono_eq_argb`), as long as every row of it starts where a 32-bit word reaches: the row of a
two-colour picture is looked up with such a word, that of a true-colour picture is not. `exhaustsRows_iff` says that the one
check of the last row is a check of all rows. Where a row starts too far out, one of the two images is drawn and the other one
is not; `empty_columns_overflow` is an image that needs no bytes at all.
-/
import MailboxCursor.Proofs.Image.Reference

namespace MailboxCursor

namespace Image

variable {image : Image} {colors : Palette} {w h : UInt32} {source mask : Array UInt8} {layout : PlaneLayout}
  {pixels : Array UInt32}

/-- The planes say one word of a pixel. -/
theorem Depicts.unique {x y : ℕ} {word word' : UInt32} (h : image.Depicts colors x y word)
    (h' : image.Depicts colors x y word') : word = word' := by
  cases image with
  | mono w h source mask layout =>
    obtain ⟨lit, solid, hlit, hsolid, hword⟩ := h
    obtain ⟨lit', solid', hlit', hsolid', hword'⟩ := h'
    rw [← UInt32.toNat_inj, hword, hword', hlit.unique hlit', hsolid.unique hsolid']
  | argb w h pixels => exact Option.some.inj (h.symm.trans h')

/-! ## Rows -/

/-- Some row starts behind the last 32-bit word if the last row does. -/
theorem exhaustsRows_iff {rows width : ℕ} :
    (mono w h source mask layout).exhaustsRows rows width = true ↔ ∃ y < rows, 2 ^ 32 ≤ y * width := by
  rw [exhaustsRows, decide_eq_true_iff, UInt32.size]
  constructor
  · intro hlast
    refine ⟨rows - 1, ?_, hlast⟩
    by_contra hnone
    rw [Nat.sub_eq_zero_of_le (by omega), Nat.zero_mul] at hlast
    omega
  · rintro ⟨y, hy, hfar⟩
    exact hfar.trans (Nat.mul_le_mul_right width (by omega))

/-- Nothing but a row that starts too far out stands against an image of two colours with planes that are long enough. -/
theorem render_mono (hroom : (shownSize w).toNat * (shownSize h).toNat * 4 < 0x8000000000000000)
    (henough : ∀ e, ¬(mono w h source mask layout).Lacks e) :
    (mono w h source mask layout).render colors =
      if ∃ y < min h.toNat (shownSize h).toNat, 2 ^ 32 ≤ y * (shownSize w).toNat then .error .rowOutOfRange
      else .ok ((mono w h source mask layout).picture colors) := by
  have hrender : (mono w h source mask layout).render colors = _ :=
    render_of_room hroom (shortPlane?_eq_none_iff.2 henough)
  rw [hrender]
  by_cases hfar : ∃ y < min h.toNat (shownSize h).toNat, 2 ^ 32 ≤ y * (shownSize w).toNat
  · rw [if_pos hfar]
    exact if_pos (exhaustsRows_iff.2 hfar)
  · rw [if_neg hfar]
    exact if_neg (mt exhaustsRows_iff.1 hfar)

/-- Nothing at all stands against an image of true colour with enough pixels. -/
theorem render_argb (hroom : (shownSize w).toNat * (shownSize h).toNat * 4 < 0x8000000000000000)
    (henough : ∀ e, ¬(argb w h pixels).Lacks e) :
    (argb w h pixels).render colors = .ok ((argb w h pixels).picture colors) :=
  render_of_room hroom (shortPlane?_eq_none_iff.2 henough)

/-! ## The same pixels in both forms -/

/-- An image that has a word for each of its pixels has enough of them. -/
theorem not_lacks_argb (hpixels : ∀ y < h.toNat, ∀ x < w.toNat, y * w.toNat + x < pixels.size) (e : RasterError) :
    ¬(argb w h pixels).Lacks e := by
  rintro (_ | _ | hshort)
  rw [Nat.mul_assoc] at hshort
  have hsome : w.toNat * h.toNat ≠ 0 := by omega
  obtain ⟨hw, hh⟩ := Nat.mul_ne_zero_iff.1 hsome
  -- the last pixel of the last row is the one with the highest place
  have hlast := hpixels (h.toNat - 1) (by omega) (w.toNat - 1) (by omega)
  have hrows : (h.toNat - 1) * w.toNat + w.toNat = w.toNat * h.toNat := by
    rw [← Nat.succ_mul, Nat.succ_eq_add_one, Nat.sub_add_cancel (by omega), Nat.mul_comm]
  omega

/-- **Two colours are drawn as true colours are**, at every size that fits the address space and in every layout: an image of two
colours has the picture of the image that has its pixels word by word, unless a row of the picture starts behind the last
32-bit word. The image of true colour is drawn then too. -/
theorem mono_eq_argb (w h : UInt32) (source mask : Array UInt8) (layout : PlaneLayout) (colors : Palette)
    (pixels : Array UInt32) (hsource : layout.rowBytes w * h.toNat ≤ source.size)
    (hmask : layout.rowBytes w * h.toNat ≤ mask.size)
    (hroom : 4 * ((shownSize w).toNat * (shownSize h).toNat) ≤ 2 ^ 63 - 1)
    (hpixels : ∀ y < h.toNat, ∀ x < w.toNat, ∃ word, pixels[y * w.toNat + x]? = some word ∧
      (mono w h source mask layout).Depicts colors x y word) :
    ∃ picture, (argb w h pixels).render colors = .ok picture ∧
      (mono w h source mask layout).render colors =
        if ∃ y < min h.toNat (shownSize h).toNat, 2 ^ 32 ≤ y * (shownSize w).toNat then .error .rowOutOfRange
        else .ok picture := by
  have henough := not_lacks_mono hsource hmask
  have henough' : ∀ e, ¬(argb w h pixels).Lacks e := by
    refine not_lacks_argb fun y hy x hx => ?_
    obtain ⟨word, hword, -⟩ := hpixels y hy x hx
    exact (Array.getElem?_eq_some_iff.1 hword).1
  have hsame : (argb w h pixels).picture colors = (mono w h source mask layout).picture colors := by
    refine picture_congr rfl rfl fun y hy x hx => ?_
    obtain ⟨word, hword, hdepicts⟩ := hpixels y hy x hx
    have hargb : (argb w h pixels).Depicts colors x y word := hword
    rw [(depicts_pixel henough' hx hy).unique hargb, (depicts_pixel henough hx hy).unique hdepicts]
  refine ⟨_, render_argb (by omega) henough', ?_⟩
  rw [hsame]
  exact render_mono (by omega) henough

/-- Two pixels, a white one and a black one, in both forms. -/
theorem mono_eq_argb_dots :
    let mono := Image.mono 2 1 #[0x01] #[0x03] ⟨8, .lsbFirst⟩
    let argb := Image.argb 2 1 #[0xffffffff, 0xff000000]
    ∃ picture, argb.render .default = .ok picture ∧ mono.render .default = .ok picture := by
  intro mono argb
  have hwhite : mono.Depicts .default 0 0 0xffffffff := ⟨true, true, ⟨1, rfl, rfl⟩, ⟨3, rfl, rfl⟩, rfl⟩
  have hblack : mono.Depicts .default 1 0 0xff000000 := ⟨false, true, ⟨1, rfl, rfl⟩, ⟨3, rfl, rfl⟩, rfl⟩
  have hpixels : ∀ y < (1 : UInt32).toNat, ∀ x < (2 : UInt32).toNat, ∃ word,
      #[0xffffffff, 0xff000000][y * (2 : UInt32).toNat + x]? = some word ∧ mono.Depicts .default x y word := by
    rintro y (hy : y < 1) x (hx : x < 2)
    obtain rfl : y = 0 := by omega
    obtain rfl | rfl : x = 0 ∨ x = 1 := by omega
    · exact ⟨_, rfl, hwhite⟩
    · exact ⟨_, rfl, hblack⟩
  obtain ⟨picture, hargb, hmono⟩ := mono_eq_argb 2 1 #[0x01] #[0x03] ⟨8, .lsbFirst⟩ .default #[0xffffffff, 0xff000000]
    (by decide) (by decide) (by decide +kernel) hpixels
  refine ⟨picture, hargb, hmono.trans (if_neg ?_)⟩
  decide +kernel

/-- An image without columns has no bytes, and every check of its planes and its size is passed. With more than `2 ^ 28` rows of
16 pixels it is drawn as an image of true colour, and is not as one of two colours. -/
theorem empty_columns_overflow :
    let mono := Image.mono 0 0x10000001 #[] #[] .default
    PlaneLayout.default.rowBytes 0 * (0x10000001 : UInt32).toNat ≤ 0 ∧
      4 * ((shownSize 0).toNat * (shownSize 0x10000001).toNat) ≤ 2 ^ 63 - 1 ∧
      mono.render .default = .error .rowOutOfRange ∧
      ∃ picture, (Image.argb 0 0x10000001 #[]).render .default = .ok picture := by
  intro mono
  have hroom : (shownSize 0).toNat * (shownSize 0x10000001).toNat * 4 < 0x8000000000000000 := by decide +kernel
  have hrow : (0x10000000 : ℕ) < min (0x10000001 : UInt32).toNat (shownSize 0x10000001).toNat := by decide +kernel
  have hfar : 2 ^ 32 ≤ 0x10000000 * (shownSize 0).toNat := by decide +kernel
  have henough : ∀ e, ¬mono.Lacks e := not_lacks_mono (by decide) (by decide)
  have henough' : ∀ e, ¬(Image.argb 0 0x10000001 #[]).Lacks e := not_lacks_argb fun _ _ x hx => absurd hx (Nat.not_lt_zero x)
  refine ⟨by decide, by decide +kernel, ?_, _, render_argb hroom henough'⟩
  rw [render_mono hroom henough, if_pos ⟨_, hrow, hfar⟩]

end Image
end MailboxCursor
