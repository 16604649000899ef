/-
What a picture shows, said of the bytes and words that the host gives.

`Image.Depicts` says what the word of a pixel is, channel by channel, and where its bits are read; every byte and word that it
names is one of the plane. `Image.Lacks` says which images are refused, and why. `Image.render_rasterised` measures rendering
against these two: the picture has the least size that the firmware shows, each of its words is the pixel's or clear, and
nothing else of the planes has a part in it.
-/
import Mathlib.Algebra.Group.Nat.Even
import Mathlib.Order.Bounds.Basic
import MailboxCursor.Proofs.Image.Render

namespace MailboxCursor

/-! ## Pixels, bit by bit -/

/-- the upper bytes of the channels, at their places in a pixel -/
def Color.rgb (c : Color) : ℕ :=
  c.red.toNat / 2 ^ 8 * 2 ^ 16 + (c.green.toNat / 2 ^ 8 * 2 ^ 8 + c.blue.toNat / 2 ^ 8)

/-- a pixel of two colours: `lit` chooses the colour, `solid` says whether it covers what is behind it -/
def Palette.ink (colors : Palette) (lit solid : Bool) : ℕ :=
  (if solid then 0xff else 0) * 2 ^ 24 + (if lit then colors.foreground else colors.background).rgb

namespace PlaneLayout

/-- where pixel `x` of a row stands in its byte -/
def place (l : PlaneLayout) (x : ℕ) : ℕ :=
  match l.order with
  | .lsbFirst => x % 8
  | .msbFirst => 7 - x % 8

/-- the bit of pixel `x` in the row that starts at byte `row`, in a byte of the plane -/
def Reads (l : PlaneLayout) (plane : Array UInt8) (row x : ℕ) (on : Bool) : Prop :=
  ∃ byte, plane[row + x / 8]? = some byte ∧ on = (byte.toNat / 2 ^ l.place x % 2 == 1)

end PlaneLayout

namespace Image

/-- the word of pixel `x` of row `y`, as far as the image's planes say -/
def Depicts (colors : Palette) (x y : ℕ) (word : UInt32) : Image → Prop
  | mono w _ source mask layout =>
    ∃ lit solid, layout.Reads source (y * layout.rowBytes w) x lit ∧ layout.Reads mask (y * layout.rowBytes w) x solid ∧
      word.toNat = colors.ink lit solid
  | argb w _ pixels => pixels[y * w.toNat + x]? = some word

/-- what is wrong with an image of which a plane is too short; the source is looked at before the mask -/
inductive Lacks : Image → RasterError → Prop where
  | source {w h : UInt32} {source mask : Array UInt8} {layout : PlaneLayout}
      (short : source.size < layout.rowBytes w * h.toNat) :
      Lacks (mono w h source mask layout) (.bitmapTooShort .source (layout.rowBytes w * h.toNat) source.size)
  | mask {w h : UInt32} {source mask : Array UInt8} {layout : PlaneLayout}
      (enough : layout.rowBytes w * h.toNat ≤ source.size) (short : mask.size < layout.rowBytes w * h.toNat) :
      Lacks (mono w h source mask layout) (.bitmapTooShort .mask (layout.rowBytes w * h.toNat) mask.size)
  | pixels {w h : UInt32} {pixels : Array UInt32} (short : 4 * pixels.size < 4 * w.toNat * h.toNat) :
      Lacks (argb w h pixels) (.bitmapTooShort .pixels (4 * w.toNat * h.toNat) (4 * pixels.size))

/-- images of one kind, size and layout, the planes of which agree in every bit or word of a pixel -/
inductive Alike : Image → Image → Prop where
  | mono {w h : UInt32} {source source' mask mask' : Array UInt8} {layout : PlaneLayout}
      (lit : ∀ y < h.toNat, ∀ x < w.toNat,
        layout.bit source (y * layout.rowBytes w) x = layout.bit source' (y * layout.rowBytes w) x)
      (solid : ∀ y < h.toNat, ∀ x < w.toNat,
        layout.bit mask (y * layout.rowBytes w) x = layout.bit mask' (y * layout.rowBytes w) x) :
      Alike (mono w h source mask layout) (mono w h source' mask' layout)
  | argb {w h : UInt32} {pixels pixels' : Array UInt32}
      (words : ∀ y < h.toNat, ∀ x < w.toNat, pixels[y * w.toNat + x]? = pixels'[y * w.toNat + x]?) :
      Alike (argb w h pixels) (argb w h pixels')

/-- what rendering an image at the size `W` by `H` is to bring -/
structure Rasterised (image : Image) (colors : Palette) (W H : ℕ) (r : Except RasterError Picture) : Prop where
  refused : ∀ e, r = .error e ↔ image.Lacks e
  drawn : (∀ e, ¬image.Lacks e) → ∃ p, r = .ok p ∧ p.width.toNat = W ∧ p.height.toNat = H ∧
    p.hotspotX = 0 ∧ p.hotspotY = 0 ∧ p.pixels.size = W * H ∧
    ∀ y < H, ∀ x < W, ∃ word, p.pixels[y * W + x]? = some word ∧
      if x < image.width.toNat ∧ y < image.height.toNat then image.Depicts colors x y word else word = 0
  /-- what lies between the pixels and behind them has no part in the picture -/
  blind : ∀ other, image.Alike other → (∀ e, ¬image.Lacks e) → (∀ e, ¬other.Lacks e) → other.render colors = r

end Image

/-! ## Channels -/

/-- A byte that is shifted, and stays inside the word. -/
theorem toNat_toUInt32_shiftLeft (x : UInt8) (k : UInt32) (h : k.toNat ≤ 24) :
    (x.toUInt32 <<< k).toNat = x.toNat * 2 ^ k.toNat := by
  have hx : x.toNat * 2 ^ k.toNat < 2 ^ 8 * 2 ^ 24 :=
    Nat.mul_lt_mul_of_lt_of_le x.toNat_lt (Nat.pow_le_pow_right (by decide) h) (by decide)
  rw [UInt32.toNat_shiftLeft, UInt8.toNat_toUInt32, Nat.mod_eq_of_lt (show k.toNat < 32 by omega), Nat.shiftLeft_eq,
    Nat.mod_eq_of_lt (by omega)]

/-- The bytes of a word are its digits to the base 256. -/
theorem toNat_wordOfBytes (a b c d : UInt8) :
    (wordOfBytes a b c d).toNat = d.toNat * 2 ^ 24 + (c.toNat * 2 ^ 16 + (b.toNat * 2 ^ 8 + a.toNat)) := by
  have ha := a.toNat_lt
  have hb := b.toNat_lt
  have hc := c.toNat_lt
  have hturn (a b c d : UInt32) : a ||| b ||| c ||| d = d ||| (c ||| (b ||| a)) := by ac_rfl
  have hjoin (x k y : ℕ) (h : y < 2 ^ k) : x * 2 ^ k ||| y = x * 2 ^ k + y := by
    rw [← Nat.shiftLeft_eq, Nat.shiftLeft_add_eq_or_of_lt h]
  rw [wordOfBytes, hturn, UInt32.toNat_or, UInt32.toNat_or, UInt32.toNat_or, toNat_toUInt32_shiftLeft d 24 (by decide),
    toNat_toUInt32_shiftLeft c 16 (by decide), toNat_toUInt32_shiftLeft b 8 (by decide), UInt8.toNat_toUInt32]
  change d.toNat * 2 ^ 24 ||| (c.toNat * 2 ^ 16 ||| (b.toNat * 2 ^ 8 ||| a.toNat)) = _
  rw [hjoin b.toNat 8 _ ha, hjoin c.toNat 16 _ (by omega), hjoin d.toNat 24 _ (by omega)]

/-- The upper byte of a channel. -/
theorem toNat_upper (v : UInt16) : (v >>> 8).toUInt8.toNat = v.toNat / 2 ^ 8 := by
  have hv := v.toNat_lt
  rw [UInt16.toNat_toUInt8, UInt16.toNat_shiftRight, Nat.shiftRight_eq_div_pow]
  exact Nat.mod_eq_of_lt (show v.toNat / 2 ^ 8 < 2 ^ 8 by omega)

/-- A pixel is put together from its alpha and the channels of its colour. -/
theorem toNat_ink (colors : Palette) (lit solid : Bool) :
    (wordOfBytes ((if lit then colors.foreground else colors.background).blue >>> 8).toUInt8
      ((if lit then colors.foreground else colors.background).green >>> 8).toUInt8
      ((if lit then colors.foreground else colors.background).red >>> 8).toUInt8 (if solid then 0xff else 0)).toNat =
      colors.ink lit solid := by
  rw [toNat_wordOfBytes, toNat_upper, toNat_upper, toNat_upper, Palette.ink, Color.rgb]
  cases solid <;> rfl

namespace PlaneLayout

variable {layout : PlaneLayout} {plane : Array UInt8} {row x : ℕ}

/-- Inside the plane a bit is read as it stands. -/
theorem reads_bit (h : row + x / 8 < plane.size) : layout.Reads plane row x (layout.bit plane row x) := by
  refine ⟨plane[row + x / 8], Array.getElem?_eq_getElem h, ?_⟩
  have hbyte : plane.getD (row + x / 8) 0 = plane[row + x / 8] := by
    rw [Array.getD_eq_getD_getElem?, Array.getElem?_eq_getElem h, Option.getD_some]
  rw [bit, hbyte, place]
  cases layout.order with
  | lsbFirst => exact Nat.testBit_eq_decide_div_mod_eq
  | msbFirst => exact Nat.testBit_eq_decide_div_mod_eq

/-- What a bit says is one thing. -/
theorem Reads.unique {on on' : Bool} (h : layout.Reads plane row x on) (h' : layout.Reads plane row x on') : on = on' := by
  obtain ⟨byte, hbyte, rfl⟩ := h
  obtain ⟨byte', hbyte', rfl⟩ := h'
  rw [Option.some.inj (hbyte.symm.trans hbyte')]

/-- A pixel is read inside the bytes of its plane. -/
theorem row_lt {w h : UInt32} {y : ℕ} (hx : x < w.toNat) (hy : y < h.toNat) :
    y * layout.rowBytes w + x / 8 < layout.rowBytes w * h.toNat := by
  have hcolumn := layout.div_eight_lt_rowBytes w hx
  calc y * layout.rowBytes w + x / 8 < (y + 1) * layout.rowBytes w := by
        rw [Nat.succ_mul]
        omega
    _ ≤ h.toNat * layout.rowBytes w := Nat.mul_le_mul_right _ hy
    _ = layout.rowBytes w * h.toNat := Nat.mul_comm _ _

end PlaneLayout

/-! ## Sizes -/

/-- The size of a picture is the least that the firmware shows. -/
theorem shownSize_isLeast {v : UInt32} (h : v.toNat < 0xffffffff) :
    IsLeast {n | Even n ∧ max 16 v.toNat ≤ n} (shownSize v).toNat := by
  rw [toNat_shownSize h]
  refine ⟨⟨?_, by omega⟩, fun n hn => ?_⟩
  · rw [Nat.even_iff]
    omega
  · obtain ⟨heven, hle⟩ := hn
    rw [Nat.even_iff] at heven
    omega

namespace Image

variable {image other : Image} {colors : Palette} {x y : ℕ}

/-! ## Short planes -/

theorem Lacks.shortPlane?_eq {e : RasterError} (h : image.Lacks e) : image.shortPlane? = some e := by
  cases h with
  | source short => simp [shortPlane?, planes, short]
  | mask enough short => simp [shortPlane?, planes, short, Nat.not_lt.2 enough]
  | @pixels w h pixels short =>
    have hneeded : w.toNat * h.toNat * 4 = 4 * w.toNat * h.toNat := by ring
    have hfound : pixels.size * 4 = 4 * pixels.size := by ring
    simp [shortPlane?, planes, hneeded, hfound, short]

theorem lacks_of_shortPlane? {e : RasterError} (h : image.shortPlane? = some e) : image.Lacks e := by
  rw [shortPlane?, Option.map_eq_some_iff] at h
  obtain ⟨plane, hfind, rfl⟩ := h
  cases image with
  | mono w h source mask layout =>
    simp only [planes, List.find?_cons, List.find?_nil] at hfind
    by_cases hsource : source.size < layout.rowBytes w * h.toNat
    · rw [decide_eq_true hsource] at hfind
      obtain rfl := Option.some.inj hfind
      exact .source hsource
    by_cases hmask : mask.size < layout.rowBytes w * h.toNat
    · rw [decide_eq_false hsource, decide_eq_true hmask] at hfind
      obtain rfl := Option.some.inj hfind
      exact .mask (Nat.le_of_not_lt hsource) hmask
    · rw [decide_eq_false hsource, decide_eq_false hmask] at hfind
      cases hfind
  | argb w h pixels =>
    have hneeded : w.toNat * h.toNat * 4 = 4 * w.toNat * h.toNat := by ring
    have hfound : pixels.size * 4 = 4 * pixels.size := by ring
    simp only [planes, List.find?_cons, List.find?_nil, hneeded, hfound] at hfind
    by_cases hshort : 4 * pixels.size < 4 * w.toNat * h.toNat
    · rw [decide_eq_true hshort] at hfind
      obtain rfl := Option.some.inj hfind
      exact .pixels hshort
    · rw [decide_eq_false hshort] at hfind
      cases hfind

theorem shortPlane?_eq_some_iff {e : RasterError} : image.shortPlane? = some e ↔ image.Lacks e :=
  ⟨lacks_of_shortPlane?, Lacks.shortPlane?_eq⟩

theorem shortPlane?_eq_none_iff : image.shortPlane? = none ↔ ∀ e, ¬image.Lacks e := by
  rw [Option.eq_none_iff_forall_ne_some]
  exact forall_congr' fun e => not_congr shortPlane?_eq_some_iff

/-- An image of two colours with planes that are long enough lacks nothing. -/
theorem not_lacks_mono {w h : UInt32} {source mask : Array UInt8} {layout : PlaneLayout}
    (hsource : layout.rowBytes w * h.toNat ≤ source.size) (hmask : layout.rowBytes w * h.toNat ≤ mask.size)
    (e : RasterError) : ¬(mono w h source mask layout).Lacks e := by
  rintro (hshort | ⟨-, hshort⟩)
  · exact not_lt.2 hsource hshort
  · exact not_lt.2 hmask hshort

/-- The planes of an image of two colours that lacks nothing are long enough. -/
theorem le_size_of_not_lacks {w h : UInt32} {source mask : Array UInt8} {layout : PlaneLayout}
    (henough : ∀ e, ¬(mono w h source mask layout).Lacks e) :
    layout.rowBytes w * h.toNat ≤ source.size ∧ layout.rowBytes w * h.toNat ≤ mask.size := by
  have hsource : layout.rowBytes w * h.toNat ≤ source.size := by
    by_contra hshort
    exact henough _ (.source (not_le.1 hshort))
  refine ⟨hsource, ?_⟩
  by_contra hshort
  exact henough _ (.mask hsource (not_le.1 hshort))

/-! ## Pixels -/

/-- A pixel of an image with planes that are long enough is what the planes say. -/
theorem depicts_pixel (henough : ∀ e, ¬image.Lacks e) (hx : x < image.width.toNat) (hy : y < image.height.toNat) :
    image.Depicts colors x y (image.pixel colors x y) := by
  cases image with
  | mono w h source mask layout =>
    obtain ⟨hsource, hmask⟩ := le_size_of_not_lacks henough
    have hplace : y * layout.rowBytes w + x / 8 < layout.rowBytes w * h.toNat := PlaneLayout.row_lt hx hy
    refine ⟨_, _, PlaneLayout.reads_bit (hplace.trans_le hsource), PlaneLayout.reads_bit (hplace.trans_le hmask), ?_⟩
    rw [pixel_eq_shown, shown]
    exact toNat_ink colors _ _
  | argb w h pixels =>
    have hsize : 4 * w.toNat * h.toNat ≤ 4 * pixels.size := by
      by_contra hshort
      exact henough _ (.pixels (not_le.1 hshort))
    have hplace : y * w.toNat + x < pixels.size := by
      have hrow : (y + 1) * w.toNat ≤ h.toNat * w.toNat := Nat.mul_le_mul_right _ hy
      have hx : x < w.toNat := hx
      rw [Nat.succ_mul] at hrow
      rw [Nat.mul_assoc, Nat.mul_comm w.toNat] at hsize
      omega
    show pixels[y * w.toNat + x]? = some (pixels.getD (y * w.toNat + x) 0)
    rw [Array.getD_eq_getD_getElem?, Array.getElem?_eq_getElem hplace, Option.getD_some]

/-- Images that are alike have the same pixels. -/
theorem Alike.pixel_eq (h : image.Alike other) (hx : x < image.width.toNat) (hy : y < image.height.toNat) :
    other.pixel colors x y = image.pixel colors x y := by
  cases h with
  | mono lit solid => simp only [pixel, lit y hy x hx, solid y hy x hx]
  | argb words => simp only [pixel, Array.getD_eq_getD_getElem?, words y hy x hx]

/-- Images of one size with the same pixels have the same picture. -/
theorem picture_congr (hw : other.width = image.width) (hh : other.height = image.height)
    (hpixels : ∀ y < image.height.toNat, ∀ x < image.width.toNat, other.pixel colors x y = image.pixel colors x y) :
    other.picture colors = image.picture colors := by
  have hshade (x y : ℕ) : other.shade colors x y = image.shade colors x y := by
    rw [shade, shade, hw, hh]
    split_ifs with hin
    · exact hpixels y hin.2 x hin.1
    · rfl
  simp only [picture, hw, hh, hshade]

theorem Alike.size_eq (h : image.Alike other) : other.width = image.width ∧ other.height = image.height := by
  cases h <;> exact ⟨rfl, rfl⟩

theorem Alike.picture_eq (h : image.Alike other) : other.picture colors = image.picture colors :=
  picture_congr h.size_eq.1 h.size_eq.2 fun _ hy _ hx => h.pixel_eq hx hy

/-! ## Pictures -/

/-- In a picture of fewer than `2 ^ 32` pixels, rows start in range, and only a plane that is too short is refused. -/
theorem render_of_small (hsize : (shownSize image.width).toNat * (shownSize image.height).toNat < 2 ^ 32) :
    image.render colors =
      match image.shortPlane? with
      | some e => .error e
      | none => .ok (image.picture colors) := by
  have hrows : image.exhaustsRows (min image.height.toNat (shownSize image.height).toNat) (shownSize image.width).toNat =
      false := by
    cases image with
    | argb w h pixels => rfl
    | mono w h source mask layout =>
      have hlast : (min h.toNat (shownSize h).toNat - 1) * (shownSize w).toNat ≤ (shownSize w).toNat * (shownSize h).toNat := by
        rw [Nat.mul_comm (shownSize w).toNat]
        exact Nat.mul_le_mul_right _ (by omega)
      rw [exhaustsRows, decide_eq_false_iff_not, UInt32.size, not_le]
      exact lt_of_le_of_lt hlast hsize
  cases hshort : image.shortPlane? with
  | none => rw [render_of_room (by omega) hshort, hrows, if_neg Bool.false_ne_true]
  | some e =>
    simp only [render, hshort]
    rw [if_neg (by omega)]

/-- An image that the hardware can show is refused for what it lacks. -/
theorem render_of_lacks {e : RasterError} (hw : image.width ≤ maxCursorSize) (hh : image.height ≤ maxCursorSize)
    (h : image.Lacks e) : image.render colors = .error e := by
  have hsize := shownSize_mul_le hw hh
  have hrender : image.render colors = _ := render_of_small (by omega)
  rw [hrender, h.shortPlane?_eq]

/-- The least sizes of a picture that is not too large are those that it has. -/
theorem shownSize_of_isLeast {v : UInt32} {n m : ℕ} (hn : IsLeast {n | Even n ∧ max 16 v.toNat ≤ n} n) (hm : 16 ≤ m)
    (hsize : n * m < 2 ^ 32) : (shownSize v).toNat = n := by
  refine (shownSize_isLeast ?_).unique hn
  by_contra hlarge
  have hn : max 16 v.toNat ≤ n := hn.1.2
  have hprod : 0xffffffff * 16 ≤ n * m := Nat.mul_le_mul (by omega) hm
  omega

/-- **A picture shows the image and nothing else.** For every image that makes fewer than `2 ^ 32` pixels, in every layout and
all colours: it is refused if a plane is too short, for the first such plane, and otherwise drawn in the upper left corner of a
clear picture of the least size. -/
theorem render_rasterised (image : Image) (colors : Palette) {W H : ℕ}
    (hW : IsLeast {n | Even n ∧ max 16 image.width.toNat ≤ n} W)
    (hH : IsLeast {n | Even n ∧ max 16 image.height.toNat ≤ n} H) (hsize : W * H < 2 ^ 32) :
    Rasterised image colors W H (image.render colors) := by
  have hleast : 16 ≤ W := (le_max_left _ _).trans hW.1.2
  have hleast' : 16 ≤ H := (le_max_left _ _).trans hH.1.2
  obtain rfl := shownSize_of_isLeast hW hleast' hsize
  obtain rfl := shownSize_of_isLeast hH hleast (Nat.mul_comm _ _ ▸ hsize)
  have hrender : image.render colors = _ := render_of_small hsize
  refine ⟨fun e => ?_, fun henough => ?_, fun other halike henough henough' => ?_⟩
  case refine_1 =>
    rw [hrender, ← shortPlane?_eq_some_iff]
    cases image.shortPlane? with
    | none => simp
    | some e' => simp
  case refine_2 =>
    rw [shortPlane?_eq_none_iff.2 henough] at hrender
    refine ⟨_, hrender, rfl, rfl, rfl, rfl, size_picture, fun y hy x hx => ?_⟩
    refine ⟨image.shade colors x y, getElem_picture hx hy, ?_⟩
    rw [shade]
    split_ifs with hin
    · exact depicts_pixel henough hin.1 hin.2
    · rfl
  case refine_3 =>
    obtain ⟨hw, hh⟩ := halike.size_eq
    have hsize' : (shownSize other.width).toNat * (shownSize other.height).toNat < 2 ^ 32 := by
      rw [hw, hh]
      exact hsize
    rw [render_of_small hsize', shortPlane?_eq_none_iff.2 henough', hrender, shortPlane?_eq_none_iff.2 henough]
    exact congrArg Except.ok halike.picture_eq

/-- Two rows of two pixels, the leftmost bit first: the picture is one of 16 by 16 pixels, and the mask has its part in it. -/
theorem render_rasterised_msbFirst :
    let image := Image.mono 2 2 #[0x80, 0x40] #[0x40, 0xc0] ⟨8, .msbFirst⟩
    IsLeast {n | Even n ∧ max 16 image.width.toNat ≤ n} 16 ∧ IsLeast {n | Even n ∧ max 16 image.height.toNat ≤ n} 16 ∧
      16 * 16 < 2 ^ 32 ∧ Rasterised image .default 16 16 (image.render .default) ∧
      ∃ p, image.render .default = .ok p ∧ p.pixels[0]? = some 0x00ffffff ∧ p.pixels[1]? = some 0xff000000 ∧
        p.pixels[2]? = some 0 ∧ p.pixels[17]? = some 0xffffffff := by
  intro image
  have hleast : IsLeast {n | Even n ∧ max 16 image.width.toNat ≤ n} 16 :=
    ⟨⟨by decide, by decide⟩, fun n hn => (le_max_left 16 _).trans hn.2⟩
  have hleast' : IsLeast {n | Even n ∧ max 16 image.height.toNat ≤ n} 16 :=
    ⟨⟨by decide, by decide⟩, fun n hn => (le_max_left 16 _).trans hn.2⟩
  have hdrawn : Rasterised image .default 16 16 (image.render .default) :=
    render_rasterised image .default hleast hleast' (by decide)
  have hpixel {x y : ℕ} (hx : x < 16) (hy : y < 16) :
      (image.picture .default).pixels[y * 16 + x]? = some (image.shade .default x y) := by
    have hwidth : (image.picture .default).width.toNat = 16 := by decide +kernel
    have hheight : (image.picture .default).height.toNat = 16 := by decide +kernel
    have hplace := @getElem_picture image .default x y (hwidth ▸ hx) (hheight ▸ hy)
    rwa [hwidth] at hplace
  refine ⟨hleast, hleast', by decide, hdrawn, image.picture .default, ?_, ?_, ?_, ?_, ?_⟩
  · exact render_eq_picture (by decide) (by decide) (by decide)
  · exact hpixel (x := 0) (y := 0) (by decide) (by decide)
  · exact hpixel (x := 1) (y := 0) (by decide) (by decide)
  · exact hpixel (x := 2) (y := 0) (by decide) (by decide)
  · exact hpixel (x := 1) (y := 1) (by decide) (by decide)

end Image
end MailboxCursor
