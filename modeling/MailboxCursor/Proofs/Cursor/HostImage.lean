/-
Images of two colours as the windowing system hands them over: one string of bytes, the source plane and then the mask plane.

`session_hostLoad`: what becomes of any such string, whatever the size that comes with it. An image that is too large takes the
cursor off the screen, one with too few bytes is ignored, and of any other one the firmware shows the pixels, each by its two
bits in the string (`ShowsBits`). The planes are cut where the size says or where the bytes end (`hostImage_eq`,
`hostImage_lacks`), so what lies behind them is never looked at (`hostLoad_congr`).
-/
import MailboxCursor.Proofs.Cursor.Machine
import MailboxCursor.Proofs.Cursor.Upload
import MailboxCursor.Proofs.Image.Reference

namespace MailboxCursor

/-! ## Planes in a string of bytes -/

namespace PlaneLayout

variable {layout : PlaneLayout} {bits bits' : Array UInt8} {row x : ℕ}

/-- bytes of a plane -/
def planeBytes (l : PlaneLayout) (width height : UInt32) : ℕ :=
  l.rowBytes width * height.toNat

/-- Neither the bits of a row nor the bytes of a plane leave the range of a machine word. -/
theorem planeBytes_lt (l : PlaneLayout) (width height : UInt32) :
    l.rowBits width < 2 ^ 64 ∧ l.planeBytes width height < 2 ^ 64 := by
  have hwidth := width.toNat_lt
  have hheight := height.toNat_lt
  have hpad := l.scanlinePad.toNat_lt
  have hbits : l.rowBits width < 2 ^ 33 := by
    have hround : l.rowBits width ≤ width.toNat + max l.scanlinePad.toNat 8 - 1 := Nat.div_mul_le_self _ _
    omega
  have hrow : l.rowBytes width ≤ 2 ^ 31 := by
    rw [rowBytes]
    omega
  have hplane : l.planeBytes width height ≤ 2 ^ 31 * 2 ^ 32 := Nat.mul_le_mul hrow hheight.le
  omega

theorem bit_congr (h : bits'[row + x / 8]? = bits[row + x / 8]?) : layout.bit bits' row x = layout.bit bits row x := by
  simp only [bit, Array.getD_eq_getD_getElem?, h]

theorem bit_extract {start stop : ℕ} (h : start + (row + x / 8) < min stop bits.size) :
    layout.bit (bits.extract start stop) row x = layout.bit bits (start + row) x := by
  simp only [bit, Array.getD_eq_getD_getElem?, Array.getElem?_extract]
  rw [if_pos (by omega), Nat.add_assoc]

/-- What a part of the bytes says, all of them say. -/
theorem Reads.of_extract {start stop : ℕ} {on : Bool} (h : layout.Reads (bits.extract start stop) row x on) :
    layout.Reads bits (start + row) x on := by
  obtain ⟨byte, hbyte, hon⟩ := h
  rw [Array.getElem?_extract] at hbyte
  split_ifs at hbyte
  exact ⟨byte, by rw [Nat.add_assoc, hbyte], hon⟩

end PlaneLayout

namespace Controller

/-- bytes of a plane in what a controller is handed -/
def hostPlane {δ : Type} (c : Controller δ) (width height : UInt32) : ℕ :=
  c.settings.layout.planeBytes width height

variable {c : Controller Firmware} {width height : UInt32} {bits bits' : Array UInt8}

/-- Where there are enough bytes for a plane, the planes are cut where the source plane ends. -/
theorem hostImage_eq (henough : c.hostPlane width height ≤ bits.size) :
    c.hostImage width height bits =
      .mono width height (bits.extract 0 (c.hostPlane width height)) (bits.extract (c.hostPlane width height) bits.size)
        c.settings.layout := by
  rw [hostPlane, PlaneLayout.planeBytes] at henough ⊢
  rw [hostImage, Nat.min_eq_left henough]

/-- Where there are too few for two, the source plane is too short, or the mask plane is. -/
theorem hostImage_lacks (hshort : bits.size < 2 * c.hostPlane width height) :
    (c.hostImage width height bits).Lacks
      (if bits.size < c.hostPlane width height then .bitmapTooShort .source (c.hostPlane width height) bits.size
      else .bitmapTooShort .mask (c.hostPlane width height) (bits.size - c.hostPlane width height)) := by
  split_ifs with hsource
  · have hcut : min (c.hostPlane width height) bits.size = bits.size := Nat.min_eq_right hsource.le
    have hsize : (bits.extract 0 bits.size).size = bits.size := by rw [Array.extract_size]
    have hlacks : (c.hostImage width height bits).Lacks
        (.bitmapTooShort .source (c.hostPlane width height) (bits.extract 0 bits.size).size) := by
      rw [hostPlane, PlaneLayout.planeBytes] at hcut hsource ⊢
      rw [hostImage, hcut]
      exact .source (by rwa [hsize])
    rwa [hsize] at hlacks
  · have henough : c.hostPlane width height ≤ bits.size := not_lt.1 hsource
    have hsize : (bits.extract (c.hostPlane width height) bits.size).size = bits.size - c.hostPlane width height := by
      rw [Array.size_extract, Nat.min_self]
    have hfull : c.hostPlane width height ≤ (bits.extract 0 (c.hostPlane width height)).size := by
      rw [Array.size_extract]
      omega
    have hcut : (bits.extract (c.hostPlane width height) bits.size).size < c.hostPlane width height := by
      rw [hsize]
      omega
    rw [hostImage_eq henough, ← hsize]
    exact .mask hfull hcut

theorem hostImage_not_lacks (henough : 2 * c.hostPlane width height ≤ bits.size) (e : RasterError) :
    ¬(c.hostImage width height bits).Lacks e := by
  rw [hostImage_eq (by omega)]
  refine Image.not_lacks_mono ?_ ?_ e
  all_goals
    rw [Array.size_extract]
    change c.hostPlane width height ≤ _
    omega

/-- The bytes behind the planes make no difference to the image. -/
theorem hostImage_alike (henough : 2 * c.hostPlane width height ≤ bits.size)
    (henough' : 2 * c.hostPlane width height ≤ bits'.size)
    (hsame : ∀ i < 2 * c.hostPlane width height, bits'[i]? = bits[i]?) :
    (c.hostImage width height bits).Alike (c.hostImage width height bits') := by
  rw [hostImage_eq (by omega), hostImage_eq (by omega)]
  constructor
  all_goals
    intro y hy x hx
    have hplace : y * c.settings.layout.rowBytes width + x / 8 < c.hostPlane width height :=
      PlaneLayout.row_lt hx hy
    rw [PlaneLayout.bit_extract (by omega), PlaneLayout.bit_extract (by omega)]
    exact (PlaneLayout.bit_congr (hsame _ (by omega))).symm

/-! ## Loads -/

/-- The firmware agrees to a place if the request for it is free of faults. -/
theorem tell_place_sound (c : Controller Firmware) (hfault : c.link.device.isFaulty Tag.setCursorState.id = false)
    (enabled : Bool) (x y : Int32) :
    ∃ m l, Message.request .setCursorState (placeRequest enabled x y) = .ok m ∧ l.sent = c.link.sent.push m ∧
      c.tell .setCursorState (placeRequest enabled x y) = (.ok (), { c with link := l }) ∧
      l.device = (c.link.device.act .setCursorState (placeRequest enabled x y)).1.logRequest m := by
  have hfit : (placeRequest enabled x y).length ≤ 26 := by simp [placeRequest]
  obtain ⟨m, hm, hasked⟩ :=
    Firmware.askWord_firmware c.link .setCursorState (placeRequest enabled x y) (le_refl 3) hfit
  obtain ⟨l, htold, hdevice, hsent⟩ := c.tell_eq .setCursorState (placeRequest enabled x y)
  rw [if_pos (Firmware.takes_of_ne hfault (by decide))] at hasked
  refine ⟨m, l, hm, ?_, ?_, hdevice.trans hasked.2⟩
  · rw [hsent, Link.askWord_sent hm]
  · rw [htold, hasked.1]
    rfl

theorem place_sound (hfault : c.link.device.isFaulty Tag.setCursorState.id = false) (enabled : Bool) (x y : Int32) :
    ∃ m l, Message.request .setCursorState (placeRequest enabled x y) = .ok m ∧ l.sent = c.link.sent.push m ∧
      c.place enabled x y =
        (.ok (), { c with link := l, surface := c.surface.putAt enabled x y, phase := shownPhase enabled }) := by
  obtain ⟨m, l, hm, hsent, htold, -⟩ := tell_place_sound c hfault enabled x y
  rcases c.place_cases enabled x y with ⟨e, c', hfailed, -⟩ | ⟨c', event, hplaced, hplace⟩
  · exact absurd (htold.symm.trans hfailed) not_failed
  · obtain ⟨-, rfl⟩ := Prod.mk.inj (htold.symm.trans hplaced)
    exact ⟨m, l.note event, hm, hsent, hplace⟩

/-- An image that is too large takes the cursor off the screen, and the firmware is not pointed at any picture. -/
theorem refuseImage_sound (hready : c.phase.isReady = true) (hagrees : c.Agrees)
    (hfault : c.link.device.isFaulty Tag.setCursorState.id = false) (w h : UInt32) :
    ∃ c', c.refuseImage w h = (.error (.geometryUnsupported w h), c') ∧ c'.phase = .hidden ∧
      ∃ more, c'.link.sent.toList = c.link.sent.toList ++ more ∧ ∀ m ∈ more, m.tag ≠ Tag.setCursorInfo.id := by
  rw [refuseImage]
  split_ifs with henabled
  · obtain ⟨m, l, hm, hsent, hplace⟩ := place_sound hfault false c.surface.x c.surface.y
    rw [hplace]
    refine ⟨_, rfl, rfl, [m], ?_, ?_⟩
    · rw [← Array.toList_push, ← hsent]
    · intro m' hm'
      rw [List.mem_singleton.1 hm', Message.tag_of_compose hm]
      decide
  · have hhidden : c.phase = .hidden := by
      rw [hagrees.ready hready, Bool.eq_false_iff.2 henabled]
      rfl
    exact ⟨c, rfl, hhidden, [], (List.append_nil _).symm, List.forall_mem_nil _⟩

/-- Images of one size that are drawn alike, if at all, are loaded alike. -/
theorem load_congr {image other : Image} (hw : other.width = image.width) (hh : other.height = image.height)
    (hrender : image.width ≤ maxCursorSize → image.height ≤ maxCursorSize →
      other.render c.surface.colors = image.render c.surface.colors) : c.load other = c.load image := by
  by_cases hlarge : maxCursorSize < image.width ∨ maxCursorSize < image.height
  · simp only [load, hw, hh, if_pos hlarge]
  · obtain ⟨hwidth, hheight⟩ := not_or.1 hlarge
    simp only [load, hw, hh, hrender (UInt32.not_lt.1 hwidth) (UInt32.not_lt.1 hheight)]

/-- An image that lacks something is refused, and the controller is as it was. -/
theorem load_of_lacks {image : Image} {e : RasterError} (hready : c.phase.isReady = true) (hw : image.width ≤ maxCursorSize)
    (hh : image.height ≤ maxCursorSize) (hlacks : image.Lacks e) : c.load image = (.error (.raster e), c) := by
  have hsmall : ¬(maxCursorSize < image.width ∨ maxCursorSize < image.height) :=
    not_or.2 ⟨UInt32.not_lt.2 hw, UInt32.not_lt.2 hh⟩
  rw [load, if_pos hready, if_neg hsmall, Image.render_of_lacks hw hh hlacks]

/-- The bytes behind the planes make no difference to anything. -/
theorem hostLoad_congr (henough : 2 * c.hostPlane width height ≤ bits.size)
    (hsame : ∀ i < 2 * c.hostPlane width height, bits'[i]? = bits[i]?) :
    c.hostLoad width height bits' = c.hostLoad width height bits := by
  have henough' : 2 * c.hostPlane width height ≤ bits'.size := by
    by_contra hshort
    have hend := hsame bits'.size (not_le.1 hshort)
    rw [Array.getElem?_eq_none le_rfl, Array.getElem?_eq_getElem (by omega)] at hend
    cases hend
  have hload : c.load (c.hostImage width height bits') = c.load (c.hostImage width height bits) := by
    refine load_congr rfl rfl fun hw hh => ?_
    have hother : (c.hostImage width height bits').render c.surface.colors = _ :=
      Image.render_eq_picture hw hh (Image.shortPlane?_eq_none_iff.2 (hostImage_not_lacks henough'))
    rw [hother, (hostImage_alike henough henough' hsame).picture_eq]
    exact (Image.render_eq_picture hw hh (Image.shortPlane?_eq_none_iff.2 (hostImage_not_lacks henough))).symm
  rw [hostLoad, hostLoad, hload]

end Controller

/-! ## Whole sessions -/

/-- the firmware shows the image that `bits` holds, each pixel by its bit in the source plane and the one in the mask plane, and
nothing beside it -/
structure ShowsBits (c : Controller Firmware) (layout : PlaneLayout) (colors : Palette) (width height : UInt32)
    (bits : Array UInt8) (pixels : List UInt32) : Prop where
  captured : c.link.device.cursorImage = some pixels
  geometry : ∃ g, c.link.device.cursorGeometry = some g ∧ g.width = shownSize width ∧ g.height = shownSize height
  length : pixels.length = (shownSize width).toNat * (shownSize height).toNat
  pixel : ∀ y < (shownSize height).toNat, ∀ x < (shownSize width).toNat, ∃ word,
    pixels[y * (shownSize width).toNat + x]? = some word ∧
      if x < width.toNat ∧ y < height.toNat then
        ∃ lit solid, layout.Reads bits (y * layout.rowBytes width) x lit ∧
          layout.Reads bits (layout.planeBytes width height + y * layout.rowBytes width) x solid ∧
          word.toNat = colors.ink lit solid
      else word = 0

/-- what becomes of an image of two colours that a controller is handed -/
structure HandedOver (c : Controller Firmware) (layout : PlaneLayout) (width height : UInt32) (bits : Array UInt8) :
    Prop where
  /-- no size that is computed on the way leaves the range of a machine word -/
  fits : layout.rowBits width < 2 ^ 64 ∧ layout.planeBytes width height < 2 ^ 64
  large : 64 < width ∨ 64 < height →
    (c.load (c.hostImage width height bits)).1 = .error (.geometryUnsupported width height) ∧
      (c.hostLoad width height bits).phase = .hidden ∧
      ∃ more, (c.hostLoad width height bits).link.sent.toList = c.link.sent.toList ++ more ∧
        ∀ m ∈ more, m.tag ≠ Tag.setCursorInfo.id
  /-- all that is left of an image that is cut short is an entry in the log -/
  short : width ≤ 64 → height ≤ 64 → bits.size < 2 * layout.planeBytes width height →
    (c.load (c.hostImage width height bits)).1 =
        .error (.raster
          (if bits.size < layout.planeBytes width height then
            .bitmapTooShort .source (layout.planeBytes width height) bits.size
          else
            .bitmapTooShort .mask (layout.planeBytes width height) (bits.size - layout.planeBytes width height))) ∧
      ∃ e, c.hostLoad width height bits = c.note e
  whole : width ≤ 64 → height ≤ 64 → 2 * layout.planeBytes width height ≤ bits.size →
    (c.load (c.hostImage width height bits)).1 = .ok () ∧
      ∃ pixels, ShowsBits (c.hostLoad width height bits) layout c.surface.colors width height bits pixels
  blind : 2 * layout.planeBytes width height ≤ bits.size →
    ∀ bits' : Array UInt8, (∀ i < 2 * layout.planeBytes width height, bits'[i]? = bits[i]?) →
      c.hostLoad width height bits' = c.hostLoad width height bits

namespace Holds

variable {c : Controller Firmware} {block : GpuBlock} {b : Block} {width height : UInt32} {bits : Array UInt8}

/-- Two planes in the string are an image in the transfer buffer and on the screen. -/
theorem hostLoad (h : Holds c block b) (hready : c.phase.isReady = true)
    (hfault : c.link.device.isFaulty Tag.setCursorInfo.id = false) (hw : width ≤ maxCursorSize)
    (hh : height ≤ maxCursorSize) (henough : 2 * c.hostPlane width height ≤ bits.size) :
    (c.load (c.hostImage width height bits)).1 = .ok () ∧
      ∃ pixels, ShowsBits (c.hostLoad width height bits) c.settings.layout c.surface.colors width height bits pixels := by
  have hlacks := Controller.hostImage_not_lacks henough
  have hplanes : (c.hostImage width height bits).shortPlane? = none := Image.shortPlane?_eq_none_iff.2 hlacks
  obtain ⟨m, l, event, hload, hafter⟩ := @load_eq c block b (c.hostImage width height bits) h hready hfault hw hh hplanes
  have himage : l.device.cursorImage = some _ := congrArg Firmware.cursorImage hafter
  have hgeometry : l.device.cursorGeometry = some _ := congrArg Firmware.cursorGeometry hafter
  rw [Controller.hostLoad, hload]
  refine ⟨rfl, _, himage, ⟨_, hgeometry, rfl, rfl⟩, ?_, fun y hy x hx => ?_⟩
  · rw [Array.length_toList, Image.size_picture]
    rfl
  rw [Array.getElem?_toList]
  refine ⟨_, Image.getElem_picture hx hy, ?_⟩
  by_cases hin : x < width.toNat ∧ y < height.toNat
  · have hshade : (c.hostImage width height bits).shade c.surface.colors x y = _ := if_pos hin
    have hdepicts : (c.hostImage width height bits).Depicts c.surface.colors x y _ :=
      Image.depicts_pixel hlacks hin.1 hin.2
    rw [if_pos hin, hshade]
    rw [Controller.hostImage_eq (by omega)] at hdepicts ⊢
    obtain ⟨lit, solid, hlit, hsolid, hword⟩ := hdepicts
    have hlit := hlit.of_extract
    rw [Nat.zero_add] at hlit
    exact ⟨lit, solid, hlit, hsolid.of_extract, hword⟩
  · rw [if_neg hin]
    exact if_neg hin

theorem handedOver (h : Holds c block b) (hagrees : c.Agrees) (hready : c.phase.isReady = true)
    (hinfo : c.link.device.isFaulty Tag.setCursorInfo.id = false)
    (hstate : c.link.device.isFaulty Tag.setCursorState.id = false) (width height : UInt32) (bits : Array UInt8) :
    HandedOver c c.settings.layout width height bits where
  fits := c.settings.layout.planeBytes_lt width height
  large hlarge := by
    have hload : c.load (c.hostImage width height bits) = c.refuseImage width height := by
      rw [Controller.load, if_pos hready]
      exact if_pos hlarge
    obtain ⟨c', hrefused, hhidden, hsent⟩ := Controller.refuseImage_sound hready hagrees hstate width height
    rw [Controller.hostLoad, hload, hrefused]
    exact ⟨rfl, hhidden, hsent⟩
  short hw hh hshort := by
    have hload : c.load (c.hostImage width height bits) = _ :=
      Controller.load_of_lacks hready hw hh (Controller.hostImage_lacks hshort)
    rw [Controller.hostLoad, hload]
    exact ⟨rfl, _, rfl⟩
  whole hw hh henough := h.hostLoad hready hinfo hw hh henough
  blind henough _ hsame := Controller.hostLoad_congr henough hsame

end Holds

/-- **Strings of bytes as images.** After any session that leaves the controller ready, and with no fault on the requests for
the picture and the cursor's place: whatever size and bytes the windowing system hands over, with settings of any layout, an
image that is too large takes the cursor off the screen, one that is cut short changes nothing, and any other one is shown as
its bits say. Bytes behind the two planes have no part in it. -/
theorem session_hostLoad (id : Nat) (settings : CursorSettings) (actions : List Action) (width height : UInt32)
    (bits : Array UInt8) (hready : ((Controller.new id settings).session actions).phase.isReady = true)
    (hinfo : ((Controller.new id settings).session actions).link.device.isFaulty Tag.setCursorInfo.id = false)
    (hstate : ((Controller.new id settings).session actions).link.device.isFaulty Tag.setCursorState.id = false) :
    HandedOver ((Controller.new id settings).session actions) settings.layout width height bits := by
  obtain ⟨block, b, hb⟩ := (session_tenure id settings actions).held hready
  have hagrees : ((Controller.new id settings).session actions).Agrees :=
    Controller.session_keeps Controller.Agrees.invariant (fun _ _ h => h.congr rfl rfl) _ actions ⟨fun _ => rfl, nofun⟩
  have hsettings : ((Controller.new id settings).session actions).settings = settings :=
    Controller.session_keeps (Controller.settings_invariant settings) (fun _ _ h => h) _ actions rfl
  have hhanded := hb.handedOver hagrees hready hinfo hstate width height bits
  rwa [hsettings] at hhanded

/-- Two pixels, the leftmost bit first, and a byte too many; a row that is too long; and nine pixels with a byte too few. -/
theorem session_hostLoad_msbFirst : ∃ c : Controller Firmware,
    c = (Controller.new 0 ⟨.default, minCursorFirmware, ⟨8, .msbFirst⟩⟩).session [.operate .start, .operate .hostShow] ∧
      c.phase.isReady = true ∧ c.link.device.isFaulty Tag.setCursorInfo.id = false ∧
      c.link.device.isFaulty Tag.setCursorState.id = false ∧
      (∃ pixels, (c.hostLoad 2 1 #[0x40, 0xc0, 0xff]).link.device.cursorImage = some pixels ∧ pixels.length = 256 ∧
        pixels[0]? = some 0xff000000 ∧ pixels[1]? = some 0xffffffff ∧ pixels[2]? = some 0) ∧
      (c.hostLoad 65 1 #[]).phase = .hidden ∧ ∃ e, c.hostLoad 9 1 #[0xff, 0xff, 0xff] = c.note e := by
  obtain ⟨c, hc⟩ : ∃ c : Controller Firmware,
    c = (Controller.new 0 ⟨.default, minCursorFirmware, ⟨8, .msbFirst⟩⟩).session [.operate .start, .operate .hostShow] :=
    ⟨_, rfl⟩
  have hready : c.phase.isReady = true := by
    rw [hc]
    decide +kernel
  have hinfo : c.link.device.isFaulty Tag.setCursorInfo.id = false := by
    rw [hc]
    decide +kernel
  have hstate : c.link.device.isFaulty Tag.setCursorState.id = false := by
    rw [hc]
    decide +kernel
  have hcolors : c.surface.colors = .default := by
    rw [hc]
    decide +kernel
  have hhanded (width height : UInt32) (bits : Array UInt8) : HandedOver c ⟨8, .msbFirst⟩ width height bits := by
    rw [hc] at hready hinfo hstate ⊢
    exact session_hostLoad 0 ⟨.default, minCursorFirmware, ⟨8, .msbFirst⟩⟩ [.operate .start, .operate .hostShow] width height
      bits hready hinfo hstate
  obtain ⟨-, pixels, hshows⟩ := (hhanded 2 1 #[0x40, 0xc0, 0xff]).whole (by decide) (by decide) (by decide)
  have hblack : pixels[0]? = some 0xff000000 := by
    obtain ⟨word, hword, lit, solid, hlit, hsolid, hink⟩ := hshows.pixel 0 (by decide +kernel) 0 (by decide +kernel)
    obtain rfl : lit = false := hlit.unique ⟨0x40, rfl, rfl⟩
    obtain rfl : solid = true := hsolid.unique ⟨0xc0, rfl, rfl⟩
    rw [hcolors] at hink
    obtain rfl : word = 0xff000000 := UInt32.toNat_inj.1 hink
    exact hword
  have hwhite : pixels[1]? = some 0xffffffff := by
    obtain ⟨word, hword, lit, solid, hlit, hsolid, hink⟩ := hshows.pixel 0 (by decide +kernel) 1 (by decide +kernel)
    obtain rfl : lit = true := hlit.unique ⟨0x40, rfl, rfl⟩
    obtain rfl : solid = true := hsolid.unique ⟨0xc0, rfl, rfl⟩
    rw [hcolors] at hink
    obtain rfl : word = 0xffffffff := UInt32.toNat_inj.1 hink
    exact hword
  have hclear : pixels[2]? = some 0 := by
    obtain ⟨word, hword, rfl⟩ := hshows.pixel 0 (by decide +kernel) 2 (by decide +kernel)
    exact hword
  obtain ⟨-, hhidden, -⟩ := (hhanded 65 1 #[]).large (by decide)
  obtain ⟨-, hnoted⟩ := (hhanded 9 1 #[0xff, 0xff, 0xff]).short (by decide) (by decide) (by decide)
  exact ⟨c, hc, hready, hinfo, hstate, ⟨pixels, hshows.captured, hshows.length, hblack, hwhite, hclear⟩, hhidden, hnoted⟩

end MailboxCursor
