/-
Pictures that the emulated firmware captures: from which block (`imageBlock?`) and which words of it (`imageOn`).
`setCursorGeometry_eq` is the request for a picture in these terms.
-/
import Mathlib.Tactic
import MailboxCursor.Firmware.Respond

namespace MailboxCursor

/-- Bytes of which no word can be taken are fewer than four. -/
theorem length_lt_four {bs : List UInt8} (h : ∀ a b c d rest, bs = a :: b :: c :: d :: rest → False) :
    bs.length < 4 := by
  by_contra hlong
  obtain ⟨a, b, c, d, rest, rfl⟩ : ∃ a b c d rest, bs = a :: b :: c :: d :: rest := by
    rcases bs with _ | ⟨a, _ | ⟨b, _ | ⟨c, _ | ⟨d, rest⟩⟩⟩⟩ <;> simp at hlong ⊢
  exact h a b c d rest rfl

theorem length_wordsOfBytes (bs : List UInt8) : (wordsOfBytes bs).length = bs.length / 4 := by
  fun_induction wordsOfBytes bs with
  | case1 a b c d rest ih =>
    simp only [List.length_cons, ih]
    omega
  | case2 bs h => rw [List.length_nil, Nat.div_eq_of_lt (length_lt_four h)]

namespace Firmware

/-- the block that an accepted geometry is read from -/
def imageBlock? (fw : Firmware) (g : CursorGeometry) : Option Block :=
  if g.isShowable then fw.blocks.find? fun b => b.isLocked && b.holds g.bus.val.toNat g.imageBytes else none

/-- the words that a geometry shows of a block -/
def imageOn (b : Block) (g : CursorGeometry) : List UInt32 :=
  wordsOfBytes (b.memory.read (g.bus.val.toNat - b.start) g.imageBytes)

theorem setCursorGeometry_eq (fw : Firmware) (g : CursorGeometry) : fw.setCursorGeometry g =
    match fw.imageBlock? g with
    | some b => ({ fw with cursorGeometry := some g, cursorImage := some (imageOn b g) }, statusOk)
    | none => (fw, statusError) := by
  rw [setCursorGeometry, imageBlock?]
  split_ifs
  · cases fw.blocks.find? fun b => b.isLocked && b.holds g.bus.val.toNat g.imageBytes <;> rfl
  · rfl

theorem isShowable_of_imageBlock? {fw : Firmware} {g : CursorGeometry} {b : Block} (h : fw.imageBlock? g = some b) :
    g.isShowable = true := by
  rw [imageBlock?] at h
  split_ifs at h with hshow
  exact hshow

theorem mem_of_imageBlock? {fw : Firmware} {g : CursorGeometry} {b : Block} (h : fw.imageBlock? g = some b) :
    b ∈ fw.blocks ∧ b.isLocked = true ∧ b.holds g.bus.val.toNat g.imageBytes = true := by
  rw [imageBlock?] at h
  split_ifs at h
  have hfound := List.find?_some h
  rw [Bool.and_eq_true] at hfound
  exact ⟨List.mem_of_find?_eq_some h, hfound⟩

theorem imageBytes_of_isShowable {g : CursorGeometry} (h : g.isShowable = true) :
    g.imageBytes = g.width.toNat * g.height.toNat * 4 := by
  simp only [CursorGeometry.isShowable, Bool.and_eq_true, decide_eq_true_eq, UInt32.le_iff_toNat_le] at h
  obtain ⟨⟨⟨⟨-, hw⟩, hh⟩, -⟩, -⟩ := h
  have hmax : CursorGeometry.maxSize.toNat = 64 := rfl
  rw [hmax] at hw hh
  have hprod : g.width.toNat * g.height.toNat ≤ 64 * 64 := Nat.mul_le_mul hw hh
  rw [CursorGeometry.imageBytes, UInt32.toNat_mul, Nat.mod_eq_of_lt (by omega)]

/-- A captured picture has a word for each pixel. -/
theorem length_imageOn {fw : Firmware} {g : CursorGeometry} {b : Block} (h : fw.imageBlock? g = some b) :
    (imageOn b g).length = g.width.toNat * g.height.toNat := by
  rw [imageOn, length_wordsOfBytes, Memory.length_read, imageBytes_of_isShowable (isShowable_of_imageBlock? h)]
  omega

end Firmware
end MailboxCursor
