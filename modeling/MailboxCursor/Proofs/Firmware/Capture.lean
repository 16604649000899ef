/-
Which cursor images are accepted, and what is captured of them.

`CursorGeometry.Fits` says which images the firmware ought to show, `Block.Backs` which memory it ought to read them from, and
`Block.Pixels` which words it then reads: each is four bytes of the block, least significant first. A block that backs an image
is the only one, for no other holds the same bytes. `run_captures` has it all, for every request in every state that a firmware
can come to; nothing in it mentions the order in which the firmware looks at the blocks.
-/
import MailboxCursor.Proofs.Firmware.Fate
import MailboxCursor.Proofs.Firmware.Handles
import MailboxCursor.Proofs.Firmware.Memory
import MailboxCursor.Proofs.Image.Reference

namespace MailboxCursor

/-- at least one pixel and at most 64, each way, and the hotspot on one of them -/
structure CursorGeometry.Fits (g : CursorGeometry) : Prop where
  width : 1 ≤ g.width.toNat ∧ g.width.toNat ≤ 64
  height : 1 ≤ g.height.toNat ∧ g.height.toNat ≤ 64
  hotspot : g.hotspotX.toNat < g.width.toNat ∧ g.hotspotY.toNat < g.height.toNat

/-- the number that the four bytes from offset `i` on stand for, least significant first -/
def Memory.number (m : Memory) (i : ℕ) : ℕ :=
  (m.byte i).toNat + (m.byte (i + 1)).toNat * 2 ^ 8 + (m.byte (i + 2)).toNat * 2 ^ 16 + (m.byte (i + 3)).toNat * 2 ^ 24

namespace Block

/-- every byte of the image lies inside the block, which is locked -/
structure Backs (b : Block) (g : CursorGeometry) : Prop where
  locked : b.isLocked = true
  start : b.start ≤ g.bus.val.toNat
  stop : g.bus.val.toNat + 4 * (g.width.toNat * g.height.toNat) ≤ b.stop

/-- the words of the image, as they stand in the block from the image's bus address on -/
structure Pixels (b : Block) (g : CursorGeometry) (words : List UInt32) : Prop where
  length : words.length = g.width.toNat * g.height.toNat
  number : ∀ i < g.width.toNat * g.height.toNat, ∃ word, words[i]? = some word ∧
    word.toNat = b.memory.number (g.bus.val.toNat - b.start + 4 * i)

end Block

/-! ## Words out of bytes -/

/-- A word of a run of bytes is made of the four bytes at its place. -/
theorem getElem?_wordsOfBytes (bs : List UInt8) {i : ℕ} {a b c d : UInt8} (ha : bs[4 * i]? = some a)
    (hb : bs[4 * i + 1]? = some b) (hc : bs[4 * i + 2]? = some c) (hd : bs[4 * i + 3]? = some d) :
    (wordsOfBytes bs)[i]? = some (wordOfBytes a b c d) := by
  -- the words are read off in steps of four bytes, so the place counts down with them
  fun_induction wordsOfBytes bs generalizing i with
  | case1 a' b' c' d' rest ih =>
    cases i with
    | zero =>
      obtain rfl : a' = a := Option.some.inj ha
      obtain rfl : b' = b := Option.some.inj hb
      obtain rfl : c' = c := Option.some.inj hc
      obtain rfl : d' = d := Option.some.inj hd
      rfl
    | succ i => exact ih ha hb hc hd
  | case2 bs hshort =>
    obtain ⟨hlong, -⟩ := List.getElem?_eq_some_iff.1 hd
    have hlength := length_lt_four hshort
    omega

namespace Memory

/-- A word that is read out of a window of the memory. -/
theorem getElem?_wordsOfBytes_read (m : Memory) {i n k : ℕ} (hk : k < n) :
    ∃ word, (wordsOfBytes (m.read i (n * 4)))[k]? = some word ∧ word.toNat = m.number (i + 4 * k) := by
  have hbyte (j : ℕ) (hj : j < 4) : (m.read i (n * 4))[4 * k + j]? = some (m.byte (i + 4 * k + j)) := by
    rw [getElem?_read (show 4 * k + j < n * 4 by omega), Nat.add_assoc]
  refine ⟨_, getElem?_wordsOfBytes _ (hbyte 0 (by decide)) (hbyte 1 (by decide)) (hbyte 2 (by decide))
    (hbyte 3 (by decide)), ?_⟩
  rw [toNat_wordOfBytes, number]
  simp only [Nat.add_zero]
  omega

end Memory

namespace Firmware

variable {fw : Firmware} {g : CursorGeometry} {b : Block}

/-! ## The block of an image -/

theorem isShowable_iff : g.isShowable = true ↔ g.Fits := by
  have hzero (w : UInt32) : w ≠ 0 ↔ 1 ≤ w.toNat := by
    rw [ne_eq, ← UInt32.toNat_inj]
    exact Nat.one_le_iff_ne_zero.symm
  have hmax : CursorGeometry.maxSize.toNat = 64 := rfl
  simp only [CursorGeometry.isShowable, Bool.and_eq_true, bne_iff_ne, decide_eq_true_eq, hzero, UInt32.le_iff_toNat_le,
    UInt32.lt_iff_toNat_lt, hmax]
  constructor
  · rintro ⟨⟨⟨⟨⟨hw, hh⟩, hw'⟩, hh'⟩, hx⟩, hy⟩
    exact ⟨⟨hw, hw'⟩, ⟨hh, hh'⟩, hx, hy⟩
  · rintro ⟨⟨hw, hw'⟩, ⟨hh, hh'⟩, hx, hy⟩
    exact ⟨⟨⟨⟨⟨hw, hh⟩, hw'⟩, hh'⟩, hx⟩, hy⟩

theorem backs_iff (hfits : g.Fits) :
    b.Backs g ↔ b.isLocked = true ∧ b.holds g.bus.val.toNat g.imageBytes = true := by
  rw [Block.holds_iff, imageBytes_of_isShowable (isShowable_iff.2 hfits), Nat.mul_comm _ 4]
  constructor
  · rintro ⟨hlocked, hstart, hstop⟩
    exact ⟨hlocked, hstart, hstop⟩
  · rintro ⟨hlocked, hstart, hstop⟩
    exact ⟨hlocked, hstart, hstop⟩

/-- An image is read from some block exactly if it fits and a block backs it. -/
theorem isSome_imageBlock?_iff : (fw.imageBlock? g).isSome = true ↔ g.Fits ∧ ∃ b ∈ fw.blocks, b.Backs g := by
  rw [imageBlock?]
  by_cases hfits : g.Fits
  · rw [if_pos (isShowable_iff.2 hfits), List.find?_isSome]
    simp only [backs_iff hfits, hfits, true_and, Bool.and_eq_true]
  · rw [if_neg (mt isShowable_iff.1 hfits)]
    exact iff_of_false Bool.false_ne_true fun h => hfits h.1

/-- Only one block has the bytes of an image inside it. -/
theorem eq_of_backs (h : BusSpace fw.blocks fw.nextHandle) (hfits : g.Fits) (hb : b ∈ fw.blocks) (hbacks : b.Backs g)
    {c : Block} (hc : c ∈ fw.blocks) (hstart : c.start ≤ g.bus.val.toNat)
    (hstop : g.bus.val.toNat + 4 * (g.width.toNat * g.height.toNat) ≤ c.stop) : c = b := by
  have hfilled : 0 < 4 * (g.width.toNat * g.height.toNat) :=
    Nat.mul_pos (by decide) (Nat.mul_pos hfits.width.1 hfits.height.1)
  exact h.unique hfilled hc hb (Block.holds_iff.2 ⟨hstart, hstop⟩) (Block.holds_iff.2 ⟨hbacks.start, hbacks.stop⟩)

theorem pixels_imageOn (hblock : fw.imageBlock? g = some b) : b.Pixels g (imageOn b g) where
  length := length_imageOn hblock
  number i hi := by
    rw [imageOn, imageBytes_of_isShowable (isShowable_of_imageBlock? hblock)]
    exact b.memory.getElem?_wordsOfBytes_read hi

/-! ## Requests for an image -/

/-- what a request for an image that is answered with `status` makes of the firmware -/
structure Captures (fw : Firmware) (g : CursorGeometry) (status : UInt32) (d : Firmware) : Prop where
  accepted : status = 0 ↔ g.Fits ∧ ∃ b ∈ fw.blocks, b.Backs g
  /-- the image is captured from the only block that it lies in; nothing else changes but the log -/
  captured : status = 0 → ∃ b ∈ fw.blocks, b.Backs g ∧
    (∀ c ∈ fw.blocks, c.start ≤ g.bus.val.toNat →
      g.bus.val.toNat + 4 * (g.width.toNat * g.height.toNat) ≤ c.stop → c = b) ∧
    ∃ words, b.Pixels g words ∧
      d = { fw with cursorGeometry := some g, cursorImage := some words, requests := d.requests }
  /-- a request that is refused is logged, and nothing else -/
  refused : status ≠ 0 → fw.Untouched d

theorem setCursorGeometry_captures (h : BusSpace fw.blocks fw.nextHandle) (g : CursorGeometry) (m : Message) :
    Captures fw g (fw.setCursorGeometry g).2 ((fw.setCursorGeometry g).1.logRequest m) := by
  have haccepted : (fw.imageBlock? g).isSome = true ↔ g.Fits ∧ ∃ b ∈ fw.blocks, b.Backs g := isSome_imageBlock?_iff
  rw [setCursorGeometry_eq]
  cases hblock : fw.imageBlock? g with
  | none =>
    rw [hblock] at haccepted
    have hstatus : statusError ≠ 0 := by decide
    exact ⟨iff_of_false hstatus fun hback => Bool.false_ne_true (haccepted.2 hback),
      fun hzero => absurd hzero hstatus, fun _ => fw.untouched_logRequest m⟩
  | some b =>
    rw [hblock] at haccepted
    have hfits : g.Fits := (haccepted.1 rfl).1
    obtain ⟨hmem, hlocked, hholds⟩ := mem_of_imageBlock? hblock
    have hbacks : b.Backs g := (backs_iff hfits).2 ⟨hlocked, hholds⟩
    exact ⟨iff_of_true rfl (haccepted.1 rfl),
      fun _ => ⟨b, hmem, hbacks, fun c hc => eq_of_backs h hfits hmem hbacks hc, _, pixels_imageOn hblock, rfl⟩,
      fun hstatus => absurd rfl hstatus⟩

/-- **An image is accepted if it fits and lies in a locked block**, and then it is captured as it stands there. In whatever
state a firmware is, a request for an image that comes through is answered with a status. It is zero exactly if the image
fits and every byte of it lies inside a live block that is locked. Then that block is the only one, the geometry is the one
of the request, the captured image is made of the words that stand in the block, and nothing else has changed but the log.
With any other status, nothing has changed but the log. -/
theorem run_captures (id : Nat) (steps : List Step) {m : Message} {w h f bus hx hy : UInt32} {rest : List UInt32}
    (htag : m.tag = Tag.setCursorInfo.id) (hfault : ((fresh id).run steps).isFaulty m.tag = false)
    (hwhole : m.sizeBytes.toNat = m.len * 4) (hrequest : m.requestPayload = w :: h :: f :: bus :: hx :: hy :: rest) :
    ∃ status, (((fresh id).run steps).exchange m).word m = .ok status ∧
      Captures ((fresh id).run steps) ⟨w, h, f, ⟨bus⟩, hx, hy⟩ status (((fresh id).run steps).exchange m).device := by
  have hspace := run_keeps_busSpace (busSpace_fresh id) steps
  generalize (fresh id).run steps = fw at hfault hspace ⊢
  have hlong : Tag.setCursorInfo.requestWords ≤ m.requestPayload.length := by
    rw [hrequest]
    simp [Tag.requestWords]
  have haccepts : fw.accepts? m = some (.setCursorInfo, m.requestPayload) :=
    accepts?_eq_some_iff.2
      ⟨hfault, hwhole, by rw [htag, Tag.ofWord?_id], rfl, hlong, exhaustsLocks_of_ne (by decide)⟩
  have hroom : Tag.setCursorInfo.responseWords ≤ m.valueWords :=
    (show 1 ≤ 6 by decide).trans (hlong.trans m.length_requestPayload_le)
  have hact : fw.act .setCursorInfo m.requestPayload =
      ((fw.setCursorGeometry ⟨w, h, f, ⟨bus⟩, hx, hy⟩).1, [(fw.setCursorGeometry ⟨w, h, f, ⟨bus⟩, hx, hy⟩).2]) := by
    rw [hrequest]
    rfl
  refine ⟨_, word_of_accepts haccepts hroom, ?_⟩
  rw [exchange_of_accepts haccepts, hact]
  exact setCursorGeometry_captures hspace _ m

/-- The last two words of a locked block are captured; one byte further on, the image is refused. -/
theorem run_captures_last :
    let fw := (fresh 0).run (asking [(.allocateMemory, [16, 4096, 16]), (.lockMemory, [1])] ++
      [.write ⟨0, 0xde000000, 16, 0, ⟨0xde000000⟩, 16⟩ 8 [1, 2, 3, 4, 5]])
    ∃ m m', Message.request .setCursorInfo [2, 1, 0, 0xde000008, 1, 0] = .ok m ∧
      Message.request .setCursorInfo [2, 1, 0, 0xde000009, 1, 0] = .ok m' ∧
      (m.tag = Tag.setCursorInfo.id ∧ fw.isFaulty m.tag = false ∧ m.sizeBytes.toNat = m.len * 4 ∧
        m.requestPayload = [2, 1, 0, 0xde000008, 1, 0]) ∧
      (m'.tag = Tag.setCursorInfo.id ∧ fw.isFaulty m'.tag = false ∧ m'.sizeBytes.toNat = m'.len * 4 ∧
        m'.requestPayload = [2, 1, 0, 0xde000009, 1, 0]) ∧
      (fw.exchange m).word m = .ok 0 ∧ (fw.exchange m).device.cursorImage = some [0x04030201, 0x00000005] ∧
      (fw.exchange m).device.blocks = fw.blocks ∧ fw.Untouched (fw.exchange m').device := by
  intro fw
  let ask (bus : UInt32) : Message :=
    ⟨Vector.ofFn fun i => (Message.image Tag.setCursorInfo.id [2, 1, 0, bus, 1, 0] 6).getD i 0, 12, by decide⟩
  have hask (bus : UInt32) : Message.request .setCursorInfo [2, 1, 0, bus, 1, 0] = .ok (ask bus) := rfl
  have htag (bus : UInt32) : (ask bus).tag = Tag.setCursorInfo.id := Message.tag_of_compose (hask bus)
  have hfault (bus : UInt32) : fw.isFaulty (ask bus).tag = false := by
    rw [htag]
    decide +kernel
  have hwhole (bus : UInt32) : (ask bus).sizeBytes.toNat = (ask bus).len * 4 := Message.sizeBytes_of_compose (hask bus)
  have hrequest (bus : UInt32) : (ask bus).requestPayload = [2, 1, 0, bus, 1, 0] :=
    Message.requestPayload_of_compose (hask bus)
  have hcaptures (bus : UInt32) : ∃ status, (fw.exchange (ask bus)).word (ask bus) = .ok status ∧
      Captures fw ⟨2, 1, 0, ⟨bus⟩, 1, 0⟩ status (fw.exchange (ask bus)).device :=
    run_captures 0 _ (htag bus) (hfault bus) (hwhole bus) (hrequest bus)
  have hzero : (fw.exchange (ask 0xde000008)).word (ask 0xde000008) = .ok 0 := by decide +kernel
  have hone : (fw.exchange (ask 0xde000009)).word (ask 0xde000009) = .ok 1 := by decide +kernel
  obtain ⟨status, hstatus, hcaptured⟩ := hcaptures 0xde000008
  obtain rfl : status = 0 := Except.ok.inj (hstatus.symm.trans hzero)
  obtain ⟨status', hstatus', hrefused⟩ := hcaptures 0xde000009
  obtain rfl : status' = 1 := Except.ok.inj (hstatus'.symm.trans hone)
  obtain ⟨b, -, -, -, words, -, hdevice⟩ := hcaptured.captured rfl
  refine ⟨ask 0xde000008, ask 0xde000009, rfl, rfl, ⟨htag _, hfault _, hwhole _, hrequest _⟩,
    ⟨htag _, hfault _, hwhole _, hrequest _⟩, hzero, by decide +kernel, ?_, hrefused.refused (by decide)⟩
  rw [hdevice]

end Firmware
end MailboxCursor
