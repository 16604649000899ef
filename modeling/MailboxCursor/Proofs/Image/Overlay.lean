/-
A picture laid into a buffer that is shorter or longer than it.

`layWords` lays words one after the other, four bytes each, until the words or the whole chunks of the buffer run out, and this
is how a picture goes into a buffer (`overlay_eq_layWords`). `Laid` is what the buffer is to look like then, byte by byte. The
round that ends it all leads there, and so does one that lays a word in front of the rest, hence any number of rounds
(`layWords_laid`); and there is no other such buffer (`Laid.unique`).

`overlay_clips` has it for pictures: laid into a buffer, over another picture, into a window of a block's memory, and as the
firmware captures them from there.
-/
import Mathlib.Tactic
import MailboxCursor.Image.Raster
import MailboxCursor.Proofs.Firmware.Memory
import MailboxCursor.Proofs.Firmware.Picture

namespace MailboxCursor

open Firmware

/-- words laid over a buffer one after the other, as long as there is one and four bytes for it, and how many bytes they
take -/
def layWords : List UInt32 → List UInt8 → List UInt8 × ℕ
  | w :: ws, _ :: _ :: _ :: _ :: rest => (wordBytes w ++ (layWords ws rest).1, (layWords ws rest).2 + 4)
  | _, dst => (dst, 0)

/-- what the words `ws` make of the buffer `dst`, and how many bytes of it they take -/
structure Laid (ws : List UInt32) (dst : List UInt8) (laid : List UInt8 × ℕ) : Prop where
  /-- whole words, as many as there are and as the buffer has room for -/
  count : laid.2 = 4 * min (dst.length / 4) ws.length
  length : laid.1.length = dst.length
  /-- the bytes are read as the first of the words -/
  words : wordsOfBytes (laid.1.take laid.2) = ws.take (laid.2 / 4)
  /-- each of them is a digit of its word to the base 256, the least significant first -/
  bytes : ∀ i < laid.2, ∃ byte word, laid.1[i]? = some byte ∧ ws[i / 4]? = some word ∧
    byte.toNat = word.toNat / 256 ^ (i % 4) % 256
  rest : laid.1.drop laid.2 = dst.drop laid.2

/-- what is to hold of a picture that is laid into a buffer -/
structure Picture.Clips (r : Picture) : Prop where
  laid : ∀ dst laid, r.overlay dst = laid ↔ Laid r.pixels.toList dst laid
  /-- no word of the buffer is a part of a pixel -/
  words : ∀ dst, wordsOfBytes (r.overlay dst).1 =
    r.pixels.toList.take (dst.length / 4) ++ (wordsOfBytes dst).drop r.pixels.size
  /-- of a picture that was laid there before, nothing is left but what lies behind this one -/
  behind : ∀ (first : Picture) (dst : List UInt8), r.overlay (first.overlay dst).1 =
    ((r.overlay dst).1.take (r.overlay dst).2 ++ (first.overlay dst).1.drop (r.overlay dst).2, (r.overlay dst).2)
  /-- a window of a memory is a buffer like any other -/
  window : ∀ (m : Memory) (i room : ℕ),
    (m.write i (r.bytesWithin room)).read i room = (r.overlay (m.read i room)).1
  /-- what the firmware captures where the picture was laid into a window, be the image smaller than the window or larger -/
  captured : ∀ (b : Block) (g : CursorGeometry) (room : ℕ),
    imageOn { b with memory := b.memory.write (g.bus.val.toNat - b.start) (r.bytesWithin room) } g =
      r.pixels.toList.take (min (g.imageBytes / 4) (room / 4)) ++ (imageOn b g).drop (min (room / 4) r.pixels.size)

/-! ## Words among bytes -/

variable {ws : List UInt32} {bs dst : List UInt8} {w : UInt32} {laid laid' : List UInt8 × ℕ}

/-- The bytes of a word are its digits to the base 256. -/
theorem toNat_getElem_wordBytes (w : UInt32) {k : ℕ} (h : k < (wordBytes w).length) :
    (wordBytes w)[k].toNat = w.toNat / 256 ^ k % 256 := by
  have hk : k < 4 := h
  have hbyte (n : UInt32) : (w >>> n).toUInt8.toNat = w.toNat / 2 ^ (n.toNat % 32) % 256 := by
    rw [UInt32.toNat_toUInt8, UInt32.toNat_shiftRight, Nat.shiftRight_eq_div_pow]
  interval_cases k
  · show w.toUInt8.toNat = _
    rw [UInt32.toNat_toUInt8, Nat.pow_zero, Nat.div_one]
  · exact hbyte 8
  · exact hbyte 16
  · exact hbyte 24

theorem wordsOfBytes_of_short (h : bs.length < 4) : wordsOfBytes bs = [] :=
  List.eq_nil_of_length_eq_zero (by rw [length_wordsOfBytes, Nat.div_eq_of_lt h])

theorem wordsOfBytes_bytesOfWords_append (ws : List UInt32) (bs : List UInt8) :
    wordsOfBytes (bytesOfWords ws ++ bs) = ws ++ wordsOfBytes bs := by
  induction ws with
  | nil => rfl
  | cons w ws ih =>
    rw [bytesOfWords, List.flatMap_cons, List.append_assoc]
    exact congrArg₂ List.cons (wordOfBytes_wordBytes w) ih

theorem wordsOfBytes_drop (bs : List UInt8) (k : ℕ) : wordsOfBytes (bs.drop (4 * k)) = (wordsOfBytes bs).drop k := by
  fun_induction wordsOfBytes bs generalizing k with
  | case1 a b c d rest ih =>
    cases k with
    | zero => rfl
    | succ k => exact ih k
  | case2 bs hnone =>
    have hshort := length_lt_four hnone
    rw [List.drop_nil, wordsOfBytes_of_short]
    rw [List.length_drop]
    omega

/-- A word that is not there as a whole is not read. -/
theorem wordsOfBytes_take (bs : List UInt8) (n : ℕ) : wordsOfBytes (bs.take n) = (wordsOfBytes bs).take (n / 4) := by
  fun_induction wordsOfBytes bs generalizing n with
  | case1 a b c d rest ih =>
    by_cases hn : n < 4
    · rw [Nat.div_eq_of_lt hn, List.take_zero, wordsOfBytes_of_short]
      rw [List.length_take]
      omega
    · obtain ⟨n, rfl⟩ : ∃ m, n = m + 4 := ⟨n - 4, by omega⟩
      rw [Nat.add_div_right n (by decide)]
      exact congrArg (List.cons _) (ih n)
  | case2 bs hnone =>
    have hshort := length_lt_four hnone
    rw [List.take_nil, wordsOfBytes_of_short]
    rw [List.length_take]
    omega

/-- Words that replace the front of a run of bytes, cut to its length. -/
theorem wordsOfBytes_front (ws : List UInt32) (bs : List UInt8) :
    wordsOfBytes ((bytesOfWords ws).take bs.length ++ bs.drop (4 * ws.length)) =
      ws.take (bs.length / 4) ++ (wordsOfBytes bs).drop ws.length := by
  by_cases hfits : 4 * ws.length ≤ bs.length
  · rw [List.take_of_length_le (by rw [length_bytesOfWords]; exact hfits), wordsOfBytes_bytesOfWords_append,
      wordsOfBytes_drop, List.take_of_length_le (by omega)]
  · rw [List.drop_of_length_le (by omega), List.append_nil, wordsOfBytes_take, wordsOfBytes_bytesOfWords,
      List.drop_of_length_le (by rw [length_wordsOfBytes]; omega), List.append_nil]

/-! ## Word by word -/

namespace Laid

/-- Without a word, or without four bytes for it, the buffer stays as it is. -/
theorem stop (h : ws = [] ∨ dst.length < 4) : Laid ws dst (dst, 0) where
  count := by
    show 0 = 4 * min (dst.length / 4) ws.length
    rcases h with rfl | h
    · rw [List.length_nil, Nat.min_zero]
    · rw [Nat.div_eq_of_lt h, Nat.zero_min]
  length := rfl
  words := by
    rw [List.take_zero, Nat.zero_div, List.take_zero]
    rfl
  bytes _ hi := absurd hi (Nat.not_lt_zero _)
  rest := rfl

/-- One word more, in front of four bytes more. -/
theorem lay (h : Laid ws dst laid) (w : UInt32) (a b c d : UInt8) :
    Laid (w :: ws) (a :: b :: c :: d :: dst) (wordBytes w ++ laid.1, laid.2 + 4) where
  count := by
    have hcount := h.count
    simp only [List.length_cons]
    omega
  length := congrArg (· + 4) h.length
  words := by
    show wordsOfBytes ((wordBytes w ++ laid.1).take (laid.2 + 4)) = (w :: ws).take ((laid.2 + 4) / 4)
    rw [Nat.add_div_right _ (by decide), List.take_succ_cons, ← h.words]
    exact congrArg (List.cons · _) (wordOfBytes_wordBytes w)
  bytes i hi := by
    by_cases hfirst : i < 4
    · rw [Nat.div_eq_of_lt hfirst, Nat.mod_eq_of_lt hfirst]
      have hbyte : i < (wordBytes w).length := hfirst
      refine ⟨_, w, ?_, rfl, toNat_getElem_wordBytes w hbyte⟩
      rw [List.getElem?_append_left hbyte, List.getElem?_eq_getElem hbyte]
    · obtain ⟨i, rfl⟩ : ∃ j, i = j + 4 := ⟨i - 4, by omega⟩
      rw [Nat.add_div_right _ (by decide), Nat.add_mod_right]
      exact h.bytes i (Nat.lt_of_add_lt_add_right hi)
  rest := h.rest

theorem unique (h : Laid ws dst laid) (h' : Laid ws dst laid') : laid = laid' := by
  have hcount : laid.2 = laid'.2 := h.count.trans h'.count.symm
  have hfront : laid.1.take laid.2 = laid'.1.take laid.2 := by
    refine List.ext_getElem? fun i => ?_
    rw [List.getElem?_take, List.getElem?_take]
    split_ifs with hi
    · obtain ⟨byte, word, hbyte, hword, hdigit⟩ := h.bytes i hi
      obtain ⟨byte', word', hbyte', hword', hdigit'⟩ := h'.bytes i (hcount ▸ hi)
      obtain rfl : word = word' := Option.some.inj (hword.symm.trans hword')
      rw [hbyte, hbyte', UInt8.toNat_inj.1 (hdigit.trans hdigit'.symm)]
    · rfl
  refine Prod.ext ?_ hcount
  rw [← List.take_append_drop laid.2 laid.1, ← List.take_append_drop laid.2 laid'.1, hfront, h.rest, hcount, h'.rest]

end Laid

theorem layWords_laid (ws : List UInt32) (dst : List UInt8) : Laid ws dst (layWords ws dst) := by
  fun_induction layWords ws dst with
  | case1 w ws a b c d rest ih => exact ih.lay w a b c d
  | case2 ws dst hstop =>
    cases ws with
    | nil => exact .stop (Or.inl rfl)
    | cons w ws => exact .stop (Or.inr (length_lt_four fun a b c d rest => hstop w ws a b c d rest rfl))

/-! ## Pictures -/

namespace Picture

variable (r : Picture)

theorem overlay_eq_layWords (dst : List UInt8) : r.overlay dst = layWords r.pixels.toList dst := by
  rw [overlay, bytesWithin]
  generalize r.pixels.toList = ws
  fun_induction layWords ws dst with
  | case1 w ws a b c d rest ih =>
    have hchunks : (a :: b :: c :: d :: rest).length / 4 = rest.length / 4 + 1 :=
      Nat.add_div_right rest.length (show 0 < 4 by decide)
    rw [hchunks, List.take_succ_cons, ← ih]
    rfl
  | case2 ws dst hstop =>
    have hnone : ws.take (dst.length / 4) = [] := by
      cases ws with
      | nil => exact List.take_nil
      | cons w ws =>
        have hshort := length_lt_four fun a b c d rest => hstop w ws a b c d rest rfl
        rw [Nat.div_eq_of_lt hshort, List.take_zero]
    rw [hnone]
    rfl

theorem overlay_laid (dst : List UInt8) : Laid r.pixels.toList dst (r.overlay dst) := by
  rw [overlay_eq_layWords]
  exact layWords_laid r.pixels.toList dst

theorem wordsOfBytes_overlay (dst : List UInt8) :
    wordsOfBytes (r.overlay dst).1 = r.pixels.toList.take (dst.length / 4) ++ (wordsOfBytes dst).drop r.pixels.size := by
  have hwords : wordsOfBytes (r.overlay dst).1 = r.pixels.toList.take (dst.length / 4) ++
      (wordsOfBytes dst).drop (min (dst.length / 4) r.pixels.size) := by
    rw [overlay, r.length_bytesWithin, bytesWithin, wordsOfBytes_bytesOfWords_append, wordsOfBytes_drop]
  -- a buffer without room for all the pixels has no word behind them
  rw [hwords, List.append_cancel_left_eq, List.drop_eq_drop_iff, length_wordsOfBytes]
  omega

theorem overlay_overlay (first : Picture) (dst : List UInt8) : r.overlay (first.overlay dst).1 =
    ((r.overlay dst).1.take (r.overlay dst).2 ++ (first.overlay dst).1.drop (r.overlay dst).2, (r.overlay dst).2) := by
  have hfront : (r.overlay dst).1.take (r.overlay dst).2 = r.bytesWithin dst.length := List.take_left
  rw [hfront, overlay, (first.overlay_laid dst).length]
  rfl

theorem read_write_bytesWithin (m : Memory) (i room : ℕ) :
    (m.write i (r.bytesWithin room)).read i room = (r.overlay (m.read i room)).1 := by
  have hfits : (r.bytesWithin room).length ≤ room := by
    rw [r.length_bytesWithin]
    omega
  rw [Memory.read_write, List.take_of_length_le hfits, overlay, Memory.length_read]

theorem imageOn_write_bytesWithin (b : Block) (g : CursorGeometry) (room : ℕ) :
    imageOn { b with memory := b.memory.write (g.bus.val.toNat - b.start) (r.bytesWithin room) } g =
      r.pixels.toList.take (min (g.imageBytes / 4) (room / 4)) ++
        (imageOn b g).drop (min (room / 4) r.pixels.size) := by
  have hfront := wordsOfBytes_front (r.pixels.toList.take (room / 4))
    (b.memory.read (g.bus.val.toNat - b.start) g.imageBytes)
  rw [Memory.length_read, List.length_take, Array.length_toList, List.take_take, ← r.length_bytesWithin] at hfront
  show wordsOfBytes ((b.memory.write (g.bus.val.toNat - b.start) (r.bytesWithin room)).read
    (g.bus.val.toNat - b.start) g.imageBytes) = _
  rw [Memory.read_write]
  exact hfront

/-- **A picture is clipped to the buffer that it is laid into.** As many whole pixels go in as there are and as the buffer has
room for, each as the four bytes of its word, the least significant first. Behind them nothing changes, nor does the length, so
there is one such buffer only. Of a picture that lay there before, nothing is left but what lies behind the new one. A window of
a block's memory is a buffer too, and the firmware captures the pixels from it. -/
theorem overlay_clips : r.Clips where
  laid dst _ := ⟨fun h => h ▸ r.overlay_laid dst, (r.overlay_laid dst).unique⟩
  words := r.wordsOfBytes_overlay
  behind := r.overlay_overlay
  window := r.read_write_bytesWithin
  captured := r.imageOn_write_bytesWithin

/-- Ten bytes have room for two pixels of three; one pixel that is laid over them leaves the second. -/
example :
    (Picture.mk 3 1 0 0 #[0x04030201, 0x08070605, 0x0c0b0a09]).overlay (List.replicate 10 0xff) =
      ([1, 2, 3, 4, 5, 6, 7, 8, 0xff, 0xff], 8) ∧
    (Picture.mk 1 1 0 0 #[0]).overlay [1, 2, 3, 4, 5, 6, 7, 8, 0xff, 0xff] =
      ([0, 0, 0, 0, 5, 6, 7, 8, 0xff, 0xff], 4) := by
  decide +kernel

end Picture
end MailboxCursor
