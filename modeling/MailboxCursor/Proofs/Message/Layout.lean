/-
Composed requests: what lies in the buffer, what is read back of it, and that no two requests share a message.

`Composed` says of a message that it is the request for `tag` with `payload` and a value buffer of `room` words: which words
are in use, that the buffer is clear behind them, and that the tag, the payload and the value buffer that a responder reads
are those that were laid out, as words and as bytes. A message that is composed is so (`composed_of_compose`). Two requests
for the same tag, payload and room are one message (`Composed.unique`), and a message has only one tag, payload and room to
be read from it: so a message tells which request it is (`composed_unambiguous`).
-/
import MailboxCursor.Proofs.Message.Request

namespace MailboxCursor.Message

/-- `m` is the request for `tag` with `payload`, its value buffer `room` words long -/
structure Composed (m : Message) (tag : UInt32) (payload : List UInt32) (room : Nat) : Prop where
  len : m.len = room + 6
  inside : m.len ≤ 32
  /-- three sizes in bytes: of the message, of the value buffer, of the request -/
  toList : m.toList =
    [UInt32.ofNat (4 * (room + 6)), 0, tag, UInt32.ofNat (4 * room), UInt32.ofNat (4 * payload.length)] ++ payload ++
      List.replicate (room - payload.length) 0 ++ [0]
  behind : m.words.toList.drop m.len = List.replicate (32 - m.len) 0
  tag : m.tag = tag
  requestPayload : m.requestPayload = payload
  payload : m.payload = payload ++ List.replicate (room - payload.length) 0
  sizeBytes : m.bytes.length = m.sizeBytes.toNat
  /-- the bytes are the words, the least significant byte of each first -/
  bytes : wordsOfBytes m.bytes = m.toList

variable {t : UInt32} {p : List UInt32} {r : UInt64} {m m' : Message}

/-! ## The words of the buffer -/

theorem len_eq_length_image (h : compose t p r = .ok m) : m.len = (image t p (max p.length r.toNat)).length := by
  rw [len_of_compose h, length_image (le_max_left _ _)]

/-- The words in use are those that were laid out. -/
theorem toList_of_compose (h : compose t p r = .ok m) : m.toList = image t p (max p.length r.toNat) := by
  rw [toList, words_of_compose h, len_eq_length_image h, List.take_left]

/-- Behind them the buffer is clear. -/
theorem drop_of_compose (h : compose t p r = .ok m) : m.words.toList.drop m.len = List.replicate (32 - m.len) 0 := by
  have hrest : 26 - max p.length r.toNat = 32 - m.len := by
    rw [len_of_compose h]
    omega
  rw [words_of_compose h, ← hrest, len_eq_length_image h, List.drop_left]

/-- The value buffer is the payload, filled up with zeros. -/
theorem payload_of_compose (h : compose t p r = .ok m) :
    m.payload = p ++ List.replicate (max p.length r.toNat - p.length) 0 := by
  have hvalues : m.words.toList.drop valueStart =
      (p ++ List.replicate (max p.length r.toNat - p.length) 0) ++
        ([endTag] ++ List.replicate (26 - max p.length r.toNat) 0) := by
    rw [words_of_compose h]
    simp [image, valueStart]
  have hroom : m.valueWords = (p ++ List.replicate (max p.length r.toNat - p.length) (0 : UInt32)).length := by
    rw [valueWords_of_compose h, List.length_append, List.length_replicate]
    omega
  rw [payload, hvalues, hroom, List.take_left]

/-! ## Bytes -/

/-- A message takes four bytes for each word in use. -/
theorem length_bytes (m : Message) : m.bytes.length = m.len * 4 := by
  have hlength : m.toList.length = m.len := by
    rw [toList, List.length_take, Vector.length_toList, Nat.min_eq_left m.len_le]
  rw [bytes, length_bytesOfWords, hlength, Nat.mul_comm]

/-! ## One message for each request -/

theorem composed_of_compose (h : compose t p r = .ok m) : m.Composed t p (max p.length r.toNat) := by
  constructor
  case len => exact len_of_compose h
  case inside => exact m.len_le
  case toList =>
    rw [toList_of_compose h, image, Nat.mul_comm (max p.length r.toNat + 6), Nat.mul_comm (max p.length r.toNat),
      Nat.mul_comm p.length]
    rfl
  case behind => exact drop_of_compose h
  case tag => exact tag_of_compose h
  case requestPayload => exact requestPayload_of_compose h
  case payload => exact payload_of_compose h
  case sizeBytes => rw [length_bytes, sizeBytes_of_compose h]
  case bytes => exact wordsOfBytes_bytesOfWords _

/-- Tag, payload and room leave nothing open in a request. -/
theorem Composed.unique {tag : UInt32} {payload : List UInt32} {room : Nat} (h : m.Composed tag payload room)
    (h' : m'.Composed tag payload room) : m = m' := by
  have hlen : m.len = m'.len := h.len.trans h'.len.symm
  have hused : m.words.toList.take m.len = m'.words.toList.take m'.len := h.toList.trans h'.toList.symm
  have hrest : m.words.toList.drop m.len = m'.words.toList.drop m'.len := by
    rw [h.behind, h'.behind, hlen]
  have hwords : m.words = m'.words := by
    apply Vector.toList_inj.1
    rw [← List.take_append_drop m.len m.words.toList, hused, hrest, List.take_append_drop]
  cases m
  cases m'
  congr

/-- **A composed request is well formed and unambiguous.** Its words are the header, the payload, zeros up to the size of the
value buffer and the end tag, and they are read back as they were laid out; and it is the message of another request exactly
if that one has its tag, its payload and a value buffer of its size. -/
theorem composed_unambiguous (h : compose t p r = .ok m) :
    m.Composed t p (max p.length r.toNat) ∧
    ∀ t' p' r' m', compose t' p' r' = .ok m' →
      (m = m' ↔ t = t' ∧ p = p' ∧ max p.length r.toNat = max p'.length r'.toNat) := by
  have hm := composed_of_compose h
  refine ⟨hm, fun t' p' r' m' h' => ?_⟩
  have hm' := composed_of_compose h'
  constructor
  · rintro rfl
    have hroom : max p.length r.toNat + 6 = max p'.length r'.toNat + 6 := hm.len.symm.trans hm'.len
    exact ⟨hm.tag.symm.trans hm'.tag, hm.requestPayload.symm.trans hm'.requestPayload, Nat.add_right_cancel hroom⟩
  · rintro ⟨rfl, rfl, hroom⟩
    rw [← hroom] at hm'
    exact hm.unique hm'

/-- A payload of 26 words fills the buffer. One of 25 words, with the same value buffer and a zero in the place of the last
word, has the same words but for the size of the request. -/
theorem composed_unambiguous_full : ∃ m m', compose 9 (List.replicate 26 0) 0 = .ok m ∧
    compose 9 (List.replicate 25 0) 26 = .ok m' ∧ m.len = 32 ∧ m.payload = m'.payload ∧ m ≠ m' := by
  obtain ⟨m, hm⟩ : ∃ m, compose 9 (List.replicate 26 0) 0 = .ok m := compose_eq_ok (by decide) (by decide)
  obtain ⟨m', hm'⟩ : ∃ m', compose 9 (List.replicate 25 0) 26 = .ok m' := compose_eq_ok (by decide) (by decide)
  obtain ⟨hcomposed, hdiffers⟩ := composed_unambiguous hm
  have hlen : m.len = 32 := hcomposed.len
  have hpayload : m.payload = m'.payload := by
    rw [hcomposed.payload, (composed_unambiguous hm').1.payload]
    rfl
  refine ⟨m, m', hm, hm', hlen, hpayload, fun heq => ?_⟩
  exact absurd ((hdiffers _ _ _ _ hm').1 heq).2.1 (by decide)

end MailboxCursor.Message
