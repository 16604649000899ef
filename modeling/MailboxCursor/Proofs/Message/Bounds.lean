/-
What is read of a message, and written into it, lies inside its buffer, whatever words stand in it.

The firmware may leave any words behind, the two sizes in the header among them, so nothing here asks how a message came
about. `Shows` says that words are those of the buffer from the value buffer's start on, so many, and all in front of the
last word of the buffer. `bounded`: each view of a message shows so many words as the smaller of the two sizes says, and no
more than a value buffer can have; which answer or which failure is read depends on the code and the mark alone; and an
answer that is written changes these two words and the slots of its values.
-/
import Mathlib.Data.Nat.Bitwise
import MailboxCursor.Proofs.Message.Request

namespace MailboxCursor.Message

/-- the words `ws` are the `k` words from the value buffer's start on, and the buffer goes on behind them -/
structure Shows (m : Message) (ws : List UInt32) (k : Nat) : Prop where
  inside : valueStart + k < capacity
  length : ws.length = k
  words : ∀ i < k, ∃ h : valueStart + i < 32, ws[i]? = some m.words[valueStart + i]

/-- what can be read of a message and written into it -/
structure Bounded (m : Message) : Prop where
  payload : m.Shows m.payload (min (m.valueSize.toNat / 4) 26)
  /-- of a request only the whole words -/
  requestPayload : m.Shows m.requestPayload (min (min ((m.status &&& 0x7fffffff).toNat / 4) (m.valueSize.toNat / 4)) 26)
  parseError : m.response = .error .parseError ↔ m.code = 0x80000001
  notProcessed : ∀ code, m.response = .error (.notProcessed code) ↔
    m.code = code ∧ code ≠ 0x80000001 ∧ code ≠ 0x80000000
  tagNotAcknowledged : ∀ tag, m.response = .error (.tagNotAcknowledged tag) ↔
    m.code = 0x80000000 ∧ m.status.toNat.testBit 31 = false ∧ m.tag = tag
  /-- of an answer a word that is not whole, too -/
  response : m.code = 0x80000000 → m.status.toNat.testBit 31 = true →
    ∃ r, m.response = .ok r ∧ r.tag = m.tag ∧ r.lenBytes = m.status &&& 0x7fffffff ∧
      m.Shows r.values (min (min (((m.status &&& 0x7fffffff).toNat + 3) / 4) (m.valueSize.toNat / 4)) 26)
  /-- an answer changes the code, the mark and the slots of its values -/
  answered : ∀ values i, (hi : i < 32) → i ≠ 1 → i ≠ 4 →
    ¬(5 ≤ i ∧ i < 5 + min values.length (min (m.valueSize.toNat / 4) 26)) →
    (m.answered values).words[i] = m.words[i]

/-! ## Words from the value buffer's start on -/

variable {m : Message}

theorem shows_take (m : Message) {k : Nat} (hk : k ≤ maxValueWords) :
    m.Shows ((m.words.toList.drop valueStart).take k) k := by
  simp only [maxValueWords, capacity, valueStart] at hk
  refine ⟨?_, ?_, ?_⟩
  · simp only [valueStart, capacity]
    omega
  · simp only [List.length_take, List.length_drop, Vector.length_toList, valueStart]
    omega
  · intro i hi
    have hin : valueStart + i < 32 := by
      simp only [valueStart]
      omega
    refine ⟨hin, ?_⟩
    rw [List.getElem?_take_of_lt hi, List.getElem?_drop, Vector.getElem?_toList, Vector.getElem?_eq_getElem hin]

theorem shows_payload (m : Message) : m.Shows m.payload m.valueWords :=
  m.shows_take m.valueWords_le

theorem shows_requestPayload (m : Message) :
    m.Shows m.requestPayload (min (m.statusSize.toNat / 4) m.valueWords) := by
  have hroom := m.valueWords_le
  have hcut : min (min (m.statusSize.toNat / 4) m.valueWords) m.valueWords =
      min (m.statusSize.toNat / 4) m.valueWords := by omega
  unfold requestPayload payload
  rw [List.take_take, hcut]
  exact m.shows_take ((min_le_right _ _).trans hroom)

/-! ## Answers and failures -/

/-- The mark of an answer is the highest bit of its word. -/
theorem and_answeredBit_eq_zero {w : UInt32} : w &&& answeredBit = 0 ↔ w.toNat.testBit 31 = false := by
  have hbit : answeredBit.toNat = 2 ^ 31 := rfl
  rw [← UInt32.toNat_inj, UInt32.toNat_and, hbit, Nat.and_two_pow, UInt32.toNat_zero]
  cases w.toNat.testBit 31 <;> simp

theorem success_ne_parseFailure : success ≠ parseFailure := by decide

/-- A message says an answer, or why it says none. -/
theorem response_cases (m : Message) :
    (m.code = parseFailure ∧ m.response = .error .parseError) ∨
    (m.code ≠ parseFailure ∧ m.code ≠ success ∧ m.response = .error (.notProcessed m.code)) ∨
    (m.code = success ∧ m.status.toNat.testBit 31 = false ∧ m.response = .error (.tagNotAcknowledged m.tag)) ∨
    (m.code = success ∧ m.status.toNat.testBit 31 = true ∧
      m.response = .ok ⟨m.tag, m.statusSize, (m.words.toList.drop valueStart).take m.answeredWords⟩) := by
  unfold response
  by_cases hsuccess : m.code = success
  · right; right
    rw [if_pos hsuccess]
    by_cases hmark : m.status &&& answeredBit = 0
    · rw [if_pos hmark]
      exact Or.inl ⟨hsuccess, and_answeredBit_eq_zero.1 hmark, rfl⟩
    · rw [if_neg hmark]
      exact Or.inr ⟨hsuccess, by simpa using mt and_answeredBit_eq_zero.2 hmark, rfl⟩
  · rw [if_neg hsuccess]
    by_cases hfailure : m.code = parseFailure
    · rw [if_pos hfailure]
      exact Or.inl ⟨hfailure, rfl⟩
    · rw [if_neg hfailure]
      exact Or.inr (Or.inl ⟨hfailure, hsuccess, rfl⟩)

theorem response_eq_parseError_iff : m.response = .error .parseError ↔ m.code = parseFailure := by
  rcases m.response_cases with ⟨hcode, h⟩ | ⟨hcode, -, h⟩ | ⟨hcode, -, h⟩ | ⟨hcode, -, h⟩
  · exact iff_of_true h hcode
  · exact iff_of_false (by simp [h]) hcode
  · exact iff_of_false (by simp [h]) fun hw => success_ne_parseFailure (hcode.symm.trans hw)
  · exact iff_of_false (by simp [h]) fun hw => success_ne_parseFailure (hcode.symm.trans hw)

theorem response_eq_notProcessed_iff {code : UInt32} :
    m.response = .error (.notProcessed code) ↔ m.code = code ∧ code ≠ parseFailure ∧ code ≠ success := by
  rcases m.response_cases with ⟨hcode, h⟩ | ⟨hcode, hcode', h⟩ | ⟨hcode, -, h⟩ | ⟨hcode, -, h⟩
  · refine iff_of_false (by simp [h]) ?_
    rintro ⟨rfl, hne, -⟩
    exact hne hcode
  · rw [h]
    constructor
    · intro heq
      obtain rfl : m.code = code := by simpa using heq
      exact ⟨rfl, hcode, hcode'⟩
    · rintro ⟨rfl, -, -⟩
      rfl
  all_goals
    refine iff_of_false (by simp [h]) ?_
    rintro ⟨rfl, -, hne⟩
    exact hne hcode

theorem response_eq_tagNotAcknowledged_iff {tag : UInt32} :
    m.response = .error (.tagNotAcknowledged tag) ↔
      m.code = success ∧ m.status.toNat.testBit 31 = false ∧ m.tag = tag := by
  rcases m.response_cases with ⟨hcode, h⟩ | ⟨-, hcode, h⟩ | ⟨hcode, hmark, h⟩ | ⟨-, hmark, h⟩
  · exact iff_of_false (by simp [h]) fun hw => success_ne_parseFailure (hw.1.symm.trans hcode)
  · exact iff_of_false (by simp [h]) fun hw => hcode hw.1
  · rw [h]
    constructor
    · intro heq
      obtain rfl : m.tag = tag := by simpa using heq
      exact ⟨hcode, hmark, rfl⟩
    · rintro ⟨-, -, rfl⟩
      rfl
  · refine iff_of_false (by simp [h]) ?_
    rintro ⟨-, hclear, -⟩
    cases hmark.symm.trans hclear

/-- A message that is marked as answered says words of its value buffer. -/
theorem shows_response (hcode : m.code = success) (hmark : m.status.toNat.testBit 31 = true) :
    ∃ r, m.response = .ok r ∧ r.tag = m.tag ∧ r.lenBytes = m.statusSize ∧ m.Shows r.values m.answeredWords := by
  rcases m.response_cases with ⟨hcode', -⟩ | ⟨-, hcode', -⟩ | ⟨-, hclear, -⟩ | ⟨-, -, h⟩
  · exact absurd (hcode.symm.trans hcode') success_ne_parseFailure
  · exact absurd hcode hcode'
  · cases hmark.symm.trans hclear
  · exact ⟨_, h, rfl, rfl, m.shows_take ((min_le_right _ _).trans m.valueWords_le)⟩

/-- An answer that is written changes the code, the mark, and a slot for each value that there is room for. -/
theorem getElem_answered_of_ne {values : List UInt32} {i : Nat} (hi : i < 32) (hcode : i ≠ 1) (hmark : i ≠ 4)
    (hslot : ¬(valueStart ≤ i ∧ i < valueStart + min values.length m.valueWords)) :
    (m.answered values).words[i] = m.words[i] := by
  rw [getElem_answered, if_neg hcode, if_neg hmark]
  split_ifs with hroom
  · -- a slot behind the last value
    rw [List.getD_eq_getElem?_getD, List.getElem?_eq_none (by omega), Option.getD_none]
  · rfl

/-- **What is read of a message stays inside it**, whatever was written over its words; and so does what is written. -/
theorem bounded (m : Message) : m.Bounded := by
  have hrequest : min (m.statusSize.toNat / 4) m.valueWords =
      min (min (m.statusSize.toNat / 4) (m.valueSize.toNat / 4)) 26 := (min_assoc _ _ _).symm
  have hanswer : m.answeredWords = min (min ((m.statusSize.toNat + 3) / 4) (m.valueSize.toNat / 4)) 26 :=
    (min_assoc _ _ _).symm
  constructor
  case payload => exact m.shows_payload
  case requestPayload => exact hrequest ▸ m.shows_requestPayload
  case parseError => exact response_eq_parseError_iff
  case notProcessed => exact fun _ => response_eq_notProcessed_iff
  case tagNotAcknowledged => exact fun _ => response_eq_tagNotAcknowledged_iff
  case response =>
    intro hcode hmark
    obtain ⟨r, h, htag, hlen, hshows⟩ := shows_response (m := m) hcode hmark
    exact ⟨r, h, htag, hlen, hanswer ▸ hshows⟩
  case answered => exact fun values i hi hcode hmark hslot => getElem_answered_of_ne hi hcode hmark hslot

end MailboxCursor.Message
