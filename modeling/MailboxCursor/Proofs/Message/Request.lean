/-
Composed requests, and what an answer written into a message says.

`compose` lays the words of `image` into the buffer and zeros behind them (`words_of_compose`), so every view of a
composed message is known: its tag, its size, its code (a request's), the room for values and the request itself.
`response_answered` is the other direction: whatever stood in a message, once it is answered with values it says
those values, as far as the value buffer holds them.
-/
import Mathlib.Tactic
import MailboxCursor.Message.Response

namespace MailboxCursor.Message

/-! ## Composed messages -/

variable {t : UInt32} {p : List UInt32} {r : UInt64} {m : Message}

/-- What `compose` answers with, if it does. -/
theorem eq_of_compose (h : compose t p r = .ok m) : ∃ hfit : valueStart + max p.length r.toNat + 1 ≤ 32,
    m = ⟨Vector.ofFn fun i => (image t p (max p.length r.toNat)).getD i 0, _, hfit⟩ := by
  simp only [compose] at h
  by_cases hrange : UInt64.size ≤ valueStart + max p.length r.toNat + 1
  · rw [if_pos hrange] at h
    cases h
  · by_cases hfit : valueStart + max p.length r.toNat + 1 ≤ 32
    · rw [if_neg hrange, dif_pos hfit] at h
      exact ⟨hfit, (Except.ok.inj h).symm⟩
    · rw [if_neg hrange, dif_neg hfit] at h
      cases h

theorem compose_fits (h : compose t p r = .ok m) : max p.length r.toNat + 6 ≤ 32 := by
  obtain ⟨hfit, -⟩ := eq_of_compose h
  simp only [valueStart] at hfit
  omega

theorem len_of_compose (h : compose t p r = .ok m) : m.len = max p.length r.toNat + 6 := by
  obtain ⟨-, rfl⟩ := eq_of_compose h
  simp only [valueStart]
  omega

/-- A request can be composed, or it needs more words than the buffer has, or more than a machine word counts. -/
theorem compose_cases (t : UInt32) (p : List UInt32) (r : UInt64) :
    (max p.length r.toNat ≤ maxValueWords ∧ ∃ m, compose t p r = .ok m) ∨
    (maxValueWords < max p.length r.toNat ∧ max p.length r.toNat + 6 < UInt64.size ∧
      compose t p r = .error (.overflow t (max p.length r.toNat + 6) capacity)) ∨
    (UInt64.size ≤ max p.length r.toNat + 6 ∧ compose t p r = .error .sizeOutOfRange) := by
  have hwords : valueStart + max p.length r.toNat + 1 = max p.length r.toNat + 6 := by
    simp only [valueStart]
    omega
  have hroom : max p.length r.toNat ≤ maxValueWords ↔ max p.length r.toNat + 6 ≤ 32 := by
    simp only [maxValueWords, capacity, valueStart]
    omega
  simp only [compose, hwords]
  by_cases hrange : UInt64.size ≤ max p.length r.toNat + 6
  · rw [if_pos hrange]
    exact Or.inr (Or.inr ⟨hrange, rfl⟩)
  · rw [if_neg hrange]
    by_cases hfit : max p.length r.toNat + 6 ≤ 32
    · rw [dif_pos hfit]
      exact Or.inl ⟨hroom.2 hfit, _, rfl⟩
    · rw [dif_neg hfit]
      exact Or.inr (Or.inl ⟨not_le.1 (mt hroom.1 hfit), not_le.1 hrange, rfl⟩)

/-- A request that fits the value buffer, with room for its answer, can be composed. -/
theorem compose_eq_ok (hp : p.length ≤ maxValueWords) (hr : r.toNat ≤ maxValueWords) : ∃ m, compose t p r = .ok m := by
  have hroom : max p.length r.toNat ≤ maxValueWords := max_le hp hr
  rcases compose_cases t p r with ⟨-, hm⟩ | ⟨hlong, -⟩ | ⟨hrange, -⟩
  · exact hm
  · exact absurd hroom (not_le.2 hlong)
  · simp only [maxValueWords, capacity, valueStart] at hroom
    rw [UInt64.size] at hrange
    omega

theorem getElem_of_compose (h : compose t p r = .ok m) (i : Nat) (hi : i < 32) :
    m.words[i] = (image t p (max p.length r.toNat)).getD i 0 := by
  obtain ⟨-, rfl⟩ := eq_of_compose h
  rw [Vector.getElem_ofFn]

/-- The words of a composed message are those of its image, and zeros. -/
theorem words_of_compose (h : compose t p r = .ok m) :
    m.words.toList = image t p (max p.length r.toNat) ++ List.replicate (26 - max p.length r.toNat) 0 := by
  have hfit := compose_fits h
  have hlen : (image t p (max p.length r.toNat)).length = max p.length r.toNat + 6 := length_image (le_max_left _ _)
  apply List.ext_getElem
  · simp only [Vector.length_toList, List.length_append, List.length_replicate, hlen]
    omega
  · intro i hi hi'
    rw [Vector.getElem_toList, getElem_of_compose h i (by simpa using hi)]
    rw [List.getD_eq_getElem?_getD, List.getElem_append]
    split
    next hl => rw [List.getElem?_eq_getElem hl, Option.getD_some]
    next hl => rw [List.getElem?_eq_none (by omega), Option.getD_none, List.getElem_replicate]

theorem tag_of_compose (h : compose t p r = .ok m) : m.tag = t := by
  rw [tag, getElem_of_compose h 2 (by omega)]
  simp [image]

theorem code_of_compose (h : compose t p r = .ok m) : m.code = requestCode := by
  rw [code, getElem_of_compose h 1 (by omega)]
  simp [image]

theorem sizeBytes_of_compose (h : compose t p r = .ok m) : m.sizeBytes.toNat = m.len * 4 := by
  have hfit := compose_fits h
  rw [len_of_compose h, sizeBytes, getElem_of_compose h 0 (by omega)]
  simp only [image, List.cons_append, List.getD_cons_zero, UInt32.toNat_ofNat']
  omega

theorem valueWords_of_compose (h : compose t p r = .ok m) : m.valueWords = max p.length r.toNat := by
  have hfit := compose_fits h
  rw [valueWords, valueSize, getElem_of_compose h 3 (by omega)]
  simp only [image, List.cons_append, List.getD_cons_succ, List.getD_cons_zero, UInt32.toNat_ofNat', maxValueWords,
    capacity, valueStart]
  omega

theorem statusSize_of_compose (h : compose t p r = .ok m) : m.statusSize.toNat = p.length * 4 := by
  have hfit := compose_fits h
  rw [statusSize, status, getElem_of_compose h 4 (by omega)]
  have hmask : (0x7fffffff : UInt32).toNat = 2 ^ 31 - 1 := rfl
  simp only [image, List.cons_append, List.getD_cons_succ, List.getD_cons_zero, UInt32.toNat_and, UInt32.toNat_ofNat',
    hmask, Nat.and_two_pow_sub_one_eq_mod]
  omega

/-- The responder reads from a composed message the request it was composed from. -/
theorem requestPayload_of_compose (h : compose t p r = .ok m) : m.requestPayload = p := by
  have hdrop : m.words.toList.drop valueStart =
      p ++ (List.replicate (max p.length r.toNat - p.length) 0 ++ ([endTag] ++
        List.replicate (26 - max p.length r.toNat) 0)) := by
    rw [words_of_compose h]
    simp [image, valueStart]
  rw [requestPayload, payload, hdrop, valueWords_of_compose h, statusSize_of_compose h, List.take_take]
  have hk : min (min (p.length * 4 / 4) (max p.length r.toNat)) (max p.length r.toNat) = p.length := by omega
  rw [hk, List.take_left]

/-! ## Requests for known tags -/

theorem responseWords_toNat (tag : Tag) : (UInt64.ofNat tag.responseWords).toNat = tag.responseWords := by
  cases tag <;> rfl

theorem responseWords_le (tag : Tag) : tag.responseWords ≤ 4 := by
  cases tag <;> decide

theorem request_eq_ok (tag : Tag) (hp : p.length ≤ maxValueWords) : ∃ m, request tag p = .ok m := by
  have := responseWords_le tag
  refine compose_eq_ok hp ?_
  rw [responseWords_toNat]
  simp only [maxValueWords, capacity, valueStart]
  omega

theorem valueWords_of_request {tag : Tag} (h : request tag p = .ok m) : m.valueWords = max p.length tag.responseWords := by
  rw [valueWords_of_compose h, responseWords_toNat]

/-! ## Answers -/

theorem getElem_answered (m : Message) (vs : List UInt32) (i : Nat) (hi : i < 32) :
    (m.answered vs).words[i] =
      if i = 1 then success
      else if i = 4 then answeredBit ||| UInt32.ofNat (vs.length * 4)
      else if valueStart ≤ i ∧ i < valueStart + m.valueWords then vs.getD (i - valueStart) m.words[i]
      else m.words[i] := by
  simp only [answered, Vector.getElem_ofFn]
  rfl

theorem valueWords_le (m : Message) : m.valueWords ≤ 26 :=
  min_le_right _ _

/-- Answering leaves the tag and the size of the value buffer as they are. -/
theorem tag_answered (m : Message) (vs : List UInt32) : (m.answered vs).tag = m.tag := by
  rw [tag, getElem_answered]
  simp [valueStart, tag]

theorem valueWords_answered (m : Message) (vs : List UInt32) : (m.answered vs).valueWords = m.valueWords := by
  rw [valueWords, valueSize, getElem_answered]
  simp [valueStart, valueWords, valueSize]

theorem code_answered (m : Message) (vs : List UInt32) : (m.answered vs).code = success := by
  rw [code, getElem_answered]
  simp

theorem status_answered (m : Message) {vs : List UInt32} (h : vs.length * 4 < 2 ^ 31) :
    (m.answered vs).status.toNat = 2 ^ 31 + vs.length * 4 := by
  have hbit : answeredBit.toNat = 2 ^ 31 := rfl
  rw [status, getElem_answered]
  simp only [OfNat.ofNat_ne_one, if_false, if_true, UInt32.toNat_or, UInt32.toNat_ofNat', hbit]
  rw [Nat.mod_eq_of_lt (by omega)]
  simpa using (Nat.two_pow_add_eq_or_of_lt h 1).symm

theorem statusSize_answered (m : Message) {vs : List UInt32} (h : vs.length * 4 < 2 ^ 31) :
    (m.answered vs).statusSize.toNat = vs.length * 4 := by
  have hmask : (0x7fffffff : UInt32).toNat = 2 ^ 31 - 1 := rfl
  rw [statusSize, UInt32.toNat_and, status_answered m h, hmask, Nat.and_two_pow_sub_one_eq_mod]
  omega

/-- the tag's own mark is set -/
theorem answeredBit_answered (m : Message) {vs : List UInt32} (h : vs.length * 4 < 2 ^ 31) :
    (m.answered vs).status &&& answeredBit ≠ 0 := by
  intro hzero
  have hbit : answeredBit.toNat = 2 ^ 31 := rfl
  have htest : ((m.answered vs).status.toNat &&& 2 ^ 31).testBit 31 = false := by
    rw [← hbit, ← UInt32.toNat_and, hzero]
    rfl
  rw [status_answered m h, Nat.testBit_and, Nat.testBit_two_pow_self, Bool.and_true] at htest
  rw [Nat.testBit_two_pow_add_eq, Nat.testBit_lt_two_pow h] at htest
  cases htest

/-- An answered message says the values it was answered with, as far as its value buffer holds them. -/
theorem response_answered (m : Message) {vs : List UInt32} (h : vs.length * 4 < 2 ^ 31) :
    (m.answered vs).response = .ok ⟨m.tag, (m.answered vs).statusSize, vs.take m.valueWords⟩ := by
  have hroom := valueWords_le m
  have hwords : (m.answered vs).answeredWords = min vs.length m.valueWords := by
    rw [answeredWords, statusSize_answered m h, valueWords_answered]
    omega
  rw [response, if_pos (code_answered m vs), if_neg (answeredBit_answered m h), tag_answered, hwords]
  congr 2
  apply List.ext_getElem
  · simp only [List.length_take, List.length_drop, Vector.length_toList, valueStart]
    omega
  · intro i hi hi'
    simp only [List.length_take, lt_min_iff] at hi'
    rw [List.getElem_take, List.getElem_drop, Vector.getElem_toList, getElem_answered, List.getElem_take]
    have hin : valueStart ≤ valueStart + i ∧ valueStart + i < valueStart + m.valueWords := by omega
    have hcode : ¬valueStart + i = 1 := by simp only [valueStart]; omega
    have hstatus : ¬valueStart + i = 4 := by simp only [valueStart]; omega
    rw [if_neg hcode, if_neg hstatus, if_pos hin, Nat.add_sub_cancel_left, List.getD_eq_getElem?_getD,
      List.getElem?_eq_getElem hi'.2, Option.getD_some]

theorem code_withCode (m : Message) (w : UInt32) : (m.withCode w).code = w := by
  simp only [code, withCode, poke]
  rw [Vector.getElem_setIfInBounds_self]

theorem length_requestPayload_le (m : Message) : m.requestPayload.length ≤ m.valueWords := by
  simp only [requestPayload, List.length_take]
  omega

/-- A message that is not marked as processed says nothing. -/
theorem response_error_of_code {m : Message} (h : m.code ≠ success) : ∃ e, m.response = .error e := by
  rw [response, if_neg h]
  split
  · exact ⟨_, rfl⟩
  · exact ⟨_, rfl⟩

end MailboxCursor.Message
