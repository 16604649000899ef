/-
Sizes up to the end of a machine word's range: which arguments are answered, and how.

Whoever composes a request names the words of its answer with a machine word, and whoever takes a word out of an answer names
its place with one. Both numbers grow before they are compared with a bound: the first by the six words around the value
buffer, the second by one. `ComposeAnswers` and `WordAnswers` say what comes of that: a message, or a word, exactly if there is
one; the failure with the true counts for every other argument whose sum a machine word holds; and a sum that leaves the range
for exactly the rest (`answered_in_range`). The rest is not empty: `last_sizes_overflow`.
-/
import MailboxCursor.Proofs.Message.Bounds

namespace MailboxCursor

namespace Message

/-- what a request for `tag` is answered with, where payload and answer need a value buffer of `room` words -/
structure ComposeAnswers (tag : UInt32) (payload : List UInt32) (responseWords : UInt64) (room : Nat) : Prop where
  ok : (∃ m, compose tag payload responseWords = .ok m) ↔ room ≤ 26
  overflow : 26 < room → room + 6 < UInt64.size →
    compose tag payload responseWords = .error (.overflow tag (room + 6) 32)
  outOfRange : compose tag payload responseWords = .error .sizeOutOfRange ↔ UInt64.size ≤ room + 6

theorem composeAnswers (tag : UInt32) (payload : List UInt32) (responseWords : UInt64) :
    ComposeAnswers tag payload responseWords (max payload.length responseWords.toNat) := by
  have hcases := compose_cases tag payload responseWords
  constructor
  case ok =>
    constructor
    · rintro ⟨m, h⟩
      exact Nat.le_of_add_le_add_right (compose_fits h)
    · intro hroom
      exact compose_eq_ok ((le_max_left _ _).trans hroom) ((le_max_right _ _).trans hroom)
  case overflow =>
    intro hlong hcounted
    rcases hcases with ⟨hroom, -⟩ | ⟨-, -, h⟩ | ⟨hrange, -⟩
    · exact absurd hroom (not_le.2 hlong)
    · exact h
    · exact absurd hrange (not_le.2 hcounted)
  case outOfRange =>
    rcases hcases with ⟨hroom, m, h⟩ | ⟨-, hcounted, h⟩ | ⟨hrange, h⟩
    · have hcounted : max payload.length responseWords.toNat + 6 < UInt64.size :=
        (Nat.add_le_add_right hroom 6).trans_lt (by decide)
      exact iff_of_false (by simp [h]) (not_le.2 hcounted)
    · exact iff_of_false (by simp [h]) (not_le.2 hcounted)
    · exact iff_of_true h hrange

/-- An answer has no more words than a value buffer. -/
theorem length_values_le {m : Message} {r : Response} (h : m.response = .ok r) : r.values.length ≤ 26 := by
  rcases m.response_cases with ⟨-, h'⟩ | ⟨-, -, h'⟩ | ⟨-, -, h'⟩ | ⟨-, -, h'⟩
  case inr.inr.inr =>
    obtain rfl := Except.ok.inj (h.symm.trans h')
    have hwords : m.answeredWords ≤ m.valueWords := min_le_right _ _
    exact (List.length_take_le _ _).trans (hwords.trans m.valueWords_le)
  all_goals cases h.symm.trans h'

end Message

namespace Response

variable {r : Response}

/-- what whoever asks for the word at `index` of an answer gets -/
structure WordAnswers (r : Response) (index : UInt64) : Prop where
  ok : ∀ w, r.word index = .ok w ↔ r.values[index.toNat]? = some w
  truncated : r.values.length ≤ index.toNat → index.toNat + 1 < UInt64.size →
    r.word index = .error (.truncated r.tag (index.toNat + 1) r.values.length)
  outOfRange : r.word index = .error .sizeOutOfRange ↔ index.toNat + 1 = UInt64.size

/-- An answer whose words a machine word counts has the word that is asked for, or is too short for it; if it is too short and
the place is the last that there is, the count of the words that it would need leaves the range. -/
theorem word_cases (hcounted : r.values.length < UInt64.size) (index : UInt64) :
    (∃ w, r.values[index.toNat]? = some w ∧ index.toNat + 1 < UInt64.size ∧ r.word index = .ok w) ∨
    (r.values[index.toNat]? = none ∧ index.toNat + 1 < UInt64.size ∧
      r.word index = .error (.truncated r.tag (index.toNat + 1) r.values.length)) ∨
    (r.values[index.toNat]? = none ∧ index.toNat + 1 = UInt64.size ∧ r.word index = .error .sizeOutOfRange) := by
  have hplace : index.toNat < UInt64.size := index.toNat_lt
  unfold word
  by_cases hrange : UInt64.size ≤ index.toNat + 1
  · rw [if_pos hrange]
    have hnone : r.values[index.toNat]? = none := List.getElem?_eq_none (by omega)
    exact Or.inr (Or.inr ⟨hnone, by omega, rfl⟩)
  · rw [if_neg hrange]
    cases hword : r.values[index.toNat]? with
    | some w => exact Or.inl ⟨w, rfl, not_le.1 hrange, rfl⟩
    | none => exact Or.inr (Or.inl ⟨rfl, not_le.1 hrange, rfl⟩)

theorem wordAnswers (hcounted : r.values.length < UInt64.size) (index : UInt64) : r.WordAnswers index := by
  have hcases := word_cases hcounted index
  constructor
  case ok =>
    intro w
    rcases hcases with ⟨w', hword, -, h⟩ | ⟨hword, -, h⟩ | ⟨hword, -, h⟩
    · rw [h, hword, Except.ok.injEq, Option.some.injEq]
    · exact iff_of_false (by simp [h]) (by simp [hword])
    · exact iff_of_false (by simp [h]) (by simp [hword])
  case truncated =>
    intro hshort hrange
    have hnone : r.values[index.toNat]? = none := List.getElem?_eq_none hshort
    rcases hcases with ⟨w, hword, -⟩ | ⟨-, -, h⟩ | ⟨-, hlast, -⟩
    · cases hword.symm.trans hnone
    · exact h
    · exact absurd hlast hrange.ne
  case outOfRange =>
    rcases hcases with ⟨w, -, hrange, h⟩ | ⟨-, hrange, h⟩ | ⟨-, hlast, h⟩
    · exact iff_of_false (by simp [h]) hrange.ne
    · exact iff_of_false (by simp [h]) hrange.ne
    · exact iff_of_true h hlast

end Response

namespace Message

/-- **Every argument is answered, as far as a machine word can count.** A request is composed exactly if it fits the buffer, and
refused with the words that it needs if it does not; a word of an answer is given exactly if the answer has it, and refused
with the words that are needed and found if it has not. What cannot be answered so are the arguments whose count of words
leaves the range: the last six sizes for a request, and the last place for a word. -/
theorem answered_in_range (tag : UInt32) (payload : List UInt32) (responseWords : UInt64) (m : Message) (index : UInt64) :
    ComposeAnswers tag payload responseWords (max payload.length responseWords.toNat) ∧
    ∀ r, m.response = .ok r → r.WordAnswers index := by
  constructor
  · exact composeAnswers tag payload responseWords
  · intro r h
    have hcounted : r.values.length < UInt64.size := (length_values_le h).trans_lt (by decide)
    exact r.wordAnswers hcounted index

/-- The request for tag 9 with the payload `[3]`, answered with the word 5. -/
theorem five_answered : ∃ m, compose 9 [3] 1 = .ok m ∧ (m.answered [5]).response = .ok ⟨9, 4, [5]⟩ := by
  obtain ⟨m, hm⟩ : ∃ m, compose 9 [3] 1 = .ok m := compose_eq_ok (by decide) (by decide)
  have hbits : [(5 : UInt32)].length * 4 < 2 ^ 31 := by decide
  have hsize : (m.answered [5]).statusSize = 4 := UInt32.toNat_inj.1 (statusSize_answered m hbits)
  refine ⟨m, hm, ?_⟩
  rw [response_answered m hbits, hsize, tag_of_compose hm, valueWords_of_compose hm]
  rfl

/-- Just below the end of the range: the sizes are named as they are. -/
theorem answered_in_range_below :
    26 < max [(3 : UInt32)].length (18446744073709551609 : UInt64).toNat ∧
      compose 9 [3] 18446744073709551609 = .error (.overflow 9 18446744073709551615 32) ∧
      (∃ m, compose 9 [3] 1 = .ok m ∧ (m.answered [5]).response = .ok ⟨9, 4, [5]⟩) ∧
      Response.word ⟨9, 4, [5]⟩ 18446744073709551614 = .error (.truncated 9 18446744073709551615 1) := by
  have hlong : 26 < max [(3 : UInt32)].length (18446744073709551609 : UInt64).toNat := by decide
  obtain ⟨m, hm, hanswer⟩ := five_answered
  obtain ⟨hcompose, hword⟩ := answered_in_range 9 [3] 18446744073709551609 (m.answered [5]) 18446744073709551614
  have hrefused := hcompose.overflow hlong (by decide)
  have hshort := (hword _ hanswer).truncated (by decide) (by decide)
  exact ⟨hlong, hrefused, ⟨m, hm, hanswer⟩, hshort⟩

/-- At the end of the range the count itself fails: neither the request nor the word is refused with the words that it would
need, though the same answer refuses to give the first 2^64 - 1 words. -/
theorem last_sizes_overflow :
    compose 9 [3] 18446744073709551615 = .error .sizeOutOfRange ∧
      compose 9 [3] 18446744073709551610 = .error .sizeOutOfRange ∧
      (∃ m, compose 9 [3] 1 = .ok m ∧ (m.answered [5]).response = .ok ⟨9, 4, [5]⟩) ∧
      Response.word ⟨9, 4, [5]⟩ 18446744073709551615 = .error .sizeOutOfRange ∧
      Response.first ⟨9, 4, [5]⟩ 18446744073709551615 = .error (.truncated 9 18446744073709551615 1) :=
  ⟨rfl, rfl, five_answered, rfl, rfl⟩

end Message
end MailboxCursor
