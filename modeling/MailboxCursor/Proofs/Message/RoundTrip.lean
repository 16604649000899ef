/-
The last answer stands, whatever was written into the message before it.

Whoever answers a message may write into it several times: answers, one over the other, and bare codes (`Reaction`). Each of
these touches the code, the tag's mark and the value buffer, and nothing else: `Frame` is what stays, and `frame_handle` says
that it stays over any number of them. So a message composed with some room is after all of them still one with that room,
and `last_answer_stands` is then a matter of the last answer alone. No word of the request shows in it, and none of an
earlier answer.
-/
import MailboxCursor.Proofs.Message.Request

namespace MailboxCursor.Message

/-- one change that is made to a message in order to answer it -/
inductive Reaction where
  | answer (values : List UInt32)
  | code (c : UInt32)
deriving DecidableEq, Repr

def react (m : Message) : Reaction → Message
  | .answer values => m.answered values
  | .code c => m.withCode c

/-- any number of changes, one after the other -/
def handle (m : Message) (rs : List Reaction) : Message :=
  rs.foldl react m

theorem handle_concat (m : Message) (rs : List Reaction) (values : List UInt32) :
    m.handle (rs ++ [.answer values]) = (m.handle rs).answered values := by
  rw [handle, List.foldl_append]
  rfl

/-! ## What no answer touches -/

/-- the word `i` is neither the code nor the mark nor one of the value buffer -/
def IsFrame (m : Message) (i : Nat) : Prop :=
  i ≠ 1 ∧ i ≠ 4 ∧ (i < valueStart ∨ valueStart + m.valueWords ≤ i)

/-- `m'` is `m` but for the code, the mark and the value buffer -/
structure Frame (m m' : Message) : Prop where
  len : m'.len = m.len
  words : ∀ i, (hi : i < 32) → m.IsFrame i → m'.words[i] = m.words[i]

namespace Frame

variable {m m' m'' : Message}

theorem refl (m : Message) : Frame m m :=
  ⟨rfl, fun _ _ _ => rfl⟩

theorem tag (h : Frame m m') : m'.tag = m.tag :=
  h.words 2 (by decide) ⟨by decide, by decide, Or.inl (by decide)⟩

theorem sizeBytes (h : Frame m m') : m'.sizeBytes = m.sizeBytes :=
  h.words 0 (by decide) ⟨by decide, by decide, Or.inl (by decide)⟩

theorem valueSize (h : Frame m m') : m'.valueSize = m.valueSize :=
  h.words 3 (by decide) ⟨by decide, by decide, Or.inl (by decide)⟩

theorem valueWords (h : Frame m m') : m'.valueWords = m.valueWords := by
  rw [Message.valueWords, h.valueSize, Message.valueWords]

theorem trans (h : Frame m m') (h' : Frame m' m'') : Frame m m'' := by
  refine ⟨h'.len.trans h.len, fun i hi hframe => ?_⟩
  have hframe' : m'.IsFrame i := by
    rw [IsFrame, h.valueWords]
    exact hframe
  rw [h'.words i hi hframe', h.words i hi hframe]

/-- Behind the value buffer nothing is touched. -/
theorem drop (h : Frame m m') :
    m'.words.toList.drop (valueStart + m.valueWords) = m.words.toList.drop (valueStart + m.valueWords) := by
  apply List.ext_getElem
  · simp only [List.length_drop, Vector.length_toList]
  · intro i hi _
    simp only [List.length_drop, Vector.length_toList] at hi
    rw [List.getElem_drop, List.getElem_drop, Vector.getElem_toList, Vector.getElem_toList]
    refine h.words _ (by omega) ⟨?_, ?_, Or.inr (by omega)⟩
    · simp only [valueStart]
      omega
    · simp only [valueStart]
      omega

end Frame

theorem frame_answered (m : Message) (values : List UInt32) : Frame m (m.answered values) := by
  refine ⟨by simp only [answered], ?_⟩
  rintro i hi ⟨hcode, hmark, hbeside⟩
  have hroom : ¬(valueStart ≤ i ∧ i < valueStart + m.valueWords) := by omega
  rw [getElem_answered, if_neg hcode, if_neg hmark, if_neg hroom]

theorem frame_withCode (m : Message) (c : UInt32) : Frame m (m.withCode c) := by
  refine ⟨rfl, ?_⟩
  rintro i hi ⟨hcode, -, -⟩
  exact Vector.getElem_setIfInBounds_ne hi hcode.symm

theorem frame_react (m : Message) (r : Reaction) : Frame m (m.react r) := by
  cases r with
  | answer values => exact frame_answered m values
  | code c => exact frame_withCode m c

theorem frame_handle (m : Message) (rs : List Reaction) : Frame m (m.handle rs) := by
  induction rs generalizing m with
  | nil => exact Frame.refl m
  | cons r rs ih => exact (frame_react m r).trans (ih (m.react r))

/-! ## What an answer says -/

/-- Words can be taken out of an answer as far as it has them, and no further. -/
theorem first_take (tag lenBytes : UInt32) (values : List UInt32) (room k : Nat) :
    (Response.mk tag lenBytes (values.take room)).first k =
      if k ≤ min values.length room then .ok (values.take k)
      else .error (.truncated tag k (min values.length room)) := by
  have hlength : (values.take room).length = min values.length room := by
    rw [List.length_take, Nat.min_comm]
  simp only [Response.first, hlength]
  by_cases hk : k ≤ min values.length room
  · rw [if_neg (not_lt.2 hk), if_pos hk, List.take_take, Nat.min_eq_left (hk.trans (Nat.min_le_right _ _))]
  · rw [if_pos (not_le.1 hk), if_neg hk]

/-- what a message composed for `tag` with `room` words says and shows once it was answered with `values` -/
structure Says (composed m : Message) (tag : UInt32) (room : Nat) (values : List UInt32) : Prop where
  /-- the answer is `values` as far as there is room for them, under their full size -/
  response : ∃ r, m.response = .ok r ∧ r.tag = tag ∧ r.lenBytes.toNat = 4 * values.length ∧
    r.values = values.take room ∧
    ∀ k, r.first k =
      if k ≤ min values.length room then .ok (values.take k)
      else .error (.truncated tag k (min values.length room))
  len : m.len = composed.len
  sizeBytes : m.sizeBytes = composed.sizeBytes
  tag : m.tag = composed.tag
  valueSize : m.valueSize = composed.valueSize
  /-- the end tag, and every word behind it -/
  rest : m.words.toList.drop (valueStart + room) = composed.words.toList.drop (valueStart + room)

/-- An answer given to a message that has kept its frame. -/
theorem says_answered {composed m : Message} (h : Frame composed m) {values : List UInt32}
    (hvalues : 4 * values.length < 2 ^ 31) :
    Says composed (m.answered values) composed.tag composed.valueWords values := by
  have hframe : Frame composed (m.answered values) := h.trans (frame_answered m values)
  have hbits : values.length * 4 < 2 ^ 31 := by omega
  have hresponse := response_answered m hbits
  rw [h.tag, h.valueWords] at hresponse
  refine ⟨⟨_, hresponse, rfl, ?_, rfl, first_take _ _ values _⟩, hframe.len, hframe.sizeBytes, hframe.tag,
    hframe.valueSize, hframe.drop⟩
  exact (statusSize_answered m hbits).trans (Nat.mul_comm _ _)

/-- **The last answer stands.** A message that was composed, and then answered and marked any number of times, says the values
that it was answered with last, as many as its value buffer has room for; its frame is as it was composed. -/
theorem last_answer_stands {tag : UInt32} {payload : List UInt32} {responseWords : UInt64} {m : Message}
    (h : compose tag payload responseWords = .ok m) (rs : List Reaction) {values : List UInt32}
    (hvalues : 4 * values.length < 2 ^ 31) :
    Says m (m.handle (rs ++ [.answer values])) tag (max payload.length responseWords.toNat) values := by
  have hsays := says_answered (frame_handle m rs) hvalues
  rw [tag_of_compose h, valueWords_of_compose h] at hsays
  rw [handle_concat]
  exact hsays

/-- One word over an answer of four, and over a request of two: the word alone comes back. -/
theorem last_answer_stands_alone : ∃ m, compose 0x1234 [7, 8] 3 = .ok m ∧ 4 * [(9 : UInt32)].length < 2 ^ 31 ∧
    ∃ r, (m.handle ([.answer [1, 2, 3, 4], .code parseFailure] ++ [.answer [9]])).response = .ok r ∧ r.values = [9] ∧
      r.first 2 = .error (.truncated 0x1234 2 1) := by
  obtain ⟨m, hm⟩ : ∃ m, compose 0x1234 [7, 8] 3 = .ok m := compose_eq_ok (by decide) (by decide)
  have hvalues : 4 * [(9 : UInt32)].length < 2 ^ 31 := by decide
  obtain ⟨r, hr, -, -, hwords, hfirst⟩ :=
    (last_answer_stands hm [.answer [1, 2, 3, 4], .code parseFailure] hvalues).response
  exact ⟨m, hm, hvalues, r, hr, hwords, hfirst 2⟩

end MailboxCursor.Message
