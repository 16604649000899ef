/-
Words as bytes, least significant byte first: how a message lies in memory and how the firmware reads pixels.
-/

namespace MailboxCursor

/-- the four bytes of a word, least significant first -/
def wordBytes (w : UInt32) : List UInt8 :=
  [w.toUInt8, (w >>> 8).toUInt8, (w >>> 16).toUInt8, (w >>> 24).toUInt8]

/-- the word with these four bytes, least significant first -/
def wordOfBytes (a b c d : UInt8) : UInt32 :=
  a.toUInt32 ||| (b.toUInt32 <<< 8) ||| (c.toUInt32 <<< 16) ||| (d.toUInt32 <<< 24)

/-- bytes of a run of words -/
def bytesOfWords (ws : List UInt32) : List UInt8 :=
  ws.flatMap wordBytes

/-- the whole words in a run of bytes; a rest of fewer than four bytes is dropped -/
def wordsOfBytes : List UInt8 → List UInt32
  | a :: b :: c :: d :: rest => wordOfBytes a b c d :: wordsOfBytes rest
  | _ => []

theorem length_bytesOfWords (ws : List UInt32) : (bytesOfWords ws).length = 4 * ws.length := by
  induction ws with
  | nil => rfl
  | cons w ws ih =>
    simp only [bytesOfWords, List.flatMap_cons, List.length_append, List.length_cons] at ih ⊢
    simp only [wordBytes, List.length_cons, List.length_nil]
    omega

/-- a word is what its bytes say -/
theorem wordOfBytes_wordBytes (w : UInt32) :
    wordOfBytes w.toUInt8 (w >>> 8).toUInt8 (w >>> 16).toUInt8 (w >>> 24).toUInt8 = w := by
  apply UInt32.toBitVec_inj.1
  apply BitVec.eq_of_getLsbD_eq
  intro i hi
  simp only [wordOfBytes, UInt32.toBitVec_or, UInt32.toBitVec_shiftLeft, UInt8.toBitVec_toUInt32,
    UInt32.toBitVec_toUInt8, UInt32.toBitVec_shiftRight, BitVec.getLsbD_or]
  have h : i < 8 ∨ (8 ≤ i ∧ i < 16) ∨ (16 ≤ i ∧ i < 24) ∨ 24 ≤ i := by omega
  rcases h with h | ⟨h, h'⟩ | ⟨h, h'⟩ | h
  · simp [hi, h, show i < 16 by omega, show i < 24 by omega]
  · simp [hi, h', show ¬i < 8 by omega, show i - 8 < 8 by omega, show i < 24 by omega, show 8 + (i - 8) = i by omega]
  · simp [hi, h', show ¬i < 8 by omega, show ¬i < 16 by omega, show ¬i - 8 < 8 by omega, show i - 16 < 8 by omega,
      show 16 + (i - 16) = i by omega]
  · simp [hi, show ¬i < 8 by omega, show ¬i < 16 by omega, show ¬i < 24 by omega, show ¬i - 8 < 8 by omega,
      show ¬i - 16 < 8 by omega, show i - 24 < 8 by omega, show 24 + (i - 24) = i by omega]

theorem wordsOfBytes_bytesOfWords (ws : List UInt32) : wordsOfBytes (bytesOfWords ws) = ws := by
  induction ws with
  | nil => rfl
  | cons w ws ih =>
    simp only [bytesOfWords, List.flatMap_cons, wordBytes, List.cons_append, List.nil_append, wordsOfBytes] at ih ⊢
    rw [ih, wordOfBytes_wordBytes]

end MailboxCursor
