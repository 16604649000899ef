/-
The language of numerals, and that a setting's number is read by it.

`Denotes s n` is the grammar: decimal digits, or `0x` or `0X` and hexadecimal digits of either case, one at least, with at most
one `+` before the digits; `n` is the number that the digits write to their base, the most significant first, whatever zeros
lead. The reader pushes digit after digit and gives up at the first value that is too large. As a value only grows with the
digits that follow (`foldlM_push?_eq_some_iff`), it gives up on exactly the numerals from the limit on, so it reads the
numerals below and nothing else (`word?_eq_some_iff`). `word_parsed` says this of a variable.
-/
import Mathlib.Data.Nat.Digits.Defs
import MailboxCursor.Proofs.Settings.Blank

namespace MailboxCursor

namespace Numeral

/-! ## The grammar -/

/-- `c` is the digit `d` to the base `base`, a letter in lower or in upper case -/
def Digit (base : Nat) (c : Char) (d : Nat) : Prop :=
  d < base ∧ (c = Nat.digitChar d ∨ c = (Nat.digitChar d).toUpper)

instance (base : Nat) (c : Char) (d : Nat) : Decidable (Digit base c d) :=
  inferInstanceAs (Decidable (_ ∧ _))

/-- one digit or more, which write `n` to the base `base` -/
def Digits (base : Nat) (cs : List Char) (n : Nat) : Prop :=
  cs ≠ [] ∧ ∃ ds, List.Forall₂ (Digit base) cs ds ∧ n = Nat.ofDigits base ds.reverse

/-- digits, with at most one `+` before them -/
inductive Unsigned (base : Nat) : List Char → Nat → Prop where
  | bare {cs n} : Digits base cs n → Unsigned base cs n
  | plus {cs n} : Digits base cs n → Unsigned base ('+' :: cs) n

/-- the numeral `s` stands for `n` -/
inductive Denotes : List Char → Nat → Prop where
  | decimal {cs n} : Unsigned 10 cs n → Denotes cs n
  | lowerHex {cs n} : Unsigned 16 cs n → Denotes ('0' :: 'x' :: cs) n
  | upperHex {cs n} : Unsigned 16 cs n → Denotes ('0' :: 'X' :: cs) n

/-! ## Digits -/

variable {base limit : Nat} {c : Char} {cs : List Char} {a d n : Nat}

theorem toNat_digitChar (hd : 10 ≤ d ∧ d < 16) :
    (Nat.digitChar d).toNat = d + 87 ∧ (Nat.digitChar d).toUpper.toNat = d + 55 := by
  obtain ⟨h, h'⟩ := hd
  interval_cases d <;> decide

theorem digit?_eq_some_iff : digit? c = some d ↔ Digit 16 c d := by
  constructor
  · intro h
    unfold digit? at h
    split_ifs at h with hdecimal hlower hupper
    all_goals obtain rfl := Option.some.inj h
    · obtain ⟨hlow, hhigh⟩ : 48 ≤ c.toNat ∧ c.toNat ≤ 57 := hdecimal
      have hzero : '0'.toNat = 48 := rfl
      refine ⟨by omega, Or.inl (Char.toNat_inj.1 ?_)⟩
      rw [Nat.toNat_digitChar_of_lt_ten (by omega)]
      omega
    · obtain ⟨hlow, hhigh⟩ : 97 ≤ c.toNat ∧ c.toNat ≤ 102 := hlower
      have ha : 'a'.toNat = 97 := rfl
      refine ⟨by omega, Or.inl (Char.toNat_inj.1 ?_)⟩
      rw [(toNat_digitChar (by omega)).1]
      omega
    · obtain ⟨hlow, hhigh⟩ : 65 ≤ c.toNat ∧ c.toNat ≤ 70 := hupper
      have hA : 'A'.toNat = 65 := rfl
      refine ⟨by omega, Or.inr (Char.toNat_inj.1 ?_)⟩
      rw [(toNat_digitChar (by omega)).2]
      omega
  · rintro ⟨hd, rfl | rfl⟩
    · interval_cases d <;> rfl
    · interval_cases d <;> rfl

/-- A character that is no digit to the base 16 is none to a smaller one. -/
theorem digit_iff (hbase : base ≤ 16) : Digit base c d ↔ digit? c = some d ∧ d < base := by
  rw [digit?_eq_some_iff]
  constructor
  · exact fun h => ⟨⟨h.1.trans_le hbase, h.2⟩, h.1⟩
  · exact fun h => ⟨h.2, h.1.2⟩

theorem not_digit (hbase : base ≤ 16) (hc : digit? c = none) : ¬Digit base c d := by
  intro h
  cases hc.symm.trans ((digit_iff hbase).1 h).1

theorem push?_eq_some_iff (hbase : base ≤ 16) :
    push? base limit a c = some n ↔ ∃ d, Digit base c d ∧ n = a * base + d ∧ n < limit := by
  unfold push?
  cases hdigit : digit? c with
  | none =>
    refine iff_of_false (by simp) ?_
    rintro ⟨d, hd, -⟩
    exact not_digit hbase hdigit hd
  | some d =>
    simp only [digit_iff hbase, hdigit, Option.some.injEq]
    constructor
    · intro h
      split_ifs at h with hd
      obtain rfl := Option.some.inj h
      exact ⟨d, ⟨rfl, hd.1⟩, rfl, hd.2⟩
    · rintro ⟨d', ⟨rfl, hd⟩, rfl, hn⟩
      rw [if_pos ⟨hd, hn⟩]

/-- A digit that follows a value is worth more by the digits that follow it. -/
theorem ofDigits_cons (base a d : Nat) (ds : List Nat) :
    a * base ^ (d :: ds).length + Nat.ofDigits base (d :: ds).reverse =
      (a * base + d) * base ^ ds.length + Nat.ofDigits base ds.reverse := by
  rw [Nat.ofDigits_reverse_cons, List.length_cons, pow_succ]
  ring

/-- Digits that follow the value `a` are read to the end exactly if the whole value is below the limit. -/
theorem foldlM_push?_eq_some_iff (hbase : 0 < base ∧ base ≤ 16) (ha : a < limit) :
    cs.foldlM (push? base limit) a = some n ↔
      n < limit ∧ ∃ ds, List.Forall₂ (Digit base) cs ds ∧ n = a * base ^ ds.length + Nat.ofDigits base ds.reverse := by
  induction cs generalizing a with
  | nil =>
    constructor
    · intro h
      obtain rfl := Option.some.inj h
      exact ⟨ha, [], .nil, by simp⟩
    · rintro ⟨-, ds, hds, rfl⟩
      obtain rfl := List.forall₂_nil_left_iff.1 hds
      simp
  | cons c cs ih =>
    rw [List.foldlM_cons, Option.bind_eq_bind, Option.bind_eq_some_iff]
    constructor
    · rintro ⟨a', hpush, hrest⟩
      obtain ⟨d, hd, rfl, ha'⟩ := (push?_eq_some_iff hbase.2).1 hpush
      obtain ⟨hn, ds, hds, rfl⟩ := (ih ha').1 hrest
      exact ⟨hn, d :: ds, .cons hd hds, (ofDigits_cons ..).symm⟩
    · rintro ⟨hn, _, hds, hvalue⟩
      cases hds with
      | @cons _ d _ ds hd hds =>
        rw [ofDigits_cons] at hvalue
        -- the value so far is not above the whole, so it is not too large either
        have ha' : a * base + d < limit :=
          calc a * base + d ≤ (a * base + d) * base ^ ds.length := Nat.le_mul_of_pos_right _ (pow_pos hbase.1 _)
            _ ≤ (a * base + d) * base ^ ds.length + Nat.ofDigits base ds.reverse := Nat.le_add_right _ _
            _ = n := hvalue.symm
            _ < limit := hn
        exact ⟨a * base + d, (push?_eq_some_iff hbase.2).2 ⟨d, hd, rfl, ha'⟩, (ih ha').2 ⟨hn, ds, hds, hvalue⟩⟩

theorem digits?_eq_some_iff (hbase : 0 < base ∧ base ≤ 16) (hlimit : 0 < limit) :
    digits? base limit cs = some n ↔ n < limit ∧ Digits base cs n := by
  cases cs with
  | nil => exact iff_of_false (by simp [digits?]) fun h => h.2.1 rfl
  | cons c cs =>
    have hvalue : ∀ ds : List Nat,
        0 * base ^ ds.length + Nat.ofDigits base ds.reverse = Nat.ofDigits base ds.reverse := by
      intro ds
      rw [Nat.zero_mul, Nat.zero_add]
    simp only [digits?, foldlM_push?_eq_some_iff hbase hlimit, hvalue]
    exact and_congr_right fun _ => (and_iff_right (List.cons_ne_nil c cs)).symm

/-! ## Numerals -/

/-- What stands in digits is a digit. -/
theorem Digits.exists_digit (h : Digits base cs n) (hc : c ∈ cs) : ∃ d, Digit base c d := by
  obtain ⟨-, ds, hds, -⟩ := h
  induction hds with
  | nil => cases hc
  | cons hd _ ih =>
    rcases List.mem_cons.1 hc with rfl | hc
    · exact ⟨_, hd⟩
    · exact ih hc

theorem unsigned?_eq_some_iff (hbase : 0 < base ∧ base ≤ 16) (hlimit : 0 < limit) :
    unsigned? base limit cs = some n ↔ n < limit ∧ Unsigned base cs n := by
  unfold unsigned?
  split
  next cs =>
    rw [digits?_eq_some_iff hbase hlimit]
    refine and_congr_right fun _ => ⟨.plus, fun h => ?_⟩
    cases h with
    | bare h =>
      obtain ⟨d, hd⟩ := h.exists_digit (List.mem_cons_self ..)
      exact absurd hd (not_digit hbase.2 rfl)
    | plus h => exact h
  next cs hplus =>
    rw [digits?_eq_some_iff hbase hlimit]
    refine and_congr_right fun _ => ⟨.bare, fun h => ?_⟩
    cases h with
    | bare h => exact h
    | plus h => exact absurd rfl (hplus _)

/-- The reader of digits gives a word exactly for the numerals of that word. -/
theorem ofNat_unsigned?_iff (hbase : 0 < base ∧ base ≤ 16) {w : UInt32} :
    (∃ n, unsigned? base UInt32.size cs = some n ∧ UInt32.ofNat n = w) ↔ Unsigned base cs w.toNat := by
  simp only [unsigned?_eq_some_iff hbase (show 0 < UInt32.size by decide)]
  constructor
  · rintro ⟨n, ⟨hn, h⟩, rfl⟩
    rwa [UInt32.toNat_ofNat_of_lt' hn]
  · intro h
    exact ⟨w.toNat, ⟨w.toNat_lt, h⟩, UInt32.ofNat_toNat⟩

theorem denotes_lowerHex_iff : Denotes ('0' :: 'x' :: cs) n ↔ Unsigned 16 cs n := by
  refine ⟨fun h => ?_, .lowerHex⟩
  cases h with
  | decimal h =>
    cases h with
    | bare h =>
      obtain ⟨d, hd⟩ := h.exists_digit (c := 'x') (by simp)
      exact absurd hd (not_digit (by decide) rfl)
  | lowerHex h => exact h

theorem denotes_upperHex_iff : Denotes ('0' :: 'X' :: cs) n ↔ Unsigned 16 cs n := by
  refine ⟨fun h => ?_, .upperHex⟩
  cases h with
  | decimal h =>
    cases h with
    | bare h =>
      obtain ⟨d, hd⟩ := h.exists_digit (c := 'X') (by simp)
      exact absurd hd (not_digit (by decide) rfl)
  | upperHex h => exact h

theorem denotes_decimal_iff (hlower : ∀ body, cs ≠ '0' :: 'x' :: body) (hupper : ∀ body, cs ≠ '0' :: 'X' :: body) :
    Denotes cs n ↔ Unsigned 10 cs n := by
  refine ⟨fun h => ?_, .decimal⟩
  cases h with
  | decimal h => exact h
  | lowerHex h => exact absurd rfl (hlower _)
  | upperHex h => exact absurd rfl (hupper _)

/-- The reader reads the numerals below 2^32, and nothing else. -/
theorem word?_eq_some_iff {text : List Char} {w : UInt32} : word? text = some w ↔ Denotes (Blank.trim text) w.toNat := by
  have hten : 0 < 10 ∧ 10 ≤ 16 := by decide
  have hsixteen : 0 < 16 ∧ 16 ≤ 16 := by decide
  rw [word?, Option.map_eq_some_iff]
  split
  next cs htext => rw [htext, denotes_lowerHex_iff, ofNat_unsigned?_iff hsixteen]
  next cs htext => rw [htext, denotes_upperHex_iff, ofNat_unsigned?_iff hsixteen]
  next hlower hupper => rw [denotes_decimal_iff hlower hupper, ofNat_unsigned?_iff hten]

end Numeral

/-! ## Variables -/

/-- **Numbers of variables are read by the grammar.** A variable that is not set has no number. One that is set has the number
that its text stands for without the white space at its ends, if that is a numeral below 2^32; and if it is none, the variable
is reported. -/
theorem word_parsed (env : Environment) (name : String) :
    (env.word name = .ok none ↔ env name = none) ∧
    ∀ text, env name = some text →
      ∃ s, (∀ s', Blank.Stripped text.toList s' ↔ s' = s) ∧
        (∀ w, env.word name = .ok (some w) ↔ Numeral.Denotes s w.toNat) ∧
        ∀ e, env.word name = .error e ↔ e = ⟨name⟩ ∧ ∀ n, Numeral.Denotes s n → 2 ^ 32 ≤ n := by
  constructor
  · unfold Environment.word
    cases env name with
    | none => simp
    | some text => cases hread : Numeral.word? text.toList <;> simp [hread]
  · intro text htext
    have hread : ∀ w, Numeral.word? text.toList = some w ↔ Numeral.Denotes (Blank.trim text.toList) w.toNat :=
      fun w => Numeral.word?_eq_some_iff
    refine ⟨Blank.trim text.toList, fun s' => Blank.stripped_iff, ?_⟩
    cases hword : Numeral.word? text.toList with
    | some w =>
      have hresult : env.word name = .ok (some w) := by simp only [Environment.word, htext, hword]
      have hdenotes : Numeral.Denotes (Blank.trim text.toList) w.toNat := (hread w).1 hword
      constructor
      · intro w'
        rw [hresult, ← hread, hword, Except.ok.injEq]
      · intro e
        refine iff_of_false (by simp [hresult]) fun h => ?_
        exact absurd (h.2 _ hdenotes) (not_le.2 w.toNat_lt)
    | none =>
      have hresult : env.word name = .error ⟨name⟩ := by simp only [Environment.word, htext, hword]
      have hlarge : ∀ n, Numeral.Denotes (Blank.trim text.toList) n → 2 ^ 32 ≤ n := by
        intro n hn
        by_contra hsmall
        rw [← UInt32.toNat_ofNat_of_lt' (not_le.1 hsmall)] at hn
        cases hword.symm.trans ((hread _).2 hn)
      constructor
      · intro w
        refine iff_of_false (by simp [hresult]) fun h => ?_
        exact absurd (hlarge _ h) (not_le.2 w.toNat_lt)
      · intro e
        rw [hresult, Except.error.injEq, eq_comm]
        exact (and_iff_left hlarge).symm

/-- The ideographic space is white space, too; a sign, zeros in front of the number and digits of both cases may stand
behind `0X`. -/
theorem word_parsed_signed :
    let env : Environment := fun _ => some "\u3000\t0X+00fF\n"
    env "VC_MAILBOX_MAJOR" = some "\u3000\t0X+00fF\n" ∧ env.word "VC_MAILBOX_MAJOR" = .ok (some 255) := by
  intro env
  have htext : env "VC_MAILBOX_MAJOR" = some "\u3000\t0X+00fF\n" := rfl
  obtain ⟨s, hs, hword, -⟩ := (word_parsed env "VC_MAILBOX_MAJOR").2 _ htext
  have hstripped : Blank.Stripped "\u3000\t0X+00fF\n".toList "0X+00fF".toList := Blank.stripped_iff.2 (by decide)
  obtain rfl := (hs _).1 hstripped
  have hdigits : Numeral.Digits 16 ['0', '0', 'f', 'F'] 255 := ⟨by decide, [0, 0, 15, 15], by decide, by decide⟩
  exact ⟨htext, (hword 255).2 (.upperHex (.plus hdigits))⟩

end MailboxCursor
