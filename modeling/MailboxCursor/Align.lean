/-
Rounding up to a multiple: bus addresses to their alignment, allocations to whole granules, rows of a plane to their pad.
`alignUp n align` is the least multiple of `align` that is `n` or more: `le_alignUp`, `dvd_alignUp` and `alignUp_le` say so.
What is behind a multiple is rounded up as it is alone: `alignUp_add`.
-/

namespace MailboxCursor

def alignUp (n align : Nat) : Nat :=
  (n + align - 1) / align * align

theorem le_alignUp (n : Nat) {align : Nat} (h : 0 < align) : n ≤ alignUp n align := by
  have hdiv := Nat.div_add_mod (n + align - 1) align
  have hmod := Nat.mod_lt (n + align - 1) h
  rw [alignUp, Nat.mul_comm]
  omega

theorem dvd_alignUp (n align : Nat) : align ∣ alignUp n align :=
  Nat.dvd_mul_left align _

theorem alignUp_le {n align m : Nat} (h : n ≤ m) (hm : align ∣ m) : alignUp n align ≤ m := by
  obtain ⟨k, rfl⟩ := hm
  rcases Nat.eq_zero_or_pos align with rfl | ha
  · simp [alignUp]
  · have hk : (n + align - 1) / align ≤ k := by
      rw [← Nat.lt_succ_iff, Nat.div_lt_iff_lt_mul ha, Nat.succ_mul, Nat.mul_comm]
      omega
    calc alignUp n align = (n + align - 1) / align * align := rfl
      _ ≤ k * align := Nat.mul_le_mul_right align hk
      _ = align * k := Nat.mul_comm k align

theorem alignUp_add {n align : Nat} (h : align ∣ n) (m : Nat) : alignUp (n + m) align = n + alignUp m align := by
  obtain ⟨k, rfl⟩ := h
  rcases Nat.eq_zero_or_pos align with rfl | ha
  · simp [alignUp]
  · have hsum : align * k + m + align - 1 = align * k + (m + align - 1) := by omega
    rw [alignUp, alignUp, hsum, Nat.mul_add_div ha, Nat.add_mul, Nat.mul_comm k align]

end MailboxCursor
