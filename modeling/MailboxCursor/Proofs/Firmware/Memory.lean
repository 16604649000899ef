/-
Reading back what was written to the memory of a block. `getElem?_read` is the view of a window byte by byte, `read_write` what
a window shows after a write, `read_write_self` the round trip, and `write_write` what is left of bytes that were written over.
-/
import Mathlib.Tactic
import MailboxCursor.Firmware.Memory

namespace MailboxCursor.Memory

variable {m : Memory} {i n : Nat}

theorem byte_fresh (fill : UInt8) (i : Nat) : (fresh fill).byte i = fill := rfl

theorem getElem?_read {k : Nat} (h : k < n) : (m.read i n)[k]? = some (m.byte (i + k)) := by
  rw [read, List.getElem?_map, List.getElem?_range' h, Option.map_some, Nat.one_mul]

/-- What a window shows of bytes that were written from its start on, and what it shows behind them. -/
theorem read_write (m : Memory) (i n : Nat) (bs : List UInt8) :
    (m.write i bs).read i n = bs.take n ++ (m.read i n).drop bs.length := by
  refine List.ext_getElem? fun k => ?_
  by_cases hk : k < n
  · rw [getElem?_read hk, byte_write, Nat.add_sub_cancel_left]
    by_cases hwritten : k < bs.length
    · rw [if_pos (by omega), List.getElem?_append_left (by rw [List.length_take]; omega), List.getElem?_take_of_lt hk,
        List.getD_eq_getElem?_getD, List.getElem?_eq_getElem hwritten, Option.getD_some]
    · have htake : bs.take n = bs := List.take_of_length_le (by omega)
      rw [if_neg (by omega), htake, List.getElem?_append_right (by omega), List.getElem?_drop,
        Nat.add_sub_of_le (by omega), getElem?_read hk]
  · rw [List.getElem?_eq_none (by rw [length_read]; omega), List.getElem?_eq_none]
    rw [List.length_append, List.length_take, List.length_drop, length_read]
    omega

theorem read_write_self (m : Memory) (i : Nat) (bs : List UInt8) : (m.write i bs).read i bs.length = bs := by
  rw [read_write, List.take_length, List.drop_of_length_le (m.length_read i bs.length).le, List.append_nil]

/-- Nothing is left of bytes that others were written over. -/
theorem write_write (m : Memory) (i : Nat) {as bs : List UInt8} (h : as.length ≤ bs.length) :
    (m.write i as).write i bs = m.write i bs := by
  by_cases has : as = []
  · rw [has]
    rfl
  have hbs : bs ≠ [] := by
    rintro rfl
    exact has (List.eq_nil_of_length_eq_zero (Nat.le_zero.1 h))
  have hcovers : (⟨i, bs.toArray⟩ : Patch).covers ⟨i, as.toArray⟩ = true := by
    simp [Patch.covers, Patch.stop, h]
  -- what the first bytes covered, the second cover as well
  have hless (q : Patch) (hq : (⟨i, as.toArray⟩ : Patch).covers q = true) : (⟨i, bs.toArray⟩ : Patch).covers q = true := by
    simp only [Patch.covers, Patch.stop, Bool.and_eq_true, decide_eq_true_eq, List.size_toArray] at hq ⊢
    omega
  simp only [write, List.isEmpty_iff, has, hbs, if_false, List.filter_cons, hcovers, Bool.not_true, Bool.false_eq_true,
    List.filter_filter]
  congr 2
  refine List.filter_congr fun q _ => ?_
  by_cases hq : (⟨i, as.toArray⟩ : Patch).covers q = true
  · rw [hless q hq, hq]
    rfl
  · rw [Bool.not_eq_true] at hq
    rw [hq, Bool.not_false, Bool.and_true]

end MailboxCursor.Memory
