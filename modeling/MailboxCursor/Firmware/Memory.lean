/-
Contents of one allocation: a fill byte and what was written over it. A block may be larger than any list of its bytes could
be, so only the writes are held. `byte` is the view that hides this: `byte_write` says all that writing does to it, and
`toList_runs` that the runs of a window are its bytes, whatever part of the window was never written.
-/
import MailboxCursor.Runs

namespace MailboxCursor

/-- bytes laid over a memory from an offset on -/
structure Patch where
  start : Nat
  bytes : Array UInt8
deriving DecidableEq, Repr

namespace Patch

/-- one past the last byte -/
def stop (p : Patch) : Nat :=
  p.start + p.bytes.size

/-- the byte at offset `i` of the memory lies under the patch -/
def holds (p : Patch) (i : Nat) : Bool :=
  p.start ≤ i && i < p.stop

/-- some byte of the `n` from offset `i` on lies under the patch -/
def meets (p : Patch) (i n : Nat) : Bool :=
  p.start < i + n && i < p.stop

/-- nothing of `q` shows beside `p` -/
def covers (p q : Patch) : Bool :=
  p.start ≤ q.start && q.stop ≤ p.stop

theorem holds_iff (p : Patch) (i : Nat) : p.holds i ↔ p.start ≤ i ∧ i < p.stop := by
  simp [holds]

theorem holds_of_covers {p q : Patch} {i : Nat} (h : p.covers q) (hi : q.holds i) : p.holds i := by
  simp only [holds, covers, Bool.and_eq_true, decide_eq_true_eq] at *
  omega

theorem meets_of_holds {p : Patch} {i n j : Nat} (hj : p.holds j) (hi : i ≤ j) (hn : j < i + n) : p.meets i n := by
  simp only [holds, meets, Bool.and_eq_true, decide_eq_true_eq] at *
  omega

end Patch

structure Memory where
  /-- the byte that stands wherever none was written -/
  fill : UInt8
  /-- what was written, the newest first -/
  patches : List Patch
deriving DecidableEq, Repr

namespace Memory

def fresh (fill : UInt8) : Memory :=
  ⟨fill, []⟩

/-- the byte at offset `i`: that of the newest patch over it -/
def byte (m : Memory) (i : Nat) : UInt8 :=
  match m.patches.find? fun p => p.holds i with
  | some p => p.bytes.getD (i - p.start) m.fill
  | none => m.fill

/-- bytes written from offset `i` on; patches of which nothing shows any more are let go -/
def write (m : Memory) (i : Nat) (bs : List UInt8) : Memory :=
  if bs.isEmpty then m
  else
    let p : Patch := ⟨i, bs.toArray⟩
    { m with patches := p :: m.patches.filter fun q => !p.covers q }

/-- `n` bytes from offset `i` on -/
def read (m : Memory) (i n : Nat) : List UInt8 :=
  (List.range' i n).map m.byte

/-- the memory as far as the `n` bytes from offset `i` on show it -/
def within (m : Memory) (i n : Nat) : Memory :=
  { m with patches := m.patches.filter fun p => p.meets i n }

/-- a window of at most so many bytes is read byte by byte -/
def shortWindow : Nat := 64

/--
The runs of the `n` bytes from offset `i` on, in front of the runs `rest`. Where nothing was written there is one run,
whatever its length; a long window that was written to is halved.
-/
def runsBefore (m : Memory) (i n : Nat) (rest : List (Nat × UInt8)) : List (Nat × UInt8) :=
  let shown := m.within i n
  if shown.patches.isEmpty then Runs.push n m.fill rest
  else if n ≤ shortWindow then Runs.before (shown.read i n) rest
  else shown.runsBefore i (n / 2) (shown.runsBefore (i + n / 2) (n - n / 2) rest)
termination_by n
decreasing_by all_goals (simp only [shortWindow] at *; omega)

/-- `n` bytes from offset `i` on as runs -/
def runs (m : Memory) (i n : Nat) : List (Nat × UInt8) :=
  m.runsBefore i n []

/-! ## What a write shows -/

theorem byte_write (m : Memory) (i : Nat) (bs : List UInt8) (j : Nat) :
    (m.write i bs).byte j = if i ≤ j ∧ j < i + bs.length then bs.getD (j - i) 0 else m.byte j := by
  unfold write
  split
  next h =>
    obtain rfl := List.isEmpty_iff.1 h
    rw [if_neg (by simp only [List.length_nil]; omega)]
  next h =>
    have hp := Patch.holds_iff ⟨i, bs.toArray⟩ j
    simp only [Patch.stop, List.size_toArray] at hp
    simp only [byte, List.find?_cons, List.find?_filter]
    by_cases hj : i ≤ j ∧ j < i + bs.length
    · simp [hp.2 hj, hj, List.getD_eq_getElem?_getD, Array.getD_eq_getD_getElem?, show j - i < bs.length by omega]
    · simp only [if_neg hj, Bool.eq_false_iff.2 (mt hp.1 hj)]
      congr 2
      funext q
      by_cases hq : q.holds j
      · simp [hq, mt (Patch.holds_of_covers · hq) (mt hp.1 hj)]
      · simp [hq]

/-! ## Windows -/

@[simp] theorem length_read (m : Memory) (i n : Nat) : (m.read i n).length = n := by
  simp [read]

theorem read_add (m : Memory) (i k l : Nat) : m.read i (k + l) = m.read i k ++ m.read (i + k) l := by
  simp only [read, ← List.map_append, List.range'_append_1]

/-- A narrowed memory shows the same bytes inside its window. -/
theorem byte_within (m : Memory) {i n j : Nat} (hi : i ≤ j) (hj : j < i + n) : (m.within i n).byte j = m.byte j := by
  simp only [byte, within, List.find?_filter]
  congr 2
  funext p
  by_cases hp : p.holds j
  · simp [hp, Patch.meets_of_holds hp hi hj]
  · simp [hp]

theorem read_within (m : Memory) {i n k l : Nat} (hk : i ≤ k) (hl : k + l ≤ i + n) :
    (m.within i n).read k l = m.read k l := by
  refine List.map_congr_left fun j hj => ?_
  obtain ⟨hj, hlt⟩ := List.mem_range'_1.1 hj
  exact m.byte_within (by omega) (by omega)

/-- A memory that nothing was written to is all fill byte. -/
theorem read_of_patches_nil {m : Memory} (h : m.patches = []) (i n : Nat) : m.read i n = List.replicate n m.fill := by
  refine List.eq_replicate_iff.2 ⟨m.length_read i n, fun b hb => ?_⟩
  obtain ⟨j, -, rfl⟩ := List.mem_map.1 hb
  simp [byte, h]

theorem toList_runsBefore (m : Memory) (i n : Nat) (rest : List (Nat × UInt8)) :
    Runs.toList (m.runsBefore i n rest) = m.read i n ++ Runs.toList rest := by
  fun_induction runsBefore m i n rest with
  | case1 m i n rest shown h =>
    rw [Runs.toList_push, ← m.read_within (Nat.le_refl i) (Nat.le_refl (i + n)),
      read_of_patches_nil (List.isEmpty_iff.1 h)]
    rfl
  | case2 m i n rest shown h hn =>
    rw [Runs.toList_before, m.read_within (Nat.le_refl i) (Nat.le_refl (i + n))]
  | case3 m i n rest shown h hn ihr _ ihl =>
    rw [ihl, ihr, ← List.append_assoc, ← read_add, show n / 2 + (n - n / 2) = n by omega,
      m.read_within (Nat.le_refl i) (Nat.le_refl (i + n))]

theorem toList_runs (m : Memory) (i n : Nat) : Runs.toList (m.runs i n) = m.read i n := by
  simp [runs, toList_runsBefore, Runs.toList]

end Memory
end MailboxCursor
