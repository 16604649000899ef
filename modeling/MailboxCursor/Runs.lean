/-
Run lengths: a list told as its maximal runs of equal elements. `ofList` compresses, `toList` expands, and `toList_ofList` says
that nothing is lost on the way.
-/

namespace MailboxCursor.Runs

variable {α : Type} [DecidableEq α]

/-- one more run in front, joined to the first one if it holds the same element; an empty run adds nothing -/
def push (n : Nat) (a : α) : List (Nat × α) → List (Nat × α)
  | [] => if n = 0 then [] else [(n, a)]
  | (m, b) :: rs => if n = 0 then (m, b) :: rs else if a = b then (n + m, b) :: rs else (n, a) :: (m, b) :: rs

/-- the runs of `xs` followed by the runs `rs` -/
def before (xs : List α) (rs : List (Nat × α)) : List (Nat × α) :=
  xs.reverse.foldl (fun acc a => push 1 a acc) rs

def ofList (xs : List α) : List (Nat × α) :=
  before xs []

/-- the list that a list of runs stands for -/
def toList : List (Nat × α) → List α
  | [] => []
  | (n, a) :: rs => List.replicate n a ++ toList rs

theorem toList_push (n : Nat) (a : α) (rs : List (Nat × α)) :
    toList (push n a rs) = List.replicate n a ++ toList rs := by
  cases rs with
  | nil => by_cases h : n = 0 <;> simp [push, toList, h]
  | cons r rs =>
    by_cases h : n = 0
    · simp [push, h]
    · by_cases hb : a = r.2
      · simp [push, h, hb, toList, List.replicate_append_replicate, ← List.append_assoc]
      · simp [push, h, hb, toList]

theorem toList_before (xs : List α) (rs : List (Nat × α)) : toList (before xs rs) = xs ++ toList rs := by
  induction xs generalizing rs with
  | nil => rfl
  | cons x xs ih =>
    have h : before (x :: xs) rs = push 1 x (before xs rs) := by simp [before, List.foldl_append]
    rw [h, toList_push, ih]
    rfl

theorem toList_ofList (xs : List α) : toList (ofList xs) = xs := by
  simp [ofList, toList_before, toList]

end MailboxCursor.Runs
