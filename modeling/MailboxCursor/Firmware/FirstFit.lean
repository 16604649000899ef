/-
Where the next allocation goes: the lowest bus address of the wanted alignment at which it meets no other. `search` walks
the spans in order of address; `firstFit` sorts them first and refuses what would leave the bus window.
-/
import MailboxCursor.Firmware.Block

namespace MailboxCursor.FirstFit

/-- `candidate`, or the lowest aligned address after it, at which `len` bytes fit between the sorted `spans` -/
def search (len align : Nat) : List (Nat × Nat) → Nat → Nat
  | [], candidate => candidate
  | (start, stop) :: rest, candidate =>
    if candidate + len ≤ start then candidate else search len align rest (max candidate (alignUp stop align))

/-- spans in order of their start -/
def sorted (spans : List (Nat × Nat)) : List (Nat × Nat) :=
  spans.mergeSort fun a b => a.1 < b.1 || (a.1 == b.1 && a.2 ≤ b.2)

/-- the place for `size` bytes beside `spans` -/
def firstFit (spans : List (Nat × Nat)) (size align : Nat) : Option Nat :=
  let len := alignUp size busGranule
  let place := search len align (sorted spans) (alignUp busBase align)
  if busEnd < place + len then none else some place

end MailboxCursor.FirstFit
