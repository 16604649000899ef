/-
Live allocations and the table of them, which is kept in the order of handles. `find?_insert` and `find?_modify` say what is
found in a table to which a block was added, and in one of which a block was changed.
-/
import MailboxCursor.Align
import MailboxCursor.Firmware.Memory

namespace MailboxCursor

/-- bus addresses are handed out in granules of this many bytes -/
def busGranule : Nat := 4096

/-- the first bus address that is handed out -/
def busBase : Nat := 0xde000000

/-- one past the last one -/
def busEnd : Nat := 0x100000000

/-- a live allocation -/
structure Block where
  handle : UInt32
  bus : UInt32
  size : UInt32
  locks : UInt32
  mappings : Nat
  memory : Memory
deriving DecidableEq, Repr

namespace Block

def start (b : Block) : Nat :=
  b.bus.toNat

/-- one past the last byte -/
def stop (b : Block) : Nat :=
  b.start + b.size.toNat

/-- the bus range that the block takes up, in whole granules -/
def span (b : Block) : Nat × Nat :=
  (b.start, alignUp b.stop busGranule)

def isLocked (b : Block) : Bool :=
  b.locks != 0

/-- the window of `len` bytes at `bus` lies inside the block -/
def holds (b : Block) (bus len : Nat) : Bool :=
  b.start ≤ bus && bus + len ≤ b.stop

end Block

namespace Blocks

def find? (bs : List Block) (handle : UInt32) : Option Block :=
  bs.find? fun b => b.handle == handle

/-- one block changed -/
def modify (bs : List Block) (handle : UInt32) (f : Block → Block) : List Block :=
  bs.map fun b => if b.handle = handle then f b else b

def erase (bs : List Block) (handle : UInt32) : List Block :=
  bs.filter fun b => b.handle != handle

/-- a block put at its handle's place; one that has the same handle gives way -/
def insert (b : Block) : List Block → List Block
  | [] => [b]
  | c :: cs =>
    if b.handle < c.handle then b :: c :: cs
    else if b.handle = c.handle then b :: cs
    else c :: insert b cs

/-! ## Looking up in a changed table -/

theorem find?_insert (b : Block) (bs : List Block) (h : UInt32) :
    find? (insert b bs) h = if b.handle = h then some b else find? bs h := by
  induction bs with
  | nil => by_cases hb : b.handle = h <;> simp [insert, find?, hb]
  | cons c cs ih =>
    simp only [find?, insert, List.find?_cons] at ih ⊢
    by_cases hb : b.handle = h <;> by_cases hc : c.handle = h <;> grind

theorem find?_modify (bs : List Block) (changed h : UInt32) (f : Block → Block) (hf : ∀ b, (f b).handle = b.handle) :
    find? (modify bs changed f) h = if changed = h then (find? bs h).map f else find? bs h := by
  induction bs with
  | nil => simp [find?, modify]
  | cons c cs ih =>
    simp only [find?, modify, List.map_cons, List.find?_cons] at ih ⊢
    by_cases hc : c.handle = changed <;> by_cases hh : c.handle = h <;> grind

end Blocks
end MailboxCursor
