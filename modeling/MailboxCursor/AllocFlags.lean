/-
Flags of an allocation. A set is the word that the firmware is sent, so it may hold bits that have no name here.
-/
import MailboxCursor.Text.Hex

namespace MailboxCursor

structure AllocFlags where
  bits : UInt32
deriving DecidableEq, Repr

namespace AllocFlags

/-- can be resized to nothing at any time -/
def discardable : AllocFlags := ⟨1⟩
/-- normal allocating alias; no bit of its own -/
def normal : AllocFlags := ⟨0⟩
/-- uncached alias -/
def direct : AllocFlags := ⟨4⟩
/-- coherent alias that does not allocate -/
def coherent : AllocFlags := ⟨8⟩
/-- allocating in the second cache only: both of the two before -/
def l1NonAllocating : AllocFlags := ⟨12⟩
/-- start with zeros -/
def zero : AllocFlags := ⟨16⟩
/-- start with anything -/
def noInit : AllocFlags := ⟨32⟩
/-- will stay locked for long -/
def hintPermalock : AllocFlags := ⟨64⟩

/-- the named bits, in the order of their names -/
def named : List (AllocFlags × String) :=
  [(discardable, "DISCARDABLE"), (direct, "DIRECT"), (coherent, "COHERENT"), (zero, "ZERO"), (noInit, "NO_INIT"),
    (hintPermalock, "HINT_PERMALOCK")]

def contains (s f : AllocFlags) : Bool :=
  s.bits &&& f.bits == f.bits

/-- every named bit -/
def all : AllocFlags :=
  ⟨named.foldl (fun w f => w ||| f.1.bits) 0⟩

/-- the named bits of a set -/
def known (s : AllocFlags) : AllocFlags :=
  ⟨s.bits &&& all.bits⟩

/-- the bits of a set that have no name -/
def unknown (s : AllocFlags) : UInt32 :=
  s.bits &&& ~~~all.bits

/-- names of the bits, joined by bars, unnamed bits last in hexadecimal; `0x0` for none -/
def text (s : AllocFlags) : String :=
  let names := (named.filter fun f => s.contains f.1).map Prod.snd
  let rest := if s.unknown = 0 then [] else [Hex.short s.unknown]
  let parts := names ++ rest
  "AllocFlags(" ++ (if parts.isEmpty then "0x0" else " | ".intercalate parts) ++ ")"

end AllocFlags
end MailboxCursor
