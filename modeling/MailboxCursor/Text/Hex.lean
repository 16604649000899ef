/-
Hexadecimal texts. Every address, handle, status and tag that a message shows goes through one of the three forms here.
-/

namespace MailboxCursor.Hex

/-- digits of `n` to base sixteen, lower case, with no leading zeros (`0` for zero) -/
def digits (n : Nat) : String :=
  String.ofList (Nat.toDigits 16 n)

/-- `digits n`, filled up on the left with zeros to at least `width` places -/
def padded (width n : Nat) : String :=
  String.ofList (List.replicate (width - (Nat.toDigits 16 n).length) '0' ++ Nat.toDigits 16 n)

/-- as short as possible, marked: `0x1f` -/
def short (w : UInt32) : String :=
  "0x" ++ digits w.toNat

/-- all eight places, marked: `0x0000001f` -/
def full (w : UInt32) : String :=
  "0x" ++ padded 8 w.toNat

end MailboxCursor.Hex
