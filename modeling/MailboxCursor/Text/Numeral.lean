/-
Numerals in settings: decimal, or hexadecimal behind `0x` or `0X`, with at most one `+` before the digits. A value of
2^32 or more is no numeral, however it is written. `word?` is the reader of a whole setting, blanks at its ends taken
off first.
-/
import MailboxCursor.Text.Blank

namespace MailboxCursor.Numeral

/-- the value of one digit, letters of either case -/
def digit? (c : Char) : Option Nat :=
  if '0' ≤ c ∧ c ≤ '9' then some (c.toNat - '0'.toNat)
  else if 'a' ≤ c ∧ c ≤ 'f' then some (c.toNat - 'a'.toNat + 10)
  else if 'A' ≤ c ∧ c ≤ 'F' then some (c.toNat - 'A'.toNat + 10)
  else none

/-- one more digit after the value `n`, unless it is too large for the base or the value leaves `limit` -/
def push? (base limit n : Nat) (c : Char) : Option Nat :=
  match digit? c with
  | some d => if d < base ∧ n * base + d < limit then some (n * base + d) else none
  | none => none

/-- one digit or more -/
def digits? (base limit : Nat) : List Char → Option Nat
  | [] => none
  | cs => cs.foldlM (push? base limit) 0

/-- digits, with at most one `+` before them -/
def unsigned? (base limit : Nat) : List Char → Option Nat
  | '+' :: cs => digits? base limit cs
  | cs => digits? base limit cs

/-- a setting's 32-bit numeral -/
def word? (s : List Char) : Option UInt32 :=
  (match Blank.trim s with
    | '0' :: 'x' :: cs => unsigned? 16 UInt32.size cs
    | '0' :: 'X' :: cs => unsigned? 16 UInt32.size cs
    | cs => unsigned? 10 UInt32.size cs).map UInt32.ofNat

end MailboxCursor.Numeral
