/-
White space at the ends of a setting's text. `isBlank` is the Unicode property White_Space; `trim` takes blanks off both
ends and leaves those inside alone.
-/

namespace MailboxCursor.Blank

/-- closed ranges of code points with the property White_Space -/
def ranges : List (Nat × Nat) :=
  [(0x09, 0x0d), (0x20, 0x20), (0x85, 0x85), (0xa0, 0xa0), (0x1680, 0x1680), (0x2000, 0x200a),
    (0x2028, 0x2029), (0x202f, 0x202f), (0x205f, 0x205f), (0x3000, 0x3000)]

def isBlank (c : Char) : Bool :=
  ranges.any fun r => r.1 ≤ c.toNat && c.toNat ≤ r.2

/-- the text without blanks at its ends -/
def trim (s : List Char) : List Char :=
  ((s.dropWhile isBlank).reverse.dropWhile isBlank).reverse

end MailboxCursor.Blank
