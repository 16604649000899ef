/-
Texts without the white space at their ends.

`Stripped` says where a text is cut, with no word of how: white space is taken off both ends, and what is left neither starts
nor ends with any. Each text has exactly one such middle, the one that `Blank.trim` gives (`stripped_iff`). White space is the
code points of the Unicode property White_Space, listed one by one in `whiteSpace`.
-/
import Mathlib.Data.List.DropRight
import Mathlib.Tactic
import MailboxCursor.Settings

namespace MailboxCursor.Blank

/-- the code points with the property White_Space -/
def whiteSpace : List Nat :=
  [0x09, 0x0a, 0x0b, 0x0c, 0x0d, 0x20, 0x85, 0xa0, 0x1680, 0x2000, 0x2001, 0x2002, 0x2003, 0x2004, 0x2005, 0x2006, 0x2007,
    0x2008, 0x2009, 0x200a, 0x2028, 0x2029, 0x202f, 0x205f, 0x3000]

def White (c : Char) : Prop :=
  c.toNat ∈ whiteSpace

/-- `s` is `text` without the white space at its ends -/
structure Stripped (text s : List Char) : Prop where
  ends : ∃ before after, text = before ++ s ++ after ∧ (∀ c ∈ before, White c) ∧ ∀ c ∈ after, White c
  first : ∀ c ∈ s.head?, ¬White c
  last : ∀ c ∈ s.getLast?, ¬White c

theorem isBlank_iff {c : Char} : isBlank c = true ↔ White c := by
  simp only [isBlank, ranges, White, whiteSpace, List.any_cons, List.any_nil, List.mem_cons, List.not_mem_nil,
    Bool.or_eq_true, Bool.and_eq_true, decide_eq_true_eq, Bool.false_eq_true, or_false]
  omega

/-! ## Cutting at both ends -/

variable {text s before after : List Char}

/-- What stands before the first character that is not blank goes. -/
theorem dropWhile_eq (hbefore : ∀ c ∈ before, White c) (hfirst : ∀ c ∈ s.head?, ¬White c) (hs : s ≠ []) (rest : List Char) :
    (before ++ (s ++ rest)).dropWhile isBlank = s ++ rest := by
  rw [List.dropWhile_append_of_pos fun c hc => isBlank_iff.2 (hbefore c hc)]
  cases s with
  | nil => exact absurd rfl hs
  | cons c s =>
    rw [List.cons_append, List.dropWhile_cons_of_neg]
    rw [isBlank_iff]
    exact hfirst c rfl

/-- A text that is cut as `Stripped` says is cut as `trim` does it. -/
theorem Stripped.eq_trim (h : Stripped text s) : s = trim text := by
  obtain ⟨before, after, rfl, hbefore, hafter⟩ := h.ends
  by_cases hs : s = []
  · -- nothing but white space
    subst hs
    have hall : ∀ c ∈ before ++ [] ++ after, isBlank c = true := by
      intro c hc
      rw [List.append_nil, List.mem_append] at hc
      exact isBlank_iff.2 (hc.elim (hbefore c) (hafter c))
    rw [trim, List.dropWhile_eq_nil_iff.2 hall]
    rfl
  · have hfirst : ((before ++ s ++ after).dropWhile isBlank) = s ++ after := by
      rw [List.append_assoc]
      exact dropWhile_eq hbefore h.first hs after
    have hlast : (after.reverse ++ (s.reverse ++ [])).dropWhile isBlank = s.reverse ++ [] := by
      refine dropWhile_eq ?_ ?_ ?_ []
      · exact fun c hc => hafter c (List.mem_reverse.1 hc)
      · rw [List.head?_reverse]
        exact h.last
      · rwa [ne_eq, List.reverse_eq_nil_iff]
    rw [List.append_nil] at hlast
    rw [trim, hfirst, List.reverse_append, hlast, List.reverse_reverse]

theorem stripped_trim (text : List Char) : Stripped text (trim text) := by
  let rest := text.dropWhile isBlank
  have htrim : trim text = rest.rdropWhile isBlank := rfl
  rw [htrim]
  constructor
  case ends =>
    refine ⟨text.takeWhile isBlank, rest.rtakeWhile isBlank, ?_, ?_, ?_⟩
    · rw [List.append_assoc, List.rdropWhile_append_rtakeWhile, List.takeWhile_append_dropWhile]
    · exact fun c hc => isBlank_iff.1 (List.mem_takeWhile_imp hc)
    · exact fun c hc => isBlank_iff.1 (List.mem_rtakeWhile_imp hc)
  case first =>
    intro c hc
    have hne : rest.rdropWhile isBlank ≠ [] := by
      intro hnil
      rw [hnil] at hc
      cases hc
    obtain rfl := Option.some.inj ((List.head?_eq_some_head hne).symm.trans hc)
    have hrest : rest ≠ [] := fun hnil => hne (by rw [hnil, List.rdropWhile_nil])
    have hclear : isBlank (rest.head hrest) = false := List.head_dropWhile_not isBlank hrest
    rw [← isBlank_iff, (List.rdropWhile_prefix isBlank rest).head hne, hclear]
    exact Bool.false_ne_true
  case last =>
    intro c hc
    obtain ⟨hne, rfl⟩ := List.mem_getLast?_eq_getLast hc
    rw [← isBlank_iff]
    exact List.rdropWhile_last_not isBlank rest hne

theorem stripped_iff : Stripped text s ↔ s = trim text := by
  constructor
  · exact Stripped.eq_trim
  · rintro rfl
    exact stripped_trim text

end MailboxCursor.Blank
