/-
Where an allocation goes: `firstFit_room` says that the place is aligned, that the allocation is inside the bus window there,
and that it meets none of the spans, in whole granules. `firstFit_le` is the other direction: where there is such a place, one is
found, and none that lies behind it.

`search` walks the spans in order of their starts. It stops in front of a span only if there is room, and then there is room
in front of every later one too; whatever it has walked past lies behind it. What it walks past is no room for anybody: a
place that is behind the candidate and not in front of the span is behind the span.
-/
import Mathlib.Tactic
import MailboxCursor.Firmware.FirstFit

namespace MailboxCursor.FirstFit

variable {spans : List (Nat × Nat)} {align : Nat}

theorem le_search (spans : List (Nat × Nat)) (len align candidate : Nat) :
    candidate ≤ search len align spans candidate := by
  induction spans generalizing candidate with
  | nil => exact le_refl candidate
  | cons s rest ih =>
    rw [search]
    split_ifs
    · exact le_refl candidate
    · exact (le_max_left candidate _).trans (ih _)

/-- A search goes from one aligned place to the next. -/
theorem dvd_search (len : Nat) (spans : List (Nat × Nat)) {candidate : Nat} (h : align ∣ candidate) :
    align ∣ search len align spans candidate := by
  induction spans generalizing candidate with
  | nil => exact h
  | cons s rest ih =>
    rw [search]
    split_ifs
    · exact h
    · apply ih
      rcases max_choice candidate (alignUp s.2 align) with hmax | hmax
      · rw [hmax]
        exact h
      · rw [hmax]
        exact dvd_alignUp s.2 align

/-- The place that a search comes to meets no span. -/
theorem search_apart (len : Nat) (halign : 0 < align) (hsorted : spans.Pairwise fun s t => s.1 ≤ t.1) (candidate : Nat) :
    ∀ s ∈ spans, search len align spans candidate + len ≤ s.1 ∨ s.2 ≤ search len align spans candidate := by
  induction spans generalizing candidate with
  | nil =>
    intro s hs
    cases hs
  | cons s rest ih =>
    obtain ⟨hfirst, hrest⟩ := List.pairwise_cons.1 hsorted
    intro t ht
    rw [search]
    by_cases hroom : candidate + len ≤ s.1
    · -- there is room in front of the first span, and so in front of all
      rw [if_pos hroom]
      left
      rcases List.mem_cons.1 ht with rfl | ht
      · exact hroom
      · exact hroom.trans (hfirst t ht)
    · rw [if_neg hroom]
      rcases List.mem_cons.1 ht with rfl | ht
      · right
        calc t.2 ≤ alignUp t.2 align := le_alignUp t.2 halign
          _ ≤ max candidate (alignUp t.2 align) := le_max_right _ _
          _ ≤ search len align rest (max candidate (alignUp t.2 align)) := le_search _ _ _ _
      · exact ih hrest _ t ht

/-- No aligned place beside the spans is walked past. -/
theorem search_le (len : Nat) {place : Nat} (haligned : align ∣ place)
    (hapart : ∀ s ∈ spans, place + len ≤ s.1 ∨ s.2 ≤ place) {candidate : Nat} (hle : candidate ≤ place) :
    search len align spans candidate ≤ place := by
  induction spans generalizing candidate with
  | nil => exact hle
  | cons s rest ih =>
    obtain ⟨hfirst, hrest⟩ := List.forall_mem_cons.1 hapart
    rw [search]
    split_ifs with hroom
    · exact hle
    · have hbehind : s.2 ≤ place := by omega
      exact ih hrest (max_le hle (alignUp_le hbehind haligned))

theorem pairwise_sorted (spans : List (Nat × Nat)) : (sorted spans).Pairwise fun s t => s.1 ≤ t.1 := by
  have hordered : (sorted spans).Pairwise fun s t => (decide (s.1 < t.1) || (s.1 == t.1 && decide (s.2 ≤ t.2))) = true := by
    refine List.pairwise_mergeSort ?_ ?_ spans
    · intro a b c hab hbc
      simp only [Bool.or_eq_true, Bool.and_eq_true, decide_eq_true_eq, beq_iff_eq] at hab hbc ⊢
      omega
    · intro a b
      simp only [Bool.or_eq_true, Bool.and_eq_true, decide_eq_true_eq, beq_iff_eq]
      omega
  refine hordered.imp fun {s t} h => ?_
  simp only [Bool.or_eq_true, Bool.and_eq_true, decide_eq_true_eq, beq_iff_eq] at h
  omega

theorem mem_sorted {s : Nat × Nat} : s ∈ sorted spans ↔ s ∈ spans :=
  List.mem_mergeSort

/-- A place that is found is aligned, and has room for the whole granules of an allocation. -/
theorem firstFit_room {size place : Nat} (halign : 0 < align) (h : firstFit spans size align = some place) :
    align ∣ place ∧ busBase ≤ place ∧ place + alignUp size busGranule ≤ busEnd ∧
      ∀ s ∈ spans, place + alignUp size busGranule ≤ s.1 ∨ s.2 ≤ place := by
  simp only [firstFit] at h
  split_ifs at h with hend
  obtain rfl := Option.some.inj h
  refine ⟨dvd_search _ _ (dvd_alignUp busBase align), ?_, not_lt.1 hend, ?_⟩
  · calc busBase ≤ alignUp busBase align := le_alignUp busBase halign
      _ ≤ search _ align (sorted spans) (alignUp busBase align) := le_search _ _ _ _
  · intro s hs
    exact search_apart _ halign (pairwise_sorted spans) _ s (mem_sorted.2 hs)

/-- Where there is a place, one is found that is no later. -/
theorem firstFit_le {size place : Nat} (haligned : align ∣ place) (hbase : busBase ≤ place)
    (hend : place + alignUp size busGranule ≤ busEnd)
    (hapart : ∀ s ∈ spans, place + alignUp size busGranule ≤ s.1 ∨ s.2 ≤ place) :
    ∃ found ≤ place, firstFit spans size align = some found := by
  have hle : search (alignUp size busGranule) align (sorted spans) (alignUp busBase align) ≤ place :=
    search_le _ haligned (fun s hs => hapart s (mem_sorted.1 hs)) (alignUp_le hbase haligned)
  refine ⟨_, hle, ?_⟩
  rw [firstFit, if_neg (by omega)]

end MailboxCursor.FirstFit
