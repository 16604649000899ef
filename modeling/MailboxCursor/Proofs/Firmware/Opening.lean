/-
Which windows are opened.

`Legal` says which windows a firmware ought to open: those that lie inside a locked block. It opens all of these but one kind
(`Shadowed`). The block of a window is the first one that holds it, and only then is it seen whether this block is locked. Two
blocks hold a window only if it is empty and lies on the border of both; so it is refused there if the first of the two is not
locked, whatever the second is.

A window that is refused changes nothing. It is reported as refused, unless its end leaves the range of a machine word
(`Overflows`): that is not looked at before the end is compared with a block's.

`run_opens` has it all, for every window in every state that a firmware can come to.
-/
import MailboxCursor.Proofs.Firmware.Handles

namespace MailboxCursor

/-- The block that is found in the table is the one with the lowest handle. -/
theorem Blocks.handle_le_of_find? {bs : List Block} (hordered : bs.Pairwise fun a b => a.handle < b.handle)
    {p : Block → Bool} {b c : Block} (hfind : bs.find? p = some b) (hc : c ∈ bs) (hp : p c = true) :
    b.handle ≤ c.handle := by
  obtain ⟨-, before, behind, rfl, hbefore⟩ := List.find?_eq_some_iff_append.1 hfind
  rcases List.mem_append.1 hc with hc | hc
  · have hnot := hbefore c hc
    rw [hp] at hnot
    cases hnot
  rcases List.mem_cons.1 hc with rfl | hc
  · exact UInt32.le_refl c.handle
  · obtain ⟨-, hrest, -⟩ := List.pairwise_append.1 hordered
    exact UInt32.le_of_lt ((List.pairwise_cons.1 hrest).1 c hc)

/-- the block ends where the other one starts, or starts where it ends -/
def Block.MeetsAt (a b : Block) (place : Nat) : Prop :=
  a.stop = place ∧ b.start = place ∨ b.stop = place ∧ a.start = place

namespace BusSpace

variable {bs : List Block} {next : UInt32} {a b c : Block} {bus len : Nat}

/-- Two blocks that hold the same window meet there, and the window is empty. -/
theorem meetsAt_of_holds (h : BusSpace bs next) (ha : a ∈ bs) (hb : b ∈ bs) (hne : a ≠ b) (hina : a.holds bus len = true)
    (hinb : b.holds bus len = true) : len = 0 ∧ a.MeetsAt b bus := by
  obtain ⟨hstart, hstop⟩ := Block.holds_iff.1 hina
  obtain ⟨hstart', hstop'⟩ := Block.holds_iff.1 hinb
  rw [Block.MeetsAt]
  rcases h.table.apart_of_ne ha hb hne with hapart | hapart
  · omega
  · omega

/-- No third block is there where two blocks meet. -/
theorem eq_or_eq_of_meetsAt (h : BusSpace bs next) (ha : a ∈ bs) (hb : b ∈ bs) (hc : c ∈ bs) (hmeets : a.MeetsAt b bus)
    (hin : c.holds bus 0 = true) : c = a ∨ c = b := by
  by_contra hother
  obtain ⟨hca, hcb⟩ := not_or.1 hother
  obtain ⟨hstart, hstop⟩ := Block.holds_iff.1 hin
  have hfilled := (h.laid a ha).size
  have hfilled' := (h.laid b hb).size
  have hfilled'' := (h.laid c hc).size
  have hapart := h.table.apart_of_ne hc ha hca
  have hapart' := h.table.apart_of_ne hc hb hcb
  simp only [Block.MeetsAt, Block.stop] at hmeets hstop hapart hapart'
  omega

end BusSpace

namespace Firmware

variable {fw : Firmware} {bus : BusAddress} {len : UInt64} {b : Block}

/-- a window that ought to be opened: nothing makes it fail, and all of it lies inside a block that is locked -/
structure Legal (fw : Firmware) (bus : BusAddress) (len : UInt64) : Prop where
  allowed : fw.faults.failMaps = false
  inside : ∃ b ∈ fw.blocks, b.isLocked = true ∧ b.start ≤ bus.val.toNat ∧ bus.val.toNat + len.toNat ≤ b.stop

/-- an empty window where two blocks meet, of which the one with the lower handle is not locked -/
def Shadowed (fw : Firmware) (bus : BusAddress) (len : UInt64) : Prop :=
  len.toNat = 0 ∧ ∃ a ∈ fw.blocks, ∃ b ∈ fw.blocks, a.MeetsAt b bus.val.toNat ∧ a.handle < b.handle ∧ a.isLocked = false

/-- the end of the window leaves the range of a machine word, and there is a block to compare it with -/
structure Overflows (fw : Firmware) (bus : BusAddress) (len : UInt64) : Prop where
  allowed : fw.faults.failMaps = false
  beyond : 2 ^ 64 ≤ bus.val.toNat + len.toNat
  compared : ∃ b ∈ fw.blocks, b.start ≤ bus.val.toNat

/-- what becomes of the request for a window -/
structure Opens (fw : Firmware) (bus : BusAddress) (len : UInt64) (r : Access Firmware Window) : Prop where
  granted : (∃ w, r.result = .ok w) ↔ fw.Legal bus len ∧ ¬fw.Shadowed bus len
  /-- the window is onto a locked block, which has one mapping more; nothing else has changed -/
  opened : ∀ w, r.result = .ok w → ∃ b ∈ fw.blocks, b.isLocked = true ∧ w.owner = fw.id ∧ w.On b ∧ w.bus = bus ∧
    w.len = len ∧
    r.device =
      { fw with blocks := fw.blocks.map fun c => if c = b then { b with mappings := b.mappings + 1 } else c }
  refused : ∀ e, r.result = .error e → r.device = fw ∧ (¬fw.Overflows bus len → ∃ cause, e = .mapFailed bus len cause)
  overflow : r.result = .error .countOutOfRange ↔ fw.Overflows bus len

/-! ## The first block that holds a window -/

theorem exhaustsAddresses_iff :
    fw.exhaustsAddresses bus len = true ↔
      2 ^ 64 ≤ bus.val.toNat + len.toNat ∧ ∃ b ∈ fw.blocks, b.start ≤ bus.val.toNat := by
  simp [exhaustsAddresses, UInt64.size]

/-- A window inside a block ends inside the bus window, far from the end of the range. -/
theorem not_exhaustsAddresses_of_holds (h : BusSpace fw.blocks fw.nextHandle) (hb : b ∈ fw.blocks)
    (hin : b.holds bus.val.toNat len.toNat = true) : fw.exhaustsAddresses bus len = false := by
  obtain ⟨-, hstop⟩ := Block.holds_iff.1 hin
  have hend := h.table.within b hb
  rw [Bool.eq_false_iff, ne_eq, exhaustsAddresses_iff]
  rintro ⟨hbeyond, -⟩
  simp only [busEnd] at hend
  omega

/-- **The first block that holds a legal window is locked**, unless the window is shadowed. -/
theorem isLocked_find?_iff (h : BusSpace fw.blocks fw.nextHandle) (hallowed : fw.faults.failMaps = false) (hb : b ∈ fw.blocks)
    (hfind : fw.blocks.find? (fun b => b.holds bus.val.toNat len.toNat) = some b) :
    b.isLocked = true ↔ fw.Legal bus len ∧ ¬fw.Shadowed bus len := by
  have hin := List.find?_some hfind
  constructor
  · intro hlocked
    refine ⟨⟨hallowed, b, hb, hlocked, Block.holds_iff.1 hin⟩, ?_⟩
    rintro ⟨hempty, a, ha, c, hc, hmeets, hlower, hunlocked⟩
    rw [hempty] at hin
    rcases h.eq_or_eq_of_meetsAt ha hc hb hmeets hin with rfl | rfl
    · rw [hlocked] at hunlocked
      cases hunlocked
    · have hina : a.holds bus.val.toNat len.toNat = true := by
        rw [Block.holds_iff, hempty]
        simp only [Block.MeetsAt, Block.stop] at hmeets ⊢
        omega
      exact absurd hlower (UInt32.not_lt.2 (Blocks.handle_le_of_find? h.ordered hfind ha hina))
  · rintro ⟨⟨-, c, hc, hlocked, hinc⟩, hclear⟩
    have hinc : c.holds bus.val.toNat len.toNat = true := Block.holds_iff.2 hinc
    by_contra hunlocked
    have hne : b ≠ c := by
      rintro rfl
      exact hunlocked hlocked
    obtain ⟨hempty, hmeets⟩ := h.meetsAt_of_holds hb hc hne hin hinc
    have hle : b.handle ≤ c.handle := Blocks.handle_le_of_find? h.ordered hfind hc hinc
    have hlower : b.handle < c.handle :=
      UInt32.lt_of_le_of_ne hle fun heq => hne (h.table.eq_of_handle hb hc heq)
    exact hclear ⟨hempty, b, hb, c, hc, hmeets, hlower, by simpa using hunlocked⟩

/-! ## Requests for windows -/

/-- A window that is neither legal nor too far out is refused as it should be, for whatever reason. -/
theorem refuseMap_opens (hnot : ¬(fw.Legal bus len ∧ ¬fw.Shadowed bus len)) (hover : ¬fw.Overflows bus len)
    (reason : String) : Opens fw bus len (fw.refuseMap bus len reason) where
  granted := iff_of_false (by rintro ⟨w, ⟨⟩⟩) hnot
  opened := by rintro w ⟨⟩
  refused := by
    rintro e ⟨⟩
    exact ⟨rfl, fun _ => ⟨_, rfl⟩⟩
  overflow := iff_of_false (by rintro ⟨⟩) hover

theorem openWindow_opens (h : BusSpace fw.blocks fw.nextHandle) (bus : BusAddress) (len : UInt64) :
    Opens fw bus len (fw.openWindow bus len) := by
  rw [openWindow]
  by_cases hfails : fw.faults.failMaps = true
  · have hnever : fw.faults.failMaps ≠ false := by
      rw [hfails]
      decide
    rw [if_pos hfails]
    exact refuseMap_opens (fun hlegal => hnever hlegal.1.allowed) (fun hover => hnever hover.allowed) _
  have hallowed : fw.faults.failMaps = false := by simpa using hfails
  rw [if_neg hfails]
  by_cases hexhausts : fw.exhaustsAddresses bus len = true
  · obtain ⟨hbeyond, hcompared⟩ := exhaustsAddresses_iff.1 hexhausts
    have hover : fw.Overflows bus len := ⟨hallowed, hbeyond, hcompared⟩
    rw [if_pos hexhausts]
    refine ⟨iff_of_false (by rintro ⟨w, ⟨⟩⟩) ?_, by rintro w ⟨⟩, ?_, iff_of_true rfl hover⟩
    · rintro ⟨⟨-, b, hb, -, hin⟩, -⟩
      rw [not_exhaustsAddresses_of_holds h hb (Block.holds_iff.2 hin)] at hexhausts
      cases hexhausts
    · rintro e ⟨⟩
      exact ⟨rfl, fun hnot => absurd hover hnot⟩
  have hover : ¬fw.Overflows bus len := fun hover => hexhausts (exhaustsAddresses_iff.2 ⟨hover.beyond, hover.compared⟩)
  rw [if_neg hexhausts]
  cases hfind : fw.blocks.find? fun b => b.holds bus.val.toNat len.toNat with
  | none =>
    refine refuseMap_opens ?_ hover _
    rintro ⟨⟨-, b, hb, -, hin⟩, -⟩
    exact absurd (Block.holds_iff.2 hin) (by simpa using List.find?_eq_none.1 hfind b hb)
  | some b =>
    have hb : b ∈ fw.blocks := List.mem_of_find?_eq_some hfind
    have hlegal := isLocked_find?_iff h hallowed hb hfind
    dsimp only
    by_cases hlocked : b.isLocked = true
    · have hholds := List.find?_some hfind
      rw [if_pos hlocked]
      refine ⟨iff_of_true ⟨_, rfl⟩ (hlegal.1 hlocked), ?_, by rintro e ⟨⟩, iff_of_false (by rintro ⟨⟩) hover⟩
      rintro w ⟨⟩
      exact ⟨b, hb, hlocked, rfl, Window.on_of_holds hholds fw.id, rfl, rfl, by rw [h.table.modify_eq_map hb]⟩
    · rw [if_neg hlocked]
      exact refuseMap_opens (mt hlegal.2 hlocked) hover _

/-- **Windows are opened onto locked blocks, and onto all of them but where two blocks meet.** In whatever state a firmware is,
and for every window: it is opened if and only if it is legal and not shadowed, and then all of it lies inside a locked block,
which has one mapping more. Otherwise nothing changes; the window is reported as refused, unless its end overflows. -/
theorem run_opens (id : Nat) (steps : List Step) (bus : BusAddress) (len : UInt64) :
    Opens ((fresh id).run steps) bus len (((fresh id).run steps).openWindow bus len) :=
  openWindow_opens (run_keeps_busSpace (busSpace_fresh id) steps) bus len

/-- Of two blocks that meet, the second is locked. The empty window at its start is legal and yet refused; and a window that
ends behind the last word of the range, which is not legal, is not refused but overflows. -/
theorem legal_window_refused :
    let fw := (fresh 0).run (asking [(.allocateMemory, [4096, 4096, 12]), (.allocateMemory, [4096, 4096, 12]),
      (.lockMemory, [2])])
    fw.Legal ⟨0xde001000⟩ 0 ∧
      (fw.openWindow ⟨0xde001000⟩ 0).result =
        .error (.mapFailed ⟨0xde001000⟩ 0 (.other "allocation is not locked")) ∧
      ¬fw.Legal ⟨0xde001000⟩ 0xffffffffffffffff ∧
      (fw.openWindow ⟨0xde001000⟩ 0xffffffffffffffff).result = .error .countOutOfRange := by
  intro fw
  have hsecond : ∃ b ∈ fw.blocks, b.isLocked = true ∧ b.start ≤ 0xde001000 ∧ 0xde001000 + 0 ≤ b.stop := by decide +kernel
  have houtside : ∀ b ∈ fw.blocks, b.stop < 2 ^ 64 - 1 := by decide +kernel
  refine ⟨⟨by decide +kernel, hsecond⟩, by decide +kernel, ?_, by decide +kernel⟩
  rintro ⟨-, b, hb, -, -, hstop⟩
  have hlt := houtside b hb
  have hlen : (0xffffffffffffffff : UInt64).toNat = 2 ^ 64 - 1 := rfl
  omega

end Firmware
end MailboxCursor
