/-
Where a new block goes: to the lowest address at which there is room for it, if there is room at all.

`IsPlace` says what room is: an aligned address inside the bus window at which the whole granules of the block meet those of no
live block. `Grantable` says when a request for memory is to be granted. The search is measured against these two:
`place?_isLeast` for the address that it finds, `place?_isSome_iff` for whether it finds one. `run_placed` is what follows for
the answer to a request for memory, in any state that a firmware can come to.
-/
import Mathlib.Tactic
import Mathlib.Order.CompletePartialOrder
import MailboxCursor.Proofs.Firmware.Fate
import MailboxCursor.Proofs.Firmware.Handles

namespace MailboxCursor

namespace Block

variable {b : Block}

/-- Some byte lies under the granules of a block. -/
theorem IsLaid.span_lt (h : b.IsLaid) : b.span.1 < b.span.2 := by
  have hsize := h.size
  calc b.span.1 < b.start + b.size.toNat := by
        simp only [span]
        omega
    _ = b.stop := rfl
    _ ≤ b.span.2 := b.stop_le_span

/-- A range that is not empty meets the granules of a block, or lies in front of them or behind them. -/
theorem IsLaid.disjoint_span_iff (h : b.IsLaid) {c len : Nat} (hlen : 0 < len) :
    Disjoint (Set.Ico c (c + len)) (Set.Ico b.span.1 b.span.2) ↔ c + len ≤ b.span.1 ∨ b.span.2 ≤ c := by
  have hspan := h.span_lt
  rw [Set.Ico_disjoint_Ico]
  omega

end Block

namespace Firmware

/-! ## Room -/

/-- at the address `c` there is room for a block of `size` bytes: it is aligned, to whole granules at least, and the granules
of the block are free there -/
structure IsPlace (fw : Firmware) (size alignment : UInt32) (c : Nat) : Prop where
  aligned : max (max alignment.toNat 1) busGranule ∣ c
  base : busBase ≤ c
  stop : c + alignUp size.toNat busGranule ≤ busEnd
  apart : ∀ b ∈ fw.blocks,
    Disjoint (Set.Ico c (c + alignUp size.toNat busGranule)) (Set.Ico b.span.1 b.span.2)

/-- when a request for memory is to be granted; no alignment is an alignment of one -/
structure Grantable (fw : Firmware) (size alignment : UInt32) : Prop where
  allowed : fw.faults.refuseAllocations = false
  filled : 0 < size.toNat
  power : ∃ k, max alignment.toNat 1 = 2 ^ k
  room : ∃ c, fw.IsPlace size alignment c

variable {fw : Firmware} {size alignment bus : UInt32}

theorem alignUp_pos {size : Nat} (h : 0 < size) : 0 < alignUp size busGranule :=
  lt_of_lt_of_le h (le_alignUp size (by decide))

/-- Room is room beside the spans of the live blocks. -/
theorem isPlace_iff (h : BusSpace fw.blocks fw.nextHandle) (hsize : 0 < size.toNat) {c : Nat} :
    fw.IsPlace size alignment c ↔
      max (max alignment 1).toNat busGranule ∣ c ∧ busBase ≤ c ∧ c + alignUp size.toNat busGranule ≤ busEnd ∧
        ∀ s ∈ fw.blocks.map Block.span, c + alignUp size.toNat busGranule ≤ s.1 ∨ s.2 ≤ c := by
  have hlen := alignUp_pos hsize
  rw [UInt32.toNat_max, UInt32.toNat_one, List.forall_mem_map]
  constructor
  · rintro ⟨haligned, hbase, hstop, hapart⟩
    exact ⟨haligned, hbase, hstop, fun b hb => ((h.laid b hb).disjoint_span_iff hlen).1 (hapart b hb)⟩
  · rintro ⟨haligned, hbase, hstop, hapart⟩
    exact ⟨haligned, hbase, hstop, fun b hb => ((h.laid b hb).disjoint_span_iff hlen).2 (hapart b hb)⟩

/-- **The first place is the lowest.** -/
theorem place?_isLeast (h : BusSpace fw.blocks fw.nextHandle) (hplace : fw.place? size (max alignment 1) = some bus) :
    IsLeast {c | fw.IsPlace size alignment c} bus.toNat := by
  obtain ⟨-, hsize, -, hfit⟩ := place?_eq_some_iff.1 hplace
  have halign : 0 < max (max alignment 1).toNat busGranule := lt_of_lt_of_le (by decide) (le_max_right _ _)
  refine ⟨(isPlace_iff h hsize).2 (FirstFit.firstFit_room halign hfit), fun c hc => ?_⟩
  obtain ⟨haligned, hbase, hstop, hapart⟩ := (isPlace_iff h hsize).1 hc
  obtain ⟨found, hle, hfound⟩ := FirstFit.firstFit_le haligned hbase hstop hapart
  rw [Option.some.inj (hfit.symm.trans hfound)]
  exact hle

/-- **Where there is room, a place is found**, and only there. -/
theorem place?_isSome_iff (h : BusSpace fw.blocks fw.nextHandle) :
    (fw.place? size (max alignment 1)).isSome = true ↔ fw.Grantable size alignment := by
  constructor
  · intro hsome
    obtain ⟨bus, hplace⟩ := Option.isSome_iff_exists.1 hsome
    obtain ⟨hallowed, hsize, hpower, -⟩ := place?_eq_some_iff.1 hplace
    rw [isPowerOfTwo_iff, UInt32.toNat_max, UInt32.toNat_one] at hpower
    exact ⟨hallowed, hsize, hpower, bus.toNat, (place?_isLeast h hplace).1⟩
  · rintro ⟨hallowed, hsize, hpower, c, hc⟩
    obtain ⟨haligned, hbase, hstop, hapart⟩ := (isPlace_iff h hsize).1 hc
    obtain ⟨found, hle, hfound⟩ := FirstFit.firstFit_le haligned hbase hstop hapart
    have hlen := alignUp_pos hsize
    have hword : (UInt32.ofNat found).toNat = found := by
      rw [UInt32.toNat_ofNat']
      refine Nat.mod_eq_of_lt ?_
      simp only [busEnd] at hstop
      omega
    have hplace : fw.place? size (max alignment 1) = some (UInt32.ofNat found) := by
      have hpower' : isPowerOfTwo (max alignment 1) = true := by
        rw [isPowerOfTwo_iff, UInt32.toNat_max, UInt32.toNat_one]
        exact hpower
      rw [place?_eq_some_iff, hword]
      exact ⟨hallowed, hsize, hpower', hfound⟩
    rw [hplace]
    rfl

/-! ## Requests for memory -/

/-- what a request for memory that is answered with `answer` makes of the firmware -/
structure Placed (fw : Firmware) (size alignment answer : UInt32) (d : Firmware) : Prop where
  granted : answer ≠ 0 ↔ fw.Grantable size alignment
  /-- the block that is added under the handle that was answered is at the lowest place -/
  lowest : answer ≠ 0 → ∃ b, d.blocks = Blocks.insert b fw.blocks ∧ b.handle = answer ∧ b.size = size ∧
    IsLeast {c | fw.IsPlace size alignment c} b.bus.toNat
  /-- a request that is refused is logged, and nothing else -/
  refused : answer = 0 → fw.Untouched d

theorem allocate_placed (h : BusSpace fw.blocks fw.nextHandle) (size alignment : UInt32) (flags : AllocFlags)
    (m : Message) :
    Placed fw size alignment (fw.allocate size alignment flags).2 ((fw.allocate size alignment flags).1.logRequest m) := by
  have hgranted : (fw.place? size (max alignment 1)).isSome ↔ fw.Grantable size alignment := place?_isSome_iff h
  rw [allocate]
  cases hplace : fw.place? size (max alignment 1) with
  | none =>
    rw [hplace] at hgranted
    refine ⟨?_, fun hzero => absurd rfl hzero, fun _ => fw.untouched_logRequest m⟩
    rw [← hgranted]
    simp
  | some bus =>
    rw [hplace] at hgranted
    exact ⟨iff_of_true h.next (hgranted.1 rfl),
      fun _ => ⟨fw.newBlock bus size flags, rfl, rfl, rfl, place?_isLeast h hplace⟩,
      fun hzero => absurd hzero h.next⟩

/-- **A new block goes to the lowest place.** In whatever state a firmware is, a request for memory that comes through is
answered: with a handle if the firmware does not refuse all such requests, the size is not zero, the alignment is a power of
two and there is room for the block; and then the block is at the lowest address at which there is room. Otherwise the answer
is zero, and nothing has changed but the log. -/
theorem run_placed (id : Nat) (steps : List Step) {m : Message} {size alignment flags : UInt32} {rest : List UInt32}
    (htag : m.tag = Tag.allocateMemory.id) (hfault : ((fresh id).run steps).isFaulty m.tag = false)
    (hwhole : m.sizeBytes.toNat = m.len * 4) (hrequest : m.requestPayload = size :: alignment :: flags :: rest) :
    ∃ answer, (((fresh id).run steps).exchange m).word m = .ok answer ∧
      Placed ((fresh id).run steps) size alignment answer (((fresh id).run steps).exchange m).device := by
  have hspace := run_keeps_busSpace (busSpace_fresh id) steps
  generalize (fresh id).run steps = fw at hfault hspace ⊢
  have hlong : Tag.allocateMemory.requestWords ≤ m.requestPayload.length := by
    rw [hrequest]
    simp [Tag.requestWords]
  have haccepts : fw.accepts? m = some (.allocateMemory, m.requestPayload) :=
    accepts?_eq_some_iff.2
      ⟨hfault, hwhole, by rw [htag, Tag.ofWord?_id], rfl, hlong, exhaustsLocks_of_ne (by decide)⟩
  have hroom : Tag.allocateMemory.responseWords ≤ m.valueWords :=
    (show 1 ≤ 3 by decide).trans (hlong.trans m.length_requestPayload_le)
  have hact : fw.act .allocateMemory m.requestPayload =
      ((fw.allocate size alignment ⟨flags⟩).1, [(fw.allocate size alignment ⟨flags⟩).2]) := by
    rw [hrequest]
    rfl
  refine ⟨_, word_of_accepts haccepts hroom, ?_⟩
  rw [exchange_of_accepts haccepts, hact]
  exact allocate_placed hspace size alignment ⟨flags⟩ m

/-- The hole in front of the live block is too small, so the block goes behind it, to the next aligned address. -/
theorem run_placed_behind :
    let fw := (fresh 0).run (asking [(.allocateMemory, [4096, 4096, 0]), (.allocateMemory, [4096, 4096, 0]),
      (.releaseMemory, [1])])
    ∃ m b, Message.request .allocateMemory [5000, 16384, 0] = .ok m ∧ m.tag = Tag.allocateMemory.id ∧
      fw.isFaulty m.tag = false ∧ m.sizeBytes.toNat = m.len * 4 ∧ m.requestPayload = [5000, 16384, 0] ∧
      (fw.exchange m).word m = .ok 3 ∧ (fw.exchange m).device.blocks = Blocks.insert b fw.blocks ∧ b.bus = 0xde004000 ∧
      IsLeast {c | fw.IsPlace 5000 16384 c} b.bus.toNat := by
  intro fw
  let m : Message := ⟨Vector.ofFn fun i => (Message.image Tag.allocateMemory.id [5000, 16384, 0] 3).getD i 0, 9, by decide⟩
  have hm : Message.request .allocateMemory [5000, 16384, 0] = .ok m := rfl
  have htag : m.tag = Tag.allocateMemory.id := Message.tag_of_compose hm
  have hfault : fw.isFaulty m.tag = false := by decide +kernel
  have hwhole : m.sizeBytes.toNat = m.len * 4 := Message.sizeBytes_of_compose hm
  have hrequest : m.requestPayload = [5000, 16384, 0] := Message.requestPayload_of_compose hm
  have hthree : (fw.exchange m).word m = .ok 3 := by decide +kernel
  obtain ⟨answer, hanswer, hplaced⟩ : ∃ answer, (fw.exchange m).word m = .ok answer ∧
      Placed fw 5000 16384 answer (fw.exchange m).device := run_placed 0 _ htag hfault hwhole hrequest
  obtain rfl : answer = 3 := Except.ok.inj (hanswer.symm.trans hthree)
  obtain ⟨b, hblocks, hhandle, -, hleast⟩ := hplaced.lowest (by decide)
  have hfind : Blocks.find? (fw.exchange m).device.blocks 3 = some b := by
    rw [hblocks, Blocks.find?_insert, if_pos hhandle]
  have hbus : (Blocks.find? (fw.exchange m).device.blocks 3).map Block.bus = some 0xde004000 := by decide +kernel
  rw [hfind, Option.map_some, Option.some.injEq] at hbus
  exact ⟨m, b, hm, htag, hfault, hwhole, hrequest, hthree, hblocks, hbus, hleast⟩

end Firmware
end MailboxCursor
