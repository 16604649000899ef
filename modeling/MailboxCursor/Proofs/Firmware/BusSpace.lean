/-
How the live blocks lie in the bus space, however long the firmware has been running.

`BusSpace bs next` is what holds of the table of live blocks and of the next handle at any time: each block lies in whole
granules inside the bus window (`Block.IsLaid`), none over another, in the order of their handles. Unlike `Table` it does not
ask how many allocations were made: when the handles come round, a block that is still there gives way to the new one.

A table changes in three ways, and each keeps it: a block changes where it is (`modify`), goes (`erase`), or is new
(`insert`). `BusSpace.unique` is what every look-up by bus address rests on.
-/
import MailboxCursor.Proofs.Firmware.Table

namespace MailboxCursor

/-- named, not empty, and in whole granules inside the bus window -/
structure Block.IsLaid (b : Block) : Prop where
  handle : b.handle ≠ 0
  size : 1 ≤ b.size.toNat
  aligned : busGranule ∣ b.start
  base : busBase ≤ b.start
  stop : b.span.2 ≤ busEnd

/-- the granules of two blocks lie one behind the other -/
def Block.Apart (a b : Block) : Prop :=
  a.span.2 ≤ b.span.1 ∨ b.span.2 ≤ a.span.1

structure BusSpace (bs : List Block) (next : UInt32) : Prop where
  laid : ∀ b ∈ bs, b.IsLaid
  apart : bs.Pairwise Block.Apart
  ordered : bs.Pairwise fun a b => a.handle < b.handle
  next : next ≠ 0

namespace Block

variable {a a' b b' : Block}

theorem stop_le_span (b : Block) : b.stop ≤ b.span.2 :=
  le_alignUp b.stop (by decide)

theorem Apart.symm (h : a.Apart b) : b.Apart a :=
  Or.symm h

theorem Apart.congr (ha : a'.site = a.site) (hb : b'.site = b.site) (h : a.Apart b) : a'.Apart b' := by
  rw [Apart, span_of_site ha, span_of_site hb]
  exact h

theorem IsLaid.congr (hsite : b'.site = b.site) (h : b.IsLaid) : b'.IsLaid where
  handle := by
    rw [handle_of_site hsite]
    exact h.handle
  size := by
    rw [size_of_site hsite]
    exact h.size
  aligned := by
    rw [start_of_site hsite]
    exact h.aligned
  base := by
    rw [start_of_site hsite]
    exact h.base
  stop := by
    rw [span_of_site hsite]
    exact h.stop

theorem IsLaid.bus_ne (h : b.IsLaid) : b.bus ≠ 0 := by
  intro hzero
  have hbase := h.base
  rw [start, hzero] at hbase
  exact absurd hbase (by decide)

end Block

namespace BusSpace

variable {bs : List Block} {next : UInt32} {a b : Block}

theorem nil (h : next ≠ 0) : BusSpace [] next :=
  ⟨by rintro _ ⟨⟩, .nil, .nil, h⟩

/-- Whatever the number of allocations, no handle is above the highest word. -/
theorem table (h : BusSpace bs next) : Table bs (2 ^ 32) where
  numbered b hb :=
    ⟨Nat.pos_of_ne_zero fun hzero => (h.laid b hb).handle (UInt32.toNat_inj.1 hzero), b.handle.toNat_lt.le⟩
  ordered := h.ordered
  filled b hb := (h.laid b hb).size
  within b hb := b.stop_le_span.trans (h.laid b hb).stop
  apart := h.apart.imp fun {a b} hab => hab.imp a.stop_le_span.trans b.stop_le_span.trans

/-- A window that is not empty lies inside one block at most. -/
theorem unique (h : BusSpace bs next) {bus len : Nat} (hlen : 0 < len) (ha : a ∈ bs) (hb : b ∈ bs)
    (hina : a.holds bus len = true) (hinb : b.holds bus len = true) : a = b := by
  by_contra hne
  obtain ⟨hstart, hstop⟩ := Block.holds_iff.1 hina
  obtain ⟨hstart', hstop'⟩ := Block.holds_iff.1 hinb
  rcases h.table.apart_of_ne ha hb hne with hapart | hapart
  · omega
  · omega

/-! ## Changes -/

/-- A change that leaves each block where it is. -/
theorem modify (h : BusSpace bs next) (handle : UInt32) {f : Block → Block} (hf : ∀ b, (f b).site = b.site) :
    BusSpace (Blocks.modify bs handle f) next where
  laid := Blocks.forall_modify hf Block.IsLaid.congr h.laid
  apart := Blocks.pairwise_modify hf Block.Apart.congr h.apart
  ordered := (h.table.modify handle hf).ordered
  next := h.next

theorem erase (h : BusSpace bs next) (handle : UInt32) : BusSpace (Blocks.erase bs handle) next where
  laid b hb := h.laid b (List.mem_of_mem_filter hb)
  apart := h.apart.filter _
  ordered := h.ordered.filter _
  next := h.next

/-- A new block beside all others; one that has the same handle gives way. -/
theorem insert (h : BusSpace bs next) {next' : UInt32} (hnext : next' ≠ 0) (hlaid : b.IsLaid)
    (hapart : ∀ c ∈ bs, b.Apart c) : BusSpace (Blocks.insert b bs) next' where
  laid c hc := by
    rcases Blocks.mem_insert hc with rfl | hc
    · exact hlaid
    · exact h.laid c hc
  apart := Blocks.pairwise_insert (fun _ _ => Block.Apart.symm) h.apart hapart
  ordered := Blocks.ordered_insert b h.ordered
  next := hnext

end BusSpace

/-! ## New blocks -/

namespace Firmware

theorem handleAfter_ne_zero (h : UInt32) : handleAfter h ≠ 0 := by
  rw [handleAfter]
  split_ifs with hzero
  · decide
  · exact hzero

variable {fw : Firmware} {size alignment bus : UInt32}

/-- The span of a block that starts at a granule is as many granules as its size needs. -/
theorem span_newBlock (h : fw.place? size alignment = some bus) (flags : AllocFlags) :
    (fw.newBlock bus size flags).span = (bus.toNat, bus.toNat + alignUp size.toNat busGranule) := by
  obtain ⟨-, haligned, -⟩ := place?_room h
  exact congrArg (Prod.mk bus.toNat) (alignUp_add haligned size.toNat)

theorem isLaid_newBlock (h : fw.place? size alignment = some bus) (flags : AllocFlags) (hnext : fw.nextHandle ≠ 0) :
    (fw.newBlock bus size flags).IsLaid := by
  obtain ⟨hsize, haligned, hbase, hend, -⟩ := place?_room h
  refine ⟨hnext, hsize, haligned, hbase, ?_⟩
  rw [span_newBlock h]
  exact hend

theorem apart_newBlock (h : fw.place? size alignment = some bus) (flags : AllocFlags) {b : Block} (hb : b ∈ fw.blocks) :
    (fw.newBlock bus size flags).Apart b := by
  obtain ⟨-, -, -, -, hapart⟩ := place?_room h
  rw [Block.Apart, span_newBlock h]
  exact (hapart b hb).symm

end Firmware
end MailboxCursor
