/-
The table of live allocations: numbered in order, none empty, none over another.

`Table bs n` is what holds of the live blocks once `n` allocations were made, as long as the handles have not come round to
the first again. A new block (`push`), one that goes (`erase`) and one of which only the counts or the bytes change
(`modify`) keep it. `act_of_added` and `act_of_not_added` say that a request does nothing else to the table.
-/
import MailboxCursor.Proofs.Firmware.FirstFit
import MailboxCursor.Proofs.Firmware.Picture
import MailboxCursor.Proofs.Firmware.Requests

namespace MailboxCursor

structure Table (bs : List Block) (n : Nat) : Prop where
  numbered : ∀ b ∈ bs, 0 < b.handle.toNat ∧ b.handle.toNat ≤ n
  ordered : bs.Pairwise fun a b => a.handle < b.handle
  filled : ∀ b ∈ bs, 0 < b.size.toNat
  within : ∀ b ∈ bs, b.stop ≤ busEnd
  apart : bs.Pairwise fun a b => a.stop ≤ b.start ∨ b.stop ≤ a.start

/-- what identifies a block: its handle and the bus range it takes up -/
def Block.site (b : Block) : UInt32 × UInt32 × UInt32 :=
  (b.handle, b.bus, b.size)

namespace Block

variable {b b' : Block}

theorem handle_of_site (h : b'.site = b.site) : b'.handle = b.handle := congrArg (fun s => s.1) h

theorem start_of_site (h : b'.site = b.site) : b'.start = b.start := congrArg (fun s => s.2.1.toNat) h

theorem size_of_site (h : b'.site = b.site) : b'.size = b.size := congrArg (fun s => s.2.2) h

theorem stop_of_site (h : b'.site = b.site) : b'.stop = b.stop := by
  rw [stop, stop, start_of_site h, size_of_site h]

theorem span_of_site (h : b'.site = b.site) : b'.span = b.span := by
  rw [span, span, start_of_site h, stop_of_site h]

theorem holds_iff {bus len : Nat} : b.holds bus len = true ↔ b.start ≤ bus ∧ bus + len ≤ b.stop := by
  simp [holds]

end Block

/-! ## Windows onto a block -/

/-- the window lies in the block, and at the block's place on the bus -/
structure Window.On (w : Window) (b : Block) : Prop where
  base : w.base = b.start
  bus : w.bus.val.toNat = b.start + w.offset
  fits : w.offset + w.len.toNat ≤ b.size.toNat

/-- A window is opened onto the block that holds its range. -/
theorem Window.on_of_holds {b : Block} {bus : BusAddress} {len : UInt64}
    (h : b.holds bus.val.toNat len.toNat = true) (id : Nat) :
    Window.On ⟨id, b.start, b.size.toNat, bus.val.toNat - b.start, bus, len⟩ b := by
  obtain ⟨hstart, hstop⟩ := Block.holds_iff.1 h
  refine ⟨rfl, ?_, ?_⟩
  · show bus.val.toNat = b.start + (bus.val.toNat - b.start)
    omega
  · show bus.val.toNat - b.start + len.toNat ≤ b.size.toNat
    simp only [Block.stop] at hstop
    omega

theorem Window.On.congr {w : Window} {b b' : Block} (hsite : b'.site = b.site) (h : w.On b) : w.On b' := by
  refine ⟨?_, ?_, ?_⟩
  · rw [Block.start_of_site hsite]
    exact h.base
  · rw [Block.start_of_site hsite]
    exact h.bus
  · rw [Block.size_of_site hsite]
    exact h.fits

/-- the live windows onto a block of the device `id` -/
def Window.isOnto (id : Nat) (b : Block) (w : Window) : Bool :=
  w.owner == id && w.base == b.start

theorem Window.isOnto_iff {id : Nat} {b : Block} {w : Window} :
    Window.isOnto id b w = true ↔ w.owner = id ∧ w.base = b.start := by
  rw [Window.isOnto, Bool.and_eq_true, beq_iff_eq, beq_iff_eq]

theorem Window.isOnto_of_site {b b' : Block} (hsite : b'.site = b.site) (id : Nat) :
    Window.isOnto id b' = Window.isOnto id b := by
  funext w
  rw [Window.isOnto, Window.isOnto, Block.start_of_site hsite]

namespace Blocks

variable {bs : List Block} {b c : Block}

theorem mem_of_find? {h : UInt32} (hfind : find? bs h = some b) : b ∈ bs ∧ b.handle = h := by
  have hhandle := List.find?_some hfind
  exact ⟨List.mem_of_find?_eq_some hfind, eq_of_beq hhandle⟩

theorem mem_erase {h : UInt32} : c ∈ erase bs h ↔ c ∈ bs ∧ c.handle ≠ h := by
  rw [erase, List.mem_filter, bne_iff_ne]

theorem length_modify (bs : List Block) (h : UInt32) (f : Block → Block) : (modify bs h f).length = bs.length :=
  List.length_map _

theorem mem_modify {h : UInt32} {f : Block → Block} :
    c ∈ modify bs h f ↔ ∃ b ∈ bs, (if b.handle = h then f b else b) = c :=
  List.mem_map

theorem modify_id (bs : List Block) (h : UInt32) : (modify bs h fun b => b) = bs := by
  rw [modify]
  simp

section Modify

variable {handle : UInt32} {f : Block → Block} (hf : ∀ b, (f b).site = b.site)

include hf

theorem site_modified (b : Block) : (if b.handle = handle then f b else b).site = b.site := by
  split_ifs
  · exact hf b
  · rfl

/-- What is said of a block's place alone holds of the changed blocks too. -/
theorem forall_modify {P : Block → Prop} (hP : ∀ {b b'}, b'.site = b.site → P b → P b') (h : ∀ b ∈ bs, P b) :
    ∀ b ∈ modify bs handle f, P b := by
  intro c hc
  obtain ⟨b, hb, rfl⟩ := mem_modify.1 hc
  exact hP (site_modified hf b) (h b hb)

theorem pairwise_modify {R : Block → Block → Prop}
    (hR : ∀ {a a' b b'}, a'.site = a.site → b'.site = b.site → R a b → R a' b') (h : bs.Pairwise R) :
    (modify bs handle f).Pairwise R :=
  List.pairwise_map.2 (h.imp fun hab => hR (site_modified hf _) (site_modified hf _) hab)

end Modify

/-! ### A new block -/

theorem mem_insert (h : c ∈ insert b bs) : c = b ∨ c ∈ bs := by
  induction bs with
  | nil => exact Or.inl (List.mem_singleton.1 h)
  | cons d ds ih =>
    rw [insert] at h
    split_ifs at h
    · exact List.mem_cons.1 h
    · exact (List.mem_cons.1 h).imp_right (List.mem_cons_of_mem d)
    · rcases List.mem_cons.1 h with rfl | h
      · exact Or.inr List.mem_cons_self
      · exact (ih h).imp_right (List.mem_cons_of_mem d)

theorem pairwise_insert {R : Block → Block → Prop} (hsymm : ∀ a b, R a b → R b a) (h : bs.Pairwise R)
    (hb : ∀ c ∈ bs, R b c) : (insert b bs).Pairwise R := by
  induction bs with
  | nil => exact List.pairwise_singleton R b
  | cons d ds ih =>
    obtain ⟨hd, hds⟩ := List.pairwise_cons.1 h
    obtain ⟨hbd, hbds⟩ := List.forall_mem_cons.1 hb
    rw [insert]
    split_ifs
    · exact List.pairwise_cons.2 ⟨hb, h⟩
    · exact List.pairwise_cons.2 ⟨hbds, hds⟩
    · refine List.pairwise_cons.2 ⟨fun c hc => ?_, ih hds hbds⟩
      rcases mem_insert hc with rfl | hc
      · exact hsymm _ _ hbd
      · exact hd c hc

/-- A new block goes to its handle's place. -/
theorem ordered_insert (b : Block) (h : bs.Pairwise fun a b => a.handle < b.handle) :
    (insert b bs).Pairwise fun a b => a.handle < b.handle := by
  induction bs with
  | nil => exact List.pairwise_singleton _ b
  | cons d ds ih =>
    obtain ⟨hd, hds⟩ := List.pairwise_cons.1 h
    rw [insert]
    split_ifs with hlt heq
    · refine List.pairwise_cons.2 ⟨fun c hc => ?_, h⟩
      rcases List.mem_cons.1 hc with rfl | hc
      · exact hlt
      · exact UInt32.lt_trans hlt (hd c hc)
    · exact List.pairwise_cons.2 ⟨fun c hc => heq ▸ hd c hc, hds⟩
    · refine List.pairwise_cons.2 ⟨fun c hc => ?_, ih hds⟩
      rcases mem_insert hc with rfl | hc
      · exact UInt32.lt_of_le_of_ne (UInt32.not_lt.1 hlt) (Ne.symm heq)
      · exact hd c hc

/-- A block with the highest handle goes to the end of the table. -/
theorem insert_eq_append (h : ∀ c ∈ bs, c.handle < b.handle) : insert b bs = bs ++ [b] := by
  induction bs with
  | nil => rfl
  | cons c cs ih =>
    have hc : c.handle < b.handle := h c List.mem_cons_self
    rw [insert, if_neg (UInt32.lt_asymm hc), if_neg (UInt32.ne_of_lt hc).symm,
      ih fun d hd => h d (List.mem_cons_of_mem c hd)]
    rfl

end Blocks

namespace Table

variable {bs : List Block} {n : Nat} {a b : Block}

theorem nil (n : Nat) : Table [] n :=
  ⟨by simp, .nil, by simp, by simp, .nil⟩

theorem apart_of_ne (h : Table bs n) (ha : a ∈ bs) (hb : b ∈ bs) (hne : a ≠ b) :
    a.stop ≤ b.start ∨ b.stop ≤ a.start :=
  have : Std.Symm fun a b : Block => a.stop ≤ b.start ∨ b.stop ≤ a.start := ⟨fun _ _ => Or.symm⟩
  h.apart.forall ha hb hne

theorem eq_of_handle (h : Table bs n) (ha : a ∈ bs) (hb : b ∈ bs) (heq : a.handle = b.handle) : a = b := by
  by_contra hne
  have hsymm : Std.Symm fun a b : Block => a.handle ≠ b.handle := ⟨fun _ _ => Ne.symm⟩
  have hdistinct : bs.Pairwise fun a b => a.handle ≠ b.handle := h.ordered.imp fun hlt => UInt32.ne_of_lt hlt
  exact hdistinct.forall ha hb hne heq

/-- Two blocks with different starts lie one behind the other. -/
theorem apart_of_start (h : Table bs n) (ha : a ∈ bs) (hb : b ∈ bs) (hne : a.start ≠ b.start) :
    a.stop ≤ b.start ∨ b.stop ≤ a.start :=
  h.apart_of_ne ha hb fun heq => hne (congrArg Block.start heq)

theorem eq_of_start (h : Table bs n) (ha : a ∈ bs) (hb : b ∈ bs) (heq : a.start = b.start) : a = b := by
  by_contra hne
  have hfilled := h.filled a ha
  have hfilled' := h.filled b hb
  have hapart := h.apart_of_ne ha hb hne
  simp only [Block.stop] at hapart
  omega

theorem find?_start (h : Table bs n) (hb : b ∈ bs) : (bs.find? fun c => c.start == b.start) = some b := by
  have hsome : (bs.find? fun c => c.start == b.start).isSome = true := List.find?_isSome.2 ⟨b, hb, beq_self_eq_true _⟩
  obtain ⟨c, hc⟩ := Option.isSome_iff_exists.1 hsome
  have hmem : c ∈ bs := List.mem_of_find?_eq_some hc
  have hstart := List.find?_some hc
  rw [hc, h.eq_of_start hmem hb (eq_of_beq hstart)]

theorem find?_handle (h : Table bs n) (hb : b ∈ bs) : Blocks.find? bs b.handle = some b := by
  have hsome : (Blocks.find? bs b.handle).isSome = true := List.find?_isSome.2 ⟨b, hb, beq_self_eq_true _⟩
  obtain ⟨c, hc⟩ := Option.isSome_iff_exists.1 hsome
  obtain ⟨hmem, hhandle⟩ := Blocks.mem_of_find? hc
  rw [hc, h.eq_of_handle hmem hb hhandle]

/-- One block changed is the block with its handle changed. -/
theorem modify_eq_map (h : Table bs n) (hb : b ∈ bs) (f : Block → Block) :
    Blocks.modify bs b.handle f = bs.map fun c => if c = b then f b else c := by
  refine List.map_congr_left fun c hc => ?_
  by_cases heq : c.handle = b.handle
  · rw [if_pos heq, if_pos (h.eq_of_handle hc hb heq), h.eq_of_handle hc hb heq]
  · rw [if_neg heq, if_neg fun hsame => heq (congrArg Block.handle hsame)]

/-! ## Changes -/

/-- A new block under the next handle, beside all others. -/
theorem push (h : Table bs n) (hhandle : b.handle.toNat = n + 1) (hfilled : 0 < b.size.toNat) (hwithin : b.stop ≤ busEnd)
    (hapart : ∀ c ∈ bs, c.stop ≤ b.start ∨ b.stop ≤ c.start) : Table (bs ++ [b]) (n + 1) := by
  have hmem : ∀ {P : Block → Prop}, (∀ c ∈ bs, P c) → P b → ∀ c ∈ bs ++ [b], P c := by
    intro P hbs hb c hc
    rcases List.mem_append.1 hc with hc | hc
    · exact hbs c hc
    · rw [List.mem_singleton.1 hc]
      exact hb
  refine ⟨hmem (fun c hc => ?_) (by omega), ?_, hmem h.filled hfilled, hmem h.within hwithin, ?_⟩
  · have := h.numbered c hc
    omega
  · refine List.pairwise_append.2 ⟨h.ordered, List.pairwise_singleton _ _, fun c hc d hd => ?_⟩
    rw [List.mem_singleton.1 hd, UInt32.lt_iff_toNat_lt]
    have := h.numbered c hc
    omega
  · refine List.pairwise_append.2 ⟨h.apart, List.pairwise_singleton _ _, fun c hc d hd => ?_⟩
    rw [List.mem_singleton.1 hd]
    exact hapart c hc

theorem erase (h : Table bs n) (handle : UInt32) : Table (Blocks.erase bs handle) n where
  numbered b hb := h.numbered b (List.mem_of_mem_filter hb)
  ordered := h.ordered.filter _
  filled b hb := h.filled b (List.mem_of_mem_filter hb)
  within b hb := h.within b (List.mem_of_mem_filter hb)
  apart := h.apart.filter _

/-- A change that leaves each block where it is. -/
theorem modify (h : Table bs n) (handle : UInt32) {f : Block → Block} (hf : ∀ b, (f b).site = b.site) :
    Table (Blocks.modify bs handle f) n where
  numbered := Blocks.forall_modify hf (fun hsite hb => by rw [Block.handle_of_site hsite]; exact hb) h.numbered
  ordered := Blocks.pairwise_modify hf
    (fun ha hb hab => by rw [Block.handle_of_site ha, Block.handle_of_site hb]; exact hab) h.ordered
  filled := Blocks.forall_modify hf (fun hsite hb => by rw [Block.size_of_site hsite]; exact hb) h.filled
  within := Blocks.forall_modify hf (fun hsite hb => by rw [Block.stop_of_site hsite]; exact hb) h.within
  apart := Blocks.pairwise_modify hf
    (fun ha hb hab => by
      rw [Block.start_of_site ha, Block.start_of_site hb, Block.stop_of_site ha, Block.stop_of_site hb]
      exact hab)
    h.apart

end Table

namespace Firmware

/-- The block that a window is onto is found by the window's base. -/
theorem windowBlock?_eq_some {fw : Firmware} {n : Nat} (h : Table fw.blocks n) {b : Block} (hb : b ∈ fw.blocks)
    {w : Window} (howner : w.owner = fw.id) (hbase : w.base = b.start) : fw.windowBlock? w = some b := by
  rw [windowBlock?, if_pos howner, hbase]
  exact h.find?_start hb

/-! ## Requests -/

theorem toNat_handleAfter {h : UInt32} (hlast : h.toNat + 1 < 2 ^ 32) : (handleAfter h).toNat = h.toNat + 1 := by
  have hsum : (h + 1).toNat = h.toNat + 1 := by
    rw [UInt32.toNat_add, UInt32.toNat_one, Nat.mod_eq_of_lt hlast]
  have hnonzero : h + 1 ≠ 0 := by
    intro hzero
    rw [hzero] at hsum
    cases hsum
  rw [handleAfter, if_neg hnonzero, hsum]

theorem isPowerOfTwo_iff {w : UInt32} : isPowerOfTwo w = true ↔ ∃ k, w.toNat = 2 ^ k := by
  rw [isPowerOfTwo, beq_iff_eq, Nat.one_shiftLeft]
  constructor
  · intro h
    exact ⟨_, h.symm⟩
  · rintro ⟨k, hk⟩
    rw [hk, Nat.log2_two_pow]

theorem busGranule_dvd_max {alignment : UInt32} (h : isPowerOfTwo alignment = true) :
    busGranule ∣ max alignment.toNat busGranule := by
  obtain ⟨k, hpow⟩ := isPowerOfTwo_iff.1 h
  have hgranule : busGranule = 2 ^ 12 := rfl
  rcases max_choice alignment.toNat busGranule with hmax | hmax
  · have hle : 2 ^ 12 ≤ 2 ^ k := by
      rw [← hpow, ← hgranule, ← hmax]
      exact le_max_right _ _
    rw [hmax, hpow, hgranule]
    exact pow_dvd_pow 2 ((Nat.pow_le_pow_iff_right (by decide)).1 hle)
  · rw [hmax]

/-- A place is found for a new block where the search for one ends, if the request is for one at all. -/
theorem place?_eq_some_iff {fw : Firmware} {size alignment bus : UInt32} :
    fw.place? size alignment = some bus ↔
      fw.faults.refuseAllocations = false ∧ 0 < size.toNat ∧ isPowerOfTwo alignment = true ∧
        FirstFit.firstFit (fw.blocks.map Block.span) size.toNat (max alignment.toNat busGranule) = some bus.toNat := by
  have halign : 0 < max alignment.toNat busGranule := lt_of_lt_of_le (by decide) (le_max_right _ _)
  rw [place?]
  constructor
  · intro h
    split_ifs at h with hrefused
    simp only [Bool.or_eq_true, not_or, beq_iff_eq, ← UInt32.toNat_inj, Bool.not_eq_true, Bool.not_eq_false'] at hrefused
    obtain ⟨⟨hallowed, hsize⟩, hpower⟩ := hrefused
    have hsize : 0 < size.toNat := Nat.pos_of_ne_zero hsize
    obtain ⟨place, hfit, rfl⟩ := Option.map_eq_some_iff.1 h
    -- a place in front of the end of the bus window is a word
    have hgranule : size.toNat ≤ alignUp size.toNat busGranule := le_alignUp _ (by decide)
    obtain ⟨-, -, hend, -⟩ := FirstFit.firstFit_room halign hfit
    have hword : (UInt32.ofNat place).toNat = place := by
      rw [UInt32.toNat_ofNat']
      refine Nat.mod_eq_of_lt ?_
      simp only [busEnd] at hend
      omega
    rw [hword]
    exact ⟨hallowed, hsize, hpower, hfit⟩
  · rintro ⟨hallowed, hsize, hpower, hfit⟩
    have hsome : size ≠ 0 := by
      rintro rfl
      cases hsize
    simp [hallowed, hsome, hpower, hfit]

/-- A place for a new block is free in whole granules: inside the bus window, and beside every block. -/
theorem place?_room {fw : Firmware} {size alignment bus : UInt32} (h : fw.place? size alignment = some bus) :
    0 < size.toNat ∧ busGranule ∣ bus.toNat ∧ busBase ≤ bus.toNat ∧
      bus.toNat + alignUp size.toNat busGranule ≤ busEnd ∧
      ∀ b ∈ fw.blocks, b.span.2 ≤ bus.toNat ∨ bus.toNat + alignUp size.toNat busGranule ≤ b.start := by
  obtain ⟨-, hsize, hpower, hfit⟩ := place?_eq_some_iff.1 h
  have halign : 0 < max alignment.toNat busGranule := lt_of_lt_of_le (by decide) (le_max_right _ _)
  obtain ⟨haligned, hbase, hend, hapart⟩ := FirstFit.firstFit_room halign hfit
  refine ⟨hsize, (busGranule_dvd_max hpower).trans haligned, hbase, hend, fun b hb => ?_⟩
  exact (hapart b.span (List.mem_map_of_mem hb)).symm

/-- A place for a new block is free: inside the bus window, and beside every block. -/
theorem place?_eq_some {fw : Firmware} {size alignment bus : UInt32} (h : fw.place? size alignment = some bus) :
    0 < size.toNat ∧ bus.toNat + size.toNat ≤ busEnd ∧
      ∀ b ∈ fw.blocks, b.stop ≤ bus.toNat ∨ bus.toNat + size.toNat ≤ b.start := by
  obtain ⟨hsize, -, -, hend, hapart⟩ := place?_room h
  have hgranule : size.toNat ≤ alignUp size.toNat busGranule := le_alignUp _ (by decide)
  refine ⟨hsize, by omega, fun b hb => ?_⟩
  have hstop : b.stop ≤ b.span.2 := le_alignUp b.stop (by decide)
  have hspan := hapart b hb
  omega

/-- a change of a block that leaves it where it is, with its bytes and its mappings: of its locks, that is -/
def IsRelock (f : Block → Block) : Prop :=
  ∀ b, (f b).site = b.site ∧ (f b).memory = b.memory ∧ (f b).mappings = b.mappings

theorem act_of_added {fw : Firmware} {tag : Tag} {p : List UInt32} {b : Block} (h : fw.added? tag p = some b) :
    ∃ bus, fw.place? (p.getD 0 0) (max (p.getD 1 0) 1) = some bus ∧ b = fw.newBlock bus (p.getD 0 0) ⟨p.getD 2 0⟩ ∧
      (fw.act tag p).1.blocks = Blocks.insert b fw.blocks ∧ (fw.act tag p).1.nextHandle = handleAfter fw.nextHandle := by
  cases tag <;> simp only [added?, reduceCtorEq] at h
  obtain ⟨bus, hplace, rfl⟩ := Option.map_eq_some_iff.1 h
  exact ⟨bus, hplace, rfl, by simp only [act, allocate, hplace]; rfl, by simp only [act, allocate, hplace]⟩

/-- A request that adds no block changes counts of locks, or takes out a block that has no mapping. -/
theorem act_of_not_added {fw : Firmware} {tag : Tag} {p : List UInt32} (h : fw.added? tag p = none) :
    (fw.act tag p).1.nextHandle = fw.nextHandle ∧
      ((∃ handle f, IsRelock f ∧ (fw.act tag p).1.blocks = Blocks.modify fw.blocks handle f) ∨
        ∃ handle b, Blocks.find? fw.blocks handle = some b ∧ b.mappings = 0 ∧
          (fw.act tag p).1.blocks = Blocks.erase fw.blocks handle) := by
  have hsame : ∃ handle f, IsRelock f ∧ fw.blocks = Blocks.modify fw.blocks handle f :=
    ⟨0, fun b => b, fun _ => ⟨rfl, rfl, rfl⟩, (Blocks.modify_id _ _).symm⟩
  cases tag with
  | getFirmwareVersion => exact ⟨rfl, Or.inl hsame⟩
  | getOverscan => exact ⟨rfl, Or.inl hsame⟩
  | setCursorState => exact ⟨rfl, Or.inl hsame⟩
  | setCursorInfo =>
    simp only [act, setCursorGeometry_eq]
    cases fw.imageBlock? ⟨p.getD 0 0, p.getD 1 0, p.getD 2 0, ⟨p.getD 3 0⟩, p.getD 4 0, p.getD 5 0⟩ with
    | none => exact ⟨rfl, Or.inl hsame⟩
    | some b => exact ⟨rfl, Or.inl hsame⟩
  | allocateMemory =>
    rw [added?, Option.map_eq_none_iff] at h
    simp only [act, allocate, h]
    exact ⟨trivial, Or.inl hsame⟩
  | lockMemory =>
    simp only [act, lock]
    cases Blocks.find? fw.blocks (p.getD 0 0) with
    | none => exact ⟨rfl, Or.inl hsame⟩
    | some b =>
      exact ⟨rfl, Or.inl ⟨p.getD 0 0, fun b => { b with locks := b.locks + 1 }, fun _ => ⟨rfl, rfl, rfl⟩, rfl⟩⟩
  | unlockMemory =>
    simp only [act, unlock]
    cases Blocks.find? fw.blocks (p.getD 0 0) with
    | none => exact ⟨rfl, Or.inl hsame⟩
    | some b =>
      dsimp only
      split_ifs
      · exact ⟨rfl, Or.inl ⟨p.getD 0 0, fun b => { b with locks := b.locks - 1 }, fun _ => ⟨rfl, rfl, rfl⟩, rfl⟩⟩
      · exact ⟨rfl, Or.inl hsame⟩
  | releaseMemory =>
    simp only [act, release]
    cases hfind : Blocks.find? fw.blocks (p.getD 0 0) with
    | none => exact ⟨rfl, Or.inl hsame⟩
    | some b =>
      dsimp only
      by_cases hheld : (b.isLocked || b.mappings != 0) = true
      · rw [if_pos hheld]
        exact ⟨rfl, Or.inl hsame⟩
      · rw [if_neg hheld]
        simp only [Bool.or_eq_true, not_or, bne_iff_ne, ne_eq, not_not] at hheld
        exact ⟨rfl, Or.inr ⟨p.getD 0 0, b, hfind, hheld.2, rfl⟩⟩

end Firmware
end MailboxCursor
