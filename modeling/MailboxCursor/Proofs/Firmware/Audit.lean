/-
What was achieved on a firmware, against what its blocks count.

The entries of all steps taken, the newest first, are counted block by block, and `Entry.out` are the windows that were handed
out and not taken back. `Audited fw es` says that the blocks of `fw` agree with the entries `es`: each block's counts are those
of the entries about it (`Tallies`), and every window that is out lies in a block. One lemma for each kind of change keeps
this (`Audited.modify`, `Audited.modifyOne`, `Audited.erase`, `Audited.push`), and so every turn of the table does
(`Audited.turn`), as long as the handles have not come round.

`Audited.anchors` is what it is for: a window that is out lies in one block, which stays, and closing it lowers the count of
that block alone.
-/
import MailboxCursor.Proofs.Firmware.Turn

namespace MailboxCursor

open Firmware (Entry Step Turn)

/-! ## Entries that are counted -/

namespace Firmware.Entry

variable (handle : UInt32)

def allocates : Entry → Bool
  | allocated _ => true
  | _ => false

/-- the block with the handle was locked -/
def locks : Entry → Bool
  | locked h => h == handle
  | _ => false

def unlocks : Entry → Bool
  | unlocked h => h == handle
  | _ => false

/-- a window onto the block with the handle was handed out -/
def maps : Entry → Bool
  | mapped h _ => h == handle
  | _ => false

/-- a window onto the block with the handle was taken back -/
def unmaps : Entry → Bool
  | unmapped h _ => h == handle
  | _ => false

theorem locks_locked : (locked handle).locks handle = true := beq_self_eq_true handle

theorem unlocks_unlocked : (unlocked handle).unlocks handle = true := beq_self_eq_true handle

theorem maps_mapped (w : Window) : (mapped handle w).maps handle = true := beq_self_eq_true handle

theorem unmaps_unmapped (w : Window) : (unmapped handle w).unmaps handle = true := beq_self_eq_true handle

/-- the windows that were handed out and not taken back -/
def out : List Entry → List Window
  | [] => []
  | mapped _ w :: es => w :: out es
  | unmapped _ w :: es => (out es).erase w
  | _ :: es => out es

def allocations (es : List Entry) : Nat :=
  es.countP allocates

/-- the window that was handed out or taken back -/
def window? : Entry → Option Window
  | mapped _ w | unmapped _ w => some w
  | _ => none

variable {handle} {e : Entry}

/-- An entry counts for no block but the one it is about. -/
theorem silent (h : e.handle ≠ handle) :
    ¬e.locks handle = true ∧ ¬e.unlocks handle = true ∧ ¬e.maps handle = true ∧ ¬e.unmaps handle = true := by
  cases e <;> simp_all [locks, unlocks, maps, unmaps, Entry.handle]

theorem allocations_le_cons (e : Entry) (es : List Entry) : allocations es ≤ allocations (e :: es) :=
  (List.sublist_cons_self e es).countP_le

/-- Windows that are onto other things are not counted, come or go. -/
theorem countP_out_cons {p : Window → Bool} (h : ∀ w ∈ e.window?, ¬p w = true) (es : List Entry) :
    (out (e :: es)).countP p = (out es).countP p := by
  cases e with
  | mapped handle w => exact List.countP_cons_of_neg (h w rfl)
  | unmapped handle w =>
    rw [out, List.countP_erase, if_neg fun hboth => h w rfl hboth.2, Nat.sub_zero]
  | allocated handle => rfl
  | released handle => rfl
  | locked handle => rfl
  | unlocked handle => rfl

end Firmware.Entry

/-! ## What an account keeps -/

/-- The counts of a block are those of the entries about it, and its mappings are the windows that are out. -/
structure Tallies (id : Nat) (es : List Entry) (b : Block) : Prop where
  numbered : b.handle.toNat ≤ Entry.allocations es
  locks : es.countP (Entry.locks b.handle) = es.countP (Entry.unlocks b.handle) + b.locks.toNat
  mappings : es.countP (Entry.maps b.handle) = es.countP (Entry.unmaps b.handle) + b.mappings
  held : (Entry.out es).countP (Window.isOnto id b) = b.mappings

/-- What was achieved about another block leaves the tallies of a block as they are. -/
theorem Tallies.cons_of_ne {id : Nat} {es : List Entry} {b : Block} {e : Entry} (h : Tallies id es b)
    (hother : e.handle ≠ b.handle) (hwindow : ∀ w ∈ e.window?, ¬Window.isOnto id b w = true) :
    Tallies id (e :: es) b := by
  obtain ⟨hlocks, hunlocks, hmaps, hunmaps⟩ := Entry.silent hother
  refine ⟨h.numbered.trans (Entry.allocations_le_cons e es), ?_, ?_, ?_⟩
  · rw [List.countP_cons_of_neg hlocks, List.countP_cons_of_neg hunlocks, h.locks]
  · rw [List.countP_cons_of_neg hmaps, List.countP_cons_of_neg hunmaps, h.mappings]
  · rw [Entry.countP_out_cons hwindow, h.held]

theorem Tallies.congr {id : Nat} {es : List Entry} {b b' : Block} (h : Tallies id es b) (hsite : b'.site = b.site)
    (hlocks : b'.locks = b.locks) (hmappings : b'.mappings = b.mappings) : Tallies id es b' := by
  refine ⟨?_, ?_, ?_, ?_⟩
  · rw [Block.handle_of_site hsite]
    exact h.numbered
  · rw [Block.handle_of_site hsite, hlocks]
    exact h.locks
  · rw [Block.handle_of_site hsite, hmappings]
    exact h.mappings
  · rw [Window.isOnto_of_site hsite, hmappings]
    exact h.held

/-- A block that no entry is about yet. -/
theorem Tallies.new {id : Nat} {es : List Entry} {b : Block} (hnumber : b.handle.toNat = Entry.allocations es + 1)
    (hdated : ∀ e ∈ es, e.handle.toNat ≤ Entry.allocations es) (hlocks : b.locks = 0) (hmappings : b.mappings = 0)
    (hheld : ∀ w ∈ Entry.out es, ¬Window.isOnto id b w = true) : Tallies id (.allocated b.handle :: es) b := by
  have hallocations : Entry.allocations (.allocated b.handle :: es) = Entry.allocations es + 1 :=
    List.countP_cons_of_pos rfl
  have hother : ∀ e ∈ es, e.handle ≠ b.handle := by
    intro e he heq
    have hle := hdated e he
    rw [heq, hnumber] at hle
    omega
  have hnone {p : Entry → Bool} (hhead : ¬p (.allocated b.handle) = true) (htail : ∀ e ∈ es, ¬p e = true) :
      (Entry.allocated b.handle :: es).countP p = 0 :=
    List.countP_eq_zero.2 (List.forall_mem_cons.2 ⟨hhead, htail⟩)
  refine ⟨by rw [hnumber, hallocations], ?_, ?_, ?_⟩
  · rw [hnone Bool.false_ne_true fun e he => (Entry.silent (hother e he)).1,
      hnone Bool.false_ne_true fun e he => (Entry.silent (hother e he)).2.1, hlocks]
    rfl
  · rw [hnone Bool.false_ne_true fun e he => (Entry.silent (hother e he)).2.2.1,
      hnone Bool.false_ne_true fun e he => (Entry.silent (hother e he)).2.2.2, hmappings]
  · rw [hmappings]
    exact List.countP_eq_zero.2 hheld

/-! ### What is achieved about a block -/

section

variable {id : Nat} {es : List Entry} {b : Block}

theorem Tallies.lock (h : Tallies id es b) (hlocks : b.locks ≠ 0xffffffff) :
    Tallies id (.locked b.handle :: es) { b with locks := b.locks + 1 } where
  numbered := h.numbered
  locks := by
    have hlast : b.locks.toNat ≠ 2 ^ 32 - 1 := fun heq => hlocks (UInt32.toNat_inj.1 heq)
    have hword := b.locks.toNat_lt
    have hcount : (b.locks + 1).toNat = b.locks.toNat + 1 := by
      rw [UInt32.toNat_add, UInt32.toNat_one, Nat.mod_eq_of_lt (by omega)]
    rw [List.countP_cons_of_pos (Entry.locks_locked b.handle), List.countP_cons_of_neg Bool.false_ne_true, h.locks, hcount,
      Nat.add_assoc]
  mappings := h.mappings
  held := h.held

theorem Tallies.unlock (h : Tallies id es b) (hlocks : b.locks ≠ 0) :
    Tallies id (.unlocked b.handle :: es) { b with locks := b.locks - 1 } where
  numbered := h.numbered
  locks := by
    have hpositive : b.locks.toNat ≠ 0 := fun hzero => hlocks (UInt32.toNat_inj.1 hzero)
    have hcount : (b.locks - 1).toNat = b.locks.toNat - 1 :=
      UInt32.toNat_sub_of_le _ _ (UInt32.le_iff_toNat_le.2 (Nat.one_le_iff_ne_zero.2 hpositive))
    rw [List.countP_cons_of_neg Bool.false_ne_true, List.countP_cons_of_pos (Entry.unlocks_unlocked b.handle), h.locks]
    show _ = _ + (b.locks - 1).toNat
    omega
  mappings := h.mappings
  held := h.held

theorem Tallies.map (h : Tallies id es b) {w : Window} (honto : Window.isOnto id b w = true) :
    Tallies id (.mapped b.handle w :: es) { b with mappings := b.mappings + 1 } where
  numbered := h.numbered
  locks := h.locks
  mappings := by
    rw [List.countP_cons_of_pos (Entry.maps_mapped b.handle w), List.countP_cons_of_neg Bool.false_ne_true, h.mappings,
      Nat.add_assoc]
  held := (List.countP_cons_of_pos honto).trans (congrArg (· + 1) h.held)

theorem Tallies.unmap (h : Tallies id es b) {w : Window} (hw : w ∈ Entry.out es) (honto : Window.isOnto id b w = true) :
    Tallies id (.unmapped b.handle w :: es) { b with mappings := b.mappings - 1 } where
  numbered := h.numbered
  locks := h.locks
  mappings := by
    have hpositive := List.countP_pos_iff.2 ⟨w, hw, honto⟩
    rw [h.held] at hpositive
    rw [List.countP_cons_of_neg Bool.false_ne_true, List.countP_cons_of_pos (Entry.unmaps_unmapped b.handle w), h.mappings]
    show _ = _ + (b.mappings - 1)
    omega
  held := by
    have hheld := h.held
    rw [Entry.out, List.countP_erase, if_pos ⟨hw, honto⟩]
    exact congrArg (· - 1) hheld

end

structure Audited (fw : Firmware) (es : List Entry) : Prop where
  space : BusSpace fw.blocks fw.nextHandle
  next : fw.nextHandle.toNat = Entry.allocations es + 1
  /-- no entry is about a handle that was not given out yet -/
  dated : ∀ e ∈ es, e.handle.toNat ≤ Entry.allocations es
  tallied : ∀ b ∈ fw.blocks, Tallies fw.id es b
  placed : ∀ w ∈ Entry.out es, w.owner = fw.id ∧ ∃ b ∈ fw.blocks, w.On b

namespace Audited

variable {fw fw' : Firmware} {es es' : List Entry}

theorem fresh (id : Nat) : Audited (.fresh id) [] where
  space := Firmware.busSpace_fresh id
  next := rfl
  dated := by rintro _ ⟨⟩
  tallied := by rintro _ ⟨⟩
  placed := by rintro _ ⟨⟩

/-- the block that a window is on -/
theorem eq_of_base (h : Audited fw es) {b c : Block} {w : Window} (hb : b ∈ fw.blocks) (hc : c ∈ fw.blocks)
    (hon : w.On b) (hbase : w.base = c.start) : b = c :=
  h.space.table.eq_of_start hb hc (hon.base.symm.trans hbase)

/-- A block is counted as mapped while a window onto it is out. -/
theorem mappings_ne_zero (h : Audited fw es) {b : Block} {w : Window} (hw : w ∈ Entry.out es) (hb : b ∈ fw.blocks)
    (hon : w.On b) : b.mappings ≠ 0 := by
  have honto : Window.isOnto fw.id b w = true := Window.isOnto_iff.2 ⟨(h.placed w hw).1, hon.base⟩
  have hpositive := List.countP_pos_iff.2 ⟨w, hw, honto⟩
  rw [(h.tallied b hb).held] at hpositive
  exact Nat.ne_of_gt hpositive

theorem handle_lt_next (h : Audited fw es) : ∀ b ∈ fw.blocks, b.handle < fw.nextHandle := by
  intro b hb
  have hnumber := (h.tallied b hb).numbered
  rw [UInt32.lt_iff_toNat_lt, h.next]
  omega

/-! ### Changes of the table -/

/-- Blocks that stay where they are, with counts that follow the entries. -/
theorem modify (h : Audited fw es) {handle : UInt32} {f : Block → Block} (hsite : ∀ b, (f b).site = b.site)
    (hspace : BusSpace fw'.blocks fw'.nextHandle) (hid : fw'.id = fw.id)
    (hblocks : fw'.blocks = Blocks.modify fw.blocks handle f) (hnext : fw'.nextHandle = fw.nextHandle)
    (hallocations : Entry.allocations es' = Entry.allocations es)
    (hdated : ∀ e ∈ es', e.handle.toNat ≤ Entry.allocations es)
    (htallied : ∀ b ∈ fw.blocks, Tallies fw.id es' (if b.handle = handle then f b else b))
    (hplaced : ∀ w ∈ Entry.out es', w.owner = fw.id ∧ ∃ b ∈ fw.blocks, w.On b) : Audited fw' es' where
  space := hspace
  next := by rw [hnext, hallocations, h.next]
  dated := by
    rw [hallocations]
    exact hdated
  tallied := by
    intro c hc
    rw [hblocks] at hc
    obtain ⟨b, hb, rfl⟩ := Blocks.mem_modify.1 hc
    rw [hid]
    exact htallied b hb
  placed := by
    intro w hw
    obtain ⟨howner, b, hb, hon⟩ := hplaced w hw
    refine ⟨howner.trans hid.symm, _, by rw [hblocks]; exact Blocks.mem_modify.2 ⟨b, hb, rfl⟩, ?_⟩
    exact hon.congr (Blocks.site_modified hsite b)

/-- Something is achieved about one block, and no other block is concerned. -/
theorem modifyOne (h : Audited fw es) {b : Block} (hb : b ∈ fw.blocks) {f : Block → Block}
    (hspace : BusSpace fw'.blocks fw'.nextHandle) (hid : fw'.id = fw.id)
    (hblocks : fw'.blocks = Blocks.modify fw.blocks b.handle f) (hsite : ∀ c, (f c).site = c.site)
    (hnext : fw'.nextHandle = fw.nextHandle) {e : Entry}
    (hhandle : e.handle = b.handle) (hallocates : ¬e.allocates = true) (hwindow : ∀ w ∈ e.window?, w.base = b.start)
    (htally : Tallies fw.id (e :: es) (f b))
    (hplaced : ∀ w ∈ Entry.out (e :: es), w.owner = fw.id ∧ ∃ b ∈ fw.blocks, w.On b) : Audited fw' (e :: es) := by
  have hallocations : Entry.allocations (e :: es) = Entry.allocations es := List.countP_cons_of_neg hallocates
  refine h.modify hsite hspace hid hblocks hnext hallocations ?_ (fun c hc => ?_) hplaced
  · refine List.forall_mem_cons.2 ⟨?_, h.dated⟩
    rw [hhandle]
    exact (h.tallied b hb).numbered
  · split_ifs with heq
    · rw [h.space.table.eq_of_handle hc hb heq]
      exact htally
    · refine (h.tallied c hc).cons_of_ne (hhandle.trans_ne (Ne.symm heq)) fun w hw honto => heq ?_
      have hstart := (Window.isOnto_iff.1 honto).2.symm.trans (hwindow w hw)
      exact congrArg Block.handle (h.space.table.eq_of_start hc hb hstart)

/-- A block goes, which no window is onto. -/
theorem erase (h : Audited fw es) {b : Block} (hb : b ∈ fw.blocks) (hmappings : b.mappings = 0)
    (hspace : BusSpace fw'.blocks fw'.nextHandle) (hid : fw'.id = fw.id)
    (hblocks : fw'.blocks = Blocks.erase fw.blocks b.handle) (hnext : fw'.nextHandle = fw.nextHandle) :
    Audited fw' (.released b.handle :: es) where
  space := hspace
  next := by
    rw [hnext, h.next]
    rfl
  dated := List.forall_mem_cons.2 ⟨(h.tallied b hb).numbered, h.dated⟩
  tallied := by
    intro c hc
    rw [hblocks, Blocks.mem_erase] at hc
    rw [hid]
    exact (h.tallied c hc.1).cons_of_ne (e := .released b.handle) hc.2.symm (by rintro _ ⟨⟩)
  placed := by
    intro w hw
    obtain ⟨howner, c, hc, hon⟩ := h.placed w hw
    refine ⟨howner.trans hid.symm, c, ?_, hon⟩
    rw [hblocks, Blocks.mem_erase]
    refine ⟨hc, fun hsame => h.mappings_ne_zero hw hc hon ?_⟩
    rw [h.space.table.eq_of_handle hc hb hsame, hmappings]

/-- A new block, which nothing was achieved about and no window is onto. -/
theorem push (h : Audited fw es) {b : Block} (hhandle : b.handle = fw.nextHandle) (hlocks : b.locks = 0)
    (hmappings : b.mappings = 0) (hspace : BusSpace fw'.blocks fw'.nextHandle) (hid : fw'.id = fw.id)
    (hblocks : fw'.blocks = Blocks.insert b fw.blocks) (hnext : fw'.nextHandle = Firmware.handleAfter fw.nextHandle)
    (hyoung : Entry.allocations es + 1 < 2 ^ 32 - 1) : Audited fw' (.allocated b.handle :: es) := by
  have hnumber : b.handle.toNat = Entry.allocations es + 1 := by rw [hhandle, h.next]
  have hallocations : Entry.allocations (.allocated b.handle :: es) = Entry.allocations es + 1 :=
    List.countP_cons_of_pos rfl
  have hbelow : ∀ c ∈ fw.blocks, c.handle < b.handle := by
    rw [hhandle]
    exact h.handle_lt_next
  have hmem {c : Block} : c ∈ fw'.blocks ↔ c ∈ fw.blocks ∨ c = b := by
    rw [hblocks, Blocks.insert_eq_append hbelow, List.mem_append, List.mem_singleton]
  refine ⟨hspace, ?_, ?_, ?_, ?_⟩
  · rw [hnext, Firmware.toNat_handleAfter (by rw [h.next]; omega), h.next, hallocations]
  · rw [hallocations]
    refine List.forall_mem_cons.2 ⟨hnumber.le, fun e he => ?_⟩
    exact (h.dated e he).trans (Nat.le_succ _)
  · intro c hc
    rw [hid]
    rcases hmem.1 hc with hc | rfl
    · exact (h.tallied c hc).cons_of_ne (e := .allocated b.handle) (UInt32.ne_of_lt (hbelow c hc)).symm (by rintro _ ⟨⟩)
    · refine .new hnumber h.dated hlocks hmappings fun w hw honto => ?_
      -- the window lies in a block that was there before, so in another one
      obtain ⟨-, d, hd, hon⟩ := h.placed w hw
      have hstart := hon.base.symm.trans (Window.isOnto_iff.1 honto).2
      have hsame := hspace.table.eq_of_start (hmem.2 (Or.inl hd)) hc hstart
      exact UInt32.ne_of_lt (hbelow d hd) (congrArg Block.handle hsame)
  · intro w hw
    obtain ⟨howner, c, hc, hon⟩ := h.placed w hw
    exact ⟨howner.trans hid.symm, c, hmem.2 (Or.inl hc), hon⟩

/-- **Every turn of the table keeps the accounts**, if a window that is taken back was out, and the handles do not come
round. -/
theorem turn (h : Audited fw es) {e : Option Entry} {bs : List Block} {next : UInt32} (hturn : Turn fw e bs next)
    (hid : fw'.id = fw.id) (hblocks : fw'.blocks = bs) (hnext : fw'.nextHandle = next)
    (hout : ∀ handle w, e = some (.unmapped handle w) → w ∈ Entry.out es)
    (hyoung : Entry.allocations (e.toList ++ es) < 2 ^ 32 - 1) : Audited fw' (e.toList ++ es) := by
  have hspace : BusSpace fw'.blocks fw'.nextHandle := by
    rw [hblocks, hnext]
    exact hturn.busSpace h.space
  cases hturn with
  | quiet handle hf =>
    refine h.modify (fun b => (hf b).1) hspace hid hblocks hnext rfl h.dated (fun b hb => ?_) h.placed
    have hb := h.tallied b hb
    split_ifs
    · exact hb.congr (hf b).1 (hf b).2.1 (hf b).2.2
    · exact hb
  | allocated hplace flags =>
    have hcount : Entry.allocations (.allocated fw.nextHandle :: es) = Entry.allocations es + 1 :=
      List.countP_cons_of_pos rfl
    exact h.push rfl rfl rfl hspace hid hblocks hnext (hcount ▸ hyoung)
  | released hb hlocks hmappings => exact h.erase hb hmappings hspace hid hblocks hnext
  | @locked b hb hlocks =>
    exact h.modifyOne hb hspace hid hblocks (fun _ => rfl) hnext rfl Bool.false_ne_true (by rintro _ ⟨⟩)
      ((h.tallied b hb).lock hlocks) h.placed
  | @unlocked b hb hlocks =>
    exact h.modifyOne hb hspace hid hblocks (fun _ => rfl) hnext rfl Bool.false_ne_true (by rintro _ ⟨⟩)
      ((h.tallied b hb).unlock hlocks) h.placed
  | @mapped b hb w howner hon =>
    refine h.modifyOne hb hspace hid hblocks (fun _ => rfl) hnext rfl Bool.false_ne_true ?_
      ((h.tallied b hb).map (Window.isOnto_iff.2 ⟨howner, hon.base⟩)) ?_
    · rintro _ ⟨⟩
      exact hon.base
    · exact List.forall_mem_cons.2 ⟨⟨howner, b, hb, hon⟩, h.placed⟩
  | @unmapped b hb w howner hbase hmappings =>
    have hw : w ∈ Entry.out es := hout b.handle w rfl
    refine h.modifyOne hb hspace hid hblocks (fun _ => rfl) hnext rfl Bool.false_ne_true ?_
      ((h.tallied b hb).unmap hw (Window.isOnto_iff.2 ⟨howner, hbase⟩)) fun w' hw' => ?_
    · rintro _ ⟨⟩
      exact hbase
    · exact h.placed w' (List.mem_of_mem_erase hw')

end Audited

/-! ## Windows that do not dangle -/

/-- the window is held by the block: it lies in it and in no other, closing it succeeds and lowers the count of this block
alone, and whatever is done next, the block stays where it is -/
structure Firmware.Anchors (fw : Firmware) (b : Block) (w : Window) : Prop where
  mem : b ∈ fw.blocks
  on : w.On b
  only : ∀ c ∈ fw.blocks, w.On c → c = b
  mapped : 0 < b.mappings
  closes : fw.closeWindow w =
    ⟨.ok (), { fw with blocks := fw.blocks.map fun c => if c = b then { b with mappings := b.mappings - 1 } else c }, []⟩
  stays : ∀ s, ∃ c ∈ (fw.step s).blocks, c.site = b.site

theorem Audited.anchors {fw : Firmware} {es : List Entry} (h : Audited fw es) {w : Window} (hw : w ∈ Entry.out es) :
    ∃ b, fw.Anchors b w := by
  obtain ⟨howner, b, hb, hon⟩ := h.placed w hw
  have hmapped := h.mappings_ne_zero hw hb hon
  refine ⟨b, hb, hon, fun c hc hon' => (h.eq_of_base hb hc hon hon'.base).symm, Nat.pos_of_ne_zero hmapped, ?_, ?_⟩
  · have hfound := Firmware.windowBlock?_eq_some h.space.table hb howner hon.base
    rw [Firmware.closeWindow, hfound, Option.filter_some, if_pos (bne_iff_ne.2 hmapped)]
    simp only [h.space.table.modify_eq_map hb]
  · intro s
    exact (Firmware.step_turn h.space s).stays h.space h.handle_lt_next hb hmapped

end MailboxCursor
