/-
Everything that can be done to a firmware from outside, what it does to the table of live blocks, and what it achieves.

`step` is one thing done, `run` any number of them. `Entry` is what a step achieves, as the one who took it can tell: by the
answer to a message, by the window that was opened or taken back. `step_turn` says once what a step can do: it lists the turns
that the table can take (`Turn`), each with its entry. Every invariant of the table follows from that list.

The first is `run_busSpace`: however a firmware is used, its blocks lie apart and in whole granules inside the bus window.
-/
import MailboxCursor.Proofs.Firmware.BusSpace

namespace MailboxCursor.Firmware

/-- one thing that is done to a firmware from outside -/
inductive Step where
  | exchange (m : Message)
  | openWindow (bus : BusAddress) (len : UInt64)
  | closeWindow (w : Window)
  | write (w : Window) (offset : Nat) (bytes : List UInt8)
  | set (s : Setting)
deriving DecidableEq, Repr

def step (fw : Firmware) : Step → Firmware
  | .exchange m => (fw.exchange m).device
  | .openWindow bus len => (fw.openWindow bus len).device
  | .closeWindow w => (fw.closeWindow w).device
  | .write w offset bytes => fw.write w offset bytes
  | .set s => fw.set s

def run (fw : Firmware) (steps : List Step) : Firmware :=
  steps.foldl step fw

/-! ## What a step achieves -/

/-- what was achieved about one block, which is named by its handle -/
inductive Entry where
  | allocated (handle : UInt32)
  | released (handle : UInt32)
  | locked (handle : UInt32)
  | unlocked (handle : UInt32)
  | mapped (handle : UInt32) (w : Window)
  | unmapped (handle : UInt32) (w : Window)
deriving DecidableEq, Repr

def Entry.handle : Entry → UInt32
  | allocated handle | released handle | locked handle | unlocked handle => handle
  | mapped handle _ | unmapped handle _ => handle

/-- what a request that was acted on achieved, by the first word of its answer -/
def entryOf (tag : Tag) (p : List UInt32) (answer : UInt32) : Option Entry :=
  match tag with
  | .allocateMemory => if answer = 0 then none else some (.allocated answer)
  | .lockMemory => if answer = 0 then none else some (.locked (p.getD 0 0))
  | .unlockMemory => if answer = statusOk then some (.unlocked (p.getD 0 0)) else none
  | .releaseMemory => if answer = statusOk then some (.released (p.getD 0 0)) else none
  | _ => none

/-- the handle of the block that a window is onto -/
def holder (fw : Firmware) (w : Window) : UInt32 :=
  ((fw.windowBlock? w).map Block.handle).getD 0

def achieved? (fw : Firmware) : Step → Option Entry
  | .exchange m => (fw.accepts? m).bind fun r => entryOf r.1 r.2 ((fw.act r.1 r.2).2.headD 0)
  | .openWindow bus len =>
    match (fw.openWindow bus len).result with
    | .ok w => some (.mapped (fw.holder w) w)
    | .error _ => none
  | .closeWindow w =>
    match (fw.closeWindow w).result with
    | .ok () => some (.unmapped (fw.holder w) w)
    | .error _ => none
  | .write .. => none
  | .set _ => none

variable {fw : Firmware}

theorem entryOf_ne_unmapped {tag : Tag} {p : List UInt32} {answer handle : UInt32} {w : Window} :
    entryOf tag p answer ≠ some (.unmapped handle w) := by
  cases tag <;> simp only [entryOf] <;> (try split_ifs) <;> simp

/-- A window is taken back by closing it, on the device that opened it. -/
theorem of_achieved?_unmapped {s : Step} {handle : UInt32} {w : Window} (h : fw.achieved? s = some (.unmapped handle w)) :
    s = .closeWindow w ∧ w.owner = fw.id := by
  cases s with
  | exchange m =>
    obtain ⟨r, -, hentry⟩ := Option.bind_eq_some_iff.1 h
    exact absurd hentry entryOf_ne_unmapped
  | openWindow bus len =>
    simp only [achieved?] at h
    split at h
    · cases h
    · cases h
  | closeWindow w' =>
    by_cases howner : w'.owner = fw.id
    · simp only [achieved?] at h
      split at h
      · cases h
        exact ⟨rfl, howner⟩
      · cases h
    · simp only [achieved?, closeWindow_of_owner_ne howner, reduceCtorEq] at h
  | write w' offset bytes => cases h
  | set s => cases h

/-! ## What a step does to the table -/

/-- the table and the next handle after a step, and what the step achieved -/
inductive Turn (fw : Firmware) : Option Entry → List Block → UInt32 → Prop where
  /-- bytes may change, and nothing else -/
  | quiet (handle : UInt32) {f : Block → Block}
      (hf : ∀ b, (f b).site = b.site ∧ (f b).locks = b.locks ∧ (f b).mappings = b.mappings) :
      Turn fw none (Blocks.modify fw.blocks handle f) fw.nextHandle
  | allocated {size alignment bus : UInt32} (hplace : fw.place? size alignment = some bus) (flags : AllocFlags) :
      Turn fw (some (.allocated fw.nextHandle)) (Blocks.insert (fw.newBlock bus size flags) fw.blocks)
        (handleAfter fw.nextHandle)
  | released {b : Block} (hb : b ∈ fw.blocks) (hlocks : b.locks = 0) (hmappings : b.mappings = 0) :
      Turn fw (some (.released b.handle)) (Blocks.erase fw.blocks b.handle) fw.nextHandle
  | locked {b : Block} (hb : b ∈ fw.blocks) (hlocks : b.locks ≠ 0xffffffff) :
      Turn fw (some (.locked b.handle))
        (Blocks.modify fw.blocks b.handle fun b => { b with locks := b.locks + 1 }) fw.nextHandle
  | unlocked {b : Block} (hb : b ∈ fw.blocks) (hlocks : b.locks ≠ 0) :
      Turn fw (some (.unlocked b.handle))
        (Blocks.modify fw.blocks b.handle fun b => { b with locks := b.locks - 1 }) fw.nextHandle
  | mapped {b : Block} (hb : b ∈ fw.blocks) {w : Window} (howner : w.owner = fw.id) (hon : w.On b) :
      Turn fw (some (.mapped b.handle w))
        (Blocks.modify fw.blocks b.handle fun b => { b with mappings := b.mappings + 1 }) fw.nextHandle
  | unmapped {b : Block} (hb : b ∈ fw.blocks) {w : Window} (howner : w.owner = fw.id) (hbase : w.base = b.start)
      (hmappings : b.mappings ≠ 0) :
      Turn fw (some (.unmapped b.handle w))
        (Blocks.modify fw.blocks b.handle fun b => { b with mappings := b.mappings - 1 }) fw.nextHandle

theorem Turn.idle : Turn fw none fw.blocks fw.nextHandle := by
  have hturn : Turn fw none (Blocks.modify fw.blocks 0 fun b => b) fw.nextHandle :=
    .quiet 0 fun _ => ⟨rfl, rfl, rfl⟩
  rwa [Blocks.modify_id] at hturn

/-- A request that is acted on. -/
theorem act_turn (h : BusSpace fw.blocks fw.nextHandle) {tag : Tag} {p : List UInt32}
    (hcount : fw.exhaustsLocks tag p = false) :
    Turn fw (entryOf tag p ((fw.act tag p).2.headD 0)) (fw.act tag p).1.blocks (fw.act tag p).1.nextHandle := by
  cases tag with
  | getFirmwareVersion => exact .idle
  | getOverscan => exact .idle
  | setCursorState => exact .idle
  | setCursorInfo =>
    have hnot : fw.added? .setCursorInfo p = none := rfl
    rw [act_blocks fw p (Or.inr (Or.inl rfl)), (act_of_not_added hnot).1]
    exact .idle
  | allocateMemory =>
    rw [act_allocateMemory]
    cases hadded : fw.added? .allocateMemory p with
    | none =>
      rw [added?, Option.map_eq_none_iff] at hadded
      simp only [act, allocate, hadded]
      exact .idle
    | some b =>
      obtain ⟨bus, hplace, rfl, hblocks, hnext⟩ := act_of_added hadded
      have hentry : entryOf .allocateMemory p fw.nextHandle = some (.allocated fw.nextHandle) := if_neg h.next
      rw [hblocks, hnext]
      show Turn fw (entryOf .allocateMemory p fw.nextHandle) _ _
      rw [hentry]
      exact .allocated hplace _
  | lockMemory =>
    simp only [act, lock]
    cases hfind : Blocks.find? fw.blocks (p.getD 0 0) with
    | none => exact .idle
    | some b =>
      obtain ⟨hb, hhandle⟩ := Blocks.mem_of_find? hfind
      have hentry : entryOf .lockMemory p b.bus = some (.locked b.handle) := by
        rw [hhandle]
        exact if_neg (h.laid b hb).bus_ne
      show Turn fw (entryOf .lockMemory p b.bus) _ _
      rw [hentry, ← hhandle]
      exact .locked hb (locks_ne_of_exhaustsLocks hfind hcount)
  | unlockMemory =>
    simp only [act, unlock]
    cases hfind : Blocks.find? fw.blocks (p.getD 0 0) with
    | none => exact .idle
    | some b =>
      obtain ⟨hb, hhandle⟩ := Blocks.mem_of_find? hfind
      dsimp only
      by_cases hlocked : b.isLocked = true
      · rw [if_pos hlocked, ← hhandle]
        show Turn fw (some (.unlocked (p.getD 0 0))) _ _
        rw [← hhandle]
        exact .unlocked hb (bne_iff_ne.1 hlocked)
      · rw [if_neg hlocked]
        exact .idle
  | releaseMemory =>
    simp only [act, release]
    cases hfind : Blocks.find? fw.blocks (p.getD 0 0) with
    | none => exact .idle
    | some b =>
      obtain ⟨hb, hhandle⟩ := Blocks.mem_of_find? hfind
      dsimp only
      by_cases hheld : (b.isLocked || b.mappings != 0) = true
      · rw [if_pos hheld]
        exact .idle
      · rw [if_neg hheld, ← hhandle]
        show Turn fw (some (.released (p.getD 0 0))) _ _
        rw [← hhandle]
        simp only [Block.isLocked, Bool.or_eq_true, bne_iff_ne, ne_eq, not_or, not_not] at hheld
        exact .released hb hheld.1 hheld.2

theorem exchange_turn (h : BusSpace fw.blocks fw.nextHandle) (m : Message) :
    Turn fw (fw.achieved? (.exchange m)) (fw.step (.exchange m)).blocks (fw.step (.exchange m)).nextHandle := by
  have hafter : fw.step (.exchange m) = _ := fw.exchange_device m
  rw [hafter, achieved?]
  cases haccepts : fw.accepts? m with
  | none => exact .idle
  | some r =>
    obtain ⟨-, -, -, -, -, hcount⟩ := accepts?_eq_some_iff.1 haccepts
    exact act_turn h hcount

theorem openWindow_turn (h : BusSpace fw.blocks fw.nextHandle) (bus : BusAddress) (len : UInt64) :
    Turn fw (fw.achieved? (.openWindow bus len)) (fw.step (.openWindow bus len)).blocks
      (fw.step (.openWindow bus len)).nextHandle := by
  rcases fw.openWindow_cases bus len with ⟨e, hresult, hafter⟩ | ⟨b, hfind, -, hresult, hafter⟩
  · simp only [achieved?, step, hresult, hafter]
    exact .idle
  have hb : b ∈ fw.blocks := List.mem_of_find?_eq_some hfind
  have hholds := List.find?_some hfind
  have hfound := windowBlock?_eq_some h.table hb
    (w := ⟨fw.id, b.start, b.size.toNat, bus.val.toNat - b.start, bus, len⟩) rfl rfl
  simp only [achieved?, step, hresult, hafter, holder, hfound]
  exact .mapped hb rfl (Window.on_of_holds hholds fw.id)

theorem closeWindow_turn (w : Window) :
    Turn fw (fw.achieved? (.closeWindow w)) (fw.step (.closeWindow w)).blocks (fw.step (.closeWindow w)).nextHandle := by
  rcases fw.closeWindow_cases w with ⟨e, hresult, hafter⟩ | ⟨b, hblock, hmappings, hresult, hafter⟩
  · simp only [achieved?, step, hresult, hafter]
    exact .idle
  · obtain ⟨hb, howner, hbase⟩ := of_windowBlock? hblock
    simp only [achieved?, step, hresult, hafter, holder, hblock]
    exact .unmapped hb howner hbase hmappings

theorem write_turn (w : Window) (offset : Nat) (bytes : List UInt8) :
    Turn fw none (fw.write w offset bytes).blocks (fw.write w offset bytes).nextHandle := by
  rw [write]
  cases fw.windowBlock? w with
  | none => exact .idle
  | some b => exact .quiet b.handle fun _ => ⟨rfl, rfl, rfl⟩

/-- **What a step can do**, and what it then achieves. -/
theorem step_turn (h : BusSpace fw.blocks fw.nextHandle) (s : Step) :
    Turn fw (fw.achieved? s) (fw.step s).blocks (fw.step s).nextHandle := by
  cases s with
  | exchange m => exact exchange_turn h m
  | openWindow bus len => exact openWindow_turn h bus len
  | closeWindow w => exact closeWindow_turn w
  | write w offset bytes => exact write_turn w offset bytes
  | set s =>
    rw [step, set_blocks, set_nextHandle]
    exact .idle

theorem step_id (fw : Firmware) (s : Step) : (fw.step s).id = fw.id := by
  cases s with
  | exchange m =>
    rw [step, exchange_device]
    cases fw.accepts? m with
    | none => rfl
    | some r => exact fw.act_id r.1 r.2
  | openWindow bus len => exact fw.openWindow_id bus len
  | closeWindow w => exact fw.closeWindow_id w
  | write w offset bytes => exact fw.write_id w offset bytes
  | set s => exact fw.set_id s

/-- A block that is mapped stays, in whatever turn. -/
theorem Turn.stays {e : Option Entry} {bs : List Block} {next : UInt32} (h : BusSpace fw.blocks fw.nextHandle)
    (hturn : Turn fw e bs next) (hnew : ∀ c ∈ fw.blocks, c.handle < fw.nextHandle) {b : Block} (hb : b ∈ fw.blocks)
    (hmapped : b.mappings ≠ 0) : ∃ c ∈ bs, c.site = b.site := by
  have hmodified {handle : UInt32} {f : Block → Block} (hf : ∀ b, (f b).site = b.site) :
      ∃ c ∈ Blocks.modify fw.blocks handle f, c.site = b.site :=
    ⟨_, Blocks.mem_modify.2 ⟨b, hb, rfl⟩, Blocks.site_modified hf b⟩
  cases hturn with
  | quiet handle hf => exact hmodified fun b => (hf b).1
  | allocated hplace flags =>
    rw [Blocks.insert_eq_append hnew]
    exact ⟨b, List.mem_append_left _ hb, rfl⟩
  | @released gone hgone hlocks hmappings =>
    refine ⟨b, Blocks.mem_erase.2 ⟨hb, fun hsame => hmapped ?_⟩, rfl⟩
    rw [h.table.eq_of_handle hb hgone hsame, hmappings]
  | locked => exact hmodified fun _ => rfl
  | unlocked => exact hmodified fun _ => rfl
  | mapped => exact hmodified fun _ => rfl
  | unmapped => exact hmodified fun _ => rfl

/-! ## The bus space over a run -/

theorem Turn.busSpace {e : Option Entry} {bs : List Block} {next : UInt32} (h : BusSpace fw.blocks fw.nextHandle)
    (hturn : Turn fw e bs next) : BusSpace bs next := by
  cases hturn with
  | quiet handle hf => exact h.modify handle fun b => (hf b).1
  | allocated hplace flags =>
    exact h.insert (handleAfter_ne_zero _) (isLaid_newBlock hplace flags h.next) fun b hb =>
      apart_newBlock hplace flags hb
  | released => exact h.erase _
  | locked => exact h.modify _ fun _ => rfl
  | unlocked => exact h.modify _ fun _ => rfl
  | mapped => exact h.modify _ fun _ => rfl
  | unmapped => exact h.modify _ fun _ => rfl

theorem step_busSpace (h : BusSpace fw.blocks fw.nextHandle) (s : Step) :
    BusSpace (fw.step s).blocks (fw.step s).nextHandle :=
  (step_turn h s).busSpace h

theorem busSpace_fresh (id : Nat) : BusSpace (fresh id).blocks (fresh id).nextHandle :=
  BusSpace.nil (show (1 : UInt32) ≠ 0 by decide)

theorem run_keeps_busSpace (h : BusSpace fw.blocks fw.nextHandle) (steps : List Step) :
    BusSpace (fw.run steps).blocks (fw.run steps).nextHandle := by
  induction steps generalizing fw with
  | nil => exact h
  | cons s steps ih => exact ih (step_busSpace h s)

/-- **The bus space is in order, whatever was done to the firmware.** After any messages, windows opened and closed, writes and
changes of settings: every live block is named, not empty, and lies in whole granules inside the bus window, the granules of
no two blocks meet, and the next handle is one. So a window that is not empty lies inside one block at most. -/
theorem run_busSpace (id : Nat) (steps : List Step) :
    BusSpace ((fresh id).run steps).blocks ((fresh id).run steps).nextHandle ∧
      ∀ bus len, 0 < len → ∀ a ∈ ((fresh id).run steps).blocks, ∀ b ∈ ((fresh id).run steps).blocks,
        a.holds bus len = true → b.holds bus len = true → a = b := by
  have hspace := run_keeps_busSpace (busSpace_fresh id) steps
  exact ⟨hspace, fun bus len hlen a ha b hb => hspace.unique hlen ha hb⟩

end Firmware
end MailboxCursor
