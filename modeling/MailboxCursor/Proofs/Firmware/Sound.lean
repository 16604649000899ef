/-
The invariant between the emulated firmware and the flat memory beside it.

`Sound` ties the two together for given live windows: every block shows the flat memory at its own place, every live window
lies in a block that is held for it, and no block lies over another. Each step of a device keeps it: `Sound.exchange`,
`Sound.openWindow`, `Sound.closeWindow` and `Sound.write`.

What a live window shows is `Sound.read`, what the firmware captures for a picture is the field `picture`.
-/
import MailboxCursor.Proofs.Firmware.Mirror

namespace MailboxCursor

structure Sound (d : Mirror) (live : List Window) : Prop where
  table : Table d.firmware.blocks d.allocations
  next : d.firmware.nextHandle.toNat = d.allocations + 1
  /-- every block shows the flat memory at its own place -/
  same : ∀ b ∈ d.firmware.blocks, ∀ i < b.size.toNat, b.memory.byte i = d.flat (b.start + i)
  placed : ∀ w ∈ live, w.owner = d.firmware.id → ∃ b ∈ d.firmware.blocks, w.On b
  counted : ∀ b ∈ d.firmware.blocks, live.countP (Window.isOnto d.firmware.id b) ≤ b.mappings
  picture : d.firmware.cursorImage = d.picture

namespace Sound

variable {d d' : Mirror} {live : List Window} {w : Window}

theorem fresh (id : Nat) (live : List Window) (h : ∀ w ∈ live, w.owner ≠ id) : Sound (Mirror.fresh id) live where
  table := Table.nil 0
  next := rfl
  same := by rintro _ ⟨⟩
  placed w hw howner := absurd howner (h w hw)
  counted := by rintro _ ⟨⟩
  picture := rfl

/-! ### Windows that come and go elsewhere -/

theorem perm {live' : List Window} (h : Sound d live) (hperm : live.Perm live') : Sound d live' :=
  { h with
    placed := fun w hw => h.placed w (hperm.mem_iff.2 hw)
    counted := fun b hb => by
      rw [← hperm.countP_eq]
      exact h.counted b hb }

theorem drop (h : Sound d (w :: live)) : Sound d live :=
  { h with
    placed := fun w' hw => h.placed w' (List.mem_cons_of_mem w hw)
    counted := fun b hb => (List.sublist_cons_self w live).countP_le.trans (h.counted b hb) }

theorem add (h : Sound d live) (howner : w.owner ≠ d.firmware.id) : Sound d (w :: live) :=
  { h with
    placed := fun w' hw howner' => by
      rcases List.mem_cons.1 hw with rfl | hw
      · exact absurd howner' howner
      · exact h.placed w' hw howner'
    counted := fun b hb => by
      have hnot : ¬Window.isOnto d.firmware.id b w = true := fun honto => howner (Window.isOnto_iff.1 honto).1
      rw [List.countP_cons_of_neg hnot]
      exact h.counted b hb }

/-! ### What windows show -/

/-- **A live window shows the flat memory** at its bus address. -/
theorem read (h : Sound d live) (hw : w ∈ live) (howner : w.owner = d.firmware.id) :
    d.firmware.read w = d.view w := by
  obtain ⟨b, hb, hon⟩ := h.placed w hw howner
  have hfits := hon.fits
  rw [Firmware.read, Firmware.windowBlock?_eq_some h.table hb howner hon.base]
  refine Flat.read_eq_bytes fun k hk => ?_
  rw [h.same b hb (w.offset + k) (by omega), hon.bus, Nat.add_assoc]

/-- Windows onto different blocks lie one behind the other. -/
theorem apart {w' : Window} (h : Sound d live) (hw : w ∈ live) (hw' : w' ∈ live) (howner : w.owner = d.firmware.id)
    (howner' : w'.owner = d.firmware.id) (hbase : w.base ≠ w'.base) :
    w.bus.val.toNat + w.len.toNat ≤ w'.bus.val.toNat ∨ w'.bus.val.toNat + w'.len.toNat ≤ w.bus.val.toNat := by
  obtain ⟨b, hb, hon⟩ := h.placed w hw howner
  obtain ⟨b', hb', hon'⟩ := h.placed w' hw' howner'
  have hapart := h.table.apart_of_start hb hb' (by rw [← hon.base, ← hon'.base]; exact hbase)
  have hfits := hon.fits
  have hfits' := hon'.fits
  have hbus := hon.bus
  have hbus' := hon'.bus
  simp only [Block.stop] at hapart
  omega

/-! ### Blocks that change where they are -/

/-- A block that keeps its place may change its bytes and its counts, as far as the flat memory and the live windows agree. -/
theorem modify (h : Sound d live) {live' : List Window} {handle : UInt32} {f : Block → Block}
    (hsite : ∀ b, (f b).site = b.site) (hblocks : d'.firmware.blocks = Blocks.modify d.firmware.blocks handle f)
    (hid : d'.firmware.id = d.firmware.id) (hnext : d'.firmware.nextHandle = d.firmware.nextHandle)
    (hallocations : d'.allocations = d.allocations) (hpicture : d'.firmware.cursorImage = d'.picture)
    (hsame : ∀ b ∈ d.firmware.blocks, ∀ i < b.size.toNat,
      (if b.handle = handle then f b else b).memory.byte i = d'.flat (b.start + i))
    (hplaced : ∀ w ∈ live', w.owner = d.firmware.id → ∃ b ∈ d.firmware.blocks, w.On b)
    (hcounted : ∀ b ∈ d.firmware.blocks,
      live'.countP (Window.isOnto d.firmware.id b) ≤ (if b.handle = handle then f b else b).mappings) :
    Sound d' live' := by
  have hkept (b : Block) : (if b.handle = handle then f b else b).site = b.site := Blocks.site_modified hsite b
  refine ⟨?_, by rw [hnext, hallocations, h.next], ?_, ?_, ?_, hpicture⟩
  · rw [hblocks, hallocations]
    exact h.table.modify handle hsite
  · intro c hc i hi
    rw [hblocks] at hc
    obtain ⟨b, hb, rfl⟩ := Blocks.mem_modify.1 hc
    rw [Block.size_of_site (hkept b)] at hi
    rw [Block.start_of_site (hkept b)]
    exact hsame b hb i hi
  · intro w hw howner
    rw [hid] at howner
    obtain ⟨b, hb, hon⟩ := hplaced w hw howner
    exact ⟨_, by rw [hblocks]; exact Blocks.mem_modify.2 ⟨b, hb, rfl⟩, hon.congr (hkept b)⟩
  · intro c hc
    rw [hblocks] at hc
    obtain ⟨b, hb, rfl⟩ := Blocks.mem_modify.1 hc
    rw [hid, Window.isOnto_of_site (hkept b)]
    exact hcounted b hb

/-- Locks take no part. -/
theorem relock (h : Sound d live) {handle : UInt32} {f : Block → Block} (hf : Firmware.IsRelock f)
    (hblocks : d'.firmware.blocks = Blocks.modify d.firmware.blocks handle f) (hid : d'.firmware.id = d.firmware.id)
    (hnext : d'.firmware.nextHandle = d.firmware.nextHandle) (hallocations : d'.allocations = d.allocations)
    (hflat : d'.flat = d.flat) (hpicture : d'.firmware.cursorImage = d'.picture) : Sound d' live := by
  refine h.modify (fun b => (hf b).1) hblocks hid hnext hallocations hpicture ?_ h.placed ?_
  · intro b hb i hi
    rw [hflat, ← h.same b hb i hi]
    split_ifs
    · rw [(hf b).2.1]
    · rfl
  · intro b hb
    refine (h.counted b hb).trans (le_of_eq ?_)
    split_ifs
    · exact (hf b).2.2.symm
    · rfl

/-- What takes no part in the invariant at all. -/
theorem congr (h : Sound d live) (hblocks : d'.firmware.blocks = d.firmware.blocks)
    (hid : d'.firmware.id = d.firmware.id) (hnext : d'.firmware.nextHandle = d.firmware.nextHandle)
    (hallocations : d'.allocations = d.allocations) (hflat : d'.flat = d.flat)
    (hpicture : d'.firmware.cursorImage = d'.picture) : Sound d' live :=
  h.relock (fun _ => ⟨rfl, rfl, rfl⟩) (hblocks.trans (Blocks.modify_id _ 0).symm) hid hnext hallocations hflat hpicture

/-! ### Messages -/

/-- What a geometry shows of its block is what the flat memory holds at its bus address. -/
theorem imageOn (h : Sound d live) {g : CursorGeometry} {b : Block} (hfound : d.firmware.imageBlock? g = some b) :
    Firmware.imageOn b g = wordsOfBytes (d.flat.bytes g.bus.val.toNat g.imageBytes) := by
  obtain ⟨hb, -, hholds⟩ := Firmware.mem_of_imageBlock? hfound
  obtain ⟨hstart, hstop⟩ := Block.holds_iff.1 hholds
  refine congrArg wordsOfBytes (Flat.read_eq_bytes fun k hk => ?_)
  simp only [Block.stop] at hstop
  have hplace : g.bus.val.toNat - b.start + k < b.size.toNat := by omega
  rw [h.same b hb _ hplace]
  congr 1
  omega

/-- **A captured picture is the words of the flat memory** at its bus address. -/
theorem cursorImage_act (h : Sound d live) (tag : Tag) (p : List UInt32) (fw : Firmware) :
    (d.firmware.act tag p).1.cursorImage = (d.heard tag p fw).picture := by
  rw [Mirror.heard_picture]
  by_cases htag : tag = .setCursorInfo
  swap
  · rw [Firmware.act_cursorImage _ p htag, if_neg fun hboth => htag hboth.1]
    exact h.picture
  subst htag
  have hact : d.firmware.act .setCursorInfo p =
      ((d.firmware.setCursorGeometry ⟨p.getD 0 0, p.getD 1 0, p.getD 2 0, ⟨p.getD 3 0⟩, p.getD 4 0, p.getD 5 0⟩).1,
        [(d.firmware.setCursorGeometry ⟨p.getD 0 0, p.getD 1 0, p.getD 2 0, ⟨p.getD 3 0⟩, p.getD 4 0, p.getD 5 0⟩).2]) := rfl
  rw [hact, Firmware.setCursorGeometry_eq]
  cases hfound : d.firmware.imageBlock? ⟨p.getD 0 0, p.getD 1 0, p.getD 2 0, ⟨p.getD 3 0⟩, p.getD 4 0, p.getD 5 0⟩ with
  | none =>
    rw [if_neg (by simp [Firmware.statusError, Firmware.statusOk])]
    exact h.picture
  | some b =>
    rw [if_pos ⟨rfl, rfl⟩]
    exact congrArg some (h.imageOn hfound)

/-- A block goes only if no live window lies in it, since each would count as a mapping of it. -/
theorem erase (h : Sound d live) {handle : UInt32} {gone : Block}
    (hfind : Blocks.find? d.firmware.blocks handle = some gone) (hunmapped : gone.mappings = 0)
    (hblocks : d'.firmware.blocks = Blocks.erase d.firmware.blocks handle) (hid : d'.firmware.id = d.firmware.id)
    (hnext : d'.firmware.nextHandle = d.firmware.nextHandle) (hallocations : d'.allocations = d.allocations)
    (hflat : d'.flat = d.flat) (hpicture : d'.firmware.cursorImage = d'.picture) : Sound d' live := by
  obtain ⟨hgone, hhandle⟩ := Blocks.mem_of_find? hfind
  have hmem {b : Block} : b ∈ d'.firmware.blocks ↔ b ∈ d.firmware.blocks ∧ b.handle ≠ handle := by
    rw [hblocks, Blocks.mem_erase]
  refine ⟨?_, ?_, ?_, ?_, ?_, hpicture⟩
  · rw [hallocations, hblocks]
    exact h.table.erase handle
  · rw [hallocations, hnext, h.next]
  · intro b hb i hi
    rw [hflat]
    exact h.same b (hmem.1 hb).1 i hi
  · intro w hw howner
    rw [hid] at howner
    obtain ⟨b, hb, hon⟩ := h.placed w hw howner
    refine ⟨b, hmem.2 ⟨hb, ?_⟩, hon⟩
    intro hsame
    obtain rfl := h.table.eq_of_handle hb hgone (hsame.trans hhandle.symm)
    have hpositive := List.countP_pos_iff.2 ⟨w, hw, Window.isOnto_iff.2 ⟨howner, hon.base⟩⟩
    have hcounted := h.counted b hb
    omega
  · intro b hb
    rw [hid]
    exact h.counted b (hmem.1 hb).1

/-- No live window lies where there is no block. -/
theorem countP_isOnto_eq_zero (h : Sound d live) {new : Block} (hfilled : 0 < new.size.toNat)
    (hapart : ∀ b ∈ d.firmware.blocks, b.stop ≤ new.start ∨ new.stop ≤ b.start) :
    live.countP (Window.isOnto d.firmware.id new) = 0 := by
  rw [List.countP_eq_zero]
  intro w hw honto
  obtain ⟨howner, hbase⟩ := Window.isOnto_iff.1 honto
  obtain ⟨b, hb, hon⟩ := h.placed w hw howner
  have hapart := hapart b hb
  have hfilled' := h.table.filled b hb
  have hbase' := hon.base
  simp only [Block.stop] at hapart
  omega

/-- A new block shows what the flat memory was filled with, and no live window lies in it. -/
theorem push (h : Sound d live) {new : Block} {fill : UInt8} (hhandle : new.handle = d.firmware.nextHandle)
    (hfilled : 0 < new.size.toNat) (hwithin : new.stop ≤ busEnd)
    (hapart : ∀ b ∈ d.firmware.blocks, b.stop ≤ new.start ∨ new.stop ≤ b.start) (hmemory : new.memory = .fresh fill)
    (hblocks : d'.firmware.blocks = Blocks.insert new d.firmware.blocks) (hid : d'.firmware.id = d.firmware.id)
    (hnext : d'.firmware.nextHandle = Firmware.handleAfter d.firmware.nextHandle)
    (hallocations : d'.allocations = d.allocations + 1) (hfew : d.allocations + 1 < 2 ^ 32 - 1)
    (hflat : d'.flat = d.flat.fill new.start new.size.toNat fill) (hpicture : d'.firmware.cursorImage = d'.picture) :
    Sound d' live := by
  have hnumber : new.handle.toNat = d.allocations + 1 := by rw [hhandle, h.next]
  have happend : d'.firmware.blocks = d.firmware.blocks ++ [new] := by
    rw [hblocks]
    apply Blocks.insert_eq_append
    intro c hc
    have := h.table.numbered c hc
    rw [UInt32.lt_iff_toNat_lt]
    omega
  have hmem {b : Block} : b ∈ d'.firmware.blocks ↔ b ∈ d.firmware.blocks ∨ b = new := by
    rw [happend, List.mem_append, List.mem_singleton]
  refine ⟨?_, ?_, ?_, ?_, ?_, hpicture⟩
  · rw [happend, hallocations]
    exact h.table.push hnumber hfilled hwithin hapart
  · have hnumber := h.next
    rw [hnext, Firmware.toNat_handleAfter (by omega), h.next, hallocations]
  · intro b hb i hi
    rw [hflat]
    rcases hmem.1 hb with hb | rfl
    · have hapart := hapart b hb
      simp only [Block.stop] at hapart
      rw [Flat.fill_of_outside (by omega)]
      exact h.same b hb i hi
    · rw [hmemory, Memory.byte_fresh, Flat.fill, if_pos (by omega)]
  · intro w hw howner
    rw [hid] at howner
    obtain ⟨b, hb, hon⟩ := h.placed w hw howner
    exact ⟨b, hmem.2 (Or.inl hb), hon⟩
  · intro b hb
    rw [hid]
    rcases hmem.1 hb with hb | rfl
    · exact h.counted b hb
    · rw [h.countP_isOnto_eq_zero hfilled hapart]
      exact Nat.zero_le _

/-- A request keeps the invariant, as long as the handles have not come round. -/
theorem heard (h : Sound d live) (tag : Tag) (p : List UInt32) (m : Message)
    (hyoung : (d.heard tag p ((d.firmware.act tag p).1.logRequest m)).IsYoung) :
    Sound (d.heard tag p ((d.firmware.act tag p).1.logRequest m)) live := by
  have hpicture := h.cursorImage_act tag p ((d.firmware.act tag p).1.logRequest m)
  have hid : ((d.firmware.act tag p).1.logRequest m).id = d.firmware.id := d.firmware.act_id tag p
  cases hadded : d.firmware.added? tag p with
  | none =>
    obtain ⟨hflat, hallocations⟩ := Mirror.heard_of_not_added hadded ((d.firmware.act tag p).1.logRequest m)
    obtain ⟨hnext, ⟨handle, f, hf, hblocks⟩ | ⟨handle, gone, hfind, hunmapped, hblocks⟩⟩ :=
      Firmware.act_of_not_added hadded
    · exact h.relock hf hblocks hid hnext hallocations hflat hpicture
    · exact h.erase hfind hunmapped hblocks hid hnext hallocations hflat hpicture
  | some new =>
    obtain ⟨hflat, hallocations⟩ := Mirror.heard_of_added hadded ((d.firmware.act tag p).1.logRequest m)
    obtain ⟨bus, hplace, rfl, hblocks, hnext⟩ := Firmware.act_of_added hadded
    obtain ⟨hfilled, hwithin, hapart⟩ := Firmware.place?_eq_some hplace
    have hstop : (d.firmware.newBlock bus (p.getD 0 0) ⟨p.getD 2 0⟩).stop ≤ busEnd := hwithin
    rw [Mirror.IsYoung, hallocations] at hyoung
    exact h.push rfl hfilled hstop hapart rfl hblocks hid hnext hallocations hyoung hflat hpicture

/-- A message keeps the invariant, whatever it is. -/
theorem exchange (h : Sound d live) (m : Message) (hyoung : (Device.exchange d m).device.IsYoung) :
    Sound (Device.exchange d m).device live := by
  rcases d.exchange_cases m with ⟨tag, p, -, hafter⟩ | hafter
  · rw [hafter] at hyoung ⊢
    exact h.heard tag p m hyoung
  · rw [hafter]
    exact h.congr rfl rfl rfl rfl rfl h.picture

/-- No message changes what a live window shows. -/
theorem exchange_view (h : Sound d live) (m : Message) (hw : w ∈ live) (howner : w.owner = d.firmware.id) :
    (Device.exchange d m).device.view w = d.view w := by
  obtain ⟨b, hb, hon⟩ := h.placed w hw howner
  have hfits := hon.fits
  refine Flat.bytes_congr fun k hk => ?_
  rw [hon.bus, Nat.add_assoc]
  rcases d.exchange_cases m with ⟨tag, p, -, hafter⟩ | hafter
  · rw [hafter]
    exact d.heard_flat tag p _ hb (by omega)
  · rw [hafter]

/-! ### Windows -/

/-- A window that is opened is live from then on. -/
theorem openWindow (h : Sound d live) {bus : BusAddress} {len : UInt64}
    (hok : (Device.openWindow d bus len).result = .ok w) :
    w.owner = d.firmware.id ∧ Sound (Device.openWindow d bus len).device (w :: live) := by
  rcases d.firmware.openWindow_cases bus len with ⟨e, hresult, -⟩ | ⟨b, hfind, -, hresult, hafter⟩
  · cases hok.symm.trans hresult
  obtain rfl := Except.ok.inj (hok.symm.trans hresult)
  have hb : b ∈ d.firmware.blocks := List.mem_of_find?_eq_some hfind
  have hholds := List.find?_some hfind
  refine ⟨rfl, ?_⟩
  have hdevice : (Device.openWindow d bus len).device.firmware = (d.firmware.openWindow bus len).device := rfl
  refine h.modify (f := fun b => { b with mappings := b.mappings + 1 }) (fun _ => rfl) (by rw [hdevice, hafter])
    (by rw [hdevice, hafter]) (by rw [hdevice, hafter]) rfl (by rw [hdevice, hafter]; exact h.picture) ?_ ?_ ?_
  · intro c hc i hi
    split_ifs
    · exact h.same c hc i hi
    · exact h.same c hc i hi
  · intro w hw howner
    rcases List.mem_cons.1 hw with rfl | hw
    · exact ⟨b, hb, Window.on_of_holds hholds d.firmware.id⟩
    · exact h.placed w hw howner
  · intro c hc
    have hcounted := h.counted c hc
    by_cases hsame : c.handle = b.handle
    · -- the block has one live window more, and one mapping more
      rw [if_pos hsame]
      exact List.countP_cons.trans_le (Nat.add_le_add hcounted (by split_ifs <;> omega))
    · rw [if_neg hsame]
      have hother : ¬Window.isOnto d.firmware.id c
          ⟨d.firmware.id, b.start, b.size.toNat, bus.val.toNat - b.start, bus, len⟩ = true := by
        intro honto
        obtain ⟨-, hbase⟩ := Window.isOnto_iff.1 honto
        exact hsame (congrArg Block.handle (h.table.eq_of_start hc hb hbase.symm))
      rw [List.countP_cons_of_neg hother]
      exact hcounted

/-- A window that is closed, by whichever device, is live no more. -/
theorem closeWindow (h : Sound d (w :: live)) : Sound (Device.closeWindow d w).device live := by
  have hdevice : (Device.closeWindow d w).device.firmware = (d.firmware.closeWindow w).device := rfl
  rcases d.firmware.closeWindow_cases w with ⟨e, -, hafter⟩ | ⟨b, hblock, -, -, hafter⟩
  · exact h.drop.congr (by rw [hdevice, hafter]) (by rw [hdevice, hafter]) (by rw [hdevice, hafter]) rfl rfl
      (by rw [hdevice, hafter]; exact h.picture)
  · obtain ⟨hb, howner, hbase⟩ := Firmware.of_windowBlock? hblock
    refine h.drop.modify (f := fun b => { b with mappings := b.mappings - 1 }) (fun _ => rfl) (by rw [hdevice, hafter])
      (by rw [hdevice, hafter]) (by rw [hdevice, hafter]) rfl (by rw [hdevice, hafter]; exact h.picture) ?_ h.drop.placed ?_
    · intro c hc i hi
      split_ifs
      · exact h.same c hc i hi
      · exact h.same c hc i hi
    · intro c hc
      by_cases hsame : c.handle = b.handle
      · -- the block loses one mapping, and the window that it was counted for
        obtain rfl := h.table.eq_of_handle hc hb hsame
        have honto : Window.isOnto d.firmware.id c w = true := Window.isOnto_iff.2 ⟨howner, hbase⟩
        have hcounted := h.counted c hc
        rw [List.countP_cons_of_pos honto] at hcounted
        rw [if_pos rfl]
        exact Nat.le_sub_one_of_lt hcounted
      · rw [if_neg hsame]
        exact h.drop.counted c hc

/-- What is written through a live window is written to the flat memory. -/
theorem write (h : Sound d live) (hw : w ∈ live) (howner : w.owner = d.firmware.id) {offset : Nat} {bytes : List UInt8}
    (hfits : bytes.length ≤ w.len.toNat - offset) : Sound (Device.write d w offset bytes) live := by
  obtain ⟨b, hb, hon⟩ := h.placed w hw howner
  have hon_fits := hon.fits
  have hafter : (Device.write d w offset bytes).firmware =
      { d.firmware with
        blocks := Blocks.modify d.firmware.blocks b.handle fun b =>
          { b with memory := b.memory.write (w.offset + offset) bytes } } := by
    show d.firmware.write w offset bytes = _
    rw [Firmware.write, Firmware.windowBlock?_eq_some h.table hb howner hon.base]
  refine h.modify (f := fun b => { b with memory := b.memory.write (w.offset + offset) bytes }) (fun _ => rfl)
    (by rw [hafter]) (by rw [hafter]) (by rw [hafter]) rfl (by rw [hafter]; exact h.picture) ?_ h.placed ?_
  · intro c hc i hi
    show _ = d.flat.put (w.bus.val.toNat + offset) bytes (c.start + i)
    rw [hon.bus]
    by_cases hsame : c.handle = b.handle
    · obtain rfl := h.table.eq_of_handle hc hb hsame
      rw [if_pos rfl, Memory.byte_write, Flat.put]
      by_cases hin : w.offset + offset ≤ i ∧ i < w.offset + offset + bytes.length
      · rw [if_pos hin, if_pos (by omega)]
        congr 1
        omega
      · rw [if_neg hin, if_neg (by omega)]
        exact h.same c hc i hi
    · -- the bytes that are written lie inside the window's block, so beside any other
      have hapart := h.table.apart_of_ne hc hb fun heq => hsame (congrArg Block.handle heq)
      simp only [Block.stop] at hapart
      rw [if_neg hsame, Flat.put_of_outside (by omega)]
      exact h.same c hc i hi
  · intro c hc
    refine (h.counted c hc).trans (le_of_eq ?_)
    split_ifs <;> rfl

end Sound
end MailboxCursor
