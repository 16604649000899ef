/-
The memory of a bench of emulated devices is one flat memory for each device.

`bench_refines`: after any deeds at devices that nobody has used, as long as no device has allocated so often that its handles
come round, what the firmware shows is what the flat memories hold. `Refines` says so in full: what a live window reads
(`reads`), what is captured for a picture (`accepted`, `captured`), that no deed but a write changes what a live window reads
(`quiet`), and where a write shows (`shared`) and where it does not (`separate`).

`Kept` is what is followed through a run, for each device: the invariant `Sound`, and that certain windows still show what
they showed. Each single step keeps it (`Kept.exchange`, `Kept.openWindow`, `Kept.closeWindow`, `Kept.write`), so each deed
does (`act_kept`, `act_write_kept`), so every run does (`run_kept`).
-/
import MailboxCursor.Proofs.Firmware.Bench
import MailboxCursor.Proofs.Firmware.Sound

namespace MailboxCursor

/-- What a write through a window takes of the bytes fits into the window. -/
theorem Window.length_take_room_le (w : Window) (offset : Nat) (bytes : List UInt8) :
    (bytes.take (w.room offset bytes.length)).length ≤ w.len.toNat - offset :=
  (List.length_take_le _ _).trans (Nat.min_le_right _ _)

/-! ## What one device keeps -/

/-- The device `n` is sound for the windows `live`, and shows what `v` says through those of `old` that it opened. -/
structure Kept (n : Nat) (live old : List Window) (v : Window → List UInt8) (d : Mirror) : Prop where
  id : d.firmware.id = n
  sound : d.IsYoung → Sound d live
  shown : d.IsYoung → ∀ w ∈ old, w.owner = n → d.view w = v w

namespace Kept

variable {n : Nat} {live live' old : List Window} {v : Window → List UInt8} {d : Mirror} {w : Window}

theorem perm (h : Kept n live old v d) (hperm : live.Perm live') : Kept n live' old v d :=
  { h with sound := fun hyoung => (h.sound hyoung).perm hperm }

theorem drop (h : Kept n (w :: live) old v d) : Kept n live old v d :=
  { h with sound := fun hyoung => (h.sound hyoung).drop }

theorem add (h : Kept n live old v d) (howner : w.owner ≠ n) : Kept n (w :: live) old v d :=
  { h with sound := fun hyoung => (h.sound hyoung).add (by rw [h.id]; exact howner) }

theorem adjust (h : Kept n live old v d) (s : Firmware.Setting) : Kept n live old v (Adjustable.adjust d s) where
  id := (d.firmware.set_id s).trans h.id
  sound hyoung :=
    have hsound := h.sound hyoung
    hsound.congr (d.firmware.set_blocks s) (d.firmware.set_id s) (d.firmware.set_nextHandle s) rfl rfl
      ((d.firmware.set_cursorImage s).trans hsound.picture)
  shown := h.shown

theorem exchange (h : Kept n live old v d) (hold : old ⊆ live) (m : Message) :
    Kept n live old v (Device.exchange d m).device := by
  have hbefore : (Device.exchange d m).device.IsYoung → d.IsYoung := lt_of_le_of_lt (d.exchange_allocations m).1
  refine ⟨(d.exchange_id m).trans h.id, ?_, ?_⟩
  · intro hyoung
    exact (h.sound (hbefore hyoung)).exchange m hyoung
  · intro hyoung w hw howner
    have hsound := h.sound (hbefore hyoung)
    rw [hsound.exchange_view m (hold hw) (by rw [howner, h.id])]
    exact h.shown (hbefore hyoung) w hw howner

theorem exchanges (hold : old ⊆ live) (tag : Tag) : Link.Keeps (Kept n live old v) tag :=
  fun _ m _ h => h.exchange hold m

theorem openWindow (h : Kept n live old v d) {bus : BusAddress} {len : UInt64}
    (hok : (Device.openWindow d bus len).result = .ok w) :
    w.owner = n ∧ Kept n (w :: live) old v (Device.openWindow d bus len).device := by
  refine ⟨?_, (d.firmware.openWindow_id bus len).trans h.id, fun hyoung => ((h.sound hyoung).openWindow hok).2, h.shown⟩
  rcases d.firmware.openWindow_cases bus len with ⟨e, hresult, -⟩ | ⟨b, -, -, hresult, -⟩
  · cases hok.symm.trans hresult
  · obtain rfl := Except.ok.inj (hok.symm.trans hresult)
    exact h.id

/-- A window that is refused changes nothing. -/
theorem refuseWindow (h : Kept n live old v d) {bus : BusAddress} {len : UInt64} {e : MailboxError}
    (herror : (Device.openWindow d bus len).result = .error e) :
    Kept n live old v (Device.openWindow d bus len).device := by
  rcases d.firmware.openWindow_cases bus len with ⟨e', -, hafter⟩ | ⟨b, -, -, hresult, -⟩
  · have hsame : (Device.openWindow d bus len).device = d := by
      show { d with firmware := (d.firmware.openWindow bus len).device } = d
      rw [hafter]
    rw [hsame]
    exact h
  · cases herror.symm.trans hresult

theorem openWindow_keeps (h : Kept n live old v d) (bus : BusAddress) (len : UInt64) :
    Kept n live old v (Device.openWindow d bus len).device := by
  cases hresult : (Device.openWindow d bus len).result with
  | error e => exact h.refuseWindow hresult
  | ok w => exact (h.openWindow hresult).2.drop

theorem closeWindow (h : Kept n (w :: live) old v d) : Kept n live old v (Device.closeWindow d w).device where
  id := (d.firmware.closeWindow_id w).trans h.id
  sound hyoung := (h.sound hyoung).closeWindow
  shown := h.shown

theorem write (h : Kept n live [] v d) (hw : w ∈ live) (howner : w.owner = n) {offset : Nat} {bytes : List UInt8}
    (hfits : bytes.length ≤ w.len.toNat - offset) : Kept n live [] v (Device.write d w offset bytes) where
  id := (d.firmware.write_id w offset bytes).trans h.id
  sound hyoung := (h.sound hyoung).write hw (by rw [howner, h.id]) hfits
  shown := by rintro - _ ⟨⟩

/-! ### Blocks as a whole -/

variable {l l' : Link Mirror} {size alignment : UInt32} {flags : AllocFlags} {block : GpuBlock}

theorem acquire (h : Kept n live old v l.device) (hold : old ⊆ live)
    (hok : l.acquire size alignment flags = (.ok block, l')) :
    block.window.owner = n ∧ Kept n (block.window :: live) old v l'.device := by
  have h₁ : Kept n live old v (l.allocate size alignment flags).2.device := Link.allocate_keeps (exchanges hold _) h
  rcases Link.acquire_cases l size alignment flags with
    ⟨e, l₁, e₁, e₂⟩ | ⟨b, l₁, e, l₂, e₁, e₂, e₃⟩ | ⟨b, l₁, bus, l₂, e, l₃, e₁, e₂, e₃, e₄⟩ |
      ⟨b, l₁, bus, l₂, w, l₃, event, e₁, e₂, e₃, e₄⟩
  · cases e₂.symm.trans hok
  · cases e₃.symm.trans hok
  · cases e₄.symm.trans hok
  obtain ⟨hblock, rfl⟩ := Prod.mk.inj (e₄.symm.trans hok)
  obtain rfl := Except.ok.inj hblock
  rw [e₁] at h₁
  have h₂ : Kept n live old v (l₁.lock b).2.device := Link.lock_keeps (exchanges hold _) h₁
  rw [e₂] at h₂
  obtain ⟨hresult, hafter⟩ := Prod.mk.inj e₃
  rw [Link.note_device, ← hafter]
  exact h₂.openWindow hresult

theorem acquire_keeps (h : Kept n live old v l.device) (hold : old ⊆ live) (size alignment : UInt32)
    (flags : AllocFlags) : Kept n live old v (l.acquire size alignment flags).2.device :=
  Link.acquire_keeps (exchanges hold _) (exchanges hold _) (exchanges hold _)
    (fun _ bus len hd => hd.openWindow_keeps bus len) (Link.allocate_keeps (exchanges hold _) h)

theorem release (h : Kept n (block.window :: live) old v l.device) (hold : old ⊆ live) :
    Kept n live old v (l.release block).2.device :=
  Link.release_keeps (exchanges hold _) (exchanges hold _) h.closeWindow

end Kept

/-! ## What a bench keeps -/

namespace Bench

/-- every device of the bench keeps what it is to keep -/
def Kept (b : Bench Mirror) (old : List Window) (v : Window → List UInt8) : Prop :=
  ∀ n, MailboxCursor.Kept n b.live old v (b.links n).device

variable {b : Bench Mirror} {old : List Window} {v : Window → List UInt8}

/-- A deed at one device, seen by that device and by the others. -/
theorem kept_put {n : Nat} {l : Link Mirror} {windows : List Window} {blocks : List GpuBlock}
    (hself : MailboxCursor.Kept n (windows ++ blocks.map GpuBlock.window) old v l.device)
    (hother : ∀ k, k ≠ n → MailboxCursor.Kept k (windows ++ blocks.map GpuBlock.window) old v (b.links k).device) :
    Kept ⟨(b.put n l).links, windows, blocks⟩ old v := by
  intro k
  by_cases hk : k = n
  · subst hk
    rw [put_links_self]
    exact hself
  · rw [put_links_of_ne b l hk]
    exact hother k hk

/-- A deed that changes one device, and nothing about which windows are live. -/
theorem Kept.put (h : b.Kept old v) {n : Nat} {l : Link Mirror}
    (hself : MailboxCursor.Kept n b.live old v l.device) : (b.put n l).Kept old v :=
  kept_put hself fun k _ => h k

/-- The windows that are live, with one of them in front. -/
theorem live_perm_of_windows {i : Nat} {w : Window} (h : b.windows[i]? = some w) :
    b.live.Perm (w :: (b.windows.eraseIdx i ++ b.blocks.map GpuBlock.window)) := by
  obtain ⟨hi, rfl⟩ := List.getElem?_eq_some_iff.1 h
  exact (List.getElem_cons_eraseIdx_perm hi).symm.append_right _

theorem live_perm_of_blocks {i : Nat} {block : GpuBlock} (h : b.blocks[i]? = some block) :
    b.live.Perm (block.window :: (b.windows ++ (b.blocks.eraseIdx i).map GpuBlock.window)) := by
  obtain ⟨hi, rfl⟩ := List.getElem?_eq_some_iff.1 h
  have hblocks := ((List.getElem_cons_eraseIdx_perm hi).symm.map GpuBlock.window).append_left b.windows
  exact hblocks.trans List.perm_middle

/-- Every deed but a write keeps the invariant, and what is shown through windows that stay. -/
theorem act_kept (h : b.Kept old v) (hold : old ⊆ b.live) {a : Deed} (ha : a.isWrite = false)
    (hstay : old ⊆ (b.act a).live) : (b.act a).Kept old v := by
  cases a with
  | adjust n s => exact h.put ((h n).adjust s)
  | send n m => exact h.put ((h n).exchange hold m)
  | ask n tag payload => exact h.put (Link.askWord_keeps (Kept.exchanges hold _) (h n))
  | allocate n size alignment flags => exact h.put (Link.allocate_keeps (Kept.exchanges hold _) (h n))
  | lock n handle => exact h.put (Link.lock_keeps (Kept.exchanges hold _) (h n))
  | unlock n handle => exact h.put (Link.unlock_keeps (Kept.exchanges hold _) (h n))
  | free n handle => exact h.put (Link.free_keeps (Kept.exchanges hold _) (h n))
  | openWindow n bus len =>
    simp only [act]
    rcases hopened : (b.links n).openWindow bus len with ⟨e | w, l⟩
    · obtain ⟨hresult, rfl⟩ := Prod.mk.inj hopened
      exact h.put ((h n).refuseWindow hresult)
    · obtain ⟨hresult, rfl⟩ := Prod.mk.inj hopened
      obtain ⟨howner, hself⟩ := (h n).openWindow hresult
      exact kept_put hself fun k hk => (h k).add (by rw [howner]; exact hk.symm)
  | closeWindow n i =>
    simp only [act]
    cases hw : b.windows[i]? with
    | none => exact h
    | some w =>
      have hperm := live_perm_of_windows hw
      exact kept_put ((h n).perm hperm).closeWindow fun k _ => ((h k).perm hperm).drop
  | acquire n size alignment flags =>
    simp only [act]
    rcases hacquired : (b.links n).acquire size alignment flags with ⟨e | block, l⟩
    · have hkept := (h n).acquire_keeps hold size alignment flags
      rw [hacquired] at hkept
      exact h.put hkept
    · obtain ⟨howner, hself⟩ := (h n).acquire hold hacquired
      have hperm : (block.window :: b.live).Perm (b.windows ++ (block :: b.blocks).map GpuBlock.window) :=
        List.perm_middle.symm
      exact kept_put (hself.perm hperm) fun k hk => ((h k).add (by rw [howner]; exact hk.symm)).perm hperm
  | release n i =>
    cases hblock : b.blocks[i]? with
    | none =>
      simp only [act, hblock]
      exact h
    | some block =>
      simp only [act, hblock] at hstay ⊢
      have hperm := live_perm_of_blocks hblock
      have hself := ((h n).perm hperm).release hstay
      generalize ((b.links n).release block).2 = l at hself ⊢
      exact kept_put hself fun k _ => ((h k).perm hperm).drop
  | write i offset bytes => cases ha

/-- A write keeps the invariant, whatever it does to what is shown. -/
theorem act_write_kept (h : b.Kept [] v) (i offset : Nat) (bytes : List UInt8) :
    (b.act (.write i offset bytes)).Kept [] v := by
  simp only [act]
  cases hw : b.live[i]? with
  | none => exact h
  | some w =>
    exact h.put ((h w.owner).write (List.mem_of_getElem? hw) rfl (w.length_take_room_le offset bytes))

theorem run_kept (h : b.Kept [] v) (deeds : List Deed) : (b.run deeds).Kept [] v := by
  induction deeds generalizing b with
  | nil => exact h
  | cons a deeds ih =>
    refine ih ?_
    cases ha : a.isWrite with
    | false => exact act_kept h (List.nil_subset _) ha (List.nil_subset _)
    | true =>
      cases a <;> simp only [Deed.isWrite, reduceCtorEq] at ha
      exact act_write_kept h _ _ _

theorem new_kept (v : Window → List UInt8) : (new Mirror.fresh).Kept [] v := fun n =>
  ⟨rfl, fun _ => Sound.fresh n [] (by rintro _ ⟨⟩), by rintro - _ ⟨⟩⟩

end Bench

/-! ## Refinement -/

/-- The devices of the bench `c` show what the flat memories of `b` hold. -/
structure Refines (b : Bench Mirror) (c : Bench Firmware) : Prop where
  /-- without their flat memories, these are the same devices, windows and blocks -/
  same : b.plain = c
  /-- a live window reads the flat memory of its own device at its own bus address -/
  reads : ∀ w ∈ c.live,
    (c.links w.owner).read w = (b.links w.owner).device.flat.bytes w.bus.val.toNat w.len.toNat
  /-- a request for a picture that succeeds captures the words of the flat memory at its bus address -/
  accepted : ∀ n (g : CursorGeometry),
    let asked := (c.links n).askWord .setCursorInfo [g.width, g.height, g.format, g.bus.val, g.hotspotX, g.hotspotY]
    asked.1 = .ok Firmware.statusOk → asked.2.device.cursorImage =
      some (wordsOfBytes ((b.links n).device.flat.bytes g.bus.val.toNat (g.width.toNat * g.height.toNat * 4)))
  /-- the picture stays what was captured last -/
  captured : ∀ n, (c.links n).device.cursorImage = (b.links n).device.picture
  /-- no deed but a write changes what is read through a window that stays -/
  quiet : ∀ a : Deed, a.isWrite = false → (b.act a).IsYoung → ∀ w ∈ c.live, w ∈ (c.act a).live →
    ((c.act a).links w.owner).read w = (c.links w.owner).read w
  /-- the bytes that fit into a window show in every window of the device, where it lies over their bus addresses -/
  shared : ∀ i offset bytes w, c.live[i]? = some w → ∀ w' ∈ c.live, w'.owner = w.owner → ∀ k < w'.len.toNat,
    (((c.act (.write i offset bytes)).links w'.owner).read w')[k]? =
      if w.bus.val.toNat + offset ≤ w'.bus.val.toNat + k ∧
          w'.bus.val.toNat + k < w.bus.val.toNat + offset + w.room offset bytes.length then
        bytes[w'.bus.val.toNat + k - (w.bus.val.toNat + offset)]?
      else ((c.links w'.owner).read w')[k]?
  /-- a write shows in no window of another device or onto another block -/
  separate : ∀ i offset bytes w, c.live[i]? = some w → ∀ w' ∈ c.live, w'.owner ≠ w.owner ∨ w'.base ≠ w.base →
    ((c.act (.write i offset bytes)).links w'.owner).read w' = (c.links w'.owner).read w'

namespace Bench

variable {b : Bench Mirror} {old : List Window} {v : Window → List UInt8}

theorem Kept.read (h : b.Kept old v) (hyoung : b.IsYoung) {w : Window} (hw : w ∈ b.live) :
    (b.plain.links w.owner).read w = (b.links w.owner).device.view w := by
  have hsound := (h w.owner).sound (hyoung w.owner)
  calc (b.plain.links w.owner).read w
      = (b.links w.owner).read w := Link.read_map Mirror.plain _ w
    _ = (b.links w.owner).device.view w := hsound.read hw (h w.owner).id.symm

/-- What a live window shows now can be followed from now on. -/
theorem Kept.watch (h : b.Kept old v) (w : Window) : b.Kept [w] fun w => (b.links w.owner).device.view w := by
  intro n
  refine ⟨(h n).id, (h n).sound, fun _ w' _ howner => ?_⟩
  rw [howner]

/-! ### Writes -/

theorem act_write {i : Nat} {w : Window} (hw : b.live[i]? = some w) (offset : Nat) (bytes : List UInt8) :
    b.act (.write i offset bytes) = b.put w.owner ((b.links w.owner).write w offset bytes) := by
  simp only [act, hw]

/-- The device that a live window is of, after a write through the window `w`. -/
theorem device_act_write {i : Nat} {w : Window} (hw : b.live[i]? = some w) (offset : Nat) (bytes : List UInt8) (n : Nat) :
    ((b.act (.write i offset bytes)).links n).device =
      if n = w.owner then Device.write (b.links n).device w offset (bytes.take (w.room offset bytes.length))
      else (b.links n).device := by
  rw [act_write hw]
  split_ifs with hn
  · subst hn
    rw [put_links_self]
    rfl
  · rw [put_links_of_ne b _ hn]

/-- What a live window reads after a write is what the flat memory then holds. -/
theorem Kept.read_write (h : b.Kept old v) (hyoung : b.IsYoung) {i : Nat} {w w' : Window} (hw : b.live[i]? = some w)
    (hw' : w' ∈ b.live) (offset : Nat) (bytes : List UInt8) :
    ((b.plain.act (.write i offset bytes)).links w'.owner).read w' =
      ((b.act (.write i offset bytes)).links w'.owner).device.view w' := by
  have hafter : (b.act (.write i offset bytes)).Kept [] v :=
    act_write_kept (fun n => ⟨(h n).id, (h n).sound, by rintro - _ ⟨⟩⟩) i offset bytes
  have hyoung' : (b.act (.write i offset bytes)).IsYoung := by
    intro n
    rw [device_act_write hw]
    split_ifs
    · exact hyoung n
    · exact hyoung n
  have hlive : w' ∈ (b.act (.write i offset bytes)).live := by
    rw [act_write hw]
    exact hw'
  rw [← act_plain]
  exact hafter.read hyoung' hlive

/-- The invariant is all that the refinement needs. -/
theorem Kept.refines (h : b.Kept old v) (hyoung : b.IsYoung) : Refines b b.plain where
  same := rfl
  reads w hw := h.read hyoung hw
  accepted n g := by
    intro asked hok
    obtain ⟨block, hfound, himage⟩ := Link.askWord_picture_ok hok
    have himageOn := ((h n).sound (hyoung n)).imageOn hfound
    rw [Firmware.imageBytes_of_isShowable (Firmware.isShowable_of_imageBlock? hfound)] at himageOn
    rw [himage, himageOn]
  captured n := ((h n).sound (hyoung n)).picture
  quiet a ha hyoung' w hw hstay := by
    rw [← act_plain] at hstay ⊢
    have hafter : (b.act a).Kept [w] fun w => (b.links w.owner).device.view w :=
      act_kept (h.watch w) (List.cons_subset.2 ⟨hw, List.nil_subset _⟩) ha (List.cons_subset.2 ⟨hstay, List.nil_subset _⟩)
    calc ((b.act a).plain.links w.owner).read w
        = ((b.act a).links w.owner).device.view w := hafter.read hyoung' hstay
      _ = (b.links w.owner).device.view w :=
          (hafter w.owner).shown (hyoung' w.owner) w (List.mem_singleton_self w) rfl
      _ = (b.plain.links w.owner).read w := (h.read hyoung hw).symm
  shared i offset bytes w hw w' hw' howner k hk := by
    have hroom : (bytes.take (w.room offset bytes.length)).length = w.room offset bytes.length :=
      List.length_take_of_le (Nat.min_le_left _ _)
    rw [h.read_write hyoung hw hw', device_act_write hw, if_pos howner, Mirror.view_write _ _ _ _ _ hk, hroom,
      h.read hyoung hw']
    split_ifs with hin
    · exact List.getElem?_take_of_lt (by omega)
    · rfl
  separate i offset bytes w hw w' hw' hother := by
    rw [h.read_write hyoung hw hw', device_act_write hw, h.read hyoung hw']
    split_ifs with howner
    · have hbase : w.base ≠ w'.base := (hother.resolve_left fun hne => hne howner).symm
      have hid := (h w'.owner).id
      have hapart := ((h w'.owner).sound (hyoung w'.owner)).apart (List.mem_of_getElem? hw) hw' (by rw [hid, howner])
        hid.symm hbase
      exact Mirror.view_write_of_apart _ (w.length_take_room_le offset bytes) hapart
    · rfl

end Bench

/-- **The emulated memory is one flat memory for each device.** After any deeds at any number of devices that nobody had
used, with fewer than `2 ^ 32 - 1` allocations that succeeded at any of them, what the devices show is what the flat memories
hold: those that an allocation fills, and that a write through a live window changes at the window's bus address. -/
theorem bench_refines (deeds : List Deed) (hyoung : ((Bench.new Mirror.fresh).run deeds).IsYoung) :
    Refines ((Bench.new Mirror.fresh).run deeds) ((Bench.new Firmware.fresh).run deeds) := by
  have hplain : ((Bench.new Mirror.fresh).run deeds).plain = (Bench.new Firmware.fresh).run deeds :=
    (Bench.new Mirror.fresh).run_plain deeds
  rw [← hplain]
  exact (Bench.run_kept (Bench.new_kept fun _ => []) deeds).refines hyoung

/-- a window inside a block of one of two devices, and a write through it that would run past its end -/
def nestedDeeds : List Deed :=
  [.acquire 0 8 4096 .zero, .acquire 1 8 4096 .normal, .openWindow 0 ⟨0xde000004⟩ 4, .write 0 2 [1, 2, 3]]

theorem bench_refines_nested :
    ((Bench.new Mirror.fresh).run nestedDeeds).IsYoung ∧
      Refines ((Bench.new Mirror.fresh).run nestedDeeds) ((Bench.new Firmware.fresh).run nestedDeeds) ∧
      (((Bench.new Firmware.fresh).run nestedDeeds).live.map fun w =>
        (((Bench.new Firmware.fresh).run nestedDeeds).links w.owner).read w) =
          [[0, 0, 1, 2], [255, 255, 255, 255, 255, 255, 255, 255], [0, 0, 0, 0, 0, 0, 1, 2]] := by
  have hyoung : ((Bench.new Mirror.fresh).run nestedDeeds).IsYoung :=
    Bench.isYoung_run_new nestedDeeds (by decide)
  exact ⟨hyoung, bench_refines nestedDeeds hyoung, by decide +kernel⟩

end MailboxCursor
