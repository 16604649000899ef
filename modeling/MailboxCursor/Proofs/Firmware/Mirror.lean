/-
The emulated firmware with one flat memory beside its blocks.

`Flat` has a byte at every bus address, and knows nothing of blocks, windows or handles. A `Mirror` is the firmware with such
a memory beside it, that follows along: an allocation fills its range, and a write through a window at a bus address goes to
that address. The mirror takes no part in what the firmware does, which is `Mirror.plain`.
-/
import MailboxCursor.Proofs.Device.Projection
import MailboxCursor.Proofs.Firmware.Memory
import MailboxCursor.Proofs.Firmware.Table

namespace MailboxCursor

/-! ## Flat memory -/

/-- a byte at every bus address -/
abbrev Flat : Type := Nat → UInt8

namespace Flat

/-- so many bytes from an address on all made the same -/
def fill (M : Flat) (bus size : Nat) (byte : UInt8) : Flat :=
  fun a => if bus ≤ a ∧ a < bus + size then byte else M a

/-- bytes written from an address on -/
def put (M : Flat) (bus : Nat) (bytes : List UInt8) : Flat :=
  fun a => if bus ≤ a ∧ a < bus + bytes.length then bytes.getD (a - bus) 0 else M a

/-- the bytes from an address on -/
def bytes (M : Flat) (bus n : Nat) : List UInt8 :=
  (List.range' bus n).map M

variable {M M' : Flat} {bus n : Nat}

theorem fill_of_outside {size : Nat} {byte : UInt8} {a : Nat} (h : a < bus ∨ bus + size ≤ a) :
    M.fill bus size byte a = M a :=
  if_neg (by omega)

theorem put_of_outside {bs : List UInt8} {a : Nat} (h : a < bus ∨ bus + bs.length ≤ a) : M.put bus bs a = M a :=
  if_neg (by omega)

@[simp] theorem length_bytes : (M.bytes bus n).length = n := by
  rw [bytes, List.length_map, List.length_range']

theorem bytes_congr (h : ∀ k < n, M (bus + k) = M' (bus + k)) : M.bytes bus n = M'.bytes bus n := by
  refine List.map_congr_left fun a ha => ?_
  obtain ⟨hle, hlt⟩ := List.mem_range'_1.1 ha
  have hk := h (a - bus) (by omega)
  rwa [Nat.add_sub_cancel' hle] at hk

theorem getElem?_bytes {k : Nat} (h : k < n) : (M.bytes bus n)[k]? = some (M (bus + k)) := by
  rw [bytes, List.getElem?_map, List.getElem?_range' h, Option.map_some, Nat.one_mul]

/-- A memory of a block that agrees with the flat one is read as the flat one is. -/
theorem read_eq_bytes {m : Memory} {i : Nat} (h : ∀ k < n, m.byte (i + k) = M (bus + k)) : m.read i n = M.bytes bus n := by
  refine List.ext_getElem? fun k => ?_
  by_cases hk : k < n
  · rw [Memory.getElem?_read hk, getElem?_bytes hk, h k hk]
  · rw [List.getElem?_eq_none (by rw [Memory.length_read]; omega),
      List.getElem?_eq_none (by rw [length_bytes]; omega)]

end Flat

/-! ## The firmware with a flat memory -/

structure Mirror where
  firmware : Firmware
  flat : Flat
  /-- allocations that succeeded -/
  allocations : Nat
  /-- the words of the flat memory for the picture that was last accepted -/
  picture : Option (List UInt32)

namespace Mirror

def fresh (id : Nat) : Mirror :=
  ⟨.fresh id, fun _ => 0, 0, none⟩

/-- what the flat memory holds where a window lies -/
def view (d : Mirror) (w : Window) : List UInt8 :=
  d.flat.bytes w.bus.val.toNat w.len.toNat

/-- the mirror of a firmware that has acted on a request -/
def heard (d : Mirror) (tag : Tag) (p : List UInt32) (fw : Firmware) : Mirror where
  firmware := fw
  flat :=
    match d.firmware.added? tag p with
    | some b => d.flat.fill b.start b.size.toNat (if (AllocFlags.mk (p.getD 2 0)).contains .zero then 0x00 else 0xff)
    | none => d.flat
  allocations :=
    match d.firmware.added? tag p with
    | some _ => d.allocations + 1
    | none => d.allocations
  picture :=
    if tag = .setCursorInfo ∧ (d.firmware.act tag p).2 = [Firmware.statusOk] then
      some (wordsOfBytes (d.flat.bytes (p.getD 3 0).toNat ((p.getD 0 0 * p.getD 1 0).toNat * 4)))
    else d.picture

theorem heard_picture (d : Mirror) (tag : Tag) (p : List UInt32) (fw : Firmware) : (d.heard tag p fw).picture =
    if tag = .setCursorInfo ∧ (d.firmware.act tag p).2 = [Firmware.statusOk] then
      some (wordsOfBytes (d.flat.bytes (p.getD 3 0).toNat ((p.getD 0 0 * p.getD 1 0).toNat * 4)))
    else d.picture := rfl

theorem heard_of_not_added {d : Mirror} {tag : Tag} {p : List UInt32} (h : d.firmware.added? tag p = none)
    (fw : Firmware) : (d.heard tag p fw).flat = d.flat ∧ (d.heard tag p fw).allocations = d.allocations := by
  simp only [heard, h, and_self]

theorem heard_of_added {d : Mirror} {tag : Tag} {p : List UInt32} {b : Block} (h : d.firmware.added? tag p = some b)
    (fw : Firmware) : (d.heard tag p fw).flat =
        d.flat.fill b.start b.size.toNat (if (AllocFlags.mk (p.getD 2 0)).contains .zero then 0x00 else 0xff) ∧
      (d.heard tag p fw).allocations = d.allocations + 1 := by
  simp only [heard, h, and_self]

/-- What an allocation fills is no part of any block that was there. -/
theorem heard_flat (d : Mirror) (tag : Tag) (p : List UInt32) (fw : Firmware) {b : Block} (hb : b ∈ d.firmware.blocks)
    {i : Nat} (hi : i < b.size.toNat) : (d.heard tag p fw).flat (b.start + i) = d.flat (b.start + i) := by
  cases hadded : d.firmware.added? tag p with
  | none => rw [(heard_of_not_added hadded fw).1]
  | some new =>
    obtain ⟨bus, hplace, rfl, -, -⟩ := Firmware.act_of_added hadded
    obtain ⟨-, -, hapart⟩ := Firmware.place?_eq_some hplace
    have hapart := hapart b hb
    rw [(heard_of_added hadded fw).1]
    refine Flat.fill_of_outside ?_
    simp only [Firmware.newBlock, Block.start, Block.stop] at hapart ⊢
    omega

instance : Device Mirror where
  exchange d m :=
    (d.firmware.exchange m).map fun fw =>
      match d.firmware.accepts? m with
      | some (tag, p) => d.heard tag p fw
      | none => { d with firmware := fw }
  openWindow d bus len := (d.firmware.openWindow bus len).map fun fw => { d with firmware := fw }
  closeWindow d w := (d.firmware.closeWindow w).map fun fw => { d with firmware := fw }
  read d w := d.firmware.read w
  write d w offset bytes :=
    { d with
      firmware := d.firmware.write w offset bytes
      flat := d.flat.put (w.bus.val.toNat + offset) bytes }

/-- the firmware without its mirror -/
def plain : Projection Mirror Firmware where
  toFun := firmware
  exchange d m := by
    show d.firmware.exchange m = _
    simp only [Device.exchange, Exchange.map]
    cases d.firmware.accepts? m <;> rfl
  openWindow _ _ _ := rfl
  closeWindow _ _ := rfl
  read _ _ := rfl
  write _ _ _ _ := rfl

/-- A write shows in whatever lies over the same bus addresses, and nowhere else. -/
theorem view_write (d : Mirror) (w w' : Window) (offset : Nat) (bytes : List UInt8) {k : Nat} (hk : k < w'.len.toNat) :
    ((Device.write d w offset bytes).view w')[k]? =
      if w.bus.val.toNat + offset ≤ w'.bus.val.toNat + k ∧
          w'.bus.val.toNat + k < w.bus.val.toNat + offset + bytes.length then
        bytes[w'.bus.val.toNat + k - (w.bus.val.toNat + offset)]?
      else (d.view w')[k]? := by
  rw [view, view, Flat.getElem?_bytes hk, Flat.getElem?_bytes hk]
  show some (d.flat.put (w.bus.val.toNat + offset) bytes (w'.bus.val.toNat + k)) = _
  rw [Flat.put]
  split_ifs with hin
  · have hlt : w'.bus.val.toNat + k - (w.bus.val.toNat + offset) < bytes.length := by omega
    rw [List.getD_eq_getElem?_getD, List.getElem?_eq_getElem hlt, Option.getD_some]
  · rfl

/-- What fits into a window shows in none that lies beside it. -/
theorem view_write_of_apart (d : Mirror) {w w' : Window} {offset : Nat} {bytes : List UInt8}
    (hfits : bytes.length ≤ w.len.toNat - offset)
    (hapart : w.bus.val.toNat + w.len.toNat ≤ w'.bus.val.toNat ∨ w'.bus.val.toNat + w'.len.toNat ≤ w.bus.val.toNat) :
    (Device.write d w offset bytes).view w' = d.view w' := by
  refine Flat.bytes_congr fun k hk => ?_
  exact Flat.put_of_outside (by omega)

/-! ## Exchanges -/

/-- The mirror of a firmware that was sent a message: it has followed a request, or nothing has changed but the log. -/
theorem exchange_cases (d : Mirror) (m : Message) :
    (∃ tag p, Tag.ofWord? m.tag = some tag ∧
      (Device.exchange d m).device = d.heard tag p ((d.firmware.act tag p).1.logRequest m)) ∨
    (Device.exchange d m).device = { d with firmware := d.firmware.logRequest m } := by
  have hafter := d.firmware.exchange_device m
  simp only [Device.exchange, Exchange.map]
  cases haccepts : d.firmware.accepts? m with
  | none =>
    rw [haccepts] at hafter
    rw [hafter]
    exact Or.inr rfl
  | some r =>
    obtain ⟨tag, p⟩ := r
    obtain ⟨-, -, htag, -⟩ := Firmware.accepts?_eq_some_iff.1 haccepts
    rw [haccepts] at hafter
    rw [hafter]
    exact Or.inl ⟨tag, p, htag, rfl⟩

theorem exchange_id (d : Mirror) (m : Message) : (Device.exchange d m).device.firmware.id = d.firmware.id := by
  rcases d.exchange_cases m with ⟨tag, p, -, hafter⟩ | hafter
  · rw [hafter]
    exact d.firmware.act_id tag p
  · rw [hafter]
    rfl

/-- so few allocations that no handle was given out twice -/
def IsYoung (d : Mirror) : Prop :=
  d.allocations < 2 ^ 32 - 1

/-- A message allocates once at most. -/
theorem exchange_allocations (d : Mirror) (m : Message) :
    d.allocations ≤ (Device.exchange d m).device.allocations ∧
      (Device.exchange d m).device.allocations ≤ d.allocations + 1 := by
  rcases d.exchange_cases m with ⟨tag, p, -, hafter⟩ | hafter
  · rw [hafter, heard]
    cases d.firmware.added? tag p with
    | none => exact ⟨le_refl _, Nat.le_succ _⟩
    | some b => exact ⟨Nat.le_succ _, le_refl _⟩
  · rw [hafter]
    exact ⟨le_refl _, Nat.le_succ _⟩

/-- Only the request for memory allocates. -/
theorem keeps_allocations {k : Nat} {tag : Tag} (htag : tag ≠ .allocateMemory) :
    Link.Keeps (fun d : Mirror => d.allocations ≤ k) tag := by
  intro d m hm h
  rcases d.exchange_cases m with ⟨t, p, ht, hafter⟩ | hafter
  · rw [hm, Tag.ofWord?_id] at ht
    obtain rfl := Option.some.inj ht
    have hadded : d.firmware.added? tag p = none := by
      cases tag <;> first | rfl | exact absurd rfl htag
    rw [hafter, (heard_of_not_added hadded _).2]
    exact h
  · rw [hafter]
    exact h

end Mirror
end MailboxCursor
