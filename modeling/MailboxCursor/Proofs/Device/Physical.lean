/-
Windows onto a memory file: which bytes of the file they show, and which mapping they lie in.

A bus address loses its alias, what is left is rounded down to a page, the mapping is made longer by what was cut off, and the
window starts that far inside. `pageOf_add` puts the two parts together again, so the window stands at the physical address, at
its own byte of the file whatever the size of a page (`stands_window`). `openWindow_physical` is the whole of it, with the one
length for which the file is not even opened.
-/
import Mathlib.Tactic
import MailboxCursor.MemoryFile

namespace MailboxCursor

namespace BusAddress

/-- The physical address is what the alias leaves: the lower thirty bits. -/
theorem toNat_physical (bus : BusAddress) : bus.physical.toNat = bus.val.toNat % 2 ^ 30 := by
  rw [physical, UInt32.toNat_and]
  exact Nat.and_two_pow_sub_one_eq_mod _ 30

theorem physical_congr {bus bus' : BusAddress} (h : bus'.val.toNat % 2 ^ 30 = bus.val.toNat % 2 ^ 30) :
    bus'.physical = bus.physical := by
  apply UInt32.toNat_inj.1
  rw [toNat_physical, toNat_physical, h]

end BusAddress

namespace MemoryFile

/-- the file has all the bytes of a window, and the process the addresses for its mapping -/
structure Backs (space : AddressSpace) (file : MemoryFile) (bus : BusAddress) (len : UInt64) : Prop where
  bytes : ∃ bytes, file.content = some bytes ∧ bus.physical.toNat + len.toNat ≤ bytes.size
  nonempty : 1 ≤ len.toNat
  /-- the system grants a mapping of this length -/
  granted : bus.physical.toNat % space.page + len.toNat ≤ space.gap

/-- the window is onto the file from byte `p` on -/
structure Stands (w : Window) (p : ℕ) : Prop where
  read : ∀ (file : MemoryFile) (bytes : Array UInt8), file.content = some bytes → p + w.len.toNat ≤ bytes.size →
    (file.read w).length = w.len.toNat ∧ ∀ i < w.len.toNat, (file.read w)[i]? = bytes[p + i]?
  /-- what is written at `i` comes to stand at `p + i`, and no other byte changes -/
  write : ∀ (file : MemoryFile) (bytes : Array UInt8), file.content = some bytes → p + w.len.toNat ≤ bytes.size →
    ∀ (i : ℕ) (vs : List UInt8), i + vs.length ≤ w.len.toNat → ∃ bytes' : Array UInt8,
      file.write w i vs = { file with content := some bytes' } ∧ bytes'.size = bytes.size ∧
        ∀ j, bytes'[j]? = if p + i ≤ j ∧ j < p + i + vs.length then vs[j - (p + i)]? else bytes[j]?

/-- what a window of `len` bytes at `bus` is to be -/
structure Maps (space : AddressSpace) (file : MemoryFile) (bus : BusAddress) (len : UInt64) (w : Window) : Prop where
  opened : (openWindow space file bus len).result = .ok w
  device : (openWindow space file bus len).device =
    { file with mappings := w.mapping :: file.mappings, openings := file.openings + 1 }
  names : w.bus = bus ∧ w.len = len
  stands : Stands w bus.physical.toNat
  aligned : w.mapping.start % space.page = 0
  inside : w.mapping.start + w.offset = bus.physical.toNat ∧ w.offset < space.page ∧
    w.offset + w.len.toNat ≤ w.mapping.length
  /-- closing it ends the mapping, all of it and no other -/
  released : ∀ later : MemoryFile, w.mapping ∈ later.mappings →
    (later.closeWindow w).result = .ok () ∧ (later.closeWindow w).device.content = later.content ∧
      later.mappings.Perm (w.mapping :: (later.closeWindow w).device.mappings)
  /-- another alias of the address shows the same bytes -/
  aliased : ∀ bus' : BusAddress, bus'.val.toNat % 2 ^ 30 = bus.val.toNat % 2 ^ 30 →
    ∃ w', (openWindow space file bus' len).result = .ok w' ∧ w'.bus = bus' ∧
      ∀ later : MemoryFile, later.read w' = later.read w ∧ ∀ i vs, later.write w' i vs = later.write w i vs

/-! ## Pages -/

section

variable (address page : ℕ)

theorem pageOf_add : (pageOf address page).1 + (pageOf address page).2 = address := by
  have hle : address % page ≤ address := Nat.mod_le address page
  simp only [pageOf]
  omega

theorem pageOf_aligned : (pageOf address page).1 % page = 0 := by
  simp only [pageOf]
  exact Nat.mod_eq_zero_of_dvd (Nat.dvd_sub_mod address)

end

theorem page_pos (space : AddressSpace) : 0 < space.page := by
  obtain ⟨k, hk⟩ := space.page_pow
  rw [hk]
  exact Nat.two_pow_pos k

/-! ## Bytes -/

theorem size_overlay (bytes : Array UInt8) (i : ℕ) (vs : List UInt8) : (overlay bytes i vs).size = bytes.size := by
  induction vs generalizing bytes i with
  | nil => rfl
  | cons v vs ih => rw [overlay, ih, Array.size_setIfInBounds]

/-- Bytes laid over others stand where they were put, and nowhere else. -/
theorem getElem?_overlay {bytes : Array UInt8} {i : ℕ} {vs : List UInt8} (h : i + vs.length ≤ bytes.size) (j : ℕ) :
    (overlay bytes i vs)[j]? = if i ≤ j ∧ j < i + vs.length then vs[j - i]? else bytes[j]? := by
  induction vs generalizing bytes i with
  | nil =>
    rw [overlay, if_neg]
    simp
  | cons v vs ih =>
    rw [List.length_cons] at h
    rw [overlay, ih (by rw [Array.size_setIfInBounds]; omega), List.length_cons, Array.getElem?_setIfInBounds]
    by_cases hhere : i = j
    · subst hhere
      simp
      omega
    · by_cases hbehind : i + 1 ≤ j ∧ j < i + 1 + vs.length
      · have hindex : j - i = (j - (i + 1)) + 1 := by omega
        rw [if_pos hbehind, if_pos (by omega), hindex, List.getElem?_cons_succ]
      · rw [if_neg hbehind, if_neg hhere, if_neg (by omega)]

/-- A window inside its mapping shows the file from its own place on. -/
theorem stands_of_inside {w : Window} (hinside : w.offset + w.len.toNat ≤ w.span) : Stands w (w.base + w.offset) := by
  constructor
  · intro file bytes hcontent hsize
    have hread : file.read w = (bytes.extract (w.base + w.offset) (w.base + w.offset + w.len.toNat)).toList := by
      have hend : min (w.base + (w.offset + w.len.toNat)) (w.base + w.span) = w.base + w.offset + w.len.toNat := by omega
      simp only [read, view, hcontent, Option.getD_some, Window.mapping, Array.extract_extract, hend]
    rw [hread]
    constructor
    · rw [Array.length_toList, Array.size_extract]
      omega
    · intro i hi
      rw [Array.getElem?_toList, Array.getElem?_extract, if_pos (by omega)]
  · intro file bytes hcontent hsize i vs hfit
    refine ⟨overlay bytes (w.base + w.offset + i) vs, ?_, size_overlay _ _ _, ?_⟩
    · rw [write, hcontent, Option.map_some]
    · intro j
      exact getElem?_overlay (by omega) j

/-! ## Opening -/

variable {space : AddressSpace} {file : MemoryFile} {bus : BusAddress} {len : UInt64}

/-- the window that is opened -/
def windowAt (space : AddressSpace) (bus : BusAddress) (len : UInt64) : Window :=
  ⟨0, (pageOf bus.physical.toNat space.page).1, (pageOf bus.physical.toNat space.page).2 + len.toNat,
    (pageOf bus.physical.toNat space.page).2, bus, len⟩

theorem grant_eq_ok {start length : ℕ} (haligned : start % space.page = 0) (hlength : length ≠ 0)
    (hgap : length ≤ space.gap) : space.grant start length = .ok ⟨start, length⟩ := by
  rw [AddressSpace.grant, if_neg (by simp [haligned, hlength]), if_neg (by omega)]

theorem openWindow_of_backs (h : Backs space file bus len) :
    (openWindow space file bus len).result = .ok (windowAt space bus len) ∧
      (openWindow space file bus len).device =
        { file with
          mappings := (windowAt space bus len).mapping :: file.mappings
          openings := file.openings + 1 } := by
  obtain ⟨bytes, hcontent, -⟩ := h.bytes
  have hlen := h.nonempty
  have hgap : (pageOf bus.physical.toNat space.page).2 + len.toNat ≤ space.gap := h.granted
  have hspan : ¬UInt64.size ≤ (pageOf bus.physical.toNat space.page).2 + len.toNat := by
    have hlt := space.gap_lt
    omega
  have hgrant := grant_eq_ok (pageOf_aligned bus.physical.toNat space.page)
    (show (pageOf bus.physical.toNat space.page).2 + len.toNat ≠ 0 by omega) hgap
  simp only [openWindow, if_neg hspan, hcontent, Option.isNone_some, Bool.false_eq_true, if_false, hgrant]
  exact ⟨rfl, rfl⟩

theorem Backs.congr {bus' : BusAddress} (h : Backs space file bus len) (hsame : bus'.physical = bus.physical) :
    Backs space file bus' len := by
  obtain ⟨hbytes, hlen, hgranted⟩ := h
  rw [← hsame] at hbytes hgranted
  exact ⟨hbytes, hlen, hgranted⟩

theorem maps_windowAt (h : Backs space file bus len) : Maps space file bus len (windowAt space bus len) := by
  obtain ⟨hopened, hdevice⟩ := openWindow_of_backs h
  have hplace : (windowAt space bus len).base + (windowAt space bus len).offset = bus.physical.toNat :=
    pageOf_add bus.physical.toNat space.page
  refine ⟨hopened, hdevice, ⟨rfl, rfl⟩, ?_, pageOf_aligned _ _, ⟨hplace, Nat.mod_lt _ (page_pos space), le_rfl⟩, ?_, ?_⟩
  · rw [← hplace]
    exact stands_of_inside le_rfl
  · intro later hmapped
    exact ⟨rfl, rfl, List.perm_cons_erase hmapped⟩
  · intro bus' hsame
    have hphysical := BusAddress.physical_congr hsame
    refine ⟨windowAt space bus' len, (openWindow_of_backs (h.congr hphysical)).1, rfl, ?_⟩
    intro later
    simp only [windowAt, hphysical]
    exact ⟨rfl, fun i vs => rfl⟩

/-- **Physical memory through a file.** For every size of a page, address and length: where the file has the bytes of the window,
and its mapping is granted, the window is onto the file's bytes from the physical address on, for reading and for writing and
under every alias of the address; it lies in a mapping of whole pages, which ends when it is closed. Where the length and the
offset in the page are more than a word can hold, there is no window, and the file is not opened to find that out. -/
theorem openWindow_physical (space : AddressSpace) (file : MemoryFile) (bus : BusAddress) (len : UInt64) :
    (Backs space file bus len → ∃ w, Maps space file bus len w) ∧
      (2 ^ 64 ≤ bus.physical.toNat % space.page + len.toNat →
        openWindow space file bus len = ⟨.error (.mapFailed bus len .invalidInput), file, []⟩) := by
  constructor
  · intro h
    exact ⟨windowAt space bus len, maps_windowAt h⟩
  · intro hspan
    have hspan : UInt64.size ≤ (pageOf bus.physical.toNat space.page).2 + len.toNat := hspan
    simp only [openWindow, if_pos hspan]
    rfl

/-- Pages of sixteen bytes, and seven bytes at the physical address 13 under an alias: the window reaches into the second page,
where what is written at its fourth byte comes to stand. With a length for which the end of the mapping is no word, a missing
file makes no difference. -/
theorem openWindow_physical_crossing : ∃ (space : AddressSpace) (file : MemoryFile) (bus : BusAddress) (w : Window),
    space.page = 16 ∧ bus.val = 0xc000000d ∧ Backs space file bus 7 ∧ Maps space file bus 7 w ∧ w.mapping = ⟨0, 20⟩ ∧
      file.read w = [13, 14, 15, 16, 17, 18, 19] ∧ (file.write w 3 [0xff]).read w = [13, 14, 15, 0xff, 17, 18, 19] ∧
      2 ^ 64 ≤ bus.physical.toNat % space.page + (0xfffffffffffffff3 : UInt64).toNat ∧
      openWindow space (fresh none) bus 0xfffffffffffffff3 =
        ⟨.error (.mapFailed bus 0xfffffffffffffff3 .invalidInput), fresh none, []⟩ := by
  let space : AddressSpace := ⟨16, 0x1000, ⟨4, rfl⟩, by decide⟩
  let file : MemoryFile := fresh (some ((Array.range 24).map Nat.toUInt8))
  let bus : BusAddress := ⟨0xc000000d⟩
  have hbacks : Backs space file bus 7 := ⟨⟨_, rfl, by decide +kernel⟩, by decide, by decide +kernel⟩
  obtain ⟨w, hmaps⟩ := (openWindow_physical space file bus 7).1 hbacks
  have hw : Except.ok w = Except.ok (windowAt space bus 7) := hmaps.opened.symm.trans (openWindow_of_backs hbacks).1
  obtain rfl : w = windowAt space bus 7 := Except.ok.inj hw
  have hspan : 2 ^ 64 ≤ bus.physical.toNat % space.page + (0xfffffffffffffff3 : UInt64).toNat := by decide +kernel
  refine ⟨space, file, bus, _, rfl, rfl, hbacks, hmaps, by decide +kernel, by decide +kernel, by decide +kernel, hspan, ?_⟩
  exact (openWindow_physical space (fresh none) bus 0xfffffffffffffff3).2 hspan

end MemoryFile
end MailboxCursor
