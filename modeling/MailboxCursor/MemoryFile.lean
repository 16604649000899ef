/-
Physical memory as a file.

A window onto the file shows the bytes at the physical address. Files are mapped in whole pages, so a mapping starts at
the page that holds the address, is longer by the address's offset in that page, and the window starts that far inside.
How much can be mapped at once is up to the machine's addresses, not to the file. A mapping lasts until its window is closed;
the file itself is open only while it is being mapped.
-/
import MailboxCursor.Device

namespace MailboxCursor

/-- a stretch of a file that is mapped -/
structure Mapping where
  /-- where it starts in the file -/
  start : Nat
  length : Nat
deriving DecidableEq, Repr

/-- the mapping that contains a window -/
def Window.mapping (w : Window) : Mapping :=
  ⟨w.base, w.span⟩

/-- the addresses that a process has for its mappings -/
structure AddressSpace where
  /-- bytes of a page -/
  page : Nat
  /-- bytes of the longest stretch that is free, in whole pages -/
  gap : Nat
  page_pow : page.isPowerOfTwo
  gap_lt : gap < UInt64.size

namespace AddressSpace

/-- Of 47-bit addresses the program takes the place at two thirds, so nothing longer than what lies below it is free. -/
def usual : AddressSpace :=
  ⟨4096, 0x555555555000, ⟨12, rfl⟩, by decide⟩

/-- a mapping of an open file, or why there is none: whole pages only, and not nothing -/
def grant (space : AddressSpace) (start length : Nat) : Except SystemError Mapping :=
  if start % space.page ≠ 0 ∨ length = 0 then .error .invalidArgument
  else if space.gap < length then .error .outOfMemory
  else .ok ⟨start, length⟩

end AddressSpace

structure MemoryFile where
  /-- the file's bytes, if there is a file -/
  content : Option (Array UInt8)
  /-- what is mapped of it -/
  mappings : List Mapping
  /-- how often it was to be opened -/
  openings : Nat
deriving DecidableEq, Repr

namespace MemoryFile

/-- a file that nothing was done with yet -/
def fresh (content : Option (Array UInt8)) : MemoryFile :=
  ⟨content, [], 0⟩

/-- the start of the page that holds an address, and the address's offset in it -/
def pageOf (address page : Nat) : Nat × Nat :=
  (address - address % page, address % page)

def refuse (file : MemoryFile) (bus : BusAddress) (len : UInt64) (cause : SystemError) (events : List Event) :
    Access MemoryFile Window :=
  ⟨.error (.mapFailed bus len cause), file, events⟩

/-- a window of `len` bytes at the physical address of `bus`, for a process with the addresses `space` -/
def openWindow (space : AddressSpace) (file : MemoryFile) (bus : BusAddress) (len : UInt64) : Access MemoryFile Window :=
  let (start, offset) := pageOf bus.physical.toNat space.page
  let span := offset + len.toNat
  if UInt64.size ≤ span then file.refuse bus len .invalidInput []
  else
    let file := { file with openings := file.openings + 1 }
    if file.content.isNone then file.refuse bus len .notFound []
    else
      match space.grant start span with
      | .error cause =>
        file.refuse bus len cause [.warn s!"mmap of bus address {bus.text} ({len} bytes) failed: {cause.text}"]
      | .ok m =>
        ⟨.ok ⟨0, m.start, m.length, offset, bus, len⟩, { file with mappings := m :: file.mappings },
          [.debug s!"mapped bus address {bus.text} ({len} bytes)"]⟩

/-- the mapping ends, the whole of it -/
def closeWindow (file : MemoryFile) (w : Window) : Access MemoryFile Unit :=
  ⟨.ok (), { file with mappings := file.mappings.erase w.mapping }, []⟩

/-- the window lies inside the file -/
def covers (file : MemoryFile) (w : Window) : Bool :=
  file.content.any fun bytes => w.base + w.offset + w.len.toNat ≤ bytes.size

/-- the bytes that a mapping shows, as far as the file reaches -/
def view (file : MemoryFile) (m : Mapping) : Array UInt8 :=
  (file.content.getD #[]).extract m.start (m.start + m.length)

/-- the bytes that a window shows: a part of its mapping -/
def read (file : MemoryFile) (w : Window) : List UInt8 :=
  ((file.view w.mapping).extract w.offset (w.offset + w.len.toNat)).toList

/-- bytes laid over an array from an index on; what lies past its end is dropped -/
def overlay (bytes : Array UInt8) (i : Nat) : List UInt8 → Array UInt8
  | [] => bytes
  | b :: bs => overlay (bytes.setIfInBounds i b) (i + 1) bs

/-- bytes written at an offset of a window -/
def write (file : MemoryFile) (w : Window) (offset : Nat) (bytes : List UInt8) : MemoryFile :=
  { file with content := file.content.map fun old => overlay old (w.base + w.offset + offset) bytes }

end MemoryFile
end MailboxCursor
