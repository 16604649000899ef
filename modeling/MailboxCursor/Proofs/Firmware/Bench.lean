/-
A bench: any number of devices side by side, and whoever works on them.

The worker sends messages, takes the steps of an allocation one at a time or as a whole, opens and closes windows, gives blocks
back, and writes through what is open; the windows and blocks that it holds are `live`. It may hand a window or a block to a
device that did not open it, and the faults of the devices may change between any two deeds. `act` is one deed, `run` any
number of them.

`run_plain`: a bench of mirrors runs as the bench of the firmware that is mirrored. `run_allocations`: no deed allocates more
than once.
-/
import MailboxCursor.Proofs.Firmware.Mirror

namespace MailboxCursor

/-- devices whose settings can be changed from outside -/
class Adjustable (δ : Type) extends Device δ where
  adjust : δ → Firmware.Setting → δ

instance : Adjustable Firmware where
  adjust := Firmware.set

instance : Adjustable Mirror where
  adjust d s := { d with firmware := d.firmware.set s }

structure Bench (δ : Type) where
  links : Nat → Link δ
  /-- windows opened for themselves -/
  windows : List Window
  /-- blocks acquired as a whole, each with its window -/
  blocks : List GpuBlock

/-- one deed at a bench; the device comes first, a window or a block is named by its place among those that are held -/
inductive Deed where
  | adjust (n : Nat) (s : Firmware.Setting)
  | send (n : Nat) (m : Message)
  | ask (n : Nat) (tag : Tag) (payload : List UInt32)
  | allocate (n : Nat) (size alignment : UInt32) (flags : AllocFlags)
  | lock (n : Nat) (handle : MemoryHandle)
  | unlock (n : Nat) (handle : MemoryHandle)
  | free (n : Nat) (handle : MemoryHandle)
  | openWindow (n : Nat) (bus : BusAddress) (len : UInt64)
  | closeWindow (n i : Nat)
  | acquire (n : Nat) (size alignment : UInt32) (flags : AllocFlags)
  | release (n i : Nat)
  | write (i offset : Nat) (bytes : List UInt8)
deriving DecidableEq, Repr

def Deed.isWrite : Deed → Bool
  | .write .. => true
  | _ => false

namespace Bench

variable {δ : Type}

/-- a bench of devices that nobody has used -/
def new (make : Nat → δ) : Bench δ :=
  ⟨fun n => .fresh (make n), [], []⟩

/-- the windows that are open, those of blocks included -/
def live (b : Bench δ) : List Window :=
  b.windows ++ b.blocks.map GpuBlock.window

/-- one device changed -/
def put (b : Bench δ) (n : Nat) (l : Link δ) : Bench δ :=
  { b with links := Function.update b.links n l }

theorem put_links_self (b : Bench δ) (n : Nat) (l : Link δ) : (b.put n l).links n = l := by
  simp only [put, Function.update_self]

theorem put_links_of_ne (b : Bench δ) {n k : Nat} (l : Link δ) (h : k ≠ n) : (b.put n l).links k = b.links k := by
  simp only [put, Function.update_of_ne h]

variable [Adjustable δ]

def act (b : Bench δ) : Deed → Bench δ
  | .adjust n s => b.put n { b.links n with device := Adjustable.adjust (b.links n).device s }
  | .send n m => b.put n ((b.links n).send m).2.2
  | .ask n tag payload => b.put n ((b.links n).askWord tag payload).2
  | .allocate n size alignment flags => b.put n ((b.links n).allocate size alignment flags).2
  | .lock n handle => b.put n ((b.links n).lock handle).2
  | .unlock n handle => b.put n ((b.links n).unlock handle).2
  | .free n handle => b.put n ((b.links n).free handle).2
  | .openWindow n bus len =>
    match (b.links n).openWindow bus len with
    | (.ok w, l) => { b.put n l with windows := w :: b.windows }
    | (.error _, l) => b.put n l
  | .closeWindow n i =>
    match b.windows[i]? with
    | some w => { b.put n ((b.links n).closeWindow w).2 with windows := b.windows.eraseIdx i }
    | none => b
  | .acquire n size alignment flags =>
    match (b.links n).acquire size alignment flags with
    | (.ok block, l) => { b.put n l with blocks := block :: b.blocks }
    | (.error _, l) => b.put n l
  | .release n i =>
    match b.blocks[i]? with
    | some block => { b.put n ((b.links n).release block).2 with blocks := b.blocks.eraseIdx i }
    | none => b
  | .write i offset bytes =>
    match b.live[i]? with
    | some w => b.put w.owner ((b.links w.owner).write w offset bytes)
    | none => b

def run (b : Bench δ) (deeds : List Deed) : Bench δ :=
  deeds.foldl act b

end Bench

/-! ## The bench behind a bench of mirrors -/

namespace Bench

def plain (b : Bench Mirror) : Bench Firmware :=
  ⟨fun n => (b.links n).map Mirror.plain, b.windows, b.blocks⟩

variable (b : Bench Mirror)

theorem plain_live : b.plain.live = b.live := rfl

theorem plain_put (n : Nat) (l : Link Mirror) : (b.put n l).plain = b.plain.put n (l.map Mirror.plain) := by
  have hlinks : (fun k => (Function.update b.links n l k).map Mirror.plain) =
      Function.update (fun k => (b.links k).map Mirror.plain) n (l.map Mirror.plain) := by
    funext k
    exact Function.apply_update (fun _ l => l.map Mirror.plain) b.links n l k
  simp only [plain, put, hlinks]

theorem act_plain (a : Deed) : (b.act a).plain = b.plain.act a := by
  have hlink (n : Nat) : b.plain.links n = (b.links n).map Mirror.plain := rfl
  cases a with
  | adjust n s => exact b.plain_put n _
  | send n m => simp only [act, plain_put, hlink, Link.send_map]
  | ask n tag payload => simp only [act, plain_put, hlink, Link.askWord_map, Prod.map_snd]
  | allocate n size alignment flags => simp only [act, plain_put, hlink, Link.allocate_map, Prod.map_snd]
  | lock n handle => simp only [act, plain_put, hlink, Link.lock_map, Prod.map_snd]
  | unlock n handle => simp only [act, plain_put, hlink, Link.unlock_map, Prod.map_snd]
  | free n handle => simp only [act, plain_put, hlink, Link.free_map, Prod.map_snd]
  | openWindow n bus len =>
    simp only [act, hlink, Link.openWindow_map]
    rcases (b.links n).openWindow bus len with ⟨e | w, l⟩
    · exact b.plain_put n l
    · exact congrArg (fun c : Bench Firmware => { c with windows := w :: b.windows }) (b.plain_put n l)
  | closeWindow n i =>
    have hwindows : b.plain.windows = b.windows := rfl
    simp only [act, hwindows, hlink, Link.closeWindow_map, Prod.map_snd]
    cases b.windows[i]? with
    | none => rfl
    | some w =>
      exact congrArg (fun c : Bench Firmware => { c with windows := b.windows.eraseIdx i }) (b.plain_put n _)
  | acquire n size alignment flags =>
    simp only [act, hlink, Link.acquire_map]
    rcases (b.links n).acquire size alignment flags with ⟨e | block, l⟩
    · exact b.plain_put n l
    · exact congrArg (fun c : Bench Firmware => { c with blocks := block :: b.blocks }) (b.plain_put n l)
  | release n i =>
    have hblocks : b.plain.blocks = b.blocks := rfl
    simp only [act, hblocks, hlink, Link.release_map, Prod.map_snd]
    cases b.blocks[i]? with
    | none => rfl
    | some block =>
      exact congrArg (fun c : Bench Firmware => { c with blocks := b.blocks.eraseIdx i }) (b.plain_put n _)
  | write i offset bytes =>
    simp only [act, plain_live, hlink, Link.write_map]
    cases b.live[i]? with
    | none => rfl
    | some w => exact b.plain_put w.owner _

/-- **A bench of mirrors runs as the firmware behind it does.** -/
theorem run_plain (deeds : List Deed) : (b.run deeds).plain = b.plain.run deeds := by
  induction deeds generalizing b with
  | nil => rfl
  | cons a deeds ih =>
    show ((b.act a).run deeds).plain = (b.plain.act a).run deeds
    rw [ih, act_plain]

/-! ## How often a bench allocates -/

/-- fewer allocations at each device than there are handles -/
def IsYoung : Prop :=
  ∀ n, (b.links n).device.IsYoung

theorem askWord_allocations (l : Link Mirror) (tag : Tag) (payload : List UInt32) :
    (l.askWord tag payload).2.device.allocations ≤ l.device.allocations + 1 := by
  cases hm : Message.request tag payload with
  | error e =>
    rw [Link.askWord_eq, Link.ask_of_error hm]
    exact Nat.le_succ _
  | ok m =>
    rw [Link.askWord_device hm]
    exact (l.device.exchange_allocations m).2

theorem allocate_allocations (l : Link Mirror) (size alignment : UInt32) (flags : AllocFlags) :
    (l.allocate size alignment flags).2.device.allocations ≤ l.device.allocations + 1 := by
  rw [(Link.allocate_eq l size alignment flags).2.1]
  exact askWord_allocations l _ _

theorem put_allocations {n : Nat} {l : Link Mirror} (h : l.device.allocations ≤ (b.links n).device.allocations + 1)
    (k : Nat) : ((b.put n l).links k).device.allocations ≤ (b.links k).device.allocations + 1 := by
  by_cases hk : k = n
  · subst hk
    rw [put_links_self]
    exact h
  · rw [put_links_of_ne b l hk]
    exact Nat.le_succ _

/-- A deed allocates once at most. -/
theorem act_allocations (a : Deed) (k : Nat) :
    ((b.act a).links k).device.allocations ≤ (b.links k).device.allocations + 1 := by
  have hlock (j : Nat) : Link.Keeps (fun d : Mirror => d.allocations ≤ j) .lockMemory :=
    Mirror.keeps_allocations (by decide)
  have hunlock (j : Nat) : Link.Keeps (fun d : Mirror => d.allocations ≤ j) .unlockMemory :=
    Mirror.keeps_allocations (by decide)
  have hfree (j : Nat) : Link.Keeps (fun d : Mirror => d.allocations ≤ j) .releaseMemory :=
    Mirror.keeps_allocations (by decide)
  cases a with
  | adjust n s =>
    refine b.put_allocations ?_ k
    exact Nat.le_succ _
  | send n m => exact b.put_allocations ((b.links n).device.exchange_allocations m).2 k
  | ask n tag payload => exact b.put_allocations (askWord_allocations _ _ _) k
  | allocate n size alignment flags => exact b.put_allocations (allocate_allocations _ _ _ _) k
  | lock n handle => exact b.put_allocations (Link.lock_keeps (hlock _) (Nat.le_succ _)) k
  | unlock n handle => exact b.put_allocations (Link.unlock_keeps (hunlock _) (Nat.le_succ _)) k
  | free n handle => exact b.put_allocations (Link.free_keeps (hfree _) (Nat.le_succ _)) k
  | openWindow n bus len =>
    simp only [act]
    have hopened : ((b.links n).openWindow bus len).2.device.allocations ≤ (b.links n).device.allocations + 1 :=
      Nat.le_succ _
    rcases hresult : (b.links n).openWindow bus len with ⟨e | w, l⟩
    · rw [hresult] at hopened
      exact b.put_allocations hopened k
    · rw [hresult] at hopened
      exact b.put_allocations hopened k
  | closeWindow n i =>
    simp only [act]
    cases b.windows[i]? with
    | none => exact Nat.le_succ _
    | some w =>
      have hclosed : ((b.links n).closeWindow w).2.device.allocations ≤ (b.links n).device.allocations + 1 :=
        Nat.le_succ _
      exact b.put_allocations hclosed k
  | acquire n size alignment flags =>
    have hacquired : ((b.links n).acquire size alignment flags).2.device.allocations ≤
        (b.links n).device.allocations + 1 :=
      Link.acquire_keeps (hlock _) (hunlock _) (hfree _) (fun _ _ _ h => h) (allocate_allocations _ _ _ _)
    simp only [act]
    rcases hresult : (b.links n).acquire size alignment flags with ⟨e | block, l⟩
    · rw [hresult] at hacquired
      exact b.put_allocations hacquired k
    · rw [hresult] at hacquired
      exact b.put_allocations hacquired k
  | release n i =>
    cases hblock : b.blocks[i]? with
    | none =>
      simp only [act, hblock]
      exact Nat.le_succ _
    | some block =>
      simp only [act, hblock]
      have hreleased : ((b.links n).release block).2.device.allocations ≤ (b.links n).device.allocations + 1 :=
        Link.release_keeps (hunlock _) (hfree _) (Nat.le_succ _)
      generalize ((b.links n).release block).2 = l at hreleased ⊢
      exact b.put_allocations hreleased k
  | write i offset bytes =>
    simp only [act]
    cases b.live[i]? with
    | none => exact Nat.le_succ _
    | some w =>
      have hwritten : ((b.links w.owner).write w offset bytes).device.allocations ≤
          (b.links w.owner).device.allocations + 1 := Nat.le_succ _
      exact b.put_allocations hwritten k

theorem run_allocations (deeds : List Deed) (k : Nat) :
    ((b.run deeds).links k).device.allocations ≤ (b.links k).device.allocations + deeds.length := by
  induction deeds generalizing b with
  | nil => exact le_refl _
  | cons a deeds ih =>
    calc (((b.act a).run deeds).links k).device.allocations
        ≤ ((b.act a).links k).device.allocations + deeds.length := ih (b.act a)
      _ ≤ (b.links k).device.allocations + 1 + deeds.length := Nat.add_le_add_right (b.act_allocations a k) _
      _ = (b.links k).device.allocations + (a :: deeds).length := by rw [List.length_cons]; omega

/-- Few deeds leave a bench young. -/
theorem isYoung_run_new (deeds : List Deed) (h : deeds.length < 2 ^ 32 - 1) :
    ((new Mirror.fresh).run deeds).IsYoung := fun n =>
  calc (((new Mirror.fresh).run deeds).links n).device.allocations
      ≤ 0 + deeds.length := (new Mirror.fresh).run_allocations deeds n
    _ = deeds.length := Nat.zero_add _
    _ < 2 ^ 32 - 1 := h

end Bench
end MailboxCursor
