/-
The recorder: a device that writes down every call that is made to the device inside it.

`plain` is the projection that forgets the record, so a run over a recorded device is the run over the device itself, with
its calls beside it. `Asks` says that a call is a given request and what answered it; `Made` that a link made certain calls,
and sent the messages among them. `acquire_made` and `release_made` are the calls that an acquisition and a release of GPU
memory make, whatever the device answers.
-/
import MailboxCursor.Proofs.Device.Ask
import MailboxCursor.Proofs.Device.Projection

namespace MailboxCursor

/-- something that was asked of a device, and what came back -/
inductive Call where
  | message (m : Message) (x : Exchange Unit)
  | opened (bus : BusAddress) (len : UInt64) (a : Access Unit Window)
  | closed (w : Window) (a : Access Unit Unit)
  | wrote (w : Window) (offset : Nat) (bytes : List UInt8)

namespace Call

def message? : Call → Option Message
  | message m _ => some m
  | _ => none

/-- the messages among calls -/
def messages (calls : List Call) : List Message :=
  calls.filterMap message?

theorem messages_append (as bs : List Call) : messages (as ++ bs) = messages as ++ messages bs :=
  List.filterMap_append

end Call

structure Recorded (δ : Type) where
  device : δ
  /-- calls made, oldest first -/
  calls : List Call

namespace Recorded

variable {δ : Type}

/-- a device of which nothing is recorded yet -/
def fresh (d : δ) : Recorded δ :=
  ⟨d, []⟩

/-- the device afterwards, and one call more -/
def log (r : Recorded δ) (d : δ) (call : Call) : Recorded δ :=
  ⟨d, r.calls ++ [call]⟩

variable [Device δ]

instance : Device (Recorded δ) where
  exchange r m :=
    let x := Device.exchange r.device m
    x.map fun d => r.log d (.message m (x.map fun _ => ()))
  openWindow r bus len :=
    let a := Device.openWindow r.device bus len
    a.map fun d => r.log d (.opened bus len (a.map fun _ => ()))
  closeWindow r w :=
    let a := Device.closeWindow r.device w
    a.map fun d => r.log d (.closed w (a.map fun _ => ()))
  read r w := Device.read r.device w
  write r w offset bytes := r.log (Device.write r.device w offset bytes) (.wrote w offset bytes)

/-- the device without its record -/
def plain : Projection (Recorded δ) δ where
  toFun := device
  exchange _ _ := rfl
  openWindow _ _ _ := rfl
  closeWindow _ _ := rfl
  read _ _ := rfl
  write _ _ _ _ := rfl

end Recorded

/-- the call is a request for one word, and this is the answer to it -/
inductive Asks (tag : Tag) (payload : List UInt32) : Except MailboxError UInt32 → Call → Prop where
  | mk {m : Message} {x : Exchange Unit} (hm : Message.request tag payload = .ok m) :
    Asks tag payload (x.word m) (.message m x)

/-- the calls of an acquisition of GPU memory, by how it ends -/
inductive Acquires (size alignment : UInt32) (flags : AllocFlags) : Except MailboxError GpuBlock → List Call → Prop where
  | refused {r : Except MailboxError UInt32} {e : MailboxError} {a : Call}
    (allocated : Asks .allocateMemory [size, alignment, flags.bits] r a) (failed : Link.handleOf size r = .error e) :
    Acquires size alignment flags (.error e) [a]
  | unlocked {handle : MemoryHandle} {r r' : Except MailboxError UInt32} {e : MailboxError} {a l f : Call}
    (allocated : Asks .allocateMemory [size, alignment, flags.bits] (.ok handle.val) a) (nonzero : handle.val ≠ 0)
    (locked : Asks .lockMemory [handle.val] r l) (failed : Link.busOf handle r = .error e)
    (freed : Asks .releaseMemory [handle.val] r' f) :
    Acquires size alignment flags (.error e) [a, l, f]
  | unmapped {handle : MemoryHandle} {bus : BusAddress} {o : Access Unit Window} {r r' : Except MailboxError UInt32}
    {e : MailboxError} {a l u f : Call}
    (allocated : Asks .allocateMemory [size, alignment, flags.bits] (.ok handle.val) a) (nonzero : handle.val ≠ 0)
    (locked : Asks .lockMemory [handle.val] (.ok bus.val) l) (somewhere : bus.val ≠ 0) (failed : o.result = .error e)
    (unlocked : Asks .unlockMemory [handle.val] r u) (freed : Asks .releaseMemory [handle.val] r' f) :
    Acquires size alignment flags (.error e) [a, l, .opened bus size.toUInt64 o, u, f]
  | acquired {handle : MemoryHandle} {bus : BusAddress} {w : Window} {o : Access Unit Window} {a l : Call}
    (allocated : Asks .allocateMemory [size, alignment, flags.bits] (.ok handle.val) a) (nonzero : handle.val ≠ 0)
    (locked : Asks .lockMemory [handle.val] (.ok bus.val) l) (somewhere : bus.val ≠ 0) (mapped : o.result = .ok w) :
    Acquires size alignment flags (.ok ⟨handle, bus, w, size⟩) [a, l, .opened bus size.toUInt64 o]

namespace Link

variable {δ : Type} {l l₁ l₂ l₃ : Link (Recorded δ)} {as bs : List Call}

/-- on the way from one state to another the link made these calls, and sent their messages -/
structure Made (l : Link (Recorded δ)) (calls : List Call) (l' : Link (Recorded δ)) : Prop where
  recorded : l'.device.calls = l.device.calls ++ calls
  sent : l'.sent.toList = l.sent.toList ++ Call.messages calls

theorem Made.refl (l : Link (Recorded δ)) : Made l [] l :=
  ⟨(List.append_nil _).symm, (List.append_nil _).symm⟩

theorem Made.trans (h : Made l₁ as l₂) (h' : Made l₂ bs l₃) : Made l₁ (as ++ bs) l₃ := by
  refine ⟨?_, ?_⟩
  · rw [h'.recorded, h.recorded, List.append_assoc]
  · rw [h'.sent, h.sent, Call.messages_append, List.append_assoc]

/-- What is no call leaves no trace in the record: events, above all. -/
theorem Made.congr (h : Made l₁ as l₂) (hdevice : l₃.device = l₂.device) (hsent : l₃.sent = l₂.sent) : Made l₁ as l₃ :=
  ⟨by rw [hdevice, h.recorded], by rw [hsent, h.sent]⟩

variable [Device δ] {tag : Tag} {payload : List UInt32} {size alignment : UInt32} {flags : AllocFlags}
  {handle : MemoryHandle}

theorem askWord_made (l : Link (Recorded δ)) (tag : Tag) (payload : List UInt32) (hfit : payload.length ≤ 26) :
    ∃ call, Asks tag payload (l.askWord tag payload).1 call ∧ Made l [call] (l.askWord tag payload).2 := by
  obtain ⟨m, hm⟩ := Message.request_eq_ok tag hfit
  refine ⟨.message m ((Device.exchange l.device m).map fun _ => ()), ?_, ?_, ?_⟩
  · rw [askWord_result hm]
    exact Asks.mk (x := (Device.exchange l.device m).map fun _ => ()) hm
  · rw [askWord_device hm]
    rfl
  · rw [askWord_sent hm, Array.toList_push]
    rfl

theorem askVersion_made (l : Link (Recorded δ)) :
    ∃ r call, Asks .getFirmwareVersion [] r call ∧ (l.askVersion).1 = r.map FirmwareVersion.mk ∧
      Made l [call] (l.askVersion).2 := by
  obtain ⟨hresult, hdevice, hsent⟩ := askVersion_eq l
  obtain ⟨call, hasks, hmade⟩ := l.askWord_made .getFirmwareVersion [] (by decide)
  exact ⟨_, call, hasks, hresult, hmade.congr hdevice hsent⟩

theorem allocate_made (l : Link (Recorded δ)) (size alignment : UInt32) (flags : AllocFlags) :
    ∃ r call, Asks .allocateMemory [size, alignment, flags.bits] r call ∧
      (l.allocate size alignment flags).1 = handleOf size r ∧ Made l [call] (l.allocate size alignment flags).2 := by
  obtain ⟨hresult, hdevice, hsent⟩ := allocate_eq l size alignment flags
  obtain ⟨call, hasks, hmade⟩ :=
    l.askWord_made .allocateMemory [size, alignment, flags.bits] (by simp)
  exact ⟨_, call, hasks, hresult, hmade.congr hdevice hsent⟩

theorem lock_made (l : Link (Recorded δ)) (handle : MemoryHandle) :
    ∃ r call, Asks .lockMemory [handle.val] r call ∧ (l.lock handle).1 = busOf handle r ∧
      Made l [call] (l.lock handle).2 := by
  obtain ⟨hresult, hdevice, hsent⟩ := lock_eq l handle
  obtain ⟨call, hasks, hmade⟩ := l.askWord_made .lockMemory [handle.val] (by simp)
  exact ⟨_, call, hasks, hresult, hmade.congr hdevice hsent⟩

theorem unlock_made (l : Link (Recorded δ)) (handle : MemoryHandle) :
    ∃ r call, Asks .unlockMemory [handle.val] r call ∧ Made l [call] (l.unlock handle).2 := by
  obtain ⟨-, hdevice, hsent⟩ := unlock_eq l handle
  obtain ⟨call, hasks, hmade⟩ := l.askWord_made .unlockMemory [handle.val] (by simp)
  exact ⟨_, call, hasks, hmade.congr hdevice hsent⟩

theorem free_made (l : Link (Recorded δ)) (handle : MemoryHandle) :
    ∃ r call, Asks .releaseMemory [handle.val] r call ∧ Made l [call] (l.free handle).2 := by
  obtain ⟨-, hdevice, hsent⟩ := free_eq l handle
  obtain ⟨call, hasks, hmade⟩ := l.askWord_made .releaseMemory [handle.val] (by simp)
  exact ⟨_, call, hasks, hmade.congr hdevice hsent⟩

theorem openWindow_made (l : Link (Recorded δ)) (bus : BusAddress) (len : UInt64) :
    ∃ a, (l.openWindow bus len).1 = a.result ∧ Made l [.opened bus len a] (l.openWindow bus len).2 :=
  ⟨(Device.openWindow l.device.device bus len).map fun _ => (), rfl, rfl, (List.append_nil _).symm⟩

theorem closeWindow_made (l : Link (Recorded δ)) (w : Window) : ∃ a, Made l [.closed w a] (l.closeWindow w).2 :=
  ⟨(Device.closeWindow l.device.device w).map fun _ => (), rfl, (List.append_nil _).symm⟩

theorem write_made (l : Link (Recorded δ)) (w : Window) (offset : Nat) (bytes : List UInt8) :
    ∃ written, Made l [.wrote w offset written] (l.write w offset bytes) :=
  ⟨bytes.take (w.room offset bytes.length), rfl, (List.append_nil _).symm⟩

theorem unwindAllocated_made (l : Link (Recorded δ)) (handle : MemoryHandle) :
    ∃ r f, Asks .releaseMemory [handle.val] r f ∧ Made l [f] (l.unwindAllocated handle) := by
  obtain ⟨r, f, hasks, hmade⟩ := l.free_made handle
  exact ⟨r, f, hasks, hmade.congr (noteUnwinding_device _ _ _ _) (noteUnwinding_sent _ _ _ _)⟩

theorem unwindLocked_made (l : Link (Recorded δ)) (handle : MemoryHandle) :
    ∃ r u r' f, Asks .unlockMemory [handle.val] r u ∧ Asks .releaseMemory [handle.val] r' f ∧
      Made l [u, f] (l.unwindLocked handle) := by
  obtain ⟨r, u, hunlocked, hmade⟩ := l.unlock_made handle
  have hnoted : Made l [u] ((l.unlock handle).2.noteUnwinding "unlock" handle (l.unlock handle).1) :=
    hmade.congr (noteUnwinding_device _ _ _ _) (noteUnwinding_sent _ _ _ _)
  obtain ⟨r', f, hfreed, hmade'⟩ :=
    ((l.unlock handle).2.noteUnwinding "unlock" handle (l.unlock handle).1).unwindAllocated_made handle
  exact ⟨r, u, r', f, hunlocked, hfreed, hnoted.trans hmade'⟩

/-- Whatever the device answers, an acquisition makes the calls of one of the four ways in which it can end. -/
theorem acquire_made (l : Link (Recorded δ)) (size alignment : UInt32) (flags : AllocFlags) :
    ∃ calls, Acquires size alignment flags (l.acquire size alignment flags).1 calls ∧
      Made l calls (l.acquire size alignment flags).2 := by
  obtain ⟨r, a, hasksa, hr, hmadea⟩ := l.allocate_made size alignment flags
  rcases acquire_cases l size alignment flags with
    ⟨e, l₁, h₁, h⟩ | ⟨b, l₁, e, l₂, h₁, h₂, h⟩ | ⟨b, l₁, bus, l₂, e, l₃, h₁, h₂, h₃, h⟩ |
      ⟨b, l₁, bus, l₂, w, l₃, event, h₁, h₂, h₃, h⟩
  all_goals
    rw [h₁] at hr hmadea
    rw [h]
  · exact ⟨[a], .refused hasksa hr.symm, hmadea⟩
  all_goals
    obtain ⟨rfl, hnonzero⟩ := handleOf_eq_ok hr.symm
    obtain ⟨r, k, hasksk, hr, hmadek⟩ := l₁.lock_made b
    rw [h₂] at hr hmadek
  · obtain ⟨r', f, hfreed, hmadef⟩ := l₂.unwindAllocated_made b
    exact ⟨[a, k, f], .unlocked hasksa hnonzero hasksk hr.symm hfreed, (hmadea.trans hmadek).trans hmadef⟩
  all_goals
    obtain ⟨rfl, hsomewhere⟩ := busOf_eq_ok hr.symm
    obtain ⟨o, ho, hmadeo⟩ := l₂.openWindow_made bus size.toUInt64
    rw [h₃] at ho hmadeo
  · obtain ⟨r, u, r', f, hunlocked, hfreed, hmadef⟩ := l₃.unwindLocked_made b
    exact ⟨_, .unmapped hasksa hnonzero hasksk hsomewhere ho.symm hunlocked hfreed,
      ((hmadea.trans hmadek).trans hmadeo).trans hmadef⟩
  · exact ⟨_, .acquired hasksa hnonzero hasksk hsomewhere ho.symm, ((hmadea.trans hmadek).trans hmadeo).congr rfl rfl⟩

/-- A release closes the window, unlocks and frees, whatever comes of any of it. -/
theorem release_made (l : Link (Recorded δ)) (b : GpuBlock) :
    ∃ a r u r' f, Asks .unlockMemory [b.handle.val] r u ∧ Asks .releaseMemory [b.handle.val] r' f ∧
      Made l [.closed b.window a, u, f] (l.release b).2 := by
  obtain ⟨a, hclosed⟩ := l.closeWindow_made b.window
  obtain ⟨r, u, hunlocked, hmadeu⟩ := Link.unlock_made (l.closeWindow b.window).2 b.handle
  obtain ⟨r', f, hfreed, hmadef⟩ := Link.free_made ((l.closeWindow b.window).2.unlock b.handle).2 b.handle
  exact ⟨a, r, u, r', f, hunlocked, hfreed, ((hclosed.trans hmadeu).trans hmadef).congr rfl rfl⟩

end Link
end MailboxCursor
