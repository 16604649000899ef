/-
What one request does, over any device.

A request is one exchange: the message composed for it goes to the device once, and the answer is what the exchange
brought (`Exchange.answer`). `ask_device`, `ask_sent` and `ask_result` say so; `askWord` and the four memory requests
follow. `ask_keeps` is the form for invariants: what every exchange of a tag keeps, every request for it keeps.
`acquire_cases` lists the four ways in which an acquisition can end; `FailsAt.sends` and `acquire_sends` say which requests are
made until then, and `release_sends` which requests a release makes.
-/
import MailboxCursor.GpuBlock
import MailboxCursor.Proofs.Message.Request

namespace MailboxCursor

variable {δ : Type}

/-- what an exchange of the message `m` tells the one who asked for `n` words -/
def Exchange.answer (x : Exchange δ) (m : Message) (n : Nat) : Except MailboxError (List UInt32) :=
  match x.result with
  | .error e => .error e
  | .ok () =>
    match ({ m with words := x.words } : Message).response with
    | .error e => .error (.exchangeFailed m.tag (.response e))
    | .ok r =>
      match r.first n with
      | .error e => .error (.exchangeFailed m.tag (.response e))
      | .ok ws => .ok ws

/-- the answer of one word -/
def Exchange.word (x : Exchange δ) (m : Message) : Except MailboxError UInt32 :=
  (x.answer m 1).map fun ws => ws.headD 0

namespace Link

@[simp] theorem note_device (l : Link δ) (e : Event) : (l.note e).device = l.device := rfl

@[simp] theorem note_sent (l : Link δ) (e : Event) : (l.note e).sent = l.sent := rfl

@[simp] theorem noteUnwinding_device (l : Link δ) (step : String) (h : MemoryHandle) (r : Except MailboxError Unit) :
    (l.noteUnwinding step h r).device = l.device := by
  cases r <;> rfl

@[simp] theorem noteUnwinding_sent (l : Link δ) (step : String) (h : MemoryHandle) (r : Except MailboxError Unit) :
    (l.noteUnwinding step h r).sent = l.sent := by
  cases r <;> rfl

variable [Device δ] {l : Link δ} {tag : Tag} {payload : List UInt32} {m : Message} {n : Nat}

/-! ## One request -/

/-- A request that can be composed is one exchange of the composed message. -/
theorem ask_eq (hm : Message.request tag payload = .ok m) :
    (l.ask tag payload n).1 = (Device.exchange l.device m).answer m n ∧
      (l.ask tag payload n).2.device = (Device.exchange l.device m).device ∧
      (l.ask tag payload n).2.sent = l.sent.push m := by
  have htag : m.tag = tag.id := Message.tag_of_compose hm
  simp only [ask, hm, sendChecked, send, Exchange.answer, note_device, note_sent, ← htag]
  rcases (Device.exchange l.device m).result with e | ⟨⟩
  · exact ⟨rfl, rfl, rfl⟩
  · dsimp only
    rcases ({ m with words := (Device.exchange l.device m).words } : Message).response with e | r
    · exact ⟨rfl, rfl, rfl⟩
    · dsimp only
      rcases r.first n with e | ws
      · exact ⟨rfl, rfl, rfl⟩
      · exact ⟨rfl, rfl, rfl⟩

theorem ask_result (hm : Message.request tag payload = .ok m) :
    (l.ask tag payload n).1 = (Device.exchange l.device m).answer m n :=
  (ask_eq hm).1

theorem ask_device (hm : Message.request tag payload = .ok m) :
    (l.ask tag payload n).2.device = (Device.exchange l.device m).device :=
  (ask_eq hm).2.1

theorem ask_sent (hm : Message.request tag payload = .ok m) : (l.ask tag payload n).2.sent = l.sent.push m :=
  (ask_eq hm).2.2

/-- A request that cannot be composed sends nothing. -/
theorem ask_of_error {e : MessageError} (hm : Message.request tag payload = .error e) :
    l.ask tag payload n = (.error (.message e), l) := by
  simp only [ask, hm]

theorem askWord_eq : l.askWord tag payload =
    ((l.ask tag payload 1).1.map fun ws => ws.headD 0, (l.ask tag payload 1).2) := by
  rw [askWord]
  rcases l.ask tag payload 1 with ⟨_ | _, _⟩ <;> rfl

theorem askWord_result (hm : Message.request tag payload = .ok m) :
    (l.askWord tag payload).1 = (Device.exchange l.device m).word m := by
  rw [askWord_eq, ask_result hm, Exchange.word]

theorem askWord_device (hm : Message.request tag payload = .ok m) :
    (l.askWord tag payload).2.device = (Device.exchange l.device m).device := by
  rw [askWord_eq, ask_device hm]

theorem askWord_sent (hm : Message.request tag payload = .ok m) :
    (l.askWord tag payload).2.sent = l.sent.push m := by
  rw [askWord_eq, ask_sent hm]

theorem askVersion_eq (l : Link δ) : (l.askVersion).1 = (l.askWord .getFirmwareVersion []).1.map FirmwareVersion.mk ∧
    (l.askVersion).2.device = (l.askWord .getFirmwareVersion []).2.device ∧
    (l.askVersion).2.sent = (l.askWord .getFirmwareVersion []).2.sent := by
  rw [askVersion]
  rcases l.askWord .getFirmwareVersion [] with ⟨e | v, l'⟩
  · exact ⟨rfl, rfl, rfl⟩
  · exact ⟨rfl, rfl, rfl⟩

/-! ## Memory requests -/

variable {size alignment : UInt32} {flags : AllocFlags} {handle : MemoryHandle}

/-- what the answer to an allocation means -/
def handleOf (size : UInt32) : Except MailboxError UInt32 → Except MailboxError MemoryHandle
  | .error e => .error e
  | .ok handle => if handle = 0 then .error (.allocationRefused size) else .ok ⟨handle⟩

/-- what the answer to a lock means -/
def busOf (handle : MemoryHandle) : Except MailboxError UInt32 → Except MailboxError BusAddress
  | .error e => .error e
  | .ok bus => if bus = 0 then .error (.lockFailed handle) else .ok ⟨bus⟩

/-- what a status means, if any but zero is the failure `failed` -/
def doneOf (failed : UInt32 → MailboxError) : Except MailboxError UInt32 → Except MailboxError Unit
  | .error e => .error e
  | .ok status => if status = 0 then .ok () else .error (failed status)

theorem handleOf_eq_ok {r : Except MailboxError UInt32} (h : handleOf size r = .ok handle) :
    r = .ok handle.val ∧ handle.val ≠ 0 := by
  cases r with
  | error e => cases h
  | ok w =>
    rw [handleOf] at h
    by_cases hw : w = 0
    · rw [if_pos hw] at h
      cases h
    · rw [if_neg hw] at h
      obtain rfl := Except.ok.inj h
      exact ⟨rfl, hw⟩

theorem busOf_eq_ok {bus : BusAddress} {r : Except MailboxError UInt32} (h : busOf handle r = .ok bus) :
    r = .ok bus.val ∧ bus.val ≠ 0 := by
  cases r with
  | error e => cases h
  | ok w =>
    rw [busOf] at h
    by_cases hw : w = 0
    · rw [if_pos hw] at h
      cases h
    · rw [if_neg hw] at h
      obtain rfl := Except.ok.inj h
      exact ⟨rfl, hw⟩

/-- The memory requests are requests of one word: the same exchange, the same messages. -/
theorem allocate_eq (l : Link δ) (size alignment : UInt32) (flags : AllocFlags) :
    (l.allocate size alignment flags).1 =
      handleOf size (l.askWord .allocateMemory [size, alignment, flags.bits]).1 ∧
    (l.allocate size alignment flags).2.device =
      (l.askWord .allocateMemory [size, alignment, flags.bits]).2.device ∧
    (l.allocate size alignment flags).2.sent = (l.askWord .allocateMemory [size, alignment, flags.bits]).2.sent := by
  rw [allocate]
  rcases l.askWord .allocateMemory [size, alignment, flags.bits] with ⟨e | h, l'⟩
  · exact ⟨rfl, rfl, rfl⟩
  · simp only [handleOf]
    split_ifs
    · exact ⟨rfl, rfl, rfl⟩
    · exact ⟨rfl, rfl, rfl⟩

theorem lock_eq (l : Link δ) (handle : MemoryHandle) :
    (l.lock handle).1 = busOf handle (l.askWord .lockMemory [handle.val]).1 ∧
    (l.lock handle).2.device = (l.askWord .lockMemory [handle.val]).2.device ∧
    (l.lock handle).2.sent = (l.askWord .lockMemory [handle.val]).2.sent := by
  rw [lock]
  rcases l.askWord .lockMemory [handle.val] with ⟨e | bus, l'⟩
  · exact ⟨rfl, rfl, rfl⟩
  · simp only [busOf]
    split_ifs
    · exact ⟨rfl, rfl, rfl⟩
    · exact ⟨rfl, rfl, rfl⟩

theorem unlock_eq (l : Link δ) (handle : MemoryHandle) :
    (l.unlock handle).1 = doneOf (.unlockFailed handle) (l.askWord .unlockMemory [handle.val]).1 ∧
    (l.unlock handle).2.device = (l.askWord .unlockMemory [handle.val]).2.device ∧
    (l.unlock handle).2.sent = (l.askWord .unlockMemory [handle.val]).2.sent := by
  rw [unlock]
  rcases l.askWord .unlockMemory [handle.val] with ⟨e | status, l'⟩
  · exact ⟨rfl, rfl, rfl⟩
  · simp only [doneOf]
    split_ifs
    · exact ⟨rfl, rfl, rfl⟩
    · exact ⟨rfl, rfl, rfl⟩

theorem free_eq (l : Link δ) (handle : MemoryHandle) :
    (l.free handle).1 = doneOf (.freeFailed handle) (l.askWord .releaseMemory [handle.val]).1 ∧
    (l.free handle).2.device = (l.askWord .releaseMemory [handle.val]).2.device ∧
    (l.free handle).2.sent = (l.askWord .releaseMemory [handle.val]).2.sent := by
  rw [free]
  rcases l.askWord .releaseMemory [handle.val] with ⟨e | status, l'⟩
  · exact ⟨rfl, rfl, rfl⟩
  · simp only [doneOf]
    split_ifs
    · exact ⟨rfl, rfl, rfl⟩
    · exact ⟨rfl, rfl, rfl⟩

/-! ## Both ways as a whole -/

/-- An acquisition ends after the allocation, after the lock, after the mapping, or with a block. -/
theorem acquire_cases (l : Link δ) (size alignment : UInt32) (flags : AllocFlags) :
    (∃ e l₁, l.allocate size alignment flags = (.error e, l₁) ∧ l.acquire size alignment flags = (.error e, l₁)) ∨
    (∃ h l₁ e l₂, l.allocate size alignment flags = (.ok h, l₁) ∧ l₁.lock h = (.error e, l₂) ∧
      l.acquire size alignment flags = (.error e, l₂.unwindAllocated h)) ∨
    (∃ h l₁ bus l₂ e l₃, l.allocate size alignment flags = (.ok h, l₁) ∧ l₁.lock h = (.ok bus, l₂) ∧
      l₂.openWindow bus size.toUInt64 = (.error e, l₃) ∧
      l.acquire size alignment flags = (.error e, l₃.unwindLocked h)) ∨
    ∃ h l₁ bus l₂ w l₃ event, l.allocate size alignment flags = (.ok h, l₁) ∧ l₁.lock h = (.ok bus, l₂) ∧
      l₂.openWindow bus size.toUInt64 = (.ok w, l₃) ∧
      l.acquire size alignment flags = (.ok ⟨h, bus, w, size⟩, l₃.note event) := by
  rw [acquire]
  rcases hallocated : l.allocate size alignment flags with ⟨e | h, l₁⟩
  · exact Or.inl ⟨e, l₁, rfl, rfl⟩
  · right
    rcases hlocked : l₁.lock h with ⟨e | bus, l₂⟩
    · exact Or.inl ⟨h, l₁, e, l₂, rfl, hlocked, by simp only [hlocked]⟩
    · right
      rcases hopened : l₂.openWindow bus size.toUInt64 with ⟨e | w, l₃⟩
      · exact Or.inl ⟨h, l₁, bus, l₂, e, l₃, rfl, hlocked, hopened, by simp only [hlocked, hopened]⟩
      · exact Or.inr ⟨h, l₁, bus, l₂, w, l₃, _, rfl, hlocked, hopened, by simp only [hlocked, hopened]; rfl⟩

/-! ## How an acquisition ends -/

/-- an acquisition whose first step to fail does so with `e`: the link afterwards, and the requests that were made -/
inductive FailsAt (l : Link δ) (size alignment : UInt32) (flags : AllocFlags) (e : MailboxError) :
    Link δ → List (Tag × List UInt32) → Prop where
  | allocate {l₁ : Link δ} (hallocated : l.allocate size alignment flags = (.error e, l₁)) :
      FailsAt l size alignment flags e l₁ [(.allocateMemory, [size, alignment, flags.bits])]
  | lock {h : MemoryHandle} {l₁ l₂ : Link δ} (hallocated : l.allocate size alignment flags = (.ok h, l₁))
      (hlocked : l₁.lock h = (.error e, l₂)) :
      FailsAt l size alignment flags e (l₂.unwindAllocated h)
        [(.allocateMemory, [size, alignment, flags.bits]), (.lockMemory, [h.val]), (.releaseMemory, [h.val])]
  | map {h : MemoryHandle} {bus : BusAddress} {l₁ l₂ l₃ : Link δ}
      (hallocated : l.allocate size alignment flags = (.ok h, l₁)) (hlocked : l₁.lock h = (.ok bus, l₂))
      (hopened : l₂.openWindow bus size.toUInt64 = (.error e, l₃)) :
      FailsAt l size alignment flags e (l₃.unwindLocked h)
        [(.allocateMemory, [size, alignment, flags.bits]), (.lockMemory, [h.val]), (.unlockMemory, [h.val]),
          (.releaseMemory, [h.val])]

/-- **An acquisition that fails reports the first failure**, and takes back what was done until then. -/
theorem acquire_failed {l' : Link δ} {e : MailboxError} (h : l.acquire size alignment flags = (.error e, l')) :
    ∃ rs, l.FailsAt size alignment flags e l' rs := by
  rcases acquire_cases l size alignment flags with
    ⟨e, l₁, e₁, e₂⟩ | ⟨b, l₁, e, l₂, e₁, e₂, e₃⟩ | ⟨b, l₁, bus, l₂, e, l₃, e₁, e₂, e₃, e₄⟩ |
      ⟨b, l₁, bus, l₂, w, l₃, event, e₁, e₂, e₃, e₄⟩
  · cases e₂.symm.trans h
    exact ⟨_, .allocate e₁⟩
  · cases e₃.symm.trans h
    exact ⟨_, .lock e₁ e₂⟩
  · cases e₄.symm.trans h
    exact ⟨_, .map e₁ e₂ e₃⟩
  · cases e₄.symm.trans h

/-- An acquisition that brings a block has taken its three steps. -/
theorem acquire_ok {l' : Link δ} {g : GpuBlock} (h : l.acquire size alignment flags = (.ok g, l')) :
    ∃ l₁ l₂ l₃ event, l.allocate size alignment flags = (.ok g.handle, l₁) ∧ l₁.lock g.handle = (.ok g.bus, l₂) ∧
      l₂.openWindow g.bus size.toUInt64 = (.ok g.window, l₃) ∧ g.size = size ∧ l' = l₃.note event := by
  rcases acquire_cases l size alignment flags with
    ⟨e, l₁, e₁, e₂⟩ | ⟨b, l₁, e, l₂, e₁, e₂, e₃⟩ | ⟨b, l₁, bus, l₂, e, l₃, e₁, e₂, e₃, e₄⟩ |
      ⟨b, l₁, bus, l₂, w, l₃, event, e₁, e₂, e₃, e₄⟩
  · cases e₂.symm.trans h
  · cases e₃.symm.trans h
  · cases e₄.symm.trans h
  · cases e₄.symm.trans h
    exact ⟨l₁, l₂, l₃, event, e₁, e₂, e₃, rfl, rfl⟩

/-! ## Requests one after the other -/

/-- from `l` to `l'` one message was sent for each of the requests, in their order, and no other -/
def Sends (l : Link δ) (rs : List (Tag × List UInt32)) (l' : Link δ) : Prop :=
  ∃ ms, List.Forall₂ (fun r m => Message.request r.1 r.2 = .ok m) rs ms ∧ l'.sent.toList = l.sent.toList ++ ms

section Sends

omit [Device δ]

variable {l₁ l₂ : Link δ} {rs rs' : List (Tag × List UInt32)}

theorem Sends.congr (h : l.Sends rs l₁) (hsent : l₂.sent = l₁.sent) : l.Sends rs l₂ := by
  obtain ⟨ms, hms, happend⟩ := h
  exact ⟨ms, hms, by rw [hsent, happend]⟩

theorem Sends.trans (h : l.Sends rs l₁) (h' : l₁.Sends rs' l₂) : l.Sends (rs ++ rs') l₂ := by
  obtain ⟨ms, hms, happend⟩ := h
  obtain ⟨ms', hms', happend'⟩ := h'
  exact ⟨ms ++ ms', List.rel_append hms hms', by rw [happend', happend, List.append_assoc]⟩

end Sends

theorem askWord_sends (l : Link δ) {tag : Tag} {payload : List UInt32} (hfits : payload.length ≤ 26) :
    l.Sends [(tag, payload)] (l.askWord tag payload).2 := by
  obtain ⟨m, hm⟩ := Message.request_eq_ok tag hfits
  refine ⟨[m], .cons hm .nil, ?_⟩
  rw [askWord_sent hm, Array.toList_push]

theorem askVersion_sends (l : Link δ) : l.Sends [(.getFirmwareVersion, [])] l.askVersion.2 := by
  refine (l.askWord_sends (by simp)).congr ?_
  rw [(askVersion_eq l).2.2]

section Steps

variable {l₁ : Link δ} {bus : BusAddress}

theorem allocate_sends {r : Except MailboxError MemoryHandle} (h : l.allocate size alignment flags = (r, l₁)) :
    l.Sends [(.allocateMemory, [size, alignment, flags.bits])] l₁ := by
  refine (l.askWord_sends (by simp)).congr ?_
  rw [← (allocate_eq l size alignment flags).2.2, h]

theorem lock_sends {r : Except MailboxError BusAddress} (h : l.lock handle = (r, l₁)) :
    l.Sends [(.lockMemory, [handle.val])] l₁ := by
  refine (l.askWord_sends (by simp)).congr ?_
  rw [← (lock_eq l handle).2.2, h]

theorem unlock_sends (l : Link δ) (handle : MemoryHandle) :
    l.Sends [(.unlockMemory, [handle.val])] (l.unlock handle).2 := by
  refine (l.askWord_sends (by simp)).congr ?_
  rw [← (unlock_eq l handle).2.2]

theorem free_sends (l : Link δ) (handle : MemoryHandle) :
    l.Sends [(.releaseMemory, [handle.val])] (l.free handle).2 := by
  refine (l.askWord_sends (by simp)).congr ?_
  rw [← (free_eq l handle).2.2]

theorem unwindAllocated_sends (l : Link δ) (handle : MemoryHandle) :
    l.Sends [(.releaseMemory, [handle.val])] (l.unwindAllocated handle) :=
  (l.free_sends handle).congr (noteUnwinding_sent _ _ _ _)

theorem unwindLocked_sends (l : Link δ) (handle : MemoryHandle) :
    l.Sends [(.unlockMemory, [handle.val]), (.releaseMemory, [handle.val])] (l.unwindLocked handle) := by
  have hunlocked : l.Sends [(.unlockMemory, [handle.val])]
      ((l.unlock handle).2.noteUnwinding "unlock" handle (l.unlock handle).1) :=
    (l.unlock_sends handle).congr (noteUnwinding_sent _ _ _ _)
  exact hunlocked.trans (unwindAllocated_sends _ handle)

/-- Opening a window sends nothing. -/
theorem openWindow_sent {len : UInt64} {r : Except MailboxError Window} (h : l.openWindow bus len = (r, l₁)) :
    l₁.sent = l.sent :=
  congrArg (fun done => done.2.sent) h.symm

end Steps

/-- A failed acquisition sends a request for each step until the one that failed, and for each that is taken back. -/
theorem FailsAt.sends {l' : Link δ} {e : MailboxError} {rs : List (Tag × List UInt32)}
    (h : l.FailsAt size alignment flags e l' rs) : l.Sends rs l' := by
  cases h with
  | allocate hallocated => exact allocate_sends hallocated
  | lock hallocated hlocked =>
    exact ((allocate_sends hallocated).trans (lock_sends hlocked)).trans (unwindAllocated_sends _ _)
  | map hallocated hlocked hopened =>
    have hup := ((allocate_sends hallocated).trans (lock_sends hlocked)).congr (openWindow_sent hopened)
    exact hup.trans (unwindLocked_sends _ _)

/-- An acquisition that brings a block asks for it, and locks it. -/
theorem acquire_sends {l' : Link δ} {g : GpuBlock} (h : l.acquire size alignment flags = (.ok g, l')) :
    l.Sends [(.allocateMemory, [size, alignment, flags.bits]), (.lockMemory, [g.handle.val])] l' := by
  obtain ⟨l₁, l₂, l₃, event, hallocated, hlocked, hopened, -, rfl⟩ := acquire_ok h
  have hsent : l₃.sent = l₂.sent := openWindow_sent hopened
  exact ((allocate_sends hallocated).trans (lock_sends hlocked)).congr hsent

/-- A release asks for the block to be unlocked and freed, whatever comes of either. -/
theorem release_sends (l : Link δ) (b : GpuBlock) :
    l.Sends [(.unlockMemory, [b.handle.val]), (.releaseMemory, [b.handle.val])] (l.release b).2 := by
  obtain ⟨l₁, hclosed⟩ : ∃ l₁, (l.closeWindow b.window).2 = l₁ := ⟨_, rfl⟩
  obtain ⟨l₂, hunlocked⟩ : ∃ l₂, (l₁.unlock b.handle).2 = l₂ := ⟨_, rfl⟩
  have hunlock : l₁.Sends [(.unlockMemory, [b.handle.val])] l₂ := by
    rw [← hunlocked]
    exact l₁.unlock_sends b.handle
  -- closing the window sends nothing
  have hsame : l.Sends [] l₁ := by
    rw [← hclosed]
    exact ⟨[], .nil, (List.append_nil _).symm⟩
  refine ((hsame.trans hunlock).trans (l₂.free_sends b.handle)).congr ?_
  simp only [release, hclosed, hunlocked, note_sent]

/-! ## What every exchange keeps -/

/-- every exchange of a message for `tag` keeps `P` -/
def Keeps (P : δ → Prop) (tag : Tag) : Prop :=
  ∀ d m, m.tag = tag.id → P d → P (Device.exchange d m).device

variable {P : δ → Prop}

theorem ask_keeps (hx : Keeps P tag) (h : P l.device) : P (l.ask tag payload n).2.device := by
  cases hm : Message.request tag payload with
  | error e => rw [ask_of_error hm]; exact h
  | ok m => rw [ask_device hm]; exact hx _ m (Message.tag_of_compose hm) h

theorem askWord_keeps (hx : Keeps P tag) (h : P l.device) : P (l.askWord tag payload).2.device := by
  rw [askWord_eq]
  exact ask_keeps hx h

theorem askVersion_keeps (hx : Keeps P .getFirmwareVersion) (h : P l.device) : P (l.askVersion).2.device := by
  rw [(askVersion_eq l).2.1]
  exact askWord_keeps hx h

theorem allocate_keeps (hx : Keeps P .allocateMemory) (h : P l.device) : P (l.allocate size alignment flags).2.device := by
  rw [(allocate_eq l size alignment flags).2.1]
  exact askWord_keeps hx h

theorem lock_keeps (hx : Keeps P .lockMemory) (h : P l.device) : P (l.lock handle).2.device := by
  rw [(lock_eq l handle).2.1]
  exact askWord_keeps hx h

theorem unlock_keeps (hx : Keeps P .unlockMemory) (h : P l.device) : P (l.unlock handle).2.device := by
  rw [(unlock_eq l handle).2.1]
  exact askWord_keeps hx h

theorem free_keeps (hx : Keeps P .releaseMemory) (h : P l.device) : P (l.free handle).2.device := by
  rw [(free_eq l handle).2.1]
  exact askWord_keeps hx h

theorem unwindAllocated_keeps (hr : Keeps P .releaseMemory) (h : P l.device) : P (l.unwindAllocated handle).device := by
  simp only [unwindAllocated, noteUnwinding_device]
  exact free_keeps hr h

theorem unwindLocked_keeps (hu : Keeps P .unlockMemory) (hr : Keeps P .releaseMemory) (h : P l.device) :
    P (l.unwindLocked handle).device := by
  rw [unwindLocked]
  refine unwindAllocated_keeps hr ?_
  rw [noteUnwinding_device]
  exact unlock_keeps hu h

/-- What holds once there is an allocation, whatever else the acquisition does with it. -/
theorem acquire_keeps (hl : Keeps P .lockMemory) (hu : Keeps P .unlockMemory) (hr : Keeps P .releaseMemory)
    (ho : ∀ d bus len, P d → P (Device.openWindow d bus len).device)
    (h₁ : P (l.allocate size alignment flags).2.device) : P (l.acquire size alignment flags).2.device := by
  rcases acquire_cases l size alignment flags with
    ⟨e, l₁, e₁, e₂⟩ | ⟨b, l₁, e, l₂, e₁, e₂, e₃⟩ | ⟨b, l₁, bus, l₂, e, l₃, e₁, e₂, e₃, e₄⟩ |
      ⟨b, l₁, bus, l₂, w, l₃, event, e₁, e₂, e₃, e₄⟩
  all_goals rw [e₁] at h₁
  · rw [e₂]
    exact h₁
  all_goals have h₂ : P (l₁.lock b).2.device := lock_keeps hl h₁
  all_goals rw [e₂] at h₂
  · rw [e₃]
    exact unwindAllocated_keeps hr h₂
  all_goals have h₃ : P (l₂.openWindow bus size.toUInt64).2.device := ho _ _ _ h₂
  all_goals rw [e₃] at h₃
  · rw [e₄]
    exact unwindLocked_keeps hu hr h₃
  · rw [e₄]
    exact h₃

theorem release_keeps (hu : Keeps P .unlockMemory) (hr : Keeps P .releaseMemory) {b : GpuBlock}
    (hc : P (l.closeWindow b.window).2.device) : P (l.release b).2.device := by
  simp only [release, note_device]
  exact free_keeps hr (unlock_keeps hu hc)

end Link
end MailboxCursor
