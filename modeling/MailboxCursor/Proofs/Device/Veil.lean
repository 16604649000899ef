/-
Devices that do not look at what is written through a window.

Two runs over such a device may write different bytes and still get the same answers. A `Veil` says which states of a device
are alike for someone who cannot look through a window, and that they stay so: whatever is asked of both of them, the answers
are the same, and bytes of the same length may be written through the window, different ones on either side. Two links over
alike devices are then alike as well (`Link.Alike`), whatever is sent on both, and so are two scripted devices (`Veil.scripted`).

`Alongside` is how the two sides are kept together: one outcome for both, and a relation between what is left on either side.
-/
import MailboxCursor.Proofs.Firmware.Bench
import MailboxCursor.Script

namespace MailboxCursor

/-- the same outcome on both sides, and `R` between what is left of them -/
inductive Alongside {α γ : Type} (R : γ → γ → Prop) : α × γ → α × γ → Prop where
  | mk (a : α) {c c' : γ} (left : R c c') : Alongside R (a, c) (a, c')

theorem Alongside.of_eq {α γ : Type} {R : γ → γ → Prop} {r r' : α × γ} (h : r.1 = r'.1) (left : R r.2 r'.2) :
    Alongside R r r' := by
  obtain ⟨a, c⟩ := r
  obtain ⟨a', c'⟩ := r'
  obtain rfl : a = a' := h
  exact .mk a left

theorem Alongside.outcome_eq {α γ : Type} {R : γ → γ → Prop} {r r' : α × γ} (h : Alongside R r r') : r.1 = r'.1 := by
  obtain ⟨a, hleft⟩ := h
  rfl

theorem Alongside.left {α γ : Type} {R : γ → γ → Prop} {r r' : α × γ} (h : Alongside R r r') : R r.2 r'.2 := by
  obtain ⟨a, hleft⟩ := h
  exact hleft

theorem Alongside.map {α β γ : Type} {R : γ → γ → Prop} (f : α → β) {r r' : α × γ} (h : Alongside R r r') :
    Alongside R (r.map f id) (r'.map f id) := by
  obtain ⟨a, hleft⟩ := h
  exact .mk (f a) hleft

variable {δ : Type}

structure Exchange.Alike (R : δ → δ → Prop) (x x' : Exchange δ) : Prop where
  result : x.result = x'.result
  words : x.words = x'.words
  device : R x.device x'.device
  events : x.events = x'.events

structure Access.Alike {α : Type} (R : δ → δ → Prop) (a a' : Access δ α) : Prop where
  result : a.result = a'.result
  device : R a.device a'.device
  events : a.events = a'.events

/-- which states of a device are alike but for what a window hides -/
structure Veil (δ : Type) [Adjustable δ] where
  Alike : Window → δ → δ → Prop
  exchange : ∀ {w d d'} m, Alike w d d' → (Device.exchange d m).Alike (Alike w) (Device.exchange d' m)
  openWindow : ∀ {w d d'} bus len, Alike w d d' →
    (Device.openWindow d bus len).Alike (Alike w) (Device.openWindow d' bus len)
  closeWindow : ∀ {w d d'} v, Alike w d d' → (Device.closeWindow d v).Alike (Alike w) (Device.closeWindow d' v)
  write : ∀ {w d d'} v offset bytes, Alike w d d' →
    Alike w (Device.write d v offset bytes) (Device.write d' v offset bytes)
  /-- what is written through the window itself is hidden, all but its length -/
  cover : ∀ {w d d'} offset {bytes bytes'}, bytes.length = bytes'.length → Alike w d d' →
    Alike w (Device.write d w offset bytes) (Device.write d' w offset bytes')
  adjust : ∀ {w d d'} s, Alike w d d' → Alike w (Adjustable.adjust d s) (Adjustable.adjust d' s)

namespace Veil

/-! ## Scripts -/

instance [Adjustable δ] : Adjustable (Scripted δ) where
  adjust d s := { d with device := Adjustable.adjust d.device s }

/-- alike devices behind the same rest of a script -/
def ScriptedAlike [Adjustable δ] (V : Veil δ) (w : Window) (d d' : Scripted δ) : Prop :=
  V.Alike w d.device d'.device ∧ d.steps = d'.steps

/-- One step of a script does the same to a message in front of either device. -/
theorem ScriptedAlike.exchange [Adjustable δ] {V : Veil δ} {w : Window} {d d' : δ} (h : V.Alike w d d')
    (steps : List ScriptStep) (m : Message) :
    (Scripted.exchange ⟨d, steps⟩ m).Alike (V.ScriptedAlike w) (Scripted.exchange ⟨d', steps⟩ m) := by
  cases steps with
  | nil =>
    have hx := V.exchange m h
    exact ⟨hx.result, hx.words, ⟨hx.device, rfl⟩, hx.events⟩
  | cons step steps =>
    cases hfail : step.fail with
    | some cause =>
      simp only [Scripted.exchange, hfail]
      exact ⟨rfl, rfl, ⟨h, rfl⟩, rfl⟩
    | none =>
      by_cases hforward : step.forward = true
      swap
      · simp only [Scripted.exchange, hfail, hforward]
        exact ⟨rfl, rfl, ⟨h, rfl⟩, rfl⟩
      have hx := V.exchange (m.pokeAll step.before) h
      simp only [Scripted.exchange, hfail, hforward, if_true]
      generalize Device.exchange d (m.pokeAll step.before) = x at hx ⊢
      generalize Device.exchange d' (m.pokeAll step.before) = x' at hx ⊢
      rw [← hx.result, ← hx.words]
      cases x.result with
      | error e => exact ⟨rfl, rfl, ⟨hx.device, rfl⟩, hx.events⟩
      | ok u => exact ⟨rfl, rfl, ⟨hx.device, rfl⟩, hx.events⟩

/-- the same script in front of alike devices -/
def scripted [Adjustable δ] (V : Veil δ) : Veil (Scripted δ) where
  Alike := V.ScriptedAlike
  exchange := by
    rintro w ⟨d, steps⟩ ⟨d', -⟩ m ⟨h, rfl⟩
    exact ScriptedAlike.exchange h steps m
  openWindow bus len h := by
    have ha := V.openWindow bus len h.1
    exact ⟨ha.result, ⟨ha.device, h.2⟩, ha.events⟩
  closeWindow v h := by
    have ha := V.closeWindow v h.1
    exact ⟨ha.result, ⟨ha.device, h.2⟩, ha.events⟩
  write v offset bytes h := ⟨V.write v offset bytes h.1, h.2⟩
  cover offset _ _ hlength h := ⟨V.cover offset hlength h.1, h.2⟩
  adjust s h := ⟨V.adjust s h.1, h.2⟩

/-! ## Nothing hidden yet, or one window -/

variable [Adjustable δ] (V : Veil δ)

/-- the state of a device that nobody has taken out of order: for whoever cannot look through a window, it is like itself -/
def Orderly (d : δ) : Prop :=
  ∀ w, V.Alike w d d

/-- alike but for what the window hides, if there is one -/
def Agree : Option Window → δ → δ → Prop
  | none, d, d' => d = d'
  | some w, d, d' => V.Alike w d d'

variable {V} {w : Option Window} {d d' : δ}

theorem Orderly.agree (h : V.Orderly d) (w : Option Window) : V.Agree w d d := by
  cases w with
  | none => rfl
  | some w => exact h w

theorem Orderly.exchange (h : V.Orderly d) (m : Message) : V.Orderly (Device.exchange d m).device :=
  fun w => (V.exchange m (h w)).device

theorem Orderly.openWindow (h : V.Orderly d) (bus : BusAddress) (len : UInt64) :
    V.Orderly (Device.openWindow d bus len).device :=
  fun w => (V.openWindow bus len (h w)).device

theorem Orderly.closeWindow (h : V.Orderly d) (v : Window) : V.Orderly (Device.closeWindow d v).device :=
  fun w => (V.closeWindow v (h w)).device

theorem Orderly.write (h : V.Orderly d) (v : Window) (offset : Nat) (bytes : List UInt8) :
    V.Orderly (Device.write d v offset bytes) :=
  fun w => V.write v offset bytes (h w)

theorem Orderly.adjust (h : V.Orderly d) (s : Firmware.Setting) : V.Orderly (Adjustable.adjust d s) :=
  fun w => V.adjust s (h w)

theorem Orderly.scripted (h : V.Orderly d) (steps : List ScriptStep) : V.scripted.Orderly ⟨d, steps⟩ :=
  fun w => ⟨h w, rfl⟩

theorem Agree.exchange (h : V.Agree w d d') (m : Message) :
    (Device.exchange d m).Alike (V.Agree w) (Device.exchange d' m) := by
  cases w with
  | none =>
    obtain rfl : d = d' := h
    exact ⟨rfl, rfl, rfl, rfl⟩
  | some w => exact V.exchange m h

theorem Agree.closeWindow (h : V.Agree w d d') (v : Window) :
    (Device.closeWindow d v).Alike (V.Agree w) (Device.closeWindow d' v) := by
  cases w with
  | none =>
    obtain rfl : d = d' := h
    exact ⟨rfl, rfl, rfl⟩
  | some w => exact V.closeWindow v h

theorem Agree.adjust (h : V.Agree w d d') (s : Firmware.Setting) :
    V.Agree w (Adjustable.adjust d s) (Adjustable.adjust d' s) := by
  cases w with
  | none => exact congrArg (Adjustable.adjust · s) h
  | some w => exact V.adjust s h

end Veil

/-! ## Links -/

namespace Link

variable [Adjustable δ]

/-- links that have sent and reported the same, over devices that agree -/
structure Alike (V : Veil δ) (w : Option Window) (l l' : Link δ) : Prop where
  device : V.Agree w l.device l'.device
  sent : l.sent = l'.sent
  events : l.events = l'.events

namespace Alike

variable {V : Veil δ} {w : Option Window} {l l' : Link δ} (h : Alike V w l l')

include h

theorem note (e : Event) : Alike V w (l.note e) (l'.note e) :=
  ⟨h.device, h.sent, congrArg (Array.push · e) h.events⟩

theorem send (m : Message) : Alongside (Alongside (Alike V w)) (l.send m) (l'.send m) := by
  have hx := h.device.exchange m
  rw [Link.send, Link.send, ← hx.result, ← hx.words]
  refine .mk _ (.mk _ ⟨hx.device, ?_, ?_⟩)
  · rw [h.sent]
  · rw [h.events, hx.events]

theorem closeWindow (v : Window) : Alongside (Alike V w) (l.closeWindow v) (l'.closeWindow v) := by
  have ha := h.device.closeWindow v
  rw [Link.closeWindow, Link.closeWindow, ← ha.result]
  refine .mk _ ⟨ha.device, h.sent, ?_⟩
  dsimp only
  rw [h.events, ha.events]

theorem sendChecked (m : Message) : Alongside (Alike V w) (l.sendChecked m) (l'.sendChecked m) := by
  have hsent := h.send m
  unfold Link.sendChecked
  generalize l.send m = r at hsent ⊢
  generalize l'.send m = r' at hsent ⊢
  obtain ⟨e | ⟨⟩, ⟨answered, hleft⟩⟩ := hsent
  · exact .mk _ hleft
  dsimp only
  cases answered.response with
  | ok r => exact .mk _ hleft
  | error e => exact .mk _ (hleft.note _)

theorem ask (tag : Tag) (payload : List UInt32) (n : Nat) :
    Alongside (Alike V w) (l.ask tag payload n) (l'.ask tag payload n) := by
  unfold Link.ask
  cases Message.request tag payload with
  | error e => exact .mk _ h
  | ok m =>
    have hchecked := (h.note ⟨.debug, "property request", [("tag", tag.name), ("payload", listText payload)]⟩).sendChecked m
    dsimp only
    generalize (l.note _).sendChecked m = r at hchecked ⊢
    generalize (l'.note _).sendChecked m = r' at hchecked ⊢
    obtain ⟨e | answer, hleft⟩ := hchecked
    · exact .mk _ hleft
    dsimp only
    cases answer.first n with
    | error e => exact .mk _ hleft
    | ok ws => exact .mk _ (hleft.note _)

theorem askWord (tag : Tag) (payload : List UInt32) :
    Alongside (Alike V w) (l.askWord tag payload) (l'.askWord tag payload) := by
  have hasked := h.ask tag payload 1
  unfold Link.askWord
  generalize l.ask tag payload 1 = r at hasked ⊢
  generalize l'.ask tag payload 1 = r' at hasked ⊢
  obtain ⟨e | ws, hleft⟩ := hasked
  · exact .mk _ hleft
  · exact .mk _ hleft

theorem unlock (handle : MemoryHandle) : Alongside (Alike V w) (l.unlock handle) (l'.unlock handle) := by
  have hasked := h.askWord .unlockMemory [handle.val]
  unfold Link.unlock
  generalize l.askWord .unlockMemory [handle.val] = r at hasked ⊢
  generalize l'.askWord .unlockMemory [handle.val] = r' at hasked ⊢
  obtain ⟨e | status, hleft⟩ := hasked
  · exact .mk _ hleft
  dsimp only
  split_ifs
  · exact .mk _ hleft
  · exact .mk _ (hleft.note _)

theorem free (handle : MemoryHandle) : Alongside (Alike V w) (l.free handle) (l'.free handle) := by
  have hasked := h.askWord .releaseMemory [handle.val]
  unfold Link.free
  generalize l.askWord .releaseMemory [handle.val] = r at hasked ⊢
  generalize l'.askWord .releaseMemory [handle.val] = r' at hasked ⊢
  obtain ⟨e | status, hleft⟩ := hasked
  · exact .mk _ hleft
  dsimp only
  split_ifs
  · exact .mk _ hleft
  · exact .mk _ (hleft.note _)

theorem release (b : GpuBlock) : Alongside (Alike V w) (l.release b) (l'.release b) := by
  have hclosed := h.closeWindow b.window
  unfold Link.release
  generalize l.closeWindow b.window = r at hclosed ⊢
  generalize l'.closeWindow b.window = r' at hclosed ⊢
  obtain @⟨unmapped, l₁, l₁', hleft⟩ := hclosed
  have hunlocked := hleft.unlock b.handle
  dsimp only
  generalize l₁.unlock b.handle = r at hunlocked ⊢
  generalize l₁'.unlock b.handle = r' at hunlocked ⊢
  obtain @⟨unlocked, l₂, l₂', hleft⟩ := hunlocked
  have hfreed := hleft.free b.handle
  dsimp only
  generalize l₂.free b.handle = r at hfreed ⊢
  generalize l₂'.free b.handle = r' at hfreed ⊢
  obtain ⟨freed, hleft⟩ := hfreed
  exact .mk _ (hleft.note _)

end Alike

/-- Through the window that is hidden, either side may write what it likes, but as much as the other. -/
theorem Alike.cover {V : Veil δ} {w : Window} {l l' : Link δ} (h : Alike V (some w) l l') (offset : Nat)
    {bytes bytes' : List UInt8} (hlength : bytes.length = bytes'.length) :
    Alike V (some w) (l.write w offset bytes) (l'.write w offset bytes') := by
  refine ⟨V.cover offset ?_ h.device, h.sent, h.events⟩
  rw [List.length_take, List.length_take, hlength]

end Link
end MailboxCursor
