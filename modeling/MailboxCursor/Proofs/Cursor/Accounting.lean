/-
What a controller holds of the firmware's memory, over its whole life.

`session_outstanding`: as long as no fault concerns the requests to unlock and to release, exactly one block is held, locked
and mapped once, while the controller is ready, and none before it has started, after a start that failed, and once it is
closed. With faults on those two requests as well it is one block at most.

A start can fail at any of its steps; what was done until then is undone (`Link.acquire_error_of_empty`). On the way out all three
steps are tried (`Link.release_newest`), and the block that goes is the only one there is. `Accounted` is the invariant.
-/
import MailboxCursor.Proofs.Cursor.Transfer
import MailboxCursor.Proofs.Firmware.Acquisition

namespace MailboxCursor

open Firmware

/-! ## Firmware that goes on taking everything back -/

namespace Firmware

/-- the setting makes requests for the tag fail, or come back untouched -/
def Setting.troubles (s : Setting) (tag : Tag) : Bool :=
  match s with
  | .fail t => t == tag
  | .withhold t => t == tag
  | _ => false

variable {fw : Firmware}

theorem isFaulty_set {s : Setting} {tag : Tag} (hs : s.troubles tag = false) (h : fw.isFaulty tag.id = false) :
    (fw.set s).isFaulty tag.id = false := by
  have hid {t : Tag} (ht : (t == tag) = false) : (t.id == tag.id) = false := by
    rw [beq_eq_false_iff_ne] at ht ⊢
    intro heq
    have hword := congrArg Tag.ofWord? heq
    rw [Tag.ofWord?_id, Tag.ofWord?_id] at hword
    exact ht (Option.some.inj hword)
  simp only [isFaulty, Faults.fails, Faults.withholds, Bool.or_eq_false_iff] at h ⊢
  cases s with
  | fail t =>
    simp only [set, List.any_cons, Bool.or_eq_false_iff]
    exact ⟨⟨hid hs, h.1⟩, h.2⟩
  | withhold t =>
    simp only [set, List.any_cons, Bool.or_eq_false_iff]
    exact ⟨h.1, hid hs, h.2⟩
  | clearFaults => exact ⟨rfl, rfl⟩
  | version v => exact h
  | overscan o => exact h
  | refuseAllocations on => exact h
  | failMaps on => exact h
  | clearRequests => exact h

namespace Orderly

theorem set (h : Orderly fw) {s : Setting} (hunlock : s.troubles .unlockMemory = false)
    (hrelease : s.troubles .releaseMemory = false) : Orderly (fw.set s) where
  space := step_busSpace h.space (.set s)
  unlocks := isFaulty_set hunlock h.unlocks
  releases := isFaulty_set hrelease h.releases

theorem invariant : Controller.Invariant fun c : Controller Firmware => Orderly c.link.device :=
  Controller.Invariant.of_keeps (P := Orderly) exchanges (fun _ bus len h => h.openWindow bus len)
    (fun _ w h => h.closeWindow w) fun _ w offset bytes h => h.write w offset bytes

end Orderly
end Firmware

/-! ## Nothing but the transfer buffer -/

/-- A controller that is not ready holds nothing, and one that is holds its transfer buffer. -/
structure Accounted (c : Controller Firmware) : Prop where
  tenure : Tenure c
  orderly : Orderly c.link.device
  clear : c.phase.isReady = false → c.link.device.blocks = []

namespace Accounted

variable {c : Controller Firmware}

theorem new (id : Nat) (settings : CursorSettings) : Accounted (Controller.new id settings) where
  tenure := Tenure.new id settings
  orderly := ⟨busSpace_fresh id, rfl, rfl⟩
  clear _ := rfl

theorem adjust (h : Accounted c) {s : Setting} (hunlock : s.troubles .unlockMemory = false)
    (hrelease : s.troubles .releaseMemory = false) : Accounted (c.adjust s) where
  tenure := h.tenure.adjust s
  orderly := h.orderly.set hunlock hrelease
  clear hready := (set_blocks _ s).trans (h.clear hready)

theorem start_clear (h : Accounted c) (hphase : c.phase = .uninitialized) (hready : c.start.2.phase.isReady = false) :
    c.start.2.link.device.blocks = [] := by
  have hempty := (h.tenure.unborn hphase).1
  have hasked : c.link.askVersion.2.device.blocks = [] := Link.askVersion_keeps (keeps_blocks (Or.inl rfl)) hempty
  have horderly : Orderly c.link.askVersion.2.device := Link.askVersion_keeps (Orderly.exchanges _) h.orderly
  rcases Controller.start_cases c hphase with ⟨e, l, event, hversion, hstart⟩ | ⟨v, l, event, hversion, -, hstart⟩ |
    ⟨v, l, e, l', event, hversion, -, hacquired, hstart⟩ |
    ⟨v, l, block, l', event, event', hversion, -, hacquired, hstart⟩
  all_goals
    simp only [hversion] at hasked horderly
    rw [hstart] at hready ⊢
  · exact hasked
  · exact hasked
  · have hblocks : l'.device.blocks = [] := Link.acquire_error_of_empty horderly hasked hacquired
    exact hblocks
  · cases hready

theorem close_clear (h : Accounted c) : c.close.2.link.device.blocks = [] := by
  by_cases hready : c.phase.isReady = true
  swap
  · have hready : c.phase.isReady = false := by simpa using hready
    rw [Controller.close_of_not_ready c hready]
    exact h.clear hready
  obtain ⟨block, b, hb⟩ := h.tenure.held hready
  obtain ⟨hidden, l, event, htold, hclose⟩ := Controller.close_eq c hready
  have horderly : Orderly (Controller.tell { c with phase := .closed } .setCursorState
      (Controller.placeRequest false c.surface.x c.surface.y)).2.link.device :=
    Controller.tell_keeps (Orderly.exchanges _) _ h.orderly
  have hblocks : (Controller.tell { c with phase := .closed } .setCursorState
      (Controller.placeRequest false c.surface.x c.surface.y)).2.link.device.blocks = c.link.device.blocks :=
    Controller.tell_keeps (keeps_blocks (Or.inr (Or.inr rfl))) _ rfl
  have hid : (Controller.tell { c with phase := .closed } .setCursorState
      (Controller.placeRequest false c.surface.x c.surface.y)).2.link.device.config = c.link.device.config :=
    Controller.tell_keeps (fun fw m _ h => (exchange_config fw m).trans h) _ rfl
  simp only [htold] at horderly hblocks hid
  have hheld : Holds { c with link := l } block b := hb.congr rfl hblocks (congrArg Prod.fst hid)
  rw [hclose, hb.transfer, Controller.givenBack, Link.note_device]
  exact Link.release_newest horderly (.single hheld.blocks) hheld.handle hheld.windowBlock hheld.locks hheld.mappings

theorem invariant : Controller.Invariant Accounted where
  note c e h := ⟨Tenure.invariant.note c e h.tenure, h.orderly, h.clear⟩
  recolor c colors h := ⟨Tenure.invariant.recolor c colors h.tenure, h.orderly, h.clear⟩
  start c hphase h := ⟨h.tenure.start hphase, Orderly.invariant.start c hphase h.orderly, h.start_clear hphase⟩
  place c enabled x y hready h := by
    refine ⟨h.tenure.place hready enabled x y, Orderly.invariant.place c enabled x y hready h.orderly, fun hnot => ?_⟩
    rw [c.place_ready enabled x y hready] at hnot
    cases hnot
  upload c image picture block hready hw hh hpicture hblock h := by
    refine ⟨h.tenure.upload hready hblock picture, ?_, fun hnot => ?_⟩
    · exact Orderly.invariant.upload c image picture block hready hw hh hpicture hblock h.orderly
    · rw [c.upload_phase block picture, hready] at hnot
      cases hnot
  close c h := ⟨Tenure.invariant.close c h.tenure, Orderly.invariant.close c h.orderly, fun _ => h.close_clear⟩

theorem outstanding (h : Accounted c) :
    c.link.device.outstanding = if c.phase.isReady then ⟨1, 1, 1⟩ else ⟨0, 0, 0⟩ := by
  unfold Firmware.outstanding
  split_ifs with hready
  · obtain ⟨block, b, hb⟩ := h.tenure.held hready
    rw [hb.blocks]
    simp [Block.isLocked, hb.locks, hb.mappings]
  · rw [h.clear (by simpa using hready)]
    rfl

end Accounted

/-! ## Never more than one block -/

namespace Firmware

/-- Only an allocation adds a block. -/
theorem keeps_length {k : Nat} {tag : Tag} (h : tag ≠ .allocateMemory) :
    Link.Keeps (fun fw : Firmware => fw.blocks.length ≤ k) tag := by
  apply keeps_of_act
  · intro fw p hk
    have hnot : fw.added? tag p = none := by
      cases tag <;> first | rfl | exact absurd rfl h
    obtain ⟨-, ⟨handle, f, -, hblocks⟩ | ⟨handle, b, -, -, hblocks⟩⟩ := act_of_not_added hnot
    · rw [hblocks, Blocks.length_modify]
      exact hk
    · rw [hblocks]
      exact (List.length_filter_le _ _).trans hk
  · intro fw m hk
    exact hk

theorem openWindow_length (fw : Firmware) (bus : BusAddress) (len : UInt64) :
    (fw.openWindow bus len).device.blocks.length = fw.blocks.length := by
  rcases fw.openWindow_cases bus len with ⟨e, -, hafter⟩ | ⟨b, -, -, -, hafter⟩
  · rw [hafter]
  · rw [hafter]
    exact Blocks.length_modify _ _ _

theorem closeWindow_length (fw : Firmware) (w : Window) :
    (fw.closeWindow w).device.blocks.length = fw.blocks.length := by
  rcases fw.closeWindow_cases w with ⟨e, -, hafter⟩ | ⟨b, -, -, -, hafter⟩
  · rw [hafter]
  · rw [hafter]
    exact Blocks.length_modify _ _ _

theorem write_length (fw : Firmware) (w : Window) (offset : Nat) (bytes : List UInt8) :
    (fw.write w offset bytes).blocks.length = fw.blocks.length := by
  unfold write
  split
  · exact Blocks.length_modify _ _ _
  · rfl

end Firmware

theorem Link.allocate_length {l : Link Firmware} (hempty : l.device.blocks = []) (size alignment : UInt32)
    (flags : AllocFlags) : (l.allocate size alignment flags).2.device.blocks.length ≤ 1 := by
  obtain ⟨m, hallocated⟩ := allocate_firmware l size alignment flags
  split_ifs at hallocated
  · rw [hallocated.2, logRequest_blocks]
    unfold Firmware.allocate
    split
    · rw [hempty]
      exact Nat.zero_le 1
    · rw [hempty]
      exact le_refl 1
  · rw [hallocated.2, logRequest_blocks, hempty]
    exact Nat.zero_le 1

theorem Controller.start_length (c : Controller Firmware) (hphase : c.phase = .uninitialized)
    (hempty : c.link.device.blocks = []) : c.start.2.link.device.blocks.length ≤ 1 := by
  have hasked : c.link.askVersion.2.device.blocks = [] := Link.askVersion_keeps (keeps_blocks (Or.inl rfl)) hempty
  have hacquires (l : Link Firmware) (hl : l.device.blocks = []) (size alignment : UInt32) (flags : AllocFlags) :
      (l.acquire size alignment flags).2.device.blocks.length ≤ 1 :=
    Link.acquire_keeps (P := fun fw : Firmware => fw.blocks.length ≤ 1) (keeps_length (by decide))
      (keeps_length (by decide)) (keeps_length (by decide))
      (fun fw bus len hfw => (openWindow_length fw bus len).trans_le hfw) (Link.allocate_length hl size alignment flags)
  rcases start_cases c hphase with ⟨e, l, event, hversion, hstart⟩ | ⟨v, l, event, hversion, -, hstart⟩ |
    ⟨v, l, e, l', event, hversion, -, hacquired, hstart⟩ |
    ⟨v, l, block, l', event, event', hversion, -, hacquired, hstart⟩
  all_goals
    simp only [hversion] at hasked
    rw [hstart]
  · exact (congrArg List.length hasked).trans_le (Nat.zero_le 1)
  · exact (congrArg List.length hasked).trans_le (Nat.zero_le 1)
  all_goals
    have hgot := hacquires l hasked cursorBufferBytes pageAlignment .l1NonAllocating
    simp only [hacquired] at hgot
  · exact hgot
  · exact (write_length _ _ _ _).trans_le hgot

/-- A controller allocates once at most, whatever goes wrong. -/
theorem Controller.invariant_length :
    Invariant fun c : Controller Firmware => Tenure c ∧ c.link.device.blocks.length ≤ 1 where
  note c e h := ⟨Tenure.invariant.note c e h.1, h.2⟩
  recolor c colors h := ⟨Tenure.invariant.recolor c colors h.1, h.2⟩
  start c hphase h := by
    exact ⟨h.1.start hphase, start_length c hphase (h.1.unborn hphase).1⟩
  place c enabled x y hready h := ⟨h.1.place hready enabled x y, place_keeps (keeps_length (by decide)) c enabled x y h.2⟩
  upload c _ picture block hready _ _ _ hblock h := by
    refine ⟨h.1.upload hready hblock picture, ?_⟩
    exact upload_keeps (P := fun fw : Firmware => fw.blocks.length ≤ 1) (keeps_length (by decide))
      (fun fw w offset bytes hfw => (write_length fw w offset bytes).trans_le hfw) c block picture h.2
  close c h := by
    refine ⟨Tenure.invariant.close c h.1, ?_⟩
    exact close_keeps (P := fun fw : Firmware => fw.blocks.length ≤ 1) (keeps_length (by decide))
      (keeps_length (by decide)) (keeps_length (by decide))
      (fun fw w hfw => (closeWindow_length fw w).trans_le hfw) c h.2

/-! ## Whole sessions -/

/-- **What is outstanding over a session.** As long as no fault concerns the requests to unlock and to release, a controller
that is ready holds one block, locked and mapped once, and any other holds nothing; so nothing is left once it is closed or
abandoned. Whatever the faults, no more than one block is ever held. -/
theorem session_outstanding (id : Nat) (settings : CursorSettings) (actions : List Action) :
    let c := (Controller.new id settings).session actions
    ((∀ s, .adjust s ∈ actions → s.troubles .unlockMemory = false ∧ s.troubles .releaseMemory = false) →
      c.link.device.outstanding = (if c.phase.isReady then ⟨1, 1, 1⟩ else ⟨0, 0, 0⟩) ∧
        c.close.2.link.device.outstanding = ⟨0, 0, 0⟩ ∧ c.abandon.link.device.outstanding = ⟨0, 0, 0⟩) ∧
      c.link.device.outstanding.handles ≤ 1 ∧ c.close.2.link.device.outstanding.handles ≤ 1 ∧
      c.abandon.link.device.outstanding.handles ≤ 1 := by
  intro c
  refine ⟨fun hspared => ?_, ?_⟩
  · have h : Accounted c := Controller.session_keeps_of Accounted.invariant
      (fun _ s hs hc => hc.adjust hs.1 hs.2) _ actions hspared (Accounted.new id settings)
    have hclosed := (Accounted.invariant.close c h).outstanding
    have habandoned := (Accounted.invariant.abandon c h).outstanding
    rw [c.close_phase] at hclosed
    rw [c.abandon_phase] at habandoned
    exact ⟨h.outstanding, hclosed, habandoned⟩
  · have h : Tenure c ∧ c.link.device.blocks.length ≤ 1 := Controller.session_keeps Controller.invariant_length
      (fun _ s hc => ⟨hc.1.adjust s, (congrArg List.length (set_blocks _ s)).trans_le hc.2⟩) _ actions
      ⟨Tenure.new id settings, Nat.zero_le 1⟩
    exact ⟨h.2, (Controller.invariant_length.close c h).2, (Controller.invariant_length.abandon c h).2⟩

/-- a controller that starts once maps no longer fail, and cannot put its cursor anywhere -/
def stuck : List Action :=
  [.adjust (.failMaps true), .adjust .clearFaults, .adjust (.fail .setCursorState), .operate .start, .operate .display]

/-- The hide on the way out fails as every one before it did, and the block is given back all the same. -/
theorem session_outstanding_stuck :
    (∀ s, .adjust s ∈ stuck → s.troubles .unlockMemory = false ∧ s.troubles .releaseMemory = false) ∧
      ((Controller.new 0 .default).session stuck).link.device.outstanding = ⟨1, 1, 1⟩ ∧
      ((Controller.new 0 .default).session stuck).close.2.link.device.outstanding = ⟨0, 0, 0⟩ := by
  have hspared : ∀ s, Action.adjust s ∈ stuck →
      s.troubles .unlockMemory = false ∧ s.troubles .releaseMemory = false := by
    intro s hs
    simp only [stuck, List.mem_cons, Action.adjust.injEq, reduceCtorEq, or_false, List.not_mem_nil] at hs
    rcases hs with rfl | rfl | rfl
    · decide
    · decide
    · decide
  obtain ⟨houtstanding, hclosed, -⟩ := (session_outstanding 0 .default stuck).1 hspared
  have hready : ((Controller.new 0 .default).session stuck).phase.isReady = true := by decide +kernel
  rw [hready] at houtstanding
  exact ⟨hspared, houtstanding, hclosed⟩

end MailboxCursor
