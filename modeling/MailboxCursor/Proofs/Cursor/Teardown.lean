/-
Giving back what is held: every step is taken, and the first failure is the one that is told.

`GivesBack` is the calls that give a block of GPU memory back, with the outcome of each, and `TellsFirst` says which outcome is told
in the end. `teardown` puts the two together, for a release (`Link.Releases`) and for a controller that closes
(`Controller.Closes`): the calls are the same whatever comes of them, and only what is told depends on it. They are read off a
record that begins with the first of them. Once it has closed, a controller asks nothing more of the device.
-/
import MailboxCursor.Proofs.Cursor.Machine

namespace MailboxCursor

/-! ## The first failure -/

/-- what one is told of several outcomes: success if each of them is, and otherwise the first failure -/
structure TellsFirst {ε : Type} (outcomes : List (Except ε Unit)) (told : Except ε Unit) : Prop where
  succeeded : told = .ok () ↔ ∀ o ∈ outcomes, o = .ok ()
  failed : ∀ e, told = .error e ↔ ∃ before after, outcomes = before ++ .error e :: after ∧ ∀ o ∈ before, o = .ok ()

/-- the first failure among outcomes, if any -/
def firstError {ε : Type} : List (Except ε Unit) → Except ε Unit
  | [] => .ok ()
  | .ok () :: outcomes => firstError outcomes
  | .error e :: _ => .error e

section FirstError

variable {ε ε' : Type}

theorem tellsFirst_firstError (outcomes : List (Except ε Unit)) : TellsFirst outcomes (firstError outcomes) := by
  induction outcomes with
  | nil =>
    refine ⟨iff_of_true rfl nofun, fun e => iff_of_false nofun ?_⟩
    rintro ⟨before, after, hsplit, -⟩
    simp at hsplit
  | cons o outcomes ih =>
    obtain e | ⟨⟩ := o
    · refine ⟨iff_of_false nofun fun h => absurd (h _ List.mem_cons_self) nofun, fun e' => ?_⟩
      constructor
      · intro h
        obtain rfl : e = e' := Except.error.inj h
        exact ⟨[], outcomes, rfl, nofun⟩
      · rintro ⟨_ | ⟨o, before⟩, after, hsplit, hbefore⟩
        · exact (List.cons.inj hsplit).1
        · obtain rfl := (List.cons.inj hsplit).1
          exact absurd (hbefore _ List.mem_cons_self) nofun
    · refine ⟨ih.succeeded.trans ?_, fun e => (ih.failed e).trans ?_⟩
      · rw [List.forall_mem_cons]
        exact ⟨fun h => ⟨rfl, h⟩, fun h => h.2⟩
      · constructor
        · rintro ⟨before, after, rfl, hbefore⟩
          exact ⟨.ok () :: before, after, rfl, List.forall_mem_cons.2 ⟨rfl, hbefore⟩⟩
        · rintro ⟨_ | ⟨o, before⟩, after, hsplit, hbefore⟩
          · cases (List.cons.inj hsplit).1
          · exact ⟨before, after, (List.cons.inj hsplit).2, (List.forall_mem_cons.1 hbefore).2⟩

theorem mapError_firstError (f : ε → ε') (outcomes : List (Except ε Unit)) :
    (firstError outcomes).mapError f = firstError (outcomes.map (Except.mapError f)) := by
  induction outcomes with
  | nil => rfl
  | cons o outcomes ih =>
    obtain e | ⟨⟩ := o
    · rfl
    · exact ih

/-- Failures may be looked for in two goes. -/
theorem firstError_cons (o : Except ε Unit) (outcomes : List (Except ε Unit)) :
    firstError [o, firstError outcomes] = firstError (o :: outcomes) := by
  obtain _ | ⟨⟩ := o
  · rfl
  simp only [firstError]
  rcases firstError outcomes with _ | ⟨⟩
  · rfl
  · rfl

theorem Link.firstFailure_eq (a b c : Except ε Unit) : firstFailure a b c = firstError [a, b, c] := by
  obtain _ | ⟨⟩ := a
  · rfl
  obtain _ | ⟨⟩ := b
  · rfl
  obtain _ | ⟨⟩ := c
  · rfl
  · rfl

end FirstError

/-! ## A record that begins here -/

variable {δ : Type}

/-- the same link, every call from here on recorded -/
def Link.recorded (l : Link δ) : Link (Recorded δ) :=
  ⟨.fresh l.device, l.sent, l.events⟩

/-- the same controller, every call from here on recorded -/
def Controller.recorded (c : Controller δ) : Controller (Recorded δ) :=
  ⟨c.link.recorded, c.settings, c.phase, c.surface, c.firmware, c.transfer⟩

variable [Device δ]

/-! ## Releases -/

/-- the calls that give a block back, each made once and in this order, and their outcomes -/
inductive GivesBack (b : GpuBlock) : List Call → List (Except MailboxError Unit) → Prop where
  | mk {a : Access Unit Unit} {r r' : Except MailboxError UInt32} {u f : Call}
    (unlocked : Asks .unlockMemory [b.handle.val] r u) (freed : Asks .releaseMemory [b.handle.val] r' f) :
    GivesBack b [.closed b.window a, u, f]
      [a.result, Link.doneOf (.unlockFailed b.handle) r, Link.doneOf (.freeFailed b.handle) r']

namespace Link

/-- what a release comes to -/
structure Releases (l : Link δ) (b : GpuBlock) : Prop where
  /-- every call is made, and the first failure is told -/
  steps : ∃ calls outcomes, GivesBack b calls outcomes ∧ l.recorded.Made calls (l.recorded.release b).2 ∧
    TellsFirst outcomes (l.release b).1
  /-- nothing comes of recording the calls -/
  same : l.release b = (l.recorded.release b).map id (map Recorded.plain)

/-- The calls of a release, and what is told of them. -/
theorem release_calls (l : Link (Recorded δ)) (b : GpuBlock) :
    ∃ calls outcomes, GivesBack b calls outcomes ∧ l.Made calls (l.release b).2 ∧
      (l.release b).1 = firstError outcomes := by
  obtain ⟨l₁, hl₁⟩ : ∃ l₁, (l.closeWindow b.window).2 = l₁ := ⟨_, rfl⟩
  obtain ⟨l₂, hl₂⟩ : ∃ l₂, (l₁.unlock b.handle).2 = l₂ := ⟨_, rfl⟩
  obtain ⟨hunlock, hdevice, hsent⟩ := l₁.unlock_eq b.handle
  obtain ⟨hfree, hdevice', hsent'⟩ := l₂.free_eq b.handle
  obtain ⟨u, hunlocked, hmade⟩ := l₁.askWord_made .unlockMemory [b.handle.val] (by simp)
  obtain ⟨f, hfreed, hmade'⟩ := l₂.askWord_made .releaseMemory [b.handle.val] (by simp)
  rw [hl₂] at hdevice hsent
  have hclosed : l.Made [.closed b.window ((Device.closeWindow l.device.device b.window).map fun _ => ())] l₁ := by
    rw [← hl₁]
    exact ⟨rfl, (List.append_nil _).symm⟩
  refine ⟨_, _, .mk hunlocked hfreed,
    ((hclosed.trans (hmade.congr hdevice hsent)).trans (hmade'.congr hdevice' hsent')).congr ?_ ?_, ?_⟩
  · simp only [release, hl₁, hl₂, note_device]
  · simp only [release, hl₁, hl₂, note_sent]
  · simp only [release, hl₁, hl₂, firstFailure_eq, hunlock, hfree]
    rfl

theorem releases (l : Link δ) (b : GpuBlock) : l.Releases b := by
  have hsame : l.release b = (l.recorded.release b).map id (map Recorded.plain) :=
    l.recorded.release_map Recorded.plain b
  obtain ⟨calls, outcomes, hback, hmade, htold⟩ := l.recorded.release_calls b
  refine ⟨⟨calls, outcomes, hback, hmade, ?_⟩, hsame⟩
  rw [hsame, Prod.map_fst, htold]
  exact tellsFirst_firstError outcomes

end Link

/-! ## Controllers that close -/

namespace Controller

/-- what closing a ready controller comes to -/
structure Closes (c : Controller δ) : Prop where
  /-- the cursor is hidden where it is and the transfer buffer given back, whatever comes of either; the first failure is told,
  and the record says that the cursor is hidden if the firmware has agreed to that -/
  steps : ∃ block answer z calls outcomes, c.transfer = some block ∧
    Asks .setCursorState [0, c.surface.x.toUInt32, c.surface.y.toUInt32] answer z ∧ GivesBack block calls outcomes ∧
    c.recorded.link.Made (z :: calls) c.recorded.close.2.link ∧
    TellsFirst (verdict .setCursorState answer :: outcomes.map (Except.mapError .mailbox)) c.close.1 ∧
    c.close.2 = { c with
      link := c.close.2.link
      phase := .closed
      transfer := none
      surface := { c.surface with enabled := if answer = .ok 0 then false else c.surface.enabled } }
  /-- whatever is done to it after that, nothing more is asked of the device -/
  idle : ∀ ops dropped, (c.recorded.close.2.live ops dropped).link = c.recorded.close.2.link
  /-- nothing comes of recording the calls -/
  same : c.close = c.recorded.close.map id (map Recorded.plain)

theorem afterHide_verdict (s : Surface) (tag : Tag) (answer : Except MailboxError UInt32) :
    afterHide s (verdict tag answer) = { s with enabled := if answer = .ok 0 then false else s.enabled } := by
  obtain e | status := answer
  · rfl
  · by_cases hzero : status = 0
    · simp only [verdict, hzero, if_true, afterHide]
    · simp only [verdict, hzero, if_false, afterHide, Except.ok.injEq]

/-- What is told of a controller that has closed. -/
theorem close_told {c : Controller δ} (hready : c.phase.isReady = true) {block : GpuBlock} (hblock : c.transfer = some block)
    {hidden : Except CursorError Unit} {l : Link δ}
    (htold : { c with phase := .closed }.tell .setCursorState (placeRequest false c.surface.x c.surface.y) =
      (hidden, { c with phase := .closed, link := l })) :
    c.close.1 = firstError [hidden, (l.release block).1.mapError .mailbox] := by
  simp only [placeRequest, Bool.false_eq_true, if_false] at htold
  rw [close, if_pos hready]
  simp only [htold]
  obtain e | ⟨⟩ := hidden
  · rfl
  simp only [releaseTransfer, hblock]
  rcases l.release block with ⟨e | ⟨⟩, l'⟩
  · rfl
  · rfl

/-- The calls of a controller that closes, what is told of them, and what is left. -/
theorem close_calls (c : Controller (Recorded δ)) (hready : c.phase.isReady = true) {block : GpuBlock}
    (hblock : c.transfer = some block) :
    ∃ answer z calls outcomes, Asks .setCursorState (placeRequest false c.surface.x c.surface.y) answer z ∧
      GivesBack block calls outcomes ∧ c.link.Made (z :: calls) c.close.2.link ∧
      c.close.1 = firstError (verdict .setCursorState answer :: outcomes.map (Except.mapError .mailbox)) ∧
      c.close.2 = { c with
        link := c.close.2.link
        phase := .closed
        transfer := none
        surface := { c.surface with enabled := if answer = .ok 0 then false else c.surface.enabled } } := by
  obtain ⟨hidden, l, event, htold, hclose⟩ := c.close_eq hready
  obtain ⟨l', htold', hdevice, hsent⟩ :=
    tell_eq { c with phase := .closed } .setCursorState (placeRequest false c.surface.x c.surface.y)
  obtain ⟨z, hasks, hmade⟩ :=
    c.link.askWord_made .setCursorState (placeRequest false c.surface.x c.surface.y) (by simp [placeRequest])
  obtain ⟨rfl, hl⟩ := Prod.mk.inj (htold.symm.trans htold')
  obtain rfl : l = l' := congrArg Controller.link hl
  obtain ⟨calls, outcomes, hback, hmade', hreleased⟩ := l.release_calls block
  have hlink : c.close.2.link = (l.release block).2.note event := by
    rw [hclose, hblock]
    rfl
  refine ⟨_, z, calls, outcomes, hasks, hback, ?_, ?_, ?_⟩
  · rw [hlink]
    exact ((hmade.congr hdevice hsent).trans hmade').congr rfl rfl
  · rw [close_told hready hblock htold, hreleased, mapError_firstError, firstError_cons]
  · rw [hclose, afterHide_verdict]

/-- A controller that has closed asks nothing more of its device. -/
theorem live_closed_link (c : Controller δ) (hclosed : c.phase = .closed) (ops : List Operation) (dropped : Bool) :
    (c.live ops dropped).link = c.link := by
  have hrun : (c.run ops).link = c.link := by
    induction ops generalizing c with
    | nil => rfl
    | cons op ops ih =>
      have hidle : (op.perform c).2 = c.ignoring op :=
        c.perform_of_not_ready (by rw [hclosed]; rfl) op fun _ => by rw [hclosed]; nofun
      have hstill : (op.perform c).2.phase = .closed := c.run_closed [op] hclosed
      calc (c.run (op :: ops)).link = (op.perform c).2.link := ih _ hstill
        _ = c.link := by rw [hidle]; rfl
  rw [live]
  split_ifs
  · rw [abandon_of_not_ready _ (by rw [run_closed c ops hclosed]; rfl)]
    exact hrun
  · exact hrun

theorem Reached.closes {c : Controller δ} (h : c.Reached) (hready : c.phase.isReady = true) : c.Closes := by
  have hsame : c.close = c.recorded.close.map id (map Recorded.plain) := c.recorded.close_map Recorded.plain
  obtain ⟨block, hblock⟩ := h.transfer_eq_some hready
  obtain ⟨answer, z, calls, outcomes, hasks, hback, hmade, htold, hleft⟩ := c.recorded.close_calls hready hblock
  refine ⟨⟨block, answer, z, calls, outcomes, hblock, hasks, hback, hmade, ?_, ?_⟩,
    live_closed_link _ c.recorded.close_phase, hsame⟩
  · rw [hsame, Prod.map_fst, htold]
    exact tellsFirst_firstError _
  · rw [hsame, Prod.map_snd, hleft]
    rfl

end Controller

/-- **Whatever is held is given back, as far as it can be, and the first failure is told.** Over any device, whatever it
answers: a release closes the window, unlocks and frees, whatever comes of any of it. A ready controller that closes takes the
cursor off the screen and then does the same for its transfer buffer, and is closed for good. -/
theorem teardown :
    (∀ (l : Link δ) (b : GpuBlock), l.Releases b) ∧
      ∀ c : Controller δ, c.Reached → c.phase.isReady = true → c.Closes :=
  ⟨Link.releases, fun _ => Controller.Reached.closes⟩

/-- a controller whose cursor is on the screen; since then requests to move it are withheld, and those to unlock fail -/
def stuckController : Controller Firmware :=
  let c := ((Controller.new 0 .default).run [.start, .moveTo 7 9, .display])
  { c with link := { c.link with device := (c.link.device.set (.withhold .setCursorState)).set (.fail .unlockMemory) } }

/-- The cursor cannot be hidden and the memory not unlocked: the former is told, and the latter is tried all the same. -/
theorem teardown_twice_failed :
    stuckController.Reached ∧ stuckController.phase.isReady = true ∧ stuckController.Closes ∧
      stuckController.close.1 =
        .error (.mailbox (.exchangeFailed Tag.setCursorState.id (.response (.notProcessed Message.requestCode)))) ∧
      (stuckController.close.2.link.sent.toList.drop stuckController.link.sent.size).map Message.tag =
        [Tag.setCursorState.id, Tag.unlockMemory.id, Tag.releaseMemory.id] ∧
      stuckController.close.2.surface.enabled = true ∧ stuckController.close.2.transfer = none := by
  have hreached : stuckController.Reached :=
    .meanwhile _ (.performed .display (.performed (.moveTo 7 9) (.performed .start (.created _ _))))
  have hready : stuckController.phase.isReady = true := by decide +kernel
  exact ⟨hreached, hready, teardown.2 stuckController hreached hready, by decide +kernel, by decide +kernel,
    by decide +kernel, by decide +kernel⟩

end MailboxCursor
