/-
Two runs that differ in their colours and in what their images show.

Nobody can tell them apart who does not look into the transfer buffer or at the captured image: after every action the same
messages were sent, word for word, with the same results, and the controllers, their devices and their logs are the same.
Nor does it matter how often, and when, colours are stored.

The runs are kept together step by step (`Twins.after`) and then along the two lists of actions (`Woven.follow`), which may
differ in what stores colours. As long as a controller has not started there is no buffer, and the two are over the same
device; from the start on they are alike but for the window of the buffer. There is one window at most in the whole run
(`exists_window`).

`blind` is the result for the emulated firmware, however it was used before and whatever its faults are, and for a script
of replies in front of it.
-/
import MailboxCursor.Proofs.Cursor.Likeness
import MailboxCursor.Proofs.Cursor.Machine
import MailboxCursor.Proofs.Cursor.Session
import MailboxCursor.Proofs.Firmware.Blot

namespace MailboxCursor

/-! ## Lists of actions -/

namespace Action

/-- the same action, but for colours and for what an image shows -/
inductive SameShape : Action → Action → Prop where
  | operate {op op' : Operation} (operations : op.SameShape op') : SameShape (.operate op) (.operate op')
  | adjust (s : Firmware.Setting) : SameShape (.adjust s) (.adjust s)

/-- colours are stored, and nothing else is done -/
def recolors : Action → Bool
  | .operate op => op.colors?.isSome
  | .adjust _ => false

end Action

/-- two lists of actions, the kept ones of which are of the same shape in turn -/
inductive Woven (keep : Action → Bool) : List Action → List Action → Prop where
  | nil : Woven keep [] []
  | both {a a' : Action} {as as' : List Action} (kept : keep a = true) (kept' : keep a' = true) (shape : a.SameShape a')
    (rest : Woven keep as as') : Woven keep (a :: as) (a' :: as')
  | left {a : Action} {as as' : List Action} (out : keep a = false) (rest : Woven keep as as') : Woven keep (a :: as) as'
  | right {a' : Action} {as as' : List Action} (out : keep a' = false) (rest : Woven keep as as') : Woven keep as (a' :: as')

theorem Woven.of_filter {keep : Action → Bool} {as as' : List Action}
    (h : List.Forall₂ Action.SameShape (as.filter keep) (as'.filter keep)) : Woven keep as as' := by
  induction as generalizing as' with
  | nil =>
    induction as' with
    | nil => exact .nil
    | cons a' as' ih' =>
      cases hkeep' : keep a' with
      | false => exact .right hkeep' (ih' (by rwa [List.filter_cons, hkeep'] at h))
      | true =>
        rw [List.filter_cons, hkeep'] at h
        cases h
  | cons a as ih =>
    cases hkeep : keep a with
    | false => exact .left hkeep (ih (by rwa [List.filter_cons, hkeep] at h))
    | true =>
      induction as' with
      | nil =>
        rw [List.filter_cons, hkeep] at h
        cases h
      | cons a' as' ih' =>
        cases hkeep' : keep a' with
        | false =>
          rw [List.filter_cons (x := a'), hkeep'] at h
          exact .right hkeep' (ih' h)
        | true =>
          rw [List.filter_cons, List.filter_cons, hkeep, hkeep'] at h
          cases h with
          | cons shape rest => exact .both hkeep hkeep' shape (ih rest)

namespace Controller

variable {δ : Type} [Adjustable δ]

/-- the controller after one action, and what its caller was told -/
def after (c : Controller δ) : Action → Reply × Controller δ
  | .operate op => op.perform c
  | .adjust s => (.done, { c with link := { c.link with device := Adjustable.adjust c.link.device s } })

def through (c : Controller δ) (as : List Action) : Controller δ :=
  as.foldl (fun c a => (c.after a).2) c

/-- the controller after each of the actions that are kept, and what its caller was told -/
def moments (keep : Action → Bool) (c : Controller δ) : List Action → List (Reply × Controller δ)
  | [] => []
  | a :: as => if keep a then c.after a :: moments keep (c.after a).2 as else moments keep (c.after a).2 as

/-- the window of the transfer buffer -/
def bufferWindow (c : Controller δ) : Option Window :=
  c.transfer.map GpuBlock.window

/-- Two runs that nobody can tell apart but by colours and by what lies behind the window `w`, which is that of the transfer
buffer whenever there is one. -/
structure Indistinct (V : Veil δ) (keep : Action → Bool) (c : Controller δ) (as as' : List Action) (w : Option Window) :
    Prop where
  window : ∀ v, w = some v ↔ ∃ before, before <+: as ∧ (c.through before).bufferWindow = some v
  moments : List.Forall₂ (Alongside (Alike V w)) (c.moments keep as) (c.moments keep as')
  ended : Alike V w (c.through as) (c.through as')
  dropped : Alike V w (c.through as).abandon (c.through as').abandon

variable {V : Veil δ} {w : Option Window} {c c' : Controller δ} {a a' : Action} {as as' : List Action}

theorem moments_of_kept {keep : Action → Bool} (h : keep a = true) :
    c.moments keep (a :: as) = c.after a :: (c.after a).2.moments keep as :=
  if_pos h

theorem moments_of_out {keep : Action → Bool} (h : keep a = false) :
    c.moments keep (a :: as) = (c.after a).2.moments keep as :=
  if_neg (ne_true_of_eq_false h)

/-! ## What an action keeps -/

theorem Reached.after (h : c.Reached) (a : Action) : (c.after a).2.Reached := by
  cases a with
  | operate op => exact .performed op h
  | adjust s => exact .meanwhile _ h

/-- A device in order stays in order. -/
theorem orderly_after (h : V.Orderly c.link.device) (a : Action) : V.Orderly (c.after a).2.link.device := by
  have hkept : Invariant fun c : Controller δ => V.Orderly c.link.device :=
    .of_keeps (fun _ d m _ h => h.exchange m) (fun _ bus len h => h.openWindow bus len) (fun _ v h => h.closeWindow v)
      fun _ v offset bytes h => h.write v offset bytes
  cases a with
  | operate op => exact hkept.perform c op h
  | adjust s => exact h.adjust s

theorem after_started (h : c.phase ≠ .uninitialized) (a : Action) : (c.after a).2.phase ≠ .uninitialized := by
  cases a with
  | operate op => exact (c.perform_turn op).ne_uninitialized h
  | adjust s => exact h

theorem after_of_recolors (c : Controller δ) (h : a.recolors = true) : ∃ colors, (c.after a).2 = c.recolor colors := by
  cases a with
  | adjust s => cases h
  | operate op =>
    cases op with
    | recolor colors | hostColors colors => exact ⟨colors, rfl⟩
    | start | display | hide | moveTo | enableFor | load | close | hostShow | hostHide | hostMove | hostLoad | hostLoadPixels |
      hostEnable => cases h

theorem Course.transfer_eq {op : Operation} (hready : c.phase.isReady = true) (h : Course c op c') :
    c'.transfer = c.transfer ∨ c'.transfer = none := by
  induction h with
  | idle | recolored => exact Or.inl rfl
  | placed x y raised =>
    obtain ⟨m, l, -, -, hplace | hplace⟩ := c.place_leaves _ x y
    · exact Or.inl (by rw [hplace])
    · exact Or.inl (by rw [hplace])
  | @drawn image picture block =>
    obtain ⟨m, l, -, -, hupload | hupload⟩ := c.upload_leaves block picture
    · exact Or.inl (by rw [hupload])
    · exact Or.inl (by rw [hupload])
  | closed asked =>
    obtain ⟨hidden, m, l, event, -, -, hclose⟩ := c.close_leaves hready
    exact Or.inr (by rw [hclose])
  | noted e course ih => exact ih

/-- Once a controller has started, it keeps its transfer buffer or gives it back; it never gets another. -/
theorem transfer_after (h : c.phase ≠ .uninitialized) (a : Action) :
    (c.after a).2.transfer = c.transfer ∨ (c.after a).2.transfer = none := by
  cases a with
  | adjust s => exact Or.inl rfl
  | operate op =>
    show (op.perform c).2.transfer = _ ∨ (op.perform c).2.transfer = _
    by_cases hready : c.phase.isReady = true
    · exact (c.perform_course hready op).transfer_eq hready
    · rw [c.perform_of_not_ready (by simpa using hready) op fun _ => h]
      exact Or.inl rfl

theorem transfer_through (h : c.phase ≠ .uninitialized) (as : List Action) :
    (c.through as).transfer = c.transfer ∨ (c.through as).transfer = none := by
  induction as generalizing c with
  | nil => exact Or.inl rfl
  | cons a as ih =>
    obtain hrest | hrest := ih (after_started h a)
    · obtain hfirst | hfirst := transfer_after h a
      · exact Or.inl (hrest.trans hfirst)
      · exact Or.inr (hrest.trans hfirst)
    · exact Or.inr hrest

/-! ## The window -/

theorem Reached.through (h : c.Reached) (as : List Action) : (c.through as).Reached := by
  induction as generalizing c with
  | nil => exact h
  | cons a as ih => exact ih (h.after a)

/-- A transfer buffer that is there later on in a run is the one that was there before. -/
theorem bufferWindow_eq (h : c.Reached) {before before' : List Action} (hle : before <+: before') {v v' : Window}
    (hv : (c.through before).bufferWindow = some v) (hv' : (c.through before').bufferWindow = some v') : v' = v := by
  obtain ⟨rest, rfl⟩ := hle
  have hsplit : c.through (before ++ rest) = (c.through before).through rest := List.foldl_append
  have hstarted : (c.through before).phase ≠ .uninitialized := by
    refine Phase.ne_uninitialized (((h.through before).holdsBuffer).symm.trans ?_)
    exact (Option.isSome_map).symm.trans (Option.isSome_iff_exists.2 ⟨v, hv⟩)
  rw [hsplit] at hv'
  obtain htransfer | htransfer := transfer_through hstarted rest
  · rw [bufferWindow, htransfer] at hv'
    exact Option.some.inj (hv'.symm.trans hv)
  · rw [bufferWindow, htransfer] at hv'
    cases hv'

theorem exists_window (h : c.Reached) (as : List Action) :
    ∃ w : Option Window, ∀ v, w = some v ↔ ∃ before, before <+: as ∧ (c.through before).bufferWindow = some v := by
  by_cases hany : ∃ v before, before <+: as ∧ (c.through before).bufferWindow = some v
  · obtain ⟨v, before, hbefore, hv⟩ := hany
    refine ⟨some v, fun v' => ⟨?_, ?_⟩⟩
    · rintro ⟨⟩
      exact ⟨before, hbefore, hv⟩
    · rintro ⟨before', hbefore', hv'⟩
      obtain hle | hle := List.prefix_or_prefix_of_prefix hbefore hbefore'
      · rw [bufferWindow_eq h hle hv hv']
      · rw [bufferWindow_eq h hle hv' hv]
  · exact ⟨none, fun v => ⟨nofun, fun hv => absurd ⟨v, hv⟩ hany⟩⟩

/-! ## Two runs -/

/-- With nothing hidden so far, anything may be hidden from now on. -/
theorem Alike.veiled (h : Alike V none c c') (horderly : V.Orderly c.link.device) (w : Option Window) : Alike V w c c' := by
  obtain ⟨colors, rfl⟩ := h.eq_recolor
  exact .recolor_of_orderly horderly w colors

/-- alike but for the window, and for nothing but colours before the start -/
def Twins (V : Veil δ) (w : Option Window) (c c' : Controller δ) : Prop :=
  Alike V (if c.phase = .uninitialized then none else w) c c'

theorem Twins.of_started (hstarted : c.phase ≠ .uninitialized) (h : Alike V w c c') : Twins V w c c' := by
  rwa [Twins, if_neg hstarted]

theorem Twins.alike (h : Twins V w c c') (horderly : V.Orderly c.link.device) : Alike V w c c' := by
  unfold Twins at h
  split_ifs at h
  · exact h.veiled horderly w
  · exact h

/-- **One action** on each of two controllers. -/
theorem Twins.after (h : Twins V w c c') (hreached : c.Reached) (horderly : V.Orderly c.link.device)
    (hw : ∀ block, c.transfer = some block → w = some block.window) (hshape : a.SameShape a') :
    Alongside (Twins V w) (c.after a) (c'.after a') := by
  have horderly' := orderly_after horderly a
  cases hshape with
  | adjust s =>
    obtain ⟨link, colors, hlinks, rfl⟩ := h.eq_with
    exact .mk _ ⟨⟨hlinks.device.adjust s, hlinks.sent, hlinks.events⟩, rfl⟩
  | @operate op op' hshape =>
    by_cases hphase : c.phase = .uninitialized
    · rw [Twins, if_pos hphase] at h
      have hdone : Alongside (Alike V none) (op.perform c) (op'.perform c') := by
        by_cases hstart : op = .start
        · subst hstart
          cases hshape
          obtain ⟨colors, rfl⟩ := h.eq_recolor
          show Alongside (Alike V none) (c.start.map Reply.ofUnit id) ((c.recolor colors).start.map Reply.ofUnit id)
          rw [start_recolor]
          exact .of_eq rfl (.recolor_of_orderly horderly' none colors)
        · have hnone : c.transfer = none := by
            have hholds := hreached.holdsBuffer
            rw [HoldsBuffer, hphase] at hholds
            exact Option.isNone_iff_eq_none.1 (Option.isSome_eq_false_iff.1 hholds)
          refine h.perform (fun block hblock => ?_) (fun heq => absurd heq hstart) hshape
          rw [hnone] at hblock
          cases hblock
      exact .of_eq hdone.outcome_eq (hdone.left.veiled horderly' _)
    · have hdone : Alongside (Alike V w) (op.perform c) (op'.perform c') := by
        rw [Twins, if_neg hphase] at h
        exact h.perform hw (fun _ => hphase) hshape
      exact .of_eq hdone.outcome_eq (.of_started ((c.perform_turn op).ne_uninitialized hphase) hdone.left)

/-- **Many actions** on each of two controllers, with colours stored at any time. -/
theorem Woven.follow {keep : Action → Bool} (hkeep : ∀ a, keep a = false → a.recolors = true) (hwoven : Woven keep as as')
    (hreached : c.Reached) (horderly : V.Orderly c.link.device)
    (hw : ∀ before, before <+: as → ∀ block, (c.through before).transfer = some block → w = some block.window)
    (h : Twins V w c c') :
    List.Forall₂ (Alongside (Alike V w)) (c.moments keep as) (c'.moments keep as') ∧
      Alike V w (c.through as) (c'.through as') := by
  induction hwoven generalizing c c' with
  | nil => exact ⟨.nil, h.alike horderly⟩
  | @both a a' as as' kept kept' shape rest ih =>
    have hafter := h.after hreached horderly (hw [] List.nil_prefix) shape
    have hrest := ih (hreached.after a) (orderly_after horderly a)
      (fun before hbefore => hw (a :: before) ((List.prefix_cons_inj a).2 hbefore)) hafter.left
    rw [moments_of_kept kept, moments_of_kept kept']
    exact ⟨.cons (.of_eq hafter.outcome_eq (hafter.left.alike (orderly_after horderly a))) hrest.1, hrest.2⟩
  | @left a as as' out rest ih =>
    obtain ⟨colors, hcolors⟩ := after_of_recolors c (hkeep a out)
    have htwins : Twins V w (c.after a).2 c' := by
      rw [hcolors]
      exact Alike.recolor_left h colors
    have hrest := ih (hreached.after a) (orderly_after horderly a)
      (fun before hbefore => hw (a :: before) ((List.prefix_cons_inj a).2 hbefore)) htwins
    rwa [moments_of_out out]
  | @right a' as as' out rest ih =>
    obtain ⟨colors, hcolors⟩ := after_of_recolors c' (hkeep a' out)
    have htwins : Twins V w c (c'.after a').2 := by
      rw [hcolors]
      exact Alike.recolor_right h colors
    have hrest := ih hreached horderly hw htwins
    rwa [moments_of_out out]

/-- Over any device that is in order, behind a veil. -/
theorem exists_indistinct {keep : Action → Bool} (hkeep : ∀ a, keep a = false → a.recolors = true) {link : Link δ}
    (horderly : V.Orderly link.device) (settings : CursorSettings)
    (hshape : List.Forall₂ Action.SameShape (as.filter keep) (as'.filter keep)) :
    ∃ w, Indistinct V keep (create link settings) as as' w := by
  have hreached : (create link settings).Reached := .created link settings
  obtain ⟨w, hwindow⟩ := exists_window hreached as
  have htwins : Twins V w (create link settings) (create link settings) := .recolor_of_orderly horderly _ _
  obtain ⟨hmoments, hended⟩ := Woven.follow hkeep (.of_filter hshape) hreached horderly
    (fun before hbefore block hblock => (hwindow _).2 ⟨before, hbefore, by rw [bufferWindow, hblock]; rfl⟩) htwins
  exact ⟨w, hwindow, hmoments, hended, hended.abandon⟩

/-- a controller from which on colours, and what images show, make no difference that anyone can tell -/
structure Blind (V : Veil δ) (c : Controller δ) : Prop where
  /-- after every action of two runs that are the same but for colours and for what the images show -/
  repainted : ∀ as as', List.Forall₂ Action.SameShape as as' → ∃ w, Indistinct V (fun _ => true) c as as' w
  /-- the same after every other action, if colours are stored at any other times, more or less often -/
  recolored : ∀ as as',
    List.Forall₂ Action.SameShape (as.filter fun a => !a.recolors) (as'.filter fun a => !a.recolors) →
      ∃ w, Indistinct V (fun a => !a.recolors) c as as' w

theorem blind_of_orderly {link : Link δ} (horderly : V.Orderly link.device) (settings : CursorSettings) :
    Blind V (create link settings) where
  repainted as as' h := by
    have hall (as : List Action) : as.filter (fun _ => true) = as := List.filter_eq_self.2 fun _ _ => rfl
    exact exists_indistinct (fun _ hout => absurd hout.symm Bool.false_ne_true) horderly settings (by rwa [hall, hall])
  recolored as as' h := exists_indistinct (fun a hout => by simpa using hout) horderly settings h

/-- **Colours and pixels decide nothing.** Over the emulated firmware, in whatever state and with whatever faults, and over any
script of replies in front of it: runs that differ in the colours that are stored and in what the images show, but not in the
images' kinds, sizes, layouts and lengths, send the same messages, bring the same results and go through the same states, all
but the colours, the contents of the transfer buffer and the captured pixels. When colours are stored, and how often, makes no
difference to any message or result either. -/
theorem blind (id : Nat) (steps : List Firmware.Step) (script : List ScriptStep) (settings : CursorSettings) :
    Blind Firmware.veil (create (.fresh ((Firmware.fresh id).run steps)) settings) ∧
      Blind Firmware.veil.scripted (create (.fresh ⟨(Firmware.fresh id).run steps, script⟩) settings) := by
  have horderly := Firmware.orderly_run id steps
  exact ⟨blind_of_orderly horderly settings, blind_of_orderly (horderly.scripted script) settings⟩

/-- A green pixel is shown, or a red one, with other colours stored or none: the captured images differ, and nobody can tell
the runs apart by anything else. -/
theorem blind_green_and_red :
    let c := create (.fresh (Firmware.fresh 0)) .default
    let green : List Action := [.operate .start, .operate (.recolor ⟨.white, .black⟩),
      .operate (.load (.argb 1 1 #[0xff00ff00]))]
    let red : List Action := [.operate .start, .operate (.recolor ⟨.black, .white⟩),
      .operate (.load (.argb 1 1 #[0xffff0000]))]
    let bare : List Action := [.operate .start, .operate (.load (.argb 1 1 #[0xffff0000]))]
    ((c.through green).link.device.cursorImage ≠ (c.through red).link.device.cursorImage) ∧
      (∃ w, Indistinct Firmware.veil (fun _ => true) c green red w) ∧
      ∃ w, Indistinct Firmware.veil (fun a => !a.recolors) c green bare w := by
  intro c green red bare
  have hred : List.Forall₂ Action.SameShape green red :=
    .cons (.operate (.same _)) (.cons (.operate (.recolor _ _)) (.cons (.operate (.load (.argb 1 1 rfl))) .nil))
  have hbare : List.Forall₂ Action.SameShape (green.filter fun a => !a.recolors) (bare.filter fun a => !a.recolors) :=
    .cons (.operate (.same _)) (.cons (.operate (.load (.argb 1 1 rfl))) .nil)
  obtain ⟨hblind, -⟩ := blind 0 [] [] .default
  exact ⟨by decide +kernel, hblind.repainted green red hred, hblind.recolored green bare hbare⟩

end Controller
end MailboxCursor
