/-
What the emulated firmware does with a message, and with a request.

`accepts?` is the request that the firmware acts on, if the faults that are switched on, the size word and the length of the
request let it. An exchange acts on that request and answers with its values (`exchange_of_accepts`), or it changes nothing
but the log (`exchange_of_refused`). A request composed for a known tag is answered (`word_of_accepts`) or it fails
(`answer_of_not_takes`), and the firmware afterwards is known in both cases (`askWord_firmware`). Of a message for a known tag
without a fault the same holds, whatever it is: acted on, or refused as malformed (`exchange_of_malformed`).
-/
import MailboxCursor.Firmware.Windows
import MailboxCursor.Proofs.Device.Ask

namespace MailboxCursor.Firmware

/-- a tag whose transactions fail or come back untouched -/
def isFaulty (fw : Firmware) (tag : UInt32) : Bool :=
  fw.faults.fails tag || fw.faults.withholds tag

/-- the request in a message that the firmware acts on -/
def accepts? (fw : Firmware) (m : Message) : Option (Tag × List UInt32) :=
  if fw.isFaulty m.tag || m.sizeBytes.toNat != m.len * 4 then none
  else
    (Tag.ofWord? m.tag).bind fun tag =>
      if m.requestPayload.length < tag.requestWords || fw.exhaustsLocks tag m.requestPayload then none
      else some (tag, m.requestPayload)

/-! ## The request log takes no part -/

section Log

variable (fw : Firmware) (m : Message)

@[simp] theorem logRequest_blocks : (fw.logRequest m).blocks = fw.blocks := rfl
@[simp] theorem logRequest_faults : (fw.logRequest m).faults = fw.faults := rfl

theorem place?_logRequest (size alignment : UInt32) :
    (fw.logRequest m).place? size alignment = fw.place? size alignment := rfl

theorem allocate_logRequest (size alignment : UInt32) (flags : AllocFlags) :
    (fw.logRequest m).allocate size alignment flags =
      ((fw.allocate size alignment flags).1.logRequest m, (fw.allocate size alignment flags).2) := by
  simp only [allocate, place?_logRequest]
  cases fw.place? size (max alignment 1) <;> rfl

theorem lock_logRequest (h : UInt32) :
    (fw.logRequest m).lock h = ((fw.lock h).1.logRequest m, (fw.lock h).2) := by
  simp only [lock, logRequest_blocks]
  cases Blocks.find? fw.blocks h <;> rfl

theorem unlock_logRequest (h : UInt32) :
    (fw.logRequest m).unlock h = ((fw.unlock h).1.logRequest m, (fw.unlock h).2) := by
  simp only [unlock, logRequest_blocks]
  cases Blocks.find? fw.blocks h with
  | none => rfl
  | some b => cases hb : b.isLocked <;> simp [hb, logRequest]

theorem release_logRequest (h : UInt32) :
    (fw.logRequest m).release h = ((fw.release h).1.logRequest m, (fw.release h).2) := by
  simp only [release, logRequest_blocks]
  cases Blocks.find? fw.blocks h with
  | none => rfl
  | some b => cases hb : b.isLocked || b.mappings != 0 <;> simp [hb, logRequest]

theorem setCursorGeometry_logRequest (g : CursorGeometry) :
    (fw.logRequest m).setCursorGeometry g =
      ((fw.setCursorGeometry g).1.logRequest m, (fw.setCursorGeometry g).2) := by
  simp only [setCursorGeometry, logRequest_blocks]
  split
  · split <;> rfl
  · rfl

/-- A firmware acts alike whatever it has logged. -/
theorem act_logRequest (tag : Tag) (p : List UInt32) :
    (fw.logRequest m).act tag p = ((fw.act tag p).1.logRequest m, (fw.act tag p).2) := by
  cases tag with
  | getFirmwareVersion => rfl
  | getOverscan => rfl
  | setCursorState => rfl
  | allocateMemory => simp only [act, allocate_logRequest]
  | lockMemory => simp only [act, lock_logRequest]
  | unlockMemory => simp only [act, unlock_logRequest]
  | releaseMemory => simp only [act, release_logRequest]
  | setCursorInfo => simp only [act, setCursorGeometry_logRequest]

end Log

/-! ## One exchange -/

variable {fw : Firmware} {m : Message} {tag : Tag} {p : List UInt32}

theorem accepts?_eq_some_iff : fw.accepts? m = some (tag, p) ↔
    fw.isFaulty m.tag = false ∧ m.sizeBytes.toNat = m.len * 4 ∧ Tag.ofWord? m.tag = some tag ∧ m.requestPayload = p ∧
      tag.requestWords ≤ p.length ∧ fw.exhaustsLocks tag p = false := by
  rw [accepts?]
  constructor
  · intro h
    by_cases hfault : (fw.isFaulty m.tag || m.sizeBytes.toNat != m.len * 4) = true
    · rw [if_pos hfault] at h
      cases h
    rw [if_neg hfault] at h
    simp only [Bool.or_eq_true, not_or, Bool.not_eq_true, bne_eq_false_iff_eq] at hfault
    obtain ⟨t, ht, h⟩ := Option.bind_eq_some_iff.1 h
    by_cases hshort : (m.requestPayload.length < t.requestWords || fw.exhaustsLocks t m.requestPayload) = true
    · rw [if_pos hshort] at h
      cases h
    rw [if_neg hshort] at h
    simp only [Bool.or_eq_true, decide_eq_true_eq, not_or, not_lt, Bool.not_eq_true] at hshort
    obtain ⟨rfl, rfl⟩ := Prod.mk.inj (Option.some.inj h)
    exact ⟨hfault.1, hfault.2, ht, rfl, hshort⟩
  · rintro ⟨hfault, hsize, ht, rfl, hwords, hexhausts⟩
    have hshort : ¬m.requestPayload.length < tag.requestWords := not_lt.2 hwords
    simp [hfault, hsize, ht, hshort, hexhausts]

theorem exchange_of_accepts (h : fw.accepts? m = some (tag, p)) :
    fw.exchange m =
      ⟨.ok (), (m.answered (fw.act tag p).2).words, (fw.act tag p).1.logRequest m, []⟩ := by
  obtain ⟨hfault, hsize, ht, rfl, hwords, hexhausts⟩ := accepts?_eq_some_iff.1 h
  obtain ⟨hfails, hwithholds⟩ := Bool.or_eq_false_iff.1 hfault
  have hshort : ¬m.requestPayload.length < tag.requestWords := not_lt.2 hwords
  have hexhausts' : (fw.logRequest m).exhaustsLocks tag m.requestPayload = false := hexhausts
  simp only [exchange, logRequest_faults, hfails, hwithholds, hsize, ht, hexhausts', if_neg hshort, act_logRequest,
    Bool.false_eq_true, if_false, ne_eq, not_true_eq_false]

/-- An exchange that the firmware does not act on changes only the log, and the answer is none of a request's: a failure,
or a buffer that says nothing or nothing of use. -/
theorem exchange_of_refused (h : fw.accepts? m = none) :
    (fw.exchange m).device = fw.logRequest m ∧
      ((∃ e, (fw.exchange m).result = .error e) ∨ (fw.exchange m).words = m.words ∨
        (fw.exchange m).words = (m.withCode Message.parseFailure).words ∨
        Tag.ofWord? m.tag = none ∧ (fw.exchange m).words = (m.answered []).words) := by
  simp only [exchange, logRequest_faults]
  by_cases hfails : fw.faults.fails m.tag = true
  · rw [if_pos hfails]
    exact ⟨rfl, Or.inl ⟨_, rfl⟩⟩
  rw [if_neg hfails]
  by_cases hwithholds : fw.faults.withholds m.tag = true
  · rw [if_pos hwithholds]
    exact ⟨rfl, Or.inr (Or.inl rfl)⟩
  rw [if_neg hwithholds]
  by_cases hsize : m.sizeBytes.toNat = m.len * 4
  swap
  · rw [if_pos hsize]
    exact ⟨rfl, Or.inr (Or.inr (Or.inl rfl))⟩
  rw [if_neg (not_not.2 hsize)]
  cases ht : Tag.ofWord? m.tag with
  | none => exact ⟨rfl, Or.inr (Or.inr (Or.inr ⟨rfl, rfl⟩))⟩
  | some t =>
    dsimp only
    by_cases hshort : m.requestPayload.length < t.requestWords
    · rw [if_pos hshort]
      exact ⟨rfl, Or.inr (Or.inr (Or.inl rfl))⟩
    rw [if_neg hshort]
    by_cases hexhausts : (fw.logRequest m).exhaustsLocks t m.requestPayload = true
    · rw [if_pos hexhausts]
      exact ⟨rfl, Or.inl ⟨_, rfl⟩⟩
    -- none of the obstacles is left, so the request is acted on
    have hfault : fw.isFaulty m.tag = false :=
      Bool.or_eq_false_iff.2 ⟨Bool.not_eq_true _ ▸ hfails, Bool.not_eq_true _ ▸ hwithholds⟩
    have hexhausts' : fw.exhaustsLocks t m.requestPayload = false := Bool.not_eq_true _ ▸ hexhausts
    rw [accepts?_eq_some_iff.2 ⟨hfault, hsize, ht, rfl, not_lt.1 hshort, hexhausts'⟩] at h
    cases h

/-- A message for a known tag that is not whole, or too short for its tag, is said to be so. -/
theorem exchange_of_malformed (hfault : fw.isFaulty m.tag = false) (ht : Tag.ofWord? m.tag = some tag)
    (hbad : m.sizeBytes.toNat = m.len * 4 → m.requestPayload.length < tag.requestWords) :
    fw.exchange m = ⟨.ok (), (m.withCode Message.parseFailure).words, fw.logRequest m, []⟩ := by
  obtain ⟨hfails, hwithholds⟩ := Bool.or_eq_false_iff.1 hfault
  simp only [exchange, logRequest_faults, hfails, hwithholds, ht, Bool.false_eq_true, if_false]
  by_cases hsize : m.sizeBytes.toNat = m.len * 4
  · rw [if_neg (not_not.2 hsize), if_pos (hbad hsize)]
  · rw [if_pos hsize]

theorem word_of_malformed (hfault : fw.isFaulty m.tag = false) (ht : Tag.ofWord? m.tag = some tag)
    (hbad : m.sizeBytes.toNat = m.len * 4 → m.requestPayload.length < tag.requestWords) :
    ∃ e, (fw.exchange m).word m = .error e := by
  rw [exchange_of_malformed hfault ht hbad]
  obtain ⟨e, he⟩ := Message.response_error_of_code (m := m.withCode Message.parseFailure) (by
    rw [Message.code_withCode]
    decide)
  refine ⟨.exchangeFailed m.tag (.response e), ?_⟩
  simp only [Exchange.word, Exchange.answer]
  simp only [Message.withCode, Message.poke] at he ⊢
  rw [he]
  rfl

/-- A message that nobody has marked as processed says nothing when it comes back as it was. -/
theorem word_of_faulty (hfault : fw.isFaulty m.tag = true) (hcode : m.code ≠ Message.success) :
    ∃ e, (fw.exchange m).word m = .error e := by
  obtain ⟨e, he⟩ := Message.response_error_of_code hcode
  simp only [exchange, logRequest_faults]
  by_cases hfails : fw.faults.fails m.tag = true
  · rw [if_pos hfails]
    exact ⟨_, rfl⟩
  · have hwithholds : fw.faults.withholds m.tag = true := (Bool.or_eq_true_iff.1 hfault).resolve_left hfails
    rw [if_neg hfails, if_pos hwithholds]
    refine ⟨.exchangeFailed m.tag (.response e), ?_⟩
    simp only [Exchange.word, Exchange.answer]
    rw [he]
    rfl

/-- A message for a known tag that brings an answer, and not one that it was sent with, was acted on. -/
theorem accepts?_of_word {w : UInt32} (hasked : m.code ≠ Message.success ∨ fw.isFaulty m.tag = false)
    (ht : Tag.ofWord? m.tag = some tag) (hcount : fw.exhaustsLocks tag m.requestPayload = false)
    (h : (fw.exchange m).word m = .ok w) : fw.accepts? m = some (tag, m.requestPayload) := by
  have hfault : fw.isFaulty m.tag = false := by
    rcases hasked with hcode | hfault
    · by_contra hfaulty
      obtain ⟨e, he⟩ := word_of_faulty (by simpa using hfaulty) hcode
      rw [he] at h
      cases h
    · exact hfault
  by_cases hwhole : m.sizeBytes.toNat = m.len * 4 ∧ tag.requestWords ≤ m.requestPayload.length
  · exact accepts?_eq_some_iff.2 ⟨hfault, hwhole.1, ht, rfl, hwhole.2, hcount⟩
  · obtain ⟨e, he⟩ := word_of_malformed hfault ht fun hsize => not_le.1 fun hlen => hwhole ⟨hsize, hlen⟩
    rw [he] at h
    cases h

/-! ## Requests -/

/-- the firmware acts on a request for `tag`: no fault on the tag, and no lock more than can be counted -/
def takes (fw : Firmware) (tag : Tag) (p : List UInt32) : Bool :=
  !fw.isFaulty tag.id && !fw.exhaustsLocks tag p

theorem takes_eq_true_iff : fw.takes tag p = true ↔ fw.isFaulty tag.id = false ∧ fw.exhaustsLocks tag p = false := by
  simp [takes]

theorem exhaustsLocks_of_ne (h : tag ≠ .lockMemory) : fw.exhaustsLocks tag p = false := by
  rw [exhaustsLocks]
  cases tag <;> first | rfl | exact absurd rfl h

/-- Only locks are counted: any other request is acted on if its tag is free of faults. -/
theorem takes_of_ne (hfault : fw.isFaulty tag.id = false) (h : tag ≠ .lockMemory) : fw.takes tag p = true :=
  takes_eq_true_iff.2 ⟨hfault, exhaustsLocks_of_ne h⟩

theorem locks_ne_of_exhaustsLocks {b : Block} (hfind : Blocks.find? fw.blocks (p.getD 0 0) = some b)
    (h : fw.exhaustsLocks .lockMemory p = false) : b.locks ≠ 0xffffffff := by
  rw [exhaustsLocks, hfind] at h
  simpa using h

theorem accepts?_of_takes (hm : Message.request tag p = .ok m) (hp : tag.requestWords ≤ p.length)
    (h : fw.takes tag p = true) : fw.accepts? m = some (tag, p) := by
  obtain ⟨hfault, hexhausts⟩ := takes_eq_true_iff.1 h
  have htag : m.tag = tag.id := Message.tag_of_compose hm
  refine accepts?_eq_some_iff.2 ⟨by rw [htag]; exact hfault, Message.sizeBytes_of_compose hm, ?_,
    Message.requestPayload_of_compose hm, hp, hexhausts⟩
  rw [htag, Tag.ofWord?_id]

theorem accepts?_of_not_takes (hm : Message.request tag p = .ok m) (h : fw.takes tag p = false) :
    fw.accepts? m = none := by
  rw [Option.eq_none_iff_forall_not_mem]
  rintro ⟨t, q⟩ hq
  obtain ⟨hfault, -, ht, hpayload, -, hexhausts⟩ := accepts?_eq_some_iff.1 (Option.mem_def.1 hq)
  have htag : m.tag = tag.id := Message.tag_of_compose hm
  rw [htag, Tag.ofWord?_id] at ht
  obtain rfl := Option.some.inj ht
  obtain rfl := (Message.requestPayload_of_compose hm).symm.trans hpayload
  rw [htag] at hfault
  rw [takes_eq_true_iff.2 ⟨hfault, hexhausts⟩] at h
  cases h

/-- The firmware answers with as many words as the tag promises. -/
theorem length_act (fw : Firmware) (tag : Tag) (p : List UInt32) : (fw.act tag p).2.length = tag.responseWords := by
  cases tag <;> rfl

/-- Of a request that the firmware acts on the values come back, if the value buffer has room for the tag's answer. -/
theorem answer_of_accepts {n : Nat} (h : fw.accepts? m = some (tag, p)) (hroom : tag.responseWords ≤ m.valueWords)
    (hn : n ≤ tag.responseWords) : (fw.exchange m).answer m n = .ok ((fw.act tag p).2.take n) := by
  have hlen := length_act fw tag p
  have hresponse : (fw.act tag p).2.length * 4 < 2 ^ 31 := by
    have := Message.responseWords_le tag
    omega
  have hwhole : (fw.act tag p).2.take m.valueWords = (fw.act tag p).2 := List.take_of_length_le (by omega)
  rw [exchange_of_accepts h, Exchange.answer]
  have hsaid := Message.response_answered m hresponse
  rw [hwhole] at hsaid
  simp only [Message.answered] at hsaid ⊢
  rw [hsaid]
  simp only [Response.first, if_neg (not_lt.2 (hlen ▸ hn))]

theorem word_of_accepts (h : fw.accepts? m = some (tag, p)) (hroom : tag.responseWords ≤ m.valueWords) :
    (fw.exchange m).word m = .ok ((fw.act tag p).2.headD 0) := by
  have hone : 1 ≤ tag.responseWords := by cases tag <;> decide
  rw [Exchange.word, answer_of_accepts h hroom hone]
  cases (fw.act tag p).2 with
  | nil => rfl
  | cons v vs => rfl

/-- Of a request that the firmware does not act on nothing comes back but a failure. -/
theorem answer_of_not_takes (n : Nat) (hm : Message.request tag p = .ok m) (h : fw.takes tag p = false) :
    ∃ e, (fw.exchange m).answer m n = .error e := by
  have hcode : m.code = Message.requestCode := Message.code_of_compose hm
  have htag : Tag.ofWord? m.tag = some tag := by
    rw [show m.tag = tag.id from Message.tag_of_compose hm, Tag.ofWord?_id]
  rw [Exchange.answer]
  rcases hresult : (fw.exchange m).result with e | ⟨⟩
  · exact ⟨e, rfl⟩
  have hsilent : ∃ e, ({ m with words := (fw.exchange m).words } : Message).response = .error e := by
    apply Message.response_error_of_code
    rcases (exchange_of_refused (accepts?_of_not_takes hm h)).2 with ⟨e, he⟩ | hwords | hwords | ⟨hnone, -⟩
    · rw [hresult] at he
      cases he
    · rw [hwords]
      show m.code ≠ Message.success
      rw [hcode]
      decide
    · rw [hwords]
      show (m.withCode Message.parseFailure).code ≠ Message.success
      rw [Message.code_withCode]
      decide
    · rw [htag] at hnone
      cases hnone
  obtain ⟨e, he⟩ := hsilent
  rw [he]
  exact ⟨_, rfl⟩

/-- A request of one word over the firmware: acted on and answered, or failed and without effect. -/
theorem askWord_firmware (l : Link Firmware) (tag : Tag) (p : List UInt32) (hp : tag.requestWords ≤ p.length)
    (hfit : p.length ≤ 26) :
    ∃ m, Message.request tag p = .ok m ∧
      if l.device.takes tag p then
        (l.askWord tag p).1 = .ok ((l.device.act tag p).2.headD 0) ∧
          (l.askWord tag p).2.device = (l.device.act tag p).1.logRequest m
      else (∃ e, (l.askWord tag p).1 = .error e) ∧ (l.askWord tag p).2.device = l.device.logRequest m := by
  obtain ⟨m, hm⟩ := Message.request_eq_ok tag (p := p) hfit
  have hroom : tag.responseWords ≤ m.valueWords := by
    rw [Message.valueWords_of_request hm]
    exact le_max_right _ _
  refine ⟨m, hm, ?_⟩
  have hdevice : (l.askWord tag p).2.device = (l.device.exchange m).device := Link.askWord_device hm
  have hword : (l.askWord tag p).1 = (l.device.exchange m).word m := Link.askWord_result hm
  split
  next h =>
    have haccepts := accepts?_of_takes hm hp h
    rw [hdevice, hword, word_of_accepts haccepts hroom, exchange_of_accepts haccepts]
    exact ⟨rfl, rfl⟩
  next h =>
    rw [Bool.not_eq_true] at h
    obtain ⟨e, he⟩ := answer_of_not_takes 1 hm h
    rw [hdevice, hword, Exchange.word, he, (exchange_of_refused (accepts?_of_not_takes hm h)).1]
    exact ⟨⟨e, rfl⟩, rfl⟩

end MailboxCursor.Firmware
