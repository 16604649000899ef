/-
How an exchange ends: in one of five ways, whatever the message and whatever state the firmware is in.

Any word of a message may have been overwritten, the sizes in its header among them. `Fate.Due` says when an exchange is to end
in which way, in the order in which the obstacles count, and `Fate.Brings` what such an end brings. Only a request that is
acted on changes more than the log (`Untouched`), and it is acted on as a whole: it is long enough for its tag, and no word
behind those that the tag needs is looked at (`act_take`). `exchange_fate` puts this together with what holds of every end:
the message is logged as it came in, and nothing outside its value buffer is written but the code and the mark.
-/
import MailboxCursor.Proofs.Firmware.Requests
import MailboxCursor.Proofs.Message.Bounds
import MailboxCursor.Proofs.Message.RoundTrip

namespace MailboxCursor.Firmware

/-- how an exchange ends -/
inductive Fate where
  /-- the transaction fails -/
  | failed
  /-- the message comes back as it was sent -/
  | withheld
  /-- the message is not whole, or its request too short for the tag -/
  | malformed
  /-- nobody knows the tag -/
  | unknown
  /-- the request was acted on -/
  | acted (tag : Tag)
deriving DecidableEq, Repr

/-- `d` is `fw` but for the log -/
def Untouched (fw d : Firmware) : Prop :=
  d = { fw with requests := d.requests }

/-- the log of `d` is that of `fw` with `m` behind it; the older half of a full log is dropped -/
def Logs (fw : Firmware) (m : Message) (d : Firmware) : Prop :=
  ∃ older, d.requests.toList = older ++ [m] ∧ older <:+ fw.requests.toList ∧
    (fw.requests.size < requestLogCapacity → older = fw.requests.toList)

/-- whatever is read for the message `m` is there -/
structure Contained (fw : Firmware) (m : Message) : Prop where
  /-- the value buffer that an answer is written into -/
  buffer : m.Shows m.payload m.valueWords
  request : m.Shows m.requestPayload (min (m.statusSize.toNat / 4) m.valueWords)
  /-- of a request the words that its tag needs, and no others -/
  needed : ∀ tag, fw.act tag m.requestPayload = fw.act tag (m.requestPayload.take tag.requestWords)
  /-- a picture lies in the block that it is read from -/
  picture : ∀ g b, fw.imageBlock? g = some b →
    b ∈ fw.blocks ∧ b.start ≤ g.bus.val.toNat ∧ g.bus.val.toNat + g.imageBytes ≤ b.stop

namespace Fate

/-- when an exchange is to end so -/
def Due (fw : Firmware) (m : Message) : Fate → Prop
  | failed => fw.faults.fails m.tag = true
  | withheld => fw.faults.fails m.tag = false ∧ fw.faults.withholds m.tag = true
  | malformed => fw.isFaulty m.tag = false ∧
      (m.sizeBytes.toNat ≠ m.len * 4 ∨
        ∃ tag, Tag.ofWord? m.tag = some tag ∧ m.requestPayload.length < tag.requestWords)
  | unknown => fw.isFaulty m.tag = false ∧ m.sizeBytes.toNat = m.len * 4 ∧ Tag.ofWord? m.tag = none
  | acted tag => fw.isFaulty m.tag = false ∧ m.sizeBytes.toNat = m.len * 4 ∧ Tag.ofWord? m.tag = some tag ∧
      tag.requestWords ≤ m.requestPayload.length

/-- what such an end brings -/
def Brings (fw : Firmware) (m : Message) (x : Exchange Firmware) : Fate → Prop
  | failed => (∃ e, x.result = .error (.exchangeFailed m.tag (.ioctl e))) ∧ x.words = m.words ∧ fw.Untouched x.device
  | withheld => x.result = .ok () ∧ x.words = m.words ∧ fw.Untouched x.device
  | malformed => x.result = .ok () ∧ ({ m with words := x.words } : Message).code = 0x80000001 ∧
      (∀ i, (hi : i < 32) → i ≠ 1 → x.words[i] = m.words[i]) ∧ fw.Untouched x.device
  | unknown => x.result = .ok () ∧ ({ m with words := x.words } : Message).response = .ok ⟨m.tag, 0, []⟩ ∧
      (∀ i, (hi : i < 32) → i ≠ 1 → i ≠ 4 → x.words[i] = m.words[i]) ∧ fw.Untouched x.device
  | acted tag => x.result = .ok () ∧ ∃ values r, values.length = tag.responseWords ∧ x.words = (m.answered values).words ∧
      ({ m with words := x.words } : Message).response = .ok r ∧ r.tag = m.tag ∧
      r.lenBytes.toNat = tag.responseWords * 4 ∧ r.values = values.take m.valueWords ∧
      (fw.act tag m.requestPayload).2 = values ∧ (fw.act tag m.requestPayload).1.Untouched x.device

end Fate

variable {fw : Firmware} {m : Message}

/-! ## One end is due -/

/-- the end that the obstacles leave -/
def fate (fw : Firmware) (m : Message) : Fate :=
  if fw.faults.fails m.tag then .failed
  else if fw.faults.withholds m.tag then .withheld
  else if m.sizeBytes.toNat ≠ m.len * 4 then .malformed
  else
    match Tag.ofWord? m.tag with
    | none => .unknown
    | some tag => if m.requestPayload.length < tag.requestWords then .malformed else .acted tag

theorem due_fate (fw : Firmware) (m : Message) : (fw.fate m).Due fw m := by
  unfold fate
  by_cases hfails : fw.faults.fails m.tag = true
  · rw [if_pos hfails]
    exact hfails
  rw [if_neg hfails]
  rw [Bool.not_eq_true] at hfails
  by_cases hwithholds : fw.faults.withholds m.tag = true
  · rw [if_pos hwithholds]
    exact ⟨hfails, hwithholds⟩
  rw [if_neg hwithholds]
  rw [Bool.not_eq_true] at hwithholds
  have hfault : fw.isFaulty m.tag = false := Bool.or_eq_false_iff.2 ⟨hfails, hwithholds⟩
  by_cases hsize : m.sizeBytes.toNat = m.len * 4
  swap
  · rw [if_pos hsize]
    exact ⟨hfault, Or.inl hsize⟩
  rw [if_neg (not_not.2 hsize)]
  cases htag : Tag.ofWord? m.tag with
  | none => exact ⟨hfault, hsize, htag⟩
  | some tag =>
    dsimp only
    by_cases hshort : m.requestPayload.length < tag.requestWords
    · rw [if_pos hshort]
      exact ⟨hfault, Or.inr ⟨tag, htag, hshort⟩⟩
    · rw [if_neg hshort]
      exact ⟨hfault, hsize, htag, not_lt.1 hshort⟩

theorem fate_eq_of_due {f : Fate} (h : f.Due fw m) : fw.fate m = f := by
  unfold fate
  cases f with
  | failed => rw [if_pos (show fw.faults.fails m.tag = true from h)]
  | withheld =>
    obtain ⟨hfails, hwithholds⟩ := h
    simp [hfails, hwithholds]
  | malformed =>
    obtain ⟨hfault, hbad⟩ := h
    obtain ⟨hfails, hwithholds⟩ := Bool.or_eq_false_iff.1 hfault
    by_cases hsize : m.sizeBytes.toNat = m.len * 4
    · obtain ⟨tag, htag, hshort⟩ := hbad.resolve_left (not_not.2 hsize)
      simp [hfails, hwithholds, hsize, htag, hshort]
    · simp [hfails, hwithholds, hsize]
  | unknown =>
    obtain ⟨hfault, hsize, htag⟩ := h
    obtain ⟨hfails, hwithholds⟩ := Bool.or_eq_false_iff.1 hfault
    simp [hfails, hwithholds, hsize, htag]
  | acted tag =>
    obtain ⟨hfault, hsize, htag, hlong⟩ := h
    obtain ⟨hfails, hwithholds⟩ := Bool.or_eq_false_iff.1 hfault
    simp [hfails, hwithholds, hsize, htag, not_lt.2 hlong]

/-- The ends exclude each other, and nothing else can happen. -/
theorem existsUnique_due (fw : Firmware) (m : Message) : ∃! f : Fate, f.Due fw m :=
  ⟨fw.fate m, due_fate fw m, fun _ h => (fate_eq_of_due h).symm⟩

/-! ## What the ends bring -/

theorem untouched_logRequest (fw : Firmware) (m : Message) : fw.Untouched (fw.logRequest m) := rfl

theorem getElem_withCode_of_ne (m : Message) (code : UInt32) {i : Nat} (hi : i < 32) (hne : i ≠ 1) :
    (m.withCode code).words[i] = m.words[i] :=
  Vector.getElem_setIfInBounds_ne hi hne.symm

/-- An empty answer. -/
theorem response_answered_nil (m : Message) : (m.answered []).response = .ok ⟨m.tag, 0, []⟩ := by
  have hbits : ([] : List UInt32).length * 4 < 2 ^ 31 := by decide
  have hsize : (m.answered []).statusSize = 0 := UInt32.toNat_inj.1 (Message.statusSize_answered m hbits)
  rw [Message.response_answered m hbits, hsize, List.take_nil]

theorem exchange_of_failed (h : Fate.failed.Due fw m) : Fate.failed.Brings fw m (fw.exchange m) := by
  have hfails : fw.faults.fails m.tag = true := h
  unfold exchange
  simp only [logRequest_faults, hfails, if_true]
  exact ⟨⟨_, rfl⟩, rfl, fw.untouched_logRequest m⟩

theorem exchange_of_withheld (h : Fate.withheld.Due fw m) : Fate.withheld.Brings fw m (fw.exchange m) := by
  obtain ⟨hfails, hwithholds⟩ := h
  unfold exchange
  simp only [logRequest_faults, hfails, hwithholds, Bool.false_eq_true, if_false, if_true]
  exact ⟨rfl, rfl, fw.untouched_logRequest m⟩

theorem exchange_eq_of_malformed (h : Fate.malformed.Due fw m) :
    fw.exchange m = ⟨.ok (), (m.withCode Message.parseFailure).words, fw.logRequest m, []⟩ := by
  obtain ⟨hfault, hbad⟩ := h
  by_cases hsize : m.sizeBytes.toNat = m.len * 4
  · obtain ⟨tag, htag, hshort⟩ := hbad.resolve_left (not_not.2 hsize)
    exact exchange_of_malformed hfault htag fun _ => hshort
  · obtain ⟨hfails, hwithholds⟩ := Bool.or_eq_false_iff.1 hfault
    unfold exchange
    simp only [logRequest_faults, hfails, hwithholds, Bool.false_eq_true, if_false]
    rw [if_pos hsize]

theorem exchange_of_unknown (h : Fate.unknown.Due fw m) : Fate.unknown.Brings fw m (fw.exchange m) := by
  obtain ⟨hfault, hsize, htag⟩ := h
  obtain ⟨hfails, hwithholds⟩ := Bool.or_eq_false_iff.1 hfault
  have hexchange : fw.exchange m = ⟨.ok (), (m.answered []).words, fw.logRequest m, []⟩ := by
    unfold exchange
    simp only [logRequest_faults, hfails, hwithholds, hsize, htag, Bool.false_eq_true, if_false, ne_eq, not_true_eq_false]
  rw [hexchange]
  refine ⟨rfl, response_answered_nil m, fun i hi hcode hmark => ?_, fw.untouched_logRequest m⟩
  exact Message.getElem_answered_of_ne hi hcode hmark (by simp)

/-- Locks can be counted as long as no block has all of them. -/
theorem exhaustsLocks_of_locks (hlocks : ∀ b ∈ fw.blocks, b.locks ≠ 0xffffffff) (tag : Tag) (p : List UInt32) :
    fw.exhaustsLocks tag p = false := by
  unfold exhaustsLocks
  rw [Bool.and_eq_false_iff]
  refine Or.inr ((Option.any_eq_false _ _).2 ?_)
  intro b hb
  exact beq_eq_false_iff_ne.2 (hlocks b (List.mem_of_find?_eq_some hb))

theorem exchange_of_acted {tag : Tag} (hcount : fw.exhaustsLocks tag m.requestPayload = false)
    (h : (Fate.acted tag).Due fw m) : (Fate.acted tag).Brings fw m (fw.exchange m) := by
  obtain ⟨hfault, hsize, htag, hlong⟩ := h
  have hlength := length_act fw tag m.requestPayload
  have hbits : (fw.act tag m.requestPayload).2.length * 4 < 2 ^ 31 := by
    have := Message.responseWords_le tag
    omega
  rw [exchange_of_accepts (accepts?_eq_some_iff.2 ⟨hfault, hsize, htag, rfl, hlong, hcount⟩)]
  refine ⟨rfl, _, _, hlength, rfl, Message.response_answered m hbits, rfl, ?_, rfl, rfl, untouched_logRequest _ m⟩
  rw [Message.statusSize_answered m hbits, hlength]

/-- **An exchange ends as it is due**, unless it locks a block that has all the locks that can be counted. -/
theorem exchange_brings (hcount : ∀ tag, Tag.ofWord? m.tag = some tag → fw.exhaustsLocks tag m.requestPayload = false)
    {f : Fate} (h : f.Due fw m) : f.Brings fw m (fw.exchange m) := by
  cases f with
  | failed => exact exchange_of_failed h
  | withheld => exact exchange_of_withheld h
  | malformed =>
    rw [exchange_eq_of_malformed h]
    exact ⟨rfl, m.code_withCode _, fun i hi hne => getElem_withCode_of_ne m _ hi hne, fw.untouched_logRequest m⟩
  | unknown => exact exchange_of_unknown h
  | acted tag => exact exchange_of_acted (hcount tag h.2.2.1) h

/-! ## What holds of every end -/

theorem logs_logRequest (fw : Firmware) (m : Message) : fw.Logs m (fw.logRequest m) := by
  unfold logRequest
  by_cases hfull : requestLogCapacity ≤ fw.requests.size
  · simp only [if_pos hfull]
    refine ⟨_, Array.toList_push, ?_, fun h => absurd hfull (not_le.2 h)⟩
    -- no more is taken out of the log than its older half
    have hrest : (fw.requests.toList.drop (requestLogCapacity / 2)).length ≤ fw.requests.size - requestLogCapacity / 2 := by
      rw [List.length_drop, Array.length_toList]
    rw [Array.toList_extract, List.extract_eq_take_drop, List.take_of_length_le hrest]
    exact List.drop_suffix _ _
  · simp only [if_neg hfull]
    exact ⟨_, Array.toList_push, List.suffix_refl _, fun _ => rfl⟩

/-- A message is logged as it came in, however the exchange ends. -/
theorem logs_exchange (fw : Firmware) (m : Message) : fw.Logs m (fw.exchange m).device := by
  unfold Logs
  rw [exchange_requests]
  exact logs_logRequest fw m

/-- An end writes nothing outside the value buffer but the code and the mark. -/
theorem Fate.Brings.frame {f : Fate} {x : Exchange Firmware} (h : f.Brings fw m x) :
    Message.Frame m { m with words := x.words } := by
  refine ⟨rfl, ?_⟩
  rintro i hi ⟨hcode, hmark, hbeside⟩
  cases f with
  | failed =>
    obtain ⟨-, hwords, -⟩ := h
    simp only [hwords]
  | withheld =>
    obtain ⟨-, hwords, -⟩ := h
    simp only [hwords]
  | malformed =>
    obtain ⟨-, -, hwords, -⟩ := h
    exact hwords i hi hcode
  | unknown =>
    obtain ⟨-, -, hwords, -⟩ := h
    exact hwords i hi hcode hmark
  | acted tag =>
    obtain ⟨-, values, -, -, hwords, -⟩ := h
    simp only [hwords]
    exact (Message.frame_answered m values).words i hi ⟨hcode, hmark, hbeside⟩

/-- A request is looked at as far as its tag needs it. -/
theorem act_take (fw : Firmware) (tag : Tag) (p : List UInt32) : fw.act tag p = fw.act tag (p.take tag.requestWords) := by
  have harg : ∀ i < tag.requestWords, (p.take tag.requestWords).getD i 0 = p.getD i 0 := by
    intro i hi
    rw [List.getD_eq_getElem?_getD, List.getElem?_take_of_lt hi, ← List.getD_eq_getElem?_getD]
  cases tag <;> simp [act, Tag.requestWords] at harg ⊢

theorem contained (fw : Firmware) (m : Message) : fw.Contained m where
  buffer := m.shows_payload
  request := m.shows_requestPayload
  needed tag := act_take fw tag m.requestPayload
  picture g b hb := by
    obtain ⟨hmem, -, hholds⟩ := mem_of_imageBlock? hb
    unfold Block.holds at hholds
    rw [Bool.and_eq_true, decide_eq_true_eq, decide_eq_true_eq] at hholds
    exact ⟨hmem, hholds⟩

/-- **Every message has its end.** In whatever state a firmware is, if no block has all the locks that can be counted: of any
message, whatever stands in its words, exactly one end is due, and that is how the exchange ends. The message is logged as it
came in, what has to be read for it is there, and of the message nothing changes outside the value buffer but the code and
the mark. -/
theorem exchange_fate (hlocks : ∀ b ∈ fw.blocks, b.locks ≠ 0xffffffff) (m : Message) :
    (∃! f : Fate, f.Due fw m) ∧ (∀ f : Fate, f.Due fw m → f.Brings fw m (fw.exchange m)) ∧
      fw.Logs m (fw.exchange m).device ∧ fw.Contained m ∧ Message.Frame m { m with words := (fw.exchange m).words } := by
  have hbrings : ∀ f : Fate, f.Due fw m → f.Brings fw m (fw.exchange m) :=
    fun f => exchange_brings fun tag _ => exhaustsLocks_of_locks hlocks tag _
  exact ⟨existsUnique_due fw m, hbrings, logs_exchange fw m, contained fw m, (hbrings _ (due_fate fw m)).frame⟩

/-- A request to lock whose size was overwritten with zero: the block that it names is not locked. -/
theorem exchange_fate_cut : ∃ fw m m', fw = ((fresh 0).act .allocateMemory [4096, 4096, 0]).1 ∧
    Message.request .lockMemory [1] = .ok m ∧ (∀ b ∈ fw.blocks, b.locks ≠ 0xffffffff) ∧
    Fate.malformed.Due fw (m.poke 4 0) ∧ m' = { m.poke 4 0 with words := (fw.exchange (m.poke 4 0)).words } ∧
    m'.code = 0x80000001 ∧ fw.Untouched (fw.exchange (m.poke 4 0)).device := by
  let fw := ((fresh 0).act .allocateMemory [4096, 4096, 0]).1
  let m : Message := ⟨Vector.ofFn fun i => (Message.image Tag.lockMemory.id [1] 1).getD i 0, 7, by decide⟩
  have hlocks : ∀ b ∈ fw.blocks, b.locks ≠ 0xffffffff := by decide +kernel
  have hdue : Fate.malformed.Due fw (m.poke 4 0) :=
    ⟨by decide +kernel, Or.inr ⟨.lockMemory, by decide +kernel, by decide +kernel⟩⟩
  obtain ⟨-, hbrings, -⟩ := exchange_fate hlocks (m.poke 4 0)
  obtain ⟨-, hcode, -, hdevice⟩ := hbrings .malformed hdue
  exact ⟨fw, m, _, rfl, rfl, hlocks, hdue, rfl, hcode, hdevice⟩

end MailboxCursor.Firmware
