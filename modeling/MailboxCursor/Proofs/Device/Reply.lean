/-
What comes of a message once it was sent, over any device.

A device may fail, and it may leave any words behind in the buffer. `Tells` says when a buffer that came back tells so many
words, and which; `Objects` why it does not. One of the two is the case and never both (`told_cases`), so each says exactly
when an answer and when a failure is read (`told_eq_ok_iff`, `told_eq_error_iff`). `Link.replies_reported` puts it together for a
transaction and for a request: the device takes the message once, its own failure is passed on as it is, and all else is
read off the words it left. Whatever became of the tag in the buffer, a failure names the tag that was asked for.
-/
import MailboxCursor.Firmware.Windows
import MailboxCursor.Proofs.Device.Ask
import MailboxCursor.Proofs.Message.Bounds
import MailboxCursor.Script

namespace MailboxCursor

namespace Message

/-- words of an answer that can be taken: as many as its size covers, as its value buffer has, and as can be one's -/
def wordsTold (m : Message) : Nat :=
  min (min (((m.status &&& 0x7fffffff).toNat + 3) / 4) (m.valueSize.toNat / 4)) 26

/-- the message is marked as answered, both as a whole and its tag -/
structure IsAnswered (m : Message) : Prop where
  code : m.code = 0x80000000
  mark : m.status.toNat.testBit 31 = true

/-- the message tells `n` words, and these are `ws` -/
structure Tells (m : Message) (n : Nat) (ws : List UInt32) : Prop extends m.IsAnswered where
  enough : n ≤ m.wordsTold
  words : m.Shows ws n

/-- why a message does not tell `n` words -/
inductive Objects (m : Message) (n : Nat) : MessageError → Prop where
  | notProcessed (hsuccess : m.code ≠ 0x80000000) (hfailure : m.code ≠ 0x80000001) : Objects m n (.notProcessed m.code)
  | parseError (hcode : m.code = 0x80000001) : Objects m n .parseError
  | tagNotAcknowledged (hcode : m.code = 0x80000000) (hmark : m.status.toNat.testBit 31 = false) :
    Objects m n (.tagNotAcknowledged m.tag)
  | truncated (hanswered : m.IsAnswered) (hshort : m.wordsTold < n) : Objects m n (.truncated m.tag n m.wordsTold)

variable {m : Message} {n : Nat}

theorem answeredWords_eq (m : Message) : m.answeredWords = m.wordsTold :=
  (min_assoc _ _ _).symm

/-- So many words are told by one list alone. -/
theorem Shows.unique {ws ws' : List UInt32} (h : m.Shows ws n) (h' : m.Shows ws' n) : ws = ws' := by
  apply List.ext_getElem?
  intro i
  by_cases hi : i < n
  · obtain ⟨_, hword⟩ := h.words i hi
    obtain ⟨_, hword'⟩ := h'.words i hi
    rw [hword, hword']
  · rw [List.getElem?_eq_none (by rw [h.length]; omega), List.getElem?_eq_none (by rw [h'.length]; omega)]

/-! ## Reading a buffer that came back -/

/-- the message is marked as answered, and `r` is its answer -/
structure Answers (m : Message) (r : Response) : Prop extends m.IsAnswered where
  tag : r.tag = m.tag
  lenBytes : r.lenBytes = m.statusSize
  values : m.Shows r.values m.wordsTold

/-- A message that is marked as answered says its answer. -/
theorem IsAnswered.answers (h : m.IsAnswered) : ∃ r, m.response = .ok r ∧ m.Answers r := by
  obtain ⟨r, hr, htag, hlen, hshows⟩ := shows_response h.code h.mark
  exact ⟨r, hr, h, htag, hlen, m.answeredWords_eq ▸ hshows⟩

theorem Answers.unique {r r' : Response} (h : m.Answers r) (h' : m.Answers r') : r = r' := by
  obtain ⟨tag, lenBytes, values⟩ := r
  obtain ⟨tag', lenBytes', values'⟩ := r'
  obtain rfl : tag' = tag := h'.tag.trans h.tag.symm
  obtain rfl : lenBytes' = lenBytes := h'.lenBytes.trans h.lenBytes.symm
  obtain rfl : values' = values := h'.values.unique h.values
  rfl

/-- A cause for saying nothing at all is what is read of the message. -/
theorem Objects.response_eq {cause : MessageError} (h : m.Objects 0 cause) : m.response = .error cause := by
  cases h with
  | notProcessed hsuccess hfailure => exact response_eq_notProcessed_iff.2 ⟨rfl, hfailure, hsuccess⟩
  | parseError hcode => exact response_eq_parseError_iff.2 hcode
  | tagNotAcknowledged hcode hmark => exact response_eq_tagNotAcknowledged_iff.2 ⟨hcode, hmark, rfl⟩
  | truncated _ hshort => exact absurd hshort (Nat.not_lt_zero _)

/-- A message says its answer, or there is a cause why it says none. -/
theorem response_objects (m : Message) :
    (∃ r, m.response = .ok r ∧ m.Answers r) ∨ ∃ cause, m.response = .error cause ∧ m.Objects 0 cause := by
  rcases m.response_cases with ⟨hcode, h⟩ | ⟨hfailure, hsuccess, h⟩ | ⟨hcode, hmark, h⟩ | ⟨hcode, hmark, -⟩
  · exact Or.inr ⟨_, h, .parseError hcode⟩
  · exact Or.inr ⟨_, h, .notProcessed hsuccess hfailure⟩
  · exact Or.inr ⟨_, h, .tagNotAcknowledged hcode hmark⟩
  · exact Or.inl (IsAnswered.answers ⟨hcode, hmark⟩)

theorem response_eq_ok_iff {r : Response} : m.response = .ok r ↔ m.Answers r := by
  constructor
  · intro hr
    rcases m.response_objects with ⟨r', h, hanswers⟩ | ⟨cause, h, -⟩
    · cases h.symm.trans hr
      exact hanswers
    · cases h.symm.trans hr
  · intro hanswers
    obtain ⟨r', h, hanswers'⟩ := hanswers.toIsAnswered.answers
    rw [h, hanswers.unique hanswers']

theorem response_eq_error_iff {cause : MessageError} : m.response = .error cause ↔ m.Objects 0 cause := by
  refine ⟨fun herror => ?_, Objects.response_eq⟩
  rcases m.response_objects with ⟨r, h, -⟩ | ⟨cause', h, hobjects⟩
  · cases h.symm.trans herror
  · cases h.symm.trans herror
    exact hobjects

/-! ### So many words of it -/

/-- the first `n` words that the message says -/
def told (m : Message) (n : Nat) : Except MessageError (List UInt32) :=
  m.response.bind fun r => r.first n

theorem Shows.take {ws : List UInt32} {k : Nat} (h : m.Shows ws k) (hn : n ≤ k) : m.Shows (ws.take n) n := by
  refine ⟨by have := h.inside; omega, by rw [List.length_take, h.length]; omega, ?_⟩
  intro i hi
  rw [List.getElem?_take_of_lt hi]
  exact h.words i (by omega)

/-- Of an answer so many words are told as it has. -/
theorem IsAnswered.told (h : m.IsAnswered) (n : Nat) :
    m.wordsTold < n ∧ m.told n = .error (.truncated m.tag n m.wordsTold) ∨
      ∃ ws, m.told n = .ok ws ∧ m.Tells n ws := by
  obtain ⟨r, hr, hanswers⟩ := h.answers
  rw [Message.told, hr, Except.bind, Response.first, hanswers.values.length, hanswers.tag]
  by_cases hshort : m.wordsTold < n
  · rw [if_pos hshort]
    exact Or.inl ⟨hshort, rfl⟩
  · rw [if_neg hshort]
    exact Or.inr ⟨_, rfl, h, not_lt.1 hshort, hanswers.values.take (not_lt.1 hshort)⟩

/-- **A message tells `n` words, or there is a cause why it does not**, and that is what is read of it. -/
theorem told_cases (m : Message) (n : Nat) :
    (∃ ws, m.told n = .ok ws ∧ m.Tells n ws) ∨ ∃ cause, m.told n = .error cause ∧ m.Objects n cause := by
  rcases m.response_cases with ⟨hcode, h⟩ | ⟨hfailure, hsuccess, h⟩ | ⟨hcode, hmark, h⟩ | ⟨hcode, hmark, -⟩
  · exact Or.inr ⟨_, by rw [told, h]; rfl, .parseError hcode⟩
  · exact Or.inr ⟨_, by rw [told, h]; rfl, .notProcessed hsuccess hfailure⟩
  · exact Or.inr ⟨_, by rw [told, h]; rfl, .tagNotAcknowledged hcode hmark⟩
  · rcases IsAnswered.told ⟨hcode, hmark⟩ n with ⟨hshort, h⟩ | htells
    · exact Or.inr ⟨_, h, .truncated ⟨hcode, hmark⟩ hshort⟩
    · exact Or.inl htells

theorem told_eq_ok_iff {ws : List UInt32} : m.told n = .ok ws ↔ m.Tells n ws := by
  constructor
  · intro hws
    rcases m.told_cases n with ⟨ws', h, htells⟩ | ⟨cause, h, -⟩
    · cases h.symm.trans hws
      exact htells
    · cases h.symm.trans hws
  · intro htells
    rcases htells.toIsAnswered.told n with ⟨hshort, -⟩ | ⟨ws', h, htells'⟩
    · exact absurd htells.enough (not_le.2 hshort)
    · rw [h, htells.words.unique htells'.words]

theorem told_eq_error_iff {cause : MessageError} : m.told n = .error cause ↔ m.Objects n cause := by
  constructor
  · intro herror
    rcases m.told_cases n with ⟨ws, h, -⟩ | ⟨cause', h, hobjects⟩
    · cases h.symm.trans herror
    · cases h.symm.trans herror
      exact hobjects
  · intro hobjects
    cases hobjects with
    | notProcessed hsuccess hfailure => rw [told, (Objects.notProcessed hsuccess hfailure).response_eq]; rfl
    | parseError hcode => rw [told, (Objects.parseError hcode).response_eq]; rfl
    | tagNotAcknowledged hcode hmark => rw [told, (Objects.tagNotAcknowledged hcode hmark).response_eq]; rfl
    | truncated hanswered hshort =>
      rcases hanswered.told n with ⟨-, h⟩ | ⟨ws, -, htells⟩
      · exact h
      · exact absurd htells.enough (not_le.2 hshort)

end Message

/-! ## What is reported -/

variable {δ α : Type}

/-- what is reported of the message `m` that came back, if `tag` was asked and an answer is whatever `P` holds of -/
structure Reports (tag : UInt32) (m : Message) (n : Nat) (P : α → Prop) (r : Except MailboxError α) : Prop where
  answer : ∀ a, r = .ok a ↔ P a
  failure : ∀ e, r = .error e ↔ ∃ cause, e = .exchangeFailed tag (.response cause) ∧ m.Objects n cause

theorem reports_mapError {tag : UInt32} {m : Message} {n : Nat} {P : α → Prop} {read : Except MessageError α}
    (hok : ∀ a, read = .ok a ↔ P a) (herror : ∀ cause, read = .error cause ↔ m.Objects n cause) :
    Reports tag m n P (read.mapError fun cause => .exchangeFailed tag (.response cause)) := by
  constructor
  case answer =>
    intro a
    rw [← hok a]
    cases read <;> simp [Except.mapError]
  case failure =>
    intro e
    simp only [← herror]
    cases read with
    | error cause =>
      constructor
      · rintro ⟨⟩
        exact ⟨cause, rfl, rfl⟩
      · rintro ⟨_, rfl, ⟨⟩⟩
        rfl
    | ok a => simp [Except.mapError]

/-- An exchange that brought the message back tells what the message tells. -/
theorem Exchange.answer_eq_mapError {x : Exchange δ} {m : Message} {n : Nat} (h : x.result = .ok ()) :
    x.answer m n = (({ m with words := x.words } : Message).told n).mapError
      fun cause => .exchangeFailed m.tag (.response cause) := by
  rw [Exchange.answer, h, Message.told]
  rcases ({ m with words := x.words } : Message).response with e | r
  · rfl
  · dsimp only [Except.bind]
    rcases r.first n <;> rfl

namespace Link

variable [Device δ]

/-- what was done with the link, and what came of it, sent `m` once; where the device failed, it failed with that -/
structure SendsOnce (l : Link δ) (m : Message) (done : Except MailboxError α × Link δ) : Prop where
  sent : done.2.sent = l.sent.push m
  device : done.2.device = (Device.exchange l.device m).device
  failure : ∀ e, (Device.exchange l.device m).result = .error e → done.1 = .error e

variable {l : Link δ} {m : Message} {tag : Tag} {payload : List UInt32} {n : Nat}

theorem sendChecked_sendsOnce (l : Link δ) (m : Message) : l.SendsOnce m (l.sendChecked m) := by
  unfold sendChecked send
  constructor
  all_goals
    dsimp only
    rcases (Device.exchange l.device m).result with e | ⟨⟩
    all_goals dsimp only
  case sent.ok | device.ok =>
    rcases ({ m with words := (Device.exchange l.device m).words } : Message).response <;> rfl
  case failure.error =>
    rintro _ ⟨⟩
    rfl
  case failure.ok =>
    rintro _ ⟨⟩

/-- A transaction reports what the message says that came back. -/
theorem sendChecked_eq_mapError (h : (Device.exchange l.device m).result = .ok ()) :
    (l.sendChecked m).1 = (({ m with words := (Device.exchange l.device m).words } : Message).response).mapError
      fun cause => .exchangeFailed m.tag (.response cause) := by
  simp only [sendChecked, send, h]
  rcases ({ m with words := (Device.exchange l.device m).words } : Message).response <;> rfl

theorem ask_sendsOnce (hm : Message.request tag payload = .ok m) : l.SendsOnce m (l.ask tag payload n) := by
  constructor
  case sent => exact ask_sent hm
  case device => exact ask_device hm
  case failure =>
    intro e h
    rw [ask_result hm, Exchange.answer, h]

/-- A payload that does not fit the value buffer can't be composed. -/
theorem request_overflow (tag : Tag) (hlong : 26 < payload.length) (hcounted : payload.length + 6 < UInt64.size) :
    Message.request tag payload = .error (.overflow tag.id (payload.length + 6) 32) := by
  have hroom : max payload.length (UInt64.ofNat tag.responseWords).toNat = payload.length := by
    rw [Message.responseWords_toNat]
    have := Message.responseWords_le tag
    omega
  have hcases := Message.compose_cases tag.id payload (UInt64.ofNat tag.responseWords)
  rw [hroom] at hcases
  rcases hcases with ⟨hfits, -⟩ | ⟨-, -, h⟩ | ⟨hrange, -⟩
  · exact absurd hfits (not_le.2 hlong)
  · exact h
  · exact absurd hcounted (not_lt.2 hrange)

/-- **What is reported of a message that was sent**, over any device. A transaction sends the message once and passes the
device's own failure on; of a message that came back it reports the answer exactly if that says one, and else the cause,
under the tag that was asked for. A request does so with the message composed for it, and takes `n` words; one with a
payload of more than 26 words is refused, and nothing is sent. (A payload whose words a machine word can't count is one
that no caller can hand over.) -/
theorem replies_reported (l : Link δ) :
    (∀ m, l.SendsOnce m (l.sendChecked m) ∧
      ((Device.exchange l.device m).result = .ok () →
        let back : Message := { m with words := (Device.exchange l.device m).words }
        Reports m.tag back 0 back.Answers (l.sendChecked m).1)) ∧
    ∀ tag payload n,
      (26 < payload.length → payload.length + 6 < UInt64.size →
        l.ask tag payload n = (.error (.message (.overflow tag.id (payload.length + 6) 32)), l)) ∧
      (payload.length ≤ 26 → ∃ m, Message.request tag payload = .ok m ∧ l.SendsOnce m (l.ask tag payload n) ∧
        ((Device.exchange l.device m).result = .ok () →
          let back : Message := { m with words := (Device.exchange l.device m).words }
          Reports tag.id back n (back.Tells n) (l.ask tag payload n).1)) := by
  constructor
  · intro m
    refine ⟨sendChecked_sendsOnce l m, fun hback => ?_⟩
    rw [sendChecked_eq_mapError hback]
    exact reports_mapError (fun _ => Message.response_eq_ok_iff) fun _ => Message.response_eq_error_iff
  · intro tag payload n
    constructor
    · intro hlong hcounted
      exact ask_of_error (request_overflow tag hlong hcounted)
    · intro hfits
      obtain ⟨m, hm⟩ := Message.request_eq_ok tag hfits
      refine ⟨m, hm, ask_sendsOnce hm, fun hback => ?_⟩
      rw [ask_result hm, Exchange.answer_eq_mapError hback, Message.tag_of_compose hm]
      exact reports_mapError (fun _ => Message.told_eq_ok_iff) fun _ => Message.told_eq_error_iff

end Link

/-- the request for the version, as it is composed -/
def Message.versionRequest : Message :=
  ⟨Vector.ofFn fun i => (image Tag.getFirmwareVersion.id [] 1).getD i 0, 7, by decide⟩

/-- An answer of one word, to which the device has put another tag: whoever wants two words learns of both tags. -/
theorem Link.replies_reported_renamed :
    let l : Link (Scripted Firmware) := .fresh ⟨.fresh 0, [⟨none, [], false, some [7], none, [(2, 0xdead)]⟩]⟩
    Message.request .getFirmwareVersion [] = .ok Message.versionRequest ∧
      (Device.exchange l.device Message.versionRequest).result = .ok () ∧
      (l.ask .getFirmwareVersion [] 2).1 = .error (.exchangeFailed 1 (.response (.truncated 0xdead 2 1))) := by
  intro l
  have hm : Message.request .getFirmwareVersion [] = .ok Message.versionRequest := rfl
  have hback : (Device.exchange l.device Message.versionRequest).result = .ok () := rfl
  obtain ⟨m, hm', -, hreports⟩ := ((Link.replies_reported l).2 .getFirmwareVersion [] 2).2 (by decide)
  obtain rfl : Message.versionRequest = m := Except.ok.inj (hm.symm.trans hm')
  let back : Message := { Message.versionRequest with words := (Device.exchange l.device Message.versionRequest).words }
  have htag : back.tag = 0xdead := by decide +kernel
  have hwords : back.wordsTold = 1 := by decide +kernel
  have hobjects : back.Objects 2 (.truncated back.tag 2 back.wordsTold) :=
    .truncated ⟨by decide +kernel, by decide +kernel⟩ (by decide +kernel)
  rw [htag, hwords] at hobjects
  exact ⟨hm, hback, ((hreports hback).failure _).2 ⟨_, rfl, hobjects⟩⟩

end MailboxCursor
