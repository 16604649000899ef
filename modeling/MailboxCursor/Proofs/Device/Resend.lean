/-
A message that comes back as it was sent is reported by what it said before.

The mark of an answer stands in the words of the message, and nothing takes it away before the message is sent again. So it
depends on all that was done with a message since it was composed whether a device that leaves it alone is noticed: `Use` is
one thing done with it, `LeavesAnswered` says of such a history that the message looks answered after it
(`isAnswered_after_iff`). `resent_reports`: a message with another history is reported as failed; one with such a history is
reported as answered once more, by the words of the old answer. No message that was just composed has such a history.
-/
import MailboxCursor.Proofs.Device.Reply
import MailboxCursor.Proofs.Message.RoundTrip

namespace MailboxCursor

namespace Message

/-- one thing done with a message: someone writes into it in order to answer it, or it is sent and brought back -/
inductive Use where
  | reaction (r : Reaction)
  | exchanged (words : Buffer)
deriving DecidableEq, Repr

def use (m : Message) : Use → Message
  | .reaction r => m.react r
  | .exchanged words => { m with words := words }

/-- the message after all that was done with it, oldest first -/
def after (m : Message) (us : List Use) : Message :=
  us.foldl use m

namespace Use

/-- the code that stands in a message after it -/
def codeLeft : Use → UInt32
  | .reaction (.answer _) => success
  | .reaction (.code c) => c
  | .exchanged words => words.get 1

/-- the mark that it gives the tag, or takes from it; a bare code does neither -/
def mark? : Use → Option Bool
  | .reaction (.answer _) => some true
  | .reaction (.code _) => none
  | .exchanged words => some ((words.get 4).toNat.testBit 31)

end Use

/-- the code that was left last is that of success, and the mark that was given or taken last was given -/
structure LeavesAnswered (us : List Use) : Prop where
  code : ∃ u, us.getLast? = some u ∧ u.codeLeft = success
  mark : (us.filterMap Use.mark?).getLast? = some true

/-! ## The code and the mark after a history -/

variable {m : Message} {us : List Use}

theorem after_concat (m : Message) (us : List Use) (u : Use) : m.after (us ++ [u]) = (m.after us).use u := by
  rw [after, List.foldl_append]
  rfl

theorem code_use (m : Message) (u : Use) : (m.use u).code = u.codeLeft := by
  cases u with
  | reaction r =>
    cases r with
    | answer values => exact code_answered m values
    | code c => exact code_withCode m c
  | exchanged words => rfl

/-- An answer sets the mark, whatever its size. -/
theorem mark_answered (m : Message) (values : List UInt32) : (m.answered values).status.toNat.testBit 31 = true := by
  have hbit : answeredBit.toNat = 2 ^ 31 := rfl
  rw [status, getElem_answered, if_neg (by decide), if_pos rfl, UInt32.toNat_or, Nat.testBit_or, hbit,
    Nat.testBit_two_pow_self, Bool.true_or]

theorem mark_use (m : Message) (u : Use) :
    (m.use u).status.toNat.testBit 31 = u.mark?.getD (m.status.toNat.testBit 31) := by
  cases u with
  | reaction r =>
    cases r with
    | answer values => exact mark_answered m values
    | code c =>
      have hstatus : (m.withCode c).status = m.status := Vector.getElem_setIfInBounds_ne (by decide) (by decide)
      exact congrArg (fun w : UInt32 => w.toNat.testBit 31) hstatus
  | exchanged words => rfl

/-- Each use leaves its own code, so the last one's stands. -/
theorem code_after (m : Message) (us : List Use) :
    (m.after us).code = (us.getLast?.map Use.codeLeft).getD m.code := by
  rcases us.eq_nil_or_concat' with rfl | ⟨us, u, rfl⟩
  · rfl
  · rw [after_concat, code_use, List.getLast?_concat]
    rfl

/-- The mark is what the last use made of it that has touched it. -/
theorem mark_after (m : Message) (us : List Use) :
    (m.after us).status.toNat.testBit 31 =
      ((us.filterMap Use.mark?).getLast?).getD (m.status.toNat.testBit 31) := by
  induction us using List.reverseRecOn with
  | nil => rfl
  | append_singleton us u ih =>
    rw [after_concat, mark_use, ih, List.filterMap_append]
    cases hmark : u.mark? with
    | none => simp [hmark]
    | some b => simp [hmark]

/-- A message that was just composed has neither the code of an answer nor its mark. -/
theorem mark_of_compose {tag : UInt32} {payload : List UInt32} {responseWords : UInt64}
    (h : compose tag payload responseWords = .ok m) : m.status.toNat.testBit 31 = false := by
  have hfit := compose_fits h
  apply Nat.testBit_lt_two_pow
  rw [status, getElem_of_compose h 4 (by decide)]
  simp only [image, List.cons_append, List.getD_cons_succ, List.getD_cons_zero, UInt32.toNat_ofNat']
  omega

/-- A message looks answered after the histories that leave it so, and no other. -/
theorem isAnswered_after_iff {tag : UInt32} {payload : List UInt32} {responseWords : UInt64}
    (h : compose tag payload responseWords = .ok m) : (m.after us).IsAnswered ↔ LeavesAnswered us := by
  have hcode : m.code ≠ success := by
    rw [code_of_compose h]
    decide
  have hmark := mark_of_compose h
  constructor
  · rintro ⟨hcode', hmark'⟩
    rw [code_after] at hcode'
    rw [mark_after] at hmark'
    constructor
    case code =>
      cases hlast : us.getLast? with
      | none =>
        rw [hlast] at hcode'
        exact absurd hcode' hcode
      | some u =>
        rw [hlast] at hcode'
        exact ⟨u, rfl, hcode'⟩
    case mark =>
      cases hlast : (us.filterMap Use.mark?).getLast? with
      | none =>
        rw [hlast, Option.getD_none, hmark] at hmark'
        cases hmark'
      | some b =>
        rw [hlast] at hmark'
        exact congrArg some hmark'
  · rintro ⟨⟨u, hlast, hleft⟩, hgiven⟩
    constructor
    case code =>
      rw [code_after, hlast]
      exact hleft
    case mark =>
      rw [mark_after, hgiven]
      rfl

end Message

/-! ## Sent and left alone -/

namespace Link

variable {δ : Type} [Device δ]

/-- **A message that a device leaves as it was sent**, over any device and after anything that was done with it since it was
composed: it is reported as failed, under its tag, unless its history leaves it answered; and if it does, it is reported as
answered, by the words that it was sent with. -/
theorem resent_reports {tag : UInt32} {payload : List UInt32} {responseWords : UInt64} {m : Message}
    (h : Message.compose tag payload responseWords = .ok m) (us : List Message.Use) (l : Link δ)
    (hback : (Device.exchange l.device (m.after us)).result = .ok ())
    (hwords : (Device.exchange l.device (m.after us)).words = (m.after us).words) :
    (¬Message.LeavesAnswered us → ∃ cause, (m.after us).Objects 0 cause ∧
      (l.sendChecked (m.after us)).1 = .error (.exchangeFailed (m.after us).tag (.response cause))) ∧
    (Message.LeavesAnswered us → ∃ r, (m.after us).Answers r ∧ (l.sendChecked (m.after us)).1 = .ok r) := by
  have hsame : ({ m.after us with words := (Device.exchange l.device (m.after us)).words } : Message) = m.after us := by
    rw [hwords]
  rw [sendChecked_eq_mapError hback, hsame, ← Message.isAnswered_after_iff h]
  constructor
  · intro hnot
    rcases (m.after us).response_objects with ⟨r, -, hanswers⟩ | ⟨cause, hcause, hobjects⟩
    · exact absurd hanswers.toIsAnswered hnot
    · exact ⟨cause, hobjects, by rw [hcause]; rfl⟩
  · intro hanswered
    obtain ⟨r, hr, hanswers⟩ := hanswered.answers
    exact ⟨r, hanswers, by rw [hr]; rfl⟩

/-- a link to firmware that answers -/
def answering : Link Firmware :=
  .fresh (Firmware.fresh 0)

/-- a link to firmware that withholds its version -/
def withholding : Link Firmware :=
  .fresh ((Firmware.fresh 0).set (.withhold .getFirmwareVersion))

open Message (versionRequest)

/-- A request that was answered, and set back to a request since, is noticed when it is withheld. -/
theorem resent_reports_reset :
    let us := [.exchanged (answering.send versionRequest).2.1.words, .reaction (.code Message.requestCode)]
    Message.compose Tag.getFirmwareVersion.id [] 1 = .ok versionRequest ∧
      (Device.exchange withholding.device (versionRequest.after us)).result = .ok () ∧
      (Device.exchange withholding.device (versionRequest.after us)).words = (versionRequest.after us).words ∧
      ∃ cause, (withholding.sendChecked (versionRequest.after us)).1 = .error (.exchangeFailed 1 (.response cause)) := by
  intro us
  have hm : Message.compose Tag.getFirmwareVersion.id [] 1 = .ok versionRequest := rfl
  have hback : (Device.exchange withholding.device (versionRequest.after us)).result = .ok () := by decide +kernel
  have hwords : (Device.exchange withholding.device (versionRequest.after us)).words = (versionRequest.after us).words := by
    decide +kernel
  have hleft : ¬Message.LeavesAnswered us := by
    rintro ⟨⟨u, hlast, hcode⟩, -⟩
    obtain rfl : Message.Use.reaction (.code Message.requestCode) = u := Option.some.inj hlast
    exact absurd hcode (by decide)
  obtain ⟨cause, -, hfailed⟩ := (resent_reports hm us withholding hback hwords).1 hleft
  have htag : (versionRequest.after us).tag = 1 := by decide +kernel
  exact ⟨hm, hback, hwords, cause, htag ▸ hfailed⟩

/-- The old answer is taken for a new one: a request that was answered with a version, by hand or by the firmware, is sent
again and withheld. The words are untouched, and yet a version is reported. -/
theorem withheld_reported_answered :
    let byHand := versionRequest.answered [7]
    let byFirmware := (answering.send versionRequest).2.1
    Message.compose Tag.getFirmwareVersion.id [] 1 = .ok versionRequest ∧
      (Device.exchange withholding.device byHand).result = .ok () ∧
      (Device.exchange withholding.device byHand).words = byHand.words ∧
      (withholding.sendChecked byHand).1 = .ok ⟨1, 4, [7]⟩ ∧
      (Device.exchange withholding.device byFirmware).result = .ok () ∧
      (Device.exchange withholding.device byFirmware).words = byFirmware.words ∧
      (withholding.sendChecked byFirmware).1 = .ok ⟨1, 4, [1418143306]⟩ := by
  refine ⟨rfl, ?_, ?_, ?_, ?_, ?_, ?_⟩
  all_goals decide +kernel

end Link
end MailboxCursor
