/-
Answers: what a message says once the firmware has written into it.

`Message.response` trusts nothing but the buffer's bounds: the response code, then the tag's own mark, then a length that is cut
to the value buffer. `Response.first` and `Response.word` are the only ways to take words out.
-/
import MailboxCursor.Message.Basic

namespace MailboxCursor

structure Response where
  tag : UInt32
  /-- the answer's full size in bytes, which may be more than the value buffer holds -/
  lenBytes : UInt32
  values : List UInt32
deriving DecidableEq, Repr

/-- words of the answer that the value buffer holds: the size is rounded up to whole words, then cut -/
def Message.answeredWords (m : Message) : Nat :=
  min ((m.statusSize.toNat + 3) / 4) m.valueWords

def Message.response (m : Message) : Except MessageError Response :=
  if m.code = success then
    if m.status &&& answeredBit = 0 then .error (.tagNotAcknowledged m.tag)
    else .ok ⟨m.tag, m.statusSize, (m.words.toList.drop valueStart).take m.answeredWords⟩
  else if m.code = parseFailure then .error .parseError
  else .error (.notProcessed m.code)

namespace Response

/-- the first `count` words of the answer -/
def first (r : Response) (count : Nat) : Except MessageError (List UInt32) :=
  if r.values.length < count then .error (.truncated r.tag count r.values.length)
  else .ok (r.values.take count)

/-- one word of the answer -/
def word (r : Response) (index : UInt64) : Except MessageError UInt32 :=
  if UInt64.size ≤ index.toNat + 1 then .error .sizeOutOfRange
  else
    match r.values[index.toNat]? with
    | some w => .ok w
    | none => .error (.truncated r.tag (index.toNat + 1) r.values.length)

end Response
end MailboxCursor
