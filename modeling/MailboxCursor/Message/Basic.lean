/-
Property messages: a fixed buffer of 32 words, of which the first `len` are in use.

Layout: size of the message in bytes, response code, tag, size of the value buffer in bytes, size of the request in
bytes (bit 31 is set by the firmware when it answers), the value buffer, and an end tag of zero. The firmware answers in
place, so every word may change under it; each view below reads only what lies inside the buffer, whatever the length
words claim. `compose` builds a request, `image` is the plain list of words that it lays out.
-/
import MailboxCursor.Message.Error
import MailboxCursor.Tag
import MailboxCursor.Words

namespace MailboxCursor

namespace Message

/-- words of the buffer -/
def capacity : Nat := 32

/-- words in front of the value buffer -/
def valueStart : Nat := 5

/-- the largest value buffer: all but the header and the end tag -/
def maxValueWords : Nat := capacity - valueStart - 1

def requestCode : UInt32 := 0
def success : UInt32 := 0x80000000
def parseFailure : UInt32 := 0x80000001
def answeredBit : UInt32 := 0x80000000
def endTag : UInt32 := 0

end Message

/-- the words of a message buffer -/
abbrev Buffer := Vector UInt32 32

structure Message where
  words : Buffer
  /-- words in use, end tag included -/
  len : Nat
  len_le : len ≤ 32
deriving DecidableEq, Repr

namespace Message

/-- the words of a request: `room` is the size of its value buffer -/
def image (tag : UInt32) (payload : List UInt32) (room : Nat) : List UInt32 :=
  [UInt32.ofNat ((room + 6) * 4), requestCode, tag, UInt32.ofNat (room * 4), UInt32.ofNat (payload.length * 4)]
    ++ payload ++ List.replicate (room - payload.length) 0 ++ [endTag]

/-- a request for the tag word `tag`, with room for `payload` and for an answer of `responseWords` words -/
def compose (tag : UInt32) (payload : List UInt32) (responseWords : UInt64) : Except MessageError Message :=
  let room := max payload.length responseWords.toNat
  let words := valueStart + room + 1
  if UInt64.size ≤ words then .error .sizeOutOfRange
  else if h : words ≤ 32 then
    .ok ⟨Vector.ofFn fun i => (image tag payload room).getD i 0, words, h⟩
  else .error (.overflow tag words capacity)

/-- a request for a known tag, with room for its answer -/
def request (tag : Tag) (payload : List UInt32) : Except MessageError Message :=
  compose tag.id payload (UInt64.ofNat tag.responseWords)

def sizeBytes (m : Message) : UInt32 := m.words[0]
def code (m : Message) : UInt32 := m.words[1]
def tag (m : Message) : UInt32 := m.words[2]
def valueSize (m : Message) : UInt32 := m.words[3]
/-- size of the request in bytes, and bit 31 once the firmware has answered -/
def status (m : Message) : UInt32 := m.words[4]

/-- the words in use -/
def toList (m : Message) : List UInt32 :=
  m.words.toList.take m.len

/-- the words in use as they lie in memory -/
def bytes (m : Message) : List UInt8 :=
  bytesOfWords m.toList

/-- words of the value buffer, as far as they lie before the last word of the buffer -/
def valueWords (m : Message) : Nat :=
  min (m.valueSize.toNat / 4) maxValueWords

/-- size in bytes that the status word gives -/
def statusSize (m : Message) : UInt32 :=
  m.status &&& 0x7fffffff

/-- the value buffer -/
def payload (m : Message) : List UInt32 :=
  (m.words.toList.drop valueStart).take m.valueWords

/-- the part of the value buffer that the request fills -/
def requestPayload (m : Message) : List UInt32 :=
  m.payload.take (min (m.statusSize.toNat / 4) m.valueWords)

/-- the same message with the word at `i` overwritten; an index past the buffer changes nothing -/
def poke (m : Message) (i : Nat) (w : UInt32) : Message :=
  { m with words := m.words.setIfInBounds i w }

/-- several words overwritten, in order -/
def pokeAll (m : Message) (pokes : List (Nat × UInt32)) : Message :=
  pokes.foldl (fun m p => m.poke p.1 p.2) m

def withCode (m : Message) (code : UInt32) : Message :=
  m.poke 1 code

/-- the message answered with `values`: as many of them as the value buffer holds, and their full size -/
def answered (m : Message) (values : List UInt32) : Message :=
  { m with
    words := Vector.ofFn fun i =>
      if i.val = 1 then success
      else if i.val = 4 then answeredBit ||| UInt32.ofNat (values.length * 4)
      else if valueStart ≤ i.val ∧ i.val < valueStart + m.valueWords then
        values.getD (i.val - valueStart) m.words[i]
      else m.words[i] }

/-- how a message shows itself in a trace: tag and words in use -/
def describe (m : Message) : String :=
  let words := ", ".intercalate (m.toList.map fun w => Hex.padded 8 w.toNat)
  "PropertyMessage \x7b tag: " ++ Hex.full m.tag ++ ", words: [" ++ words ++ "] \x7d"

theorem length_image {tag : UInt32} {payload : List UInt32} {room : Nat} (h : payload.length ≤ room) :
    (image tag payload room).length = room + 6 := by
  simp only [image, List.length_append, List.length_cons, List.length_nil, List.length_replicate]
  omega

end Message
end MailboxCursor
