/-
A link to a device, with its history: the messages sent, as they were sent, and the events reported.

`ask` is the one way in which the layers above talk to the firmware: it composes a request, sends it once, and takes the
answer apart; whatever the firmware did to the buffer, an answer comes out only if it is marked as processed and long
enough.
-/
import MailboxCursor.Device

namespace MailboxCursor

structure Link (δ : Type) where
  device : δ
  /-- messages sent, oldest first -/
  sent : Array Message
  /-- events reported, oldest first -/
  events : Array Event

namespace Link

variable {δ : Type}

/-- a link without a history -/
def fresh (device : δ) : Link δ :=
  ⟨device, #[], #[]⟩

/-- one event more -/
def note (l : Link δ) (e : Event) : Link δ :=
  { l with events := l.events.push e }

variable [Device δ]

/-- one message sent; the second part is the message as it came back -/
def send (l : Link δ) (m : Message) : Except MailboxError Unit × Message × Link δ :=
  let x := Device.exchange l.device m
  (x.result, { m with words := x.words }, ⟨x.device, l.sent.push m, l.events ++ x.events⟩)

def openWindow (l : Link δ) (bus : BusAddress) (len : UInt64) : Except MailboxError Window × Link δ :=
  let a := Device.openWindow l.device bus len
  (a.result, { l with device := a.device, events := l.events ++ a.events })

def closeWindow (l : Link δ) (w : Window) : Except MailboxError Unit × Link δ :=
  let a := Device.closeWindow l.device w
  (a.result, { l with device := a.device, events := l.events ++ a.events })

/-- the bytes that a window shows -/
def read (l : Link δ) (w : Window) : List UInt8 :=
  Device.read l.device w

/-- bytes written into a window from an offset on; those past its end are dropped -/
def write (l : Link δ) (w : Window) (offset : Nat) (bytes : List UInt8) : Link δ :=
  { l with device := Device.write l.device w offset (bytes.take (w.room offset bytes.length)) }

/-- one transaction, and its answer; a message that the firmware did not mark as processed counts as failed -/
def sendChecked (l : Link δ) (m : Message) : Except MailboxError Response × Link δ :=
  match l.send m with
  | (.error e, _, l) => (.error e, l)
  | (.ok (), answered, l) =>
    match answered.response with
    | .ok r => (.ok r, l)
    | .error e =>
      (.error (.exchangeFailed m.tag (.response e)),
        l.note (.warn s!"property tag {Hex.full m.tag} not acknowledged by firmware: {e.text}"))

/-- words in brackets, for the log -/
def listText (ws : List UInt32) : String :=
  "[" ++ ", ".intercalate (ws.map fun w => toString w.toNat) ++ "]"

/-- one request for a known tag, and the first `n` words of its answer -/
def ask (l : Link δ) (tag : Tag) (payload : List UInt32) (n : Nat) : Except MailboxError (List UInt32) × Link δ :=
  match Message.request tag payload with
  | .error e => (.error (.message e), l)
  | .ok m =>
    let l := l.note ⟨.debug, "property request", [("tag", tag.name), ("payload", listText payload)]⟩
    match l.sendChecked m with
    | (.error e, l) => (.error e, l)
    | (.ok r, l) =>
      match r.first n with
      | .error e => (.error (.exchangeFailed tag.id (.response e)), l)
      | .ok ws => (.ok ws, l.note ⟨.debug, "property response", [("tag", tag.name), ("response", listText ws)]⟩)

/-- a request whose answer is one word -/
def askWord (l : Link δ) (tag : Tag) (payload : List UInt32) : Except MailboxError UInt32 × Link δ :=
  match l.ask tag payload 1 with
  | (.error e, l) => (.error e, l)
  | (.ok ws, l) => (.ok (ws.headD 0), l)

end Link

/-- borders that the firmware leaves around the picture, in pixels -/
structure Overscan where
  top : UInt32
  bottom : UInt32
  left : UInt32
  right : UInt32
deriving DecidableEq, Repr

namespace Link

variable {δ : Type} [Device δ]

def askVersion (l : Link δ) : Except MailboxError FirmwareVersion × Link δ :=
  match l.askWord .getFirmwareVersion [] with
  | (.error e, l) => (.error e, l)
  | (.ok v, l) => (.ok ⟨v⟩, l.note (.debug s!"firmware version {v}"))

def askOverscan (l : Link δ) : Except MailboxError Overscan × Link δ :=
  match l.ask .getOverscan [] 4 with
  | (.error e, l) => (.error e, l)
  | (.ok ws, l) => (.ok ⟨ws.getD 0 0, ws.getD 1 0, ws.getD 2 0, ws.getD 3 0⟩, l)

end Link
end MailboxCursor
