/-
A device that follows a script. Each message takes one step of the script, which may fail it, change the buffer before or
after, or hand it on to the device behind; when the script has run out, everything is handed on. Windows are always those
of the device behind.
-/
import MailboxCursor.Device

namespace MailboxCursor

/-- what happens to one message, in this order -/
structure ScriptStep where
  /-- fail with this cause, and do nothing else -/
  fail : Option String
  before : List (Nat × UInt32)
  forward : Bool
  answer : Option (List UInt32)
  code : Option UInt32
  after : List (Nat × UInt32)
deriving DecidableEq, Repr

namespace ScriptStep

/-- the changes that come after the device behind has had the message -/
def finish (s : ScriptStep) (m : Message) : Message :=
  let m := match s.answer with
    | some values => m.answered values
    | none => m
  let m := match s.code with
    | some code => m.withCode code
    | none => m
  m.pokeAll s.after

end ScriptStep

structure Scripted (δ : Type) where
  device : δ
  steps : List ScriptStep

namespace Scripted

variable {δ : Type} [Device δ]

def exchange (s : Scripted δ) (m : Message) : Exchange (Scripted δ) :=
  match s.steps with
  | [] =>
    let x := Device.exchange s.device m
    ⟨x.result, x.words, ⟨x.device, []⟩, x.events⟩
  | step :: steps =>
    match step.fail with
    | some cause =>
      ⟨.error (.exchangeFailed m.tag (.ioctl (.other cause))), m.words, ⟨s.device, steps⟩, []⟩
    | none =>
      let m := m.pokeAll step.before
      if step.forward then
        let x := Device.exchange s.device m
        match x.result with
        | .error e => ⟨.error e, x.words, ⟨x.device, steps⟩, x.events⟩
        | .ok () => ⟨.ok (), (step.finish { m with words := x.words }).words, ⟨x.device, steps⟩, x.events⟩
      else ⟨.ok (), (step.finish m).words, ⟨s.device, steps⟩, []⟩

def liftAccess {α : Type} (s : Scripted δ) (a : Access δ α) : Access (Scripted δ) α :=
  ⟨a.result, { s with device := a.device }, a.events⟩

instance : Device (Scripted δ) where
  exchange := exchange
  openWindow := fun s bus len => s.liftAccess (Device.openWindow s.device bus len)
  closeWindow := fun s w => s.liftAccess (Device.closeWindow s.device w)
  read := fun s w => Device.read s.device w
  write := fun s w offset bytes => { s with device := Device.write s.device w offset bytes }

end Scripted
end MailboxCursor
