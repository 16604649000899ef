/-
The program as a whole: command line, environment and what stands at the device's path go in; exit code, effects and the
report of a failure come out.
-/
import MailboxCursor.Command.Arguments
import MailboxCursor.Command.Basic
import MailboxCursor.DeviceNode
import MailboxCursor.Firmware.Windows

namespace MailboxCursor

/-- how a run of the program ends -/
structure Exit where
  code : UInt32
  effects : Array Effect
  report : String
deriving DecidableEq, Repr

namespace Program

variable {δ : Type} [Device δ]

/-- one command on a device -/
def command (l : Link δ) (settings : CursorSettings) : CommandLine → Outcome δ
  | .info => Command.info l settings
  | .display x y seconds => Command.display l settings x y seconds
  | .hide => Command.hide l
  | .demo steps pause => Command.demo l settings steps pause
  | .allocTest count => Command.allocTest l count

def exit (o : Outcome δ) : Exit :=
  match o.result with
  | .ok () => ⟨0, o.effects, ""⟩
  | .error e => ⟨1, o.effects, e.report⟩

def usage : String :=
  "Usage: vc-cursor [--device PATH] [--mem-device PATH] [--emulated] <info|show|hide|demo|alloc-test>\n"

/-- settings with the paths of the command line -/
def override (settings : CursorSettings) (args : Arguments) : CursorSettings :=
  { settings with
    mailbox :=
      { settings.mailbox with
        device := args.device.getD settings.mailbox.device
        memDevice := args.memDevice.getD settings.mailbox.memDevice } }

/-- one run; `status` tells what stands at a path -/
def run (args : List String) (env : Environment) (status : String → PathStatus) : Exit :=
  match Arguments.parse? args with
  | none => ⟨2, #[], usage⟩
  | some args =>
    match CursorSettings.read env with
    | .error e => ⟨1, #[], (CommandError.settings e).report⟩
    | .ok settings =>
      let settings := override settings args
      if args.emulated then exit (command (Link.fresh (Firmware.fresh 0)) settings args.command)
      else
        let path := settings.mailbox.device
        match Hardware.connect settings.mailbox (status path) (.fresh none) with
        | (.error e, _) => ⟨1, #[], (CommandError.device path e).report⟩
        | (.ok hardware, _) => exit (command (Link.fresh hardware) settings args.command)

/-- what a run writes to its output -/
def output (effects : Array Effect) : String :=
  effects.foldl
    (fun s e => match e with
      | .line text => s ++ text ++ "\n"
      | .pause _ => s)
    ""

end Program
end MailboxCursor
