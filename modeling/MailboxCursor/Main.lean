/-
The command line program: reads the environment, looks at the device's path, and does what `Program.run` says.
-/
import MailboxCursor.Command.Program

namespace MailboxCursor

/-- variables that the settings are read from -/
def settingNames : List String :=
  ["VC_MAILBOX_DEVICE", "VC_MAILBOX_MAJOR", "VC_MAILBOX_MINOR", "VC_MEM_DEVICE", "VC_CURSOR_BIT_ORDER",
    "VC_CURSOR_SCANLINE_PAD", "VC_CURSOR_MIN_FIRMWARE"]

/-- what stands at a path, as far as opening it tells -/
def statusOfPath (path : String) : IO PathStatus := do
  try
    let _ ← IO.FS.Handle.mk path .readWrite
    return .found (.file .notTerminal)
  catch e =>
    match e with
    | .noFileOrDirectory .. => return .missing .notFound
    | .inappropriateType _ code _ => return if code = 20 then .missing .notDirectory else .found .directory
    | .invalidArgument _ code _ => return .missing (if code = 36 then .nameTooLong else .invalidArgument)
    | e => return .found (.unopenable (.other (toString e)))

end MailboxCursor

open MailboxCursor in
/-- effects in order, then the report of a failure; the exit code last -/
def main (args : List String) : IO UInt32 := do
  let found ← settingNames.filterMapM fun name => do
    return (← IO.getEnv name).map fun value => (name, value)
  let env : Environment := fun name => (found.find? fun f => f.1 == name).map Prod.snd
  let path := match Arguments.parse? args, CursorSettings.read env with
    | some a, .ok s => (Program.override s a).mailbox.device
    | _, _ => MailboxSettings.default.device
  let status ← statusOfPath path
  let exit := Program.run args env fun _ => status
  for effect in exit.effects do
    match effect with
    | .line text => IO.println text
    | .pause ms => IO.sleep (UInt32.ofNat ms)
  IO.eprint exit.report
  return exit.code
