/-
Settings, read from an environment of named texts.

`MailboxSettings.read` says which device files to use, `CursorSettings.read` adds what the cursor needs. A variable that
is set but cannot be read is an error that names it; the first one in the order of reading is reported. A variable that is
not set leaves its default.
-/
import MailboxCursor.Address
import MailboxCursor.Image.Layout
import MailboxCursor.Path
import MailboxCursor.Text.Numeral

namespace MailboxCursor

/-- named texts; a name may have none -/
abbrev Environment := String → Option String

/-- a variable is set to something that cannot be read -/
structure SettingError where
  name : String
deriving DecidableEq, Repr

def SettingError.text (e : SettingError) : String :=
  s!"invalid value for env var {e.name}"

namespace Environment

/-- a number, if the variable is set -/
def word (env : Environment) (name : String) : Except SettingError (Option UInt32) :=
  match env name with
  | none => .ok none
  | some s =>
    match Numeral.word? s.toList with
    | some w => .ok (some w)
    | none => .error ⟨name⟩

end Environment

structure MailboxSettings where
  device : String
  major : UInt32
  minor : UInt32
  memDevice : String
deriving DecidableEq, Repr

namespace MailboxSettings

def default : MailboxSettings :=
  ⟨"/dev/vc4mail", 100, 0, "/dev/mem"⟩

def read (env : Environment) : Except SettingError MailboxSettings :=
  match env.word "VC_MAILBOX_MAJOR" with
  | .error e => .error e
  | .ok major =>
    match env.word "VC_MAILBOX_MINOR" with
    | .error e => .error e
    | .ok minor =>
      .ok
        { device := (env "VC_MAILBOX_DEVICE").getD default.device
          major := major.getD default.major
          minor := minor.getD default.minor
          memDevice := (env "VC_MEM_DEVICE").getD default.memDevice }

/-- the same settings as the default ones, paths compared as paths -/
def isDefault (s : MailboxSettings) : Bool :=
  Path.same s.device default.device && s.major == default.major && s.minor == default.minor
    && Path.same s.memDevice default.memDevice

end MailboxSettings

structure CursorSettings where
  mailbox : MailboxSettings
  /-- firmware older than this cannot show a cursor -/
  minFirmware : FirmwareVersion
  /-- layout of the host's two-colour images -/
  layout : PlaneLayout
deriving DecidableEq, Repr

/-- the first firmware that shows a cursor -/
def minCursorFirmware : FirmwareVersion := ⟨1390809622⟩

namespace CursorSettings

def default : CursorSettings :=
  ⟨.default, minCursorFirmware, .default⟩

/-- upper-case letters of ASCII made lower -/
def foldCase (s : List Char) : List Char :=
  s.map Char.toLower

def readOrder (env : Environment) : Except SettingError (Option BitOrder) :=
  match env "VC_CURSOR_BIT_ORDER" with
  | none => .ok none
  | some s =>
    if foldCase (Blank.trim s.toList) = ['l', 's', 'b'] then .ok (some .lsbFirst)
    else if foldCase (Blank.trim s.toList) = ['m', 's', 'b'] then .ok (some .msbFirst)
    else .error ⟨"VC_CURSOR_BIT_ORDER"⟩

def readPad (env : Environment) : Except SettingError (Option UInt32) :=
  match env.word "VC_CURSOR_SCANLINE_PAD" with
  | .error e => .error e
  | .ok none => .ok none
  | .ok (some pad) =>
    if pad = 8 ∨ pad = 16 ∨ pad = 32 ∨ pad = 64 then .ok (some pad) else .error ⟨"VC_CURSOR_SCANLINE_PAD"⟩

def read (env : Environment) : Except SettingError CursorSettings :=
  match readOrder env with
  | .error e => .error e
  | .ok order =>
    match readPad env with
    | .error e => .error e
    | .ok pad =>
      match MailboxSettings.read env with
      | .error e => .error e
      | .ok mailbox =>
        match env.word "VC_CURSOR_MIN_FIRMWARE" with
        | .error e => .error e
        | .ok version =>
          .ok
            { mailbox := mailbox
              minFirmware := (version.map FirmwareVersion.mk).getD default.minFirmware
              layout := ⟨pad.getD default.layout.scanlinePad, order.getD default.layout.order⟩ }

def isDefault (s : CursorSettings) : Bool :=
  s.mailbox.isDefault && s.minFirmware == default.minFirmware && s.layout == default.layout

end CursorSettings
end MailboxCursor
