/-
The cursor controller: it drives the firmware's cursor through a link.

Every visible change is one message. What the controller records of the cursor (its `surface`) changes only once the
firmware has acknowledged it, so a failed operation leaves the last cursor on the screen and the record in step with it.
`start` sets up the transfer buffer and can fail only once; `close` takes the cursor off the screen and gives the buffer
back, trying both whatever happens.
-/
import MailboxCursor.Cursor.Error
import MailboxCursor.GpuBlock
import MailboxCursor.Settings

namespace MailboxCursor

inductive Phase where
  | uninitialized
  | hidden
  | visible
  /-- initialisation failed; every later operation is ignored -/
  | unavailable
  | closed
deriving DecidableEq, Repr

namespace Phase

def isReady : Phase → Bool
  | hidden => true
  | visible => true
  | _ => false

def name : Phase → String
  | uninitialized => "Uninitialized"
  | hidden => "Hidden"
  | visible => "Visible"
  | unavailable => "Unavailable"
  | closed => "Closed"

end Phase

/-- the firmware scans out only this format -/
def argbFormat : UInt32 := 0

/-- what the firmware was last told about the cursor -/
structure Surface where
  width : UInt32
  height : UInt32
  format : UInt32
  hotspotX : UInt32
  hotspotY : UInt32
  colors : Palette
  enabled : Bool
  x : Int32
  y : Int32
deriving DecidableEq, Repr

namespace Surface

def blank : Surface :=
  ⟨0, 0, argbFormat, 0, 0, .default, false, 0, 0⟩

/-- the form that shows the type -/
def describe (s : Surface) : String :=
  s!"CursorSurface \x7b width: {s.width}, height: {s.height}, format: {s.format}, hotspot_x: {s.hotspotX}, "
    ++ s!"hotspot_y: {s.hotspotY}, colors: {s.colors.describe}, enabled: {s.enabled}, "
    ++ s!"x: {s.x.toInt}, y: {s.y.toInt} \x7d"

end Surface

structure Controller (δ : Type) where
  link : Link δ
  settings : CursorSettings
  phase : Phase
  surface : Surface
  firmware : Option FirmwareVersion
  /-- the transfer buffer, which the firmware reads images from -/
  transfer : Option GpuBlock

namespace Controller

variable {δ : Type}

def create (link : Link δ) (settings : CursorSettings) : Controller δ :=
  ⟨link, settings, .uninitialized, .blank, none, none⟩

def note (c : Controller δ) (e : Event) : Controller δ :=
  { c with link := c.link.note e }

/-- an optional value in the form that shows it -/
def describeOption (text : Option String) : String :=
  match text with
  | some t => s!"Some({t})"
  | none => "None"

/-- the form that shows the controller's fields, all but the link and the settings -/
def describe (c : Controller δ) : String :=
  "CursorController \x7b state: " ++ c.phase.name ++ ", surface: " ++ c.surface.describe
    ++ ", firmware: " ++ describeOption (c.firmware.map FirmwareVersion.describe)
    ++ ", transfer: " ++ describeOption (c.transfer.map fun b => b.bus.describe) ++ ", .. \x7d"

variable [Device δ]

/-! ## Messages -/

/-- one request that the firmware answers with a status; any status but zero is a failure -/
def tell (c : Controller δ) (tag : Tag) (payload : List UInt32) : Except CursorError Unit × Controller δ :=
  match c.link.askWord tag payload with
  | (.error e, l) => (.error (.mailbox e), { c with link := l })
  | (.ok status, l) =>
    if status = 0 then (.ok (), { c with link := l })
    else
      (.error (.firmwareRejected tag status),
        { c with link := l.note (.warn s!"firmware rejected {tag.name}: status {Hex.short status}") })

/-- put the cursor at a place, shown or not, and record it once the firmware has agreed -/
def place (c : Controller δ) (enabled : Bool) (x y : Int32) : Except CursorError Unit × Controller δ :=
  match c.tell .setCursorState [if enabled then 1 else 0, x.toUInt32, y.toUInt32] with
  | (.error e, c) => (.error e, c)
  | (.ok (), c) =>
    let phase := if enabled then Phase.visible else .hidden
    (.ok (),
      { c with surface := { c.surface with enabled := enabled, x := x, y := y }, phase := phase }.note
        (.debug s!"cursor {phase.name} at ({x.toInt}, {y.toInt})"))

/-! ## Life -/

/-- ask for the firmware's age, and set up a cleared transfer buffer if it is new enough -/
def prepare (c : Controller δ) : Except CursorError Unit × Controller δ :=
  match c.link.askVersion with
  | (.error e, l) => (.error (.mailbox e), { c with link := l })
  | (.ok version, l) =>
    let c := { c with link := l, firmware := some version }
    if version.val < c.settings.minFirmware.val then
      (.error (.unsupportedFirmware version c.settings.minFirmware), c)
    else
      match c.link.acquire cursorBufferBytes pageAlignment .l1NonAllocating with
      | (.error e, l) => (.error (.mailbox e), { c with link := l })
      | (.ok block, l) =>
        let l := l.write block.window 0 (List.replicate block.window.len.toNat 0)
        (.ok (),
          { c with
            link := l.note (.debug s!"cursor transfer buffer at bus {block.bus.text} ({block.size} bytes)")
            transfer := some block })

/-- make the controller ready; a failure is for good -/
def start (c : Controller δ) : Except CursorError Unit × Controller δ :=
  match c.phase with
  | .unavailable => (.error .startFailedBefore, c)
  | .hidden | .visible | .closed => (.ok (), c)
  | .uninitialized =>
    match c.prepare with
    | (.ok (), c) =>
      let firmware := describeOption (c.firmware.map FirmwareVersion.describe)
      (.ok (), { c with phase := .hidden }.note (.info s!"hardware cursor ready (firmware {firmware})"))
    | (.error e, c) =>
      (.error e, { c with phase := .unavailable }.note (.warn s!"hardware cursor unavailable: {e.text}"))

/-- release the transfer buffer, if there is one -/
def releaseTransfer (c : Controller δ) : Except CursorError Unit × Controller δ :=
  match c.transfer with
  | none => (.ok (), c)
  | some block =>
    match c.link.release block with
    | (.ok (), l) => (.ok (), { c with link := l, transfer := none })
    | (.error e, l) => (.error (.mailbox e), { c with link := l, transfer := none })

/-- hide the cursor and release the transfer buffer, both whatever happens; the first failure is reported -/
def close (c : Controller δ) : Except CursorError Unit × Controller δ :=
  if c.phase.isReady then
    let (hidden, c) := { c with phase := .closed }.tell .setCursorState
      [0, c.surface.x.toUInt32, c.surface.y.toUInt32]
    let c := match hidden with
      | .ok () => { c with surface := { c.surface with enabled := false } }
      | .error _ => c
    let (freed, c) := c.releaseTransfer
    (match hidden with
      | .ok () => freed
      | .error e => .error e,
      c.note (.info "hardware cursor closed"))
  else (.ok (), { c with phase := .closed })

/-- the end of a controller that nobody closed: as `close`, with a failure only in the log -/
def abandon (c : Controller δ) : Controller δ :=
  match c.close with
  | (.ok (), c) => c
  | (.error e, c) => c.note (.warn s!"closing hardware cursor: {e.text}")

/-! ## Position and visibility -/

def display (c : Controller δ) : Except CursorError Unit × Controller δ :=
  if c.phase.isReady then c.place true c.surface.x c.surface.y else (.ok (), c)

def hide (c : Controller δ) : Except CursorError Unit × Controller δ :=
  if c.phase.isReady then c.place false c.surface.x c.surface.y else (.ok (), c)

def moveTo (c : Controller δ) (x y : Int32) : Except CursorError Unit × Controller δ :=
  if c.phase.isReady then c.place c.surface.enabled x y else (.ok (), c)

/-- enable the cursor if an image of this size fits the hardware, disable it otherwise; says which -/
def enableFor (c : Controller δ) (width height : UInt32) : Except CursorError Bool × Controller δ :=
  if c.phase.isReady then
    let enabled := width ≤ maxCursorSize && height ≤ maxCursorSize
    match c.place enabled c.surface.x c.surface.y with
    | (.ok (), c) => (.ok enabled, c)
    | (.error e, c) => (.error e, c)
  else (.ok false, c)

/-! ## Images -/

/-- colours for the next image of two colours; the one on the screen stays as it is -/
def recolor (c : Controller δ) (colors : Palette) : Controller δ :=
  { c with surface := { c.surface with colors := colors } }

/-- no picture for an image that the hardware cannot show: a cursor on the screen is hidden first -/
def refuseImage (c : Controller δ) (width height : UInt32) : Except CursorError Unit × Controller δ :=
  if c.surface.enabled then
    match c.place false c.surface.x c.surface.y with
    | (.ok (), c) => (.error (.geometryUnsupported width height), c)
    | (.error e, c) => (.error e, c)
  else (.error (.geometryUnsupported width height), c)

/-- lay a picture into the transfer buffer and point the firmware at it -/
def upload (c : Controller δ) (block : GpuBlock) (cursor : Picture) : Except CursorError Unit × Controller δ :=
  let room := block.window.len.toNat
  let cleared := c.link.write block.window 0 (List.replicate room 0)
  let c := { c with link := cleared.write block.window 0 (cursor.bytesWithin room) }
  match c.tell .setCursorInfo
    [cursor.width, cursor.height, argbFormat, block.bus.val, cursor.hotspotX, cursor.hotspotY] with
  | (.error e, c) => (.error e, c)
  | (.ok (), c) =>
    (.ok (),
      { c with
        surface :=
          { c.surface with
            width := cursor.width
            height := cursor.height
            format := argbFormat
            hotspotX := cursor.hotspotX
            hotspotY := cursor.hotspotY } }.note
        (.debug s!"cursor image {cursor.width}x{cursor.height} loaded"))

/-- show an image from now on -/
def load (c : Controller δ) (image : Image) : Except CursorError Unit × Controller δ :=
  if c.phase.isReady then
    if maxCursorSize < image.width ∨ maxCursorSize < image.height then c.refuseImage image.width image.height
    else
      match image.render c.surface.colors with
      | .error e => (.error (.raster e), c)
      | .ok cursor =>
        match c.transfer with
        | none => (.ok (), c)
        | some block => c.upload block cursor
  else (.ok (), c)

end Controller
end MailboxCursor
