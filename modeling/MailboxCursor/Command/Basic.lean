/-
The commands. Each one takes a link to a device and comes back with its outcome, what it wrote on the way, and the link.
A command that sets up a controller closes it before it returns, whatever happens in between.
-/
import MailboxCursor.Command.Arrow
import MailboxCursor.Command.Error
import MailboxCursor.Cursor.Controller

namespace MailboxCursor

/-- what a command does beside talking to the device -/
inductive Effect where
  /-- one line for the user -/
  | line (text : String)
  | pause (milliseconds : Nat)
deriving DecidableEq, Repr

/-- what a command brings -/
structure Outcome (δ : Type) where
  result : Except CommandError Unit
  effects : Array Effect
  link : Link δ

namespace Command

variable {δ : Type} [Device δ]

/-- firmware version, overscan, and whether the cursor is supported -/
def info (l : Link δ) (settings : CursorSettings) : Outcome δ :=
  match l.askVersion with
  | (.error e, l) => ⟨.error (.versionQuery e), #[], l⟩
  | (.ok version, l) =>
    match l.askOverscan with
    | (.error e, l) => ⟨.error (.overscanQuery e), #[], l⟩
    | (.ok o, l) =>
      let supported := if version.val < settings.minFirmware.val then "unsupported" else "supported"
      ⟨.ok (),
        #[.line s!"firmware version: {version.text}",
          .line s!"overscan: top {o.top} bottom {o.bottom} left {o.left} right {o.right}",
          .line s!"hardware cursor: {supported} (minimum firmware {settings.minFirmware.text})"],
        l⟩

/-- a controller that shows the arrow once it is told to -/
def ready (l : Link δ) (settings : CursorSettings) : Except CommandError Unit × Controller δ :=
  match (Controller.create l settings).start with
  | (.error e, c) => (.error (.initialisation e), c)
  | (.ok (), c) =>
    match c.load Arrow.image with
    | (.error e, c) => (.error (.upload e), c)
    | (.ok (), c) => (.ok (), c)

/-- the end of a command that set up a controller -/
def leave (result : Except CommandError Unit) (effects : Array Effect) (c : Controller δ) : Outcome δ :=
  ⟨result, effects, c.abandon.link⟩

/-- the arrow at a place for a while -/
def display (l : Link δ) (settings : CursorSettings) (x y : Int32) (seconds : Nat) : Outcome δ :=
  match ready l settings with
  | (.error e, c) => leave (.error e) #[] c
  | (.ok (), c) =>
    match c.moveTo x y with
    | (.error e, c) => leave (.error (.move e)) #[] c
    | (.ok (), c) =>
      match c.display with
      | (.error e, c) => leave (.error (.display e)) #[] c
      | (.ok (), c) =>
        let effects := #[.line s!"cursor shown at ({x.toInt}, {y.toInt})", .pause (seconds * 1000)]
        match c.close with
        | (.error e, c) => leave (.error (.close e)) effects c
        | (.ok (), c) => leave (.ok ()) effects c

/-- no cursor any more, whoever set it up -/
def hide (l : Link δ) : Outcome δ :=
  match l.askWord .setCursorState [0, 0, 0] with
  | (.error e, l) => ⟨.error (.stateUpdate e), #[], l⟩
  | (.ok status, l) =>
    if status = 0 then ⟨.ok (), #[.line "cursor hidden"], l⟩ else ⟨.error (.hideRejected status), #[], l⟩

/-- pixels between two steps of the sweep -/
def sweepStride : UInt32 := 8

/-- so many moves along the diagonal, from step `step` on -/
def sweep (pause : Nat) : Nat → UInt32 → Array Effect → Controller δ →
    Except CommandError Unit × Array Effect × Controller δ
  | 0, _, effects, c => (.ok (), effects, c)
  | left + 1, step, effects, c =>
    let place := step * sweepStride
    if 0x80000000 ≤ place.toNat then (.error .sweepTooLong, effects, c)
    else
      match c.moveTo place.toInt32 place.toInt32 with
      | (.error e, c) => (.error (.move e), effects, c)
      | (.ok (), c) =>
        sweep pause left (step + 1) (if pause = 0 then effects else effects.push (.pause pause)) c

/-- the arrow swept across the screen -/
def demo (l : Link δ) (settings : CursorSettings) (steps : UInt32) (pause : Nat) : Outcome δ :=
  match ready l settings with
  | (.error e, c) => leave (.error e) #[] c
  | (.ok (), c) =>
    match c.display with
    | (.error e, c) => leave (.error (.display e)) #[] c
    | (.ok (), c) =>
      match sweep pause steps.toNat 0 #[] c with
      | (.error e, effects, c) => leave (.error e) effects c
      | (.ok (), effects, c) =>
        let last := c.surface
        match c.close with
        | (.error e, c) => leave (.error (.close e)) effects c
        | (.ok (), c) =>
          let line := s!"demo finished: {steps} moves, last position ({last.x.toInt}, {last.y.toInt})"
          leave (.ok ()) (effects.push (.line line)) c

/-- the byte that a cycle fills its block with -/
def pattern (cycle : UInt32) : UInt8 :=
  cycle.toUInt8 * 31 ||| 1

/-- so many blocks acquired, filled, read back and released, from cycle `cycle` on -/
def cycles : Nat → UInt32 → Link δ → Except CommandError Unit × Link δ
  | 0, _, l => (.ok (), l)
  | left + 1, cycle, l =>
    match l.acquire cursorBufferBytes pageAlignment .l1NonAllocating with
    | (.error e, l) => (.error (.allocation cycle e), l)
    | (.ok block, l) =>
      let l := l.write block.window 0 (List.replicate block.window.len.toNat (pattern cycle))
      let intact := (l.read block.window).all fun b => b == pattern cycle
      match l.release block with
      | (.error e, l) => (.error (.release cycle e), l)
      | (.ok (), l) =>
        if intact then cycles left (cycle + 1) l else (.error (.readback cycle block.bus), l)

/-- a check of GPU memory -/
def allocTest (l : Link δ) (count : UInt32) : Outcome δ :=
  match cycles count.toNat 0 l with
  | (.error e, l) => ⟨.error e, #[], l⟩
  | (.ok (), l) => ⟨.ok (), #[.line s!"alloc-test: {count} cycles ok"], l⟩

end Command
end MailboxCursor
