/-
The mailbox as a device file. `DeviceNode.connect` takes what stands at the path, or why nothing can; a file that is not
the mailbox opens, but every message sent to it fails. `Hardware` puts a device file and a memory file together into one
device.
-/
import MailboxCursor.FileTree
import MailboxCursor.MemoryFile
import MailboxCursor.Settings

namespace MailboxCursor

/-- number of the request that carries a message: read and write, a pointer in size, class 100, number 0 -/
def propertyRequest : UInt64 :=
  (3 : UInt64) <<< 30 ||| (8 : UInt64) <<< 16 ||| (100 : UInt64) <<< 8 ||| 0

/-- the number of a device node: twelve bits of the major number and twenty of the minor one fill the lower word, all other
bits of both go into the upper -/
def nodeNumber (major minor : UInt32) : UInt64 :=
  (major &&& 0xfffff000).toUInt64 <<< 32 ||| (minor &&& 0xffffff00).toUInt64 <<< 12
    ||| (major &&& 0xfff).toUInt64 <<< 8 ||| (minor &&& 0xff).toUInt64

structure DeviceNode where
  path : String
  /-- why it refuses every message -/
  refusal : SystemError
deriving DecidableEq, Repr

namespace DeviceNode

/-- why no node can be made: its number must fit a word, whatever is wrong with the path -/
def obstacle (settings : MailboxSettings) (cause : SystemError) : SystemError :=
  if nodeNumber settings.major settings.minor < 0x100000000 then cause else .invalidArgument

/-- open the configured device, making the node first if nothing is there -/
def connect (settings : MailboxSettings) (status : PathStatus) : Except MailboxError DeviceNode × List Event :=
  let path := settings.device
  let creating := Event.info s!"creating mailbox device node {path} ({settings.major}:{settings.minor})"
  if path.toList.contains '\x00' then
    (.error (.deviceUnavailable path (.other "device path contains NUL")), [creating])
  else
    match status with
    | .missing cause => (.error (.deviceUnavailable path (obstacle settings cause)), [creating])
    | .found .directory => (.error (.deviceUnavailable path .isDirectory), [])
    | .found (.unopenable cause) => (.error (.deviceUnavailable path cause), [])
    | .found (.file refusal) => (.ok ⟨path, refusal⟩, [.debug s!"opened mailbox device {path}"])

/-- a file that is no mailbox refuses every message and leaves it as it is -/
def exchange (node : DeviceNode) (m : Message) : Exchange DeviceNode :=
  ⟨.error (.exchangeFailed m.tag (.ioctl node.refusal)), m.words, node,
    [.warn s!"mailbox ioctl for tag {Hex.full m.tag} failed: {node.refusal.text}"]⟩

def closing (node : DeviceNode) : Event :=
  .debug s!"closing mailbox device {node.path}"

end DeviceNode

/-- a device file for messages and a memory file for windows -/
structure Hardware where
  node : DeviceNode
  memory : MemoryFile
deriving DecidableEq, Repr

namespace Hardware

def connect (settings : MailboxSettings) (status : PathStatus) (memory : MemoryFile) :
    Except MailboxError Hardware × List Event :=
  match DeviceNode.connect settings status with
  | (.error e, events) => (.error e, events)
  | (.ok node, events) =>
    (.ok ⟨node, memory⟩,
      events ++ [.info s!"VideoCore mailbox {node.path} ready (memory via {settings.memDevice})"])

def liftAccess {α : Type} (h : Hardware) (a : Access MemoryFile α) : Access Hardware α :=
  ⟨a.result, { h with memory := a.device }, a.events⟩

instance : Device Hardware where
  exchange := fun h m =>
    let x := h.node.exchange m
    ⟨x.result, x.words, { h with node := x.device }, x.events⟩
  openWindow := fun h bus len => h.liftAccess (h.memory.openWindow .usual bus len)
  closeWindow := fun h w => h.liftAccess (h.memory.closeWindow w)
  read := fun h w => h.memory.read w
  write := fun h w offset bytes => { h with memory := h.memory.write w offset bytes }

end Hardware
end MailboxCursor
