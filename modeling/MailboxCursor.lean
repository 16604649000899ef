import MailboxCursor.Main
import MailboxCursor.Cursor.Operation
import MailboxCursor.Script
import MailboxCursor.Proofs.Message.Request
import MailboxCursor.Proofs.Image.Render
import MailboxCursor.Proofs.Device.Ask
import MailboxCursor.Proofs.Device.Projection
import MailboxCursor.Proofs.Device.Recorder
import MailboxCursor.Proofs.Firmware.Memory
import MailboxCursor.Proofs.Firmware.Picture
import MailboxCursor.Proofs.Firmware.Exchange
import MailboxCursor.Proofs.Firmware.Requests
import MailboxCursor.Proofs.Cursor.Steps
import MailboxCursor.Proofs.Cursor.Trace
import MailboxCursor.Proofs.Cursor.Session
import MailboxCursor.Proofs.Cursor.Transfer
import MailboxCursor.Proofs.Cursor.Lockstep
import MailboxCursor.Proofs.Cursor.Upload
import MailboxCursor.Proofs.Firmware.FirstFit
import MailboxCursor.Proofs.Firmware.Table
import MailboxCursor.Proofs.Firmware.Mirror
import MailboxCursor.Proofs.Firmware.Sound
import MailboxCursor.Proofs.Firmware.Bench
import MailboxCursor.Proofs.Firmware.FlatMemory
import MailboxCursor.Proofs.Message.RoundTrip
import MailboxCursor.Proofs.Firmware.BusSpace
import MailboxCursor.Proofs.Firmware.Turn
import MailboxCursor.Proofs.Firmware.Audit
import MailboxCursor.Proofs.Firmware.Ledger
import MailboxCursor.Proofs.Cursor.Accounting
import MailboxCursor.Proofs.Message.Bounds
import MailboxCursor.Proofs.Firmware.Fate
import MailboxCursor.Proofs.Firmware.Handles
import MailboxCursor.Proofs.Cursor.Failure
import MailboxCursor.Proofs.Cursor.Machine
import MailboxCursor.Proofs.Cursor.Oversize
import MailboxCursor.Proofs.Command.Clean
import MailboxCursor.Proofs.Firmware.Leases
import MailboxCursor.Proofs.Firmware.Placement
import MailboxCursor.Proofs.Device.Reply
import MailboxCursor.Proofs.Device.Resend
import MailboxCursor.Proofs.Firmware.Acquisition
import MailboxCursor.Proofs.Firmware.Opening
import MailboxCursor.Proofs.Image.Reference
import MailboxCursor.Proofs.Image.TwoColors
import MailboxCursor.Proofs.Cursor.HostImage
import MailboxCursor.Proofs.Firmware.Capture
import MailboxCursor.Proofs.Cursor.Teardown
import MailboxCursor.Proofs.Cursor.Repeat
import MailboxCursor.Proofs.Device.Veil
import MailboxCursor.Proofs.Firmware.Blot
import MailboxCursor.Proofs.Cursor.Likeness
import MailboxCursor.Proofs.Cursor.Blind
import MailboxCursor.Proofs.Message.Layout
import MailboxCursor.Proofs.Message.Range
import MailboxCursor.Proofs.Settings.Blank
import MailboxCursor.Proofs.Settings.Loading
import MailboxCursor.Proofs.Firmware.History
import MailboxCursor.Proofs.Image.Rows
import MailboxCursor.Proofs.Device.Physical
import MailboxCursor.Proofs.Command.Sweep
import MailboxCursor.Proofs.Image.Overlay
