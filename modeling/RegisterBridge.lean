import RegisterBridge.Burst.Plan
import RegisterBridge.Burst.Transfer
import RegisterBridge.Console.Arguments
import RegisterBridge.Console.Output
import RegisterBridge.Console.Refusal
import RegisterBridge.Console.Request
import RegisterBridge.Console.Run
import RegisterBridge.Console.Setting
import RegisterBridge.Console.Status
import RegisterBridge.Event
import RegisterBridge.Firmware.Basic
import RegisterBridge.Firmware.Bench
import RegisterBridge.Firmware.Memory
import RegisterBridge.Firmware.Ring
import RegisterBridge.Firmware.Terminal
import RegisterBridge.Frame.Basic
import RegisterBridge.Frame.Error
import RegisterBridge.Frame.Reader
import RegisterBridge.Frame.Scratch
import RegisterBridge.Frame.Tag
import RegisterBridge.Frame.Writer
import RegisterBridge.Link.Basic
import RegisterBridge.Link.Config
import RegisterBridge.Link.Error
import RegisterBridge.Link.Exchange
import RegisterBridge.Link.Handshake
import RegisterBridge.Link.Operation
import RegisterBridge.Main
import RegisterBridge.Port.Line
import RegisterBridge.Port.Search
import RegisterBridge.Proofs.Burst.Layout
import RegisterBridge.Proofs.Burst.Progress
import RegisterBridge.Proofs.Contiguity
import RegisterBridge.Proofs.Delivery
import RegisterBridge.Proofs.Device
import RegisterBridge.Proofs.Dialogue
import RegisterBridge.Proofs.Dialogue.Endings
import RegisterBridge.Proofs.Dialogue.Exchange
import RegisterBridge.Proofs.Dialogue.Offers
import RegisterBridge.Proofs.Dialogue.Operation
import RegisterBridge.Proofs.Dialogue.Reception
import RegisterBridge.Proofs.RegisterFile
import RegisterBridge.Proofs.Residue
import RegisterBridge.Stream.Basic
import RegisterBridge.Stream.Error
import RegisterBridge.Stream.Replay
import RegisterBridge.Stream.Scripted
import RegisterBridge.Stream.Socket
import RegisterBridge.Stream.Wire
import RegisterBridge.Text.Blank
import RegisterBridge.Text.Hex
import RegisterBridge.Text.Json
import RegisterBridge.Text.Numeral
import RegisterBridge.Text.Printable
import RegisterBridge.Text.Quoted
import RegisterBridge.Proofs.Misuse
import RegisterBridge.Proofs.Handshake
import RegisterBridge.Proofs.Search
import RegisterBridge.Proofs.Burst.Partition
import RegisterBridge.Proofs.Interruption
import RegisterBridge.Proofs.Console.CommandLine
import RegisterBridge.Proofs.Console.Contact
import RegisterBridge.Proofs.Text.Hex
import RegisterBridge.Proofs.Console.RoundTrip
import RegisterBridge.Proofs.RepeatedCall
import RegisterBridge.Proofs.Polling
import RegisterBridge.Proofs.Payload
import RegisterBridge.Proofs.Oversize
import RegisterBridge.Proofs.Sending
import RegisterBridge.Proofs.Frame.Codec
import RegisterBridge.Proofs.Burst.Gathering
import RegisterBridge.Proofs.Burst.Supply
import RegisterBridge.Proofs.Budget
import RegisterBridge.Proofs.Text.Digits
import RegisterBridge.Proofs.Text.Reading
import RegisterBridge.Proofs.Console.HexPayload
import RegisterBridge.Proofs.Text.Numeral
import RegisterBridge.Proofs.Text.Dump
import RegisterBridge.Proofs.Console.Errands
import RegisterBridge.Proofs.Console.Session
import RegisterBridge.Proofs.Console.Forms
