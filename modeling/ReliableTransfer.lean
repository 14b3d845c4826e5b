import ReliableTransfer.Library.Bytes
import ReliableTransfer.Library.Crc
import ReliableTransfer.Library.Serial
import ReliableTransfer.Library.Loop
import ReliableTransfer.Library.Simulation
import ReliableTransfer.Library.Operations
import ReliableTransfer.Library.Linked
import ReliableTransfer.Library.Drift
import ReliableTransfer.Library.Trace
import ReliableTransfer.Library.Reassembly
import ReliableTransfer.Packet.Basic
import ReliableTransfer.Host
import ReliableTransfer.Packet.Codec
import ReliableTransfer.Packet.Format
import ReliableTransfer.Packet.RoundTrip
import ReliableTransfer.Packet.Corruption
import ReliableTransfer.Packet.Bursts
import ReliableTransfer.Packet.Contracts
import ReliableTransfer.Queue.Basic
import ReliableTransfer.Queue.Sender
import ReliableTransfer.Queue.Receiver
import ReliableTransfer.Queue.Operations
import ReliableTransfer.Queue.Linked
import ReliableTransfer.Queue.LinkedReceiver
import ReliableTransfer.Queue.Ownership
import ReliableTransfer.Queue.Observers
import ReliableTransfer.Receiver.Basic
import ReliableTransfer.Receiver.Reference
import ReliableTransfer.Receiver.Steps
import ReliableTransfer.Receiver.Refinement
import ReliableTransfer.Receiver.Arrival
import ReliableTransfer.Receiver.Delivery
import ReliableTransfer.Receiver.Kinds
import ReliableTransfer.Receiver.Answers
import ReliableTransfer.Receiver.Closing
import ReliableTransfer.Receiver.Progress
import ReliableTransfer.Receiver.Integrity
import ReliableTransfer.Sender.Basic
import ReliableTransfer.Sender.Scan
import ReliableTransfer.Sender.Steps
import ReliableTransfer.Sender.Retransmission
import ReliableTransfer.Sender.Buffer
import ReliableTransfer.Sender.Answers
import ReliableTransfer.Sender.Timer
import ReliableTransfer.Sender.Numbering
import ReliableTransfer.Sender.Progress
import ReliableTransfer.Sender.Silence
import ReliableTransfer.Sender.Linked
import ReliableTransfer.Transfer.Basic
import ReliableTransfer.Transfer.Carried
import ReliableTransfer.Transfer.Sender
import ReliableTransfer.Transfer.History
import ReliableTransfer.Transfer.Causes
import ReliableTransfer.Transfer.Receiver
import ReliableTransfer.Transfer.Safety
import ReliableTransfer.Transfer.Agreement
import ReliableTransfer.Transfer.Recovery
import ReliableTransfer.Transfer.Fairness
import ReliableTransfer.Transfer.Reordering
import ReliableTransfer.Transfer.Truncation
