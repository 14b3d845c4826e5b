import ReliableTransfer.Receiver.Basic
import ReliableTransfer.Sender.Basic
import ReliableTransfer.Packet.RoundTrip
import ReliableTransfer.Library.Serial
import Mathlib.Logic.Relation

/-!
# A transfer between the two programs

The sender, the receiver, and the network between them. A step is one iteration
of one of the two loops, and the two take steps in any order. Whatever has been
sent may arrive at any time, any number of times or never, unless it is too old.
The network may also truncate a data packet to its header, and corrupt a
datagram, which then does not decode.

Positions are not part of the programs. The counters `next` and `waited` follow
the sequence numbers of the two parties beyond 255, and each datagram is recorded
with the position for which it was sent.
-/

namespace ReliableTransfer

/-- The sender's input: what the calls of `read` yield before the end of the file. -/
structure InputFile where
  chunks : List (List Byte)
  nonempty : ∀ chunk ∈ chunks, chunk ≠ []
  short : ∀ chunk ∈ chunks, chunk.length ≤ maxPayloadSize

namespace InputFile

def last (file : InputFile) : ℕ :=
  file.chunks.length

/-- The payload of the packet at a position; the end packet has none. -/
def chunk (file : InputFile) (position : ℕ) : List Byte :=
  file.chunks.getD position []

theorem chunk_of_lt {file : InputFile} {position : ℕ} (inside : position < file.last) :
    file.chunk position = file.chunks[position] := by
  rw [chunk, List.getD_eq_getElem _ _ inside]

theorem chunk_of_le {file : InputFile} {position : ℕ} (beyond : file.last ≤ position) :
    file.chunk position = [] := by
  rw [chunk, List.getD_eq_default _ _ beyond]

theorem chunk_eq_nil_iff (file : InputFile) (position : ℕ) :
    file.chunk position = [] ↔ file.last ≤ position := by
  constructor
  · intro empty
    by_contra inside
    rw [chunk_of_lt (Nat.lt_of_not_le inside)] at empty
    exact file.nonempty _ (List.getElem_mem _) empty
  · exact chunk_of_le

theorem length_chunk_le (file : InputFile) (position : ℕ) :
    (file.chunk position).length ≤ maxPayloadSize := by
  rcases Nat.lt_or_ge position file.last with inside | beyond
  · rw [chunk_of_lt inside]
    exact file.short _ (List.getElem_mem _)
  · rw [chunk_of_le beyond]
    exact Nat.zero_le _

/-- What `read` returns for a position. -/
def read (file : InputFile) (position : ℕ) : ReadResult maxPayloadSize :=
  .bytes (file.chunk position) (file.length_chunk_le position)

end InputFile

/--
Both parties, the positions which they have come to, the datagrams which the sender
has sent with their positions, and the positions of the acknowledgements which
the receiver has queued.
-/
structure Transfer where
  sender : LoopFlow Sender SenderExit
  receiver : LoopFlow Receiver ReceiverExit
  next : ℕ
  waited : ℕ
  data : List (ℕ × List Byte)
  acks : List ℕ

namespace Transfer

def start (tpSender tpReceiver : Time) (bufAck : Buffer ackSize) : Transfer where
  sender := .running (Sender.start tpSender bufAck)
  receiver := .running (Receiver.start tpReceiver)
  next := 0
  waited := 0
  data := []
  acks := []

variable (transfer : Transfer)

/-- The oldest position which the sender still holds. -/
def oldest : ℕ :=
  transfer.next - transfer.sender.state.bufStructure.nodes.length

/-- The position of a datagram which the sender sends, by the number in its second byte. -/
def position (data : List Byte) : ℕ :=
  Serial.lift transfer.oldest (Serial.wire 8 transfer.oldest) (data.getD 1 0)

def afterSender (flow : LoopFlow Sender SenderExit) : Transfer :=
  { transfer with
    sender := flow
    next := Serial.lift transfer.next transfer.sender.state.seqNum flow.state.seqNum
    data := transfer.data ++ (flow.state.sent.drop transfer.sender.state.sent.length).map
      fun data => (transfer.position data, data) }

/-- The receiver has moved. A `NACK` is for the position of the packet which has arrived. -/
def afterReceiver (flow : LoopFlow Receiver ReceiverExit) (position : ℕ) : Transfer :=
  let waited :=
    Serial.lift transfer.waited transfer.receiver.state.waitedSeqNum flow.state.waitedSeqNum
  { transfer with
    receiver := flow
    waited := waited
    acks := transfer.acks ++
      (flow.state.queued.drop transfer.receiver.state.queued.length).map
        fun ack => if ack.type = ptypeNack then position else waited }

variable (crc32 : List Byte → BitVec 32)

/-- What the receiver may read from the socket, with the position it stands for. -/
inductive DataArrival : ReadResult maxPacketSize → ℕ → Prop where
  | nothing (data : ReadResult maxPacketSize) (position : ℕ) (nothing : data.count ≤ 0) :
      DataArrival data position
  | corrupted (data : List Byte) (fits : data.length ≤ maxPacketSize) (position : ℕ)
      (code : PktStatusCode) (rejected : pktDecode crc32 true data pktNew = .error code) :
      DataArrival (.bytes data fits) position
  | copy (data : List Byte) (fits : data.length ≤ maxPacketSize) (position : ℕ)
      (sent : (position, data) ∈ transfer.data) (fresh : transfer.waited ≤ position + 225) :
      DataArrival (.bytes data fits) position
  | truncated (data : List Byte) (fits : (truncate data).length ≤ maxPacketSize) (position : ℕ)
      (sent : (position, data) ∈ transfer.data) : DataArrival (.bytes (truncate data) fits) position

/-- What the sender may read from the socket. -/
inductive AckArrival : ReadResult ackSize → Prop where
  | nothing (data : ReadResult ackSize) (nothing : data.count ≤ 0) : AckArrival data
  | corrupted (data : ReadResult ackSize) (code : PktStatusCode)
      (rejected : pktDecode crc32 true (transfer.sender.state.bufAck.readInto data).val pktNew =
        .error code) : AckArrival data
  | copy (index : ℕ) (ack : SentAck) (position : ℕ) (fits : ack.bytes.length ≤ ackSize)
      (sent : transfer.receiver.state.sent[index]? = some ack)
      (numbered : transfer.acks[index]? = some position)
      (fresh : transfer.oldest ≤ position + 224) : AckArrival (.bytes ack.bytes fits)

/-- One iteration of one of the parties. All writes to the output file are complete. -/
inductive Step (file : InputFile) : Transfer → Transfer → Prop where
  | sender (transfer : Transfer) (sender : Sender) (input : SenderInput)
      (flow : LoopFlow Sender SenderExit) (running : transfer.sender = .running sender)
      (reads : input.newPayload = file.read transfer.next)
      (arrival : transfer.AckArrival crc32 input.ackRead)
      (moves : sender.readWriteLoop crc32 input = .ok flow) :
      Step file transfer (transfer.afterSender flow)
  | receiver (transfer : Transfer) (receiver : Receiver) (input : ReceiverInput) (position : ℕ)
      (flow : LoopFlow Receiver ReceiverExit) (running : transfer.receiver = .running receiver)
      (arrival : transfer.DataArrival crc32 input.data position)
      (moves : receiver.readWriteLoop crc32 input = .ok flow)
      (complete : ∀ write ∈ flow.state.writes, write.Complete) :
      Step file transfer (transfer.afterReceiver flow position)

/-- A run leads here. The buffer `buf_ack` does not hold a packet before the first one is read. -/
def Reachable (file : InputFile) (transfer : Transfer) : Prop :=
  ∃ tpSender tpReceiver bufAck code, pktDecode crc32 true bufAck.val pktNew = .error code ∧
    Relation.ReflTransGen (Step crc32 file) (start tpSender tpReceiver bufAck) transfer

end Transfer

end ReliableTransfer
