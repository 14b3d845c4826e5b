import ReliableTransfer.Host
import ReliableTransfer.Packet.Codec
import ReliableTransfer.Queue.Receiver
import ReliableTransfer.Library.Loop

/-!
# The receiver

The loop of `receiver.c`. The state holds its local variables and the clock
reading `tpGlobal`, and three traces: the datagrams which `read` has returned,
the calls of `write` on the output file, and the datagrams handed to `write` on
the socket. An acknowledgement with the mark `trFlag` is the closing one; the mark
is cleared before it is encoded. Allocation succeeds.
-/

namespace ReliableTransfer

open QueueReceiver

def maxBufferSize : BitVec 8 := 31

/-- An acknowledgement handed to `write`: as it was queued, and as it was encoded. -/
structure SentAck where
  ack : Pkt
  bytes : List Byte
  deriving DecidableEq

/-- The variables of `read_write_loop`, and what it has done so far. -/
structure Receiver where
  waitedSeqNum : BitVec 8
  finalSeqNum : BitVec 8
  lastTimeStamp : BitVec 32
  isFinalSeqNum : Bool
  pktQueue : Queue
  ackQueue : Queue
  revents : Revents
  tpGlobal : Time
  received : List (List Byte)
  writes : List Write
  sent : List SentAck
  deriving DecidableEq

inductive ReceiverExit where
  | timeout
  | closed
  deriving DecidableEq, Repr

/-- What one iteration reads. The outcome of the `n`-th call of `write` on the file is `wr n`. -/
structure ReceiverInput where
  tpNow : Time
  poll : PollResult
  ackBuf : Buffer ackSize
  data : ReadResult maxPacketSize
  readTime : Time
  wr : ℕ → WriteOutcome

namespace Receiver

def start (tpGlobal : Time) : Receiver where
  waitedSeqNum := 0
  finalSeqNum := -1
  lastTimeStamp := 0
  isFinalSeqNum := false
  pktQueue := queueInit
  ackQueue := queueInit
  revents := ⟨false, false⟩
  tpGlobal := tpGlobal
  received := []
  writes := []
  sent := []

/-- Every acknowledgement queued so far, those which have been sent first. -/
def queued (receiver : Receiver) : List Pkt :=
  receiver.sent.map SentAck.ack ++ receiver.ackQueue.nodes

/-- The bytes which have arrived in the output file. -/
def written (receiver : Receiver) : List Byte :=
  (receiver.writes.map Write.bytes).flatten

/-- The closing acknowledgement has been queued. -/
def ClosingQueued (receiver : Receiver) : Prop :=
  ∃ ack ∈ receiver.queued, ack.trFlag = 1

variable (crc32 : List Byte → BitVec 32)

/-- `ack->trFlag = 0` -/
def clearMark (ack : Pkt) : Pkt :=
  { ack with trFlag := 0 }

/-- Pop an acknowledgement, encode it and send it. -/
def sendAck (ackBuf : Buffer ackSize) (receiver : Receiver) :
    Except Fault (LoopFlow Receiver ReceiverExit) := do
  let (ack, ackQueue) ← queuePop receiver.ackQueue
  match ack with
  | none => .error .nullPointer
  | some ack =>
      let receiver := { receiver with ackQueue := ackQueue }
      let encoded ← pktEncode crc32 (some (clearMark ack)) ackBuf.val ackSize
      if encoded.status ≠ .pktOk then return .running receiver
      else if encoded.len ≠ ackSize then return .running receiver
      else
        let receiver := { receiver with
          sent := receiver.sent ++ [⟨ack, encoded.buf.take encoded.len⟩] }
        if ack.trFlag = 1 then return .returned .closed receiver
        else return .running receiver

def sendAcks (ackBuf : Buffer ackSize) :
    ℕ → Receiver → Except Fault (LoopFlow Receiver ReceiverExit)
  | fuel, receiver =>
      if receiver.revents.pollout ∧ receiver.ackQueue.size > 0 then
        match fuel with
        | 0 => .error .outOfFuel
        | fuel + 1 => do
            match ← sendAck crc32 ackBuf receiver with
            | .running receiver => sendAcks ackBuf fuel receiver
            | .returned reason receiver => return .returned reason receiver
      else .ok (.running receiver)

/-- A fresh packet with the fields of an acknowledgement; its window is `MAX_BUFFER_SIZE`. -/
def newAck (type : BitVec 2) (trFlag : BitVec 1) (seqNum : BitVec 8) (timestamp : BitVec 32) :
    Pkt :=
  { pktNew with
    type := type, trFlag := trFlag, window := 31, seqNum := seqNum, timestamp := timestamp }

/-- A new acknowledgement is pushed; the result of `queue_push` is not looked at. -/
def queueAck (receiver : Receiver) (type : BitVec 2) (trFlag : BitVec 1) (seqNum : BitVec 8)
    (timestamp : BitVec 32) : Except Fault Receiver := do
  let (_, ackQueue) ← queuePush receiver.ackQueue (some (newAck type trFlag seqNum timestamp))
  return { receiver with ackQueue := ackQueue }

/-- A packet of length 0 inside the window ends the transmission. -/
def handleEnd (receiver : Receiver) (pkt : Pkt) : Except Fault Receiver :=
  let receiver := { receiver with isFinalSeqNum := true, finalSeqNum := pkt.seqNum }
  if pkt.seqNum = receiver.waitedSeqNum then
    queueAck { receiver with waitedSeqNum := receiver.waitedSeqNum + 1 } ptypeAck 1
      (receiver.waitedSeqNum + 1) pkt.timestamp
  else queueAck receiver ptypeAck 0 receiver.waitedSeqNum pkt.timestamp

/-- The recorded end has been reached: `isFinalSeqNum == 1 && waitedSeqNum == finalSeqNum`. -/
def AtEnd (receiver : Receiver) : Prop :=
  receiver.isFinalSeqNum ∧ receiver.waitedSeqNum = receiver.finalSeqNum

instance (receiver : Receiver) : Decidable receiver.AtEnd :=
  inferInstanceAs (Decidable (_ ∧ _))

/-- The acknowledgement of a packet with a payload is the closing one at the end. -/
def queueDataAck (receiver : Receiver) : Except Fault Receiver :=
  if receiver.AtEnd then
    queueAck { receiver with waitedSeqNum := receiver.waitedSeqNum + 1 } ptypeAck 1
      (receiver.waitedSeqNum + 1) receiver.lastTimeStamp
  else queueAck receiver ptypeAck 0 receiver.waitedSeqNum receiver.lastTimeStamp

/-- `waitedSeqNum += queue_payload_write(pktQueue, fd, waitedSeqNum, &lastTimeStamp)` -/
def deliver (wr : ℕ → WriteOutcome) (receiver : Receiver) : Receiver :=
  let result := queuePayloadWrite wr receiver.pktQueue receiver.waitedSeqNum
    receiver.lastTimeStamp receiver.writes
  { receiver with
    pktQueue := result.queue
    waitedSeqNum := receiver.waitedSeqNum + result.count
    lastTimeStamp := result.lastTimeStamp
    writes := result.writes }

/-- A packet with a payload is pushed, and the consecutive packets are written to the file. -/
def handleData (wr : ℕ → WriteOutcome) (receiver : Receiver) (pkt : Pkt) :
    Except Fault Receiver := do
  let (pushed, pktQueue) ←
    queueOrderedPush receiver.pktQueue (some pkt) receiver.waitedSeqNum maxBufferSize
  let receiver := { receiver with pktQueue := pktQueue }
  queueDataAck (if pushed = 0 then receiver.deliver wr else receiver)

/-- The packet is inside the window: `distInf < realWindowSize && distSup < realWindowSize`. -/
def inWindow (receiver : Receiver) (pkt : Pkt) : Prop :=
  let distInf := pkt.seqNum - receiver.waitedSeqNum
  let distSup := (receiver.waitedSeqNum + maxBufferSize - 1) - pkt.seqNum
  distInf < maxBufferSize ∧ distSup < maxBufferSize

instance (receiver : Receiver) (pkt : Pkt) : Decidable (receiver.inWindow pkt) :=
  inferInstanceAs (Decidable (_ ∧ _))

/-- What the loop does with a decoded packet. Its type is not looked at. -/
def handlePacket (wr : ℕ → WriteOutcome) (receiver : Receiver) (pkt : Pkt) :
    Except Fault Receiver :=
  if pkt.trFlag = 1 then queueAck receiver ptypeNack 0 pkt.seqNum pkt.timestamp
  else if receiver.inWindow pkt then
    if pkt.length = 0 then receiver.handleEnd pkt
    else receiver.handleData wr pkt
  else queueAck receiver ptypeAck 0 receiver.waitedSeqNum pkt.timestamp

/-- What the loop does with the result of decoding: an invalid datagram is only acknowledged. -/
def handleDecoded (wr : ℕ → WriteOutcome) (receiver : Receiver) :
    Except PktStatusCode Pkt → Except Fault Receiver
  | .error _ => queueAck receiver ptypeAck 0 receiver.waitedSeqNum 0
  | .ok pkt => receiver.handlePacket wr pkt

def handleDatagram (wr : ℕ → WriteOutcome) (receiver : Receiver) (data : List Byte) :
    Except Fault Receiver :=
  receiver.handleDecoded wr (pktDecode crc32 true data pktNew)

/-- The part of the loop under `if(pfds[0].revents&POLLIN)`. -/
def readPacket (input : ReceiverInput) (receiver : Receiver) : Except Fault Receiver :=
  let receiver := { receiver with tpGlobal := input.readTime }
  match input.data with
  | .failed => .ok receiver
  | .bytes [] _ => .ok receiver
  | .bytes data _ =>
      handleDatagram crc32 input.wr { receiver with received := receiver.received ++ [data] } data

/-- The body of the loop of `read_write_loop`. -/
def readWriteLoop (input : ReceiverInput) (receiver : Receiver) :
    Except Fault (LoopFlow Receiver ReceiverExit) :=
  if timedOut input.tpNow receiver.tpGlobal then .ok (.returned .timeout receiver)
  else do
    let receiver := { receiver with revents := receiver.revents.after input.poll }
    match ← sendAcks crc32 input.ackBuf receiver.ackQueue.size.toNat receiver with
    | .returned reason receiver => return .returned reason receiver
    | .running receiver =>
        if receiver.revents.pollin then return .running (← readPacket crc32 input receiver)
        else return .running receiver

def byteExample (seqNum : BitVec 8) : Pkt :=
  { pktNew with type := ptypeData, seqNum := seqNum, length := 1, payload := some [seqNum] }

def endExample (seqNum : BitVec 8) : Pkt :=
  { pktNew with type := ptypeData, seqNum := seqNum }

end Receiver

end ReliableTransfer
