import ReliableTransfer.Host
import ReliableTransfer.Packet.Codec
import ReliableTransfer.Queue.Sender
import ReliableTransfer.Library.Loop

/-!
# The sender

The loop of `sender.c`, with `create_packet`. The state holds the local and the
static variables of the loop, and the trace of the datagrams handed to `write`.
The buffer `buf_ack` is not cleared between two iterations, and always decoded
as a whole. Allocation succeeds in the loop.
-/

namespace ReliableTransfer

open QueueSender

/-- What one pass of the loop over the buffered packets reads. -/
structure ScanInput where
  timeNow : Time
  poll : PollResult
  stamp : Time
  buf : Buffer maxPacketSize

/-- What one iteration reads. The blocks from `malloc` come with any contents. -/
structure SenderInput where
  tpNow : Time
  poll : PollResult
  newPayload : ReadResult maxPayloadSize
  payloadBuf : Buffer maxPayloadSize
  buf : Buffer maxPacketSize
  sendTime : Time
  stampTime : Time
  scan : ℕ → ScanInput
  ackRead : ReadResult ackSize
  ackTime : Time
  rttTime : Time

/-- The variables of `read_write_loop`, and what it has sent so far. -/
structure Sender where
  sizeBuffer : ℕ
  timer : BitVec 32
  seqNum : BitVec 8
  tpGlobal : Time
  firstAck : Bool
  isLastAckNum : Bool
  bufAck : Buffer ackSize
  bufStructure : Queue
  sent : List (List Byte)
  deriving DecidableEq

inductive SenderExit where
  | timeout
  | pollError
  | lastAck
  deriving DecidableEq, Repr

/--
`create_packet`: the packet, if it could be initialized, and the next sequence
number. The flags say whether the two blocks can be allocated.
-/
def createPacket (mallocTime mallocPayload : Bool) (payload : List Byte) (pkt : Pkt) (len : ℤ)
    (seqNum : BitVec 8) (timePkt : Time) : Except Fault (Option Pkt × BitVec 8) :=
  let pkt := (pktSetType pkt ptypeData.toNat).2
  let pkt := (pktSetTr pkt 0).2
  if mallocTime = false then .ok (none, seqNum)
  else
    let pkt := (pktSetTimestamp pkt (timePkt.setWidth 32)).2
    if (pktSetWindow pkt 31).1 ≠ .pktOk then .ok (none, seqNum)
    else
      let pkt := (pktSetWindow pkt 31).2
      let pkt := (pktSetSeqnum pkt seqNum).2
      let seqNum := seqNum + 1
      if (pktSetLength pkt (BitVec.ofInt 16 len)).1 ≠ .pktOk then .ok (none, seqNum)
      else do
        let pkt := (pktSetLength pkt (BitVec.ofInt 16 len)).2
        let (code, pkt) ← pktSetPayload mallocPayload pkt payload pkt.length
        if code ≠ .pktOk then return (none, seqNum)
        else return (some pkt, seqNum)

namespace Sender

/-- The state in which the loop is entered. Nothing has been read into `buf_ack`. -/
def start (tpGlobal : Time) (bufAck : Buffer ackSize) : Sender where
  sizeBuffer := 1
  timer := 3
  seqNum := 0
  tpGlobal := tpGlobal
  firstAck := true
  isLastAckNum := false
  bufAck := bufAck
  bufStructure := queueInit
  sent := []

variable (crc32 : List Byte → BitVec 32)

/-- The end of the input has been read: the empty packet is sent and buffered. -/
def sendEnd (input : SenderInput) (sender : Sender) : Except Fault Sender := do
  let pkt := (pktSetType pktNew ptypeData.toNat).2
  let pkt := (pktSetSeqnum pkt sender.seqNum).2
  let pkt := (pktSetTimestamp pkt (input.stampTime.setWidth 32)).2
  let encoded ← pktEncode crc32 (some pkt) input.buf.val maxPacketSize
  let (_, bufStructure) ← queuePush sender.bufStructure encoded.pkt
  return { sender with
    tpGlobal := input.sendTime
    seqNum := sender.seqNum + 1
    isLastAckNum := true
    bufStructure := bufStructure
    sent := sender.sent ++ [encoded.buf.take encoded.len] }

/--
A new packet is sent and buffered. When `read` has failed there is no packet;
the block which was to hold its encoding is sent as it is.
-/
def sendData (input : SenderInput) (sender : Sender) : Except Fault Sender := do
  let newPayload := input.payloadBuf.readInto input.newPayload
  let (pkt, seqNum) ← createPacket true true newPayload.val pktNew input.newPayload.count
    sender.seqNum input.stampTime
  let encoded ← pktEncode crc32 pkt input.buf.val maxPacketSize
  let (_, bufStructure) ← queuePush sender.bufStructure encoded.pkt
  return { sender with
    tpGlobal := input.sendTime
    seqNum := seqNum
    bufStructure := bufStructure
    sent := sender.sent ++ [encoded.buf.take encoded.len] }

/-- The retransmission timer of a packet is out, or a `NACK` has set its timestamp to 0. -/
def due (sender : Sender) (timeNow : Time) (pkt : Pkt) : Bool :=
  sender.timer.slt (timeNow.setWidth 32 - pkt.timestamp) || pkt.timestamp = 0

/--
The loop over the buffered packets, from the node `run` on: the first one which
is due is sent again. Its `count`-th pass reads `scan count`.
-/
def resendLoop (scan : ℕ → ScanInput) (headSeqNum : BitVec 8) :
    ℕ → ℕ → List Pkt → List Pkt → Revents → Sender →
      Except Fault (LoopFlow (Revents × Sender) SenderExit)
  | _, _, _, [], revents, sender => .ok (.running (revents, sender))
  | 0, _, _, _ :: _, _, _ => .error .outOfFuel
  | fuel + 1, count, before, run :: rest, revents, sender =>
      if (run.seqNum - headSeqNum).toNat ≥ sender.sizeBuffer then .ok (.running (revents, sender))
      else if sender.due (scan count).timeNow run then
        match (scan count).poll with
        | .failed => .ok (.returned .pollError (revents, sender))
        | .ready revents =>
            if revents.pollout then do
              let stamped := (pktSetTimestamp run ((scan count).stamp.setWidth 32)).2
              let encoded ← pktEncode crc32 (some stamped) (scan count).buf.val maxPacketSize
              let run := encoded.pkt.getD stamped
              let sender := { sender with
                bufStructure := ⟨before ++ run :: rest, sender.bufStructure.size⟩ }
              if encoded.status ≠ .pktOk then
                resendLoop scan headSeqNum fuel (count + 1) before (run :: rest) revents sender
              else return .running (revents,
                { sender with sent := sender.sent ++ [encoded.buf.take encoded.len] })
            else resendLoop scan headSeqNum fuel (count + 1) (before ++ [run]) rest revents sender
      else resendLoop scan headSeqNum fuel (count + 1) (before ++ [run]) rest revents sender

def resend (scan : ℕ → ScanInput) (revents : Revents) (sender : Sender) :
    Except Fault (LoopFlow (Revents × Sender) SenderExit) :=
  match sender.bufStructure.nodes with
  | [] => .ok (.running (revents, sender))
  | head :: rest =>
      resendLoop crc32 scan head.seqNum (rest.length + 1) 0 [] (head :: rest) revents sender

/-- The window test on the first buffered packet, and the deletion of the acknowledged ones. -/
def deleteAcked (sender : Sender) (seqnumDelete : BitVec 8) : Except Fault Sender :=
  match sender.bufStructure.nodes with
  | [] => .error .headOfEmptyBuffer
  | head :: _ =>
      let distInf := seqnumDelete - head.seqNum
      let distSup := (head.seqNum + BitVec.ofNat 8 sender.sizeBuffer - 1) - seqnumDelete
      if sender.bufStructure.size ≠ 0 ∧ distInf.toNat < sender.sizeBuffer ∧
          distSup.toNat < sender.sizeBuffer then do
        let (_, bufStructure) ← queueDelete sender.bufStructure seqnumDelete
        return { sender with bufStructure := bufStructure }
      else .ok sender

/-- What the loop does with an `ACK`. The first one sets the retransmission timer. -/
def handleAck (rttTime : Time) (sender : Sender) (pktAck : Pkt) : Except Fault Sender :=
  let sender := { sender with sizeBuffer := pktAck.window.toNat }
  if sender.firstAck then
    match queueFindAckStructure sender.bufStructure (pktAck.seqNum - 1) with
    | none => .ok sender
    | some timePkt =>
        deleteAcked { sender with
          timer := 2 * (rttTime.setWidth 32 - timePkt.timestamp)
          firstAck := false } (pktAck.seqNum - 1)
  else deleteAcked sender (pktAck.seqNum - 1)

def handleNack (sender : Sender) (pktNack : Pkt) : Sender :=
  { sender with
    bufStructure := (queueFindNackStructure sender.bufStructure pktNack.seqNum).2 }

/-- What the loop does with a decoded packet. -/
def handleAnswer (rttTime : Time) (sender : Sender) (pktAck : Pkt) :
    Except Fault (LoopFlow Sender SenderExit) :=
  if sender.isLastAckNum ∧ pktAck.seqNum = sender.seqNum then .ok (.returned .lastAck sender)
  else if pktAck.type = ptypeAck then do
    return .running (← sender.handleAck rttTime pktAck)
  else if pktAck.type = ptypeNack then .ok (.running (sender.handleNack pktAck))
  else .ok (.running sender)

/-- The part of the loop under `if(pfds[0].revents & POLLIN)`. -/
def readAck (input : SenderInput) (sender : Sender) : Except Fault (LoopFlow Sender SenderExit) :=
  let sender := { sender with
    tpGlobal := input.ackTime
    bufAck := sender.bufAck.readInto input.ackRead }
  match pktDecode crc32 true sender.bufAck.val pktNew with
  | .error _ => .ok (.running sender)
  | .ok pktAck => sender.handleAnswer input.rttTime pktAck

def resendAndReadAck (input : SenderInput) (revents : Revents) (sender : Sender) :
    Except Fault (LoopFlow Sender SenderExit) := do
  match ← resend crc32 input.scan revents sender with
  | .returned reason (_, sender) => return .returned reason sender
  | .running (revents, sender) =>
      if revents.pollin then readAck crc32 input sender
      else return .running sender

/-- The body of the loop of `read_write_loop`. -/
def readWriteLoop (input : SenderInput) (sender : Sender) :
    Except Fault (LoopFlow Sender SenderExit) :=
  if timedOut input.tpNow sender.tpGlobal then .ok (.returned .timeout sender)
  else
    match input.poll with
    | .failed => .ok (.returned .pollError sender)
    | .ready revents =>
        if revents.pollout then
          if sender.bufStructure.size < sender.sizeBuffer ∧ sender.isLastAckNum = false then
            if input.newPayload.count = 0 then do
              return .running (← sendEnd crc32 input sender)
            else do
              resendAndReadAck crc32 input revents (← sendData crc32 input sender)
          else resendAndReadAck crc32 input revents sender
        else if revents.pollin then readAck crc32 input sender
        else .ok (.running sender)

/-- An iteration in which the socket is writable and these bytes are read from the input. -/
def sendExample (newPayload : ReadResult maxPayloadSize) : SenderInput where
  tpNow := 0
  poll := .ready ⟨false, true⟩
  newPayload := newPayload
  payloadBuf := .zeros _
  buf := .zeros _
  sendTime := 0
  stampTime := 0
  scan _ := ⟨0, .ready ⟨false, true⟩, 0, .zeros _⟩
  ackRead := .failed
  ackTime := 0
  rttTime := 0

/-- One byte is read from the input. -/
def byteExample (byte : Byte) : ReadResult maxPayloadSize :=
  .bytes [byte] (Nat.le_of_ble_eq_true rfl)

/-- An iteration in which the socket is readable and yields these bytes. -/
def ackExample (ackRead : ReadResult ackSize) : SenderInput :=
  { sendExample .failed with poll := .ready ⟨true, false⟩, ackRead := ackRead }

end Sender

end ReliableTransfer
