import ReliableTransfer.Library.Simulation
import ReliableTransfer.Queue.Ownership
import ReliableTransfer.Sender.Timer

/-!
# The sender's loop in memory

The loop of `sender.c` on the linked queue: the packets are in nodes of a heap, the
scan for retransmissions follows the pointers and writes into the nodes, and the
queue is freed where the loop returns. Other accesses to the heap are faults, and so
is freeing a node twice. The heap is that of the nodes, and allocation succeeds:
the memory of the packets, of their payloads and of the decoded answers is not
modelled.

This loop does the same as the one whose buffer is a list, in every run: it sends
the same datagrams, makes the same decisions and returns for the same reasons. The
only fault is the one which is known from there, to read the head of an empty
buffer; here it is the null pointer. When the loop returns, no node is left of
those which it has allocated.
-/

open Linked

namespace ReliableTransfer

/-- What one iteration reads, and the block which `malloc` returns for a node. -/
structure LinkedInput (Addr : Type) where
  reads : SenderInput
  block : Addr × Node Addr Pkt

/-- The variables of `read_write_loop`, with the queue in memory. -/
structure LinkedSender (Addr : Type) where
  sizeBuffer : ℕ
  timer : BitVec 32
  seqNum : BitVec 8
  tpGlobal : Time
  firstAck : Bool
  isLastAckNum : Bool
  bufAck : Buffer ackSize
  bufStructure : LinkedQueue Addr
  sent : List (List Byte)

namespace LinkedSender

open LinkedQueue

variable {Addr : Type}

/-- The state in which the loop is entered, in a heap which may hold other nodes. -/
def start (heap : Heap Addr Pkt) (tpGlobal : Time) (bufAck : Buffer ackSize) :
    LinkedSender Addr where
  sizeBuffer := 1
  timer := 3
  seqNum := 0
  tpGlobal := tpGlobal
  firstAck := true
  isLastAckNum := false
  bufAck := bufAck
  bufStructure := LinkedQueue.queueInit heap
  sent := []

def due (sender : LinkedSender Addr) (timeNow : Time) (pkt : Pkt) : Bool :=
  sender.timer.slt (timeNow.setWidth 32 - pkt.timestamp) || pkt.timestamp = 0

variable [DecidableEq Addr] (crc32 : List Byte → BitVec 32)

/-- `queue_free(buf_structure)`, before the loop returns. -/
def freeBuffer (sender : LinkedSender Addr) : Except Fault (LinkedSender Addr) := do
  let heap ← queueFree sender.bufStructure
  return { sender with bufStructure := { sender.bufStructure with heap := heap } }

def sendEnd (input : LinkedInput Addr) (sender : LinkedSender Addr) :
    Except Fault (LinkedSender Addr) := do
  let pkt := (pktSetType pktNew ptypeData.toNat).2
  let pkt := (pktSetSeqnum pkt sender.seqNum).2
  let pkt := (pktSetTimestamp pkt (input.reads.stampTime.setWidth 32)).2
  let encoded ← pktEncode crc32 (some pkt) input.reads.buf.val maxPacketSize
  let (_, bufStructure) ← queuePush (some input.block) sender.bufStructure encoded.pkt
  return { sender with
    tpGlobal := input.reads.sendTime
    seqNum := sender.seqNum + 1
    isLastAckNum := true
    bufStructure := bufStructure
    sent := sender.sent ++ [encoded.buf.take encoded.len] }

def sendData (input : LinkedInput Addr) (sender : LinkedSender Addr) :
    Except Fault (LinkedSender Addr) := do
  let newPayload := input.reads.payloadBuf.readInto input.reads.newPayload
  let (pkt, seqNum) ← createPacket true true newPayload.val pktNew input.reads.newPayload.count
    sender.seqNum input.reads.stampTime
  let encoded ← pktEncode crc32 pkt input.reads.buf.val maxPacketSize
  let (_, bufStructure) ← queuePush (some input.block) sender.bufStructure encoded.pkt
  return { sender with
    tpGlobal := input.reads.sendTime
    seqNum := seqNum
    bufStructure := bufStructure
    sent := sender.sent ++ [encoded.buf.take encoded.len] }

/-- The loop over the buffered packets, from the pointer `run` on. -/
def resendLoop (scan : ℕ → ScanInput) : ℕ → ℕ → Option Addr → Revents → LinkedSender Addr →
    Except Fault (LoopFlow (Revents × LinkedSender Addr) SenderExit)
  | _, _, none, revents, sender => .ok (.running (revents, sender))
  | 0, _, some _, _, _ => .error .outOfFuel
  | fuel + 1, count, some run, revents, sender => do
      let node ← load sender.bufStructure.heap (some run)
      let head ← load sender.bufStructure.heap sender.bufStructure.head
      if (node.value.seqNum - head.value.seqNum).toNat ≥ sender.sizeBuffer then
        return .running (revents, sender)
      else if sender.due (scan count).timeNow node.value then
        match (scan count).poll with
        | .failed => return .returned .pollError (revents, ← sender.freeBuffer)
        | .ready revents =>
            if revents.pollout then
              let stamped := (pktSetTimestamp node.value ((scan count).stamp.setWidth 32)).2
              let encoded ← pktEncode crc32 (some stamped) (scan count).buf.val maxPacketSize
              let heap ← assign sender.bufStructure.heap (some run) fun node =>
                { node with value := encoded.pkt.getD stamped }
              let sender := { sender with
                bufStructure := { sender.bufStructure with heap := heap } }
              if encoded.status ≠ .pktOk then
                resendLoop scan fuel (count + 1) (some run) revents sender
              else return .running (revents,
                { sender with sent := sender.sent ++ [encoded.buf.take encoded.len] })
            else resendLoop scan fuel (count + 1) node.next revents sender
      else resendLoop scan fuel (count + 1) node.next revents sender

def resend (scan : ℕ → ScanInput) (revents : Revents) (sender : LinkedSender Addr) :
    Except Fault (LoopFlow (Revents × LinkedSender Addr) SenderExit) :=
  resendLoop crc32 scan sender.bufStructure.size.toNat 0 sender.bufStructure.head revents sender

/-- The number of the first packet is read through the head, also if there is none. -/
def deleteAcked (sender : LinkedSender Addr) (seqnumDelete : BitVec 8) :
    Except Fault (LinkedSender Addr) := do
  let head ← load sender.bufStructure.heap sender.bufStructure.head
  let distInf := seqnumDelete - head.value.seqNum
  let distSup := (head.value.seqNum + BitVec.ofNat 8 sender.sizeBuffer - 1) - seqnumDelete
  if sender.bufStructure.size ≠ 0 ∧ distInf.toNat < sender.sizeBuffer ∧
      distSup.toNat < sender.sizeBuffer then
    let (_, bufStructure) ← queueDelete sender.bufStructure seqnumDelete
    return { sender with bufStructure := bufStructure }
  else return sender

def handleAck (rttTime : Time) (sender : LinkedSender Addr) (pktAck : Pkt) :
    Except Fault (LinkedSender Addr) := do
  let sender := { sender with sizeBuffer := pktAck.window.toNat }
  if sender.firstAck then
    match ← queueFindAckStructure sender.bufStructure (pktAck.seqNum - 1) with
    | none => return sender
    | some timePkt =>
        deleteAcked { sender with
          timer := 2 * (rttTime.setWidth 32 - timePkt.timestamp)
          firstAck := false } (pktAck.seqNum - 1)
  else deleteAcked sender (pktAck.seqNum - 1)

def handleNack (sender : LinkedSender Addr) (pktNack : Pkt) :
    Except Fault (LinkedSender Addr) := do
  let (_, bufStructure) ← queueFindNackStructure sender.bufStructure pktNack.seqNum
  return { sender with bufStructure := bufStructure }

def handleAnswer (rttTime : Time) (sender : LinkedSender Addr) (pktAck : Pkt) :
    Except Fault (LoopFlow (LinkedSender Addr) SenderExit) := do
  if sender.isLastAckNum ∧ pktAck.seqNum = sender.seqNum then
    return .returned .lastAck (← sender.freeBuffer)
  else if pktAck.type = ptypeAck then return .running (← sender.handleAck rttTime pktAck)
  else if pktAck.type = ptypeNack then return .running (← sender.handleNack pktAck)
  else return .running sender

def readAck (input : LinkedInput Addr) (sender : LinkedSender Addr) :
    Except Fault (LoopFlow (LinkedSender Addr) SenderExit) :=
  let sender := { sender with
    tpGlobal := input.reads.ackTime
    bufAck := sender.bufAck.readInto input.reads.ackRead }
  match pktDecode crc32 true sender.bufAck.val pktNew with
  | .error _ => .ok (.running sender)
  | .ok pktAck => sender.handleAnswer input.reads.rttTime pktAck

def resendAndReadAck (input : LinkedInput Addr) (revents : Revents) (sender : LinkedSender Addr) :
    Except Fault (LoopFlow (LinkedSender Addr) SenderExit) := do
  match ← resend crc32 input.reads.scan revents sender with
  | .returned reason (_, sender) => return .returned reason sender
  | .running (revents, sender) =>
      if revents.pollin then readAck crc32 input sender
      else return .running sender

/-- The body of the loop of `read_write_loop`. -/
def readWriteLoop (input : LinkedInput Addr) (sender : LinkedSender Addr) :
    Except Fault (LoopFlow (LinkedSender Addr) SenderExit) := do
  if timedOut input.reads.tpNow sender.tpGlobal then
    return .returned .timeout (← sender.freeBuffer)
  else
    match input.reads.poll with
    | .failed => return .returned .pollError (← sender.freeBuffer)
    | .ready revents =>
        if revents.pollout then
          if sender.bufStructure.size < sender.sizeBuffer ∧ sender.isLastAckNum = false then
            if input.reads.newPayload.count = 0 then
              return .running (← sendEnd crc32 input sender)
            else resendAndReadAck crc32 input revents (← sendData crc32 input sender)
          else resendAndReadAck crc32 input revents sender
        else if revents.pollin then readAck crc32 input sender
        else return .running sender

omit [DecidableEq Addr] in
/-- The variables of the loop, with a list as its buffer. -/
def spelled (sender : LinkedSender Addr) (nodes : List Pkt) : Sender where
  sizeBuffer := sender.sizeBuffer
  timer := sender.timer
  seqNum := sender.seqNum
  tpGlobal := sender.tpGlobal
  firstAck := sender.firstAck
  isLastAckNum := sender.isLastAckNum
  bufAck := sender.bufAck
  bufStructure := .ofNodes nodes
  sent := sender.sent

/-- The nodes of the queue hold the list. Nothing else has been allocated since `base`. -/
def Spells (base : Heap Addr Pkt) (linked : LinkedSender Addr) (sender : Sender) : Prop :=
  ∃ cells, linked.bufStructure.Owns base cells ∧ sender = linked.spelled (values cells)

/-- The same has been done, and all the nodes have been freed. -/
def Freed (base : Heap Addr Pkt) (linked : LinkedSender Addr) (sender : Sender) : Prop :=
  linked.bufStructure.heap = base ∧ ∃ nodes, sender = linked.spelled nodes

/-- The head of an empty buffer is the null pointer. -/
inductive SameFault : Fault → Fault → Prop where
  | head : SameFault .nullPointer .headOfEmptyBuffer

/-- The scan gives the same flags, and the same state. -/
def WithFlags (related : LinkedSender Addr → Sender → Prop) (linked : Revents × LinkedSender Addr)
    (sender : Revents × Sender) : Prop :=
  linked.1 = sender.1 ∧ related linked.2 sender.2

variable {base : Heap Addr Pkt} {linked : LinkedSender Addr} {cells front back : List (Addr × Pkt)}

theorem freeBuffer_freed (owns : linked.bufStructure.Owns base cells) :
    ∃ freed, linked.freeBuffer = .ok freed ∧ Freed base freed (linked.spelled (values cells)) := by
  refine ⟨{ linked with bufStructure := { linked.bufStructure with heap := base } }, ?_, rfl,
    values cells, rfl⟩
  simp only [freeBuffer, queueFree_eq owns, bind, Except.bind, pure, Except.pure]

theorem returned_alike (owns : linked.bufStructure.Owns base cells) (reason : SenderExit) :
    Alike (Loop.SameFlow (Spells base) (Freed base)) SameFault
      (linked.freeBuffer.bind fun freed => .ok (.returned reason freed))
      (.ok (.returned reason (linked.spelled (values cells)))) := by
  rcases freeBuffer_freed owns with ⟨freed, frees, same⟩
  rw [frees]
  exact .ok (.returned reason same)

variable {crc32}

variable (crc32) in
/-- A packet which can be encoded is pushed as it is encoded. -/
theorem push_spells {input : LinkedInput Addr} (owns : linked.bufStructure.Owns base cells)
    (unused : linked.bufStructure.heap input.block.1 = none) {pkt : Pkt}
    (sendable : Sender.Sendable pkt) :
    ∃ encoded queue, pktEncode crc32 (some pkt) input.reads.buf.val maxPacketSize = .ok encoded ∧
      queuePush (some input.block) linked.bufStructure encoded.pkt = .ok (0, queue) ∧
      ∀ isEnd, Spells base
        { linked with
          tpGlobal := input.reads.sendTime
          seqNum := linked.seqNum + 1
          isLastAckNum := isEnd
          bufStructure := queue
          sent := linked.sent ++ [encoded.buf.take encoded.len] }
        ((linked.spelled (values cells)).afterSend crc32 pkt isEnd input.reads.sendTime) := by
  rcases Sender.pktEncode_sendable crc32 sendable input.reads.buf with
    ⟨encoded, encodes, _, buffered, bytes⟩
  rcases queuePush_owns owns input.block.2 (pkt.withCrcs crc32) unused with ⟨queue, pushed, kept⟩
  refine ⟨encoded, queue, encodes, buffered ▸ pushed, fun isEnd => ⟨_, kept, ?_⟩⟩
  rw [bytes, values_append]
  rfl

theorem sendEnd_alike {input : LinkedInput Addr} (owns : linked.bufStructure.Owns base cells)
    (unused : linked.bufStructure.heap input.block.1 = none) :
    Alike (Spells base) SameFault (sendEnd crc32 input linked)
      (Sender.sendEnd crc32 input.reads (linked.spelled (values cells))) := by
  have consistent : (linked.spelled (values cells)).bufStructure.Consistent :=
    Queue.consistent_ofNodes _
  have fresh : (pktSetTimestamp (pktSetSeqnum (pktSetType pktNew ptypeData.toNat).2
      linked.seqNum).2 (input.reads.stampTime.setWidth 32)).2 =
        Sender.endPkt linked.seqNum input.reads.stampTime := rfl
  rcases push_spells crc32 owns unused
    (Sender.sendable_endPkt linked.seqNum input.reads.stampTime) with
    ⟨encoded, queue, encodes, pushed, spells⟩
  rw [Sender.sendEnd_eq crc32 consistent]
  simp only [sendEnd, fresh, encodes, pushed, bind, Except.bind, pure, Except.pure]
  exact .ok (spells true)

theorem sendData_alike {input : LinkedInput Addr} (owns : linked.bufStructure.Owns base cells)
    (unused : linked.bufStructure.heap input.block.1 = none)
    (notEnd : linked.isLastAckNum = false) :
    Alike (Spells base) SameFault (sendData crc32 input linked)
      (Sender.sendData crc32 input.reads (linked.spelled (values cells))) := by
  have consistent : (linked.spelled (values cells)).bufStructure.Consistent :=
    Queue.consistent_ofNodes _
  cases read : input.reads.newPayload with
  | failed =>
      have block : input.reads.buf.val.take maxPacketSize = input.reads.buf.val :=
        List.take_of_length_le input.reads.buf.property.le
      rw [Sender.sendData_failed crc32 read]
      simp only [sendData, read, ReadResult.count, Sender.createPacket_failed, pktEncode, queuePush,
        block, bind, Except.bind, pure, Except.pure]
      exact .ok ⟨cells, owns, rfl⟩
  | bytes data fits =>
      have count : input.reads.newPayload.count = data.length := by rw [read, ReadResult.count]
      have block : (input.reads.payloadBuf.readInto input.reads.newPayload).val =
          data ++ input.reads.payloadBuf.val.drop data.length := by rw [read, Buffer.readInto]
      rcases push_spells crc32 owns unused
        (Sender.sendable_dataPkt fits linked.seqNum input.reads.stampTime) with
        ⟨encoded, queue, encodes, pushed, spells⟩
      rw [Sender.sendData_eq crc32 consistent read notEnd]
      simp only [sendData, count, block, Sender.createPacket_eq fits, encodes, pushed, bind,
        Except.bind, pure, Except.pure]
      rw [notEnd]
      exact .ok (spells false)

omit [DecidableEq Addr] in
/-- The node at which the scan is, and the one behind it. -/
theorem load_cell {cell : Addr × Pkt}
    (owns : linked.bufStructure.Owns base (front ++ cell :: back)) :
    load linked.bufStructure.heap (some cell.1) = .ok ⟨cell.2, (addresses back).head?⟩ := by
  rcases owns.holds.linked.split with ⟨_, _, rfl, next, held, behind⟩
  rw [load_allocated held, behind.start_eq]

omit [DecidableEq Addr] in
theorem load_head {head : Addr × Pkt} (owns : linked.bufStructure.Owns base (head :: back)) :
    load linked.bufStructure.heap linked.bufStructure.head =
      .ok ⟨head.2, (addresses back).head?⟩ := by
  have pointer : linked.bufStructure.head = some head.1 := owns.holds.linked.1
  rw [pointer]
  exact @load_cell _ base linked [] back head owns

/-- A packet is replaced in its node. -/
theorem assign_owns {cell : Addr × Pkt}
    (owns : linked.bufStructure.Owns base (front ++ cell :: back)) (pkt : Pkt) :
    ∃ heap, assign linked.bufStructure.heap (some cell.1) (fun node => { node with value := pkt }) =
        .ok heap ∧
      Owns base { linked.bufStructure with heap := heap } (front ++ (cell.1, pkt) :: back) := by
  have size := owns.holds.size
  have last := owns.holds.last
  have linkedCells := owns.holds.linked
  rcases linkedCells.split with ⟨_, _, rfl, next, held, behind⟩
  have places : addresses (front ++ (cell.1, pkt) :: back) = addresses (front ++ cell :: back) := by
    simp
  refine ⟨_, assign_allocated _ held, ⟨linkedCells.replace held, ?_, ?_⟩, ?_⟩
  · simpa using size
  · rw [places]
    exact last
  · apply owns.frame.congr places
    intro addr absent
    apply Function.update_of_ne
    rintro rfl
    simp at absent

variable (crc32) in
/-- A packet is sent again, and replaced in its node. -/
theorem again_spells {cell : Addr × Pkt}
    (owns : linked.bufStructure.Owns base (front ++ cell :: back))
    (sound : (linked.spelled (values (front ++ cell :: back))).Sound) (stamp : Time)
    (buf : Buffer maxPacketSize) :
    ∃ encoded heap, pktEncode crc32 (some { cell.2 with timestamp := stamp.setWidth 32 }) buf.val
        maxPacketSize = .ok encoded ∧ encoded.status = .pktOk ∧
      assign linked.bufStructure.heap (some cell.1) (fun node => { node with
        value := encoded.pkt.getD { cell.2 with timestamp := stamp.setWidth 32 } }) = .ok heap ∧
      Spells base
        { linked with
          bufStructure := { linked.bufStructure with heap := heap }
          sent := linked.sent ++ [encoded.buf.take encoded.len] }
        ((linked.spelled (values (front ++ cell :: back))).resendAt crc32 front.length stamp) := by
  have place : (linked.spelled (values (front ++ cell :: back))).bufStructure.nodes =
      values front ++ cell.2 :: values back := values_append ..
  have sendable : Sender.Sendable { cell.2 with timestamp := stamp.setWidth 32 } := by
    have before := sound.sendable cell.2 (by rw [place]; simp)
    exact ⟨before.holds, before.short⟩
  rcases Sender.pktEncode_sendable crc32 sendable buf with
    ⟨encoded, encodes, status, buffered, bytes⟩
  rcases assign_owns owns (Sender.restamp crc32 cell.2 stamp) with ⟨heap, assigned, kept⟩
  have resent := Sender.resendAt_append crc32 stamp place
  rw [length_values] at resent
  have replaced : values (front ++ (cell.1, Sender.restamp crc32 cell.2 stamp) :: back) =
      values front ++ Sender.restamp crc32 cell.2 stamp :: values back := values_append ..
  refine ⟨encoded, heap, encodes, status, ?_, _, kept, ?_⟩
  · rw [buffered]
    exact assigned
  · rw [resent, bytes, replaced]
    rfl

/-- The pointers are followed in the order of the list. -/
theorem resendLoop_alike {scan : ℕ → ScanInput} {fuel : ℕ} {revents : Revents}
    (owns : linked.bufStructure.Owns base (front ++ back))
    (sound : (linked.spelled (values (front ++ back))).Sound) {head : Addr × Pkt}
    (isHead : (front ++ back).head? = some head) (enough : back.length ≤ fuel) :
    Alike (Loop.SameFlow (WithFlags (Spells base)) (WithFlags (Freed base))) SameFault
      (resendLoop crc32 scan fuel front.length (addresses back).head? revents linked)
      (.ok ((linked.spelled (values (front ++ back))).afterScan crc32 scan
        (Sender.scanFrom scan head.2.seqNum (linked.spelled (values (front ++ back)))
          front.length (values back) revents))) := by
  induction back generalizing front fuel revents with
  | nil =>
      rw [addresses_nil, List.head?_nil, resendLoop, values_nil, Sender.scanFrom, Sender.afterScan]
      exact .ok (.running ⟨rfl, _, owns, rfl⟩)
  | cons cell rest ih =>
      cases fuel with
      | zero => simp at enough
      | succ fuel =>
          have next (revents : Revents) := @ih (front ++ [cell]) fuel revents (by simpa using owns)
            (by simpa using sound) (by simpa using isHead) (by simpa using enough)
          rcases List.head?_eq_some_iff.mp isHead with ⟨others, cells⟩
          have headLoaded := load_head (cells ▸ owns)
          rw [addresses_cons, List.head?_cons, resendLoop, load_cell owns, headLoaded, values_cons,
            Sender.scanFrom]
          simp only [bind, Except.bind]
          by_cases far : linked.sizeBuffer ≤ Serial.dist head.2.seqNum cell.2.seqNum
          · rw [if_pos (show (cell.2.seqNum - head.2.seqNum).toNat ≥ linked.sizeBuffer from far),
              if_pos (show (linked.spelled _).sizeBuffer ≤ _ from far), Sender.afterScan]
            exact .ok (.running ⟨rfl, _, owns, rfl⟩)
          rw [if_neg (show ¬(cell.2.seqNum - head.2.seqNum).toNat ≥ linked.sizeBuffer from far),
            if_neg (show ¬(linked.spelled _).sizeBuffer ≤ _ from far)]
          by_cases isDue : linked.due (scan front.length).timeNow cell.2 = true
          · rw [if_pos isDue, if_pos (show (linked.spelled _).due _ _ = true from isDue)]
            cases (scan front.length).poll with
            | failed =>
                rcases freeBuffer_freed owns with ⟨freed, frees, same⟩
                simp only [frees]
                exact .ok (.returned _ ⟨rfl, same⟩)
            | ready polled =>
                by_cases pollout : polled.pollout = true
                · rcases again_spells crc32 owns sound (scan front.length).stamp
                    (scan front.length).buf with
                    ⟨encoded, heap, encodes, status, assigned, spells⟩
                  simp only [if_pos pollout, pktSetTimestamp, encodes, assigned, status,
                    Sender.afterScan]
                  exact .ok (.running ⟨rfl, spells⟩)
                · simp only [if_neg pollout]
                  simpa using next polled
          · rw [if_neg isDue, if_neg (show ¬(linked.spelled _).due _ _ = true from isDue)]
            simpa using next revents

theorem resend_alike (owns : linked.bufStructure.Owns base cells)
    (sound : (linked.spelled (values cells)).Sound) (scan : ℕ → ScanInput) (revents : Revents) :
    Alike (Loop.SameFlow (WithFlags (Spells base)) (WithFlags (Freed base))) SameFault
      (resend crc32 scan revents linked)
      (Sender.resend crc32 scan revents (linked.spelled (values cells))) := by
  have start := owns.holds.linked.start_eq
  have enough : cells.length ≤ linked.bufStructure.size.toNat := by
    rw [owns.holds.size]
    simp
  rw [Sender.resend_eq crc32 sound, resend, start]
  cases cells with
  | nil =>
      rw [addresses_nil, List.head?_nil, resendLoop]
      exact .ok (.running ⟨rfl, _, owns, rfl⟩)
  | cons head rest =>
      have isHead : head.2 ∈ (linked.spelled (values (head :: rest))).bufStructure.nodes.head? :=
        rfl
      rw [Sender.scanned_of_head isHead]
      exact @resendLoop_alike _ _ crc32 base linked [] (head :: rest) scan _ revents owns sound
        head rfl enough

theorem queueDelete_owns (owns : linked.bufStructure.Owns base cells) (seqNum : BitVec 8) :
    ∃ count next rest, queueDelete linked.bufStructure seqNum = .ok (count, next) ∧
      next.Owns base rest ∧ values rest = QueueSender.remaining seqNum (values cells) := by
  by_cases empty : cells = []
  · subst empty
    refine ⟨0, linked.bufStructure, [], ?_, owns, rfl⟩
    rw [queueDelete, if_pos (owns.holds.size_eq_zero_iff.mpr rfl)]
  · have enough : cells.length ≤ linked.bufStructure.size.toNat := by
      rw [owns.holds.size]
      simp
    rcases deleteLoop_holds seqNum owns.holds enough 0 with ⟨next, rest, looped, kept, spelled⟩
    rcases deleteLoop_owns owns looped with ⟨others, owned⟩
    have same : others = rest := owned.holds.linked.unique kept.linked
    subst same
    refine ⟨0 + QueueSender.deleted seqNum (values cells), next, others, ?_, owned, spelled⟩
    rw [queueDelete, if_neg (mt owns.holds.size_eq_zero_iff.mp empty)]
    exact looped

theorem findNack_owns (owns : linked.bufStructure.Owns base cells) (seqNum : BitVec 8) :
    ∃ found next marked, queueFindNackStructure linked.bufStructure seqNum = .ok (found, next) ∧
      next.Owns base marked ∧ values marked = QueueSender.markNodes seqNum (values cells) := by
  have enough : cells.length ≤ linked.bufStructure.size.toNat := by
    rw [owns.holds.size]
    simp
  rcases findNackLoop_holds seqNum owns.holds.linked enough with
    ⟨heap, marked, looped, chain, places, spelled, same⟩
  have size : marked.length = cells.length := by
    rw [← length_values, spelled, QueueSender.length_markNodes, length_values]
  refine ⟨(values marked).find? fun pkt => pkt.seqNum = seqNum,
    { linked.bufStructure with heap := heap }, marked, ?_, ⟨⟨chain, ?_, ?_⟩,
    owns.frame.congr places same⟩, spelled⟩
  · rw [queueFindNackStructure, looped]
    rfl
  · rw [size]
    exact owns.holds.size
  · rw [places]
    exact owns.holds.last

theorem deleteAcked_alike (owns : linked.bufStructure.Owns base cells)
    (seqnumDelete : BitVec 8) :
    Alike (Spells base) SameFault (linked.deleteAcked seqnumDelete)
      ((linked.spelled (values cells)).deleteAcked seqnumDelete) := by
  cases cells with
  | nil =>
      have noHead : linked.bufStructure.head = none := owns.holds.linked
      rw [deleteAcked, noHead]
      exact .error .head
  | cons head rest =>
      have size : linked.bufStructure.size = (values (head :: rest)).length := by
        rw [owns.holds.size, length_values]
      rcases queueDelete_owns owns seqnumDelete with ⟨count, next, left, deleted, kept, same⟩
      rcases QueueSender.queueDelete_ofNodes seqnumDelete (values (head :: rest)) with
        ⟨number, deleted'⟩
      rw [deleteAcked, load_head owns, size]
      refine .ite (fun inside => ?_) fun outside => .ok ⟨head :: rest, owns, rfl⟩
      simp only [deleted]
      rw [show (linked.spelled _).bufStructure = .ofNodes (values (head :: rest)) from rfl,
        deleted']
      exact .ok ⟨left, kept, by rw [same]; rfl⟩

theorem handleAck_alike (owns : linked.bufStructure.Owns base cells) (rttTime : Time)
    (pktAck : Pkt) :
    Alike (Spells base) SameFault (linked.handleAck rttTime pktAck)
      ((linked.spelled (values cells)).handleAck rttTime pktAck) := by
  have enough : cells.length ≤ linked.bufStructure.size.toNat := by
    rw [owns.holds.size]
    simp
  have finds : queueFindAckStructure linked.bufStructure (pktAck.seqNum - 1) =
      .ok (QueueSender.queueFindAckStructure (.ofNodes (values cells)) (pktAck.seqNum - 1)) :=
    findAckLoop_eq _ owns.holds.linked enough
  refine .ite (fun first => ?_) fun later => @deleteAcked_alike _ _ base
    { linked with sizeBuffer := pktAck.window.toNat } cells owns _
  simp only [finds, bind, Except.bind, spelled]
  cases QueueSender.queueFindAckStructure (.ofNodes (values cells)) (pktAck.seqNum - 1) with
  | none => exact .ok ⟨cells, owns, rfl⟩
  | some timePkt =>
      exact @deleteAcked_alike _ _ base { linked with
        sizeBuffer := pktAck.window.toNat
        timer := 2 * (rttTime.setWidth 32 - timePkt.timestamp)
        firstAck := false } cells owns _

theorem handleNack_spells (owns : linked.bufStructure.Owns base cells) (pktNack : Pkt) :
    ∃ next, linked.handleNack pktNack = .ok next ∧
      Spells base next ((linked.spelled (values cells)).handleNack pktNack) := by
  rcases findNack_owns owns pktNack.seqNum with ⟨found, next, marked, finds, kept, same⟩
  refine ⟨{ linked with bufStructure := next }, ?_, marked, kept, ?_⟩
  · simp only [handleNack, finds, bind, Except.bind, pure, Except.pure]
  · simp [Sender.handleNack, QueueSender.queueFindNackStructure, spelled, Queue.ofNodes, same,
      QueueSender.length_markNodes]

theorem handleAnswer_alike (owns : linked.bufStructure.Owns base cells) (rttTime : Time)
    (pktAck : Pkt) :
    Alike (Loop.SameFlow (Spells base) (Freed base)) SameFault
      (linked.handleAnswer rttTime pktAck)
      ((linked.spelled (values cells)).handleAnswer rttTime pktAck) := by
  refine .ite (fun ends => returned_alike owns .lastAck) fun goesOn => .ite (fun ack => ?_)
    fun notAck => .ite (fun nack => ?_) fun other => .ok (.running ⟨cells, owns, rfl⟩)
  · exact (handleAck_alike owns rttTime pktAck).bind fun same => .ok (.running same)
  · rcases handleNack_spells owns pktAck with ⟨next, marked, same⟩
    rw [marked]
    exact .ok (.running same)

theorem readAck_alike {input : LinkedInput Addr} (owns : linked.bufStructure.Owns base cells) :
    Alike (Loop.SameFlow (Spells base) (Freed base)) SameFault (readAck crc32 input linked)
      (Sender.readAck crc32 input.reads (linked.spelled (values cells))) := by
  have later := @handleAnswer_alike _ _ base { linked with
    tpGlobal := input.reads.ackTime
    bufAck := linked.bufAck.readInto input.reads.ackRead } cells owns input.reads.rttTime
  simp only [readAck, Sender.readAck, spelled]
  cases pktDecode crc32 true (linked.bufAck.readInto input.reads.ackRead).val pktNew with
  | error status => exact .ok (.running ⟨cells, owns, rfl⟩)
  | ok pktAck => exact later pktAck

theorem resendAndReadAck_alike {input : LinkedInput Addr}
    (owns : linked.bufStructure.Owns base cells)
    (sound : (linked.spelled (values cells)).Sound) (revents : Revents) :
    Alike (Loop.SameFlow (Spells base) (Freed base)) SameFault
      (resendAndReadAck crc32 input revents linked)
      (Sender.resendAndReadAck crc32 input.reads revents (linked.spelled (values cells))) := by
  refine (resend_alike owns sound input.reads.scan revents).bind fun same => ?_
  cases same with
  | returned reason same => exact .ok (.returned reason same.2)
  | @running scanned scanned' same =>
      rcases scanned with ⟨flags, linked⟩
      rcases scanned' with ⟨flags', sender⟩
      rcases same with ⟨rfl, cells, owns, rfl⟩
      exact .ite (fun pollin => readAck_alike owns) fun quiet =>
        .ok (.running ⟨cells, owns, rfl⟩)

/-- `malloc` returns an address which is not in use. -/
def BlockUnused (input : LinkedInput Addr) (sender : LinkedSender Addr) : Prop :=
  sender.bufStructure.heap input.block.1 = none

instance (input : LinkedInput Addr) (sender : LinkedSender Addr) :
    Decidable (sender.BlockUnused input) :=
  inferInstanceAs (Decidable (_ = none))

theorem readWriteLoop_alike {input : LinkedInput Addr}
    (owns : linked.bufStructure.Owns base cells)
    (sound : (linked.spelled (values cells)).Sound) (unused : linked.BlockUnused input) :
    Alike (Loop.SameFlow (Spells base) (Freed base)) SameFault
      (readWriteLoop crc32 input linked)
      (Sender.readWriteLoop crc32 input.reads (linked.spelled (values cells))) := by
  have size : linked.bufStructure.size = (values cells).length := by
    rw [owns.holds.size, length_values]
  rw [readWriteLoop, size]
  refine .ite (fun late => returned_alike owns .timeout) fun inTime => ?_
  simp only [spelled]
  cases input.reads.poll with
  | failed => exact returned_alike owns .pollError
  | ready revents =>
      refine .ite (fun pollout => .ite (fun room => .ite (fun endOfInput => ?_) fun moreInput => ?_)
        fun full => resendAndReadAck_alike owns sound revents)
        fun notWritable => .ite (fun pollin => readAck_alike owns) fun quiet =>
          .ok (.running ⟨cells, owns, rfl⟩)
      · exact (sendEnd_alike owns unused).bind fun same => .ok (.running same)
      · have soundAfter : ∀ middle, Sender.sendData crc32 input.reads
            (linked.spelled (values cells)) = .ok middle → middle.Sound := by
          intro middle sends
          rcases Sender.send_sending crc32 sound room input.reads with ⟨other, same, sending⟩
          rw [Sender.send, if_neg moreInput, sends] at same
          cases same
          exact sending.sound sound
        refine ((sendData_alike owns unused room.2).and_right soundAfter).bind fun same => ?_
        rcases same with ⟨⟨others, owned, rfl⟩, sound⟩
        exact resendAndReadAck_alike owned sound revents

/-- The same state, of which the invariant of the buffer is known. -/
def SpellsSound (base : Heap Addr Pkt) (linked : LinkedSender Addr) (sender : Sender) : Prop :=
  Spells base linked sender ∧ sender.Sound

theorem readWriteLoop_keeps {input : LinkedInput Addr} {sender : Sender}
    (spells : SpellsSound base linked sender) (unused : linked.BlockUnused input) :
    Alike (Loop.SameFlow (SpellsSound base) (Freed base)) SameFault
      (readWriteLoop crc32 input linked) (Sender.readWriteLoop crc32 input.reads sender) := by
  rcases spells with ⟨⟨cells, owns, rfl⟩, sound⟩
  have alike := (readWriteLoop_alike owns sound unused).and_right
    fun flow moved => @Sender.sound_of_moved crc32 _ _ _ sound moved
  exact alike.mono fun both => both.1.and_right both.2

/-- Every run in memory does the same as the run on a list, and frees the nodes it allocates. -/
theorem run_refines (crc32 : List Byte → BitVec 32) (heap : Heap Addr Pkt) (tpGlobal : Time)
    (bufAck : Buffer ackSize) (inputs : List (LinkedInput Addr))
    (unused : Loop.Along (readWriteLoop crc32) (fun input sender => sender.BlockUnused input) inputs
      (start heap tpGlobal bufAck)) :
    Alike (Loop.SameFlow (Spells heap) (Freed heap)) SameFault
      (Loop.run (readWriteLoop crc32) inputs (start heap tpGlobal bufAck))
      (Loop.run (Sender.readWriteLoop crc32) (inputs.map LinkedInput.reads)
        (Sender.start tpGlobal bufAck)) := by
  have initial : SpellsSound heap (start heap tpGlobal bufAck) (Sender.start tpGlobal bufAck) :=
    ⟨⟨[], ⟨⟨rfl, rfl, fun addr final => by cases final⟩, ⟨nofun, fun _ _ => rfl⟩⟩, rfl⟩,
      (Sender.settled_start tpGlobal bufAck).sound⟩
  have step {input : LinkedInput Addr} {linked : LinkedSender Addr} {sender : Sender}
      (spells : SpellsSound heap linked sender) (unused : linked.BlockUnused input) :=
    @readWriteLoop_keeps _ _ crc32 _ _ _ _ spells unused
  exact (Loop.run_alike step initial unused).mono fun same => same.mono And.left

/-- A packet is sent in the node 1, and acknowledged; two more follow, the first in the node 1. -/
def sendingExample : List (LinkedInput ℕ) :=
  [⟨Sender.clockedExample 1540000000 (Sender.sendExample (Sender.byteExample 7)),
      1, ⟨pktNew, some 7⟩⟩,
    ⟨Sender.ackedInput, 3, ⟨pktNew, none⟩⟩,
    ⟨Sender.clockedExample 1540000001 (Sender.sendExample (Sender.byteExample 8)),
      1, ⟨pktNew, some 1⟩⟩,
    ⟨Sender.clockedExample 1540000010 (Sender.sendExample (Sender.byteExample 9)),
      2, ⟨pktNew, none⟩⟩]

/-- Nothing is heard any more. -/
def lateExample : LinkedInput ℕ :=
  ⟨Sender.clockedExample 1540000040 (Sender.sendExample .failed), 3, ⟨pktNew, none⟩⟩

def afterExample (sender : LinkedSender ℕ) (input : LinkedInput ℕ) : LinkedSender ℕ :=
  match readWriteLoop Crc.zlib input sender with
  | .ok flow => flow.state
  | .error _ => sender

theorem eq_afterExample {sender next : LinkedSender ℕ} {input : LinkedInput ℕ}
    (moved : readWriteLoop Crc.zlib input sender = .ok (.running next)) :
    next = afterExample sender input := by
  rw [afterExample, moved]
  rfl

theorem unused_sendingExample :
    Loop.Along (readWriteLoop Crc.zlib) (fun input sender => sender.BlockUnused input)
      (sendingExample ++ [lateExample]) (start (fun _ => none) 1540000000 (.zeros _)) := by
  refine ⟨rfl, ?_⟩
  intro first moved
  rw [eq_afterExample moved]
  refine ⟨by decide +kernel, ?_⟩
  intro second moved
  rw [eq_afterExample moved]
  refine ⟨by decide +kernel, ?_⟩
  intro third moved
  rw [eq_afterExample moved]
  refine ⟨by decide +kernel, ?_⟩
  intro fourth moved
  rw [eq_afterExample moved]
  exact ⟨by decide +kernel, fun _ _ => trivial⟩

/-- The loop on a list ends by timeout, while two packets are buffered. -/
theorem run_lateExample :
    Loop.run (Sender.readWriteLoop Crc.zlib)
        ((sendingExample ++ [lateExample]).map LinkedInput.reads)
        (Sender.start 1540000000 (.zeros _)) =
      .ok (.returned .timeout (Sender.clockedRunExample (sendingExample.map LinkedInput.reads))) ∧
    (Sender.clockedRunExample (sendingExample.map LinkedInput.reads)).bufStructure.size = 2 := by
  decide +kernel

/-- The run in memory has no fault, ends in the same way, and frees the nodes 1 and 2. -/
theorem run_refines_example :
    ∃ final, Loop.run (readWriteLoop Crc.zlib) (sendingExample ++ [lateExample])
        (start (fun _ => none) 1540000000 (.zeros _)) = .ok (.returned .timeout final) ∧
      final.sent = (Sender.clockedRunExample (sendingExample.map LinkedInput.reads)).sent ∧
      final.bufStructure.heap = fun _ => none := by
  have alike := run_refines Crc.zlib (fun _ => none) 1540000000 (.zeros _)
    (sendingExample ++ [lateExample]) unused_sendingExample
  rw [run_lateExample.1] at alike
  generalize Loop.run (readWriteLoop Crc.zlib) (sendingExample ++ [lateExample])
    (start (fun _ => none) 1540000000 (.zeros _)) = ran at alike
  cases alike with
  | ok same =>
      cases same with
      | returned _ freed =>
          rcases freed with ⟨heap, nodes, spelled⟩
          exact ⟨_, rfl, (congrArg Sender.sent spelled).symm, heap⟩

end LinkedSender

end ReliableTransfer
