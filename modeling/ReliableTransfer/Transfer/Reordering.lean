import ReliableTransfer.Transfer.Agreement
import ReliableTransfer.Sender.Progress
import ReliableTransfer.Packet.Bursts
import ReliableTransfer.Library.Drift

/-!
# A network which reorders and damages

The other modules assume that no datagram arrives which is too old for its 8-bit number,
and that the decoder rejects what the network has damaged. Here both are proved of a network
which is bound by what it does. A datagram does not arrive any more once another one has arrived
which has been sent more than `lag` datagrams later; and it is damaged by bursts. The
network may still lose, repeat and truncate datagrams, and bring others which do not decode.

The position which is sent rises by at most 1 with each data packet, and the position which is
waited for by at most 31 with each acknowledgement. Hence datagrams which are not far from each
other in the order of sending are for positions not far from each other, and neither
party can be far ahead of what it has read. If the two bounds on the reordering are small enough
for the numbers of 8 bits, every run is one of those of which the other modules speak.
-/

namespace ReliableTransfer

namespace Receiver

variable {crc32 : List Byte → BitVec 32} {file : InputFile} {next waited position : ℕ}
  {before after : Receiver}

theorem Moved.mono {later further : ℕ}
    (moved : Moved crc32 file next waited position before after later) (nextLe : next ≤ further) :
    Moved crc32 file further waited position before after later where
  waits := moved.waits.mono nextLe
  ahead := moved.ahead
  acks := by
    rcases moved.acks with ⟨new, queued, isAcks⟩
    exact ⟨new, queued, fun ack present => (isAcks ack present).mono le_rfl nextLe⟩

/-- The receiver does not wait for another packet unless it queues an acknowledgement. -/
theorem Iteration.waitedSeqNum_of_silent {input : ReceiverInput}
    {flow : LoopFlow Receiver ReceiverExit} (iteration : Iteration crc32 input before flow)
    (silent : flow.state.queued = before.queued) :
    flow.state.waitedSeqNum = before.waitedSeqNum := by
  cases iteration with
  | idle _ _ same => exact same.waitedSeqNum
  | read data fits middle after inputData nonempty sound same received handled =>
      rcases handleDecoded_answered sound input.wr (pktDecode crc32 true data pktNew) with
        ⟨_, again, answered⟩
      have handles := handled
      rw [handleDatagram, again] at handles
      cases handles
      rcases answered.queued with ⟨ack, queued⟩
      rw [LoopFlow.state_running, queued, same.queued] at silent
      exact absurd silent (by simp)

end Receiver

namespace Sender

variable {crc32 : List Byte → BitVec 32} {input : SenderInput} {before : Sender}

/-- No number is used unless something is sent. -/
theorem Sending.sent_or_same {after : Sender} (sending : Sending crc32 input before after) :
    after.seqNum = before.seqNum ∨ before.sent.length < after.sent.length := by
  cases sending with
  | nothing => exact .inl rfl
  | ended => exact .inr (by simp [afterSend])
  | data => exact .inr (by simp [afterSend])
  | failed => exact .inr (by simp [afterFailedRead])

theorem Resending.sent_or_same {after : Sender} (resending : Resending crc32 before after) :
    after.seqNum = before.seqNum ∧ before.sent.length ≤ after.sent.length := by
  cases resending with
  | nothing => exact ⟨rfl, le_rfl⟩
  | again => exact ⟨rfl, by simp [afterResend]⟩

theorem Iteration.seqNum_of_silent {flow : LoopFlow Sender SenderExit}
    (iteration : Iteration crc32 input before (.ok flow))
    (silent : flow.state.sent = before.sent) : flow.state.seqNum = before.seqNum := by
  have unsent {middle last : Sender} (sending : Sending crc32 input before middle)
      (resending : Resending crc32 middle last) (same : last.sent = before.sent) :
      last.seqNum = before.seqNum := by
    rcases resending.sent_or_same with ⟨kept, longer⟩
    rw [same] at longer
    rcases sending.sent_or_same with unused | sent
    · exact kept.trans unused
    · omega
  cases iteration with
  | stopped reason middle early sending => exact unsent sending .nothing silent
  | quiet middle last sending resending => exact unsent sending resending silent
  | rejects middle last sending resending =>
      have same : last.sent = before.sent := silent
      have unused := unsent sending resending same
      exact unused
  | answers middle last sending resending pktAck decodes result answering =>
      rcases answering.same with ⟨seqNum, sent⟩
      have same : last.sent = before.sent := sent.symm.trans silent
      have unused := unsent sending resending same
      exact seqNum.trans unused

end Sender

/-- What may become of a data packet on its way. -/
inductive Transmits (sent : List Byte) : List Byte → Prop where
  | damaged (data : List Byte) (damaged : Damaged sent data) : Transmits sent data
  | truncated : Transmits sent (truncate sent)

/-- A data packet arrives as it has been sent, or truncated, or so that it is rejected. -/
theorem IsCopy.transmits {file : InputFile} {position : ℕ} {sent data : List Byte}
    (copy : IsCopy Crc.zlib file position sent) (transmits : Transmits sent data) :
    data = sent ∨ data = truncate sent ∨
      ∃ code, pktDecode Crc.zlib true data pktNew = .error code := by
  cases transmits with
  | truncated => exact .inr (.inl rfl)
  | damaged _ damaged =>
      rcases copy with ⟨pkt, carries, rfl⟩
      cases decodes : pktDecode Crc.zlib true data pktNew with
      | error code => exact .inr (.inr ⟨code, rfl⟩)
      | ok decoded =>
          rcases (pktDecode_damagedBytes_iff carries.wellFormed damaged).mp ⟨decoded, decodes⟩ with
            same | ⟨_, empty, flipped⟩
          · exact .inl same
          · rw [truncate_of_empty Crc.zlib carries.trFlag empty] at flipped
            exact .inr (.inl flipped)

/-- An acknowledgement arrives as it has been sent, or so that it is rejected. -/
theorem AckFor.transmits {waited next position : ℕ} {ack : Pkt} {data : List Byte}
    (isAck : AckFor waited next position ack)
    (damaged : Damaged (Receiver.ackBytes Crc.zlib ack) data) :
    data = Receiver.ackBytes Crc.zlib ack ∨
      ∃ code, pktDecode Crc.zlib true data pktNew = .error code := by
  have notData : (Receiver.clearMark ack).WellFormed ∧
      (Receiver.clearMark ack).type ≠ ptypeData := by
    cases isAck with
    | ack =>
        refine ⟨⟨ptypeAck_ne_zero, rfl, Nat.zero_le _, rfl⟩, ?_⟩
        change ptypeAck ≠ ptypeData
        decide
    | nack =>
        refine ⟨⟨ptypeNack_ne_zero, rfl, Nat.zero_le _, rfl⟩, ?_⟩
        change ptypeNack ≠ ptypeData
        decide
  cases decodes : pktDecode Crc.zlib true data pktNew with
  | error code => exact .inr ⟨code, rfl⟩
  | ok decoded =>
      rcases (pktDecode_damagedBytes_iff notData.1 damaged).mp ⟨decoded, decodes⟩ with
        same | ⟨type, _⟩
      · exact .inl same
      · exact absurd type notData.2

/--
A transfer with, for each direction, the number of datagrams up to the last one which has
arrived, in the order in which they have been sent.
-/
structure Watched where
  transfer : Transfer
  dataSeen : ℕ
  acksSeen : ℕ

namespace Watched

def start (tpSender tpReceiver : Time) (bufAck : Buffer ackSize) : Watched where
  transfer := .start tpSender tpReceiver bufAck
  dataSeen := 0
  acksSeen := 0

section Network

variable (lag : ℕ) (watched : Watched)

/--
What the receiver may read, with the position it stands for, and the number of data
packets up to the last one which has arrived then. What does not decode stands for no
position; it is recorded with the one which is waited for.
-/
inductive DataComes : ReadResult maxPacketSize → ℕ → ℕ → Prop where
  | nothing (data : ReadResult maxPacketSize) (nothing : data.count ≤ 0) :
      DataComes data watched.transfer.waited watched.dataSeen
  | corrupted (data : List Byte) (fits : data.length ≤ maxPacketSize) (code : PktStatusCode)
      (rejected : pktDecode Crc.zlib true data pktNew = .error code) :
      DataComes (.bytes data fits) watched.transfer.waited watched.dataSeen
  | arrives (index position : ℕ) (sent data : List Byte) (fits : data.length ≤ maxPacketSize)
      (found : watched.transfer.data[index]? = some (position, sent))
      (transmits : Transmits sent data) (close : watched.dataSeen ≤ index + 1 + lag) :
      DataComes (.bytes data fits) position (max watched.dataSeen (index + 1))

/-- What the sender may read, and the number of acknowledgements up to the last one then. -/
inductive AckComes : ReadResult ackSize → ℕ → Prop where
  | nothing (data : ReadResult ackSize) (nothing : data.count ≤ 0) :
      AckComes data watched.acksSeen
  | corrupted (data : ReadResult ackSize) (code : PktStatusCode)
      (rejected : pktDecode Crc.zlib true
        (watched.transfer.sender.state.bufAck.readInto data).val pktNew = .error code) :
      AckComes data watched.acksSeen
  | arrives (index : ℕ) (ack : SentAck) (position : ℕ) (data : List Byte)
      (fits : data.length ≤ ackSize)
      (found : watched.transfer.receiver.state.sent[index]? = some ack)
      (numbered : watched.transfer.acks[index]? = some position)
      (damaged : Damaged ack.bytes data) (close : watched.acksSeen ≤ index + 1 + lag) :
      AckComes (.bytes data fits) (max watched.acksSeen (index + 1))

end Network

/-- One iteration of one of the parties, if the network reorders by at most so many datagrams. -/
inductive Step (dataLag ackLag : ℕ) (file : InputFile) : Watched → Watched → Prop where
  | sender (watched : Watched) (sender : Sender) (input : SenderInput) (acksSeen : ℕ)
      (flow : LoopFlow Sender SenderExit) (running : watched.transfer.sender = .running sender)
      (reads : input.newPayload = file.read watched.transfer.next)
      (comes : watched.AckComes ackLag input.ackRead acksSeen)
      (moves : sender.readWriteLoop Crc.zlib input = .ok flow) :
      Step dataLag ackLag file watched
        ⟨watched.transfer.afterSender flow, watched.dataSeen, acksSeen⟩
  | receiver (watched : Watched) (receiver : Receiver) (input : ReceiverInput)
      (position dataSeen : ℕ) (flow : LoopFlow Receiver ReceiverExit)
      (running : watched.transfer.receiver = .running receiver)
      (comes : watched.DataComes dataLag input.data position dataSeen)
      (moves : receiver.readWriteLoop Crc.zlib input = .ok flow)
      (complete : ∀ write ∈ flow.state.writes, write.Complete) :
      Step dataLag ackLag file watched
        ⟨watched.transfer.afterReceiver flow position, dataSeen, watched.acksSeen⟩

/-- A run of the two parties over such a network leads here. -/
def Reachable (dataLag ackLag : ℕ) (file : InputFile) (watched : Watched) : Prop :=
  ∃ tpSender tpReceiver bufAck code, pktDecode Crc.zlib true bufAck.val pktNew = .error code ∧
    Relation.ReflTransGen (Step dataLag ackLag file) (start tpSender tpReceiver bufAck) watched

/-- The positions behind those of the data packets which have been sent. -/
def ends (watched : Watched) : List ℕ :=
  watched.transfer.data.map fun entry => entry.1 + 1

/--
What the two parties have read of each other. The receiver is in a state which is possible if
only the positions below `heard` have been sent, and the sender in one which is possible if the
receiver waits for `learned`.
-/
structure Tracks (dataLag : ℕ) (file : InputFile) (watched : Watched) : Prop where
  data : Drifts 1 31 0 watched.transfer.next watched.ends
  acks : Drifts 31 (32 + dataLag) 30 watched.transfer.waited watched.transfer.acks
  heard : ∃ heard, heard ≤ watched.transfer.next ∧
    Receiver.Waits Crc.zlib file heard watched.transfer.waited watched.transfer.receiver.state ∧
    Known watched.ends watched.dataSeen heard
  learned : ∃ learned, learned ≤ watched.transfer.next ∧ watched.transfer.oldest ≤ learned ∧
    Sender.Readable Crc.zlib watched.transfer.oldest learned watched.transfer.next
      watched.transfer.sender.state.bufAck ∧
    Known watched.transfer.acks watched.acksSeen learned

variable {file : InputFile} {watched : Watched} {dataLag ackLag : ℕ}

theorem tracks_start (dataLag : ℕ) (file : InputFile) (tpSender tpReceiver : Time)
    {bufAck : Buffer ackSize} {code : PktStatusCode}
    (unread : pktDecode Crc.zlib true bufAck.val pktNew = .error code) :
    (start tpSender tpReceiver bufAck).Tracks dataLag file where
  data := .nil
  acks := .nil
  heard := ⟨0, le_rfl, Receiver.waits_start file 0 tpReceiver, .inl rfl⟩
  learned := ⟨0, le_rfl, le_rfl, .inl ⟨code, unread⟩, .inl rfl⟩

namespace Tracks

theorem ends_at (watched : Watched) {index position : ℕ} {data : List Byte}
    (sent : watched.transfer.data[index]? = some (position, data)) :
    watched.ends[index]? = some (position + 1) := by
  rw [ends, List.getElem?_map, sent]
  rfl

/-- The receiver after a copy has arrived, and how far it may be ahead of that. -/
theorem heard_copy (tracks : watched.Tracks dataLag file)
    (invariant : watched.transfer.Invariant Crc.zlib file) {index position : ℕ} {data : List Byte}
    (sent : watched.transfer.data[index]? = some (position, data))
    (close : watched.dataSeen ≤ index + 1 + dataLag) :
    ∃ heard, heard ≤ watched.transfer.next ∧ position < heard ∧ heard ≤ position + 32 + dataLag ∧
      Receiver.Waits Crc.zlib file heard watched.transfer.waited watched.transfer.receiver.state ∧
      Known watched.ends (max watched.dataSeen (index + 1)) heard := by
  rcases tracks.heard with ⟨heard, below, waits, known⟩
  have found := ends_at watched sent
  have near := known.le tracks.data found close
  have inside := (invariant.data _ (List.mem_of_getElem? sent)).1
  simp only at inside
  refine ⟨max heard (position + 1), max_le below inside, by omega, by omega,
    waits.mono (le_max_left _ _), known.see found⟩

end Tracks

/-- What the receiver reads is not too old, and after it the receiver has heard of more. -/
theorem DataComes.heard {data : ReadResult maxPacketSize} {position dataSeen : ℕ}
    (comes : watched.DataComes dataLag data position dataSeen)
    (tracks : watched.Tracks dataLag file)
    (invariant : watched.transfer.Invariant Crc.zlib file) (fresh : dataLag ≤ 193) :
    watched.transfer.DataArrival Crc.zlib data position ∧
      ∃ heard, heard ≤ watched.transfer.next ∧ heard ≤ position + 32 + dataLag ∧
        Receiver.Waits Crc.zlib file heard watched.transfer.waited
          watched.transfer.receiver.state ∧
        Known watched.ends dataSeen heard ∧
        ∀ bytes fits, data = .bytes bytes fits → bytes ≠ [] →
          Receiver.Arrived file heard watched.transfer.waited position
            (pktDecode Crc.zlib true bytes pktNew) := by
  have few := invariant.holds.few
  have behind := invariant.behind
  cases comes with
  | nothing _ nothing =>
      rcases tracks.heard with ⟨heard, below, waits, known⟩
      refine ⟨.nothing _ _ nothing, heard, below, by omega, waits, known, ?_⟩
      intro bytes fits reads nonempty
      rw [reads] at nothing
      exact absurd (by simpa [ReadResult.count] using nothing) nonempty
  | corrupted _ _ code rejected =>
      rcases tracks.heard with ⟨heard, below, waits, known⟩
      refine ⟨.corrupted _ _ _ code rejected, heard, below, by omega, waits, known, ?_⟩
      rintro bytes fits ⟨⟩ nonempty
      rw [rejected]
      exact .rejected code
  | arrives index _ sent data fits found transmits close =>
      rcases tracks.heard_copy invariant found close with
        ⟨heard, below, inside, near, waits, known⟩
      have waited := waits.sent
      have present := List.mem_of_getElem? found
      have copy := (invariant.data _ present).2
      rcases copy.transmits transmits with rfl | rfl | ⟨code, rejected⟩
      · refine ⟨.copy _ fits _ present (by omega), heard, below, near, waits, known, ?_⟩
        rintro bytes _ ⟨⟩ nonempty
        rcases copy.decodes with ⟨pkt, decodes, carries⟩
        rw [decodes]
        exact .copy pkt carries inside (by omega)
      · refine ⟨.truncated _ fits _ present, heard, below, near, waits, known, ?_⟩
        rintro bytes _ ⟨⟩ nonempty
        rcases copy.decodes_truncate with ⟨pkt, decodes, flag, seqNum⟩
        rw [decodes]
        exact .truncated pkt flag seqNum inside
      · refine ⟨.corrupted _ fits _ code rejected, heard, below, near, waits, known, ?_⟩
        rintro bytes _ ⟨⟩ nonempty
        rw [rejected]
        exact .rejected code

/-- What the sender reads is not too old, and after it the sender has learned of more. -/
theorem AckComes.learned {data : ReadResult ackSize} {acksSeen : ℕ}
    (comes : watched.AckComes ackLag data acksSeen)
    (tracks : watched.Tracks dataLag file)
    (invariant : watched.transfer.Invariant Crc.zlib file) (lags : dataLag + 31 * ackLag ≤ 162) :
    watched.transfer.AckArrival Crc.zlib data ∧
      ∃ learned, learned ≤ watched.transfer.next ∧ watched.transfer.oldest ≤ learned ∧
        Sender.Readable Crc.zlib watched.transfer.oldest learned watched.transfer.next
          watched.transfer.sender.state.bufAck ∧
        Sender.Readable Crc.zlib watched.transfer.oldest learned watched.transfer.next
          (watched.transfer.sender.state.bufAck.readInto data) ∧
        Known watched.transfer.acks acksSeen learned := by
  rcases tracks.learned with ⟨learned, below, oldest, stale, known⟩
  cases comes with
  | nothing _ nothing =>
      refine ⟨.nothing _ nothing, learned, below, oldest, stale, ?_, known⟩
      rw [Buffer.readInto_of_count_le nothing]
      exact stale
  | corrupted _ code rejected =>
      exact ⟨.corrupted _ code rejected, learned, below, oldest, stale, .inl ⟨code, rejected⟩,
        known⟩
  | arrives index ack position data fits found numbered damaged close =>
      have near := known.le tracks.acks numbered close
      have fresh : watched.transfer.oldest ≤ position + 224 := by omega
      have isAck := invariant.ackFor found numbered
      have inside : position ≤ watched.transfer.next := by
        have waited := invariant.waits.sent
        rcases isAck.position_le with delivered | sent
        · omega
        · omega
      have bytes := invariant.waits.sound.encoded ack (List.mem_of_getElem? found)
      have known := known.see numbered
      have later := oldest.trans (le_max_left learned position)
      have still := stale.mono (le_max_left learned position) le_rfl
      have length := damaged.length
      rw [bytes, isAck.length_ackBytes Crc.zlib] at length
      rw [bytes] at damaged
      rcases isAck.transmits damaged with same | ⟨code, rejected⟩
      · rw [← bytes] at same
        subst same
        exact ⟨.copy index ack position fits found numbered fresh, _, max_le below inside, later,
          still, invariant.readable_copy fits found numbered fresh fun _ => le_max_right _ _, known⟩
      · have read : (watched.transfer.sender.state.bufAck.readInto (.bytes data fits)).val = data :=
          Buffer.val_readInto_of_length_eq length
        rw [← read] at rejected
        exact ⟨.corrupted _ code rejected, _, max_le below inside, later, still,
          .inl ⟨code, rejected⟩, known⟩

namespace Tracks

/-- What an iteration of the sender adds to the record of the data packets. -/
theorem data_afterSender (invariant : watched.transfer.Invariant Crc.zlib file) {sender : Sender}
    {flow : LoopFlow Sender SenderExit} {further : ℕ}
    (running : watched.transfer.sender = .running sender)
    (ahead : watched.transfer.next ≤ further ∧ further ≤ watched.transfer.next + 1)
    (sends : Sender.Sends Crc.zlib file watched.transfer.oldest further sender flow.state) :
    ∃ new, flow.state.sent = sender.sent ++ new ∧
      (watched.transfer.afterSender flow).data =
        watched.transfer.data ++ new.map (fun data => (watched.transfer.position data, data)) ∧
      ∀ data ∈ new, watched.transfer.oldest ≤ watched.transfer.position data ∧
        watched.transfer.position data < further := by
  have here : watched.transfer.sender.state = sender := by rw [running, LoopFlow.state_running]
  have few := invariant.holds.few
  rcases sends with ⟨new, sent, copies⟩
  refine ⟨new, sent, ?_, ?_⟩
  · rw [Transfer.afterSender, here, sent, List.drop_left]
  · intro data present
    rcases copies data present with ⟨position, low, high, copy⟩
    have located : watched.transfer.position data = position := by
      rw [Transfer.position, copy.getD_one, Serial.lift_wire low (by omega)]
    rw [located]
    exact ⟨low, high⟩

theorem afterSender (tracks : watched.Tracks dataLag file)
    (invariant : watched.transfer.Invariant Crc.zlib file) (lags : dataLag + 31 * ackLag ≤ 162)
    {sender : Sender} {input : SenderInput} {acksSeen : ℕ} {flow : LoopFlow Sender SenderExit}
    (running : watched.transfer.sender = .running sender)
    (reads : input.newPayload = file.read watched.transfer.next)
    (comes : watched.AckComes ackLag input.ackRead acksSeen)
    (moves : sender.readWriteLoop Crc.zlib input = .ok flow) :
    Tracks dataLag file
      ⟨watched.transfer.afterSender flow, watched.dataSeen, acksSeen⟩ := by
  have here : watched.transfer.sender.state = sender := by rw [running, LoopFlow.state_running]
  rcases (comes.learned tracks invariant lags).2 with
    ⟨learned, below, oldest, stale, arrived, known⟩
  have holds := invariant.holds
  have few := holds.few
  rw [here] at holds stale arrived
  have iteration := Sender.readWriteLoop_iteration Crc.zlib holds.sound input
  rw [moves] at iteration
  rcases iteration.moved holds oldest below reads stale arrived with ⟨later, further, moved⟩
  rcases Transfer.counters_afterSender invariant flow running moved.holds moved.ahead with
    ⟨next, oldestLater⟩
  rcases data_afterSender invariant running moved.ahead moved.sends with ⟨new, sent, data, located⟩
  have ahead := moved.ahead
  have fewLater := moved.holds.few
  have ends : (Watched.mk (watched.transfer.afterSender flow) watched.dataSeen acksSeen).ends =
      watched.ends ++ new.map fun data => watched.transfer.position data + 1 := by
    rw [Watched.ends, Watched.ends, data, List.map_append, List.map_map]
    rfl
  constructor
  · rw [ends, next]
    apply tracks.data.append ahead.1 ahead.2
    · intro none
      rw [List.map_eq_nil_iff.mp none, List.append_nil] at sent
      have unused := iteration.seqNum_of_silent sent
      rw [holds.seqNum, moved.holds.seqNum, Serial.wire_inj (by omega) (by omega)] at unused
      exact unused
    · intro entry present
      rcases List.mem_map.mp present with ⟨bytes, isNew, rfl⟩
      have low := (located bytes isNew).1
      omega
    · intro entry present
      rcases List.mem_map.mp present with ⟨bytes, isNew, rfl⟩
      have high := (located bytes isNew).2
      omega
  · exact tracks.acks
  · rcases tracks.heard with ⟨heard, heardBelow, waits, knownData⟩
    refine ⟨heard, ?_, waits, ?_⟩
    · rw [next]
      exact heardBelow.trans ahead.1
    · rw [ends]
      exact knownData.append _
  · refine ⟨learned, ?_, ?_, ?_, known⟩
    · rw [next]
      exact below.trans ahead.1
    · rw [oldestLater]
      exact moved.acknowledged
    · rw [oldestLater, next]
      exact moved.bufAck

theorem afterReceiver (tracks : watched.Tracks dataLag file)
    (invariant : watched.transfer.Invariant Crc.zlib file) (fresh : dataLag ≤ 193)
    {receiver : Receiver} {input : ReceiverInput} {position dataSeen : ℕ}
    {flow : LoopFlow Receiver ReceiverExit}
    (running : watched.transfer.receiver = .running receiver)
    (comes : watched.DataComes dataLag input.data position dataSeen)
    (moves : receiver.readWriteLoop Crc.zlib input = .ok flow) :
    Tracks dataLag file
      ⟨watched.transfer.afterReceiver flow position, dataSeen, watched.acksSeen⟩ := by
  have here : watched.transfer.receiver.state = receiver := by
    rw [running, LoopFlow.state_running]
  rcases (comes.heard tracks invariant fresh).2 with ⟨heard, below, near, waits, known, arrived⟩
  have holds := invariant.holds
  have few := holds.few
  have behind := invariant.behind
  rw [here] at waits
  rcases Receiver.readWriteLoop_iteration waits.sound input with ⟨_, again, iteration⟩
  rw [moves] at again
  cases again
  rcases iteration.moved waits (below.trans holds.bounded) (by omega) arrived with ⟨later, moved⟩
  rcases moved.acks with ⟨new, queued, isAcks⟩
  rcases Transfer.counters_afterReceiver invariant flow running (moved.mono below) with
    ⟨waited, recorded⟩
  have acks := recorded new queued
  have ahead := moved.ahead
  have sent := moved.waits.sent
  constructor
  · exact tracks.data
  · change Drifts _ _ _ (watched.transfer.afterReceiver flow position).waited
      (watched.transfer.afterReceiver flow position).acks
    rw [waited, acks]
    apply tracks.acks.append ahead (by omega)
    · intro none
      rw [List.map_eq_nil_iff.mp none, List.append_nil] at queued
      have unmoved := iteration.waitedSeqNum_of_silent queued
      rw [waits.waitedSeqNum, moved.waits.waitedSeqNum,
        Serial.wire_inj (by omega) (by omega)] at unmoved
      exact unmoved
    · intro entry present
      rcases List.mem_map.mp present with ⟨ack, isNew, rfl⟩
      split
      · omega
      · omega
    · intro entry present
      rcases List.mem_map.mp present with ⟨ack, isNew, rfl⟩
      have isAck := isAcks ack isNew
      split
      · rename_i isNack
        have inside := isAck.lt_of_nack isNack
        rw [if_pos isNack] at inside
        omega
      · omega
  · refine ⟨heard, below, ?_, known⟩
    change Receiver.Waits Crc.zlib file heard (watched.transfer.afterReceiver flow position).waited
      flow.state
    rw [waited]
    exact moved.waits
  · rcases tracks.learned with ⟨learned, learnedBelow, oldest, readable, knownAcks⟩
    refine ⟨learned, learnedBelow, oldest, readable, ?_⟩
    change Known (watched.transfer.afterReceiver flow position).acks _ _
    rw [acks]
    exact knownAcks.append _

end Tracks

theorem Step.tracks {after : Watched} (step : Step dataLag ackLag file watched after)
    (tracks : watched.Tracks dataLag file)
    (invariant : watched.transfer.Invariant Crc.zlib file) (lags : dataLag + 31 * ackLag ≤ 162) :
    Transfer.Step Crc.zlib file watched.transfer after.transfer ∧
      after.Tracks dataLag file := by
  cases step with
  | sender sender input acksSeen flow running reads comes moves =>
      have arrival := (comes.learned tracks invariant lags).1
      exact ⟨.sender _ sender input flow running reads arrival moves,
        tracks.afterSender invariant lags running reads comes moves⟩
  | receiver receiver input position dataSeen flow running comes moves complete =>
      have fresh : dataLag ≤ 193 := by omega
      have arrival := (comes.heard tracks invariant fresh).1
      exact ⟨.receiver _ receiver input position flow running arrival moves complete,
        tracks.afterReceiver invariant fresh running comes moves⟩

/-- By induction on the run: no datagram which arrives is too old. -/
theorem tracks_of_reachable (lags : dataLag + 31 * ackLag ≤ 162)
    (reachable : watched.Reachable dataLag ackLag file) :
    watched.transfer.Reachable Crc.zlib file ∧ watched.Tracks dataLag file := by
  rcases reachable with ⟨tpSender, tpReceiver, bufAck, code, unread, run⟩
  induction run with
  | refl =>
      exact ⟨⟨tpSender, tpReceiver, bufAck, code, unread, .refl⟩,
        tracks_start dataLag file tpSender tpReceiver unread⟩
  | tail _ step ih =>
      rcases step.tracks ih.2 (Transfer.invariant_of_reachable ih.1) lags with ⟨moves, tracks⟩
      exact ⟨ih.1.step moves, tracks⟩

/--
If the network reorders data packets by at most `dataLag` and acknowledgements by at most
`ackLag`, these are small enough for the numbers of 8 bits, and it damages datagrams by bursts,
then nothing is accepted which is too old or damaged: the run is one of a transfer. Exactly the
chunks below the position which is waited for have been written, and all of them when the
sender returns because of the last acknowledgement.
-/
theorem written_of_reordering (lags : dataLag + 31 * ackLag ≤ 162)
    (reachable : watched.Reachable dataLag ackLag file) :
    watched.transfer.Reachable Crc.zlib file ∧
      watched.transfer.receiver.state.written =
        (file.chunks.take watched.transfer.waited).flatten ∧
      ∀ sender, watched.transfer.sender = .returned .lastAck sender →
        watched.transfer.receiver.state.written = file.chunks.flatten := by
  have within := (tracks_of_reachable lags reachable).1
  have invariant := Transfer.invariant_of_reachable within
  have written := invariant.waits.written invariant.complete
  refine ⟨within, written, ?_⟩
  intro sender ended
  have all : file.chunks.length ≤ file.last + 1 := Nat.le_succ _
  rw [written, invariant.ended sender ended, List.take_of_length_le all]

section Example

variable {transfer : Transfer} {seen acksSeen : ℕ}

theorem step_senderMoves (input : SenderInput) (heard : ℕ)
    (running : transfer.sender = .running transfer.sender.state)
    (reads : input.newPayload = file.read transfer.next)
    (comes : (Watched.mk transfer seen acksSeen).AckComes ackLag input.ackRead heard)
    (moves : (transfer.sender.state.readWriteLoop Crc.zlib input).isOk = true) :
    Step dataLag ackLag file ⟨transfer, seen, acksSeen⟩
      ⟨transfer.senderMoves input, seen, heard⟩ := by
  rw [Transfer.senderMoves]
  cases result : transfer.sender.state.readWriteLoop Crc.zlib input with
  | ok flow =>
      exact .sender ⟨transfer, seen, acksSeen⟩ _ input heard flow running reads comes result
  | error fault =>
      rw [result] at moves
      cases moves

theorem step_receiverMoves (input : ReceiverInput) (position heard : ℕ)
    (running : transfer.receiver = .running transfer.receiver.state)
    (comes : (Watched.mk transfer seen acksSeen).DataComes dataLag input.data position heard)
    (moves : (transfer.receiver.state.readWriteLoop Crc.zlib input).isOk = true)
    (complete : ∀ write ∈ (transfer.receiverMoves input position).receiver.state.writes,
      write.Complete) :
    Step dataLag ackLag file ⟨transfer, seen, acksSeen⟩
      ⟨transfer.receiverMoves input position, heard, acksSeen⟩ := by
  rw [Transfer.receiverMoves] at complete ⊢
  cases result : transfer.receiver.state.readWriteLoop Crc.zlib input with
  | ok flow =>
      rw [result] at complete
      exact .receiver ⟨transfer, seen, acksSeen⟩ _ input position heard flow running comes result
        complete
  | error fault =>
      rw [result] at moves
      cases moves

theorem Reachable.step {after : Watched} (reachable : watched.Reachable dataLag ackLag file)
    (step : Step dataLag ackLag file watched after) : after.Reachable dataLag ackLag file := by
  rcases reachable with ⟨tpSender, tpReceiver, bufAck, code, unread, run⟩
  exact ⟨tpSender, tpReceiver, bufAck, code, unread, run.tail step⟩

theorem comes_nothing {data : ReadResult maxPacketSize} {position : ℕ}
    (waited : watched.transfer.waited = position) (nothing : data.count ≤ 0) :
    watched.DataComes dataLag data position watched.dataSeen :=
  waited ▸ .nothing data nothing

/-- Packet 1, in which the payload has been changed. -/
def damagedBytes : List Byte :=
  [0x5f, 1, 0, 1, 0, 0, 0, 0, 0x72, 0x33, 0x1c, 7, 9, 0xdc, 0xd9, 0x67, 0xbf]

/-- After packet 2, the packets 1, 1 with damage, and 0 arrive, the last one for the second time. -/
def disturbedExample : Watched where
  transfer := (Transfer.reorderedExample.receiverMoves
    (Transfer.readExample (.bytes damagedBytes (by decide))) 1).receiverMoves
      (Transfer.readExample (.bytes Transfer.dataBytes Transfer.length_dataBytes)) 0
  dataSeen := 5
  acksSeen := 1

theorem damaged_damagedBytes : Damaged Transfer.secondBytes damagedBytes where
  length := rfl
  header := .checksum rfl
  payload _ := .contents 0 1 (by decide) ⟨rfl, rfl, rfl⟩ rfl

theorem reachable_disturbedExample : disturbedExample.Reachable 4 2 Transfer.reorderedFile := by
  have started : Reachable 4 2 Transfer.reorderedFile ⟨.start 0 0 (.zeros ackSize), 0, 0⟩ :=
    ⟨0, 0, .zeros ackSize, .eType, by decide +kernel, .refl⟩
  have sent := started.step (step_senderMoves
    (Sender.sendExample (Transfer.reorderedFile.read 0)) 0 rfl rfl (.nothing _ (by decide))
    (by decide +kernel))
  have arrived := sent.step (step_receiverMoves
    (Transfer.readExample (.bytes Transfer.dataBytes Transfer.length_dataBytes)) 0 1
    (by decide +kernel)
    (.arrives 0 0 Transfer.dataBytes _ _ (by decide +kernel) (.damaged _ (.refl _)) (by decide))
    (by decide +kernel) (by decide +kernel))
  have flushed := arrived.step (step_receiverMoves Transfer.flushExample 1 1 (by decide +kernel)
    (comes_nothing (by decide +kernel) (by decide)) (by decide +kernel) (by decide +kernel))
  have opened := flushed.step (step_senderMoves Transfer.openingExample 1 (by decide +kernel)
    (by decide +kernel) (.arrives 0 ⟨Receiver.newAck ptypeAck 0 1 0, Transfer.dataAckBytes⟩ 1 _ _
      (by decide +kernel) (by decide +kernel) (.refl _) (by decide)) (by decide +kernel))
  have second := opened.step (step_senderMoves
    (Sender.sendExample (Transfer.reorderedFile.read 1)) 1 (by decide +kernel) (by decide +kernel)
    (.nothing _ (by decide)) (by decide +kernel))
  have third := second.step (step_senderMoves
    (Sender.sendExample (Transfer.reorderedFile.read 2)) 1 (by decide +kernel) (by decide +kernel)
    (.nothing _ (by decide)) (by decide +kernel))
  have ahead := third.step (step_receiverMoves
    (Transfer.readExample (.bytes Transfer.thirdBytes (by decide))) 2 5 (by decide +kernel)
    (.arrives 4 2 Transfer.thirdBytes _ _ (by decide +kernel) (.damaged _ (.refl _)) (by decide))
    (by decide +kernel) (by decide +kernel))
  have late := ahead.step (step_receiverMoves
    (Transfer.readExample (.bytes Transfer.secondBytes (by decide))) 1 5 (by decide +kernel)
    (.arrives 2 1 Transfer.secondBytes _ _ (by decide +kernel) (.damaged _ (.refl _)) (by decide))
    (by decide +kernel) (by decide +kernel))
  have damaged := late.step (step_receiverMoves
    (Transfer.readExample (.bytes damagedBytes (by decide))) 1 5 (by decide +kernel)
    (.arrives 3 1 Transfer.secondBytes _ _ (by decide +kernel) (.damaged _ damaged_damagedBytes)
      (by decide)) (by decide +kernel) (by decide +kernel))
  exact damaged.step (step_receiverMoves
    (Transfer.readExample (.bytes Transfer.dataBytes Transfer.length_dataBytes)) 0 5
    (by decide +kernel)
    (.arrives 0 0 Transfer.dataBytes _ _ (by decide +kernel) (.damaged _ (.refl _)) (by decide))
    (by decide +kernel) (by decide +kernel))

theorem written_of_reordering_example :
    disturbedExample.transfer.receiver.state.written = [7, 8, 9] ∧
      disturbedExample.transfer.Reachable Crc.zlib Transfer.reorderedFile ∧
      disturbedExample.transfer.receiver.state.written =
        (Transfer.reorderedFile.chunks.take disturbedExample.transfer.waited).flatten ∧
      ∀ sender, disturbedExample.transfer.sender = .returned .lastAck sender →
        disturbedExample.transfer.receiver.state.written =
          Transfer.reorderedFile.chunks.flatten := by
  have waited : disturbedExample.transfer.waited = 3 := by decide +kernel
  have safe := written_of_reordering (by decide) reachable_disturbedExample
  refine ⟨?_, safe⟩
  rw [safe.2.1, waited]
  rfl

end Example

end Watched

end ReliableTransfer
