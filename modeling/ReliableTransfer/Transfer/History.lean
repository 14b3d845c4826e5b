import ReliableTransfer.Sender.Buffer
import ReliableTransfer.Sender.Retransmission
import ReliableTransfer.Transfer.Sender

/-!
# The history of the sender

What the sender has read and sent in a run, whatever acknowledgements it receives. The
record which is kept beside the run numbers the calls of `read` by position, and gives each
datagram the position of its packet, the number of the oldest buffered packet and the
window which had been advertised last when it was sent.

The buffer is a contiguous part of the positions which have been read (`Recorded`). An
acknowledgement with an arbitrary number and window removes some packets from its front, and
nothing else changes the order or the contents of the packets. Hence retransmissions repeat the
packet of their position (`DescribedBy`), and the number of buffered packets, which limits
new packets, is the distance which limits retransmissions.
-/

namespace ReliableTransfer

open QueueSender

namespace Sender

/-- A datagram handed to `write`, with what is known at that moment. -/
structure Datagram where
  data : List Byte
  position : ℕ
  oldest : BitVec 8
  window : ℕ

/-- The results of `read` on the input, the window advertised last, and the datagrams sent. -/
structure History where
  read : List (List Byte)
  window : ℕ
  datagrams : List Datagram

/-- The number of the oldest buffered packet; if there is none, that of the next packet. -/
def oldestNumber (sender : Sender) : BitVec 8 :=
  sender.numbers.headD sender.seqNum

/-- The window after something has been received. -/
def advertised (window : ℕ) : Except PktStatusCode Pkt → ℕ
  | .ok pktAck => if pktAck.type = ptypeAck then pktAck.window.toNat else window
  | .error _ => window

namespace History

/-- Nothing has been read or sent, and no window advertised: it counts as 1. -/
def start : History := ⟨[], 1, []⟩

/--
The datagrams which have been sent between two states. The position is that of the buffered
packet with the number in the second byte.
-/
def sentBetween (history : History) (before after : Sender) : List Datagram :=
  (after.sent.drop before.sent.length).map fun data =>
    { data := data
      position := Serial.lift (history.read.length - after.numbers.length) after.oldestNumber
        (data.getD 1 0)
      oldest := after.oldestNumber
      window := history.window }

variable (crc32 : List Byte → BitVec 32)

/-- What is received at the end of an iteration, if the loop comes to read from the socket. -/
def windowAfter (input : SenderInput) (history : History) :
    LoopFlow (Revents × Sender) SenderExit → ℕ
  | .returned _ _ => history.window
  | .running (revents, sender) =>
      if revents.pollin then advertised history.window
        (pktDecode crc32 true (sender.bufAck.readInto input.ackRead).val pktNew)
      else history.window

/-- If the iteration comes to read the input, the result is appended. -/
def afterInput (input : SenderInput) (sender : Sender) (history : History) : History :=
  { history with
    read := if sender.ReadsInput input then history.read ++ [input.newPayload.data]
      else history.read }

/-- What an iteration adds to the history. -/
def note (input : SenderInput) (sender : Sender) (history : History) : History :=
  match untilRead crc32 input sender with
  | .error _ => history
  | .ok flow =>
      let history := history.afterInput input sender
      { history with
        window := history.windowAfter crc32 input flow
        datagrams := history.datagrams ++ history.sentBetween sender flow.state.2 }

end History

/-- The history of a run. -/
def historyOf (crc32 : List Byte → BitVec 32) (inputs : List SenderInput) (origin : Sender) :
    History :=
  Loop.record (readWriteLoop crc32) (History.note crc32) inputs origin .start

/-- The packet is the data packet with the number of the position and these bytes. -/
structure DescribedBy (position : ℕ) (content : List Byte) (pkt : Pkt) : Prop where
  type : pkt.type = ptypeData
  seqNum : pkt.seqNum = Serial.wire 8 position
  length : pkt.length.toNat = content.length
  payload : pkt.payload = if content = [] then none else some content

/--
The datagram decodes to the packet with the bytes which have been read for its position, and
that packet was inside the window which had been advertised last.
-/
def Faithful (crc32 : List Byte → BitVec 32) (read : List (List Byte)) (datagram : Datagram) :
    Prop :=
  ∃ content pkt, read[datagram.position]? = some content ∧
    pktDecode crc32 true datagram.data pktNew = .ok pkt ∧
    DescribedBy datagram.position content pkt ∧
    Serial.dist datagram.oldest pkt.seqNum < datagram.window

def AllFaithful (crc32 : List Byte → BitVec 32) (history : History) : Prop :=
  ∀ datagram ∈ history.datagrams, Faithful crc32 history.read datagram

/-- The sender holds positions of a file which is what has been read so far. -/
structure Recorded (file : InputFile) (oldest : ℕ) (history : History) (sender : Sender) :
    Prop where
  holds : Holds file oldest history.read.length sender
  read : history.read = file.chunks ++ if sender.isLastAckNum then [[]] else []
  window : sender.sizeBuffer = history.window

end Sender

/-- One more chunk is read from the file. -/
def InputFile.extend (file : InputFile) (data : List Byte) (nonempty : data ≠ [])
    (short : data.length ≤ maxPayloadSize) : InputFile where
  chunks := file.chunks ++ [data]
  nonempty := by
    intro chunk present
    rcases List.mem_append.mp present with earlier | last
    · exact file.nonempty chunk earlier
    · rwa [List.mem_singleton.mp last]
  short := by
    intro chunk present
    rcases List.mem_append.mp present with earlier | last
    · exact file.short chunk earlier
    · rwa [List.mem_singleton.mp last]

section Extension

variable {file : InputFile} {data : List Byte} {nonempty : data ≠ []}
  {short : data.length ≤ maxPayloadSize}

theorem InputFile.last_extend : (file.extend data nonempty short).last = file.last + 1 := by
  simp [InputFile.last, InputFile.extend]

theorem InputFile.chunk_extend {position : ℕ} (inside : position < file.last) :
    (file.extend data nonempty short).chunk position = file.chunk position := by
  rw [InputFile.chunk, InputFile.chunk, InputFile.extend, List.getD_append _ _ _ _ inside]

theorem InputFile.chunk_extend_last :
    (file.extend data nonempty short).chunk file.last = data := by
  simp [InputFile.chunk, InputFile.extend, InputFile.last]

theorem Carries.extend {position : ℕ} {pkt : Pkt} (carries : Carries file position pkt)
    (inside : position < file.last) :
    Carries (file.extend data nonempty short) position pkt where
  type := carries.type
  trFlag := carries.trFlag
  seqNum := carries.seqNum
  length := by
    rw [InputFile.chunk_extend inside]
    exact carries.length
  payload := by
    have further : position < (file.extend data nonempty short).last := by
      rw [InputFile.last_extend]
      omega
    rw [carries.payload, if_pos inside, if_pos further, InputFile.chunk_extend inside]

theorem Carried.extend {position : ℕ} {nodes : List Pkt} (carried : Carried file position nodes)
    (inside : position + nodes.length ≤ file.last) :
    Carried (file.extend data nonempty short) position nodes := by
  induction nodes generalizing position with
  | nil => exact trivial
  | cons pkt rest ih =>
      rw [List.length_cons] at inside
      exact ⟨carried.1.extend (by omega), ih carried.2 (by omega)⟩

end Extension

namespace Sender

variable {crc32 : List Byte → BitVec 32} {file : InputFile} {oldest next : ℕ}

theorem Holds.extend {sender : Sender} (here : Holds file oldest next sender)
    (atLast : next = file.last) {data : List Byte} (nonempty : data ≠ [])
    (short : data.length ≤ maxPayloadSize) :
    Holds (file.extend data nonempty short) oldest next sender where
  sound := here.sound
  narrow := here.narrow
  carried := here.carried.extend (by rw [here.held, atLast])
  held := here.held
  few := here.few
  bounded := by
    rw [InputFile.last_extend]
    omega
  seqNum := here.seqNum
  isLastAckNum := by
    rw [InputFile.last_extend, here.isLastAckNum]
    omega

/-- Whatever its number, a deletion removes some packets from the front. -/
theorem Holds.withRemaining {sender : Sender} (here : Holds file oldest next sender)
    (seqnumDelete : BitVec 8) :
    ∃ later, Holds file later next (sender.withRemaining seqnumDelete) :=
  ⟨_, here.dropped (Nat.sub_le _ _)
    (List.suffix_iff_eq_drop.mp (remaining_suffix seqnumDelete sender.bufStructure.nodes))⟩

theorem Answering.holds {pktAck : Pkt} {sender : Sender} {flow : LoopFlow Sender SenderExit}
    (answering : Answering pktAck sender (.ok flow)) (here : Holds file oldest next sender) :
    ∃ later, Holds file later next flow.state := by
  have narrow := window_narrow pktAck
  cases answering with
  | ends => exact ⟨oldest, here⟩
  | acknowledges notLast isAck after acknowledging =>
      cases acknowledging with
      | unknown => exact ⟨oldest, here.of_same narrow rfl rfl rfl⟩
      | outside => exact ⟨oldest, here.of_same narrow rfl rfl rfl⟩
      | deletes timer =>
          have recognized : Holds file oldest next (sender.recognized pktAck timer) :=
            here.of_same narrow rfl rfl rfl
          exact recognized.withRemaining (pktAck.seqNum - 1)
  | marks => exact ⟨oldest, holds_handleNack here pktAck⟩
  | ignores => exact ⟨oldest, here⟩

/-- The window which the sender keeps is the one which has been advertised last. -/
theorem Answering.sizeBuffer {pktAck : Pkt} {sender after : Sender}
    (answering : Answering pktAck sender (.ok (.running after))) :
    after.sizeBuffer = advertised sender.sizeBuffer (.ok pktAck) := by
  rw [advertised]
  cases answering with
  | acknowledges notLast isAck after acknowledging =>
      rw [if_pos isAck]
      cases acknowledging with
      | unknown => rfl
      | outside => rfl
      | deletes => rfl
  | marks isNack =>
      rw [if_neg (by rw [isNack]; decide)]
      rfl
  | ignores otherType => rw [if_neg otherType]

theorem Answering.frame {pktAck : Pkt} {sender : Sender} {flow : LoopFlow Sender SenderExit}
    (answering : Answering pktAck sender (.ok flow)) :
    flow.state.sent = sender.sent ∧ flow.state.isLastAckNum = sender.isLastAckNum := by
  cases answering with
  | ends => exact ⟨rfl, rfl⟩
  | acknowledges notLast isAck after acknowledging =>
      cases acknowledging with
      | unknown => exact ⟨rfl, rfl⟩
      | outside => exact ⟨rfl, rfl⟩
      | deletes => exact ⟨rfl, rfl⟩
  | marks => exact ⟨rfl, rfl⟩
  | ignores => exact ⟨rfl, rfl⟩

theorem Holds.oldestNumber {sender : Sender} (here : Holds file oldest next sender) :
    sender.oldestNumber = Serial.wire 8 oldest := by
  have carried := here.carried
  have held := here.held
  rw [Sender.oldestNumber, numbers]
  cases nodes : sender.bufStructure.nodes with
  | nil =>
      rw [nodes] at held
      rw [List.map_nil, List.headD_nil, here.seqNum, ← held]
      rfl
  | cons head rest =>
      rw [nodes] at carried
      exact carried.1.seqNum

theorem Holds.headSeqNum {sender : Sender} (here : Holds file oldest next sender) {head : Pkt}
    (first : head ∈ sender.bufStructure.nodes.head?) : head.seqNum = Serial.wire 8 oldest := by
  have carried := here.carried
  rcases List.head?_eq_some_iff.mp first with ⟨rest, nodes⟩
  rw [nodes] at carried
  exact carried.1.seqNum

theorem SendsInWindow.trans {number : BitVec 8} {first second third : Sender}
    {sent : List (List Byte)} (left : SendsInWindow number first second)
    (right : SendsInWindow number second third)
    (leftSent : second.sent = first.sent ++ sent) (before : second.sent <+: third.sent)
    (same : second.sizeBuffer = first.sizeBuffer) : SendsInWindow number first third := by
  rcases before with ⟨resent, rightSent⟩
  intro data present
  rw [← rightSent, leftSent, List.append_assoc, List.drop_left] at present
  rcases List.mem_append.mp present with earlier | later
  · apply left data
    rwa [leftSent, List.drop_left]
  · rw [← same]
    apply right data
    rwa [← rightSent, List.drop_left]

/-- What has been read for a position is what the file holds there. -/
theorem Recorded.getElem?_read {history : History} {sender : Sender}
    (recorded : Recorded file oldest history sender) {position : ℕ}
    (inside : position < history.read.length) :
    history.read[position]? = some (file.chunk position) := by
  have bounded := recorded.holds.bounded
  rw [recorded.read]
  rcases Nat.lt_or_ge position file.last with before | beyond
  · rw [List.getElem?_append_left before, InputFile.chunk_of_lt before,
      List.getElem?_eq_getElem before]
  · have atLast : position = file.last := by omega
    have ended := recorded.holds.isLastAckNum.mpr (by omega)
    rw [if_pos ended, InputFile.chunk_of_le beyond, List.getElem?_append_right beyond, atLast,
      InputFile.last, Nat.sub_self]
    rfl

/-- A new packet has been sent: the one for the next position. -/
theorem recorded_afterSend {history : History} {sender : Sender}
    (here : Holds file oldest history.read.length sender) (room : sender.HasRoom)
    (window : sender.sizeBuffer = history.window)
    (more : history.read.length ≤ file.last) {pkt : Pkt}
    (carries : Carries file history.read.length pkt) {isEnd : Bool}
    (ends : isEnd = true ↔ history.read.length = file.last) (data : List Byte)
    (read : history.read ++ [data] = file.chunks ++ if isEnd then [[]] else [])
    (sendTime : Time) (crc32 : List Byte → BitVec 32) :
    let after := sender.afterSend crc32 pkt isEnd sendTime
    Recorded file oldest { history with read := history.read ++ [data] } after ∧
      Sends crc32 file oldest (history.read.length + 1) sender after ∧
      SendsInWindow (Serial.wire 8 oldest) sender after := by
  have held := here.held
  have few := here.few
  have size := room.1
  rw [here.sound.consistent, Nat.cast_lt] at size
  rcases holds_afterSend here room.1 more carries ends sendTime crc32 with ⟨there, sends⟩
  refine ⟨⟨?_, read, window⟩, sends, ?_⟩
  · rw [List.length_append, List.length_singleton]
    exact there
  · intro bytes present
    rw [afterSend, List.drop_left, List.mem_singleton] at present
    subst present
    change Serial.dist _ pkt.seqNum < _
    rw [carries.seqNum, Serial.dist_wire_of_le (by omega) (by omega)]
    omega

section Iterations

variable {history : History} {sender : Sender} {input : SenderInput}

/-- The file grows by the bytes which have been read, unless they are the end. -/
theorem Recorded.send {middle : Sender} (recorded : Recorded file oldest history sender)
    (read : input.newPayload ≠ .failed)
    (sends : if sender.ReadsInput input then send crc32 input sender = .ok middle
      else middle = sender) :
    ∃ file, Recorded file oldest (history.afterInput input sender) middle ∧
      Sends crc32 file oldest (history.afterInput input sender).read.length sender middle ∧
      SendsInWindow (Serial.wire 8 oldest) sender middle ∧
      middle.sizeBuffer = sender.sizeBuffer := by
  have here := recorded.holds
  rw [History.afterInput]
  by_cases reads : sender.ReadsInput input
  · have notEnd := reads.2.2.2
    have sofar : history.read = file.chunks := by
      have whole := recorded.read
      rwa [notEnd, if_neg Bool.false_ne_true, List.append_nil] at whole
    have atLast : history.read.length = file.last := by rw [sofar, InputFile.last]
    rw [if_pos reads] at sends
    simp only [reads, if_true, List.length_append, List.length_singleton]
    cases payload : input.newPayload with
    | failed => exact absurd payload read
    | bytes data fits =>
        rw [Sender.send, payload, ReadResult.count] at sends
        by_cases empty : data = []
        · rw [if_pos (by simp [empty]), sendEnd_eq crc32 here.sound.consistent] at sends
          cases sends
          have carries := carries_endPkt atLast input.stampTime
          rw [← here.seqNum] at carries
          have after := recorded_afterSend here reads.2.2 recorded.window atLast.le carries
            (iff_of_true rfl atLast) [] (by rw [sofar]; rfl) input.sendTime crc32
          rw [ReadResult.data, empty]
          exact ⟨file, after.1, after.2.1, after.2.2, rfl⟩
        · rw [if_neg (by simpa using empty),
            sendData_eq crc32 here.sound.consistent payload notEnd] at sends
          cases sends
          have last : (file.extend data empty fits).last = file.last + 1 := InputFile.last_extend
          have inside : history.read.length < (file.extend data empty fits).last := by omega
          have carries := carries_dataPkt inside input.stampTime
          rw [← here.seqNum, atLast, InputFile.chunk_extend_last, ← atLast] at carries
          have after := recorded_afterSend (here.extend atLast empty fits) reads.2.2
            recorded.window inside.le carries (iff_of_false Bool.false_ne_true inside.ne) data
            (by rw [sofar]; exact (List.append_nil _).symm) input.sendTime crc32
          exact ⟨_, after.1, after.2.1, after.2.2, rfl⟩
  · rw [if_neg reads] at sends
    subst sends
    rw [if_neg reads]
    exact ⟨file, recorded, .of_eq rfl, sendsInWindow_refl _ _, rfl⟩

theorem Recorded.resend {middle after : Sender} (recorded : Recorded file oldest history middle)
    (resending : Resending crc32 middle after)
    (inWindow : ∀ head ∈ middle.bufStructure.nodes.head?,
      SendsInWindow head.seqNum middle after) :
    Recorded file oldest history after ∧
      Sends crc32 file oldest history.read.length middle after ∧
      SendsInWindow (Serial.wire 8 oldest) middle after := by
  rcases resending.holds recorded.holds with ⟨there, sends, _⟩
  cases resending with
  | nothing => exact ⟨recorded, sends, sendsInWindow_refl _ _⟩
  | again front pkt back stamp nodes =>
      refine ⟨⟨there, recorded.read, recorded.window⟩, sends, ?_⟩
      have nonempty : middle.bufStructure.nodes ≠ [] := by simp [nodes]
      have first := List.head?_eq_some_head nonempty
      have near := inWindow _ first
      rwa [recorded.holds.headSeqNum first] at near

theorem DescribedBy.of_carries {position : ℕ} {pkt : Pkt} (carries : Carries file position pkt) :
    DescribedBy position (file.chunk position) pkt where
  type := carries.type
  seqNum := carries.seqNum
  length := carries.length
  payload := by
    rw [carries.payload]
    by_cases inside : position < file.last
    · have nonempty := mt (file.chunk_eq_nil_iff position).mp (Nat.not_le.mpr inside)
      rw [if_pos inside, if_neg nonempty]
    · rw [if_neg inside, if_pos ((file.chunk_eq_nil_iff position).mpr (Nat.le_of_not_lt inside))]

/-- The datagrams sent between two states are faithful to what has been read by then. -/
theorem Recorded.sentBetween {after : Sender} (recorded : Recorded file oldest history after)
    (sends : Sends crc32 file oldest history.read.length sender after)
    (inWindow : SendsInWindow (Serial.wire 8 oldest) sender after)
    (window : sender.sizeBuffer = after.sizeBuffer) :
    (∀ datagram ∈ history.sentBetween sender after, Faithful crc32 history.read datagram) ∧
      after.sent = sender.sent ++ (history.sentBetween sender after).map Datagram.data := by
  have here := recorded.holds
  have held := here.held
  have few := here.few
  have back : history.read.length - after.numbers.length = oldest := by
    rw [numbers, List.length_map]
    omega
  rcases sends with ⟨new, sent, copies⟩
  constructor
  · intro datagram present
    rcases List.mem_map.mp present with ⟨data, isNew, rfl⟩
    have near := inWindow data isNew
    rw [sent, List.drop_left] at isNew
    rcases copies data isNew with ⟨position, low, high, copy⟩
    rcases copy.decodes with ⟨pkt, decodes, carries⟩
    have lifted : Serial.lift (history.read.length - after.numbers.length) after.oldestNumber
        (data.getD 1 0) = position := by
      rw [back, here.oldestNumber, copy.getD_one]
      exact Serial.lift_wire low (by omega)
    refine ⟨file.chunk position, pkt, ?_, decodes, ?_, ?_⟩
    · rw [lifted]
      exact recorded.getElem?_read high
    · rw [lifted]
      exact .of_carries carries
    · rw [copy.getD_one, ← carries.seqNum, window, recorded.window] at near
      rwa [here.oldestNumber]
  · rw [History.sentBetween, List.map_map, sent, List.drop_left]
    exact congrArg _ (List.map_id new).symm

theorem Faithful.mono {before after : List (List Byte)} {datagram : Datagram}
    (faithful : Faithful crc32 before datagram) (further : before <+: after) :
    Faithful crc32 after datagram := by
  rcases faithful with ⟨content, pkt, read, decodes, described, near⟩
  rcases further with ⟨added, rfl⟩
  have inside := (List.getElem?_eq_some_iff.mp read).1
  exact ⟨content, pkt, (List.getElem?_append_left inside).trans read, decodes, described, near⟩

theorem History.prefix_afterInput (history : History) (input : SenderInput) (sender : Sender) :
    history.read <+: (history.afterInput input sender).read := by
  rw [afterInput]
  simp only
  split
  · exact List.prefix_append _ _
  · exact List.prefix_refl _

/-- The record is true of the run so far, and of the buffer if the loop goes on. -/
structure Logged (crc32 : List Byte → BitVec 32) (flow : LoopFlow Sender SenderExit)
    (history : History) : Prop where
  faithful : AllFaithful crc32 history
  sent : history.datagrams.map Datagram.data = flow.state.sent
  recorded : ∀ sender, flow = .running sender →
    ∃ file oldest, Recorded file oldest history sender

/-- What is read at the end of an iteration changes the window, and takes packets away. -/
theorem Recorded.readAck {history : History} {last : Sender} {flow : LoopFlow Sender SenderExit}
    (recorded : Recorded file oldest history last)
    (handles : readAck crc32 input last = .ok flow) (datagrams : List Datagram) :
    flow.state.sent = last.sent ∧
      ∀ sender, flow = .running sender → ∃ later, Recorded file later
        { history with
          window := history.windowAfter crc32 input (.running (⟨true, false⟩, last))
          datagrams := datagrams } sender := by
  have here := holds_afterRead recorded.holds input
  rw [Sender.readAck] at handles
  simp only [History.windowAfter, if_true]
  cases decodes : pktDecode crc32 true (last.bufAck.readInto input.ackRead).val pktNew with
  | error code =>
      simp only [decodes] at handles
      cases handles
      refine ⟨rfl, ?_⟩
      rintro sender ⟨⟩
      exact ⟨oldest, here, recorded.read, recorded.window⟩
  | ok pktAck =>
      simp only [decodes] at handles
      have answering := handleAnswer_answering here.sound.consistent input.rttTime pktAck
      rw [show (last.afterRead input).handleAnswer input.rttTime pktAck = .ok flow from handles]
        at answering
      rcases answering.frame with ⟨sent, isLastAckNum⟩
      refine ⟨sent, ?_⟩
      rintro sender rfl
      rcases answering.holds here with ⟨later, there⟩
      refine ⟨later, there, ?_, ?_⟩
      · rw [show sender.isLastAckNum = last.isLastAckNum from isLastAckNum]
        exact recorded.read
      · rw [answering.sizeBuffer, ← recorded.window]
        rfl

/-- What is known when an iteration tests `POLLIN`, or returns before. -/
theorem Logged.untilRead (logged : Logged crc32 (.running sender) history)
    (read : input.newPayload ≠ .failed) :
    ∃ passed file oldest, untilRead crc32 input sender = .ok passed ∧
      Recorded file oldest (history.afterInput input sender) passed.state.2 ∧
      (∀ datagram ∈ history.datagrams ++
          (history.afterInput input sender).sentBetween sender passed.state.2,
        Faithful crc32 (history.afterInput input sender).read datagram) ∧
      (history.datagrams ++ (history.afterInput input sender).sentBetween sender
        passed.state.2).map Datagram.data = passed.state.2.sent := by
  rcases logged.recorded sender rfl with ⟨file, oldest, recorded⟩
  rcases untilRead_spec crc32 recorded.holds.sound input with ⟨passed, middle, untils, passes⟩
  rcases recorded.send read passes.sends with ⟨file, recordedMiddle, sends, newInWindow, width⟩
  rcases recordedMiddle.resend passes.resending passes.inWindow with
    ⟨recordedLast, resends, oldInWindow⟩
  have sameWidth : sender.sizeBuffer = passed.state.2.sizeBuffer := by
    rw [recorded.window, recordedLast.window]
    rfl
  have inWindow : SendsInWindow (Serial.wire 8 oldest) sender passed.state.2 := by
    rcases sends with ⟨new, sent, _⟩
    rcases resends with ⟨resent, sentAgain, _⟩
    exact newInWindow.trans oldInWindow sent ⟨resent, sentAgain.symm⟩ width
  rcases recordedLast.sentBetween (sends.trans resends) inWindow sameWidth with ⟨added, sent⟩
  refine ⟨passed, file, oldest, untils, recordedLast, ?_, ?_⟩
  · intro datagram present
    rcases List.mem_append.mp present with earlier | new
    · exact (logged.faithful datagram earlier).mono (history.prefix_afterInput input sender)
    · exact added datagram new
  · rw [List.map_append, logged.sent, sent]
    rfl

theorem logged_note (logged : Logged crc32 (.running sender) history)
    (read : input.newPayload ≠ .failed) :
    AllFaithful crc32 (history.note crc32 input sender) ∧
      ∀ flow, readWriteLoop crc32 input sender = .ok flow →
        Logged crc32 flow (history.note crc32 input sender) := by
  rcases logged.untilRead read with ⟨passed, file, oldest, untils, recorded, faithful, sent⟩
  have noted : history.note crc32 input sender =
      { history.afterInput input sender with
        window := (history.afterInput input sender).windowAfter crc32 input passed
        datagrams := history.datagrams ++
          (history.afterInput input sender).sentBetween sender passed.state.2 } := by
    rw [History.note, untils]
    rfl
  rw [noted]
  refine ⟨faithful, ?_⟩
  intro flow moved
  rw [readWriteLoop_eq, untils] at moved
  cases passed with
  | returned reason state =>
      cases moved
      refine ⟨faithful, sent, ?_⟩
      rintro final ⟨⟩
  | running state =>
      simp only [Except.bind, thenRead] at moved
      split at moved
      · rename_i pollin
        rcases recorded.readAck moved (history.datagrams ++
          (history.afterInput input sender).sentBetween sender state.2) with ⟨same, kept⟩
        refine ⟨faithful, sent.trans same.symm, ?_⟩
        intro final goesOn
        rcases kept final goesOn with ⟨later, there⟩
        refine ⟨file, later, ?_⟩
        simp only [History.windowAfter, if_true] at there
        rwa [History.windowAfter, if_pos pollin]
      · rename_i noPollin
        cases moved
        refine ⟨faithful, sent, ?_⟩
        rintro final ⟨⟩
        refine ⟨file, oldest, ?_⟩
        rw [History.windowAfter, if_neg noPollin]
        exact ⟨recorded.holds, recorded.read, recorded.window⟩

end Iterations

theorem logged_start (tpGlobal : Time) (bufAck : Buffer ackSize) :
    Logged crc32 (.running (start tpGlobal bufAck)) .start where
  faithful := by
    intro datagram present
    cases present
  sent := rfl
  recorded := by
    rintro sender ⟨⟩
    exact ⟨⟨[], by simp, by simp⟩, 0, holds_start _ tpGlobal bufAck, rfl, rfl⟩

theorem logged_historyOf {inputs : List SenderInput}
    (reads : ∀ input ∈ inputs, input.newPayload ≠ .failed) (tpGlobal : Time)
    (bufAck : Buffer ackSize) :
    AllFaithful crc32 (historyOf crc32 inputs (start tpGlobal bufAck)) ∧
      ∀ flow, Loop.run (readWriteLoop crc32) inputs (start tpGlobal bufAck) = .ok flow →
        Logged crc32 flow (historyOf crc32 inputs (start tpGlobal bufAck)) := by
  apply Loop.record_invariant _ _ reads (logged_start tpGlobal bufAck)
  · intro flow history logged
    exact logged.faithful
  · intro input sender history read logged
    exact logged_note logged read

/--
The buffer holds the packets for the last positions which have been read, in their order and
with the bytes which have been read. A packet without bytes is the last one, and was read last.
-/
structure Buffers (read : List (List Byte)) (sender : Sender) : Prop where
  few : sender.bufStructure.nodes.length ≤ 31
  wereRead : sender.bufStructure.nodes.length ≤ read.length
  seqNum : sender.seqNum = Serial.wire 8 read.length
  numbered : ∀ index pkt, sender.bufStructure.nodes[index]? = some pkt →
    pkt.seqNum = sender.seqNum - BitVec.ofNat 8 sender.bufStructure.nodes.length +
      BitVec.ofNat 8 index
  described : ∀ index pkt, sender.bufStructure.nodes[index]? = some pkt → ∃ content,
    read[read.length - sender.bufStructure.nodes.length + index]? = some content ∧
      DescribedBy (read.length - sender.bufStructure.nodes.length + index) content pkt ∧
      (content = [] → sender.isLastAckNum = true ∧ index + 1 = sender.bufStructure.nodes.length)

theorem Recorded.buffers {history : History} {sender : Sender}
    (recorded : Recorded file oldest history sender) : Buffers history.read sender := by
  have here := recorded.holds
  have held := here.held
  have few := here.few
  have bounded := here.bounded
  have back : history.read.length - sender.bufStructure.nodes.length = oldest := by omega
  have carries (index : ℕ) (pkt : Pkt) (found : sender.bufStructure.nodes[index]? = some pkt) :
      index < sender.bufStructure.nodes.length ∧ Carries file (oldest + index) pkt := by
    have inside := (List.getElem?_eq_some_iff.mp found).1
    rcases here.carried.getElem? inside with ⟨other, same, carries⟩
    rw [found] at same
    cases same
    exact ⟨inside, carries⟩
  refine ⟨by omega, by omega, here.seqNum, ?_, ?_⟩
  · intro index pkt found
    have split : Serial.wire 8 history.read.length = Serial.wire 8 oldest +
        BitVec.ofNat 8 sender.bufStructure.nodes.length := by
      rw [← held, Serial.wire_add]
      rfl
    rw [(carries index pkt found).2.seqNum, here.seqNum, split, BitVec.add_sub_cancel,
      Serial.wire_add]
    rfl
  · intro index pkt found
    rcases carries index pkt found with ⟨inside, carries⟩
    rw [back]
    refine ⟨_, recorded.getElem?_read (by omega), .of_carries carries, ?_⟩
    intro empty
    have beyond := (file.chunk_eq_nil_iff _).mp empty
    exact ⟨here.isLastAckNum.mpr (by omega), by omega⟩

/-- What is buffered in a run has contiguous numbers and can be sent again. -/
theorem Recorded.buffered {history : History} {sender : Sender}
    (recorded : Recorded file oldest history sender) : Buffered sender where
  sound := recorded.holds.sound
  few := by
    have few := recorded.buffers.few
    omega
  numbered := by
    intro head isHead index pkt found
    have inside := (List.getElem?_eq_some_iff.mp found).1
    rcases recorded.holds.carried.getElem? inside with ⟨other, same, carries⟩
    rw [found] at same
    cases same
    rw [carries.seqNum, Serial.wire_add, recorded.holds.headSeqNum isHead]

/-- Two packets agree on all that is not renewed when a packet is sent again. -/
structure SameData (left right : Pkt) : Prop where
  type : left.type = right.type
  seqNum : left.seqNum = right.seqNum
  length : left.length = right.length
  payload : left.payload = right.payload

theorem DescribedBy.sameData {position : ℕ} {content : List Byte} {left right : Pkt}
    (leftDescribed : DescribedBy position content left)
    (rightDescribed : DescribedBy position content right) : SameData left right where
  type := leftDescribed.type.trans rightDescribed.type.symm
  seqNum := leftDescribed.seqNum.trans rightDescribed.seqNum.symm
  length := BitVec.eq_of_toNat_eq (leftDescribed.length.trans rightDescribed.length.symm)
  payload := leftDescribed.payload.trans rightDescribed.payload.symm

variable (crc32)

/--
In every run in which no `read` of the input fails, whatever is received, the buffer holds
the positions which have been read last, and the datagrams sent for a position are the same
packet up to the timestamp.
-/
theorem run_buffers {inputs : List SenderInput}
    (reads : ∀ input ∈ inputs, input.newPayload ≠ .failed) (tpGlobal : Time)
    (bufAck : Buffer ackSize) :
    (∀ sender, Loop.run (readWriteLoop crc32) inputs (start tpGlobal bufAck) =
        .ok (.running sender) →
      Buffers (historyOf crc32 inputs (start tpGlobal bufAck)).read sender) ∧
    (∀ flow, Loop.run (readWriteLoop crc32) inputs (start tpGlobal bufAck) = .ok flow →
      (historyOf crc32 inputs (start tpGlobal bufAck)).datagrams.map Datagram.data =
        flow.state.sent) ∧
    ∀ datagram ∈ (historyOf crc32 inputs (start tpGlobal bufAck)).datagrams, ∃ content pkt,
      (historyOf crc32 inputs (start tpGlobal bufAck)).read[datagram.position]? = some content ∧
      pktDecode crc32 true datagram.data pktNew = .ok pkt ∧
      DescribedBy datagram.position content pkt ∧
      ∀ other ∈ (historyOf crc32 inputs (start tpGlobal bufAck)).datagrams,
        other.position = datagram.position → ∃ otherPkt,
          pktDecode crc32 true other.data pktNew = .ok otherPkt ∧ SameData pkt otherPkt := by
  rcases @logged_historyOf crc32 inputs reads tpGlobal bufAck with ⟨faithful, logged⟩
  refine ⟨?_, fun flow reached => (logged flow reached).sent, ?_⟩
  · intro sender reached
    rcases (logged _ reached).recorded sender rfl with ⟨file, oldest, recorded⟩
    exact recorded.buffers
  · intro datagram sent
    rcases faithful datagram sent with ⟨content, pkt, read, decodes, described, _⟩
    refine ⟨content, pkt, read, decodes, described, ?_⟩
    intro other otherSent same
    rcases faithful other otherSent with
      ⟨otherContent, otherPkt, otherRead, otherDecodes, otherDescribed, _⟩
    rw [same] at otherRead otherDescribed
    rw [read] at otherRead
    cases otherRead
    exact ⟨otherPkt, otherDecodes, described.sameData otherDescribed⟩

/-- At the top of the loop, the buffer has contiguous numbers in every run. -/
theorem run_buffered {inputs : List SenderInput}
    (reads : ∀ input ∈ inputs, input.newPayload ≠ .failed) (tpGlobal : Time)
    (bufAck : Buffer ackSize) {sender : Sender}
    (reached : Loop.run (readWriteLoop crc32) inputs (start tpGlobal bufAck) =
      .ok (.running sender)) : sender.Buffered := by
  rcases ((logged_historyOf reads tpGlobal bufAck).2 _ reached).recorded sender rfl with
    ⟨file, oldest, recorded⟩
  exact recorded.buffered

/-- A byte is sent and acknowledged, then another one, and the end of the input. -/
def historyExample : List SenderInput :=
  [sendExample (byteExample 7),
    { sendExample (byteExample 8) with
      poll := .ready ⟨true, false⟩
      ackRead := ackOneExample },
    sendExample (byteExample 8), sendExample (.bytes [] (Nat.zero_le _))]

def historyExampleFinal : Sender :=
  match Loop.run (readWriteLoop Crc.zlib) historyExample (start 0 (.zeros ackSize)) with
  | .ok flow => flow.state
  | .error _ => start 0 (.zeros ackSize)

theorem run_buffers_example :
    Loop.run (readWriteLoop Crc.zlib) historyExample (start 0 (.zeros ackSize)) =
        .ok (.running historyExampleFinal) ∧
      Buffers (historyOf Crc.zlib historyExample (start 0 (.zeros ackSize))).read
        historyExampleFinal := by
  have runs : Loop.run (readWriteLoop Crc.zlib) historyExample (start 0 (.zeros ackSize)) =
      .ok (.running historyExampleFinal) := by
    decide +kernel
  exact ⟨runs, (run_buffers Crc.zlib (by decide) 0 (.zeros ackSize)).1 _ runs⟩

/--
In every run in which no `read` of the input fails, whatever is received, each datagram which
is sent lies inside the window advertised last, counted from the oldest buffered packet.
-/
theorem run_inWindow {inputs : List SenderInput}
    (reads : ∀ input ∈ inputs, input.newPayload ≠ .failed) (tpGlobal : Time)
    (bufAck : Buffer ackSize) :
    (∀ flow, Loop.run (readWriteLoop crc32) inputs (start tpGlobal bufAck) = .ok flow →
      (historyOf crc32 inputs (start tpGlobal bufAck)).datagrams.map Datagram.data =
        flow.state.sent) ∧
    ∀ datagram ∈ (historyOf crc32 inputs (start tpGlobal bufAck)).datagrams, ∃ pkt,
      pktDecode crc32 true datagram.data pktNew = .ok pkt ∧
      Serial.dist datagram.oldest pkt.seqNum < datagram.window := by
  rcases @logged_historyOf crc32 inputs reads tpGlobal bufAck with ⟨faithful, logged⟩
  refine ⟨fun flow reached => (logged flow reached).sent, ?_⟩
  intro datagram sent
  rcases faithful datagram sent with ⟨content, pkt, read, decodes, described, near⟩
  exact ⟨pkt, decodes, near⟩

theorem run_inWindow_example :
    (historyOf Crc.zlib historyExample (start 0 (.zeros ackSize))).datagrams.length = 5 ∧
    ∀ datagram ∈ (historyOf Crc.zlib historyExample (start 0 (.zeros ackSize))).datagrams,
      ∃ pkt, pktDecode Crc.zlib true datagram.data pktNew = .ok pkt ∧
      Serial.dist datagram.oldest pkt.seqNum < datagram.window :=
  ⟨by decide +kernel, (run_inWindow Crc.zlib (by decide) 0 (.zeros ackSize)).2⟩

end Sender

end ReliableTransfer
