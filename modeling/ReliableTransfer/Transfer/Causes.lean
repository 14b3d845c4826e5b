import ReliableTransfer.Sender.Timer
import ReliableTransfer.Transfer.History

/-!
# Why a packet is sent again

The scan of the sender looks at nothing but the timestamp of a packet, in which
the time of the last transmission and the mark of a `NACK` share one field. A
record beside the run keeps them apart: for each buffered packet its number, the
time of its last transmission, and whether a `NACK` has asked for it since.

In every run the field says the same as the record. Hence a packet is sent again
only if it has been asked for since its last transmission, or if more time has
passed since then than the timer allows. If the socket stays writable, it is the
first such packet in the window.
-/

namespace ReliableTransfer.Sender

open QueueSender

/-- The last transmission of a packet, and whether a `NACK` has asked for another one since. -/
structure Transmission where
  seqNum : BitVec 8
  time : Time
  asked : Bool
  deriving DecidableEq

def Transmission.repeated (transmission : Transmission) (time : Time) : Transmission :=
  { transmission with time := time, asked := false }

/-- The first packet with this number is asked for. -/
def askFirst (seqNum : BitVec 8) : List Transmission → List Transmission
  | [] => []
  | transmission :: rest =>
      if transmission.seqNum = seqNum then { transmission with asked := true } :: rest
      else transmission :: askFirst seqNum rest

/-- The record once a new packet has been sent, if one is. -/
def recordSent (input : SenderInput) (sender : Sender) (record : List Transmission) :
    List Transmission :=
  if sender.ReadsInput input ∧ input.newPayload ≠ .failed then
    record ++ [⟨sender.seqNum, input.stampTime, false⟩]
  else record

variable (crc32 : List Byte → BitVec 32)

/-- The record when an iteration tests `POLLIN`. -/
def recordAtAnswer (input : SenderInput) (sender : Sender) (record : List Transmission) :
    List Transmission :=
  match resentIndex crc32 input sender with
  | none => recordSent input sender record
  | some index => (recordSent input sender record).modify index
      (Transmission.repeated · (input.scan index).stamp)

/-- The number of the `NACK` which an iteration decodes, if it does. -/
def decodedNack (input : SenderInput) (sender : Sender) : Option (BitVec 8) :=
  match untilRead crc32 input sender with
  | .ok (.running (revents, last)) =>
      if revents.pollin then
        match pktDecode crc32 true (last.afterRead input).bufAck.val pktNew with
        | .ok pktNack => if pktNack.type = ptypeNack then some pktNack.seqNum else none
        | .error _ => none
      else none
  | _ => none

/-- The record after an iteration. What it removes from the buffer is the oldest packets. -/
def noteTransmissions (input : SenderInput) (sender : Sender) (record : List Transmission) :
    List Transmission :=
  let record := recordAtAnswer crc32 input sender record
  let record := match decodedNack crc32 input sender with
    | none => record
    | some seqNum => askFirst seqNum record
  match readWriteLoop crc32 input sender with
  | .error _ => record
  | .ok flow => record.drop (record.length - flow.state.bufStructure.nodes.length)

/-- The last transmission of each buffered packet, at the end of a run. -/
def transmissions (inputs : List SenderInput) (origin : Sender) : List Transmission :=
  Loop.record (readWriteLoop crc32) (noteTransmissions crc32) inputs origin []

/-- A packet has been asked for, or the timer is out for it at this time. -/
def Cause (timer : BitVec 32) (now : Time) (transmission : Transmission) : Prop :=
  transmission.asked = true ∨ timer.toInt < (now.toNat : ℤ) - transmission.time.toNat

/-- What the scan sends again, as far as the record can tell. -/
inductive Repeats (scan : ℕ → ScanInput) (record : List Transmission) (before : Sender) :
    Sender → Prop where
  | nothing : Repeats scan record before before
  | again (front : List Pkt) (pkt : Pkt) (back : List Pkt) (transmission : Transmission)
      (nodes : before.bufStructure.nodes = front ++ pkt :: back)
      (recorded : record[front.length]? = some transmission)
      (number : pkt.seqNum = transmission.seqNum)
      (near : front.length < before.sizeBuffer)
      (cause : Cause before.timer (scan front.length).timeNow transmission) :
      Repeats scan record before
        (before.afterResend crc32 front pkt back (scan front.length).stamp)

/-- A packet of the window has a cause to be sent again, and is the first such packet. -/
structure FirstCause (scan : ℕ → ScanInput) (record : List Transmission) (sender : Sender)
    (index : ℕ) (transmission : Transmission) : Prop where
  recorded : record[index]? = some transmission
  near : index < sender.sizeBuffer
  cause : Cause sender.timer (scan index).timeNow transmission
  first : ∀ earlier < index, ∀ other, record[earlier]? = some other →
    ¬Cause sender.timer (scan earlier).timeNow other

section Describing

variable {α : Type u} {β : Type v} {related : α → β → Prop} {left : List α} {right : List β}

/-- An element is replaced on one side, and changed in place on the other. -/
theorem forall₂_modify {front back : List α} {element fresh : α}
    (all : List.Forall₂ related (front ++ element :: back) right) (change : β → β)
    (here : ∀ other, related element other → related fresh (change other)) :
    List.Forall₂ related (front ++ fresh :: back) (right.modify front.length change) := by
  induction front generalizing right with
  | nil =>
      rcases all with _ | ⟨first, others⟩
      exact .cons (here _ first) others
  | cons head rest ih =>
      rcases all with _ | ⟨first, others⟩
      exact .cons first (ih others)

theorem forall₂_suffix {rest : List α} (all : List.Forall₂ related left right)
    (suffix : rest <:+ left) :
    List.Forall₂ related rest (right.drop (right.length - rest.length)) := by
  rcases suffix with ⟨removed, rfl⟩
  have count : right.length - rest.length = removed.length := by
    rw [← all.length_eq, List.length_append, Nat.add_sub_cancel]
  have later := List.forall₂_drop removed.length all
  rwa [List.drop_left, ← count] at later

theorem forall₂_getElem? (all : List.Forall₂ related left right) {index : ℕ} {element : α}
    (found : left[index]? = some element) :
    ∃ other, right[index]? = some other ∧ related element other := by
  rcases List.getElem?_eq_some_iff.mp found with ⟨inside, rfl⟩
  have insideRight : index < right.length := all.length_eq ▸ inside
  exact ⟨right[index], List.getElem?_eq_getElem insideRight, all.get inside insideRight⟩

end Describing

/-- The packet is the one which has been recorded, up to the time `now`. -/
structure Describes (now : ℕ) (pkt : Pkt) (transmission : Transmission) : Prop where
  seqNum : pkt.seqNum = transmission.seqNum
  timestamp : pkt.timestamp = if transmission.asked then 0 else transmission.time.setWidth 32
  positive : 1 ≤ transmission.time.toNat
  past : transmission.time.toNat ≤ now

/-- The record describes each packet of the buffer. -/
structure Recounts (now : ℕ) (record : List Transmission) (sender : Sender) : Prop where
  sound : sender.Sound
  described : List.Forall₂ (Describes now) sender.bufStructure.nodes record

theorem Describes.later {now later : ℕ} {pkt : Pkt} {transmission : Transmission}
    (describes : Describes now pkt transmission) (order : now ≤ later) :
    Describes later pkt transmission :=
  ⟨describes.seqNum, describes.timestamp, describes.positive, describes.past.trans order⟩

theorem Recounts.later {now later : ℕ} {record : List Transmission} {sender : Sender}
    (recounts : Recounts now record sender) (order : now ≤ later) :
    Recounts later record sender where
  sound := recounts.sound
  described := recounts.described.imp fun _ _ describes => describes.later order

/-- Below 2^31 seconds, the test of the scan compares the time which has passed. -/
theorem due_iff_cause {now : ℕ} {sender : Sender} {pkt : Pkt} {transmission : Transmission}
    (describes : Describes now pkt transmission) {timeNow : Time} (order : now ≤ timeNow.toNat)
    (bounded : timeNow.toNat < 2 ^ 31) :
    sender.due timeNow pkt = true ↔ Cause sender.timer timeNow transmission := by
  have positive := describes.positive
  have past := describes.past
  rw [due, Cause, describes.timestamp]
  cases transmission.asked with
  | true => simp
  | false =>
      have nowFits : (timeNow.setWidth 32).toNat = timeNow.toNat := by
        rw [BitVec.toNat_setWidth]
        omega
      have timeFits : (transmission.time.setWidth 32).toNat = transmission.time.toNat := by
        rw [BitVec.toNat_setWidth]
        omega
      have unmarked : transmission.time.setWidth 32 ≠ 0 := by
        intro zero
        rw [zero] at timeFits
        have : (0 : BitVec 32).toNat = 0 := rfl
        omega
      have passed : (timeNow.setWidth 32 - transmission.time.setWidth 32).toInt =
          (timeNow.toNat : ℤ) - transmission.time.toNat := by
        rw [BitVec.toInt_eq_toNat_cond, BitVec.toNat_sub, nowFits, timeFits]
        split <;> omega
      simp only [Bool.false_eq_true, if_false, unmarked, decide_false, Bool.or_false,
        BitVec.slt_iff_toInt_lt, passed, false_or]

theorem recounts_start (tpGlobal : Time) (bufAck : Buffer ackSize) (now : ℕ) :
    Recounts now [] (start tpGlobal bufAck) where
  sound := ⟨rfl, by rintro pkt ⟨⟩⟩
  described := .nil

variable {crc32}

theorem Recounts.afterSend {now : ℕ} {record : List Transmission} {sender : Sender}
    (recounts : Recounts now record sender) {pkt : Pkt} (sendable : Sendable pkt)
    {transmission : Transmission} (describes : Describes now pkt transmission) (isEnd : Bool)
    (sendTime : Time) :
    Recounts now (record ++ [transmission]) (sender.afterSend crc32 pkt isEnd sendTime) where
  sound := sound_afterSend crc32 recounts.sound sendable isEnd sendTime
  described := by
    have last : Describes now (pkt.withCrcs crc32) transmission :=
      ⟨describes.seqNum, describes.timestamp, describes.positive, describes.past⟩
    exact List.rel_append recounts.described (.cons last .nil)

theorem Recounts.sends {now : ℕ} {record : List Transmission} {input : SenderInput}
    {before middle : Sender} (recounts : Recounts now record before) (positive : 1 ≤ now)
    (inOrder : InOrder now input)
    (sends : if before.ReadsInput input then send crc32 input before = .ok middle
      else middle = before) :
    Recounts input.stampTime.toNat (recordSent input before record) middle := by
  have order := inOrder.le_stampTime
  have fresh (pkt : Pkt) (number : pkt.seqNum = before.seqNum)
      (stamp : pkt.timestamp = input.stampTime.setWidth 32) :
      Describes input.stampTime.toNat pkt ⟨before.seqNum, input.stampTime, false⟩ :=
    ⟨number, stamp, positive.trans order, le_rfl⟩
  rw [recordSent]
  by_cases reads : before.ReadsInput input
  · rw [if_pos reads, send] at sends
    cases read : input.newPayload with
    | failed =>
        rw [if_neg (by simp [ReadResult.count, read]), sendData_failed crc32 read] at sends
        cases sends
        rw [if_neg (by simp)]
        have kept := recounts.later order
        exact ⟨⟨kept.sound.consistent, kept.sound.sendable⟩, kept.described⟩
    | bytes data fits =>
        rw [if_pos ⟨reads, by simp⟩]
        split at sends
        · rw [sendEnd_eq crc32 recounts.sound.consistent] at sends
          cases sends
          exact (recounts.later order).afterSend (sendable_endPkt _ _) (fresh _ rfl rfl) _ _
        · rw [sendData_eq crc32 recounts.sound.consistent read reads.2.2.2] at sends
          cases sends
          exact (recounts.later order).afterSend (sendable_dataPkt fits _ _) (fresh _ rfl rfl) _ _
  · rw [if_neg reads] at sends
    rw [if_neg (fun both => reads both.1), sends]
    exact recounts.later order

theorem Recounts.afterResend {now : ℕ} {record : List Transmission} {sender : Sender}
    (recounts : Recounts now record sender) {front back : List Pkt} {pkt : Pkt}
    (nodes : sender.bufStructure.nodes = front ++ pkt :: back) {stamp : Time}
    (positive : 1 ≤ stamp.toNat) (past : stamp.toNat ≤ now) :
    Recounts now (record.modify front.length (Transmission.repeated · stamp))
      (sender.afterResend crc32 front pkt back stamp) where
  sound := (Resending.again front pkt back stamp nodes : Resending crc32 sender _).sound
    recounts.sound
  described := by
    have former := recounts.described
    rw [nodes] at former
    apply forall₂_modify former
    intro transmission describes
    exact ⟨describes.seqNum, rfl, positive, past⟩

/-- The record as it is when the scan is over, whether it has been come to or not. -/
theorem Recounts.untilRead {now : ℕ} {record : List Transmission} {input : SenderInput}
    {sender : Sender} (recounts : Recounts now record sender) (positive : 1 ≤ now)
    (inOrder : InOrder now input) {flow : LoopFlow (Revents × Sender) SenderExit}
    (untils : Sender.untilRead crc32 input sender = .ok flow) :
    Recounts input.ackTime.toNat (recordAtAnswer crc32 input sender record) flow.state.2 := by
  rcases untilRead_scans crc32 recounts.sound input with ⟨middle, sends, scans⟩
  have sent := recounts.sends positive inOrder sends
  have untilScan := (inOrder.le_scan 0).trans (inOrder.stamp 0)
  have answered := sent.later (untilScan.trans (inOrder.ackTime 0))
  rw [recordAtAnswer, resentIndex]
  rcases scans with ⟨none, other, others, same, _⟩ | ⟨revents, comes, resends⟩
  · rw [others] at untils
    cases untils
    rw [none, same]
    exact answered
  · rw [resends, resend_eq crc32 sent.sound] at untils
    cases untils
    rw [comes]
    rcases outcome : middle.scanned input.scan revents with ⟨result, polled⟩
    simp only [outcome]
    cases result with
    | nothing => exact answered
    | pollError => exact answered
    | again index =>
        rcases scanned_again outcome with ⟨front, pkt, back, nodes, rfl, _⟩
        rw [afterScan, LoopFlow.state, resendAt_append crc32 _ nodes]
        exact answered.afterResend nodes (positive.trans (inOrder.le_stamp _)) (inOrder.ackTime _)

/-- A mark is made in the buffer and in the record at the same place. -/
theorem describes_markNodes {now : ℕ} (seqNum : BitVec 8) {nodes : List Pkt}
    {record : List Transmission} (described : List.Forall₂ (Describes now) nodes record) :
    List.Forall₂ (Describes now) (markNodes seqNum nodes) (askFirst seqNum record) := by
  induction described with
  | nil => exact .nil
  | @cons pkt transmission _ _ first others ih =>
      have number := first.seqNum
      by_cases same : pkt.seqNum = seqNum
      · rw [markNodes, if_pos same, askFirst, if_pos (number.symm.trans same)]
        exact .cons ⟨number, rfl, first.positive, first.past⟩ others
      · rw [markNodes, if_neg same, askFirst, if_neg (number ▸ same)]
        exact .cons first ih

/-- A `NACK` marks the buffer. Any other answer at most removes the oldest packets. -/
theorem handleAnswer_nodes {rttTime : Time} {sender next : Sender} {pktAck : Pkt}
    (consistent : sender.bufStructure.Consistent)
    (handles : sender.handleAnswer rttTime pktAck = .ok (.running next)) :
    (pktAck.type = ptypeNack ∧
        next.bufStructure.nodes = markNodes pktAck.seqNum sender.bufStructure.nodes) ∨
      (pktAck.type ≠ ptypeNack ∧ next.bufStructure.nodes <:+ sender.bufStructure.nodes) := by
  by_cases isNack : pktAck.type = ptypeNack
  · have notAck : pktAck.type ≠ ptypeAck := by
      rw [isNack]
      decide
    rw [handleAnswer, if_neg notAck, if_pos isNack] at handles
    split at handles
    · cases handles
    · cases handles
      exact .inl ⟨isNack, rfl⟩
  · have answering := handleAnswer_answering consistent rttTime pktAck
    rw [handles] at answering
    refine .inr ⟨isNack, ?_⟩
    cases answering with
    | acknowledges notLast isAck after acknowledging =>
        cases acknowledging with
        | unknown => exact List.suffix_refl _
        | outside => exact List.suffix_refl _
        | deletes => exact remaining_suffix _ _
    | marks type => exact absurd type isNack
    | ignores => exact List.suffix_refl _

theorem Recounts.note {now : ℕ} {record : List Transmission} {input : SenderInput}
    {sender next : Sender} (recounts : Recounts now record sender) (positive : 1 ≤ now)
    (inOrder : InOrder now input)
    (moved : readWriteLoop crc32 input sender = .ok (.running next)) :
    Recounts input.rttTime.toNat (noteTransmissions crc32 input sender record) next := by
  refine Recounts.later ⟨sound_of_moved recounts.sound moved, ?_⟩ inOrder.rttTime
  rcases running_cases moved with ⟨revents, last, untils, answered⟩
  have atAnswer : Recounts input.ackTime.toNat (recordAtAnswer crc32 input sender record) last :=
    recounts.untilRead positive inOrder untils
  rw [noteTransmissions, moved, decodedNack, untils]
  rcases answered with ⟨unread, rfl⟩ | ⟨pollin, ⟨code, fails, rfl⟩ | ⟨pktAck, decodes, handles⟩⟩
  · simp only [unread, Bool.false_eq_true, if_false]
    exact forall₂_suffix atAnswer.described (List.suffix_refl _)
  · simp only [pollin, if_true, fails]
    exact forall₂_suffix atAnswer.described (List.suffix_refl _)
  · simp only [pollin, if_true, decodes]
    rcases handleAnswer_nodes (sound_afterRead atAnswer.sound input).consistent handles with
      ⟨isNack, marked⟩ | ⟨otherType, suffix⟩
    · have kept := describes_markNodes pktAck.seqNum atAnswer.described
      simp only [isNack, if_true, LoopFlow.state_running, marked]
      exact forall₂_suffix kept (List.suffix_refl _)
    · simp only [otherType, if_false]
      exact forall₂_suffix atAnswer.described suffix

/-- In every run the record describes the buffer. -/
theorem run_recounts {tpGlobal : Time} {bufAck : Buffer ackSize} {inputs : List SenderInput}
    (clock : ClockRuns 1 inputs) {sender : Sender}
    (reached : Loop.run (readWriteLoop crc32) inputs (start tpGlobal bufAck) =
      .ok (.running sender)) :
    Recounts (clockAfter 1 inputs) (transmissions crc32 inputs (start tpGlobal bufAck))
      sender := by
  apply @Loop.record_induction _ _ _ _ (readWriteLoop crc32) _ (noteTransmissions crc32)
    (start tpGlobal bufAck) [] (fun inputs record sender => ClockRuns 1 inputs →
      Recounts (clockAfter 1 inputs) record sender) _ _ _ _ reached clock
  · intro _
    exact recounts_start tpGlobal bufAck _
  · intro before input record state next recounts moved clock
    rcases clockRuns_append.mp clock with ⟨earlier, inOrder, _⟩
    rw [clockAfter_snoc]
    exact (recounts earlier).note earlier.le_clockAfter inOrder moved

/-- When the scan is come to, the numbers in the buffer are contiguous. -/
theorem buffered_middle {inputs : List SenderInput} {input : SenderInput}
    (reads : ∀ other ∈ inputs ++ [input], other.newPayload ≠ .failed) (tpGlobal : Time)
    (bufAck : Buffer ackSize) {sender middle : Sender}
    (reached : Loop.run (readWriteLoop crc32) inputs (start tpGlobal bufAck) =
      .ok (.running sender))
    (sends : if sender.ReadsInput input then send crc32 input sender = .ok middle
      else middle = sender) : middle.Buffered := by
  have earlier : ∀ other ∈ inputs, other.newPayload ≠ .failed :=
    fun other present => reads other (List.mem_append_left _ present)
  rcases ((logged_historyOf earlier tpGlobal bufAck).2 _ reached).recorded sender rfl with
    ⟨file, oldest, recorded⟩
  rcases recorded.send (reads input (by simp)) sends with ⟨file, recordedMiddle, _⟩
  exact recordedMiddle.buffered

theorem InOrder.scan_le_rttTime {now : ℕ} {input : SenderInput} (inOrder : InOrder now input)
    (index : ℕ) : (input.scan index).timeNow.toNat ≤ input.rttTime.toNat :=
  ((inOrder.stamp index).trans (inOrder.ackTime index)).trans inOrder.rttTime

/-- A packet is overdue exactly if the record gives a cause to send it again. -/
def DecidedBy (scan : ℕ → ScanInput) (record : List Transmission) (sender : Sender) : Prop :=
  ∀ index pkt, sender.bufStructure.nodes[index]? = some pkt →
    ∃ transmission, record[index]? = some transmission ∧ pkt.seqNum = transmission.seqNum ∧
      (sender.Overdue scan index pkt ↔ index < sender.sizeBuffer ∧
        Cause sender.timer (scan index).timeNow transmission)

theorem Recounts.decidedBy {now : ℕ} {record : List Transmission} {sender : Sender}
    (recounts : Recounts now record sender) (buffered : sender.Buffered) {scan : ℕ → ScanInput}
    (order : ∀ index, now ≤ (scan index).timeNow.toNat)
    (bounded : ∀ index, (scan index).timeNow.toNat < 2 ^ 31) : DecidedBy scan record sender := by
  intro index pkt found
  rcases forall₂_getElem? recounts.described found with ⟨transmission, recorded, describes⟩
  refine ⟨transmission, recorded, describes.seqNum, ?_⟩
  rw [Overdue, buffered.inWindow_iff found,
    due_iff_cause describes (order index) (bounded index)]

variable (crc32) in
/-- A packet which is sent again has a cause. -/
theorem repeats_afterScan {record : List Transmission} {sender : Sender} {scan : ℕ → ScanInput}
    (decided : DecidedBy scan record sender) (revents : Revents) :
    Repeats crc32 scan record sender
      (sender.afterScan crc32 scan (sender.scanned scan revents)).state.2 := by
  rcases outcome : sender.scanned scan revents with ⟨result, polled⟩
  cases result with
  | nothing => exact .nothing
  | pollError => exact .nothing
  | again index =>
      rcases scanned_again outcome with ⟨front, pkt, back, nodes, rfl, near, isDue, _⟩
      rcases decided front.length pkt (by simp [nodes]) with
        ⟨transmission, recorded, number, decides⟩
      rcases decides.mp ⟨near, isDue⟩ with ⟨inside, cause⟩
      rw [afterScan, LoopFlow.state, resendAt_append crc32 _ nodes]
      exact .again front pkt back transmission nodes recorded number inside cause

/-- The first packet which is overdue is the first one with a cause. -/
theorem Picks.firstCause {record : List Transmission} {sender after : Sender}
    {scan : ℕ → ScanInput} (picks : Picks crc32 scan sender after)
    (decided : DecidedBy scan record sender)
    (all : record.length = sender.bufStructure.nodes.length) {index : ℕ}
    {transmission : Transmission}
    (firstCause : FirstCause scan record sender index transmission) :
    after = sender.resendAt crc32 index (scan index).stamp := by
  have inside : index < sender.bufStructure.nodes.length := by
    rw [← all]
    exact (List.getElem?_eq_some_iff.mp firstCause.recorded).1
  have found := List.getElem?_eq_getElem inside
  have overdue : sender.Overdue scan index sender.bufStructure.nodes[index] := by
    rcases decided index _ found with ⟨other, recorded, _, decides⟩
    rw [firstCause.recorded] at recorded
    cases recorded
    exact decides.mpr ⟨firstCause.near, firstCause.cause⟩
  cases picks with
  | nothing none => exact absurd overdue (none index _ found)
  | first front pkt back nodes picked earlier =>
      have place : sender.bufStructure.nodes[front.length]? = some pkt := by simp [nodes]
      rcases Nat.lt_trichotomy front.length index with before | same | behind
      · rcases decided front.length pkt place with ⟨other, recorded, _, decides⟩
        exact absurd (decides.mp picked).2 (firstCause.first _ before other recorded)
      · rw [← same, resendAt_append crc32 _ nodes]
      · exact absurd overdue (earlier index behind _ found)

variable (crc32) in
/--
In every run in which the clock does not go back and no `read` of the input fails, whatever is
received, the next scan sends a packet again only if a `NACK` has asked for it since its last
transmission, or if more time has passed since then than the timer allows. If the socket stays
writable, it sends the first such packet of the window, whenever there is one.
-/
theorem run_causes {tpGlobal : Time} {bufAck : Buffer ackSize} {inputs : List SenderInput}
    {input : SenderInput} (reads : ∀ other ∈ inputs ++ [input], other.newPayload ≠ .failed)
    (clock : ClockRuns 1 (inputs ++ [input])) {sender : Sender}
    (reached : Loop.run (readWriteLoop crc32) inputs (start tpGlobal bufAck) =
      .ok (.running sender))
    {revents : Revents} {middle : Sender}
    (comes : scansAt crc32 input sender = some (revents, middle)) :
    ∃ flow, untilRead crc32 input sender = .ok flow ∧
      Repeats crc32 input.scan
        (recordSent input sender (transmissions crc32 inputs (start tpGlobal bufAck)))
        middle flow.state.2 ∧
      (middle.StaysWritable input.scan → ∀ index transmission,
        FirstCause input.scan
          (recordSent input sender (transmissions crc32 inputs (start tpGlobal bufAck)))
          middle index transmission →
        flow.state.2 = middle.resendAt crc32 index (input.scan index).stamp) := by
  rcases clockRuns_append.mp clock with ⟨earlier, inOrder, _⟩
  have recounts := run_recounts earlier reached
  rcases untilRead_scans crc32 recounts.sound input with
    ⟨other, sends, ⟨none, _⟩ | ⟨others, same, untils⟩⟩
  · rw [comes] at none
    cases none
  rw [comes] at same
  cases same
  have sent := recounts.sends earlier.le_clockAfter inOrder sends
  have buffered := buffered_middle reads tpGlobal bufAck reached sends
  have decided : DecidedBy input.scan _ middle := sent.decidedBy buffered inOrder.le_scan
    (fun index => Nat.lt_of_le_of_lt (inOrder.scan_le_rttTime index) inOrder.bounded)
  have resends := resend_eq crc32 sent.sound input.scan revents
  refine ⟨_, untils.trans resends, repeats_afterScan crc32 decided revents, ?_⟩
  intro writable index transmission firstCause
  rcases resend_first crc32 buffered writable revents with ⟨polled, after, resent, picks⟩
  rw [resends] at resent
  rw [Except.ok.inj resent]
  exact picks.firstCause decided sent.described.length_eq.symm firstCause

/-- Packet 0 is sent, and a `NACK` for it arrives. The next packet is not read, since none fits. -/
def askedInputs : List SenderInput :=
  [clockedExample 1540000000 (sendExample (byteExample 7)),
    clockedExample 1540000000
      { sendExample (byteExample 8) with poll := .ready ⟨true, false⟩, ackRead := nackZeroExample }]

def askedInput : SenderInput :=
  clockedExample 1540000000 (sendExample (byteExample 8))

theorem run_causes_example :
    transmissions Crc.zlib askedInputs (start 1540000000 (.zeros ackSize)) =
      [⟨0, 1540000000, true⟩] ∧
    ∃ flow, untilRead Crc.zlib askedInput (clockedRunExample askedInputs) = .ok flow ∧
      Repeats Crc.zlib askedInput.scan
        (recordSent askedInput (clockedRunExample askedInputs)
          (transmissions Crc.zlib askedInputs (start 1540000000 (.zeros ackSize))))
        (clockedRunExample askedInputs) flow.state.2 ∧
      ((clockedRunExample askedInputs).StaysWritable askedInput.scan → ∀ index transmission,
        FirstCause askedInput.scan
          (recordSent askedInput (clockedRunExample askedInputs)
            (transmissions Crc.zlib askedInputs (start 1540000000 (.zeros ackSize))))
          (clockedRunExample askedInputs) index transmission →
        flow.state.2 = (clockedRunExample askedInputs).resendAt Crc.zlib index
          (askedInput.scan index).stamp) := by
  refine ⟨by decide +kernel, ?_⟩
  apply @run_causes Crc.zlib 1540000000 (.zeros ackSize) askedInputs askedInput _ _ _ _
    ⟨false, true⟩
  · decide +kernel
  · decide
  · exact ⟨inOrder_clockedExample _ (by decide) (by decide),
      inOrder_clockedExample _ (by decide) (by decide),
      inOrder_clockedExample _ (by decide) (by decide), trivial⟩
  · decide +kernel

end ReliableTransfer.Sender
