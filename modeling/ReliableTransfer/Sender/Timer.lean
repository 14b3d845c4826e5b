import Mathlib.Data.List.Forall2
import ReliableTransfer.Sender.Answers

/-!
# The retransmission timer

The first `ACK` which matches a buffered packet sets the timer to twice the time
since the timestamp of that packet. A record beside the run holds the clock time
at which each buffered packet has been sent last, whether as a new packet or
again. The timestamp of a packet is this time, unless a `NACK` has set it to 0.

Hence the timer is twice the time since the last transmission, computed without
overflow, exactly if the packet is not marked and less than 2^30 seconds have
passed.
-/

namespace ReliableTransfer.Sender

open QueueSender

variable (crc32 : List Byte → BitVec 32)

/--
The readings of one iteration, in the order in which they are taken. One which is not taken
has no effect, and is put between the others.
-/
structure InOrder (now : ℕ) (input : SenderInput) : Prop where
  tpNow : now ≤ input.tpNow.toNat
  sendTime : input.tpNow.toNat ≤ input.sendTime.toNat
  stampTime : input.sendTime.toNat ≤ input.stampTime.toNat
  scanStart : input.stampTime.toNat ≤ (input.scan 0).timeNow.toNat
  stamp : ∀ index, (input.scan index).timeNow.toNat ≤ (input.scan index).stamp.toNat
  scanNext : ∀ index,
    (input.scan index).stamp.toNat ≤ (input.scan (index + 1)).timeNow.toNat
  ackTime : ∀ index, (input.scan index).stamp.toNat ≤ input.ackTime.toNat
  rttTime : input.ackTime.toNat ≤ input.rttTime.toNat
  bounded : input.rttTime.toNat < 2 ^ 31

/-- The clock never goes back from a time on, and stays below 2^31 seconds. -/
def ClockRuns : ℕ → List SenderInput → Prop
  | _, [] => True
  | now, input :: rest => InOrder now input ∧ ClockRuns input.rttTime.toNat rest

/-- The last reading of the clock. -/
def clockAfter : ℕ → List SenderInput → ℕ
  | now, [] => now
  | _, input :: rest => clockAfter input.rttTime.toNat rest

theorem clockAfter_snoc (now : ℕ) (inputs : List SenderInput) (input : SenderInput) :
    clockAfter now (inputs ++ [input]) = input.rttTime.toNat := by
  induction inputs generalizing now with
  | nil => rfl
  | cons first rest ih => exact ih _

theorem clockRuns_append {now : ℕ} {before after : List SenderInput} :
    ClockRuns now (before ++ after) ↔
      ClockRuns now before ∧ ClockRuns (clockAfter now before) after := by
  induction before generalizing now with
  | nil => simp [ClockRuns, clockAfter]
  | cons first rest ih => simp only [List.cons_append, ClockRuns, clockAfter, ih, and_assoc]

theorem InOrder.le_stampTime {now : ℕ} {input : SenderInput} (inOrder : InOrder now input) :
    now ≤ input.stampTime.toNat :=
  (inOrder.tpNow.trans inOrder.sendTime).trans inOrder.stampTime

theorem InOrder.le_scan {now : ℕ} {input : SenderInput} (inOrder : InOrder now input)
    (index : ℕ) : input.stampTime.toNat ≤ (input.scan index).timeNow.toNat := by
  induction index with
  | zero => exact inOrder.scanStart
  | succ index ih =>
      have stamp := inOrder.stamp index
      have next := inOrder.scanNext index
      omega

theorem InOrder.le_stamp {now : ℕ} {input : SenderInput} (inOrder : InOrder now input)
    (index : ℕ) : now ≤ (input.scan index).stamp.toNat :=
  (inOrder.le_stampTime.trans (inOrder.le_scan index)).trans (inOrder.stamp index)

theorem InOrder.le_rttTime {now : ℕ} {input : SenderInput} (inOrder : InOrder now input) :
    now ≤ input.rttTime.toNat :=
  ((inOrder.le_stamp 0).trans (inOrder.ackTime 0)).trans inOrder.rttTime

theorem ClockRuns.le_clockAfter {now : ℕ} {inputs : List SenderInput}
    (clock : ClockRuns now inputs) : now ≤ clockAfter now inputs := by
  induction inputs generalizing now with
  | nil => exact le_rfl
  | cons input rest ih => exact clock.1.le_rttTime.trans (ih clock.2)

/-- The index of the packet which an iteration sends again, if it does. -/
def resentIndex (input : SenderInput) (sender : Sender) : Option ℕ :=
  match scansAt crc32 input sender with
  | none => none
  | some (revents, middle) =>
      match (middle.scanned input.scan revents).1 with
      | .again index => some index
      | _ => none

/-- The times for the buffered packets once a new packet has been sent, if one is. -/
def timesSent (input : SenderInput) (sender : Sender) (times : List Time) : List Time :=
  if sender.ReadsInput input ∧ input.newPayload ≠ .failed then times ++ [input.stampTime] else times

/-- The times for the buffered packets when an iteration tests `POLLIN`. -/
def timesAtAnswer (input : SenderInput) (sender : Sender) (times : List Time) : List Time :=
  match resentIndex crc32 input sender with
  | none => timesSent input sender times
  | some index => (timesSent input sender times).set index (input.scan index).stamp

/-- The times after an iteration. What it removes from the buffer is the oldest packets. -/
def noteTimes (input : SenderInput) (sender : Sender) (times : List Time) : List Time :=
  let times := timesAtAnswer crc32 input sender times
  match readWriteLoop crc32 input sender with
  | .error _ => times
  | .ok flow => times.drop (times.length - flow.state.bufStructure.nodes.length)

/-- The time of the last transmission of each buffered packet, at the end of a run. -/
def lastTransmissions (inputs : List SenderInput) (origin : Sender) : List Time :=
  Loop.record (readWriteLoop crc32) (noteTimes crc32) inputs origin []

/-- The timestamp is the time of the transmission, or the packet is marked. -/
structure Stamped (now : ℕ) (pkt : Pkt) (time : Time) : Prop where
  timestamp : pkt.timestamp = 0 ∨ pkt.timestamp = time.setWidth 32
  positive : 1 ≤ time.toNat
  past : time.toNat ≤ now

/-- The record gives each buffered packet the time of its transmission. -/
structure Timed (now : ℕ) (times : List Time) (sender : Sender) : Prop where
  sound : sender.Sound
  stamped : List.Forall₂ (Stamped now) sender.bufStructure.nodes times

theorem Timed.later {now later : ℕ} {times : List Time} {sender : Sender}
    (timed : Timed now times sender) (order : now ≤ later) : Timed later times sender where
  sound := timed.sound
  stamped := timed.stamped.imp fun _ _ stamped =>
    ⟨stamped.timestamp, stamped.positive, stamped.past.trans order⟩

theorem timed_start (tpGlobal : Time) (bufAck : Buffer ackSize) (now : ℕ) :
    Timed now [] (start tpGlobal bufAck) where
  sound := ⟨rfl, by rintro pkt ⟨⟩⟩
  stamped := .nil

variable {crc32}

theorem Timed.afterSend {now : ℕ} {times : List Time} {sender : Sender}
    (timed : Timed now times sender) {pkt : Pkt} (sendable : Sendable pkt) {stamp : Time}
    (stamped : Stamped now pkt stamp) (isEnd : Bool) (sendTime : Time) :
    Timed now (times ++ [stamp]) (sender.afterSend crc32 pkt isEnd sendTime) where
  sound := sound_afterSend crc32 timed.sound sendable isEnd sendTime
  stamped := by
    have last : Stamped now (pkt.withCrcs crc32) stamp :=
      ⟨stamped.timestamp, stamped.positive, stamped.past⟩
    exact List.rel_append timed.stamped (.cons last .nil)

theorem Timed.sends {now : ℕ} {times : List Time} {input : SenderInput} {before middle : Sender}
    (timed : Timed now times before) (positive : 1 ≤ now) (inOrder : InOrder now input)
    (sends : if before.ReadsInput input then send crc32 input before = .ok middle
      else middle = before) :
    Timed input.stampTime.toNat (timesSent input before times) middle := by
  have order := inOrder.le_stampTime
  have fresh (pkt : Pkt) (stamp : pkt.timestamp = input.stampTime.setWidth 32) :
      Stamped input.stampTime.toNat pkt input.stampTime :=
    ⟨.inr stamp, positive.trans order, le_rfl⟩
  rw [timesSent]
  by_cases reads : before.ReadsInput input
  · rw [if_pos reads, send] at sends
    cases read : input.newPayload with
    | failed =>
        rw [if_neg (by simp [ReadResult.count, read]), sendData_failed crc32 read] at sends
        cases sends
        rw [if_neg (by simp)]
        have kept := timed.later order
        exact ⟨⟨kept.sound.consistent, kept.sound.sendable⟩, kept.stamped⟩
    | bytes data fits =>
        rw [if_pos ⟨reads, by simp⟩]
        split at sends
        · rw [sendEnd_eq crc32 timed.sound.consistent] at sends
          cases sends
          exact (timed.later order).afterSend (sendable_endPkt _ _) (fresh _ rfl) _ _
        · rw [sendData_eq crc32 timed.sound.consistent read reads.2.2.2] at sends
          cases sends
          exact (timed.later order).afterSend (sendable_dataPkt fits _ _) (fresh _ rfl) _ _
  · rw [if_neg reads] at sends
    rw [if_neg (fun both => reads both.1), sends]
    exact timed.later order

/-- One of the packets is replaced, together with its time. -/
theorem stamped_set {now : ℕ} {front back : List Pkt} {pkt fresh : Pkt} {times : List Time}
    {time : Time} (stamped : List.Forall₂ (Stamped now) (front ++ pkt :: back) times)
    (here : Stamped now fresh time) :
    List.Forall₂ (Stamped now) (front ++ fresh :: back) (times.set front.length time) := by
  induction front generalizing times with
  | nil =>
      rcases stamped with _ | ⟨_, others⟩
      exact .cons here others
  | cons other rest ih =>
      rcases stamped with _ | ⟨first, others⟩
      exact .cons first (ih others)

theorem Timed.afterResend {now : ℕ} {times : List Time} {sender : Sender}
    (timed : Timed now times sender) {front back : List Pkt} {pkt : Pkt}
    (nodes : sender.bufStructure.nodes = front ++ pkt :: back) {stamp : Time}
    (positive : 1 ≤ stamp.toNat) (past : stamp.toNat ≤ now) :
    Timed now (times.set front.length stamp) (sender.afterResend crc32 front pkt back stamp) where
  sound := (Resending.again front pkt back stamp nodes : Resending crc32 sender _).sound timed.sound
  stamped := by
    have former := timed.stamped
    rw [nodes] at former
    exact stamped_set former ⟨.inr rfl, positive, past⟩

/-- The times as they are when the scan is over, whether it has been come to or not. -/
theorem Timed.untilRead {now : ℕ} {times : List Time} {input : SenderInput} {sender : Sender}
    (timed : Timed now times sender) (positive : 1 ≤ now) (inOrder : InOrder now input)
    {flow : LoopFlow (Revents × Sender) SenderExit}
    (untils : Sender.untilRead crc32 input sender = .ok flow) :
    Timed input.ackTime.toNat (timesAtAnswer crc32 input sender times) flow.state.2 := by
  rcases untilRead_scans crc32 timed.sound input with ⟨middle, sends, scans⟩
  have sent := timed.sends positive inOrder sends
  have untilScan := (inOrder.le_scan 0).trans (inOrder.stamp 0)
  have answered := sent.later (untilScan.trans (inOrder.ackTime 0))
  rw [timesAtAnswer, resentIndex]
  rcases scans with ⟨none, other, others, same, _⟩ | ⟨revents, comes, resends⟩
  · rw [others] at untils
    cases untils
    rw [none, same]
    exact answered
  · rw [resends, resend_eq crc32 sent.sound] at untils
    cases untils
    rw [comes]
    rcases outcome : middle.scanned input.scan revents with ⟨result, polled⟩
    simp only [outcome]
    cases result with
    | nothing => exact answered
    | pollError => exact answered
    | again index =>
        rcases scanned_again outcome with ⟨front, pkt, back, nodes, rfl, _⟩
        rw [afterScan, LoopFlow.state, resendAt_append crc32 _ nodes]
        exact answered.afterResend nodes (positive.trans (inOrder.le_stamp _))
          (inOrder.ackTime _)

theorem stamped_markNodes {now : ℕ} (seqNum : BitVec 8) {nodes : List Pkt} {times : List Time}
    (stamped : List.Forall₂ (Stamped now) nodes times) :
    List.Forall₂ (Stamped now) (markNodes seqNum nodes) times := by
  induction stamped with
  | nil => exact .nil
  | cons first others ih =>
      rw [markNodes]
      split
      · exact .cons ⟨.inl rfl, first.positive, first.past⟩ others
      · exact .cons first ih

/-- The packets which remain are the last ones, and so are the times. -/
theorem stamped_suffix {now : ℕ} {nodes rest : List Pkt} {times : List Time}
    (stamped : List.Forall₂ (Stamped now) nodes times) (suffix : rest <:+ nodes) :
    List.Forall₂ (Stamped now) rest (times.drop (times.length - rest.length)) := by
  rcases suffix with ⟨removed, rfl⟩
  have count : times.length - rest.length = removed.length := by
    rw [← stamped.length_eq, List.length_append, Nat.add_sub_cancel]
  have later := List.forall₂_drop removed.length stamped
  rwa [List.drop_left, ← count] at later

theorem stamped_getElem {now : ℕ} {nodes : List Pkt} {times : List Time}
    (stamped : List.Forall₂ (Stamped now) nodes times) {index : ℕ} {pkt : Pkt}
    (found : nodes[index]? = some pkt) :
    ∃ time, times[index]? = some time ∧ Stamped now pkt time := by
  induction stamped generalizing index with
  | nil => cases found
  | cons first others ih =>
      cases index with
      | zero =>
          cases found
          exact ⟨_, rfl, first⟩
      | succ index => exact ih found

theorem Timed.note {now : ℕ} {times : List Time} {input : SenderInput} {sender next : Sender}
    (timed : Timed now times sender) (positive : 1 ≤ now) (inOrder : InOrder now input)
    (moved : readWriteLoop crc32 input sender = .ok (.running next)) :
    Timed input.rttTime.toNat (noteTimes crc32 input sender times) next := by
  refine Timed.later ⟨sound_of_moved timed.sound moved, ?_⟩ inOrder.rttTime
  rw [noteTimes, moved]
  rcases running_cases moved with ⟨revents, last, untils, answered⟩
  have timedLast : Timed input.ackTime.toNat (timesAtAnswer crc32 input sender times) last :=
    timed.untilRead positive inOrder untils
  rcases answered with ⟨_, rfl⟩ | ⟨_, ⟨_, _, rfl⟩ | ⟨pktAck, _, handles⟩⟩
  · exact stamped_suffix timedLast.stamped (List.suffix_refl _)
  · exact stamped_suffix timedLast.stamped (List.suffix_refl _)
  · have answering := handleAnswer_answering (sound_afterRead timedLast.sound input).consistent
      input.rttTime pktAck
    rw [handles] at answering
    rcases answering.nodes with suffix | marked
    · exact stamped_suffix timedLast.stamped suffix
    · have kept := stamped_markNodes pktAck.seqNum timedLast.stamped
      simp only [LoopFlow.state_running, marked]
      exact stamped_suffix kept (List.suffix_refl _)

/-- In every run the record has the times of the last transmissions. -/
theorem run_timed {tpGlobal : Time} {bufAck : Buffer ackSize} {inputs : List SenderInput}
    (clock : ClockRuns 1 inputs) {sender : Sender}
    (reached : Loop.run (readWriteLoop crc32) inputs (start tpGlobal bufAck) =
      .ok (.running sender)) :
    Timed (clockAfter 1 inputs) (lastTransmissions crc32 inputs (start tpGlobal bufAck))
      sender := by
  apply @Loop.record_induction _ _ _ _ (readWriteLoop crc32) _ (noteTimes crc32)
    (start tpGlobal bufAck) [] (fun inputs times sender => ClockRuns 1 inputs →
      Timed (clockAfter 1 inputs) times sender) _ _ _ _ reached clock
  · intro _
    exact timed_start tpGlobal bufAck _
  · intro before input times state next timed moved clock
    rcases clockRuns_append.mp clock with ⟨earlier, inOrder, _⟩
    rw [clockAfter_snoc]
    exact (timed earlier).note earlier.le_clockAfter inOrder moved

variable (crc32) in
/--
The iteration reads its first `ACK` for a buffered packet. The packet is the first one in the
buffer whose number comes before the number of the `ACK`.
-/
structure Recognizes (input : SenderInput) (sender last : Sender) (pktAck : Pkt) (index : ℕ)
    (pkt : Pkt) : Prop where
  comes : ∃ revents, untilRead crc32 input sender = .ok (.running (revents, last)) ∧
    revents.pollin = true
  decodes : pktDecode crc32 true (last.afterRead input).bufAck.val pktNew = .ok pktAck
  isAck : pktAck.type = ptypeAck
  notLast : ¬last.EndsTransfer pktAck
  unseen : last.firstAck = true
  buffered : last.bufStructure.nodes[index]? = some pkt
  acknowledged : pkt.seqNum = pktAck.seqNum - 1
  first : ∀ other ∈ last.bufStructure.nodes.take index, other.seqNum ≠ pktAck.seqNum - 1

theorem Sending.timer {input : SenderInput} {before after : Sender}
    (sending : Sending crc32 input before after) :
    after.firstAck = before.firstAck ∧ after.timer = before.timer := by
  cases sending with
  | nothing => exact ⟨rfl, rfl⟩
  | ended => exact ⟨rfl, rfl⟩
  | data => exact ⟨rfl, rfl⟩
  | failed => exact ⟨rfl, rfl⟩

theorem Resending.timer {before after : Sender} (resending : Resending crc32 before after) :
    after.firstAck = before.firstAck ∧ after.timer = before.timer := by
  cases resending with
  | nothing => exact ⟨rfl, rfl⟩
  | again => exact ⟨rfl, rfl⟩

/-- Until the socket is read, the timer stays as it is. -/
theorem untilRead_timer {input : SenderInput} {sender last : Sender} {revents : Revents}
    (sound : sender.Sound)
    (untils : untilRead crc32 input sender = .ok (.running (revents, last))) :
    last.firstAck = sender.firstAck ∧ last.timer = sender.timer := by
  rcases untilRead_spec crc32 sound input with ⟨flow, middle, same, passes⟩
  rw [untils] at same
  cases same
  have sent := (passes.sending sound).timer
  have resent := passes.resending.timer
  exact ⟨resent.1.trans sent.1, resent.2.trans sent.2⟩

/-- What handling an `ACK` does to the timer. -/
theorem handleAck_timer {rttTime : Time} {sender next : Sender} {pktAck : Pkt}
    (handles : sender.handleAck rttTime pktAck = .ok next) :
    (sender.firstAck = false ∧ next.firstAck = false ∧ next.timer = sender.timer) ∨
      sender.firstAck = true ∧
        (queueFindAckStructure sender.bufStructure (pktAck.seqNum - 1) = none ∧
            next.firstAck = true ∨
          ∃ pkt, queueFindAckStructure sender.bufStructure (pktAck.seqNum - 1) = some pkt ∧
            next.firstAck = false ∧
            next.timer = 2 * (rttTime.setWidth 32 - pkt.timestamp)) := by
  rw [handleAck] at handles
  by_cases unseen : sender.firstAck = true
  · simp only [unseen, if_true] at handles
    refine .inr ⟨unseen, ?_⟩
    cases search : queueFindAckStructure sender.bufStructure (pktAck.seqNum - 1) with
    | none =>
        simp only [search] at handles
        cases handles
        exact .inl ⟨rfl, rfl⟩
    | some pkt =>
        simp only [search] at handles
        rcases deleteAcked_frame handles with ⟨_, timer, firstAck⟩
        exact .inr ⟨pkt, rfl, firstAck, timer⟩
  · have seen := Bool.eq_false_of_not_eq_true unseen
    simp only [seen, Bool.false_eq_true, if_false] at handles
    rcases deleteAcked_frame handles with ⟨_, timer, firstAck⟩
    exact .inl ⟨seen, firstAck, timer⟩

/-- Only an `ACK` sets the timer, unless it ends the transfer. -/
theorem handleAnswer_timer {rttTime : Time} {sender next : Sender} {pktAck : Pkt}
    (handles : sender.handleAnswer rttTime pktAck = .ok (.running next)) :
    ¬sender.EndsTransfer pktAck ∧
      ((pktAck.type = ptypeAck ∧ sender.handleAck rttTime pktAck = .ok next) ∨
        pktAck.type ≠ ptypeAck ∧ next.firstAck = sender.firstAck ∧ next.timer = sender.timer) := by
  rw [handleAnswer] at handles
  split at handles
  · cases handles
  · rename_i notLast
    refine ⟨notLast, ?_⟩
    split at handles
    · rename_i isAck
      cases handled : sender.handleAck rttTime pktAck with
      | error fault => simp [handled, bind, Except.bind] at handles
      | ok after =>
          simp only [handled, bind, Except.bind, pure, Except.pure, Except.ok.injEq,
            LoopFlow.running.injEq] at handles
          exact .inl ⟨isAck, by rw [handles]⟩
    · rename_i otherType
      split at handles
      · cases handles
        exact .inr ⟨otherType, rfl, rfl⟩
      · cases handles
        exact .inr ⟨otherType, rfl, rfl⟩

theorem Recognizes.found {input : SenderInput} {sender last : Sender} {pktAck pkt : Pkt}
    {index : ℕ} (recognized : Recognizes crc32 input sender last pktAck index pkt) :
    queueFindAckStructure last.bufStructure (pktAck.seqNum - 1) = some pkt := by
  rcases List.getElem?_eq_some_iff.mp recognized.buffered with ⟨inside, here⟩
  apply List.find?_eq_some_iff_append.mpr
  refine ⟨by simpa using recognized.acknowledged, last.bufStructure.nodes.take index,
    last.bufStructure.nodes.drop (index + 1), ?_, by simpa using recognized.first⟩
  rw [← here, ← List.drop_eq_getElem_cons inside, List.take_append_drop]

theorem Recognizes.sets {input : SenderInput} {sender last next : Sender} {pktAck pkt : Pkt}
    {index : ℕ} (recognized : Recognizes crc32 input sender last pktAck index pkt)
    (moved : readWriteLoop crc32 input sender = .ok (.running next)) :
    next.firstAck = false ∧ next.timer = 2 * (input.rttTime.setWidth 32 - pkt.timestamp) := by
  rcases recognized.comes with ⟨revents, untils, pollin⟩
  rcases running_cases moved with ⟨others, other, same, answered⟩
  rw [untils] at same
  cases same
  rcases answered with
    ⟨noPollin, _⟩ | ⟨_, ⟨code, fails, _⟩ | ⟨other, decodes, handles⟩⟩
  · exact Bool.noConfusion (pollin.symm.trans noPollin)
  · rw [recognized.decodes] at fails
    cases fails
  · rw [recognized.decodes] at decodes
    cases decodes
    rcases handleAnswer_timer handles with ⟨_, ⟨_, handled⟩ | ⟨otherType, _⟩⟩
    · have found : queueFindAckStructure (last.afterRead input).bufStructure
          (pktAck.seqNum - 1) = some pkt := recognized.found
      rcases handleAck_timer handled with ⟨seen, _⟩ | ⟨_, ⟨absent, _⟩ | ⟨other, same, sets⟩⟩
      · exact Bool.noConfusion (recognized.unseen.symm.trans seen)
      · rw [found] at absent
        cases absent
      · rw [found] at same
        cases same
        exact sets
    · exact absurd recognized.isAck otherType

/-- The timer is set only in an iteration which recognizes the first `ACK`. -/
theorem exists_recognizes {input : SenderInput} {sender next : Sender} (sound : sender.Sound)
    (moved : readWriteLoop crc32 input sender = .ok (.running next))
    (unseen : sender.firstAck = true) (seen : next.firstAck = false) :
    ∃ last pktAck index pkt, Recognizes crc32 input sender last pktAck index pkt := by
  rcases running_cases moved with ⟨revents, last, untils, answered⟩
  have still := (untilRead_timer sound untils).1.trans unseen
  rcases answered with ⟨_, rfl⟩ | ⟨pollin, ⟨_, _, rfl⟩ | ⟨pktAck, decodes, handles⟩⟩
  · exact Bool.noConfusion (still.symm.trans seen)
  · exact Bool.noConfusion (still.symm.trans seen)
  · rcases handleAnswer_timer handles with ⟨notLast, ⟨isAck, handled⟩ | ⟨_, firstAck, _⟩⟩
    · rcases handleAck_timer handled with ⟨earlier, _⟩ | ⟨_, ⟨_, missed⟩ | ⟨pkt, found, _⟩⟩
      · exact Bool.noConfusion (still.symm.trans earlier)
      · exact Bool.noConfusion (missed.symm.trans seen)
      · rcases List.find?_eq_some_iff_append.mp found with ⟨same, front, back, nodes, earlier⟩
        have split : last.bufStructure.nodes = front ++ pkt :: back := nodes
        refine ⟨last, pktAck, front.length, pkt, ⟨revents, untils, pollin⟩, decodes, isAck,
          notLast, still, by rw [split]; simp, by simpa using same, ?_⟩
        rw [split, List.take_left' rfl]
        simpa using earlier
    · exact Bool.noConfusion (still.symm.trans (firstAck.symm.trans seen))

theorem readWriteLoop_seen {input : SenderInput} {sender next : Sender} (sound : sender.Sound)
    (moved : readWriteLoop crc32 input sender = .ok (.running next))
    (seen : sender.firstAck = false) : next.firstAck = false ∧ next.timer = sender.timer := by
  rcases running_cases moved with ⟨revents, last, untils, answered⟩
  rcases untilRead_timer sound untils with ⟨firstAck, timer⟩
  have still := firstAck.trans seen
  rw [← timer]
  rcases answered with ⟨_, rfl⟩ | ⟨_, ⟨_, _, rfl⟩ | ⟨pktAck, _, handles⟩⟩
  · exact ⟨still, rfl⟩
  · exact ⟨still, rfl⟩
  · rcases handleAnswer_timer handles with ⟨_, ⟨_, handled⟩ | ⟨_, same, kept⟩⟩
    · rcases handleAck_timer handled with ⟨_, kept⟩ | ⟨unseen, _⟩
      · exact kept
      · exact Bool.noConfusion (unseen.symm.trans still)
    · exact ⟨same.trans still, kept⟩

/--
The difference is doubled without overflow exactly if it has been taken from the time of the
transmission, and is less than 2^30.
-/
theorem timer_eq_iff {now time : Time} {timestamp : BitVec 32}
    (stamped : timestamp = 0 ∨ timestamp = time.setWidth 32) (positive : 1 ≤ time.toNat)
    (past : time.toNat ≤ now.toNat) (bounded : now.toNat < 2 ^ 31) :
    (2 * (now.setWidth 32 - timestamp)).toInt = 2 * ((now.toNat : ℤ) - time.toNat) ↔
      timestamp ≠ 0 ∧ now.toNat < time.toNat + 2 ^ 30 := by
  have two : (2 : BitVec 32).toNat = 2 := rfl
  have nowFits : (now.setWidth 32).toNat = now.toNat := by
    rw [BitVec.toNat_setWidth]
    omega
  have timeFits : (time.setWidth 32).toNat = time.toNat := by
    rw [BitVec.toNat_setWidth]
    omega
  rw [BitVec.toInt_eq_toNat_cond, BitVec.toNat_mul, BitVec.toNat_sub, two, nowFits]
  rcases stamped with rfl | rfl
  · have zero : (0 : BitVec 32).toNat = 0 := rfl
    rw [zero]
    refine iff_of_false ?_ (fun both => both.1 rfl)
    split <;> omega
  · have nonzero : time.setWidth 32 ≠ 0 := by
      intro zero
      rw [zero] at timeFits
      have : (0 : BitVec 32).toNat = 0 := rfl
      omega
    rw [timeFits]
    simp only [ne_eq, nonzero, not_false_eq_true, true_and]
    split <;> omega

variable (crc32) in
/-- In this run the first `ACK` is for a packet sent last at this time, and sets the timer. -/
def FirstAcknowledged (inputs : List SenderInput) (origin : Sender) (pkt : Pkt)
    (time rttTime : Time) : Prop :=
  ∃ before input after sender last pktAck index, inputs = before ++ input :: after ∧
    Loop.run (readWriteLoop crc32) before origin = .ok (.running sender) ∧
    Recognizes crc32 input sender last pktAck index pkt ∧
    (timesAtAnswer crc32 input sender (lastTransmissions crc32 before origin))[index]? =
      some time ∧
    input.rttTime = rttTime

/-- Once it is set, the timer stays the same to the end of the run. -/
theorem run_seen {inputs : List SenderInput} {sender final : Sender} (sound : sender.Sound)
    (seen : sender.firstAck = false)
    (reached : Loop.run (readWriteLoop crc32) inputs sender = .ok (.running final)) :
    final.timer = sender.timer := by
  have along := @Loop.run_induction _ _ _ _ (readWriteLoop crc32) sender
    (fun _ state => state.Sound ∧ state.firstAck = false ∧ state.timer = sender.timer)
    ⟨sound, seen, rfl⟩ (by
      rintro before input state next ⟨sound, seen, same⟩ moved
      rcases readWriteLoop_seen sound moved seen with ⟨still, kept⟩
      exact ⟨sound_of_moved sound moved, still, kept.trans same⟩) _ _ reached
  exact along.2.2

/-- The record has the time of the last transmission of the packet which is acknowledged. -/
theorem Recognizes.stamped {tpGlobal : Time} {bufAck : Buffer ackSize}
    {inputs : List SenderInput} {input : SenderInput} {sender last : Sender} {pktAck pkt : Pkt}
    {index : ℕ} (recognized : Recognizes crc32 input sender last pktAck index pkt)
    (clock : ClockRuns 1 inputs) (inOrder : InOrder (clockAfter 1 inputs) input)
    (reached : Loop.run (readWriteLoop crc32) inputs (start tpGlobal bufAck) =
      .ok (.running sender)) :
    ∃ time, (timesAtAnswer crc32 input sender
        (lastTransmissions crc32 inputs (start tpGlobal bufAck)))[index]? = some time ∧
      Stamped input.rttTime.toNat pkt time := by
  rcases recognized.comes with ⟨revents, untils, _⟩
  have timed := (run_timed clock reached).untilRead clock.le_clockAfter inOrder untils
  exact stamped_getElem (timed.later inOrder.rttTime).stamped recognized.buffered

theorem exists_firstAcknowledged {tpGlobal : Time} {bufAck : Buffer ackSize}
    {inputs : List SenderInput} {sender : Sender}
    (reached : Loop.run (readWriteLoop crc32) inputs (start tpGlobal bufAck) =
      .ok (.running sender))
    (clock : ClockRuns 1 inputs) (seen : sender.firstAck = false) :
    ∃ pkt time rttTime,
      FirstAcknowledged crc32 inputs (start tpGlobal bufAck) pkt time rttTime := by
  induction inputs using List.reverseRecOn generalizing sender with
  | nil =>
      cases reached
      cases seen
  | append_singleton before input ih =>
      rcases Loop.run_snoc_running reached with ⟨here, earlier, moved⟩
      rcases clockRuns_append.mp clock with ⟨clockBefore, inOrder, _⟩
      by_cases already : here.firstAck = false
      · rcases ih earlier clockBefore already with ⟨pkt, time, rttTime, first⟩
        rcases first with ⟨front, there, back, state, last, pktAck, index, rfl, recognized⟩
        exact ⟨pkt, time, rttTime, front, there, back ++ [input], state, last, pktAck, index,
          by simp, recognized⟩
      · have unseen := Bool.eq_true_of_not_eq_false already
        rcases exists_recognizes (run_timed clockBefore earlier).sound moved unseen seen with
          ⟨last, pktAck, index, pkt, recognized⟩
        rcases recognized.stamped clockBefore inOrder earlier with ⟨time, recorded, _⟩
        exact ⟨pkt, time, input.rttTime, before, input, [], here, last, pktAck, index, rfl, earlier,
          recognized, recorded, rfl⟩

/--
In every run on a clock which starts at a positive time, the timer is set by the first `ACK` for
a buffered packet and then stays the same. It is twice the time which had passed since the last
transmission of this packet exactly if the packet was not marked, and less than 2^30 seconds
had passed.
-/
theorem run_timer_iff {tpGlobal : Time} {bufAck : Buffer ackSize} {inputs : List SenderInput}
    (clock : ClockRuns 1 inputs) {sender : Sender}
    (reached : Loop.run (readWriteLoop crc32) inputs (start tpGlobal bufAck) =
      .ok (.running sender)) :
    (sender.firstAck = false → ∃ pkt time rttTime,
      FirstAcknowledged crc32 inputs (start tpGlobal bufAck) pkt time rttTime) ∧
    ∀ pkt time rttTime, FirstAcknowledged crc32 inputs (start tpGlobal bufAck) pkt time rttTime →
      time.toNat ≤ rttTime.toNat ∧
      (sender.timer.toInt = 2 * ((rttTime.toNat : ℤ) - time.toNat) ↔
        pkt.timestamp ≠ 0 ∧ rttTime.toNat < time.toNat + 2 ^ 30) := by
  refine ⟨exists_firstAcknowledged reached clock, ?_⟩
  rintro pkt time rttTime
    ⟨before, input, after, here, last, pktAck, index, rfl, earlier, recognized, recorded, rfl⟩
  rcases clockRuns_append.mp clock with ⟨clockBefore, inOrder, _⟩
  rcases recognized.stamped clockBefore inOrder earlier with ⟨other, same, stamped⟩
  rw [recorded] at same
  cases same
  refine ⟨stamped.past, ?_⟩
  have timer : sender.timer = 2 * (input.rttTime.setWidth 32 - pkt.timestamp) := by
    rw [Loop.run_append_of_running earlier, Loop.run] at reached
    split at reached
    · rename_i next moved
      have sound := sound_of_moved (run_timed clockBefore earlier).sound moved
      rcases recognized.sets moved with ⟨seen, sets⟩
      exact (run_seen sound seen reached).trans sets
    · cases reached
    · cases reached
  rw [timer]
  exact timer_eq_iff stamped.timestamp stamped.positive stamped.past inOrder.bounded

/-- All the readings of an iteration are the same. -/
def clockedExample (now : Time) (input : SenderInput) : SenderInput :=
  { input with
    tpNow := now
    sendTime := now
    stampTime := now
    scan := fun _ => ⟨now, .ready ⟨false, true⟩, now, .zeros _⟩
    ackTime := now
    rttTime := now }

theorem inOrder_clockedExample {earlier : ℕ} {now : Time} (input : SenderInput)
    (order : earlier ≤ now.toNat) (bounded : now.toNat < 2 ^ 31) :
    InOrder earlier (clockedExample now input) :=
  ⟨order, le_rfl, le_rfl, le_rfl, fun _ => le_rfl, fun _ => le_rfl, fun _ => le_rfl, le_rfl,
    bounded⟩

/-- Packet 0 is sent. -/
def sentInputs : List SenderInput :=
  [clockedExample 1540000000 (sendExample (byteExample 7))]

/-- Packet 0 is sent, and a `NACK` for it arrives. -/
def nackedInputs : List SenderInput :=
  sentInputs ++ [clockedExample 1540000000 (ackExample nackZeroExample)]

/-- Packet 0 is acknowledged. -/
def ackedInput : SenderInput :=
  clockedExample 1540000001 (ackExample ackOneExample)

def clockedRunExample (inputs : List SenderInput) : Sender :=
  match Loop.run (readWriteLoop Crc.zlib) inputs (start 1540000000 (.zeros ackSize)) with
  | .ok flow => flow.state
  | .error _ => start 1540000000 (.zeros ackSize)

theorem run_timer_iff_example :
    (clockedRunExample (sentInputs ++ [ackedInput])).firstAck = false ∧
    ((clockedRunExample (sentInputs ++ [ackedInput])).firstAck = false → ∃ pkt time rttTime,
      FirstAcknowledged Crc.zlib (sentInputs ++ [ackedInput]) (start 1540000000 (.zeros ackSize))
        pkt time rttTime) ∧
    ∀ pkt time rttTime, FirstAcknowledged Crc.zlib (sentInputs ++ [ackedInput])
        (start 1540000000 (.zeros ackSize)) pkt time rttTime →
      time.toNat ≤ rttTime.toNat ∧
      ((clockedRunExample (sentInputs ++ [ackedInput])).timer.toInt =
          2 * ((rttTime.toNat : ℤ) - time.toNat) ↔
        pkt.timestamp ≠ 0 ∧ rttTime.toNat < time.toNat + 2 ^ 30) := by
  refine ⟨by decide +kernel, ?_⟩
  apply run_timer_iff
  · exact ⟨inOrder_clockedExample _ (by decide) (by decide),
      inOrder_clockedExample _ (by decide) (by decide), trivial⟩
  · decide +kernel

/--
Packet 0 is acknowledged before it is sent again for its `NACK`. The timer is computed from
the mark, and its value does not fit in 32 bits.
-/
theorem run_timer_marked :
    ¬∀ inputs sender, ClockRuns 1 inputs →
      Loop.run (readWriteLoop Crc.zlib) inputs (start 1540000000 (.zeros ackSize)) =
        .ok (.running sender) →
      ∀ pkt time rttTime, FirstAcknowledged Crc.zlib inputs
          (start 1540000000 (.zeros ackSize)) pkt time rttTime →
        rttTime.toNat < time.toNat + 2 ^ 30 →
          sender.timer.toInt = 2 * ((rttTime.toNat : ℤ) - time.toNat) := by
  intro always
  have clock : ClockRuns 1 (nackedInputs ++ [ackedInput]) :=
    ⟨inOrder_clockedExample _ (by decide) (by decide),
      inOrder_clockedExample _ (by decide) (by decide),
      inOrder_clockedExample _ (by decide) (by decide), trivial⟩
  have recognized : Recognizes Crc.zlib ackedInput (clockedRunExample nackedInputs)
      (clockedRunExample nackedInputs) (answerExample 1 0x35f57280) 0
      { (dataPkt [7] 0 1540000000).withCrcs Crc.zlib with timestamp := 0 } :=
    ⟨⟨⟨true, false⟩, by decide +kernel, rfl⟩, by decide +kernel, by decide +kernel,
      by rw [EndsTransfer]; decide +kernel, by decide +kernel, by decide +kernel,
      by decide +kernel, by simp⟩
  have timer := always (nackedInputs ++ [ackedInput])
    (clockedRunExample (nackedInputs ++ [ackedInput])) clock (by decide +kernel) _ 1540000000
    1540000001
    ⟨nackedInputs, ackedInput, [], _, _, _, 0, rfl, by decide +kernel, recognized,
      by decide +kernel, rfl⟩ (by decide)
  exact absurd timer (by decide +kernel)

end ReliableTransfer.Sender
