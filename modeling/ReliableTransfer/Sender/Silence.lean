import ReliableTransfer.Sender.Progress

/-!
# A sender which hears nothing

The sender leaves its loop when more than 10 seconds have passed since it has read
from the socket or sent a new packet. A packet which is sent again does not count.
As long as nothing arrives, a new packet is sent only while there is room in the
window, and no room is made. Hence the time until the sender gives up is bounded by
the room at the beginning of the silence, however much input there is left.

A failed `read` of the input is different: the time is set, and no room is used.
-/

namespace ReliableTransfer

/-- If the clock has not gone back, the time which has passed is compared. -/
theorem timedOut_iff {tpNow tpGlobal : Time} (order : tpGlobal.toNat ≤ tpNow.toNat)
    (bounded : tpNow.toNat < 2 ^ 31) :
    timedOut tpNow tpGlobal = true ↔ tpGlobal.toNat + 10 < tpNow.toNat := by
  have ten : (10 : BitVec 32).toInt = 10 := rfl
  have passed : ((tpNow - tpGlobal).setWidth 32).toInt = (tpNow.toNat : ℤ) - tpGlobal.toNat := by
    rw [BitVec.toInt_eq_toNat_cond, BitVec.toNat_setWidth, BitVec.toNat_sub]
    split <;> omega
  rw [timedOut, BitVec.slt_iff_toInt_lt, ten, passed]
  omega

namespace Sender

variable {crc32 : List Byte → BitVec 32}

/-- Nothing arrives in this iteration, and the input is read without failure or much delay. -/
structure Silent (delay : ℕ) (input : SenderInput) : Prop where
  poll : ∀ revents, input.poll = .ready revents → revents.pollin = false
  scan : ∀ index revents, (input.scan index).poll = .ready revents → revents.pollin = false
  read : input.newPayload ≠ .failed
  prompt : input.sendTime.toNat ≤ input.tpNow.toNat + delay

theorem Silent.scanFrom {delay : ℕ} {input : SenderInput} (silent : Silent delay input)
    {headSeqNum : BitVec 8} {sender : Sender} {index : ℕ} {run : List Pkt} {revents : Revents}
    (quiet : revents.pollin = false) :
    (Sender.scanFrom input.scan headSeqNum sender index run revents).2.pollin = false := by
  induction run generalizing index revents with
  | nil => exact quiet
  | cons pkt rest ih =>
      rw [Sender.scanFrom]
      split
      · exact quiet
      · split
        · split
          · exact quiet
          · rename_i polled ready
            split
            · exact silent.scan index polled ready
            · exact ih (silent.scan index polled ready)
        · exact ih quiet

theorem Silent.resend {delay : ℕ} {input : SenderInput} (silent : Silent delay input)
    {middle last : Sender} (sound : middle.Sound) {revents polled : Revents}
    (quiet : revents.pollin = false)
    (resends : Sender.resend crc32 input.scan revents middle = .ok (.running (polled, last))) :
    polled.pollin = false := by
  have scanned : (middle.scanned input.scan revents).2.pollin = false := by
    rw [Sender.scanned]
    split
    · exact quiet
    · exact silent.scanFrom quiet
  rw [resend_eq crc32 sound] at resends
  rcases outcome : middle.scanned input.scan revents with ⟨result, others⟩
  rw [outcome] at resends scanned
  cases result with
  | nothing =>
      cases resends
      exact scanned
  | pollError => cases resends
  | again index =>
      cases resends
      exact scanned

/-- The flags which are tested at the end do not say that there is something to be read. -/
theorem Silent.untilRead {delay : ℕ} {input : SenderInput} (silent : Silent delay input)
    {sender last : Sender} (sound : sender.Sound) {revents : Revents}
    (untils : Sender.untilRead crc32 input sender = .ok (.running (revents, last))) :
    revents.pollin = false := by
  rw [Sender.untilRead] at untils
  split at untils
  · cases untils
  · split at untils
    · cases untils
    · rename_i polled ready
      have quiet := silent.poll polled ready
      split at untils
      · split at untils
        · rename_i room
          rcases send_sending crc32 sound room input with ⟨middle, sends, sending⟩
          simp only [sends, bind, Except.bind] at untils
          split at untils
          · cases untils
            rfl
          · exact silent.resend (sending.sound sound) quiet untils
        · exact silent.resend sound quiet untils
      · cases untils
        exact quiet

/-- What an iteration without an answer leaves behind: at most one new packet. -/
inductive Waits (input : SenderInput) (before after : Sender) : Prop where
  | idle (count : after.bufStructure.nodes.length = before.bufStructure.nodes.length)
      (tpGlobal : after.tpGlobal = before.tpGlobal)
  | sends (count : after.bufStructure.nodes.length = before.bufStructure.nodes.length + 1)
      (room : before.bufStructure.nodes.length < before.sizeBuffer)
      (tpGlobal : after.tpGlobal = input.sendTime)

theorem Resending.frame {before after : Sender} (resending : Resending crc32 before after) :
    after.bufStructure.nodes.length = before.bufStructure.nodes.length ∧
      after.tpGlobal = before.tpGlobal ∧ after.sizeBuffer = before.sizeBuffer := by
  cases resending with
  | nothing => exact ⟨rfl, rfl, rfl⟩
  | again front pkt back stamp nodes =>
      refine ⟨?_, rfl, rfl⟩
      rw [nodes]
      simp [afterResend]

theorem Sending.waits {input : SenderInput} {before after : Sender}
    (sending : Sending crc32 input before after) (sound : before.Sound)
    (read : input.newPayload ≠ .failed) :
    Waits input before after ∧ after.sizeBuffer = before.sizeBuffer := by
  have fresh (pkt : Pkt) (isEnd : Bool) (room : before.bufStructure.size < before.sizeBuffer) :
      Waits input before (before.afterSend crc32 pkt isEnd input.sendTime) := by
    rw [sound.consistent, Nat.cast_lt] at room
    exact .sends (by simp [afterSend]) room rfl
  cases sending with
  | nothing => exact ⟨.idle rfl rfl, rfl⟩
  | ended room => exact ⟨fresh _ _ room, rfl⟩
  | data room => exact ⟨fresh _ _ room, rfl⟩
  | failed notEnd failed => exact absurd failed read

theorem Silent.waits {delay : ℕ} {input : SenderInput} (silent : Silent delay input)
    {sender next : Sender} (sound : sender.Sound)
    (moved : readWriteLoop crc32 input sender = .ok (.running next)) :
    Waits input sender next ∧ next.sizeBuffer = sender.sizeBuffer := by
  rcases running_cases moved with ⟨revents, last, untils, answered⟩
  have quiet := silent.untilRead sound untils
  rcases passes_of_untilRead sound untils with ⟨middle, passes⟩
  rcases (passes.sending sound).waits sound silent.read with ⟨waits, width⟩
  rcases passes.resending.frame with ⟨count, tpGlobal, sameWidth⟩
  rcases answered with ⟨_, rfl⟩ | ⟨pollin, _⟩
  · refine ⟨?_, sameWidth.trans width⟩
    cases waits with
    | idle sameCount sameTime => exact .idle (count.trans sameCount) (tpGlobal.trans sameTime)
    | sends one room time => exact .sends (count.trans one) room (tpGlobal.trans time)
  · exact Bool.noConfusion (quiet.symm.trans pollin)

theorem InOrder.sendTime_le {now : ℕ} {input : SenderInput} (inOrder : InOrder now input) :
    input.sendTime.toNat ≤ input.rttTime.toNat :=
  ((inOrder.stampTime.trans (inOrder.le_scan 0)).trans (inOrder.stamp 0)).trans
    ((inOrder.ackTime 0).trans inOrder.rttTime)

theorem InOrder.tpNow_lt {now : ℕ} {input : SenderInput} (inOrder : InOrder now input) :
    input.tpNow.toNat < 2 ^ 31 :=
  Nat.lt_of_le_of_lt (inOrder.sendTime.trans inOrder.sendTime_le) inOrder.bounded

theorem Answering.tpGlobal {before : Sender} {pktAck : Pkt} {flow : LoopFlow Sender SenderExit}
    (answering : Answering pktAck before (.ok flow)) : flow.state.tpGlobal = before.tpGlobal := by
  cases answering with
  | ends => rfl
  | acknowledges notLast isAck after acknowledging =>
      cases acknowledging with
      | unknown => rfl
      | outside => rfl
      | deletes => rfl
  | marks => rfl
  | ignores => rfl

/-- The time which the sender compares with is not in the future. -/
theorem tpGlobal_le {now : ℕ} {input : SenderInput} {sender next : Sender} (sound : sender.Sound)
    (inOrder : InOrder now input) (past : sender.tpGlobal.toNat ≤ now)
    (moved : readWriteLoop crc32 input sender = .ok (.running next)) :
    next.tpGlobal.toNat ≤ input.rttTime.toNat := by
  rcases running_cases moved with ⟨revents, last, untils, answered⟩
  rcases passes_of_untilRead sound untils with ⟨middle, passes⟩
  have sending := passes.sending sound
  have soundLast : last.Sound := passes.resending.sound (sending.sound sound)
  have before : last.tpGlobal.toNat ≤ input.rttTime.toNat := by
    have kept : last.tpGlobal = middle.tpGlobal := passes.resending.frame.2.1
    rw [kept]
    cases sending with
    | nothing => exact past.trans inOrder.le_rttTime
    | ended => exact inOrder.sendTime_le
    | data => exact inOrder.sendTime_le
    | failed => exact inOrder.sendTime_le
  rcases answered with ⟨_, rfl⟩ | ⟨_, ⟨_, _, rfl⟩ | ⟨pktAck, _, handles⟩⟩
  · exact before
  · exact inOrder.rttTime
  · have answering := handleAnswer_answering (sound_afterRead soundLast input).consistent
      input.rttTime pktAck
    rw [handles] at answering
    have kept := answering.tpGlobal
    rw [LoopFlow.state_running] at kept
    rw [kept]
    exact inOrder.rttTime

/-- The state is sound, and the time which it compares with is not in the future. -/
structure Current (now : ℕ) (sender : Sender) : Prop where
  sound : sender.Sound
  past : sender.tpGlobal.toNat ≤ now

theorem Current.step {now : ℕ} {input : SenderInput} {sender next : Sender}
    (current : Current now sender) (inOrder : InOrder now input)
    (moved : readWriteLoop crc32 input sender = .ok (.running next)) :
    Current input.rttTime.toNat next where
  sound := sound_of_moved current.sound moved
  past := tpGlobal_le current.sound inOrder current.past moved

theorem run_current {tpGlobal : Time} {bufAck : Buffer ackSize} {inputs : List SenderInput}
    (clock : ClockRuns tpGlobal.toNat inputs) {sender : Sender}
    (reached : Loop.run (readWriteLoop crc32) inputs (start tpGlobal bufAck) =
      .ok (.running sender)) : Current (clockAfter tpGlobal.toNat inputs) sender := by
  apply @Loop.run_induction _ _ _ _ (readWriteLoop crc32) (start tpGlobal bufAck)
    (fun inputs sender => ClockRuns tpGlobal.toNat inputs →
      Current (clockAfter tpGlobal.toNat inputs) sender) _ _ _ _ reached clock
  · intro _
    exact ⟨⟨rfl, by rintro pkt ⟨⟩⟩, le_rfl⟩
  · intro before input state next current moved clock
    rcases clockRuns_append.mp clock with ⟨earlier, inOrder, _⟩
    rw [clockAfter_snoc]
    exact (current earlier).step inOrder moved

/-- How many packets are still sent. -/
def room (sender : Sender) : ℕ :=
  sender.sizeBuffer - sender.bufStructure.nodes.length

/--
The time at which a sender which hears nothing has given up: each new packet comes less than
10 seconds after the one before it, up to the delay in reading the input.
-/
def deadline (delay : ℕ) (sender : Sender) : ℕ :=
  sender.tpGlobal.toNat + 10 + (10 + delay) * sender.room

/-- The silence uses up the room in the window, and the deadline is not put off. -/
structure Waited (delay now : ℕ) (origin sender : Sender) : Prop where
  current : Current now sender
  deadline : sender.deadline delay ≤ origin.deadline delay

theorem Waits.deadline_le {delay : ℕ} {input : SenderInput} {before after : Sender}
    (waits : Waits input before after) (width : after.sizeBuffer = before.sizeBuffer)
    (inTime : input.tpNow.toNat ≤ before.tpGlobal.toNat + 10)
    (prompt : input.sendTime.toNat ≤ input.tpNow.toNat + delay) :
    after.deadline delay ≤ before.deadline delay := by
  rw [deadline, deadline, room, room, width]
  cases waits with
  | idle count tpGlobal => rw [count, tpGlobal]
  | sends count free tpGlobal =>
      have less : before.sizeBuffer - before.bufStructure.nodes.length =
          before.sizeBuffer - (before.bufStructure.nodes.length + 1) + 1 := by omega
      rw [count, tpGlobal, less, Nat.mul_add_one]
      omega

theorem Waited.step {delay now : ℕ} {origin sender next : Sender} {input : SenderInput}
    (waited : Waited delay now origin sender) (inOrder : InOrder now input)
    (silent : Silent delay input)
    (moved : readWriteLoop crc32 input sender = .ok (.running next)) :
    Waited delay input.rttTime.toNat origin next where
  current := waited.current.step inOrder moved
  deadline := by
    rcases silent.waits waited.current.sound moved with ⟨waits, width⟩
    have order := waited.current.past.trans inOrder.tpNow
    have inTime : ¬timedOut input.tpNow sender.tpGlobal = true := by
      rw [inTime_of_running moved]
      exact Bool.false_ne_true
    rw [timedOut_iff order inOrder.tpNow_lt] at inTime
    exact (waits.deadline_le width (by omega) silent.prompt).trans waited.deadline

theorem run_waited {delay now : ℕ} {origin : Sender} (current : Current now origin)
    {quiet : List SenderInput} (clock : ClockRuns now quiet)
    (silent : ∀ input ∈ quiet, Silent delay input) {sender : Sender}
    (reached : Loop.run (readWriteLoop crc32) quiet origin = .ok (.running sender)) :
    Waited delay (clockAfter now quiet) origin sender := by
  apply @Loop.run_induction _ _ _ _ (readWriteLoop crc32) origin
    (fun quiet sender => ClockRuns now quiet → (∀ input ∈ quiet, Silent delay input) →
      Waited delay (clockAfter now quiet) origin sender) _ _ _ _ reached clock silent
  · intro _ _
    exact ⟨current, le_rfl⟩
  · intro before input state next waited moved clock silent
    rcases clockRuns_append.mp clock with ⟨earlier, inOrder, _⟩
    rw [clockAfter_snoc]
    exact (waited earlier (fun other present => silent other (by simp [present]))).step inOrder
      (silent input (by simp)) moved

/--
In every run on a clock which does not go back, whatever has happened before, a sender which
hears nothing any more does not go on for ever: the first iteration behind the deadline, if it is
come to, returns. The deadline is set by the room in the window when the silence begins.
-/
theorem run_silent {tpGlobal : Time} {bufAck : Buffer ackSize} {delay : ℕ}
    {inputs quiet : List SenderInput} {input : SenderInput}
    (clock : ClockRuns tpGlobal.toNat (inputs ++ (quiet ++ [input]))) {sender final : Sender}
    (reached : Loop.run (readWriteLoop crc32) inputs (start tpGlobal bufAck) =
      .ok (.running sender))
    (silent : ∀ other ∈ quiet, Silent delay other)
    (stays : Loop.run (readWriteLoop crc32) quiet sender = .ok (.running final))
    (late : sender.deadline delay < input.tpNow.toNat) :
    readWriteLoop crc32 input final = .ok (.returned .timeout final) := by
  rcases clockRuns_append.mp clock with ⟨before, further⟩
  rcases clockRuns_append.mp further with ⟨during, inOrder, _⟩
  have waited := run_waited (run_current before reached) during silent stays
  have timeout : timedOut input.tpNow final.tpGlobal = true := by
    rw [timedOut_iff (waited.current.past.trans inOrder.tpNow) inOrder.tpNow_lt]
    have deadline := waited.deadline
    rw [Sender.deadline] at deadline
    omega
  rw [readWriteLoop, if_pos timeout]

theorem silent_clockedExample (now : Time) {data : ReadResult maxPayloadSize}
    (read : data ≠ .failed) : Silent 0 (clockedExample now (sendExample data)) where
  poll := by
    rintro revents ⟨⟩
    rfl
  scan := by
    rintro index revents ⟨⟩
    rfl
  read := read
  prompt := le_rfl

/-- A packet is sent after 5 seconds, which uses the room there is, and again after 14 seconds. -/
def quietInputs : List SenderInput :=
  [clockedExample 1540000005 (sendExample (byteExample 7)),
    clockedExample 1540000014 (sendExample (byteExample 8))]

theorem run_silent_example :
    (start 1540000000 (.zeros ackSize)).deadline 0 = 1540000020 ∧
      readWriteLoop Crc.zlib (clockedExample 1540000021 (sendExample (byteExample 8)))
          (clockedRunExample quietInputs) =
        .ok (.returned .timeout (clockedRunExample quietInputs)) := by
  refine ⟨by decide, ?_⟩
  apply @run_silent Crc.zlib 1540000000 (.zeros ackSize) 0 [] quietInputs _ _
    (start 1540000000 (.zeros ackSize))
  · exact rfl
  · intro other present
    simp only [quietInputs, List.mem_cons, List.not_mem_nil, or_false] at present
    rcases present with rfl | rfl
    · exact silent_clockedExample _ (by decide)
    · exact silent_clockedExample _ (by decide)
  · decide +kernel
  · decide
  · exact ⟨inOrder_clockedExample _ (by decide) (by decide),
      inOrder_clockedExample _ (by decide) (by decide),
      inOrder_clockedExample _ (by decide) (by decide), trivial⟩

end Sender

end ReliableTransfer
