import ReliableTransfer.Transfer.Carried
import ReliableTransfer.Sender.Steps

/-!
# The sender in a transfer

`Holds` says that the sender has sent all positions below `next`, and holds
the packets from `oldest` on. An `ACK` which is not too old moves `oldest` to its
position, and an older one is outside of the window; nothing else moves it. Hence
`oldest` never passes the position which the receiver waits for.
-/

namespace ReliableTransfer.Sender

open QueueSender

variable {crc32 : List Byte → BitVec 32} {file : InputFile}

/-- The sender has sent the positions below `next`, and holds those from `oldest` on. -/
structure Holds (file : InputFile) (oldest next : ℕ) (sender : Sender) : Prop where
  sound : sender.Sound
  narrow : sender.sizeBuffer ≤ 31
  carried : Carried file oldest sender.bufStructure.nodes
  held : oldest + sender.bufStructure.nodes.length = next
  few : next ≤ oldest + 31
  bounded : next ≤ file.last + 1
  seqNum : sender.seqNum = Serial.wire 8 next
  isLastAckNum : sender.isLastAckNum = true ↔ next = file.last + 1

theorem holds_start (file : InputFile) (tpGlobal : Time) (bufAck : Buffer ackSize) :
    Holds file 0 0 (start tpGlobal bufAck) where
  sound := by
    refine ⟨Queue.consistent_init, ?_⟩
    intro pkt present
    cases present
  narrow := Nat.le_of_ble_eq_true rfl
  carried := trivial
  held := rfl
  few := Nat.zero_le _
  bounded := Nat.zero_le _
  seqNum := rfl
  isLastAckNum := by simp [start]

theorem Holds.of_same {oldest next : ℕ} {before after : Sender}
    (here : Holds file oldest next before) (narrow : after.sizeBuffer ≤ 31)
    (bufStructure : after.bufStructure = before.bufStructure)
    (seqNum : after.seqNum = before.seqNum)
    (isLastAckNum : after.isLastAckNum = before.isLastAckNum) :
    Holds file oldest next after where
  sound := by
    refine ⟨?_, ?_⟩
    · rw [bufStructure]
      exact here.sound.consistent
    · rw [bufStructure]
      exact here.sound.sendable
  narrow := narrow
  carried := by
    rw [bufStructure]
    exact here.carried
  held := by
    rw [bufStructure]
    exact here.held
  few := here.few
  bounded := here.bounded
  seqNum := seqNum.trans here.seqNum
  isLastAckNum := by
    rw [isLastAckNum]
    exact here.isLastAckNum

/-- What has been sent in between are copies of positions which are held at the end. -/
def Sends (crc32 : List Byte → BitVec 32) (file : InputFile) (oldest next : ℕ)
    (before after : Sender) : Prop :=
  ∃ new, after.sent = before.sent ++ new ∧ ∀ data ∈ new, ∃ position,
    oldest ≤ position ∧ position < next ∧ IsCopy crc32 file position data

theorem Sends.of_eq {oldest next : ℕ} {before after : Sender} (same : after.sent = before.sent) :
    Sends crc32 file oldest next before after := by
  refine ⟨[], by rw [same, List.append_nil], ?_⟩
  intro data present
  cases present

theorem Sends.trans {oldest next : ℕ} {first second third : Sender}
    (left : Sends crc32 file oldest next first second)
    (right : Sends crc32 file oldest next second third) :
    Sends crc32 file oldest next first third := by
  rcases left with ⟨sent, leftSent, leftCopies⟩
  rcases right with ⟨resent, rightSent, rightCopies⟩
  refine ⟨sent ++ resent, by rw [rightSent, leftSent, List.append_assoc], ?_⟩
  intro data present
  rcases List.mem_append.mp present with earlier | later
  · exact leftCopies data earlier
  · exact rightCopies data later

theorem carries_endPkt {position : ℕ} (last : position = file.last) (stamp : Time) :
    Carries file position (endPkt (Serial.wire 8 position) stamp) where
  type := rfl
  trFlag := rfl
  seqNum := rfl
  length := by
    rw [InputFile.chunk_of_le last.ge]
    rfl
  payload := (if_neg (Nat.not_lt.mpr last.ge)).symm

theorem carries_dataPkt {position : ℕ} (inside : position < file.last) (stamp : Time) :
    Carries file position (dataPkt (file.chunk position) (Serial.wire 8 position) stamp) where
  type := rfl
  trFlag := rfl
  seqNum := rfl
  length := toNat_length (file.length_chunk_le position)
  payload := (if_pos inside).symm

theorem sendable_of_carries {position : ℕ} {pkt : Pkt} (carries : Carries file position pkt) :
    Sendable pkt :=
  ⟨carries.wellFormed.holdsPayload, carries.wellFormed.short⟩

theorem holds_afterSend {oldest next : ℕ} {sender : Sender}
    (here : Holds file oldest next sender)
    (room : sender.bufStructure.size < sender.sizeBuffer) (more : next ≤ file.last) {pkt : Pkt}
    (carries : Carries file next pkt) {isEnd : Bool} (ends : isEnd = true ↔ next = file.last)
    (sendTime : Time) (crc32 : List Byte → BitVec 32) :
    Holds file oldest (next + 1) (sender.afterSend crc32 pkt isEnd sendTime) ∧
      Sends crc32 file oldest (next + 1) sender (sender.afterSend crc32 pkt isEnd sendTime) := by
  have held := here.held
  have narrow := here.narrow
  have size : sender.bufStructure.nodes.length < sender.sizeBuffer := by
    have counted := here.sound.consistent
    rw [Queue.Consistent] at counted
    omega
  constructor
  · constructor
    · exact sound_afterSend crc32 here.sound (sendable_of_carries carries) isEnd sendTime
    · exact narrow
    · apply Carried.append_iff.mpr
      rw [held]
      exact ⟨here.carried, carries.withCrcs crc32, trivial⟩
    · rw [afterSend, Queue.nodes_ofNodes, List.length_append, List.length_singleton]
      omega
    · omega
    · omega
    · rw [afterSend, here.seqNum, Serial.wire_add]
      rfl
    · rw [afterSend, ends]
      omega
  · refine ⟨[pkt.wireBytes crc32], rfl, ?_⟩
    intro data present
    rw [List.mem_singleton.mp present]
    exact ⟨next, by omega, by omega, pkt, carries, rfl⟩

theorem Sending.holds {input : SenderInput} {before after : Sender} {oldest next : ℕ}
    (sending : Sending crc32 input before after) (here : Holds file oldest next before)
    (reads : input.newPayload = file.read next) :
    ∃ further, next ≤ further ∧ further ≤ next + 1 ∧ Holds file oldest further after ∧
      Sends crc32 file oldest further before after ∧ after.bufAck = before.bufAck := by
  have bounded := here.bounded
  have more (notEnd : before.isLastAckNum = false) : next ≤ file.last := by
    have notLast := mt here.isLastAckNum.mpr (by simp [notEnd])
    omega
  cases sending with
  | nothing => exact ⟨next, le_rfl, by omega, here, .of_eq rfl, rfl⟩
  | ended room notEnd endOfInput =>
      have empty : file.chunk next = [] := by
        simpa [reads, InputFile.read, ReadResult.count] using endOfInput
      have last : next = file.last :=
        le_antisymm (more notEnd) ((file.chunk_eq_nil_iff next).mp empty)
      have carries := carries_endPkt last input.stampTime
      rw [← here.seqNum] at carries
      have sends := holds_afterSend here room (more notEnd) carries
        (iff_of_true rfl last) input.sendTime crc32
      exact ⟨next + 1, by omega, le_rfl, sends.1, sends.2, rfl⟩
  | data room notEnd data fits read nonempty =>
      rw [reads, InputFile.read] at read
      cases read
      have inside : next < file.last := by
        by_contra beyond
        exact nonempty ((file.chunk_eq_nil_iff next).mpr (Nat.le_of_not_lt beyond))
      have carries := carries_dataPkt inside input.stampTime
      rw [← here.seqNum] at carries
      have sends := holds_afterSend here room inside.le carries
        (iff_of_false Bool.false_ne_true inside.ne) input.sendTime crc32
      exact ⟨next + 1, by omega, le_rfl, sends.1, sends.2, rfl⟩
  | failed notEnd read =>
      rw [reads] at read
      cases read

theorem Resending.holds {before after : Sender} {oldest next : ℕ}
    (resending : Resending crc32 before after) (here : Holds file oldest next before) :
    Holds file oldest next after ∧ Sends crc32 file oldest next before after ∧
      after.bufAck = before.bufAck := by
  have sound := resending.sound here.sound
  cases resending with
  | nothing => exact ⟨here, .of_eq rfl, rfl⟩
  | again front pkt back stamp nodes =>
      have carried := here.carried
      have held := here.held
      rw [nodes, Carried.append_iff] at carried
      rw [nodes, List.length_append, List.length_cons] at held
      have stamped := carried.2.1.withTimestamp (stamp.setWidth 32)
      refine ⟨⟨sound, here.narrow, ?_, ?_, here.few, here.bounded, here.seqNum,
        here.isLastAckNum⟩, ⟨_, rfl, ?_⟩, rfl⟩
      · exact Carried.append_iff.mpr ⟨carried.1, stamped.withCrcs crc32, carried.2.2⟩
      · rw [afterResend, Queue.nodes_ofNodes, List.length_append, List.length_cons]
        exact held
      · intro data present
        rw [List.mem_singleton.mp present]
        exact ⟨oldest + front.length, by omega, by omega, _, stamped, rfl⟩

/-- A deletion which takes `count` packets away moves `oldest` forward by so many. -/
theorem Holds.dropped {sender : Sender} {oldest next count : ℕ} {seqnumDelete : BitVec 8}
    (here : Holds file oldest next sender) (inside : count ≤ sender.bufStructure.nodes.length)
    (remains : remaining seqnumDelete sender.bufStructure.nodes =
      sender.bufStructure.nodes.drop count) :
    Holds file (oldest + count) next (sender.withRemaining seqnumDelete) := by
  have held := here.held
  have few := here.few
  refine ⟨sound_withRemaining here.sound seqnumDelete, here.narrow, ?_, ?_, by omega,
    here.bounded, here.seqNum, here.isLastAckNum⟩
  · change Carried file _ (remaining seqnumDelete sender.bufStructure.nodes)
    rw [remains]
    exact here.carried.drop inside
  · change _ + (remaining seqnumDelete sender.bufStructure.nodes).length = next
    rw [remains, List.length_drop]
    omega

/-- An `ACK` which is not too old moves `oldest` forward to its position, or changes nothing. -/
theorem Acknowledging.holds {pktAck : Pkt} {before after : Sender} {oldest next position : ℕ}
    (acknowledging : Acknowledging pktAck before after)
    (here : Holds file oldest next before) (window : pktAck.window = 31)
    (seqNum : pktAck.seqNum = Serial.wire 8 position) (sent : position ≤ next)
    (fresh : oldest ≤ position + 224) : Holds file (max oldest position) next after := by
  have held := here.held
  have few := here.few
  have size : pktAck.window.toNat = 31 := by
    rw [window]
    rfl
  have narrow : pktAck.window.toNat ≤ 31 := size.le
  have near_iff : Serial.dist (Serial.wire 8 oldest) (pktAck.seqNum - 1) <
      pktAck.window.toNat ↔ oldest < position := by
    rw [seqNum, size]
    exact Serial.dist_wire_pred_lt_iff (by decide) (by omega) (by omega)
  have number (ahead : oldest < position) : pktAck.seqNum - 1 = Serial.wire 8 (position - 1) := by
    have split : position = position - 1 + 1 := by omega
    rw [seqNum, split, Serial.wire_add, Nat.add_sub_cancel]
    exact BitVec.add_sub_cancel _ _
  cases acknowledging with
  | unknown first absent =>
      have stays : max oldest position = oldest := by
        apply max_eq_left
        by_contra ahead
        rcases here.carried.getElem? (show position - 1 - oldest < _ by omega) with
          ⟨pkt, found, carries⟩
        apply absent pkt (List.mem_of_getElem? found)
        rw [carries.seqNum, number (by omega)]
        congr 1
        omega
      rw [stays]
      exact here.of_same narrow rfl rfl rfl
  | outside timer head rest nodes far =>
      have carried := here.carried
      rw [nodes] at carried
      rw [carried.1.seqNum] at far
      have stays : max oldest position = oldest :=
        max_eq_left (Nat.le_of_not_lt (mt near_iff.mpr (Nat.not_lt.mpr far)))
      rw [stays]
      exact here.of_same narrow rfl rfl rfl
  | deletes timer head rest nodes near =>
      have carried := here.carried
      rw [nodes] at carried
      rw [carried.1.seqNum] at near
      have ahead := near_iff.mp near
      have count : position - 1 + 1 - oldest = position - oldest := by omega
      have remains : remaining (pktAck.seqNum - 1) before.bufStructure.nodes =
          before.bufStructure.nodes.drop (position - oldest) := by
        rw [number ahead, here.carried.remaining (by omega) (by omega) (by omega), count]
      have moves : max oldest position = oldest + (position - oldest) := by omega
      have recognized : Holds file oldest next (before.recognized pktAck timer) :=
        here.of_same narrow rfl rfl rfl
      rw [moves]
      exact recognized.dropped (show _ ≤ before.bufStructure.nodes.length by omega) remains

theorem holds_handleNack {sender : Sender} {oldest next : ℕ}
    (here : Holds file oldest next sender) (pktNack : Pkt) :
    Holds file oldest next (sender.handleNack pktNack) := by
  have held := here.held
  refine ⟨sound_handleNack here.sound pktNack, here.narrow,
    here.carried.markNodes pktNack.seqNum, ?_, here.few, here.bounded, here.seqNum,
    here.isLastAckNum⟩
  rw [← length_markNodes pktNack.seqNum] at held
  exact held

/-- The buffer does not hold a packet, or it holds an acknowledgement which is not too old. -/
def Readable (crc32 : List Byte → BitVec 32) (oldest waited next : ℕ)
    (bufAck : Buffer ackSize) : Prop :=
  (∃ code, pktDecode crc32 true bufAck.val pktNew = .error code) ∨
    ∃ position ack, AckFor waited next position ack ∧ oldest ≤ position + 224 ∧
      bufAck.val = Receiver.ackBytes crc32 ack

theorem Readable.mono {oldest waited next later further : ℕ} {bufAck : Buffer ackSize}
    (readable : Readable crc32 oldest waited next bufAck) (waitedLe : waited ≤ later)
    (nextLe : next ≤ further) : Readable crc32 oldest later further bufAck := by
  rcases readable with rejected | ⟨position, ack, isAck, fresh, holds⟩
  · exact .inl rejected
  · exact .inr ⟨position, ack, isAck.mono waitedLe nextLe, fresh, holds⟩

/--
What an iteration has done when the receiver waits for `waited`: the sender holds
the positions from `later` to `further` now, after those from `oldest` to `next`.
-/
structure Moved (crc32 : List Byte → BitVec 32) (file : InputFile) (waited oldest next : ℕ)
    (before : Sender) (flow : LoopFlow Sender SenderExit) (later further : ℕ) : Prop where
  holds : Holds file later further flow.state
  acknowledged : later ≤ waited
  ahead : next ≤ further ∧ further ≤ next + 1
  sends : Sends crc32 file oldest further before flow.state
  bufAck : Readable crc32 later waited further flow.state.bufAck
  ended : ∀ final, flow = .returned .lastAck final → waited = file.last + 1

section Iterations

variable {input : SenderInput} {before : Sender} {oldest waited next : ℕ}

theorem holds_of_sending {middle last : Sender} (sending : Sending crc32 input before middle)
    (resending : Resending crc32 middle last) (here : Holds file oldest next before)
    (reads : input.newPayload = file.read next) :
    ∃ further, next ≤ further ∧ further ≤ next + 1 ∧ Holds file oldest further last ∧
      Sends crc32 file oldest further before last ∧ last.bufAck = before.bufAck := by
  rcases sending.holds here reads with ⟨further, low, high, there, sends, sameBuf⟩
  rcases resending.holds there with ⟨final, resends, againBuf⟩
  exact ⟨further, low, high, final, sends.trans resends, againBuf.trans sameBuf⟩

theorem Answering.moved {pktAck : Pkt} {sender : Sender} {flow : LoopFlow Sender SenderExit}
    {position : ℕ} (answering : Answering pktAck sender (.ok flow))
    (here : Holds file oldest next sender) (behind : oldest ≤ waited) (sent : waited ≤ next)
    (window : pktAck.window = 31) (seqNum : pktAck.seqNum = Serial.wire 8 position)
    (type : pktAck.type = ptypeAck ∧ position ≤ waited ∨
      pktAck.type = ptypeNack ∧ position < next)
    (fresh : oldest ≤ position + 224) :
    ∃ later, Holds file later next flow.state ∧ later ≤ waited ∧ later ≤ position + 224 ∧
      flow.state.sent = sender.sent ∧ flow.state.bufAck = sender.bufAck ∧
      ∀ final, flow = .returned .lastAck final → waited = file.last + 1 := by
  have few := here.few
  cases answering with
  | ends last =>
      refine ⟨oldest, here, behind, fresh, rfl, rfl, ?_⟩
      intro final _
      have same := last.2
      rw [seqNum, here.seqNum, Serial.wire_inj (by omega) (by omega)] at same
      have isLast := here.isLastAckNum.mp last.1
      omega
  | acknowledges notLast isAck after acknowledging =>
      have delivered : position ≤ waited := by
        rcases type with ⟨_, delivered⟩ | ⟨isNack, _⟩
        · exact delivered
        · rw [isAck] at isNack
          cases isNack
      have there := acknowledging.holds here window seqNum (delivered.trans sent) fresh
      refine ⟨max oldest position, there, max_le behind delivered, by omega, ?_, ?_, ?_⟩
      · cases acknowledging with
        | unknown => rfl
        | outside => rfl
        | deletes => rfl
      · cases acknowledging with
        | unknown => rfl
        | outside => rfl
        | deletes => rfl
      · rintro final ⟨⟩
  | marks =>
      refine ⟨oldest, holds_handleNack here pktAck, behind, fresh, rfl, rfl, ?_⟩
      rintro final ⟨⟩
  | ignores =>
      refine ⟨oldest, here, behind, fresh, rfl, rfl, ?_⟩
      rintro final ⟨⟩

theorem holds_afterRead {sender : Sender} (here : Holds file oldest next sender)
    (input : SenderInput) : Holds file oldest next (sender.afterRead input) :=
  here.of_same here.narrow rfl rfl rfl

theorem Iteration.moved {flow : LoopFlow Sender SenderExit}
    (iteration : Iteration crc32 input before (.ok flow)) (here : Holds file oldest next before)
    (behind : oldest ≤ waited) (sent : waited ≤ next) (reads : input.newPayload = file.read next)
    (stale : Readable crc32 oldest waited next before.bufAck)
    (arrived : Readable crc32 oldest waited next (before.bufAck.readInto input.ackRead)) :
    ∃ later further, Moved crc32 file waited oldest next before flow later further := by
  cases iteration with
  | stopped reason middle early sending =>
      rcases holds_of_sending sending .nothing here reads with
        ⟨further, low, high, there, sends, sameBuf⟩
      refine ⟨oldest, further, there, behind, ⟨low, high⟩, sends, ?_, ?_⟩
      · rw [LoopFlow.state_returned, sameBuf]
        exact stale.mono le_rfl low
      · rintro final ⟨⟩
        exact absurd rfl early
  | quiet middle last sending resending =>
      rcases holds_of_sending sending resending here reads with
        ⟨further, low, high, there, sends, sameBuf⟩
      refine ⟨oldest, further, there, behind, ⟨low, high⟩, sends, ?_, ?_⟩
      · rw [LoopFlow.state_running, sameBuf]
        exact stale.mono le_rfl low
      · rintro final ⟨⟩
  | rejects middle last sending resending code rejected =>
      rcases holds_of_sending sending resending here reads with
        ⟨further, low, high, there, sends, _⟩
      refine ⟨oldest, further, holds_afterRead there input, behind, ⟨low, high⟩,
        sends.trans (.of_eq rfl), .inl ⟨code, rejected⟩, ?_⟩
      rintro final ⟨⟩
  | answers middle last sending resending pktAck decodes result answering =>
      rcases holds_of_sending sending resending here reads with
        ⟨further, low, high, there, sends, sameBuf⟩
      have content : (last.afterRead input).bufAck = before.bufAck.readInto input.ackRead := by
        rw [afterRead, sameBuf]
      rcases arrived with ⟨code, rejected⟩ | ⟨position, ack, isAck, fresh, holds⟩
      · rw [content, rejected] at decodes
        cases decodes
      · have isAckLater := isAck.mono (le_refl waited) low
        rcases isAckLater.decodes crc32 with ⟨pkt, decoded, window, seqNum, type⟩
        rw [content, holds, decoded] at decodes
        cases decodes
        rcases answering.moved (holds_afterRead there input) behind (sent.trans low) window seqNum
          type fresh with ⟨later, final, acknowledged, near, sameSent, keptBuf, ended⟩
        refine ⟨later, further, final, acknowledged, ⟨low, high⟩, ?_, ?_, ended⟩
        · exact sends.trans (.of_eq sameSent)
        · rw [keptBuf, content]
          exact .inr ⟨position, ack, isAckLater, near, holds⟩

end Iterations

end ReliableTransfer.Sender
