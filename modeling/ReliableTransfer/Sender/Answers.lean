import ReliableTransfer.Sender.Buffer

/-!
# When an answer takes effect

Two consequences of how the sender reads acknowledgements. It replaces its window by the
one which an `ACK` advertises before it tests the number of the `ACK` against it, so an
`ACK` for a buffered packet is ignored when the window has shrunk (`TakesEffect`). And it
decodes the whole of `buf_ack` however many bytes have been read, so a short or failed
`read` repeats what an earlier answer has done, unless that has no effect (`Idle`).
-/

namespace ReliableTransfer.Sender

open QueueSender

theorem remaining_append {seqNum : BitVec 8} {front back : List Pkt} {pkt : Pkt}
    (first : ∀ other ∈ front, other.seqNum ≠ seqNum) (same : pkt.seqNum = seqNum) :
    remaining seqNum (front ++ pkt :: back) = back := by
  induction front with
  | nil => rw [List.nil_append, remaining, if_pos same]
  | cons other rest ih =>
      rw [List.cons_append, remaining, if_neg (first other (by simp))]
      exact ih fun another present => first another (by simp [present])

/-- After the first `ACK`, one which does not end the transfer is tested against its window. -/
theorem handleAnswer_ack_eq {sender : Sender} (consistent : sender.bufStructure.Consistent)
    {head : Pkt} {rest : List Pkt} (nodes : sender.bufStructure.nodes = head :: rest)
    (seen : sender.firstAck = false) {pktAck : Pkt} (type : pktAck.type = ptypeAck)
    (notLast : ¬sender.EndsTransfer pktAck) (rttTime : Time) :
    sender.handleAnswer rttTime pktAck = .ok (.running
      (if Serial.dist head.seqNum (pktAck.seqNum - 1) < pktAck.window.toNat
        then (sender.withWindow pktAck).withRemaining (pktAck.seqNum - 1)
        else sender.withWindow pktAck)) := by
  have sameConsistent : (sender.withWindow pktAck).bufStructure.Consistent := consistent
  have deletes := deleteAcked_eq sameConsistent nodes (window_narrow pktAck) (pktAck.seqNum - 1)
  have handles : sender.handleAck rttTime pktAck =
      (sender.withWindow pktAck).deleteAcked (pktAck.seqNum - 1) := by
    rw [handleAck]
    exact if_neg (by simp [seen])
  rw [handleAnswer, if_neg (show ¬(_ ∧ _) from notLast), if_pos type, handles, deletes]
  rfl

/--
An `ACK` for a buffered packet removes the packets through the first one with that number
and nothing else, and an `ACK` for one of the last 225 packets before the head removes none.
-/
structure TakesEffect (rttTime : Time) (sender : Sender) (head pktAck : Pkt) : Prop where
  buffered : ¬sender.EndsTransfer pktAck → ∀ front pkt back,
    sender.bufStructure.nodes = front ++ pkt :: back → pkt.seqNum = pktAck.seqNum - 1 →
      (∀ other ∈ front, other.seqNum ≠ pktAck.seqNum - 1) →
        ∃ after, sender.handleAnswer rttTime pktAck = .ok (.running after) ∧
          after.bufStructure = .ofNodes back
  old : 1 ≤ Serial.dist (pktAck.seqNum - 1) head.seqNum →
    Serial.dist (pktAck.seqNum - 1) head.seqNum ≤ 225 →
      ∃ flow, sender.handleAnswer rttTime pktAck = .ok flow ∧
        flow.state.bufStructure = sender.bufStructure

/-- A number at most 225 positions behind another is at least 31 positions ahead of it. -/
theorem dist_of_behind {number head : BitVec 8} (behind : 1 ≤ Serial.dist number head)
    (near : Serial.dist number head ≤ 225) : 31 ≤ Serial.dist head number := by
  have turn := Serial.dist_add_dist behind
  omega

variable {crc32 : List Byte → BitVec 32}

/--
An `ACK` after the first one takes effect exactly when the packet before its number, if it
is buffered, lies inside the window which the `ACK` itself advertises.
-/
theorem handleAnswer_takesEffect_iff {tpGlobal : Time} {bufAck : Buffer ackSize}
    {sender : Sender} (handled : AtAnswer crc32 (start tpGlobal bufAck) sender) {head : Pkt}
    {rest : List Pkt} (nodes : sender.bufStructure.nodes = head :: rest)
    (seen : sender.firstAck = false) {pktAck : Pkt} (type : pktAck.type = ptypeAck)
    (rttTime : Time) :
    TakesEffect rttTime sender head pktAck ↔
      ((∃ pkt ∈ sender.bufStructure.nodes, pkt.seqNum = pktAck.seqNum - 1) →
        ¬sender.EndsTransfer pktAck →
          Serial.dist head.seqNum (pktAck.seqNum - 1) < pktAck.window.toNat) := by
  have consistent := handled.settled.sound.consistent
  have handles (notLast : ¬sender.EndsTransfer pktAck) :=
    handleAnswer_ack_eq consistent nodes seen type notLast rttTime
  constructor
  · intro effect buffered notLast
    by_contra far
    rcases none_or_first (fun pkt => pkt.seqNum = pktAck.seqNum - 1) sender.bufStructure.nodes with
      absent | ⟨front, pkt, back, split, first, same⟩
    · rcases buffered with ⟨pkt, present, same⟩
      exact absent pkt present same
    rcases effect.buffered notLast front pkt back split same first with ⟨after, handled, removed⟩
    rw [handles notLast, if_neg far] at handled
    cases handled
    have kept : sender.bufStructure.nodes = back := congrArg Queue.nodes removed
    have shorter := congrArg List.length (kept.symm.trans split)
    simp at shorter
    omega
  · intro inside
    constructor
    · intro notLast front pkt back split same first
      have near := inside ⟨pkt, by simp [split], same⟩ notLast
      refine ⟨_, by rw [handles notLast, if_pos near], ?_⟩
      change Queue.ofNodes (remaining _ sender.bufStructure.nodes) = _
      rw [split, remaining_append first same]
    · intro behind near
      have far := dist_of_behind behind near
      have narrow := window_narrow pktAck
      by_cases last : sender.EndsTransfer pktAck
      · refine ⟨.returned .lastAck sender, ?_, rfl⟩
        rw [handleAnswer, if_pos (show _ ∧ _ from last)]
      · exact ⟨_, by rw [handles last, if_neg (by omega)], rfl⟩

/-- Packet 1 is buffered, and the window which comes with its acknowledgement is open. -/
theorem handleAnswer_takesEffect_example :
    TakesEffect 0 (bufferedExample.afterRead (ackExample .failed))
      ((dataPkt [8] 1 0).withCrcs Crc.zlib) (answerExample 2 0) := by
  have nodes : (bufferedExample.afterRead (ackExample .failed)).bufStructure.nodes =
      [(dataPkt [8] 1 0).withCrcs Crc.zlib] := by
    decide +kernel
  apply (handleAnswer_takesEffect_iff atAnswer_bufferedExample nodes (by decide +kernel) rfl 0).mpr
  intro buffered notLast
  decide +kernel

/-- Packet 1 is buffered, and is acknowledged with a closed window: it stays buffered. -/
theorem handleAnswer_closedWindow :
    ¬∀ sender, AtAnswer Crc.zlib (start 0 (.zeros ackSize)) sender → ∀ head rest,
      sender.bufStructure.nodes = head :: rest → sender.firstAck = false → ∀ data pktAck,
        pktDecode Crc.zlib true data pktNew = .ok pktAck → pktAck.type = ptypeAck →
          TakesEffect 0 sender head pktAck := by
  intro always
  have nodes : (bufferedExample.afterRead (ackExample .failed)).bufStructure.nodes =
      [(dataPkt [8] 1 0).withCrcs Crc.zlib] := by
    decide +kernel
  have effect := always _ atAnswer_bufferedExample _ _ nodes (by decide +kernel)
    [0x80, 2, 0, 0, 0, 0, 0, 0, 0xa1, 0x86, 0x4b, 0x9a]
    { answerExample 2 0xa1864b9a with window := 0 } (by decide +kernel) rfl
  rcases effect.buffered (by rw [EndsTransfer]; decide +kernel) [] _ [] nodes (by decide +kernel)
    (by simp) with ⟨after, handles, removed⟩
  have kept : (bufferedExample.afterRead (ackExample .failed)).handleAnswer 0
      { answerExample 2 0xa1864b9a with window := 0 } = .ok (.running
        { bufferedExample.afterRead (ackExample .failed) with sizeBuffer := 0 }) := by
    decide +kernel
  rw [kept] at handles
  cases handles
  exact absurd removed (by decide +kernel)

/-- The variables which acknowledgements act on are as before, and the loop goes on. -/
def Unaffected (before : Sender) (result : Except Fault (LoopFlow Sender SenderExit)) : Prop :=
  ∃ after, result = .ok (.running after) ∧ after.bufStructure = before.bufStructure ∧
    after.sizeBuffer = before.sizeBuffer ∧ after.timer = before.timer ∧
    after.firstAck = before.firstAck

/-- The window test on the first buffered packet, as `deleteAcked` makes it. -/
def PassesTest (sender : Sender) (head : Pkt) (seqnumDelete : BitVec 8) : Prop :=
  sender.bufStructure.size ≠ 0 ∧ (seqnumDelete - head.seqNum).toNat < sender.sizeBuffer ∧
    ((head.seqNum + BitVec.ofNat 8 sender.sizeBuffer - 1) - seqnumDelete).toNat <
      sender.sizeBuffer

/--
A packet without effect on this state. An `ACK` repeats the present window, and is either
not recognized as the first one, or fails the window test; a `NACK` is for a packet which is
not buffered, or marked already.
-/
structure Idle (sender : Sender) (pktAck : Pkt) : Prop where
  notLast : ¬sender.EndsTransfer pktAck
  window : pktAck.type = ptypeAck → pktAck.window.toNat = sender.sizeBuffer
  unknown : pktAck.type = ptypeAck → sender.firstAck = true →
    ∀ pkt ∈ sender.bufStructure.nodes, pkt.seqNum ≠ pktAck.seqNum - 1
  outside : pktAck.type = ptypeAck → sender.firstAck = false →
    ∃ head rest, sender.bufStructure.nodes = head :: rest ∧
      ¬sender.PassesTest head (pktAck.seqNum - 1)
  marked : pktAck.type = ptypeNack →
    ∀ pkt ∈ queueFindAckStructure sender.bufStructure pktAck.seqNum, pkt.timestamp = 0

theorem length_deleteLoop_le {seqNum : BitVec 8} {run : List Pkt} {queue after : Queue}
    {number deleted : ℕ} (deletes : deleteLoop seqNum run queue number = .ok (deleted, after)) :
    after.nodes.length ≤ queue.nodes.length := by
  have pops {queue rest : Queue} {pkt : Option Pkt} (pop : queuePop queue = .ok (pkt, rest)) :
      rest.nodes.length ≤ queue.nodes.length := by
    rw [queuePop] at pop
    split at pop
    · cases pop
      exact le_rfl
    · split at pop
      · cases pop
      · rename_i nodes
        cases pop
        simp [nodes]
  induction run generalizing queue number with
  | nil =>
      cases deletes
      exact le_rfl
  | cons node run ih =>
      rw [deleteLoop] at deletes
      cases pop : queuePop queue with
      | error fault => simp [pop, bind, Except.bind] at deletes
      | ok popped =>
          simp only [pop, bind, Except.bind] at deletes
          split at deletes
          · exact (ih deletes).trans (pops pop)
          · cases deletes
            exact pops pop

/-- Deletion from a queue with a first node always takes that node. -/
theorem queueDelete_ne {seqNum : BitVec 8} {queue after : Queue} {head : Pkt} {rest : List Pkt}
    {deleted : ℕ} (nodes : queue.nodes = head :: rest) (size : queue.size ≠ 0)
    (deletes : queueDelete queue seqNum = .ok (deleted, after)) : after ≠ queue := by
  rintro rfl
  have pop : queuePop after = .ok (some head, ⟨rest, after.size - 1⟩) := by
    rw [queuePop, if_neg size, nodes]
  rw [queueDelete, if_neg size, nodes, deleteLoop] at deletes
  simp only [pop, bind, Except.bind] at deletes
  split at deletes
  · have shorter := length_deleteLoop_le deletes
    simp [nodes] at shorter
  · simp only [pure, Except.pure, Except.ok.injEq, Prod.mk.injEq] at deletes
    have shorter := congrArg (fun queue => queue.nodes.length) deletes.2
    simp [nodes] at shorter

theorem deleteAcked_frame {sender after : Sender} {seqnumDelete : BitVec 8}
    (deletes : sender.deleteAcked seqnumDelete = .ok after) :
    after.sizeBuffer = sender.sizeBuffer ∧ after.timer = sender.timer ∧
      after.firstAck = sender.firstAck := by
  rw [deleteAcked] at deletes
  split at deletes
  · cases deletes
  · simp only at deletes
    split at deletes
    · cases result : queueDelete sender.bufStructure seqnumDelete with
      | error fault => simp [result, bind, Except.bind] at deletes
      | ok deleted =>
          simp only [result, bind, Except.bind, pure, Except.pure, Except.ok.injEq] at deletes
          subst deletes
          exact ⟨rfl, rfl, rfl⟩
    · cases deletes
      exact ⟨rfl, rfl, rfl⟩

theorem deleteAcked_keeps_iff (sender : Sender) (seqnumDelete : BitVec 8) :
    (∃ after, sender.deleteAcked seqnumDelete = .ok after ∧
        after.bufStructure = sender.bufStructure) ↔
      ∃ head rest, sender.bufStructure.nodes = head :: rest ∧
        ¬sender.PassesTest head seqnumDelete := by
  rw [deleteAcked]
  cases nodes : sender.bufStructure.nodes with
  | nil => simp
  | cons head rest =>
      simp only
      by_cases passes : sender.PassesTest head seqnumDelete
      · rw [if_pos (show _ ∧ _ ∧ _ from passes)]
        refine iff_of_false ?_ ?_
        · rintro ⟨after, deletes, kept⟩
          cases result : queueDelete sender.bufStructure seqnumDelete with
          | error fault => simp [result, bind, Except.bind] at deletes
          | ok deleted =>
              simp only [result, bind, Except.bind, pure, Except.pure, Except.ok.injEq] at deletes
              subst deletes
              exact queueDelete_ne nodes passes.1 result kept
        · rintro ⟨other, others, same, fails⟩
          cases same
          exact fails passes
      · rw [if_neg (show ¬(_ ∧ _ ∧ _) from passes)]
        exact iff_of_true ⟨sender, rfl, rfl⟩ ⟨head, rest, rfl, passes⟩

theorem handleAck_unaffected_iff (sender : Sender) (rttTime : Time) (pktAck : Pkt) :
    (∃ after, sender.handleAck rttTime pktAck = .ok after ∧
        after.bufStructure = sender.bufStructure ∧ after.sizeBuffer = sender.sizeBuffer ∧
        after.timer = sender.timer ∧ after.firstAck = sender.firstAck) ↔
      pktAck.window.toNat = sender.sizeBuffer ∧
        (sender.firstAck = true →
          ∀ pkt ∈ sender.bufStructure.nodes, pkt.seqNum ≠ pktAck.seqNum - 1) ∧
        (sender.firstAck = false → ∃ head rest, sender.bufStructure.nodes = head :: rest ∧
          ¬sender.PassesTest head (pktAck.seqNum - 1)) := by
  rw [handleAck]
  simp only
  by_cases first : sender.firstAck = true
  · simp only [first, if_true, forall_const, Bool.true_eq_false, false_implies, and_true]
    cases search : queueFindAckStructure sender.bufStructure (pktAck.seqNum - 1) with
    | none =>
        have absent : ∀ pkt ∈ sender.bufStructure.nodes, pkt.seqNum ≠ pktAck.seqNum - 1 := by
          simpa [queueFindAckStructure] using search
        constructor
        · rintro ⟨after, handles, _, window, _⟩
          cases handles
          exact ⟨window, absent⟩
        · rintro ⟨window, _⟩
          exact ⟨_, rfl, rfl, window, rfl, rfl⟩
    | some timePkt =>
        refine iff_of_false ?_ ?_
        · rintro ⟨after, handles, _, _, _, unseen⟩
          have seen := (deleteAcked_frame handles).2.2
          rw [unseen] at seen
          cases seen
        · rintro ⟨_, absent⟩
          have found := List.find?_some search
          exact absent timePkt (List.mem_of_find?_eq_some search) (by simpa using found)
  · have seen : sender.firstAck = false := Bool.eq_false_of_not_eq_true first
    have keeps := deleteAcked_keeps_iff (sender.withWindow pktAck) (pktAck.seqNum - 1)
    rw [if_neg first]
    constructor
    · rintro ⟨after, handles, kept, window, _⟩
      have same : pktAck.window.toNat = sender.sizeBuffer :=
        (deleteAcked_frame handles).1.symm.trans window
      rcases keeps.mp ⟨after, handles, kept⟩ with ⟨head, rest, nodes, fails⟩
      refine ⟨same, fun earlier => absurd earlier first, fun _ => ⟨head, rest, nodes, ?_⟩⟩
      rw [PassesTest, ← same]
      exact fails
    · rintro ⟨same, _, outside⟩
      rcases outside seen with ⟨head, rest, nodes, fails⟩
      rw [PassesTest, ← same] at fails
      rcases keeps.mpr ⟨head, rest, nodes, fails⟩ with ⟨after, handles, kept⟩
      rcases deleteAcked_frame handles with ⟨window, timer, firstAck⟩
      exact ⟨after, handles, kept, window.trans same, timer, firstAck⟩

theorem handleAnswer_unaffected_iff (sender : Sender) (rttTime : Time) (pktAck : Pkt) :
    Unaffected sender (sender.handleAnswer rttTime pktAck) ↔ sender.Idle pktAck := by
  rw [handleAnswer]
  by_cases last : sender.EndsTransfer pktAck
  · rw [if_pos (show _ ∧ _ from last)]
    refine iff_of_false ?_ (fun idle => idle.notLast last)
    rintro ⟨after, returns, _⟩
    cases returns
  rw [if_neg (show ¬(_ ∧ _) from last)]
  by_cases isAck : pktAck.type = ptypeAck
  · have notNack : pktAck.type ≠ ptypeNack := by
      rw [isAck]
      decide
    have unaffected := handleAck_unaffected_iff sender rttTime pktAck
    rw [if_pos isAck]
    constructor
    · rintro ⟨after, handles, kept⟩
      cases handled : sender.handleAck rttTime pktAck with
      | error fault => simp [handled, bind, Except.bind] at handles
      | ok acknowledged =>
          simp only [handled, bind, Except.bind, pure, Except.pure, Except.ok.injEq,
            LoopFlow.running.injEq] at handles
          subst handles
          rcases unaffected.mp ⟨acknowledged, handled, kept⟩ with ⟨window, unknown, outside⟩
          exact ⟨last, fun _ => window, fun _ => unknown, fun _ => outside,
            fun isNack => absurd isNack notNack⟩
    · intro idle
      rcases unaffected.mpr ⟨idle.window isAck, idle.unknown isAck, idle.outside isAck⟩ with
        ⟨after, handles, kept⟩
      refine ⟨after, ?_, kept⟩
      rw [handles]
      rfl
  rw [if_neg isAck]
  by_cases isNack : pktAck.type = ptypeNack
  · rw [if_pos isNack]
    have marks := markNodes_eq_self_iff pktAck.seqNum sender.bufStructure.nodes
    constructor
    · rintro ⟨after, handles, kept, _⟩
      cases handles
      have same := congrArg Queue.nodes kept
      exact ⟨last, fun other => absurd other isAck, fun other => absurd other isAck,
        fun other => absurd other isAck, fun _ => marks.mp same⟩
    · intro idle
      have same := marks.mpr (idle.marked isNack)
      refine ⟨_, rfl, ?_, rfl, rfl, rfl⟩
      rw [handleNack, queueFindNackStructure]
      simp only [same]
  · rw [if_neg isNack]
    exact iff_of_true ⟨sender, rfl, rfl, rfl, rfl, rfl⟩
      ⟨last, fun other => absurd other isAck, fun other => absurd other isAck,
        fun other => absurd other isAck, fun other => absurd other isNack⟩

variable (crc32)

/--
Reading from the socket, however few bytes it yields, leaves the sender as it is exactly
when `buf_ack`, with the new bytes written over the old ones, does not decode, or decodes to
a packet without effect.
-/
theorem readAck_unaffected_iff (input : SenderInput) (sender : Sender) :
    Unaffected sender (readAck crc32 input sender) ↔
      ∀ pktAck, pktDecode crc32 true (sender.bufAck.readInto input.ackRead).val pktNew =
        .ok pktAck → sender.Idle pktAck := by
  rw [readAck]
  simp only
  cases decodes : pktDecode crc32 true (sender.bufAck.readInto input.ackRead).val pktNew with
  | error code =>
      refine iff_of_true ⟨_, rfl, rfl, rfl, rfl, rfl⟩ ?_
      rintro pktAck ⟨⟩
  | ok pktAck =>
      have handled := handleAnswer_unaffected_iff (sender.afterRead input) input.rttTime pktAck
      simp only [Except.ok.injEq, forall_eq']
      constructor
      · intro unaffected
        have idle := handled.mp unaffected
        exact ⟨idle.notLast, idle.window, idle.unknown, idle.outside, idle.marked⟩
      · intro idle
        exact handled.mpr ⟨idle.notLast, idle.window, idle.unknown, idle.outside, idle.marked⟩

/-- The datagram of a `NACK` for packet 0. -/
def nackZeroExample : ReadResult ackSize :=
  .bytes [0xdf, 0, 0, 0, 0, 0, 0, 0, 0xba, 0x1f, 0xbb, 0xd9] (by decide)

/-- Packet 0 is sent, a `NACK` for it arrives, and it is sent again at the time 6. -/
def resentInputs : List SenderInput :=
  [{ sendExample (byteExample 7) with stampTime := 5 }, ackExample nackZeroExample,
    { sendExample .failed with scan := fun _ => ⟨6, .ready ⟨false, true⟩, 6, .zeros _⟩ }]

def resentExample : Sender :=
  match Loop.run (readWriteLoop Crc.zlib) resentInputs (start 0 (.zeros ackSize)) with
  | .ok flow => flow.state
  | .error _ => start 0 (.zeros ackSize)

/-- Nothing is read any more: the old `NACK` is handled again, and marks packet 0 once more. -/
theorem readAck_staleNack :
    ¬∀ sender, Loop.Reachable (readWriteLoop Crc.zlib) (start 0 (.zeros ackSize)) sender →
      ∀ input, input.ackRead.count < 12 → Unaffected sender (readAck Crc.zlib input sender) := by
  intro always
  have reached : Loop.Reachable (readWriteLoop Crc.zlib) (start 0 (.zeros ackSize))
      resentExample := ⟨resentInputs, by decide +kernel⟩
  rcases always resentExample reached (ackExample .failed) (by decide) with ⟨after, reads, kept, _⟩
  have marked : readAck Crc.zlib (ackExample .failed) resentExample = .ok (.running
      { resentExample with
        bufStructure :=
          .ofNodes [{ (dataPkt [7] 0 6).withCrcs Crc.zlib with timestamp := 0 }] }) := by
    decide +kernel
  simp only [marked, Except.ok.injEq, LoopFlow.running.injEq] at reads
  rw [← reads] at kept
  exact absurd kept (by decide +kernel)

end ReliableTransfer.Sender
