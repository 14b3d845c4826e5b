import ReliableTransfer.Sender.Steps
import ReliableTransfer.Library.Crc

/-!
# The numbers of new packets

A sequence number is meant for one packet, which is buffered and sent. The return value -1
of a failed `read` breaks this: `create_packet` takes a number before it finds that the
length is too large, and the loop goes on without a packet. The number is lost, and the
block which was to hold the encoding is sent as it was.
-/

namespace ReliableTransfer.Sender

theorem succ_ne (seqNum : BitVec 8) : seqNum + 1 ≠ seqNum := by
  revert seqNum
  decide

/--
When `create_packet` fails, the number is untouched exactly if it has failed before it
took the number, or cannot fail after that.
-/
theorem createPacket_keepsSeqNum_iff (mallocTime mallocPayload : Bool) (payload : List Byte)
    (pkt : Pkt) (len : ℤ) (seqNum : BitVec 8) (timePkt : Time) :
    (∀ next, createPacket mallocTime mallocPayload payload pkt len seqNum timePkt =
        .ok (none, next) → next = seqNum) ↔
      mallocTime = false ∨
        ((BitVec.ofInt 16 len).toNat ≤ maxPayloadSize ∧ mallocPayload = true) := by
  cases mallocTime with
  | false =>
      refine iff_of_true ?_ (.inl rfl)
      intro next fails
      simp only [createPacket, if_true, Except.ok.injEq, Prod.mk.injEq, true_and] at fails
      exact fails.symm
  | true =>
      have window (pkt : Pkt) : pktSetWindow pkt 31 = (.pktOk, { pkt with window := 31 }) := rfl
      by_cases short : (BitVec.ofInt 16 len).toNat ≤ maxPayloadSize
      · have within : ¬(BitVec.ofInt 16 len).toNat > maxPayloadSize := Nat.not_lt.mpr short
        have length (pkt : Pkt) : pktSetLength pkt (BitVec.ofInt 16 len) =
            (.pktOk, { pkt with length := BitVec.ofInt 16 len }) := if_neg within
        simp only [createPacket, window, length, pktSetPayload, within, Bool.true_eq_false,
          if_false, ne_eq, not_true_eq_false, false_or]
        cases mallocPayload with
        | false =>
            refine iff_of_false ?_ (by simp)
            intro keeps
            exact succ_ne seqNum (keeps _ rfl)
        | true =>
            refine iff_of_true ?_ ⟨short, rfl⟩
            intro next fails
            simp only [Bool.true_eq_false, if_false, bind, Except.bind] at fails
            split at fails
            · cases fails
            · rename_i result pushed
              split at pushed
              · cases pushed
              · split at pushed
                · cases pushed
                · cases pushed
                  cases fails
      · have long : (BitVec.ofInt 16 len).toNat > maxPayloadSize := Nat.lt_of_not_le short
        have length (pkt : Pkt) : pktSetLength pkt (BitVec.ofInt 16 len) = (.eLength, pkt) :=
          if_pos long
        refine iff_of_false ?_ ?_
        · intro keeps
          refine succ_ne seqNum (keeps _ ?_)
          simp only [createPacket, window, length, Bool.true_eq_false, if_false, ne_eq,
            not_true_eq_false, reduceCtorEq, not_false_eq_true, if_true]
        · rintro (untimed | fits)
          · cases untimed
          · exact short fits.1

variable (crc32 : List Byte → BitVec 32)

/-- A number has been taken for one packet, which is buffered and sent, or nothing was done. -/
def Consumes (before after : Sender) : Prop :=
  (after.seqNum = before.seqNum + 1 ∧
    ∃ pkt, pkt.seqNum = before.seqNum ∧
      after.bufStructure = ⟨before.bufStructure.nodes ++ [pkt], before.bufStructure.size + 1⟩ ∧
      after.sent = before.sent ++ [pkt.wireBytes crc32]) ∨
  (after.seqNum = before.seqNum ∧ after.bufStructure = before.bufStructure ∧
    after.sent = before.sent)

theorem consumes_afterSend {sender : Sender} (consistent : sender.bufStructure.Consistent)
    {pkt : Pkt} (seqNum : pkt.seqNum = sender.seqNum) (isEnd : Bool) (sendTime : Time) :
    Consumes crc32 sender (sender.afterSend crc32 pkt isEnd sendTime) := by
  refine .inl ⟨rfl, pkt.withCrcs crc32, seqNum, ?_, rfl⟩
  rw [consistent]
  exact (Queue.ofNodes_append _ _).symm

theorem not_consumes_afterFailedRead (sender : Sender) (buf : Buffer maxPacketSize)
    (sendTime : Time) : ¬Consumes crc32 sender (sender.afterFailedRead buf sendTime) := by
  rintro (⟨_, pkt, _, buffered, _⟩ | ⟨seqNum, _⟩)
  · have nodes := congrArg Queue.nodes buffered
    simp [afterFailedRead] at nodes
  · exact succ_ne sender.seqNum seqNum

theorem send_consumes {sender : Sender} (consistent : sender.bufStructure.Consistent)
    (room : sender.HasRoom) (input : SenderInput) :
    ∃ after, send crc32 input sender = .ok after ∧
      (Consumes crc32 sender after ↔ input.newPayload ≠ .failed) := by
  rw [send]
  cases read : input.newPayload with
  | failed =>
      refine ⟨_, sendData_failed crc32 read, ?_⟩
      exact iff_of_false (not_consumes_afterFailedRead crc32 sender _ _) (by simp)
  | bytes data fits =>
      split
      · refine ⟨_, sendEnd_eq crc32 consistent input, ?_⟩
        exact iff_of_true (consumes_afterSend crc32 consistent rfl _ _) (by simp)
      · refine ⟨_, sendData_eq crc32 consistent read room.2, ?_⟩
        exact iff_of_true (consumes_afterSend crc32 consistent rfl _ _) (by simp)

/--
The send step takes a number exactly for the packet which it buffers and sends as long as
`read` does not fail, and `create_packet` takes none when it fails as long as it does not
fail on the length or on the payload.
-/
theorem send_consumes_iff :
    (∀ sender : Sender, sender.bufStructure.Consistent → sender.HasRoom → ∀ input,
      ∃ after, send crc32 input sender = .ok after ∧
        (Consumes crc32 sender after ↔ input.newPayload ≠ .failed)) ∧
    ∀ mallocTime mallocPayload payload pkt len seqNum timePkt,
      (∀ next, createPacket mallocTime mallocPayload payload pkt len seqNum timePkt =
          .ok (none, next) → next = seqNum) ↔
        mallocTime = false ∨
          ((BitVec.ofInt 16 len).toNat ≤ maxPayloadSize ∧ mallocPayload = true) :=
  ⟨fun _ consistent room input => send_consumes crc32 consistent room input,
    createPacket_keepsSeqNum_iff⟩

theorem send_consumes_iff_example :
    ∃ after, send Crc.zlib (sendExample (.bytes [7] (by decide))) (start 0 (.zeros ackSize)) =
      .ok after ∧ (Consumes Crc.zlib (start 0 (.zeros ackSize)) after ↔
        (sendExample (.bytes [7] (by decide))).newPayload ≠ .failed) :=
  (send_consumes_iff Crc.zlib).1 (start 0 (.zeros ackSize)) Queue.consistent_init (by decide)
    (sendExample (.bytes [7] (by decide)))

/-- The first `read` fails: the number 0 is lost, and 528 bytes which are no packet are sent. -/
theorem send_failedRead :
    ¬∀ sender : Sender, sender.bufStructure.Consistent → sender.HasRoom → ∀ input,
      ∃ after, send Crc.zlib input sender = .ok after ∧ Consumes Crc.zlib sender after := by
  intro always
  rcases always (start 0 (.zeros ackSize)) Queue.consistent_init (by decide)
    (sendExample .failed) with ⟨after, sends, consumes⟩
  rw [send, if_neg (by decide), sendData_failed Crc.zlib rfl] at sends
  cases sends
  exact not_consumes_afterFailedRead Crc.zlib _ _ _ consumes

end ReliableTransfer.Sender
