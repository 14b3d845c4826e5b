import ReliableTransfer.Sender.Basic
import ReliableTransfer.Library.Serial

/-!
# The scan for retransmissions

The loop over the buffered packets reads the clock at each packet, polls the
socket again when the packet is due, and leaves the loop once it has sent one.
It has two ways to go on without advancing, which are not taken since encoding
never fails for a buffered packet. Hence it is a pass over the list which visits
each packet at most once (`scanned`), and the result is determined by the packet
at which it ends (`resend_eq`).
-/

namespace ReliableTransfer.Sender

open QueueSender

/-- A buffered packet can be encoded: it holds its payload, which is not too long. -/
structure Sendable (pkt : Pkt) : Prop where
  holds : pkt.HoldsPayload
  short : pkt.length.toNat ≤ maxPayloadSize

/-- The buffer counts its packets, each of which can be encoded. -/
structure Sound (sender : Sender) : Prop where
  consistent : sender.bufStructure.Consistent
  sendable : ∀ pkt ∈ sender.bufStructure.nodes, Sendable pkt

theorem Sendable.wireSize_le {pkt : Pkt} (sendable : Sendable pkt) :
    pkt.wireSize ≤ maxPacketSize := by
  have short := sendable.short
  simp only [maxPayloadSize] at short
  rw [Pkt.wireSize, maxPacketSize]
  split
  · omega
  · omega

variable (crc32 : List Byte → BitVec 32)

theorem pktEncode_sendable {pkt : Pkt} (sendable : Sendable pkt) (buf : Buffer maxPacketSize) :
    ∃ encoded, pktEncode crc32 (some pkt) buf.val maxPacketSize = .ok encoded ∧
      encoded.status = .pktOk ∧ encoded.pkt = some (pkt.withCrcs crc32) ∧
      encoded.buf.take encoded.len = pkt.wireBytes crc32 := by
  have size := sendable.wireSize_le
  have encodes := pktEncode_eq crc32 buf.val maxPacketSize sendable.holds size
    (size.trans buf.property.ge)
  refine ⟨_, encodes, rfl, rfl, ?_⟩
  exact List.take_left' (Pkt.length_wireBytes crc32 sendable.holds)

theorem sendable_withCrcs {pkt : Pkt} (sendable : Sendable pkt) :
    Sendable (pkt.withCrcs crc32) :=
  ⟨sendable.holds, sendable.short⟩

/-- How a pass ends: with the packet at an index which is sent again, or without any. -/
inductive ScanOutcome where
  | nothing
  | pollError
  | again (index : ℕ)
  deriving DecidableEq, Repr

/-- The pass over the packets from an index on. -/
def scanFrom (scan : ℕ → ScanInput) (headSeqNum : BitVec 8) (sender : Sender) :
    ℕ → List Pkt → Revents → ScanOutcome × Revents
  | _, [], revents => (.nothing, revents)
  | index, pkt :: rest, revents =>
      if sender.sizeBuffer ≤ Serial.dist headSeqNum pkt.seqNum then (.nothing, revents)
      else if sender.due (scan index).timeNow pkt then
        match (scan index).poll with
        | .failed => (.pollError, revents)
        | .ready polled =>
            if polled.pollout then (.again index, polled)
            else scanFrom scan headSeqNum sender (index + 1) rest polled
      else scanFrom scan headSeqNum sender (index + 1) rest revents

/-- The pass over the whole buffer. -/
def scanned (scan : ℕ → ScanInput) (revents : Revents) (sender : Sender) : ScanOutcome × Revents :=
  match sender.bufStructure.nodes with
  | [] => (.nothing, revents)
  | head :: rest => scanFrom scan head.seqNum sender 0 (head :: rest) revents

def restamp (pkt : Pkt) (stamp : Time) : Pkt :=
  { pkt with timestamp := stamp.setWidth 32 }.withCrcs crc32

def afterResend (sender : Sender) (front : List Pkt) (pkt : Pkt) (back : List Pkt)
    (stamp : Time) : Sender :=
  { sender with
    bufStructure := .ofNodes (front ++ restamp crc32 pkt stamp :: back)
    sent := sender.sent ++ [{ pkt with timestamp := stamp.setWidth 32 }.wireBytes crc32] }

/-- The packet at an index is sent again. -/
def resendAt (sender : Sender) (index : ℕ) (stamp : Time) : Sender :=
  match sender.bufStructure.nodes[index]? with
  | none => sender
  | some pkt => sender.afterResend crc32 (sender.bufStructure.nodes.take index) pkt
      (sender.bufStructure.nodes.drop (index + 1)) stamp

/-- What is done at the end of a pass. -/
def afterScan (scan : ℕ → ScanInput) (sender : Sender) :
    ScanOutcome × Revents → LoopFlow (Revents × Sender) SenderExit
  | (.nothing, revents) => .running (revents, sender)
  | (.pollError, revents) => .returned .pollError (revents, sender)
  | (.again index, revents) => .running (revents, sender.resendAt crc32 index (scan index).stamp)

theorem resendAt_append {sender : Sender} {front back : List Pkt} {pkt : Pkt} (stamp : Time)
    (nodes : sender.bufStructure.nodes = front ++ pkt :: back) :
    sender.resendAt crc32 front.length stamp = sender.afterResend crc32 front pkt back stamp := by
  have found : (front ++ pkt :: back)[front.length]? = some pkt := by simp
  have behind : (front ++ pkt :: back).drop (front.length + 1) = back := by simp
  rw [resendAt, nodes, found]
  simp only
  rw [List.take_left' rfl, behind]

/-- The loop is the pass: encoding succeeds, so that no packet is visited again. -/
theorem resendLoop_eq {scan : ℕ → ScanInput} {headSeqNum : BitVec 8} {fuel : ℕ}
    {before run : List Pkt} {revents : Revents} {sender : Sender}
    (nodes : sender.bufStructure = .ofNodes (before ++ run))
    (sendable : ∀ pkt ∈ run, Sendable pkt) (enough : run.length ≤ fuel) :
    resendLoop crc32 scan headSeqNum fuel before.length before run revents sender =
      .ok (sender.afterScan crc32 scan
        (scanFrom scan headSeqNum sender before.length run revents)) := by
  induction run generalizing fuel before revents with
  | nil => rw [resendLoop, scanFrom, afterScan]
  | cons pkt rest ih =>
      cases fuel with
      | zero => simp at enough
      | succ fuel =>
          have next : ∀ revents, resendLoop crc32 scan headSeqNum fuel (before.length + 1)
              (before ++ [pkt]) rest revents sender = .ok (sender.afterScan crc32 scan
                (scanFrom scan headSeqNum sender (before.length + 1) rest revents)) := by
            intro revents
            have passed : (before ++ [pkt]).length = before.length + 1 := List.length_append
            rw [← passed]
            apply ih
            · rw [nodes, List.append_assoc, List.singleton_append]
            · exact fun other present => sendable other (by simp [present])
            · exact Nat.le_of_succ_le_succ enough
          rw [resendLoop, scanFrom]
          by_cases far : sender.sizeBuffer ≤ Serial.dist headSeqNum pkt.seqNum
          · rw [if_pos (show (pkt.seqNum - headSeqNum).toNat ≥ sender.sizeBuffer from far),
              if_pos far, afterScan]
          · rw [if_neg (show ¬(pkt.seqNum - headSeqNum).toNat ≥ sender.sizeBuffer from far),
              if_neg far]
            by_cases isDue : sender.due (scan before.length).timeNow pkt = true
            · rw [if_pos isDue, if_pos isDue]
              cases (scan before.length).poll with
              | failed => rfl
              | ready polled =>
                  simp only
                  by_cases pollout : polled.pollout = true
                  · have stamped : Sendable
                        { pkt with timestamp := (scan before.length).stamp.setWidth 32 } :=
                      ⟨(sendable pkt (by simp)).holds, (sendable pkt (by simp)).short⟩
                    rcases pktEncode_sendable crc32 stamped (scan before.length).buf with
                      ⟨encoded, encodes, status, buffered, bytes⟩
                    have size : sender.bufStructure.size = (before ++
                        restamp crc32 pkt (scan before.length).stamp :: rest).length := by
                      rw [nodes]
                      simp
                    have place : sender.bufStructure.nodes = before ++ pkt :: rest := by
                      rw [nodes, Queue.nodes_ofNodes]
                    rw [if_pos pollout, if_pos pollout, afterScan,
                      resendAt_append crc32 (scan before.length).stamp place]
                    simp only [pktSetTimestamp, encodes, status, buffered, bytes, size,
                      Option.getD_some, bind, Except.bind, ne_eq, not_true_eq_false, if_false]
                    rfl
                  · rw [if_neg pollout, if_neg pollout]
                    exact next polled
            · rw [if_neg isDue, if_neg isDue]
              exact next revents

theorem resend_eq {sender : Sender} (sound : sender.Sound) (scan : ℕ → ScanInput)
    (revents : Revents) :
    resend crc32 scan revents sender =
      .ok (sender.afterScan crc32 scan (sender.scanned scan revents)) := by
  rw [resend, scanned]
  cases nodes : sender.bufStructure.nodes with
  | nil => rfl
  | cons head rest =>
      have buffered : sender.bufStructure = .ofNodes ([] ++ head :: rest) := by
        rw [sound.consistent.eq_ofNodes, nodes]
        rfl
      have sendable : ∀ pkt ∈ head :: rest, Sendable pkt := by
        rw [← nodes]
        exact sound.sendable
      exact resendLoop_eq crc32 buffered sendable le_rfl

/-- The readings for the packets which are not there do not matter. -/
theorem scanFrom_congr {scan other : ℕ → ScanInput} {headSeqNum : BitVec 8} {sender : Sender}
    {index : ℕ} {run : List Pkt} {revents : Revents}
    (same : ∀ later, index ≤ later → later < index + run.length → other later = scan later) :
    scanFrom other headSeqNum sender index run revents =
      scanFrom scan headSeqNum sender index run revents := by
  induction run generalizing index revents with
  | nil => rfl
  | cons pkt rest ih =>
      have next : ∀ revents, scanFrom other headSeqNum sender (index + 1) rest revents =
          scanFrom scan headSeqNum sender (index + 1) rest revents := by
        intro revents
        apply ih
        intro later low high
        apply same later
        · omega
        · rw [List.length_cons]
          omega
      have here : other index = scan index := same index le_rfl (by simp)
      simp only [scanFrom, here, next]

/-- The packet at which a pass ends is in the window and due, and the socket is writable. -/
theorem scanFrom_again {scan : ℕ → ScanInput} {headSeqNum : BitVec 8} {sender : Sender}
    {before run : List Pkt} {revents polled : Revents} {index : ℕ}
    (outcome : scanFrom scan headSeqNum sender before.length run revents = (.again index, polled)) :
    ∃ front pkt back, before ++ run = front ++ pkt :: back ∧ index = front.length ∧
      Serial.dist headSeqNum pkt.seqNum < sender.sizeBuffer ∧
      sender.due (scan index).timeNow pkt = true ∧ (scan index).poll = .ready polled ∧
      polled.pollout = true := by
  induction run generalizing before revents with
  | nil => cases outcome
  | cons pkt rest ih =>
      have next : ∀ {revents}, scanFrom scan headSeqNum sender (before.length + 1) rest revents =
          (.again index, polled) → ∃ front other back, before ++ pkt :: rest =
            front ++ other :: back ∧ index = front.length ∧
            Serial.dist headSeqNum other.seqNum < sender.sizeBuffer ∧
            sender.due (scan index).timeNow other = true ∧ (scan index).poll = .ready polled ∧
            polled.pollout = true := by
        intro revents later
        have passed : (before ++ [pkt]).length = before.length + 1 := List.length_append
        rw [← passed] at later
        simpa using ih later
      rw [scanFrom] at outcome
      split at outcome
      · cases outcome
      · rename_i near
        split at outcome
        · rename_i isDue
          split at outcome
          · cases outcome
          · rename_i fresh poll
            split at outcome
            · rename_i pollout
              cases outcome
              exact ⟨before, pkt, rest, rfl, rfl, Nat.lt_of_not_le near, isDue, poll, pollout⟩
            · exact next outcome
        · exact next outcome

theorem scanned_of_empty {sender : Sender} (empty : sender.bufStructure.nodes = [])
    (scan : ℕ → ScanInput) (revents : Revents) :
    sender.scanned scan revents = (.nothing, revents) := by
  rw [scanned, empty]

theorem scanned_of_head {sender : Sender} {head : Pkt}
    (isHead : head ∈ sender.bufStructure.nodes.head?) (scan : ℕ → ScanInput) (revents : Revents) :
    sender.scanned scan revents =
      scanFrom scan head.seqNum sender 0 sender.bufStructure.nodes revents := by
  rcases List.head?_eq_some_iff.mp isHead with ⟨rest, nodes⟩
  rw [scanned, nodes]

theorem scanned_congr {scan other : ℕ → ScanInput} {sender : Sender}
    (same : ∀ index < sender.bufStructure.nodes.length, other index = scan index)
    (revents : Revents) : sender.scanned other revents = sender.scanned scan revents := by
  cases isHead : sender.bufStructure.nodes.head? with
  | none =>
      have empty := List.head?_eq_none_iff.mp isHead
      rw [scanned_of_empty empty, scanned_of_empty empty]
  | some head =>
      rw [scanned_of_head isHead, scanned_of_head isHead]
      apply scanFrom_congr
      intro later _ inside
      exact same later (by omega)

theorem scanned_again {scan : ℕ → ScanInput} {sender : Sender} {revents polled : Revents}
    {index : ℕ} (outcome : sender.scanned scan revents = (.again index, polled)) :
    ∃ front pkt back, sender.bufStructure.nodes = front ++ pkt :: back ∧ index = front.length ∧
      (∀ head ∈ sender.bufStructure.nodes.head?,
        Serial.dist head.seqNum pkt.seqNum < sender.sizeBuffer) ∧
      sender.due (scan index).timeNow pkt = true ∧ (scan index).poll = .ready polled ∧
      polled.pollout = true := by
  rw [scanned] at outcome
  split at outcome
  · cases outcome
  · rename_i head rest nodes
    rcases @scanFrom_again scan head.seqNum sender [] _ _ _ _ outcome with
      ⟨front, pkt, back, same, place, near, isDue, poll, pollout⟩
    refine ⟨front, pkt, back, nodes.trans same, place, ?_, isDue, poll, pollout⟩
    intro first isFirst
    rw [nodes] at isFirst
    cases isFirst
    exact near

end ReliableTransfer.Sender
