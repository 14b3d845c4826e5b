import ReliableTransfer.Sender.Steps
import ReliableTransfer.Library.Crc

/-!
# Which packet is sent again

If the numbers in the buffer are contiguous, the distance from the head is the
position. The first packet outside of the window, at which the scan ends, is then
followed only by packets outside of the window. Hence the scan finds the first
packet of the window which is marked by a `NACK` or older than the timer.

All the other packets stay as they are. A mark is lost only when its packet is
sent again or removed.
-/

namespace ReliableTransfer.Sender

open QueueSender

variable (crc32 : List Byte → BitVec 32)

/-- The packets are numbered one after the other, from a number on. -/
def Numbered (first : BitVec 8) (nodes : List Pkt) : Prop :=
  ∀ index pkt, nodes[index]? = some pkt → pkt.seqNum = first + Serial.wire 8 index

/-- The buffer holds contiguous numbers, each once, and packets which can be encoded. -/
structure Buffered (sender : Sender) : Prop where
  sound : sender.Sound
  few : sender.bufStructure.nodes.length ≤ 256
  numbered : ∀ head ∈ sender.bufStructure.nodes.head?,
    Numbered head.seqNum sender.bufStructure.nodes

def InWindow (sender : Sender) (pkt : Pkt) : Prop :=
  ∀ head ∈ sender.bufStructure.nodes.head?,
    Serial.dist head.seqNum pkt.seqNum < sender.sizeBuffer

/-- A packet in the window which is marked, or older than the timer when it is visited. -/
def Overdue (scan : ℕ → ScanInput) (sender : Sender) (index : ℕ) (pkt : Pkt) : Prop :=
  sender.InWindow pkt ∧ sender.due (scan index).timeNow pkt = true

/-- Whenever the socket is polled for one of the packets, it is writable. -/
def StaysWritable (scan : ℕ → ScanInput) (sender : Sender) : Prop :=
  ∀ index < sender.bufStructure.nodes.length,
    ∃ polled, (scan index).poll = .ready polled ∧ polled.pollout = true

/-- The first packet of the buffer which is overdue, if there is one, is sent again. -/
inductive Picks (scan : ℕ → ScanInput) (before : Sender) : Sender → Prop where
  | nothing (none : ∀ index pkt, before.bufStructure.nodes[index]? = some pkt →
      ¬before.Overdue scan index pkt) : Picks scan before before
  | first (front : List Pkt) (pkt : Pkt) (back : List Pkt)
      (nodes : before.bufStructure.nodes = front ++ pkt :: back)
      (overdue : before.Overdue scan front.length pkt)
      (earlier : ∀ index < front.length, ∀ other,
        before.bufStructure.nodes[index]? = some other → ¬before.Overdue scan index other) :
      Picks scan before (before.afterResend crc32 front pkt back (scan front.length).stamp)

theorem Numbered.dist {first : BitVec 8} {nodes : List Pkt} (numbered : Numbered first nodes)
    (few : nodes.length ≤ 256) {index : ℕ} {pkt : Pkt} (found : nodes[index]? = some pkt) :
    Serial.dist first pkt.seqNum = index := by
  have inside := (List.getElem?_eq_some_iff.mp found).1
  rw [numbered index pkt found, Serial.dist_add_wire]
  exact Nat.lt_of_lt_of_le inside few

theorem Buffered.inWindow_iff {sender : Sender} (buffered : sender.Buffered) {index : ℕ}
    {pkt : Pkt} (found : sender.bufStructure.nodes[index]? = some pkt) :
    sender.InWindow pkt ↔ index < sender.sizeBuffer := by
  have nonempty : sender.bufStructure.nodes ≠ [] := by
    intro empty
    rw [empty] at found
    cases found
  have first := List.head?_eq_some_head nonempty
  have distance := (buffered.numbered _ first).dist buffered.few found
  constructor
  · intro near
    rw [← distance]
    exact near _ first
  · intro near head isFirst
    rw [isFirst] at first
    cases first
    rwa [distance]

/-- A pass over a writable socket ends at the first packet which is overdue. -/
theorem scanFrom_first {scan : ℕ → ScanInput} {sender : Sender} (buffered : sender.Buffered)
    (writable : sender.StaysWritable scan) {head : Pkt}
    (isHead : head ∈ sender.bufStructure.nodes.head?) {before run : List Pkt} {revents : Revents}
    (nodes : sender.bufStructure.nodes = before ++ run)
    (passed : ∀ index < before.length, ∀ pkt, sender.bufStructure.nodes[index]? = some pkt →
      ¬sender.Overdue scan index pkt) :
    (∃ polled, scanFrom scan head.seqNum sender before.length run revents = (.nothing, polled) ∧
        ∀ index pkt, sender.bufStructure.nodes[index]? = some pkt →
          ¬sender.Overdue scan index pkt) ∨
      ∃ front pkt back polled,
        scanFrom scan head.seqNum sender before.length run revents =
          (.again front.length, polled) ∧
        sender.bufStructure.nodes = front ++ pkt :: back ∧
        sender.Overdue scan front.length pkt ∧
        ∀ index < front.length, ∀ other, sender.bufStructure.nodes[index]? = some other →
          ¬sender.Overdue scan index other := by
  induction run generalizing before revents with
  | nil =>
      refine .inl ⟨revents, rfl, ?_⟩
      intro index pkt found
      apply passed index ?_ pkt found
      have inside := (List.getElem?_eq_some_iff.mp found).1
      rwa [nodes, List.append_nil] at inside
  | cons pkt rest ih =>
      have found : sender.bufStructure.nodes[before.length]? = some pkt := by
        rw [nodes]
        simp
      have inWindow := buffered.inWindow_iff found
      have distance := (buffered.numbered head isHead).dist buffered.few found
      have next (spared : ¬sender.Overdue scan before.length pkt) (revents : Revents) :=
        @ih (before ++ [pkt]) revents (by rw [nodes]; simp) (by
          intro index inside other present
          rw [List.length_append, List.length_singleton, Nat.lt_succ_iff_lt_or_eq] at inside
          rcases inside with earlier | rfl
          · exact passed index earlier other present
          · rw [found] at present
            cases present
            exact spared)
      rw [List.length_append, List.length_singleton] at next
      rw [scanFrom, distance]
      by_cases far : sender.sizeBuffer ≤ before.length
      · -- All the packets which follow are further away.
        rw [if_pos far]
        refine .inl ⟨revents, rfl, ?_⟩
        intro index other present
        rcases Nat.lt_or_ge index before.length with earlier | later
        · exact passed index earlier other present
        · intro overdue
          have near := (buffered.inWindow_iff present).mp overdue.1
          omega
      · have near : sender.InWindow pkt := inWindow.mpr (Nat.lt_of_not_le far)
        rw [if_neg far]
        by_cases isDue : sender.due (scan before.length).timeNow pkt = true
        · rcases writable before.length (List.getElem?_eq_some_iff.mp found).1 with
            ⟨polled, poll, pollout⟩
          rw [if_pos isDue, poll]
          simp only [pollout, if_true]
          exact .inr ⟨before, pkt, rest, polled, rfl, nodes, ⟨near, isDue⟩, passed⟩
        · rw [if_neg isDue]
          exact next (fun overdue => isDue overdue.2) revents

/--
The scan of this iteration comes to the packet and sends it: the packet is replaced by what
is sent, and nothing else is changed or sent.
-/
def SendsAgain (pkt : Pkt) (input : SenderInput) (here : Sender) : Prop :=
  ∃ revents middle polled front back, scansAt crc32 input here = some (revents, middle) ∧
    middle.bufStructure.nodes = front ++ pkt :: back ∧
    middle.Overdue input.scan front.length pkt ∧
    untilRead crc32 input here = .ok (.running (polled,
      middle.afterResend crc32 front pkt back (input.scan front.length).stamp))

/-- The `ACK` which this iteration reads removes the packet, with all those before it. -/
def RemovesAcked (pkt : Pkt) (input : SenderInput) (here next : Sender) : Prop :=
  ∃ revents last pktAck front back,
    untilRead crc32 input here = .ok (.running (revents, last)) ∧ revents.pollin = true ∧
    pktDecode crc32 true (last.afterRead input).bufAck.val pktNew = .ok pktAck ∧
    pktAck.type = ptypeAck ∧ last.bufStructure.nodes = front ++ pkt :: back ∧
    next.bufStructure.nodes = remaining (pktAck.seqNum - 1) last.bufStructure.nodes ∧
    next.bufStructure.nodes <:+ back

/-- In some iteration of the run the packet, which is still in the buffer, leaves it. -/
def HasLeft (pkt : Pkt) (inputs : List SenderInput) (origin : Sender) : Prop :=
  ∃ before input rest here next, inputs = before ++ input :: rest ∧
    Loop.run (readWriteLoop crc32) before origin = .ok (.running here) ∧
    pkt ∈ here.bufStructure.nodes ∧ readWriteLoop crc32 input here = .ok (.running next) ∧
    (SendsAgain crc32 pkt input here ∨ RemovesAcked crc32 pkt input here next)

variable {crc32}

theorem Sending.mem_nodes {input : SenderInput} {before after : Sender} {pkt : Pkt}
    (sending : Sending crc32 input before after) (present : pkt ∈ before.bufStructure.nodes) :
    pkt ∈ after.bufStructure.nodes := by
  cases sending with
  | nothing => exact present
  | ended => exact List.mem_append_left _ present
  | data => exact List.mem_append_left _ present
  | failed => exact present

/-- A packet which is not sent again stays in the buffer until the answer is read. -/
theorem mem_or_sendsAgain {input : SenderInput} {here last : Sender} {revents : Revents}
    {pkt : Pkt} (sound : here.Sound) (present : pkt ∈ here.bufStructure.nodes)
    (untils : untilRead crc32 input here = .ok (.running (revents, last))) :
    pkt ∈ last.bufStructure.nodes ∨ SendsAgain crc32 pkt input here := by
  rcases untilRead_scans crc32 sound input with ⟨middle, sends, scans⟩
  have sending := sending_of_sends sound sends
  have still := sending.mem_nodes present
  rcases scans with ⟨_, flow, stays, same, _⟩ | ⟨flags, comes, scans⟩
  · rw [untils] at stays
    cases stays
    change last = middle at same
    rw [same]
    exact .inl still
  · have result := untils
    rw [scans, resend_eq crc32 (sending.sound sound)] at result
    rcases outcome : middle.scanned input.scan flags with ⟨ending, polled⟩
    rw [outcome] at result
    cases ending with
    | nothing =>
        cases result
        exact .inl still
    | pollError => cases result
    | again index =>
        rcases scanned_again outcome with ⟨front, other, back, nodes, rfl, near, isDue, _⟩
        rw [afterScan, resendAt_append crc32 _ nodes] at result
        cases result
        rw [nodes] at still
        rcases List.mem_append.mp still with earlier | behind
        · exact .inl (List.mem_append_left _ earlier)
        · rcases List.mem_cons.mp behind with rfl | later
          · exact .inr ⟨flags, middle, revents, front, back, comes, nodes, ⟨near, isDue⟩, untils⟩
          · exact .inl (List.mem_append_right _ (List.mem_cons_of_mem _ later))

theorem mem_or_split {kept nodes : List Pkt} {pkt : Pkt} (suffix : kept <:+ nodes)
    (present : pkt ∈ nodes) : pkt ∈ kept ∨ ∃ front back, nodes = front ++ pkt :: back ∧
      kept <:+ back := by
  rcases suffix with ⟨dropped, rfl⟩
  rcases List.mem_append.mp present with gone | still
  · rcases List.append_of_mem gone with ⟨front, back, rfl⟩
    exact .inr ⟨front, back ++ kept, by simp, List.suffix_append _ _⟩
  · exact .inl still

/-- A marked packet stays in the buffer until it is sent again or removed. -/
theorem mem_or_leaves {input : SenderInput} {here next : Sender} {pkt : Pkt}
    (sound : here.Sound) (present : pkt ∈ here.bufStructure.nodes) (marked : pkt.timestamp = 0)
    (moved : readWriteLoop crc32 input here = .ok (.running next)) :
    pkt ∈ next.bufStructure.nodes ∨ SendsAgain crc32 pkt input here ∨
      RemovesAcked crc32 pkt input here next := by
  rcases running_cases moved with ⟨revents, last, untils, answered⟩
  rcases mem_or_sendsAgain sound present untils with still | again
  · rcases answered with ⟨_, rfl⟩ | ⟨pollin, ⟨_, _, rfl⟩ | ⟨pktAck, decodes, handles⟩⟩
    · exact .inl still
    · exact .inl still
    · rcases passes_of_untilRead sound untils with ⟨middle, passes⟩
      have soundLast : last.Sound := passes.resending.sound ((passes.sending sound).sound sound)
      have answering := handleAnswer_answering (sound_afterRead soundLast input).consistent
        input.rttTime pktAck
      rw [handles] at answering
      cases answering with
      | acknowledges notLast isAck after acknowledging =>
          cases acknowledging with
          | unknown => exact .inl still
          | outside => exact .inl still
          | deletes =>
              rcases mem_or_split (remaining_suffix (pktAck.seqNum - 1) _) still with
                inside | ⟨front, back, nodes, behind⟩
              · exact .inl inside
              · exact .inr (.inr ⟨revents, last, pktAck, front, back, untils, pollin, decodes,
                  isAck, nodes, rfl, behind⟩)
      | marks => exact .inl (mem_markNodes_of_marked still marked)
      | ignores => exact .inl still
  · exact .inr (.inl again)

theorem HasLeft.append {pkt : Pkt} {inputs : List SenderInput} {origin : Sender}
    (left : HasLeft crc32 pkt inputs origin) (input : SenderInput) :
    HasLeft crc32 pkt (inputs ++ [input]) origin := by
  rcases left with ⟨before, other, rest, here, next, rfl, reached, present, moved, leaves⟩
  exact ⟨before, other, rest ++ [input], here, next, by simp, reached, present, moved, leaves⟩

/-- A mark survives a run, unless there is an iteration in which its packet leaves the buffer. -/
theorem mem_or_hasLeft {origin : Sender} (sound : origin.Sound) {pkt : Pkt}
    (present : pkt ∈ origin.bufStructure.nodes) (marked : pkt.timestamp = 0)
    {inputs : List SenderInput} {final : Sender}
    (reached : Loop.run (readWriteLoop crc32) inputs origin = .ok (.running final)) :
    pkt ∈ final.bufStructure.nodes ∨ HasLeft crc32 pkt inputs origin := by
  have along : Loop.run (readWriteLoop crc32) inputs origin = .ok (.running final) ∧
      final.Sound ∧ (pkt ∈ final.bufStructure.nodes ∨ HasLeft crc32 pkt inputs origin) := by
    apply @Loop.run_induction _ _ _ _ (readWriteLoop crc32) origin (fun inputs state =>
      Loop.run (readWriteLoop crc32) inputs origin = .ok (.running state) ∧ state.Sound ∧
        (pkt ∈ state.bufStructure.nodes ∨ HasLeft crc32 pkt inputs origin)) _ _ _ _ reached
    · exact ⟨rfl, sound, .inl present⟩
    · rintro before input state next ⟨here, sound, still⟩ moved
      have further : Loop.run (readWriteLoop crc32) (before ++ [input]) origin =
          .ok (.running next) := by
        rw [Loop.run_append_of_running here]
        simp only [Loop.run, moved]
      refine ⟨further, sound_of_moved sound moved, ?_⟩
      rcases still with inside | left
      · rcases mem_or_leaves sound inside marked moved with inside' | leaves
        · exact .inl inside'
        · exact .inr ⟨before, input, [], state, next, rfl, here, inside, moved, leaves⟩
      · exact .inr (left.append input)
  exact along.2.2

variable (crc32)

/-- The scan of a writable socket sends the first packet again which is overdue. -/
theorem resend_first {sender : Sender} (buffered : sender.Buffered) {scan : ℕ → ScanInput}
    (writable : sender.StaysWritable scan) (revents : Revents) :
    ∃ polled after, resend crc32 scan revents sender = .ok (.running (polled, after)) ∧
      Picks crc32 scan sender after := by
  rw [resend_eq crc32 buffered.sound]
  cases isHead : sender.bufStructure.nodes.head? with
  | none =>
      have empty := List.head?_eq_none_iff.mp isHead
      refine ⟨revents, sender, by rw [scanned_of_empty empty, afterScan], .nothing ?_⟩
      intro index pkt found
      rw [empty] at found
      cases found
  | some head =>
      rw [scanned_of_head isHead]
      rcases @scanFrom_first scan sender buffered writable head isHead []
          sender.bufStructure.nodes revents rfl (by simp) with
        ⟨polled, outcome, none⟩ | ⟨front, pkt, back, polled, outcome, place, overdue, earlier⟩
      · rw [List.length_nil] at outcome
        exact ⟨polled, sender, by rw [outcome, afterScan], .nothing none⟩
      · rw [List.length_nil] at outcome
        refine ⟨polled, _, by rw [outcome, afterScan], ?_⟩
        rw [resendAt_append crc32 _ place]
        exact .first front pkt back place overdue earlier

/-- What a scan of the buffer does. -/
structure ScansOnce (scan : ℕ → ScanInput) (revents : Revents) (sender : Sender)
    (flow : LoopFlow (Revents × Sender) SenderExit) : Prop where
  /-- The loop ends after at most as many passes as there are packets. -/
  passes : ∀ head ∈ sender.bufStructure.nodes.head?, ∀ fuel,
    sender.bufStructure.nodes.length ≤ fuel →
      resendLoop crc32 scan head.seqNum fuel 0 [] sender.bufStructure.nodes revents sender =
        .ok flow
  /-- It reads the clock and polls the socket for each packet at most once. -/
  reads : ∀ other : ℕ → ScanInput,
    (∀ index < sender.bufStructure.nodes.length, other index = scan index) →
      resend crc32 other revents sender = .ok flow
  atMostOne : flow.state.2 = sender ∨ ∃ front pkt back,
    sender.bufStructure.nodes = front ++ pkt :: back ∧
    sender.Overdue scan front.length pkt ∧
    flow.state.2 = sender.afterResend crc32 front pkt back (scan front.length).stamp
  first : sender.StaysWritable scan → ∃ polled after, flow = .running (polled, after) ∧
    Picks crc32 scan sender after

/--
From a state with contiguous numbers, the scan succeeds with one pass over the buffer, and
sends at most one packet again. If the socket stays writable, this is the first one which is
overdue, and none if there is none. Marks are lost only with the transmission or the removal
of their packets.
-/
theorem resend_picks {sender : Sender} (buffered : sender.Buffered) (scan : ℕ → ScanInput)
    (revents : Revents) :
    (∃ flow, resend crc32 scan revents sender = .ok flow ∧
      ScansOnce crc32 scan revents sender flow) ∧
    ∀ inputs final, Loop.run (readWriteLoop crc32) inputs sender = .ok (.running final) →
      ∀ pkt ∈ sender.bufStructure.nodes, pkt.timestamp = 0 →
        pkt ∈ final.bufStructure.nodes ∨ HasLeft crc32 pkt inputs sender := by
  have resends := resend_eq crc32 buffered.sound scan revents
  refine ⟨⟨_, resends, ?_, ?_, ?_, ?_⟩, ?_⟩
  · intro head isHead fuel enough
    rw [scanned_of_head isHead]
    exact @resendLoop_eq crc32 scan head.seqNum fuel [] sender.bufStructure.nodes revents sender
      buffered.sound.consistent.eq_ofNodes buffered.sound.sendable enough
  · intro other same
    rw [resend_eq crc32 buffered.sound, scanned_congr same]
    rcases outcome : sender.scanned scan revents with ⟨result, polled⟩
    cases result with
    | nothing => rfl
    | pollError => rfl
    | again index =>
        rcases scanned_again outcome with ⟨front, pkt, back, nodes, rfl, _⟩
        rw [afterScan, afterScan, same front.length (by simp [nodes])]
  · rcases outcome : sender.scanned scan revents with ⟨result, polled⟩
    cases result with
    | nothing => exact .inl rfl
    | pollError => exact .inl rfl
    | again index =>
        rcases scanned_again outcome with ⟨front, pkt, back, nodes, rfl, near, isDue, _⟩
        exact .inr ⟨front, pkt, back, nodes, ⟨near, isDue⟩, resendAt_append crc32 _ nodes⟩
  · intro writable
    rcases resend_first crc32 buffered writable revents with ⟨polled, after, resent, picks⟩
    rw [resends] at resent
    exact ⟨polled, after, Except.ok.inj resent, picks⟩
  · intro inputs final reached pkt present marked
    exact mem_or_hasLeft buffered.sound present marked reached

/-- Two packets are buffered, the second of which has been marked. -/
def markedExample : Sender :=
  { start 0 (.zeros ackSize) with
    sizeBuffer := 2
    seqNum := 2
    bufStructure := .ofNodes [endPkt 0 1540000000, endPkt 1 0] }

def markedScanExample (_ : ℕ) : ScanInput :=
  ⟨1540000001, .ready ⟨false, true⟩, 1540000001, .zeros _⟩

/-- An iteration which comes to the scan, since the window is full. -/
def markedInputExample : SenderInput :=
  { sendExample .failed with scan := markedScanExample }

theorem buffered_markedExample : markedExample.Buffered where
  sound := by
    refine ⟨rfl, ?_⟩
    intro pkt present
    simp only [markedExample, Queue.nodes_ofNodes, List.mem_cons, List.not_mem_nil,
      or_false] at present
    rcases present with rfl | rfl
    · exact sendable_endPkt _ _
    · exact sendable_endPkt _ _
  few := by decide
  numbered := by
    intro head isHead index pkt found
    cases isHead
    rcases index with _ | _ | index
    · cases found
      decide
    · cases found
      decide
    · cases found

theorem overdue_markedExample : markedExample.Overdue markedScanExample 1 (endPkt 1 0) := by
  refine ⟨?_, rfl⟩
  intro head isHead
  cases isHead
  decide

/-- The marked packet is sent again, and has left the buffer behind this iteration. -/
theorem resend_picks_example :
    resend Crc.zlib markedScanExample ⟨false, true⟩ markedExample =
      .ok (.running (⟨false, true⟩, markedExample.afterResend Crc.zlib [endPkt 0 1540000000]
        (endPkt 1 0) [] 1540000001)) ∧
    HasLeft Crc.zlib (endPkt 1 0) [markedInputExample] markedExample := by
  have picks := resend_picks Crc.zlib buffered_markedExample markedScanExample ⟨false, true⟩
  have resent : resend Crc.zlib markedScanExample ⟨false, true⟩ markedExample =
      .ok (.running (⟨false, true⟩, markedExample.afterResend Crc.zlib [endPkt 0 1540000000]
        (endPkt 1 0) [] 1540000001)) := by
    rcases picks.1 with ⟨flow, resends, once⟩
    rcases once.first (fun index _ => ⟨_, rfl, rfl⟩) with ⟨polled, after, rfl, first⟩
    have flags : (⟨false, true⟩ : Revents) = polled := by
      have scans : markedExample.scanned markedScanExample ⟨false, true⟩ =
          (.again 1, ⟨false, true⟩) := rfl
      rw [resend_eq Crc.zlib buffered_markedExample.sound, scans, afterScan] at resends
      exact (Prod.ext_iff.mp (LoopFlow.running.inj (Except.ok.inj resends))).1
    refine resends.trans ?_
    cases first with
    | nothing none => exact absurd overdue_markedExample (none 1 (endPkt 1 0) rfl)
    | first front pkt back nodes overdue earlier =>
        rcases front with _ | ⟨first, _ | ⟨second, others⟩⟩
        · -- The first packet is not older than the timer.
          rcases List.cons.inj nodes with ⟨rfl, rfl⟩
          exact absurd overdue.2 (by decide)
        · rcases List.cons.inj nodes with ⟨rfl, behind⟩
          rcases List.cons.inj behind with ⟨rfl, rfl⟩
          rw [flags]
          rfl
        · rcases List.cons.inj nodes with ⟨rfl, behind⟩
          rcases List.cons.inj behind with ⟨rfl, behind⟩
          simp at behind
  refine ⟨resent, ?_⟩
  have moved : readWriteLoop Crc.zlib markedInputExample markedExample =
      .ok (.running (markedExample.afterResend Crc.zlib [endPkt 0 1540000000] (endPkt 1 0) []
        1540000001)) := by
    change resendAndReadAck Crc.zlib markedInputExample ⟨false, true⟩ markedExample = _
    rw [resendAndReadAck, show markedInputExample.scan = markedScanExample from rfl, resent]
    rfl
  have reached : Loop.run (readWriteLoop Crc.zlib) [markedInputExample] markedExample =
      .ok (.running (markedExample.afterResend Crc.zlib [endPkt 0 1540000000] (endPkt 1 0) []
        1540000001)) := by
    rw [Loop.run, moved]
    rfl
  apply (picks.2 _ _ reached (endPkt 1 0) (by simp [markedExample]) rfl).resolve_left
  intro still
  simp only [afterResend, Queue.nodes_ofNodes, List.cons_append, List.nil_append, List.mem_cons,
    List.not_mem_nil, or_false] at still
  rcases still with same | same
  · exact absurd (congrArg Pkt.seqNum same) (by decide)
  · exact absurd (congrArg Pkt.timestamp same) (by decide)

end ReliableTransfer.Sender
