import ReliableTransfer.Packet.Basic

/-!
# The host system

What the two programs see of the operating system: the results of `poll` and of
`read`, buffers of a fixed size, and the clock. These are inputs of the loops;
nothing is assumed about them.
-/

namespace ReliableTransfer

/-- A buffer of a fixed number of bytes. -/
abbrev Buffer (size : ℕ) := { bytes : List Byte // bytes.length = size }

/-- What a call of `read` for a number of bytes does: it fails, or it yields at most so many. -/
inductive ReadResult (capacity : ℕ) where
  | failed
  | bytes (data : List Byte) (fits : data.length ≤ capacity)
  deriving DecidableEq

/-- The value which `read` returns. -/
def ReadResult.count {capacity : ℕ} : ReadResult capacity → ℤ
  | .failed => -1
  | .bytes data _ => data.length

/-- The bytes which have been read. -/
def ReadResult.data {capacity : ℕ} : ReadResult capacity → List Byte
  | .failed => []
  | .bytes data _ => data

namespace Buffer

variable {size : ℕ}

/-- The buffer after a `read` into it. Only the bytes which have been read are overwritten. -/
def readInto (buffer : Buffer size) : ReadResult size → Buffer size
  | .failed => buffer
  | .bytes data fits => ⟨data ++ buffer.val.drop data.length, by simp [buffer.property]; omega⟩

theorem readInto_of_count_le {buffer : Buffer size} {result : ReadResult size}
    (nothing : result.count ≤ 0) : buffer.readInto result = buffer := by
  cases result with
  | failed => rfl
  | bytes data fits =>
      have empty : data = [] := by simpa [ReadResult.count] using nothing
      subst empty
      rfl

theorem val_readInto_of_length_eq {buffer : Buffer size} {data : List Byte}
    {fits : data.length ≤ size} (full : data.length = size) :
    (buffer.readInto (.bytes data fits)).val = data := by
  simp [readInto, full, buffer.property]

/-- A buffer of zeros. -/
def zeros (size : ℕ) : Buffer size := ⟨List.replicate size 0, List.length_replicate⟩

end Buffer

/-- The two flags which the loops look at in `pfds[0].revents`. -/
structure Revents where
  pollin : Bool
  pollout : Bool
  deriving DecidableEq, Repr

/-- What a call of `poll` does. -/
inductive PollResult where
  | failed
  | ready (revents : Revents)
  deriving DecidableEq, Repr

/-- The flags after a call of `poll`, which leaves them alone when it fails. -/
def Revents.after (revents : Revents) : PollResult → Revents
  | .failed => revents
  | .ready fresh => fresh

/-- `difftime > 10`, where `int difftime = tpNow->tv_sec - tpGlobal->tv_sec`. -/
def timedOut (tpNow tpGlobal : Time) : Bool :=
  (10 : BitVec 32).slt ((tpNow - tpGlobal).setWidth 32)

theorem not_timedOut_self (time : Time) : ¬timedOut time time = true := by
  rw [timedOut, BitVec.sub_self]
  decide

end ReliableTransfer
