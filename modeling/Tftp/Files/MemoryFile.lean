import Tftp.DataHandlers
import Tftp.Protocol.Chunks

/-!
# A file in memory

`MemoryFile` is a data handler for either direction. As a source it hands out its data
block by block, and block `k` is `Protocol.block` of its data
(`Tftp.MemoryFile.sendData_block`); as a sink it appends what it gets.
-/

namespace Tftp

open Protocol

/-- Whether a file is written or read. -/
inductive FileOperation where
  | receive
  | transmit
  deriving DecidableEq, Repr

/-- A file in memory. -/
structure MemoryFile where
  operationV : FileOperation
  dataV : RawData
  /-- Where the next block starts. -/
  dataPtr : ℕ
  dataPtr_le : dataPtr ≤ dataV.length
  deriving DecidableEq

namespace MemoryFile

/-- A file that holds data to be read. -/
def ofData (data : RawData) : MemoryFile := ⟨.transmit, data, 0, Nat.zero_le _⟩

/-- An empty file to be written. -/
def empty : MemoryFile := ⟨.receive, [], 0, le_refl _⟩

/-- `start`: clears a file to be written, and goes to the beginning. -/
def start (file : MemoryFile) : MemoryFile :=
  match file.operationV with
  | .receive => ⟨.receive, [], 0, le_refl _⟩
  | .transmit => ⟨.transmit, file.dataV, 0, Nat.zero_le _⟩

/-- `finished`: goes to the beginning. -/
def finished (file : MemoryFile) : MemoryFile :=
  { file with dataPtr := 0, dataPtr_le := Nat.zero_le _ }

/-- `receivedData`: appends the data. -/
def receivedData (file : MemoryFile) (data : RawData) : MemoryFile :=
  if data.isEmpty then file
  else ⟨file.operationV, file.dataV ++ data, 0, Nat.zero_le _⟩

/-- `sendData`: the next data, of at most the given size. -/
def sendData (file : MemoryFile) (maxSize : ℕ) : RawData × MemoryFile :=
  let endPtr :=
    if file.dataV.length - file.dataPtr ≤ maxSize then file.dataV.length
    else file.dataPtr + maxSize
  have hend : endPtr ≤ file.dataV.length := by
    have := file.dataPtr_le
    simp only [endPtr]
    split_ifs <;> omega
  ((file.dataV.take endPtr).drop file.dataPtr, { file with dataPtr := endPtr, dataPtr_le := hend })

instance : DataHandler MemoryFile where
  start := start
  finished := finished

instance : TransmitDataHandler MemoryFile where
  requestedTransferSize file := (some (UInt64.ofNat file.dataV.length), file)
  sendData := sendData

instance : ReceiveDataHandler MemoryFile where
  receivedTransferSize file _ := (true, file)
  receivedData := receivedData

variable {data : RawData} {s k : ℕ} {file : MemoryFile}

/-- Where a source stands after `k` blocks of size `s`. -/
def After (file : MemoryFile) (data : RawData) (s k : ℕ) : Prop :=
  file.dataV = data ∧ file.dataPtr = min (k * s) data.length

theorem start_after (h : file.operationV = .transmit) : file.start.After file.dataV s 0 := by
  simp [start, h, After]

/-- **The `k`-th block asked for is the `k`-th block of the data**, as long as the same
size is asked for. -/
theorem sendData_block (h : file.After data s k) :
    (file.sendData s).1 = block data s k ∧ (file.sendData s).2.After data s (k + 1) := by
  obtain ⟨rfl, hp⟩ := h
  have hend : (if file.dataV.length - file.dataPtr ≤ s then file.dataV.length
      else file.dataPtr + s) = min ((k + 1) * s) file.dataV.length := by
    rw [hp, Nat.succ_mul]
    split_ifs <;> omega
  refine ⟨?_, rfl, hend⟩
  simp only [sendData, hp, block]
  rcases Nat.le_total file.dataV.length (k * s) with hle | hle
  · rw [Nat.min_eq_right hle, List.drop_eq_nil_of_le hle, List.take_nil]
    exact List.drop_eq_nil_of_le (by simp)
  · rw [Nat.min_eq_left hle, List.drop_take]
    split_ifs with hrest
    · rw [List.take_of_length_le (by simp), List.take_of_length_le (by simpa using hrest)]
    · rw [Nat.add_sub_cancel_left]

/-- No block is larger than what is asked for. -/
theorem length_sendData_le : (file.sendData s).1.length ≤ s := by
  simp only [sendData, List.length_drop, List.length_take]
  split_ifs <;> omega

/-- What is handed out is what comes next. -/
theorem sendData_fst (maxSize : ℕ) :
    (file.sendData maxSize).1 = (file.dataV.drop file.dataPtr).take maxSize := by
  have hle := file.dataPtr_le
  simp only [sendData]
  split_ifs with hrest
  · rw [List.take_of_length_le (le_refl _), List.take_of_length_le (by simpa using hrest)]
  · rw [List.drop_take, Nat.add_sub_cancel_left]

theorem sendData_dataPtr (maxSize : ℕ) : (file.sendData maxSize).2.dataPtr =
    file.dataPtr + min maxSize (file.dataV.length - file.dataPtr) := by
  have hle := file.dataPtr_le
  simp only [sendData]
  split_ifs <;> omega

end MemoryFile

end Tftp
