import Tftp.Files.MemoryFile
import Tftp.Files.FileSystem

/-!
# A file on the disk

`StreamFile` is the data handler of the applications: a `std::fstream` on a file. The stream
(`Tftp.FileStream`) buffers what is written until it is flushed or closed; a call that fails sets
its fail state, and then nothing is written any more. `StreamFile` does not ask for that state
but when it has opened the stream.

What a flush that fails leaves in the file is up to the standard library and the operating system.
It is assumed here that all that was buffered is lost, and that the file stays as it was: a stream
that writes a part of its buffer before it fails, or tries the rest again when it is closed, is not
covered (`Tftp.FileStream.emptyBuffer`).

As a source it hands out the file block by block (`Tftp.StreamFile.sendData_block`). As a sink it
holds what it was given, if none of the calls fails that bring it to the file
(`Tftp.StreamFile.contents_stored_iff`).
-/

namespace Tftp

open Protocol

/-- A `std::fstream`, and the file that it is about. -/
structure FileStream where
  isOpen : Bool := false
  /-- Whether the fail state is set. -/
  failed : Bool := false
  /-- Where the next read starts. -/
  position : ℕ := 0
  /-- What has been written, and not yet got to the file. -/
  buffered : RawData := []
  /-- What is in the file. -/
  contents : RawData := []
  /-- Which of the coming writes, flushes and closes fail; the ones that are not told do not. -/
  failures : List Bool := []
  deriving DecidableEq

namespace FileStream

/-- The next call that may fail has been made. -/
def next (stream : FileStream) : FileStream := { stream with failures := stream.failures.tail }

/-- Whether the next call that may fail does. -/
def fails (stream : FileStream) : Bool := stream.failures.headD false

/-- Opens the file to be read. -/
def openIn (stream : FileStream) : FileStream :=
  if stream.isOpen then { stream with failed := true }
  else { stream with isOpen := true, failed := false, position := 0, buffered := [] }

/-- Opens the file to be written, and empties it. -/
def openOut (stream : FileStream) : FileStream :=
  if stream.isOpen then { stream with failed := true }
  else
    { stream with isOpen := true, failed := false, position := 0, buffered := [], contents := [] }

/-- `write`. -/
def write (stream : FileStream) (data : RawData) : FileStream :=
  if stream.failed ∨ !stream.isOpen then { stream with failed := true }
  else if stream.fails then { stream.next with failed := true }
  else { stream.next with buffered := stream.buffered ++ data }

/-- `read`: what has been read, which is less than asked for at the end of the file, and then
the fail state is set. -/
def read (stream : FileStream) (maxSize : ℕ) : RawData × FileStream :=
  if stream.failed ∨ !stream.isOpen then ([], { stream with failed := true })
  else
    let data := (stream.contents.drop stream.position).take maxSize
    (data, { stream with
      position := stream.position + data.length
      failed := decide (data.length < maxSize) })

/-- What is buffered gets to the file, unless that fails. That it is lost then is an assumption: the
standard does not say what becomes of it. -/
def emptyBuffer (stream : FileStream) : FileStream :=
  if stream.fails then { stream.next with failed := true, buffered := [] }
  else { stream.next with contents := stream.contents ++ stream.buffered, buffered := [] }

/-- `flush`. -/
def flush (stream : FileStream) : FileStream :=
  if stream.failed ∨ !stream.isOpen then stream else stream.emptyBuffer

/-- `close`. -/
def close (stream : FileStream) : FileStream :=
  if !stream.isOpen then { stream with failed := true }
  else { stream.emptyBuffer with isOpen := false }

theorem read_eq {stream : FileStream} (hopen : stream.isOpen = true) (hgood : stream.failed = false)
    (maxSize : ℕ) : stream.read maxSize =
      ((stream.contents.drop stream.position).take maxSize,
        { stream with
          position := stream.position + min maxSize (stream.contents.length - stream.position)
          failed := decide (stream.contents.length - stream.position < maxSize) }) := by
  rw [read, if_neg (by simp [hopen, hgood])]
  simp

theorem openOut_eq {stream : FileStream} (hclosed : stream.isOpen = false) :
    stream.openOut =
      { isOpen := true, failures := stream.failures } := by
  simp [openOut, hclosed]

/-- A stream that has failed takes no more. -/
theorem write_failed {stream : FileStream} (h : stream.failed = true) (data : RawData) :
    stream.write data = stream := by
  obtain ⟨isOpen, failed, position, buffered, contents, failures⟩ := stream
  obtain rfl : failed = true := h
  rfl

theorem foldl_write_failed {stream : FileStream} (h : stream.failed = true)
    (blocks : List RawData) : blocks.foldl write stream = stream := by
  induction blocks with
  | nil => rfl
  | cons data blocks ih => rw [List.foldl_cons, write_failed h, ih]

/-- What is buffered gets to the file, or gets lost. -/
theorem contents_emptyBuffer (stream : FileStream) :
    stream.emptyBuffer.contents = stream.contents ∨
      stream.emptyBuffer.contents = stream.contents ++ stream.buffered := by
  rw [emptyBuffer]
  split_ifs
  · exact Or.inl rfl
  · exact Or.inr rfl

theorem contents_close {stream : FileStream} (hopen : stream.isOpen = true) :
    stream.close.contents = stream.emptyBuffer.contents := by
  simp [close, hopen]

/-- A stream that has failed is not flushed, but closed: nothing gets to the file but what was
buffered. -/
theorem length_close_failed (stream : FileStream) (hopen : stream.isOpen = true)
    (hfailed : stream.failed = true) (hcontents : stream.contents = []) :
    stream.flush.close.contents.length ≤ stream.buffered.length := by
  rw [flush, if_pos (Or.inl hfailed), contents_close hopen]
  rcases contents_emptyBuffer stream with heq | heq
  · simp [heq, hcontents]
  · simp [heq, hcontents]

theorem write_eq {stream : FileStream} (hopen : stream.isOpen = true)
    (hgood : stream.failed = false) (data : RawData) :
    stream.write data =
      if stream.fails then { stream with failed := true, failures := stream.failures.tail }
      else
        { stream with
          buffered := stream.buffered ++ data
          failures := stream.failures.tail } := by
  simp [write, hopen, hgood, next]

/-- **A stream that has not failed is flushed**, and nothing is left to be done by `close`. -/
theorem contents_close_good {stream : FileStream} (hopen : stream.isOpen = true)
    (hgood : stream.failed = false) :
    stream.flush.close.contents =
      if stream.fails then stream.contents else stream.contents ++ stream.buffered := by
  have hflush : stream.flush = stream.emptyBuffer := by simp [flush, hopen, hgood]
  have hempty : stream.emptyBuffer.isOpen = true ∧ stream.emptyBuffer.buffered = [] := by
    rw [emptyBuffer]
    split_ifs <;> exact ⟨hopen, rfl⟩
  rw [hflush, contents_close hempty.1]
  have hrest : stream.emptyBuffer.emptyBuffer.contents = stream.emptyBuffer.contents := by
    rcases contents_emptyBuffer stream.emptyBuffer with heq | heq
    · exact heq
    · rw [heq, hempty.2, List.append_nil]
  rw [hrest, emptyBuffer]
  split_ifs <;> rfl

/-- The first of the calls to come does not fail. -/
theorem forall_take_failures {stream : FileStream} (h : stream.fails = false) (n : ℕ) :
    (∀ failing ∈ stream.failures.take (n + 1), failing = false) ↔
      ∀ failing ∈ stream.failures.tail.take n, failing = false := by
  rw [fails] at h
  cases hfailures : stream.failures with
  | nil => simp
  | cons failing failures =>
    rw [hfailures, List.headD_cons] at h
    simp [h]

/-- The first of the calls to come fails. -/
theorem not_forall_take_failures {stream : FileStream} (h : stream.fails = true) (n : ℕ) :
    ¬ ∀ failing ∈ stream.failures.take (n + 1), failing = false := by
  rw [fails] at h
  cases hfailures : stream.failures with
  | nil => simp [hfailures] at h
  | cons failing failures =>
    rw [hfailures, List.headD_cons] at h
    simp [h]

/-- **What was written is in the file at the end** exactly if none of the writes has failed, nor
the flush – or if there was nothing to be written at all. -/
theorem contents_close_iff {blocks : List RawData} (hblocks : ∀ data ∈ blocks, data ≠ []) :
    ∀ stream : FileStream,
      stream.isOpen = true → stream.failed = false → stream.contents = [] →
      ((blocks.foldl write stream).flush.close.contents = stream.buffered ++ blocks.flatten ↔
        stream.buffered ++ blocks.flatten = [] ∨
          ∀ failing ∈ stream.failures.take (blocks.length + 1), failing = false) := by
  induction blocks with
  | nil =>
    intro stream hopen hgood hcontents
    rw [List.foldl_nil, contents_close_good hopen hgood, hcontents, List.flatten_nil,
      List.append_nil, List.nil_append, List.length_nil]
    cases hfails : stream.fails with
    | true => rw [if_pos rfl, or_iff_left (not_forall_take_failures hfails 0), eq_comm]
    | false =>
      refine iff_of_true (if_neg (by simp)) (Or.inr ?_)
      exact (forall_take_failures hfails 0).mpr (by simp)
  | cons data blocks ih =>
    intro stream hopen hgood hcontents
    have hdata : data ≠ [] := hblocks data List.mem_cons_self
    have hne : stream.buffered ++ (data :: blocks).flatten ≠ [] := by simp [hdata]
    rw [List.foldl_cons, write_eq hopen hgood, List.length_cons]
    cases hfails : stream.fails with
    | true =>
      -- the block is lost, and so is all that comes after it
      refine iff_of_false (fun heq => ?_)
        (not_or_intro hne (not_forall_take_failures hfails _))
      rw [if_pos rfl, foldl_write_failed rfl] at heq
      have hlength := congrArg List.length heq ▸ length_close_failed
        { stream with failed := true, failures := stream.failures.tail } hopen rfl hcontents
      have hpos := List.length_pos_iff.mpr hdata
      simp only [List.length_append, List.flatten_cons] at hlength
      omega
    | false =>
      rw [if_neg (by simp), forall_take_failures hfails]
      have hrest := ih (fun d hd => hblocks d (List.mem_cons_of_mem _ hd))
        { stream with
          buffered := stream.buffered ++ data
          failures := stream.failures.tail } hopen hgood hcontents
      simpa only [List.flatten_cons, List.append_assoc] using hrest

/-- What has been written is buffered up to the first failure, and then no more. -/
theorem buffered_foldl_write (blocks : List RawData) : ∀ stream : FileStream,
    stream.isOpen = true → (blocks.foldl write stream).isOpen = true ∧
      (blocks.foldl write stream).contents = stream.contents ∧
      (blocks.foldl write stream).buffered <+: stream.buffered ++ blocks.flatten := by
  induction blocks with
  | nil => exact fun stream hopen => ⟨hopen, rfl, by simp⟩
  | cons data blocks ih =>
    intro stream hopen
    rw [List.foldl_cons, List.flatten_cons]
    cases hfailed : stream.failed with
    | true =>
      rw [write_failed hfailed, foldl_write_failed hfailed]
      exact ⟨hopen, rfl, List.prefix_append _ _⟩
    | false =>
      rw [write_eq hopen hfailed]
      split_ifs
      · rw [foldl_write_failed rfl]
        exact ⟨hopen, rfl, List.prefix_append _ _⟩
      · have hrest := ih
          { stream with
            buffered := stream.buffered ++ data
            failures := stream.failures.tail } hopen
        simpa only [List.append_assoc] using hrest

/-- **What gets to the file in the end** is what was there before, or that and all that is
buffered. -/
theorem contents_flush_close {stream : FileStream} (hopen : stream.isOpen = true) :
    stream.flush.close.contents = stream.contents ∨
      stream.flush.close.contents = stream.contents ++ stream.buffered := by
  cases hfailed : stream.failed with
  | true =>
    rw [flush, if_pos (Or.inl hfailed), contents_close hopen]
    exact contents_emptyBuffer stream
  | false =>
    rw [contents_close_good hopen hfailed]
    split_ifs
    · exact Or.inl rfl
    · exact Or.inr rfl

theorem read_failed {stream : FileStream} (h : stream.failed = true) (maxSize : ℕ) :
    stream.read maxSize = ([], stream) := by
  obtain ⟨isOpen, failed, position, buffered, contents, failures⟩ := stream
  obtain rfl : failed = true := h
  rfl

end FileStream

/-- A file on the disk. -/
structure StreamFile where
  operationV : FileOperation
  filenameV : Path
  streamV : FileStream := {}
  sizeV : Option UInt64 := none
  deriving DecidableEq

namespace StreamFile

/-- `start`: opens the stream. -/
def start (file : StreamFile) : StreamFile :=
  match file.operationV with
  | .receive => { file with streamV := file.streamV.openOut }
  | .transmit => { file with streamV := file.streamV.openIn }

/-- `finished`: flushes and closes the stream. -/
def finished (file : StreamFile) : StreamFile := { file with streamV := file.streamV.flush.close }

/-- `receivedTransferSize`: accepts what is not larger than the size, if there is one. -/
def receivedTransferSize (file : StreamFile) (transferSize : UInt64) : Bool :=
  match file.sizeV with
  | none => true
  | some size => transferSize ≤ size

/-- `receivedData`: writes the data. -/
def receivedData (file : StreamFile) (data : RawData) : StreamFile :=
  if !data.isEmpty then { file with streamV := file.streamV.write data } else file

/-- `requestedTransferSize`. -/
def requestedTransferSize (file : StreamFile) : Option UInt64 := file.sizeV

/-- `sendData`: reads the next data, of at most the given size. -/
def sendData (file : StreamFile) (maxSize : ℕ) : RawData × StreamFile :=
  let (data, stream) := file.streamV.read maxSize
  (data, { file with streamV := stream })

instance : DataHandler StreamFile where
  start := start
  finished := finished

instance : TransmitDataHandler StreamFile where
  requestedTransferSize file := (file.requestedTransferSize, file)
  sendData := sendData

instance : ReceiveDataHandler StreamFile where
  receivedTransferSize file transferSize := (file.receivedTransferSize transferSize, file)
  receivedData := receivedData

variable {file : StreamFile} {data : RawData} {s k : ℕ}

/-- Where a source stands after `k` blocks of size `s`. -/
structure After (file : StreamFile) (data : RawData) (s k : ℕ) : Prop where
  isOpen : file.streamV.isOpen = true
  contents : file.streamV.contents = data
  position : file.streamV.position = min (k * s) data.length
  /-- The end of the file has been met by a block that was not full. -/
  failed : file.streamV.failed = true ↔ data.length < k * s

theorem start_after (hoperation : file.operationV = .transmit)
    (hclosed : file.streamV.isOpen = false) : file.start.After file.streamV.contents s 0 := by
  constructor <;> simp [start, hoperation, FileStream.openIn, hclosed]

/-- **The `k`-th block asked for is the `k`-th block of the file**, as long as the same size is
asked for. -/
theorem sendData_block (h : file.After data s k) :
    (file.sendData s).1 = block data s k ∧ (file.sendData s).2.After data s (k + 1) := by
  obtain ⟨hopen, hcontents, hposition, hfailed⟩ := h
  have hsucc : (k + 1) * s = k * s + s := Nat.succ_mul k s
  rcases hstate : file.streamV.failed with _ | _
  · -- the end has not been met yet
    have hle : k * s ≤ data.length := by
      by_contra hlt
      rw [hfailed.mpr (by omega)] at hstate
      cases hstate
    rw [Nat.min_eq_left hle] at hposition
    rw [sendData, FileStream.read_eq hopen hstate, hcontents, hposition]
    refine ⟨rfl, hopen, rfl, ?_, ?_⟩
    · change k * s + min s (data.length - k * s) = _
      omega
    · refine decide_eq_true_iff.trans ?_
      omega
  · have hlt := hfailed.mp hstate
    rw [sendData, FileStream.read_failed hstate]
    refine ⟨?_, hopen, hcontents, ?_, ?_⟩
    · rw [block, List.drop_eq_nil_of_le (by omega), List.take_nil]
    · change file.streamV.position = _
      omega
    · refine iff_of_true hstate ?_
      omega

/-! ### A file that is received -/

/-- The data that is written to the stream: what is not empty. -/
def written (blocks : List RawData) : List RawData := blocks.filter fun data => !data.isEmpty

theorem flatten_written (blocks : List RawData) : (written blocks).flatten = blocks.flatten := by
  induction blocks with
  | nil => rfl
  | cons data blocks ih =>
    cases data with
    | nil => simpa [written] using ih
    | cons byte data => simpa [written] using ih

theorem foldl_receivedData (blocks : List RawData) : ∀ file : StreamFile,
    blocks.foldl receivedData file =
      { file with streamV := (written blocks).foldl FileStream.write file.streamV } := by
  induction blocks with
  | nil => exact fun _ => rfl
  | cons data blocks ih =>
    intro file
    rw [List.foldl_cons, ih]
    cases data <;> rfl

/-- A file that has received the given blocks, from `start` to `finished`. -/
def stored (file : StreamFile) (blocks : List RawData) : StreamFile :=
  (blocks.foldl receivedData file.start).finished

/-- **None of the calls fails that bring the blocks to the file**: there is one write for each
that is not empty, and the flush. Where there is nothing to be written, it does not matter. -/
def Spared (file : StreamFile) (blocks : List RawData) : Prop :=
  blocks.flatten = [] ∨
    ∀ failing ∈ file.streamV.failures.take ((written blocks).length + 1), failing = false

instance (file : StreamFile) (blocks : List RawData) : Decidable (file.Spared blocks) :=
  inferInstanceAs (Decidable (_ ∨ _))

/-- **When a file holds what it has received**: exactly if it was spared. -/
theorem contents_stored_iff (hoperation : file.operationV = .receive)
    (hclosed : file.streamV.isOpen = false) (blocks : List RawData) :
    (file.stored blocks).streamV.contents = blocks.flatten ↔ file.Spared blocks := by
  have hne : ∀ data ∈ written blocks, data ≠ [] := fun data hdata =>
    List.isEmpty_eq_false_iff.mp (by simpa using (List.mem_filter.mp hdata).2)
  have hiff := FileStream.contents_close_iff hne
    { isOpen := true, failures := file.streamV.failures } rfl rfl rfl
  rw [flatten_written, List.nil_append] at hiff
  rw [stored, foldl_receivedData, start, hoperation, Spared]
  simpa only [finished, FileStream.openOut_eq hclosed] using hiff

end StreamFile

end Tftp
