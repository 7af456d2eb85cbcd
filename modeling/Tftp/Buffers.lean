import Tftp.Frame
import Tftp.Protocol.Run
import Tftp.Clients.ReadOperation
import Tftp.Servers.WriteOperation
import Tftp.Files.MemoryFile

/-!
# The receive buffer

Both sides that receive a file get a buffer for full blocks when they are configured, and never
another one: no handler changes it, whatever fails. The size of a block, on the other hand, is
negotiated later. Since it never exceeds what the buffer was made for, the buffer is large enough
in every state of every run, unless its size has rolled over in 16 bits, and then it is too small
in every state (`Tftp.receiveBuffer_fits_iff`).
-/

namespace Tftp

open Protocol Tftp.OperationImpl

/-- The largest block to be expected with the given configuration. -/
def largestBlock (configuration : TftpOptionsConfiguration) : ℕ :=
  max defaultDataSize.toNat (configuration.blockSizeOption.getD defaultDataSize).toNat

/-- **What an operation has been provided with**: a buffer for the largest block, as far as its
size fits into 16 bits, and blocks that are not larger. -/
structure Provided (configuration current : TftpOptionsConfiguration) (buffer : ℕ)
    (dataSize : UInt16) : Prop where
  configuration_eq : current = configuration
  buffer_eq : buffer =
    (defaultTftpDataPacketHeaderSize.toNat + largestBlock configuration) % 2 ^ 16
  dataSize_le : dataSize.toNat ≤ largestBlock configuration

section Provided

variable {configuration current : TftpOptionsConfiguration} {buffer : ℕ} {dataSize : UInt16}

theorem defaultDataSize_le : defaultDataSize.toNat ≤ largestBlock configuration := le_max_left _ _

theorem le_largestBlock {b : UInt16} (h : configuration.blockSizeOption = some b) :
    b.toNat ≤ largestBlock configuration := by
  rw [largestBlock, h]
  exact le_max_right _ _

/-- **The buffer fits unless its size has rolled over.** -/
theorem Provided.fits_iff (h : Provided configuration current buffer dataSize) :
    defaultTftpDataPacketHeaderSize.toNat + dataSize.toNat ≤ buffer ↔
      ∀ b, configuration.blockSizeOption = some b → b.toNat ≤ 65531 := by
  have hsize := h.dataSize_le
  have hdefault : defaultDataSize.toNat = 512 := rfl
  have hheader : defaultTftpDataPacketHeaderSize.toNat = 4 := rfl
  rw [h.buffer_eq, hheader]
  cases hb : configuration.blockSizeOption with
  | none =>
    have hlargest : largestBlock configuration = 512 := by rw [largestBlock, hb]; rfl
    rw [hlargest] at hsize ⊢
    exact iff_of_true (by omega) (by rintro _ ⟨⟩)
  | some b =>
    have hlt := b.toNat_lt
    have hlargest : largestBlock configuration = max 512 b.toNat := by rw [largestBlock, hb]; rfl
    rw [hlargest] at hsize ⊢
    constructor
    · rintro hfits b' ⟨⟩
      by_contra hgt
      omega
    · intro hle
      have hle' := hle b rfl
      omega

end Provided

namespace Clients.ReadOperationImpl

variable {δ : Type} [ReceiveDataHandler δ] {configuration : TftpOptionsConfiguration}
  {s : ReadOperationImpl δ}

/-- What the client of a read has been provided with. -/
def HasBuffer (configuration : TftpOptionsConfiguration) (s : ReadOperationImpl δ) : Prop :=
  Provided configuration s.optionsConfigurationV s.receivePacketV s.receiveDataSize

omit [ReceiveDataHandler δ] in
theorem HasBuffer.update (h : s.HasBuffer configuration) {g : OperationImpl δ → OperationImpl δ}
    (hg : (g s.toOperationImpl).receivePacketV = s.receivePacketV) :
    (s.update g).HasBuffer configuration :=
  ⟨h.configuration_eq, hg.trans h.buffer_eq, h.dataSize_le⟩

omit [ReceiveDataHandler δ] in
theorem HasBuffer.negotiateNone (h : s.HasBuffer configuration) (blockNumber : BlockNumber) :
    (s.negotiateNone blockNumber).2.HasBuffer configuration := by
  rw [ReadOperationImpl.negotiateNone]
  split_ifs
  · exact h.update (g := fun b => (b.optionNegotiation s.optionNegotiationHandlerV
      SortedMap.empty).2) (receivePacketV_optionNegotiation _ _ _)
  · exact h

theorem HasBuffer.dataPacket (h : s.HasBuffer configuration) (f : Faults)
    (blockNumber : BlockNumber) (data : RawData) :
    (s.dataPacket f blockNumber data).HasBuffer configuration := by
  have hnone := h.negotiateNone blockNumber
  rw [ReadOperationImpl.dataPacket]
  dsimp only
  split_ifs
  · exact (h.update (framed_send _ _).buffer).update (framed_afterData _ _ _).buffer
  · exact h.update (framed_reject _ _ _ _).buffer
  · exact h.update (framed_reject _ _ _ _).buffer
  · exact hnone.update (framed_reject _ _ _ _).buffer
  · -- the counter is no matter of the buffer
    have hcounted : HasBuffer configuration { (s.negotiateNone blockNumber).2.update
        (·.receivedData data) with lastReceivedBlockNumber :=
          (s.negotiateNone blockNumber).2.lastReceivedBlockNumber.next } :=
      hnone.update (g := (·.receivedData data)) rfl
    exact (hcounted.update (framed_send _ _).buffer).update (framed_afterData _ _ _).buffer

theorem HasBuffer.negotiated (h : s.HasBuffer configuration) (f : Faults)
    (transferSizeValue : Option UInt64) (remoteOptions : Options) :
    (s.negotiated f transferSizeValue remoteOptions).HasBuffer configuration := by
  have hoffered := h.update (g := fun b => (b.offerTransferSize transferSizeValue).2)
    (framed_offerTransferSize _ _).buffer
  have hnegotiated := hoffered.update (g := fun b => (b.optionNegotiation
    s.optionNegotiationHandlerV remoteOptions).2) (receivePacketV_optionNegotiation _ _ _)
  rw [ReadOperationImpl.negotiated]
  dsimp only
  split_ifs
  · exact hoffered.update (framed_reject _ _ _ _).buffer
  · exact hnegotiated.update (framed_reject _ _ _ _).buffer
  · exact hnegotiated.update (framed_reject _ _ _ _).buffer
  · have haccepted : HasBuffer configuration { (s.update
        fun b => (b.offerTransferSize transferSizeValue).2).update fun b =>
          (b.optionNegotiation s.optionNegotiationHandlerV remoteOptions).2 with
        oackReceived := true } := hnegotiated
    exact (haccepted.update (framed_send _ _).buffer).update (framed_arm _ _ _ _).buffer

theorem HasBuffer.optionsAcknowledgementPacket (h : s.HasBuffer configuration) (f : Faults)
    (remoteOptions : Options) :
    (s.optionsAcknowledgementPacket f remoteOptions).HasBuffer configuration := by
  rw [ReadOperationImpl.optionsAcknowledgementPacket]
  split_ifs
  · exact h.update (framed_reject _ _ _ _).buffer
  · exact h.update (framed_reject _ _ _ _).buffer
  · cases hblock : negotiateBlockSize s.optionsConfigurationV remoteOptions with
    | error rejection => exact h.update (framed_reject _ _ _ _).buffer
    | ok result =>
      obtain ⟨blockSizeValue, remaining⟩ := result
      have hsize : HasBuffer configuration { s with
          receiveDataSize := blockSizeValue.getD s.receiveDataSize } := by
        refine ⟨h.configuration_eq, h.buffer_eq, ?_⟩
        cases blockSizeValue with
        | none => exact h.dataSize_le
        | some b =>
          obtain ⟨configured, hconfigured, hle⟩ := le_of_negotiateBlockSize hblock
          rw [h.configuration_eq] at hconfigured
          exact hle.trans (le_largestBlock hconfigured)
      dsimp only
      split
      · exact hsize.update (framed_reject _ _ _ _).buffer
      · have htimeout : ∀ timeout : ℤ, HasBuffer configuration { s with
            receiveDataSize := blockSizeValue.getD s.receiveDataSize
            receiveTimeoutV := timeout } := fun _ =>
          ⟨hsize.configuration_eq, hsize.buffer_eq, hsize.dataSize_le⟩
        split
        · exact (htimeout _).update (framed_reject _ _ _ _).buffer
        · exact (htimeout _).negotiated f _ _

theorem HasBuffer.received (h : s.HasBuffer configuration) (f : Faults) (r : Received) :
    (s.received f r).HasBuffer configuration := by
  cases r with
  | invalid => exact h.update (framed_reject _ _ _ _).buffer
  | packet packet =>
    cases packet with
    | data blockNumber data => exact h.dataPacket f blockNumber data
    | optionsAcknowledgement options => exact h.optionsAcknowledgementPacket f options
    | error errorCode errorMessage =>
      exact h.update (OperationImpl.framed_errorPacket _ errorCode errorMessage).buffer
    | readRequest | writeRequest | acknowledgement =>
      exact h.update (framed_reject _ _ _ _).buffer

theorem leadsTo_hasBuffer (configuration : TftpOptionsConfiguration) :
    Operation.LeadsTo (HasBuffer (δ := δ) configuration) (HasBuffer configuration)
      fun _ => True where
  withBase _ _ h hb := ⟨h.configuration_eq, hb.buffer.trans h.buffer_eq, h.dataSize_le⟩
  rest _ h := h
  received _ f r h _ := h.received f r
  gracefulAbort _ _ _ _ h :=
    h.update (OperationImpl.framed_gracefulAbort _ _ _ _).buffer

/-- No event changes the buffer. -/
theorem HasBuffer.step (h : s.HasBuffer configuration) (e : Faults × Event) :
    (Operation.step s e).HasBuffer configuration :=
  (leadsTo_hasBuffer configuration).step ⟨h.configuration_eq, h.buffer_eq, h.dataSize_le⟩
    fun _ _ _ _ _ => trivial

theorem hasBuffer_request (settings : Settings δ) (f : Faults) :
    ((configured settings).request f).HasBuffer settings.optionsConfiguration := by
  have hconfigured : (configured settings).HasBuffer settings.optionsConfiguration :=
    ⟨rfl, rfl, defaultDataSize_le⟩
  have hinitialised := hconfigured.update (g := (OperationImpl.initialise · f))
    (OperationImpl.framed_initialise _ f).buffer
  rw [request]
  dsimp only
  split
  · exact hinitialised.update (OperationImpl.framed_catchException _ _).buffer
  · have hstarted := hinitialised.update (g := (·.startDataHandler))
      (framed_startDataHandler _).buffer
    have hreset : HasBuffer settings.optionsConfiguration { ((configured settings).update
        (OperationImpl.initialise · f)).update (·.startDataHandler) with
          receiveDataSize := defaultDataSize, lastReceivedBlockNumber := 0 } :=
      ⟨hstarted.configuration_eq, hstarted.buffer_eq, defaultDataSize_le⟩
    exact (hreset.update (framed_sendFirst _ _).buffer).update (framed_arm _ _ _ _).buffer

end Clients.ReadOperationImpl

namespace Servers.WriteOperationImpl

variable {δ : Type} [ReceiveDataHandler δ] {configuration : TftpOptionsConfiguration}
  {s : WriteOperationImpl δ}

/-- What the server of a write has been provided with. -/
def HasBuffer (configuration : TftpOptionsConfiguration) (s : WriteOperationImpl δ) : Prop :=
  Provided configuration s.optionsConfigurationV s.receivePacketV s.receiveDataSize

omit [ReceiveDataHandler δ] in
theorem HasBuffer.update (h : s.HasBuffer configuration) {g : OperationImpl δ → OperationImpl δ}
    (hg : (g s.toOperationImpl).receivePacketV = s.receivePacketV) :
    (s.update g).HasBuffer configuration :=
  ⟨h.configuration_eq, hg.trans h.buffer_eq, h.dataSize_le⟩

theorem HasBuffer.dataPacket (h : s.HasBuffer configuration) (f : Faults)
    (blockNumber : BlockNumber) (data : RawData) :
    (s.dataPacket f blockNumber data).HasBuffer configuration := by
  rw [WriteOperationImpl.dataPacket]
  dsimp only
  split_ifs
  · exact (h.update (framed_send _ _).buffer).update (framed_afterData _ _ _).buffer
  · exact h.update (framed_reject _ _ _ _).buffer
  · exact h.update (framed_reject _ _ _ _).buffer
  · have hcounted : HasBuffer configuration { s.update (·.receivedData data) with
        lastReceivedBlockNumber := s.lastReceivedBlockNumber.next } :=
      h.update (g := (·.receivedData data)) rfl
    exact (hcounted.update (framed_send _ _).buffer).update (framed_afterData _ _ _).buffer

theorem HasBuffer.received (h : s.HasBuffer configuration) (f : Faults) (r : Received) :
    (s.received f r).HasBuffer configuration := by
  cases r with
  | invalid => exact h.update (framed_reject _ _ _ _).buffer
  | packet packet =>
    cases packet with
    | data blockNumber data => exact h.dataPacket f blockNumber data
    | error errorCode errorMessage =>
      exact h.update (OperationImpl.framed_errorPacket _ errorCode errorMessage).buffer
    | readRequest | writeRequest | acknowledgement | optionsAcknowledgement =>
      exact h.update (framed_reject _ _ _ _).buffer

theorem leadsTo_hasBuffer (configuration : TftpOptionsConfiguration) :
    Operation.LeadsTo (HasBuffer (δ := δ) configuration) (HasBuffer configuration)
      fun _ => True where
  withBase _ _ h hb := ⟨h.configuration_eq, hb.buffer.trans h.buffer_eq, h.dataSize_le⟩
  rest _ h := h
  received _ f r h _ := h.received f r
  gracefulAbort _ _ _ _ h :=
    h.update ((framed_send _ _).trans (framed_finished _ _ _)).buffer

/-- No event changes the buffer. -/
theorem HasBuffer.step (h : s.HasBuffer configuration) (e : Faults × Event) :
    (Operation.step s e).HasBuffer configuration :=
  (leadsTo_hasBuffer configuration).step ⟨h.configuration_eq, h.buffer_eq, h.dataSize_le⟩
    fun _ _ _ _ _ => trivial

/-- The block size is the smaller of two. -/
theorem HasBuffer.negotiate (h : s.HasBuffer configuration) (f : Faults) :
    (s.negotiate f).HasBuffer configuration := by
  have hsize : ∀ timeout : ℤ, HasBuffer configuration { s with
      receiveDataSize := (negotiatedBlockSize s.optionsConfigurationV s.clientOptionsV).getD
        s.receiveDataSize
      receiveTimeoutV := timeout } := by
    refine fun timeout => ⟨h.configuration_eq, h.buffer_eq, ?_⟩
    cases hb : negotiatedBlockSize s.optionsConfigurationV s.clientOptionsV with
    | none => exact h.dataSize_le
    | some b =>
      obtain ⟨configured, requested, hconfigured, -, hmin⟩ := negotiatedBlockSize_eq_some hb
      rw [h.configuration_eq] at hconfigured
      have hle := le_largestBlock hconfigured
      show b.toNat ≤ _
      omega
  rw [WriteOperationImpl.negotiate]
  dsimp only
  split
  · rename_i transferSize _ _
    split
    · exact (hsize _).update (OperationImpl.framed_catchException _ _).buffer
    · have htold := (hsize ((negotiatedTimeout s.optionsConfigurationV s.clientOptionsV).map
        (fun t : UInt8 => (t.toNat : ℤ)) |>.getD s.receiveTimeoutV)).update
          (g := fun b => (b.receivedTransferSize transferSize).2)
            (framed_receivedTransferSize _ transferSize).buffer
      split_ifs
      · exact htold.update (framed_reject _ _ _ _).buffer
      · exact (htold.update (framed_send _ _).buffer).update (framed_arm _ _ _ _).buffer
  · exact ((hsize _).update (framed_send _ _).buffer).update (framed_arm _ _ _ _).buffer

theorem hasBuffer_start (settings : Settings δ) (f : Faults) :
    ((configured settings).start f).HasBuffer settings.optionsConfiguration := by
  have hconfigured : (configured settings).HasBuffer settings.optionsConfiguration :=
    ⟨rfl, rfl, defaultDataSize_le⟩
  have hinitialised := hconfigured.update (g := (OperationImpl.initialise · f))
    (OperationImpl.framed_initialise _ f).buffer
  rw [start]
  dsimp only
  split
  · exact hinitialised.update (OperationImpl.framed_catchException _ _).buffer
  · have hstarted := hinitialised.update (g := (·.startDataHandler))
      (framed_startDataHandler _).buffer
    split_ifs
    · exact (hstarted.update (framed_send _ _).buffer).update (framed_arm _ _ _ _).buffer
    · exact hstarted.negotiate f

end Servers.WriteOperationImpl

/-- **When the receive buffer fits**: in every state of a transfer, whatever happens in it, if no
block size is configured for which the size of the buffer rolls over. -/
theorem receiveBuffer_fits_iff (δ : Type) [ReceiveDataHandler δ] :
    (∀ (settings : Clients.Settings δ) (f : Faults)
      (history : List (Transition (Clients.ReadOperationImpl δ) (Faults × Event)))
      (s : Clients.ReadOperationImpl δ),
      Run Operation.step ((Clients.ReadOperationImpl.configured settings).request f) history s →
        (defaultTftpDataPacketHeaderSize.toNat + s.receiveDataSize.toNat ≤ s.receivePacketV ↔
          ∀ b, settings.optionsConfiguration.blockSizeOption = some b → b.toNat ≤ 65531)) ∧
    ∀ (settings : Servers.Settings δ) (f : Faults)
      (history : List (Transition (Servers.WriteOperationImpl δ) (Faults × Event)))
      (s : Servers.WriteOperationImpl δ),
      Run Operation.step ((Servers.WriteOperationImpl.configured settings).start f) history s →
        (defaultTftpDataPacketHeaderSize.toNat + s.receiveDataSize.toNat ≤ s.receivePacketV ↔
          ∀ b, settings.optionsConfiguration.blockSizeOption = some b → b.toNat ≤ 65531) := by
  constructor
  · intro settings f history s hrun
    have hbuffer := hrun.invariant (Clients.ReadOperationImpl.hasBuffer_request settings f)
      fun _ e h => h.step e
    exact hbuffer.fits_iff
  · intro settings f history s hrun
    have hbuffer := hrun.invariant (Servers.WriteOperationImpl.hasBuffer_start settings f)
      fun _ e h => h.step e
    exact hbuffer.fits_iff

/-- A read with the given block size, as it starts. -/
def startedRead (blockSize : UInt16) : Clients.ReadOperationImpl MemoryFile :=
  (Clients.ReadOperationImpl.configured
    { dataHandler := .empty
      optionsConfiguration := { blockSizeOption := some blockSize } }).request {}

/-- The server has acknowledged the largest block size of the option. -/
def negotiatedRead :
    List (Transition (Clients.ReadOperationImpl MemoryFile) (Faults × Event)) ×
      Clients.ReadOperationImpl MemoryFile :=
  replay Operation.step (startedRead 65464)
    [({}, .datagram { port := 5 } ([0, 6] ++ ascii "blksize" ++ [0] ++ ascii "65464" ++ [0]))]

/-- There is room for such a block. -/
theorem receiveBuffer_fits_65464 :
    defaultTftpDataPacketHeaderSize.toNat + negotiatedRead.2.receiveDataSize.toNat ≤
      negotiatedRead.2.receivePacketV ∧ negotiatedRead.2.receiveDataSize = 65464 := by
  refine ⟨((receiveBuffer_fits_iff MemoryFile).1 _ {} _ _ (Run.of_replay _ _ _)).mpr ?_,
    by decide⟩
  rintro b ⟨⟩
  decide

/-- **The buffer is too small**: there is no room for a block, and not even for a header. -/
theorem receiveBuffer_too_small : (startedRead 65535).receivePacketV = 3 ∧
    ¬ defaultTftpDataPacketHeaderSize.toNat + (startedRead 65535).receiveDataSize.toNat ≤
      (startedRead 65535).receivePacketV := by
  have hbuffer : (startedRead 65535).receivePacketV = 3 := rfl
  have hheader : defaultTftpDataPacketHeaderSize.toNat = 4 := rfl
  rw [hbuffer, hheader]
  exact ⟨rfl, by omega⟩

end Tftp
