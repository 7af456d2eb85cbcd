import Tftp.Exchange
import Tftp.Transfer

/-!
# The operations with other data handlers

Each of the four operations does the same with another data handler that answers alike
(`Tftp.Operation.Exchangeable`), from its start on.

For each operation there is a relation between two states, which are the same but for the data
handlers, and those are related (`Exchanged`); one lemma for each of its functions, which says that
the relation is kept; and one for its start. A function that asks the data handler gets the same
answer from both and goes the same way; one that does not ask it goes the same way anyway. The
option negotiation handler of a client may look at the data handler, so it is exchanged together
with it, and has to decide alike (`Tftp.NegotiateAlike`).

A whole transfer is the same then, but for the data handlers of the two sides
(`Tftp.Transfer.Exchanged.step`): what is under way and what has been done are equal, and so is all
that is said of a transfer in terms of these (`Tftp.Transfer.Exchanged.intact_iff`).
-/

namespace Tftp

open Protocol OperationImpl

namespace Servers.OperationImpl
open Tftp.OperationImpl

variable {δ δ' : Type} [DataHandler δ] [DataHandler δ'] {R : HandlerRelation δ δ'}
  {b : OperationImpl δ} {handler : δ'}

/-- The data handlers are started. -/
theorem exchanged_initialise (h : b.Idle)
    (hR : R.inUse (DataHandler.start b.dataHandlerV) (DataHandler.start handler)) :
    Exchanged R (initialise b {}).startDataHandler
        (initialise (b.withHandler handler) {}).startDataHandler ∧
      (initialise b {}).startDataHandler.InUse := by
  rw [initialise_eq h, initialise_eq (s := b.withHandler handler) ⟨h.1, h.2, h.3⟩]
  exact ⟨⟨_, rfl, R.inUse_holds hR _⟩, h.alive, by rintro ⟨⟩⟩

end Servers.OperationImpl

namespace Clients.OperationImpl
open Tftp.OperationImpl

variable {δ δ' : Type} [DataHandler δ] [DataHandler δ'] {R : HandlerRelation δ δ'}
  {b : OperationImpl δ} {handler : δ'}

/-- The data handlers are started. -/
theorem exchanged_initialise (h : b.Idle)
    (hR : R.inUse (DataHandler.start b.dataHandlerV) (DataHandler.start handler)) :
    Exchanged R (initialise b {}).startDataHandler
        (initialise (b.withHandler handler) {}).startDataHandler ∧
      (initialise b {}).startDataHandler.InUse := by
  rw [initialise_eq h, initialise_eq (s := b.withHandler handler) ⟨h.1, h.2, h.3⟩]
  exact ⟨⟨_, rfl, R.inUse_holds hR _⟩, h.alive, by rintro ⟨⟩⟩

end Clients.OperationImpl

namespace Clients.ReadOperationImpl

variable {δ δ' : Type} [ReceiveDataHandler δ] [ReceiveDataHandler δ'] {R : HandlerRelation δ δ'}
  {s : ReadOperationImpl δ} {s' : ReadOperationImpl δ'}
  {f : Faults}

/-- **The same operation but for the data handler**, and for what the option negotiation handler
does with it. -/
def Exchanged (R : HandlerRelation δ δ') (s : ReadOperationImpl δ) (s' : ReadOperationImpl δ') :
    Prop :=
  ∃ b' g', s.toOperationImpl.Exchanged R b' ∧ NegotiateAlike R s.optionNegotiationHandlerV g' ∧
    s' = { s with toOperationImpl := b', optionNegotiationHandlerV := g' }

theorem Exchanged.update (h : Exchanged R s s') {g : OperationImpl δ → OperationImpl δ}
    {g' : OperationImpl δ' → OperationImpl δ'}
    (hg : ∀ {b b'}, OperationImpl.Exchanged R b b' → OperationImpl.Exchanged R (g b) (g' b')) :
    Exchanged R (s.update g) (s'.update g') := by
  obtain ⟨b', g', hb, hgs, rfl⟩ := h
  exact ⟨_, g', hg hb, hgs, rfl⟩

theorem Exchanged.refuse (h : Exchanged R s s') (rejection : Rejection) :
    Exchanged R (s.refuse f rejection) (s'.refuse f rejection) :=
  h.update fun hb => hb.reject _ _ _

theorem Exchanged.negotiateNone (h : Exchanged R s s') (hinUse : s.InUse)
    (blockNumber : BlockNumber) :
    ∃ accepted t t', s.negotiateNone blockNumber = (accepted, t) ∧
      s'.negotiateNone blockNumber = (accepted, t') ∧ Exchanged R t t' ∧ t.InUse := by
  obtain ⟨b', g', hb, hg, rfl⟩ := h
  rw [ReadOperationImpl.negotiateNone, ReadOperationImpl.negotiateNone]
  by_cases hfirst : blockNumber = 1 ∧ !s.oackReceived
  · rw [if_pos hfirst, if_pos hfirst]
    obtain ⟨⟨accepted, remaining⟩, c, c', hc, hc', hb', hkept⟩ :=
      hb.optionNegotiation hg hinUse SortedMap.empty
    dsimp only
    rw [hc, hc']
    exact ⟨accepted, _, _, rfl, rfl, ⟨c', g', hb', hg, rfl⟩, hkept hinUse⟩
  · rw [if_neg hfirst, if_neg hfirst]
    exact ⟨true, s, _, rfl, rfl, ⟨b', g', hb, hg, rfl⟩, hinUse⟩

theorem Exchanged.dataPacket (hreceive : ReceiveAlike R) (h : Exchanged R s s') (hinUse : s.InUse)
    (blockNumber : BlockNumber) (data : RawData) :
    Exchanged R (s.dataPacket f blockNumber data) (s'.dataPacket f blockNumber data) := by
  obtain ⟨accepted, t, t', ht, ht', hnone, hkept⟩ := h.negotiateNone hinUse blockNumber
  rw [ReadOperationImpl.dataPacket, ReadOperationImpl.dataPacket, ht, ht']
  obtain ⟨b', g', hb, hg, rfl⟩ := h
  by_cases hsame : blockNumber = s.lastReceivedBlockNumber
  · rw [if_pos hsame, if_pos hsame]
    exact ⟨_, g', (hb.send _).afterData _ _, hg, rfl⟩
  by_cases hnext : blockNumber ≠ s.lastReceivedBlockNumber.next
  · rw [if_neg hsame, if_neg hsame, if_pos hnext, if_pos hnext]
    exact ⟨_, g', hb.reject _ _ _, hg, rfl⟩
  by_cases hlarge : s.receiveDataSize.toNat < data.length
  · rw [if_neg hsame, if_neg hsame, if_neg hnext, if_neg hnext, if_pos hlarge, if_pos hlarge]
    exact ⟨_, g', hb.reject _ _ _, hg, rfl⟩
  rw [if_neg hsame, if_neg hsame, if_neg hnext, if_neg hnext, if_neg hlarge, if_neg hlarge]
  obtain ⟨b₁, g₁, hb₁, hg₁, rfl⟩ := hnone
  cases accepted with
  | false => exact ⟨_, g₁, hb₁.reject _ _ _, hg₁, rfl⟩
  | true => exact ⟨_, g₁, ((hb₁.receivedData hreceive hkept data).send _).afterData _ _, hg₁, rfl⟩

theorem Exchanged.negotiated (hreceive : ReceiveAlike R) (h : Exchanged R s s') (hinUse : s.InUse)
    (transferSize : Option UInt64) (options : Options) :
    Exchanged R (s.negotiated f transferSize options) (s'.negotiated f transferSize options) := by
  obtain ⟨b', g', hb, hg, rfl⟩ := h
  obtain ⟨fits, c, c', hc, hc', hoffered, hkept⟩ :=
    hb.offerTransferSize hreceive hinUse.usable transferSize
  obtain ⟨⟨accepted, remaining⟩, d, d', hd, hd', hasked, -⟩ :=
    hoffered.optionNegotiation hg (hkept hinUse) options
  rw [ReadOperationImpl.negotiated, ReadOperationImpl.negotiated, hc, hc']
  dsimp only
  rw [hd, hd']
  cases fits with
  | false => exact ⟨_, g', hoffered.reject _ _ _, hg, rfl⟩
  | true =>
    cases accepted with
    | false => exact ⟨_, g', hasked.reject _ _ _, hg, rfl⟩
    | true =>
      by_cases hrest : (!remaining.isEmpty) = true
      · simp only [Bool.not_true, Bool.false_eq_true, if_false, if_pos hrest]
        exact ⟨_, g', hasked.reject _ _ _, hg, rfl⟩
      · simp only [Bool.not_true, Bool.false_eq_true, if_false, if_neg hrest]
        exact ⟨_, g', (hasked.send _).receive, hg, rfl⟩

theorem Exchanged.withDataSize (h : Exchanged R s s') (dataSize : Option UInt16) :
    Exchanged R { s with receiveDataSize := dataSize.getD s.receiveDataSize }
      { s' with receiveDataSize := dataSize.getD s'.receiveDataSize } := by
  obtain ⟨b', g', hb, hg, rfl⟩ := h
  exact ⟨b', g', hb, hg, rfl⟩

theorem Exchanged.optionsAcknowledgementPacket (hreceive : ReceiveAlike R) (h : Exchanged R s s')
    (hinUse : s.InUse) (options : Options) :
    Exchanged R (s.optionsAcknowledgementPacket f options)
      (s'.optionsAcknowledgementPacket f options) := by
  obtain ⟨b', g', ⟨handler, rfl, hR⟩, hg, rfl⟩ := h
  have h : Exchanged R s
      { s with
        toOperationImpl := s.toOperationImpl.withHandler handler
        optionNegotiationHandlerV := g' } :=
    ⟨_, g', ⟨handler, rfl, hR⟩, hg, rfl⟩
  rw
    [ReadOperationImpl.optionsAcknowledgementPacket, ReadOperationImpl.optionsAcknowledgementPacket]
  by_cases hfirst : s.lastReceivedBlockNumber ≠ 0
  · rw [if_pos hfirst, if_pos hfirst]
    exact h.update fun hb => hb.reject _ _ _
  by_cases hempty : options.isEmpty = true
  · rw [if_neg hfirst, if_neg hfirst, if_pos hempty, if_pos hempty]
    exact h.update fun hb => hb.reject _ _ _
  rw [if_neg hfirst, if_neg hfirst, if_neg hempty, if_neg hempty]
  dsimp only
  cases negotiateBlockSize s.optionsConfigurationV options with
  | error rejection => exact h.refuse rejection
  | ok block =>
    obtain ⟨dataSize, options⟩ := block
    dsimp only
    cases negotiateTimeout s.optionsConfigurationV options with
    | error rejection => exact (h.withDataSize dataSize).refuse rejection
    | ok timeout =>
      obtain ⟨timeout, options⟩ := timeout
      dsimp only
      have ht : Exchanged R
          { s with
            receiveDataSize := dataSize.getD s.receiveDataSize
            receiveTimeoutV := timeout.getD s.receiveTimeoutV }
          { s with
            toOperationImpl := { s.toOperationImpl.withHandler handler with
              receiveTimeoutV := timeout.getD s.receiveTimeoutV }
            optionNegotiationHandlerV := g'
            receiveDataSize := dataSize.getD s.receiveDataSize } :=
        ⟨_, g', ⟨handler, rfl, hR⟩, hg, rfl⟩
      cases negotiateTransferSize s.optionsConfigurationV.handleTransferSizeOption options with
      | error rejection => exact ht.refuse rejection
      | ok size => exact ht.negotiated hreceive hinUse _ _

theorem Exchanged.received (hreceive : ReceiveAlike R) (h : Exchanged R s s') (hinUse : s.InUse)
    (r : Received) :
    Exchanged R (s.received f r) (s'.received f r) := by
  cases r with
  | invalid => exact h.update fun hb => hb.reject _ _ _
  | packet packet =>
    cases packet with
    | readRequest | writeRequest | acknowledgement =>
      exact h.update fun hb => hb.reject _ _ _
    | data blockNumber data => exact h.dataPacket hreceive hinUse blockNumber data
    | error errorCode errorMessage => exact h.update fun hb => hb.clientErrorPacket _ _
    | optionsAcknowledgement options =>
      exact h.optionsAcknowledgementPacket hreceive hinUse options

theorem exchangeable (hreceive : ReceiveAlike R) : Operation.Exchangeable R (Exchanged R) where
  base h := by
    obtain ⟨b', g', hb, hg, rfl⟩ := h
    exact hb
  withBase h hb := by
    obtain ⟨b', g', -, hg, rfl⟩ := h
    exact ⟨_, g', hb, hg, rfl⟩
  received f r h hinUse := h.received hreceive hinUse r
  gracefulAbort f errorCode errorMessage h := h.update fun hb => hb.clientGracefulAbort _ _

/-- **The operation is started**, with data handlers that are alike then. -/
theorem exchanged_request (hidle : s.Idle) {handler : δ'}
    {g' : Option (OptionNegotiationHandler δ')}
    (hR : R.inUse (DataHandler.start s.dataHandlerV) (DataHandler.start handler))
    (hg : NegotiateAlike R s.optionNegotiationHandlerV g') :
    Exchanged R (s.request {})
      (request { s with
        toOperationImpl := s.toOperationImpl.withHandler handler
        optionNegotiationHandlerV := g' } {}) := by
  obtain ⟨hb, -⟩ := Clients.OperationImpl.exchanged_initialise hidle hR
  exact ⟨_, g', (hb.sendFirst _).receiveFirst, hg, rfl⟩

end Clients.ReadOperationImpl

namespace Servers.WriteOperationImpl

variable {δ δ' : Type} [ReceiveDataHandler δ] [ReceiveDataHandler δ'] {R : HandlerRelation δ δ'}
  {s : WriteOperationImpl δ} {s' : WriteOperationImpl δ'}
  {f : Faults}

/-- **The same operation but for the data handler**. -/
def Exchanged (R : HandlerRelation δ δ') (s : WriteOperationImpl δ) (s' : WriteOperationImpl δ') :
    Prop :=
  ∃ b', s.toOperationImpl.Exchanged R b' ∧ s' = { s with toOperationImpl := b' }

theorem Exchanged.update (h : Exchanged R s s') {g : OperationImpl δ → OperationImpl δ}
    {g' : OperationImpl δ' → OperationImpl δ'}
    (hg : ∀ {b b'}, OperationImpl.Exchanged R b b' → OperationImpl.Exchanged R (g b) (g' b')) :
    Exchanged R (s.update g) (s'.update g') := by
  obtain ⟨b', hb, rfl⟩ := h
  exact ⟨_, hg hb, rfl⟩

theorem Exchanged.dataPacket (hreceive : ReceiveAlike R) (h : Exchanged R s s') (hinUse : s.InUse)
    (blockNumber : BlockNumber) (data : RawData) :
    Exchanged R (s.dataPacket f blockNumber data) (s'.dataPacket f blockNumber data) := by
  rw [WriteOperationImpl.dataPacket, WriteOperationImpl.dataPacket]
  obtain ⟨b', hb, rfl⟩ := h
  by_cases hsame : blockNumber = s.lastReceivedBlockNumber
  · rw [if_pos hsame, if_pos hsame]
    exact ⟨_, (hb.send _).afterData _ _, rfl⟩
  by_cases hnext : blockNumber ≠ s.lastReceivedBlockNumber.next
  · rw [if_neg hsame, if_neg hsame, if_pos hnext, if_pos hnext]
    exact ⟨_, hb.reject _ _ _, rfl⟩
  by_cases hlarge : s.receiveDataSize.toNat < data.length
  · rw [if_neg hsame, if_neg hsame, if_neg hnext, if_neg hnext, if_pos hlarge, if_pos hlarge]
    exact ⟨_, hb.reject _ _ _, rfl⟩
  rw [if_neg hsame, if_neg hsame, if_neg hnext, if_neg hnext, if_neg hlarge, if_neg hlarge]
  exact ⟨_, ((hb.receivedData hreceive hinUse data).send _).afterData _ _, rfl⟩

theorem Exchanged.received (hreceive : ReceiveAlike R) (h : Exchanged R s s') (hinUse : s.InUse)
    (r : Received) :
    Exchanged R (s.received f r) (s'.received f r) := by
  cases r with
  | invalid => exact h.update fun hb => hb.reject _ _ _
  | packet packet =>
    cases packet with
    | readRequest | writeRequest | acknowledgement | optionsAcknowledgement =>
      exact h.update fun hb => hb.reject _ _ _
    | data blockNumber data => exact h.dataPacket hreceive hinUse blockNumber data
    | error errorCode errorMessage => exact h.update fun hb => hb.serverErrorPacket _ _

theorem exchangeable (hreceive : ReceiveAlike R) : Operation.Exchangeable R (Exchanged R) where
  base h := by
    obtain ⟨b', hb, rfl⟩ := h
    exact hb
  withBase h hb := by
    obtain ⟨b', -, rfl⟩ := h
    exact ⟨_, hb, rfl⟩
  received f r h hinUse := h.received hreceive hinUse r
  gracefulAbort f errorCode errorMessage h := h.update fun hb => (hb.send _).finished _ _

theorem Exchanged.answer (h : Exchanged R s s') (options : Options) :
    Exchanged R (s.answer {} options) (s'.answer {} options) :=
  (h.update fun hb => hb.send _).update fun hb => hb.receive

theorem Exchanged.negotiate (hreceive : ReceiveAlike R) (h : Exchanged R s s') (hinUse : s.InUse) :
    Exchanged R (s.negotiate {}) (s'.negotiate {}) := by
  obtain ⟨b', hb, rfl⟩ := h
  rw [WriteOperationImpl.negotiate, WriteOperationImpl.negotiate]
  have hagreed := hb.withTimeout ((negotiatedTimeout s.optionsConfigurationV s.clientOptionsV).map
    fun t : UInt8 => (t.toNat : ℤ))
  dsimp only
  split
  · rename_i transferSize _ _
    obtain ⟨accepted, c, c', hc, hc', hcalled, -⟩ :=
      hagreed.receivedTransferSize hreceive hinUse.usable transferSize
    rw [hc, hc']
    cases accepted with
    | false => exact ⟨_, hcalled.reject _ _ _, rfl⟩
    | true =>
      refine Exchanged.answer ?_ _
      exact ⟨c', hcalled, rfl⟩
  · refine Exchanged.answer ?_ _
    exact ⟨_, hagreed, rfl⟩

/-- **The operation is started**, with data handlers that are alike then. -/
theorem exchanged_start (hreceive : ReceiveAlike R) (hidle : s.Idle) {handler : δ'}
    (hR : R.inUse (DataHandler.start s.dataHandlerV) (DataHandler.start handler)) :
    Exchanged R (s.start {})
      (start { s with toOperationImpl := s.toOperationImpl.withHandler handler } {}) := by
  obtain ⟨hb, hinUse⟩ := Servers.OperationImpl.exchanged_initialise hidle hR
  have hopen : Exchanged R
      { s with toOperationImpl := (OperationImpl.initialise s.toOperationImpl {}).startDataHandler }
      { s with
        toOperationImpl := (OperationImpl.initialise
          (s.toOperationImpl.withHandler handler) {}).startDataHandler } :=
    ⟨_, hb, rfl⟩
  rw [WriteOperationImpl.start, WriteOperationImpl.start]
  dsimp only [WriteOperationImpl.update]
  split_ifs
  · exact (hopen.update fun hb => hb.send _).update fun hb => hb.receive
  · exact hopen.negotiate hreceive hinUse

end Servers.WriteOperationImpl

namespace Servers.ReadOperationImpl

variable {δ δ' : Type} [TransmitDataHandler δ] [TransmitDataHandler δ'] {R : HandlerRelation δ δ'}
  {s : ReadOperationImpl δ} {s' : ReadOperationImpl δ'}
  {f : Faults}

/-- **The same operation but for the data handler**. -/
def Exchanged (R : HandlerRelation δ δ') (s : ReadOperationImpl δ) (s' : ReadOperationImpl δ') :
    Prop :=
  ∃ b', s.toOperationImpl.Exchanged R b' ∧ s' = { s with toOperationImpl := b' }

theorem Exchanged.update (h : Exchanged R s s') {g : OperationImpl δ → OperationImpl δ}
    {g' : OperationImpl δ' → OperationImpl δ'}
    (hg : ∀ {b b'}, OperationImpl.Exchanged R b b' → OperationImpl.Exchanged R (g b) (g' b')) :
    Exchanged R (s.update g) (s'.update g') := by
  obtain ⟨b', hb, rfl⟩ := h
  exact ⟨_, hg hb, rfl⟩

theorem Exchanged.sendData (htransmit : TransmitAlike R) (h : Exchanged R s s')
    (husable : s.Usable) :
    Exchanged R (s.sendData f) (s'.sendData f) := by
  obtain ⟨b', hb, rfl⟩ := h
  obtain ⟨data, c, c', hc, hc', hcalled, -⟩ := hb.nextData htransmit husable
    s.transmitDataSize.toNat
  rw [ReadOperationImpl.sendData, ReadOperationImpl.sendData]
  dsimp only
  rw [hc, hc']
  exact ⟨_, hcalled.send _, rfl⟩

theorem Exchanged.acknowledgementPacket (htransmit : TransmitAlike R) (h : Exchanged R s s')
    (hinUse : s.InUse) (blockNumber : BlockNumber) :
    Exchanged R (s.acknowledgementPacket f blockNumber) (s'.acknowledgementPacket f blockNumber) :=
      by
  rw [ReadOperationImpl.acknowledgementPacket, ReadOperationImpl.acknowledgementPacket]
  obtain ⟨b', hb, rfl⟩ := h
  by_cases hsame : blockNumber = s.lastReceivedBlockNumber
  · rw [if_pos hsame, if_pos hsame]
    exact ⟨_, hb.receive, rfl⟩
  by_cases hwrong : blockNumber ≠ s.lastTransmittedBlockNumber
  · rw [if_neg hsame, if_neg hsame, if_pos hwrong, if_pos hwrong]
    exact ⟨_, hb.reject _ _ _, rfl⟩
  rw [if_neg hsame, if_neg hsame, if_neg hwrong, if_neg hwrong]
  by_cases hlast : s.lastDataPacketTransmitted = true
  · rw [if_pos hlast, if_pos hlast]
    exact ⟨_, hb.finished _ _, rfl⟩
  rw [if_neg hlast, if_neg hlast]
  have hacknowledged : Exchanged R { s with lastReceivedBlockNumber := blockNumber }
      { s with toOperationImpl := b', lastReceivedBlockNumber := blockNumber } := ⟨b', hb, rfl⟩
  exact (hacknowledged.sendData htransmit hinUse.usable).update fun hb => hb.receive

theorem Exchanged.received (htransmit : TransmitAlike R) (h : Exchanged R s s') (hinUse : s.InUse)
    (r : Received) :
    Exchanged R (s.received f r) (s'.received f r) := by
  cases r with
  | invalid => exact h.update fun hb => hb.reject _ _ _
  | packet packet =>
    cases packet with
    | readRequest | writeRequest | data | optionsAcknowledgement =>
      exact h.update fun hb => hb.reject _ _ _
    | acknowledgement blockNumber => exact h.acknowledgementPacket htransmit hinUse blockNumber
    | error errorCode errorMessage => exact h.update fun hb => hb.serverErrorPacket _ _

theorem exchangeable (htransmit : TransmitAlike R) : Operation.Exchangeable R (Exchanged R) where
  base h := by
    obtain ⟨b', hb, rfl⟩ := h
    exact hb
  withBase h hb := by
    obtain ⟨b', -, rfl⟩ := h
    exact ⟨_, hb, rfl⟩
  received f r h hinUse := h.received htransmit hinUse r
  gracefulAbort f errorCode errorMessage h := h.update fun hb => (hb.send _).finished _ _

theorem Exchanged.answer (htransmit : TransmitAlike R) (h : Exchanged R s s') (husable : s.Usable)
    (options : Options) : Exchanged R (s.answer {} options) (s'.answer {} options) := by
  rw [ReadOperationImpl.answer, ReadOperationImpl.answer]
  split_ifs
  · obtain ⟨b', hb, rfl⟩ := h
    exact ⟨_, (hb.send _).receive, rfl⟩
  · exact (h.sendData htransmit husable).update fun hb => hb.receive

theorem Exchanged.negotiate (htransmit : TransmitAlike R) (h : Exchanged R s s')
    (hinUse : s.InUse) :
    Exchanged R (s.negotiate {}) (s'.negotiate {}) := by
  obtain ⟨b', hb, rfl⟩ := h
  rw [ReadOperationImpl.negotiate, ReadOperationImpl.negotiate]
  have hagreed := hb.withTimeout ((negotiatedTimeout s.optionsConfigurationV s.clientOptionsV).map
    fun t : UInt8 => (t.toNat : ℤ))
  dsimp only
  split
  · split_ifs
    · exact ⟨_, hagreed.reject _ _ _, rfl⟩
    · obtain ⟨size, c, c', hc, hc', hcalled, hkept⟩ :=
        hagreed.requestedTransferSize htransmit hinUse.usable
      rw [hc, hc']
      cases size with
      | none =>
        refine Exchanged.answer htransmit ?_ (hkept hinUse).usable _
        exact ⟨c', hcalled, rfl⟩
      | some size =>
        refine Exchanged.answer htransmit ?_ (hkept hinUse).usable _
        exact ⟨c', hcalled, rfl⟩
  · refine Exchanged.answer htransmit ?_ ?_ _
    · exact ⟨_, hagreed, rfl⟩
    · exact hinUse.usable

/-- **The operation is started**, with data handlers that are alike then. -/
theorem exchanged_start (htransmit : TransmitAlike R) (hidle : s.Idle) {handler : δ'}
    (hR : R.inUse (DataHandler.start s.dataHandlerV) (DataHandler.start handler)) :
    Exchanged R (s.start {})
      (start { s with toOperationImpl := s.toOperationImpl.withHandler handler } {}) := by
  obtain ⟨hb, hinUse⟩ := Servers.OperationImpl.exchanged_initialise hidle hR
  have hopen : Exchanged R
      { s with toOperationImpl := (OperationImpl.initialise s.toOperationImpl {}).startDataHandler }
      { s with
        toOperationImpl := (OperationImpl.initialise
          (s.toOperationImpl.withHandler handler) {}).startDataHandler } :=
    ⟨_, hb, rfl⟩
  rw [ReadOperationImpl.start, ReadOperationImpl.start]
  dsimp only [ReadOperationImpl.update]
  split_ifs
  · exact (hopen.sendData htransmit hinUse.usable).update fun hb => hb.receive
  · exact hopen.negotiate htransmit hinUse

end Servers.ReadOperationImpl

namespace Clients.WriteOperationImpl

variable {δ δ' : Type} [TransmitDataHandler δ] [TransmitDataHandler δ'] {R : HandlerRelation δ δ'}
  {s : WriteOperationImpl δ} {s' : WriteOperationImpl δ'}
  {f : Faults}

/-- **The same operation but for the data handler**, and for what the option negotiation handler
does with it. -/
def Exchanged (R : HandlerRelation δ δ') (s : WriteOperationImpl δ) (s' : WriteOperationImpl δ') :
    Prop :=
  ∃ b' g', s.toOperationImpl.Exchanged R b' ∧ NegotiateAlike R s.optionNegotiationHandlerV g' ∧
    s' = { s with toOperationImpl := b', optionNegotiationHandlerV := g' }

theorem Exchanged.update (h : Exchanged R s s') {g : OperationImpl δ → OperationImpl δ}
    {g' : OperationImpl δ' → OperationImpl δ'}
    (hg : ∀ {b b'}, OperationImpl.Exchanged R b b' → OperationImpl.Exchanged R (g b) (g' b')) :
    Exchanged R (s.update g) (s'.update g') := by
  obtain ⟨b', g', hb, hgs, rfl⟩ := h
  exact ⟨_, g', hg hb, hgs, rfl⟩

theorem Exchanged.refuse (h : Exchanged R s s') (rejection : Rejection) :
    Exchanged R (s.refuse f rejection) (s'.refuse f rejection) :=
  h.update fun hb => hb.reject _ _ _

theorem Exchanged.sendData (htransmit : TransmitAlike R) (h : Exchanged R s s')
    (husable : s.Usable) :
    Exchanged R (s.sendData f) (s'.sendData f) := by
  obtain ⟨b', g', hb, hg, rfl⟩ := h
  obtain ⟨data, c, c', hc, hc', hcalled, -⟩ := hb.nextData htransmit husable
    s.transmitDataSize.toNat
  rw [WriteOperationImpl.sendData, WriteOperationImpl.sendData]
  dsimp only
  rw [hc, hc']
  exact ⟨_, g', hcalled.send _, hg, rfl⟩

theorem Exchanged.negotiateNone (h : Exchanged R s s') (hinUse : s.InUse)
    (blockNumber : BlockNumber) :
    ∃ accepted t t', s.negotiateNone blockNumber = (accepted, t) ∧
      s'.negotiateNone blockNumber = (accepted, t') ∧ Exchanged R t t' ∧ t.InUse := by
  obtain ⟨b', g', hb, hg, rfl⟩ := h
  rw [WriteOperationImpl.negotiateNone, WriteOperationImpl.negotiateNone]
  by_cases hfirst : blockNumber = 0
  · rw [if_pos hfirst, if_pos hfirst]
    obtain ⟨⟨accepted, remaining⟩, c, c', hc, hc', hb', hkept⟩ :=
      hb.optionNegotiation hg hinUse SortedMap.empty
    dsimp only
    rw [hc, hc']
    exact ⟨accepted, _, _, rfl, rfl, ⟨c', g', hb', hg, rfl⟩, hkept hinUse⟩
  · rw [if_neg hfirst, if_neg hfirst]
    exact ⟨true, s, _, rfl, rfl, ⟨b', g', hb, hg, rfl⟩, hinUse⟩

theorem Exchanged.acknowledgementPacket (htransmit : TransmitAlike R) (h : Exchanged R s s')
    (hinUse : s.InUse) (blockNumber : BlockNumber) :
    Exchanged R (s.acknowledgementPacket f blockNumber) (s'.acknowledgementPacket f blockNumber) :=
      by
  rw [WriteOperationImpl.acknowledgementPacket, WriteOperationImpl.acknowledgementPacket]
  obtain ⟨b', g', hb, hg, rfl⟩ := h
  by_cases hsame : blockNumber = s.lastReceivedBlockNumber
  · rw [if_pos hsame, if_pos hsame]
    exact ⟨_, g', hb.receive, hg, rfl⟩
  by_cases hwrong : blockNumber ≠ s.lastTransmittedBlockNumber
  · rw [if_neg hsame, if_neg hsame, if_pos hwrong, if_pos hwrong]
    exact ⟨_, g', hb.reject _ _ _, hg, rfl⟩
  rw [if_neg hsame, if_neg hsame, if_neg hwrong, if_neg hwrong]
  have hacknowledged : Exchanged R { s with lastReceivedBlockNumber := blockNumber }
      { s with
        toOperationImpl := b'
        optionNegotiationHandlerV := g'
        lastReceivedBlockNumber := blockNumber } := ⟨b', g', hb, hg, rfl⟩
  obtain ⟨accepted, t, t', ht, ht', hnone, hkept⟩ := hacknowledged.negotiateNone hinUse blockNumber
  dsimp only
  rw [ht, ht']
  cases accepted with
  | false => exact hnone.update fun hb => hb.reject _ _ _
  | true =>
    have hlast : t'.lastDataPacketTransmitted = t.lastDataPacketTransmitted := by
      obtain ⟨b₁, g₁, -, -, rfl⟩ := hnone
      rfl
    dsimp only
    rw [hlast]
    by_cases hend : t.lastDataPacketTransmitted = true
    · simp only [Bool.not_true, Bool.false_eq_true, if_false, if_pos hend]
      exact hnone.update fun hb => hb.finished _ _
    · simp only [Bool.not_true, Bool.false_eq_true, if_false, if_neg hend]
      exact (hnone.sendData htransmit hkept.usable).update fun hb => hb.receive

theorem Exchanged.negotiated (htransmit : TransmitAlike R) (h : Exchanged R s s')
    (hinUse : s.InUse) (transferSize : Option UInt64) (options : Options) :
    Exchanged R (s.negotiated f transferSize options) (s'.negotiated f transferSize options) := by
  rw [WriteOperationImpl.negotiated, WriteOperationImpl.negotiated]
  have hsame : s'.transferSize = s.transferSize := by
    obtain ⟨b₁, g₁, -, -, rfl⟩ := h
    rfl
  rw [hsame]
  split_ifs with hsize
  · exact h.refuse _
  obtain ⟨b', g', hb, hg, rfl⟩ := h
  obtain ⟨⟨accepted, remaining⟩, c, c', hc, hc', hasked, hkept⟩ :=
    hb.optionNegotiation hg hinUse options
  have hcalled : Exchanged R { s with toOperationImpl := c }
      { s with toOperationImpl := c', optionNegotiationHandlerV := g' } := ⟨c', g', hasked, hg, rfl⟩
  dsimp only
  rw [hc, hc']
  dsimp only
  cases accepted with
  | false => exact hcalled.refuse _
  | true =>
    by_cases hrest : (!remaining.isEmpty) = true
    · simp only [Bool.not_true, Bool.false_eq_true, if_false, if_pos hrest]
      exact hcalled.refuse _
    · simp only [Bool.not_true, Bool.false_eq_true, if_false, if_neg hrest]
      exact (hcalled.sendData htransmit (hkept hinUse).usable).update fun hb => hb.receive

theorem Exchanged.optionsAcknowledgementPacket (htransmit : TransmitAlike R) (h : Exchanged R s s')
    (hinUse : s.InUse) (options : Options) :
    Exchanged R (s.optionsAcknowledgementPacket f options)
      (s'.optionsAcknowledgementPacket f options) := by
  obtain ⟨b', g', ⟨handler, rfl, hR⟩, hg, rfl⟩ := h
  have h : Exchanged R s
      { s with
        toOperationImpl := s.toOperationImpl.withHandler handler
        optionNegotiationHandlerV := g' } :=
    ⟨_, g', ⟨handler, rfl, hR⟩, hg, rfl⟩
  rw [WriteOperationImpl.optionsAcknowledgementPacket,
    WriteOperationImpl.optionsAcknowledgementPacket]
  by_cases hfirst : s.lastReceivedBlockNumber ≠ 0xFFFF
  · rw [if_pos hfirst, if_pos hfirst]
    exact h.update fun hb => hb.reject _ _ _
  by_cases hempty : options.isEmpty = true
  · rw [if_neg hfirst, if_neg hfirst, if_pos hempty, if_pos hempty]
    exact h.update fun hb => hb.reject _ _ _
  rw [if_neg hfirst, if_neg hfirst, if_neg hempty, if_neg hempty]
  dsimp only
  cases negotiateBlockSize s.optionsConfigurationV options with
  | error rejection => exact h.refuse rejection
  | ok block =>
    obtain ⟨dataSize, options⟩ := block
    have hblock : Exchanged R { s with transmitDataSize := dataSize.getD s.transmitDataSize }
        { s with
          toOperationImpl := s.toOperationImpl.withHandler handler
          optionNegotiationHandlerV := g'
          transmitDataSize := dataSize.getD s.transmitDataSize } :=
      ⟨_, g', ⟨handler, rfl, hR⟩, hg, rfl⟩
    dsimp only
    cases negotiateTimeout s.optionsConfigurationV options with
    | error rejection => exact hblock.refuse rejection
    | ok timeout =>
      obtain ⟨timeout, options⟩ := timeout
      dsimp only
      have ht : Exchanged R
          { s with
            transmitDataSize := dataSize.getD s.transmitDataSize
            receiveTimeoutV := timeout.getD s.receiveTimeoutV }
          { s with
            toOperationImpl := { s.toOperationImpl.withHandler handler with
              receiveTimeoutV := timeout.getD s.receiveTimeoutV }
            optionNegotiationHandlerV := g'
            transmitDataSize := dataSize.getD s.transmitDataSize } :=
        ⟨_, g', ⟨handler, rfl, hR⟩, hg, rfl⟩
      cases negotiateTransferSize
          (s.optionsConfigurationV.handleTransferSizeOption && s.transferSize.isSome) options with
      | error rejection => exact ht.refuse rejection
      | ok size => exact ht.negotiated htransmit hinUse _ _

theorem Exchanged.received (htransmit : TransmitAlike R) (h : Exchanged R s s') (hinUse : s.InUse)
    (r : Received) :
    Exchanged R (s.received f r) (s'.received f r) := by
  cases r with
  | invalid => exact h.update fun hb => hb.reject _ _ _
  | packet packet =>
    cases packet with
    | readRequest | writeRequest | data =>
      exact h.update fun hb => hb.reject _ _ _
    | acknowledgement blockNumber => exact h.acknowledgementPacket htransmit hinUse blockNumber
    | error errorCode errorMessage => exact h.update fun hb => hb.clientErrorPacket _ _
    | optionsAcknowledgement options =>
      exact h.optionsAcknowledgementPacket htransmit hinUse options

theorem exchangeable (htransmit : TransmitAlike R) : Operation.Exchangeable R (Exchanged R) where
  base h := by
    obtain ⟨b', g', hb, hg, rfl⟩ := h
    exact hb
  withBase h hb := by
    obtain ⟨b', g', -, hg, rfl⟩ := h
    exact ⟨_, g', hb, hg, rfl⟩
  received f r h hinUse := h.received htransmit hinUse r
  gracefulAbort f errorCode errorMessage h := h.update fun hb => hb.clientGracefulAbort _ _

theorem Exchanged.sendRequest (h : Exchanged R s s') (options : Options) :
    Exchanged R (s.sendRequest {} options) (s'.sendRequest {} options) := by
  obtain ⟨b', g', hb, hg, rfl⟩ := h
  exact ⟨_, g', (hb.sendFirst _).receiveFirst, hg, rfl⟩

/-- **The operation is started**, with data handlers that are alike then. -/
theorem exchanged_request (htransmit : TransmitAlike R) (hidle : s.Idle) {handler : δ'}
    {g' : Option (OptionNegotiationHandler δ')}
    (hR : R.inUse (DataHandler.start s.dataHandlerV) (DataHandler.start handler))
    (hg : NegotiateAlike R s.optionNegotiationHandlerV g') :
    Exchanged R (s.request {})
      (request { s with
        toOperationImpl := s.toOperationImpl.withHandler handler
        optionNegotiationHandlerV := g' } {}) := by
  obtain ⟨hb, hinUse⟩ := Clients.OperationImpl.exchanged_initialise hidle hR
  rw [WriteOperationImpl.request, WriteOperationImpl.request]
  dsimp only [WriteOperationImpl.update]
  split_ifs
  · obtain ⟨size, c, c', hc, hc', hcalled, -⟩ := hb.requestedTransferSize htransmit hinUse.usable
    rw [hc, hc']
    cases size with
    | none =>
      refine Exchanged.sendRequest ?_ _
      exact ⟨c', g', hcalled, hg, rfl⟩
    | some size =>
      refine Exchanged.sendRequest ?_ _
      exact ⟨c', g', hcalled, hg, rfl⟩
  · refine Exchanged.sendRequest ?_ _
    exact ⟨_, g', hb, hg, rfl⟩

end Clients.WriteOperationImpl

/-! ### Transfers -/

open Operation

section Transfers

variable {σ σ' τ τ' δ δ' ε ε' : Type} [DataHandler δ] [DataHandler δ'] [DataHandler ε]
  [DataHandler ε'] [Operation σ δ] [Operation σ' δ'] [Operation τ ε] [Operation τ' ε']
  {R : HandlerRelation δ δ'} {S : HandlerRelation ε ε'} {P : σ → σ' → Prop} {Q : τ → τ' → Prop}
  {receiverV senderV : Endpoint} {t : Transfer σ τ} {t' : Transfer σ' τ'}

/-- **Two transfers with exchanged data handlers**: the two sides are related, and all that can be
seen of the transfers is the same. -/
structure Transfer.Exchanged (P : σ → σ' → Prop) (Q : τ → τ' → Prop) (t : Transfer σ τ)
    (t' : Transfer σ' τ') : Prop where
  receiver : P t.receiver t'.receiver
  sender : Q t.sender t'.sender
  toReceiver : t.toReceiver = t'.toReceiver
  toSender : t.toSender = t'.toSender
  receiverActions : t.receiverActions = t'.receiverActions
  senderActions : t.senderActions = t'.senderActions

theorem Operation.Exchangeable.actions_eq (hP : Exchangeable R P) {s : σ} {s' : σ'} (h : P s s') :
    actions s = actions s' := (hP.base h).observed.1

theorem Operation.Exchangeable.exchanged_started (hP : Exchangeable R P) (hQ : Exchangeable S Q)
    {receiver : σ} {receiver' : σ'} {sender : τ} {sender' : τ'}
    (hreceiver : P receiver receiver') (hsender : Q sender sender') :
    Transfer.Exchanged P Q (.started receiverV senderV receiver sender)
      (.started receiverV senderV receiver' sender') where
  receiver := hreceiver
  sender := hsender
  toReceiver := congrArg (sentTo receiverV) (hQ.actions_eq hsender)
  toSender := congrArg (sentTo senderV) (hP.actions_eq hreceiver)
  receiverActions := hP.actions_eq hreceiver
  senderActions := hQ.actions_eq hsender

theorem Transfer.Exchanged.receiverReacts (hP : Exchangeable R P) (h : t.Exchanged P Q t')
    (e : PeerEvent) :
    (t.receiverReacts senderV e).Exchanged P Q (t'.receiverReacts senderV e) := by
  have hnext := hP.step h.receiver e.toEvent
  have hactions := hP.actions_eq hnext
  exact ⟨hnext, h.sender, h.toReceiver, congrArg₂ _ h.toSender (congrArg (sentTo senderV) hactions),
    congrArg₂ _ h.receiverActions hactions, h.senderActions⟩

theorem Transfer.Exchanged.senderReacts (hQ : Exchangeable S Q) (h : t.Exchanged P Q t')
    (e : PeerEvent) :
    (t.senderReacts receiverV e).Exchanged P Q (t'.senderReacts receiverV e) := by
  have hnext := hQ.step h.sender e.toEvent
  have hactions := hQ.actions_eq hnext
  exact ⟨h.receiver, hnext, congrArg₂ _ h.toReceiver (congrArg (sentTo receiverV) hactions),
    h.toSender, h.receiverActions, congrArg₂ _ h.senderActions hactions⟩

theorem Transfer.Exchanged.step (hP : Exchangeable R P) (hQ : Exchangeable S Q)
    (h : t.Exchanged P Q t') (e : NetworkEvent) :
    (t.step receiverV senderV e).Exchanged P Q (t'.step receiverV senderV e) := by
  cases e with
  | toReceiver index keep =>
    rw [Transfer.step, Transfer.step, ← h.toReceiver]
    cases t.toReceiver[index]? with
    | none => exact h
    | some rawPacket =>
      refine Transfer.Exchanged.receiverReacts hP ?_ _
      exact ⟨h.receiver, h.sender, rfl, h.toSender, h.receiverActions, h.senderActions⟩
  | toSender index keep =>
    rw [Transfer.step, Transfer.step, ← h.toSender]
    cases t.toSender[index]? with
    | none => exact h
    | some rawPacket =>
      refine Transfer.Exchanged.senderReacts hQ ?_ _
      exact ⟨h.receiver, h.sender, h.toReceiver, rfl, h.receiverActions, h.senderActions⟩
  | loseToReceiver index =>
    exact ⟨h.receiver, h.sender, congrArg (List.eraseIdx · index) h.toReceiver, h.toSender,
      h.receiverActions, h.senderActions⟩
  | loseToSender index =>
    exact ⟨h.receiver, h.sender, h.toReceiver, congrArg (List.eraseIdx · index) h.toSender,
      h.receiverActions, h.senderActions⟩
  | receiverTimeout => exact h.receiverReacts hP _
  | senderTimeout => exact h.senderReacts hQ _

/-- What can be said of the actions only. -/
theorem Transfer.Exchanged.intact_iff (h : t.Exchanged P Q t') (file : RawData) (dataSize : ℕ) :
    t.Intact file dataSize ↔ t'.Intact file dataSize := by
  have hbytes : t.bytes = t'.bytes := by rw [Transfer.bytes, Transfer.bytes, h.receiverActions]
  have hsucceeded : t.Succeeded ↔ t'.Succeeded := by
    rw [Transfer.Succeeded, Transfer.Succeeded, h.receiverActions, h.senderActions]
  constructor
  · rintro ⟨hblocks, hprefix, hcomplete⟩
    exact ⟨h.receiverActions ▸ hblocks, hbytes ▸ hprefix, fun hs =>
      hbytes ▸ hcomplete (hsucceeded.mpr hs)⟩
  · rintro ⟨hblocks, hprefix, hcomplete⟩
    exact ⟨h.receiverActions ▸ hblocks, hbytes ▸ hprefix, fun hs =>
      hbytes ▸ hcomplete (hsucceeded.mp hs)⟩

end Transfers
end Tftp
