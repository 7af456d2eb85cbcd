import Tftp.Clients.FirstAnswer

/-!
# The echo of a request

A server that grants everything acknowledges the options of the request with the values of the
request. The client judges that answer with the checks of any other one, and they are not made
for what the request was built from: the request carries the block size as it is configured and
the timeout cut down to 16 bits, the checks read a block size in the range of the protocol and a
timeout of 8 bits, and compare the latter with the configured one before the cut. So the echo is
accepted exactly when the configured values can be negotiated at all
(`Tftp.Clients.answers_echo_iff`).
-/

namespace Tftp

open Protocol

namespace Clients

/-- **A client that asks for the known options only**: for the block size or the timeout, without
transfer size, additional options and option negotiation handler. -/
structure Settings.Plain {δ : Type} (settings : Settings δ) : Prop where
  additionalOptions : settings.additionalOptions = SortedMap.empty
  optionNegotiationHandler : settings.optionNegotiationHandler = none
  transferSize : settings.optionsConfiguration.handleTransferSizeOption = false
  asks : settings.optionsConfiguration.blockSizeOption.isSome ∨
    settings.optionsConfiguration.timeoutOption.isSome

/-- The acknowledgement with the names and the values of the request. -/
def Settings.echo {δ : Type} (settings : Settings δ) : Packet :=
  .optionsAcknowledgement
    (requestOptions settings.additionalOptions settings.optionsConfiguration)

section Options

variable (configuration : TftpOptionsConfiguration)

/-- The options of a request as numbers. -/
theorem requestOptions_eq_emplaceNumber : requestOptions SortedMap.empty configuration =
    (Options.emplaceNumber SortedMap.empty (tftpOptionsName .blockSize)
      (configuration.blockSizeOption.map UInt16.toNat)).emplaceNumber (tftpOptionsName .timeout)
        (configuration.timeoutOption.map fun t => (t % 2 ^ 16).toNat) := by
  cases hblock : configuration.blockSizeOption <;> cases htimeout : configuration.timeoutOption <;>
    simp [requestOptions, Options.emplaceNumber, hblock, htimeout]

theorem find?_echo (name : RawData) : (requestOptions SortedMap.empty configuration).find? name =
    if name = tftpOptionsName .blockSize then
      configuration.blockSizeOption.map fun b => stdToString b.toNat
    else if name = tftpOptionsName .timeout then
      configuration.timeoutOption.map fun t => stdToString (t % 2 ^ 16).toNat
    else none := by
  rw [requestOptions_eq_emplaceNumber, Options.find?_emplaceNumber, Options.find?_emplaceNumber,
    SortedMap.find?_empty, Option.none_or]
  by_cases hblock : name = tftpOptionsName .blockSize
  · have htimeout : name ≠ tftpOptionsName .timeout := by
      rw [hblock]
      exact TftpOptions.tftpOptionsName_ne (by decide)
    rw [if_pos hblock, if_pos hblock, if_neg htimeout, Option.or_none, Option.map_map]
    rfl
  · rw [if_neg hblock, if_neg hblock, Option.none_or, Option.map_map]
    rfl

/-- What the checks read of the block size in the echo. -/
theorem getOption_echo_blockSize {b : UInt16} (h : configuration.blockSizeOption = some b) :
    ((requestOptions SortedMap.empty configuration).getOption 16 (tftpOptionsName .blockSize)
      blockSizeOptionMin blockSizeOptionMax).1 =
        if b.toNat < blockSizeOptionMin ∨ blockSizeOptionMax < b.toNat then (false, none)
        else (true, some b.toNat) := by
  have hfind : (requestOptions SortedMap.empty configuration).find? (tftpOptionsName .blockSize) =
      some (stdToString b.toNat) := by
    rw [find?_echo, if_pos rfl, h]
    rfl
  have hlt := b.toNat_lt
  rw [Options.getOption_present hfind (by decide),
    stdStoull_stdToString (by rw [ullongMax]; omega)]

/-- What the checks read of the timeout in the echo: the seconds have been cut down to 16 bits. -/
theorem getOption_echo_timeout {t : ℤ} (h : configuration.timeoutOption = some t) :
    ((requestOptions SortedMap.empty configuration).getOption 8 (tftpOptionsName .timeout)
      timeoutOptionMin timeoutOptionMax).1 =
        if (t % 2 ^ 16).toNat < timeoutOptionMin ∨ timeoutOptionMax < (t % 2 ^ 16).toNat then
          (false, none)
        else (true, some (t % 2 ^ 16).toNat) := by
  have hfind : (requestOptions SortedMap.empty configuration).find? (tftpOptionsName .timeout) =
      some (stdToString (t % 2 ^ 16).toNat) := by
    rw [find?_echo, if_neg (TftpOptions.tftpOptionsName_ne (by decide)), if_pos rfl, h]
    rfl
  rw [Options.getOption_present hfind (by decide),
    stdStoull_stdToString (by rw [ullongMax]; omega)]

theorem isSome_echo_blockSize : ((requestOptions SortedMap.empty configuration).find?
    (tftpOptionsName .blockSize)).isSome = configuration.blockSizeOption.isSome :=
  (find?_requestOptions configuration).1

theorem isSome_echo_timeout : ((requestOptions SortedMap.empty configuration).find?
    (tftpOptionsName .timeout)).isSome = configuration.timeoutOption.isSome :=
  (find?_requestOptions configuration).2.1

/-- The block size of the echo passes if it is in range: it is not greater than itself. -/
theorem answersBlockSize_echo :
    AnswersBlockSize configuration (requestOptions SortedMap.empty configuration) ↔
      configuration.BlockSizeInRange := by
  rw [AnswersBlockSize, isSome_echo_blockSize]
  cases hblock : configuration.blockSizeOption with
  | none =>
    refine iff_of_true (by rintro ⟨⟩) fun b hb => ?_
    rw [hblock] at hb
    cases hb
  | some b =>
    rw [getOption_echo_blockSize configuration hblock]
    constructor
    · intro h b' hb'
      obtain rfl := Option.some.inj (hblock.symm.trans hb')
      obtain ⟨n, configured, hn, -⟩ := h rfl
      split_ifs at hn with hrange
      · cases hn
      · omega
    · intro h _
      obtain ⟨hmin, hmax⟩ := h b hblock
      exact ⟨b.toNat, b, if_neg (by omega), rfl, hmin, le_rfl⟩

/-- The timeout of the echo passes if it is in range, and then nothing has been cut off. -/
theorem answersTimeout_echo :
    AnswersTimeout configuration (requestOptions SortedMap.empty configuration) ↔
      configuration.TimeoutInRange := by
  rw [AnswersTimeout, isSome_echo_timeout]
  cases htimeout : configuration.timeoutOption with
  | none =>
    refine iff_of_true (by rintro ⟨⟩) fun t ht => ?_
    rw [htimeout] at ht
    cases ht
  | some t =>
    rw [getOption_echo_timeout configuration htimeout]
    constructor
    · intro h t' ht'
      obtain ⟨n, -, hmin, hmax, hn⟩ := h rfl
      obtain rfl := Option.some.inj (htimeout.symm.trans ht')
      obtain rfl := Option.some.inj hn
      exact ⟨by exact_mod_cast hmin, by exact_mod_cast hmax⟩
    · intro h _
      obtain ⟨hmin, hmax⟩ := h t htimeout
      rw [timeoutOptionMin] at hmin
      rw [timeoutOptionMax] at hmax
      have hcut : (t % 2 ^ 16).toNat = t.toNat := by omega
      rw [hcut, timeoutOptionMin, timeoutOptionMax, if_neg (by omega)]
      exact ⟨t.toNat, rfl, by omega, by omega, congrArg some (by omega)⟩

theorem isEmpty_echo (hasks :
    configuration.blockSizeOption.isSome ∨ configuration.timeoutOption.isSome) :
    (requestOptions SortedMap.empty configuration).isEmpty = false := by
  rw [← Bool.not_eq_true]
  intro hempty
  rw [SortedMap.isEmpty_iff] at hempty
  rw [← isSome_echo_blockSize, ← isSome_echo_timeout, hempty, hempty] at hasks
  simp at hasks

/-- **The echo answers the request exactly if the configured values can be negotiated.** -/
theorem answers_echo_iff (acceptable : UInt64 → Prop) (hasks :
    configuration.blockSizeOption.isSome ∨ configuration.timeoutOption.isSome) :
    Answers configuration (requestOptions SortedMap.empty configuration) acceptable
        (requestOptions SortedMap.empty configuration) ↔
      configuration.BlockSizeInRange ∧ configuration.TimeoutInRange := by
  constructor
  · intro h
    exact ⟨(answersBlockSize_echo configuration).mp h.blockSize,
      (answersTimeout_echo configuration).mp h.timeout⟩
  · rintro ⟨hblock, htimeout⟩
    refine ⟨isEmpty_echo configuration hasks, fun name hsome => ?_, fun _ => id,
      (answersBlockSize_echo configuration).mpr hblock,
      (answersTimeout_echo configuration).mpr htimeout, fun hsome => ?_⟩
    · rw [find?_echo] at hsome
      split_ifs at hsome with hblock htimeout
      · exact ⟨_, hblock⟩
      · exact ⟨_, htimeout⟩
      · cases hsome
    · rw [(find?_requestOptions configuration).2.2] at hsome
      cases hsome

/-- What is taken over from the echo. -/
theorem acknowledged_echo (hblock : configuration.BlockSizeInRange)
    (htimeout : configuration.TimeoutInRange) :
    acknowledgedBlockSize (requestOptions SortedMap.empty configuration) =
        configuration.blockSizeOption ∧
      acknowledgedTimeout (requestOptions SortedMap.empty configuration) =
        configuration.timeoutOption := by
  obtain ⟨hfindBlock, hfindTimeout, -⟩ := find?_requestOptions configuration
  constructor
  · rw [acknowledgedBlockSize]
    cases hb : configuration.blockSizeOption with
    | none =>
      rw [hb] at hfindBlock
      rw [Options.getOption_absent
        (Option.not_isSome_iff_eq_none.mp (by rw [hfindBlock]; rintro ⟨⟩))]
      rfl
    | some b =>
      obtain ⟨hmin, hmax⟩ := hblock b hb
      rw [getOption_echo_blockSize configuration hb, if_neg (by omega)]
      exact congrArg some b.ofNat_toNat
  · rw [acknowledgedTimeout]
    cases ht : configuration.timeoutOption with
    | none =>
      rw [ht] at hfindTimeout
      rw [Options.getOption_absent
        (Option.not_isSome_iff_eq_none.mp (by rw [hfindTimeout]; rintro ⟨⟩))]
      rfl
    | some t =>
      obtain ⟨hmin, hmax⟩ := htimeout t ht
      rw [timeoutOptionMin] at hmin
      rw [timeoutOptionMax] at hmax
      have hcut : (t % 2 ^ 16).toNat = t.toNat := by omega
      rw [getOption_echo_timeout configuration ht, hcut, timeoutOptionMin, timeoutOptionMax,
        if_neg (by omega)]
      exact congrArg some (Int.toNat_of_nonneg (by omega))

/-! ### The datagram -/

/-- The echo is a packet, and a small one. -/
theorem echo_encode (hasks :
    configuration.blockSizeOption.isSome ∨ configuration.timeoutOption.isSome) :
    (Packet.optionsAcknowledgement (requestOptions SortedMap.empty configuration)).Encodable ∧
      (Packet.optionsAcknowledgement
        (requestOptions SortedMap.empty configuration)).encode.length ≤ 30 := by
  refine ⟨⟨isEmpty_echo configuration hasks, ?_⟩, ?_⟩
  · rw [requestOptions_eq_emplaceNumber]
    exact (Options.nulFree_empty.emplaceNumber
      (TftpOptions.zero_notMem_tftpOptionsName _)).emplaceNumber
        (TftpOptions.zero_notMem_tftpOptionsName _)
  · rw [Packet.encode_optionsAcknowledgement, requestOptions_eq_emplaceNumber, List.length_append,
      RawData.length_setInt]
    have hblock := Options.length_rawOptions_emplaceNumber SortedMap.empty
      (tftpOptionsName .blockSize) 5
      fun n (hn : configuration.blockSizeOption.map UInt16.toNat = some n) => by
        obtain ⟨b, -, rfl⟩ := Option.map_eq_some_iff.mp hn
        exact length_stdToString (by have := b.toNat_lt; omega)
    have htimeout := Options.length_rawOptions_emplaceNumber
      (Options.emplaceNumber SortedMap.empty (tftpOptionsName .blockSize)
        (configuration.blockSizeOption.map UInt16.toNat)) (tftpOptionsName .timeout) 5
      fun n (hn : (configuration.timeoutOption.map fun t => (t % 2 ^ 16).toNat) = some n) => by
        obtain ⟨t, -, rfl⟩ := Option.map_eq_some_iff.mp hn
        exact length_stdToString (by omega)
    have hnames : (tftpOptionsName .blockSize).length = 7 ∧
      (tftpOptionsName .timeout).length = 7 ∧
        (Options.rawOptions SortedMap.empty).length = 0 := by decide
    omega

/-- A buffer for a block of the default size takes it whole. -/
theorem packet_echo (hasks :
    configuration.blockSizeOption.isSome ∨ configuration.timeoutOption.isSome) {size : ℕ}
    (hsize : 30 ≤ size) :
    PacketHandler.packet ((Packet.optionsAcknowledgement
      (requestOptions SortedMap.empty configuration)).encode.take size) =
        .packet (.optionsAcknowledgement (requestOptions SortedMap.empty configuration)) := by
  obtain ⟨hencodable, hlength⟩ := echo_encode configuration hasks
  rw [List.take_of_length_le (hlength.trans hsize)]
  exact PacketHandler.packet_encode hencodable

/-- Less than four bytes of it are no packet. -/
theorem packet_echo_cut {b : UInt16} (h : configuration.blockSizeOption = some b) {size : ℕ}
    (hsize : size < 4) :
    PacketHandler.packet ((Packet.optionsAcknowledgement
      (requestOptions SortedMap.empty configuration)).encode.take size) = .invalid := by
  have hcons : ∃ rest, (Packet.optionsAcknowledgement
      (requestOptions SortedMap.empty configuration)).encode = 0 :: 6 :: 98 :: rest := by
    rw [Packet.encode_optionsAcknowledgement, requestOptions, h]
    cases configuration.timeoutOption with
    | none => exact ⟨_, rfl⟩
    | some t => exact ⟨_, rfl⟩
  obtain ⟨rest, hrest⟩ := hcons
  rw [hrest]
  interval_cases size
  · rfl
  · rfl
  · rfl
  · rfl

end Options

/-! ### The clients -/

/-- The configured values can be negotiated. -/
def Settings.InRange {δ : Type} (settings : Settings δ) : Prop :=
  settings.optionsConfiguration.BlockSizeInRange ∧ settings.optionsConfiguration.TimeoutInRange

/-- The echo has the block size and the timeout, and nothing else. -/
theorem Settings.Plain.echo_eq {δ : Type} {settings : Settings δ} (hplain : settings.Plain) :
    settings.echo = .optionsAcknowledgement
      (Clients.requestOptions SortedMap.empty settings.optionsConfiguration) := by
  rw [Settings.echo, hplain.additionalOptions]

namespace ReadOperationImpl

variable {δ : Type} [ReceiveDataHandler δ] {s : ReadOperationImpl δ} {f : Faults}
  {settings : Settings δ}

/-- **The echo is accepted**: the client waits for its peer, with the configured block size and
timeout if they were requested, and with its own ones otherwise. -/
def AcceptsEcho (settings : Settings δ) (s' : ReadOperationImpl δ) (peer : Endpoint) : Prop :=
  s'.phase = .waiting peer ∧
    s'.receiveDataSize = settings.optionsConfiguration.blockSizeOption.getD defaultDataSize ∧
    s'.receiveTimeoutV = settings.optionsConfiguration.timeoutOption.getD settings.tftpTimeout

/-- The sizes and the timeout of a client that still waits. -/
theorem sizes_of_awaits {history}
    (hrun : Protocol.Run Operation.step ((configured settings).request f) history s)
    (hawaits : s.AwaitsAnswer) :
    s.receivePacketV = (configured settings).receivePacketV ∧
      s.receiveDataSize = defaultDataSize ∧ s.receiveTimeoutV = settings.tftpTimeout := by
  obtain ⟨-, -, huntouched⟩ :=
    (Operation.asRequested_run (asRequested_request settings f) hrun).of_awaits hawaits
  rw [request_eq (idle_configured settings)] at huntouched
  exact ⟨congrArg (·.receivePacketV) huntouched, congrArg (·.receiveDataSize) huntouched,
    congrArg (·.receiveTimeoutV) huntouched⟩

omit [ReceiveDataHandler δ] in
/-- The size of the receive buffer is cut down to 16 bits; below that it takes the echo. -/
theorem receivePacketV_configured (settings : Settings δ) :
    (configured settings).receivePacketV = (4 + max 512
      (settings.optionsConfiguration.blockSizeOption.getD defaultDataSize).toNat) % 65536 := rfl

omit [ReceiveDataHandler δ] in
theorem requestOptions_of_plain (hplain : settings.Plain) :
    (configured settings).requestOptions =
      Clients.requestOptions SortedMap.empty settings.optionsConfiguration := by
  rw [requestOptions]
  simp only [configured, optionsConfiguration, hplain.additionalOptions, hplain.transferSize,
    Bool.false_eq_true, if_false]

omit [ReceiveDataHandler δ] in
/-- A buffer that has not been cut down to nothing takes the echo whole. -/
theorem room_for_echo
    (hwhole : ∀ b, settings.optionsConfiguration.blockSizeOption = some b → b.toNat ≤ 65531) :
    30 ≤ (configured settings).receivePacketV := by
  rw [receivePacketV_configured]
  rcases hb : settings.optionsConfiguration.blockSizeOption with _ | b
  · decide
  · rw [Option.getD_some]
    have hsmall := hwhole b hb
    omega

/-- A datagram that is no packet is rejected. -/
theorem invalid_rejected (hsettled : s.Settled) {source : Endpoint}
    (hadmits : s.phase.admits source) {rawPacket : RawData}
    (hpacket : PacketHandler.packet (rawPacket.take s.receivePacketV) = .invalid) :
    (Operation.peerStep s (.datagram source rawPacket)).phase ≠ .waiting source := by
  obtain ⟨lastEndpoint, hready, heq⟩ :=
    Operation.peerStep_admitted (s := s) hsettled hadmits rawPacket
  rw [show (Operation.base s).receivePacketV = s.receivePacketV from rfl, hpacket] at heq
  rw [heq]
  have hdone := (hready.reject .illegalTftpOperation "Invalid packet isn't expected"
    .transferError).2.1
  exact fun hwaits => Phase.noConfusion (hdone.symm.trans hwaits)

/-- **A read accepts the echo exactly if the configured values can be negotiated.** -/
theorem echo_iff (hplain : settings.Plain) {history}
    (hrun : Protocol.Run Operation.step ((configured settings).request f) history s)
    (hawaits : s.AwaitsAnswer) {source : Endpoint}
    (hsource : source.address = settings.remote.address) :
    AcceptsEcho settings (Operation.peerStep s (.datagram source settings.echo.encode)) source ↔
      settings.InRange := by
  obtain ⟨hbuffer, hsize, htimeout⟩ := sizes_of_awaits hrun hawaits
  have hrequest := requestOptions_of_plain hplain
  rw [hplain.echo_eq]
  by_cases hcut : ∃ b, settings.optionsConfiguration.blockSizeOption = some b ∧ 65531 < b.toNat
  · -- the buffer is too small for any packet
    obtain ⟨b, hb, hlarge⟩ := hcut
    obtain ⟨hsettled, hphase, -⟩ := kept_of_awaits hrun hawaits
    have hadmits : s.phase.admits source := by
      rw [hphase]
      exact hsource
    have hlt := b.toNat_lt
    rw [receivePacketV_configured, hb, Option.getD_some] at hbuffer
    have hpacket := packet_echo_cut settings.optionsConfiguration hb
      (show s.receivePacketV < 4 by omega)
    refine iff_of_false (fun h => invalid_rejected hsettled hadmits hpacket h.1) fun h => ?_
    have hmax := (h.1 b hb).2
    rw [blockSizeOptionMax] at hmax
    omega
  · have hfits : 30 ≤ s.receivePacketV := by
      rw [hbuffer]
      exact room_for_echo fun b hb => not_lt.mp fun hlarge => hcut ⟨b, hb, hlarge⟩
    have hanswer := answers_echo_iff settings.optionsConfiguration
      (fun n => (ReceiveDataHandler.receivedTransferSize s.dataHandlerV n).1 = true) hplain.asks
    rcases oack_cases hplain.additionalOptions hplain.optionNegotiationHandler hrun hawaits hsource
      (packet_echo settings.optionsConfiguration hplain.asks hfits) with
        ⟨hanswers, haccepts⟩ | ⟨hanswers, hrejects⟩
    · rw [hrequest, hanswer] at hanswers
      obtain ⟨hblock, htimeout'⟩ := acknowledged_echo settings.optionsConfiguration hanswers.1
        hanswers.2
      refine iff_of_true ⟨haccepts.waits, ?_, ?_⟩ hanswers
      · rw [haccepts.dataSize, hblock, hsize]
      · rw [haccepts.timeout, htimeout', htimeout]
    · rw [hrequest, hanswer] at hanswers
      exact iff_of_false (fun h => hrejects.not_waiting h.1) hanswers

end ReadOperationImpl

namespace WriteOperationImpl

variable {δ : Type} [TransmitDataHandler δ] {s : WriteOperationImpl δ} {f : Faults}
  {settings : Settings δ}

/-- **The echo is accepted**: the client waits for its peer, with the configured block size and
timeout if they were requested, and with its own ones otherwise. -/
def AcceptsEcho (settings : Settings δ) (s' : WriteOperationImpl δ) (peer : Endpoint) : Prop :=
  s'.phase = .waiting peer ∧
    s'.transmitDataSize = settings.optionsConfiguration.blockSizeOption.getD defaultDataSize ∧
    s'.receiveTimeoutV = settings.optionsConfiguration.timeoutOption.getD settings.tftpTimeout

/-- The sizes and the timeout of a client that still waits. -/
theorem sizes_of_awaits {history}
    (hrun : Protocol.Run Operation.step ((configured settings).request f) history s)
    (hawaits : s.AwaitsAnswer) :
    s.receivePacketV = defaultMaxPacketSize.toNat ∧
      s.transmitDataSize = defaultDataSize ∧ s.receiveTimeoutV = settings.tftpTimeout := by
  obtain ⟨-, -, huntouched⟩ :=
    (Operation.asRequested_run (asRequested_request settings f) hrun).of_awaits hawaits
  rw [request_eq (idle_configured settings)] at huntouched
  exact ⟨congrArg (·.receivePacketV) huntouched, congrArg (·.transmitDataSize) huntouched,
    congrArg (·.receiveTimeoutV) huntouched⟩

theorem requestOptions_of_plain (hplain : settings.Plain) :
    (configured settings).requestOptions =
      Clients.requestOptions SortedMap.empty settings.optionsConfiguration := by
  have hannounced : (configured settings).announced.1 = none := by
    rw [announced, show (configured settings).optionsConfigurationV =
      settings.optionsConfiguration from rfl, hplain.transferSize]
    rfl
  rw [requestOptions, hannounced, ← hplain.additionalOptions]
  rfl

/-- **A write accepts the echo exactly if the configured values can be negotiated.** -/
theorem echo_iff (hplain : settings.Plain) {history}
    (hrun : Protocol.Run Operation.step ((configured settings).request f) history s)
    (hawaits : s.AwaitsAnswer) {source : Endpoint}
    (hsource : source.address = settings.remote.address) :
    AcceptsEcho settings (Operation.peerStep s (.datagram source settings.echo.encode)) source ↔
      settings.InRange := by
  obtain ⟨hbuffer, hsize, htimeout⟩ := sizes_of_awaits hrun hawaits
  have hrequest := requestOptions_of_plain hplain
  have hfits : 30 ≤ s.receivePacketV := by
    rw [hbuffer]
    decide
  have hanswer := answers_echo_iff settings.optionsConfiguration
    (fun n => s.transferSize = some n) hplain.asks
  rw [hplain.echo_eq]
  rcases oack_cases hplain.additionalOptions hplain.optionNegotiationHandler hrun hawaits hsource
    (packet_echo settings.optionsConfiguration hplain.asks hfits) with
      ⟨hanswers, haccepts⟩ | ⟨hanswers, hrejects⟩
  · rw [hrequest, hanswer] at hanswers
    obtain ⟨hblock, htimeout'⟩ := acknowledged_echo settings.optionsConfiguration hanswers.1
      hanswers.2
    refine iff_of_true ⟨haccepts.waits, ?_, ?_⟩ hanswers
    · rw [haccepts.dataSize, hblock, hsize]
    · rw [haccepts.timeout, htimeout', htimeout]
  · rw [hrequest, hanswer] at hanswers
    exact iff_of_false (fun h => hrejects.not_waiting h.1) hanswers

end WriteOperationImpl

/-- **When a client accepts the echo of its own request**: either client, whatever strangers have
sent and however often the request was repeated before the answer, accepts it and has the
configured values afterwards, exactly if the block size and the timeout it is configured with can
be negotiated. -/
theorem echo_accepted_iff (δ ε : Type) [ReceiveDataHandler δ] [TransmitDataHandler ε] :
    (∀ (settings : Settings δ) f history s source, settings.Plain →
      Protocol.Run Operation.step ((ReadOperationImpl.configured settings).request f) history s →
      s.AwaitsAnswer → source.address = settings.remote.address →
      (ReadOperationImpl.AcceptsEcho settings
        (Operation.peerStep s (.datagram source settings.echo.encode)) source ↔
          settings.InRange)) ∧
    (∀ (settings : Settings ε) f history s source, settings.Plain →
      Protocol.Run Operation.step ((WriteOperationImpl.configured settings).request f) history s →
      s.AwaitsAnswer → source.address = settings.remote.address →
      (WriteOperationImpl.AcceptsEcho settings
        (Operation.peerStep s (.datagram source settings.echo.encode)) source ↔
          settings.InRange)) :=
  ⟨fun _ _ _ _ _ hplain hrun hawaits hsource =>
      ReadOperationImpl.echo_iff hplain hrun hawaits hsource,
    fun _ _ _ _ _ hplain hrun hawaits hsource =>
      WriteOperationImpl.echo_iff hplain hrun hawaits hsource⟩

/-- A client that asks for a timeout. -/
def waitingFor (timeout : ℤ) : Settings MemoryFile :=
  { optionsConfiguration := { timeoutOption := some timeout }, dataHandler := .empty }

theorem plain_waitingFor (timeout : ℤ) : (waitingFor timeout).Plain :=
  ⟨rfl, rfl, rfl, Or.inr rfl⟩

/-- Five seconds are accepted. -/
theorem echo_accepted_iff_five_seconds :
    ReadOperationImpl.AcceptsEcho (waitingFor 5) (Operation.peerStep
      ((ReadOperationImpl.configured (waitingFor 5)).request {})
        (.datagram {} (waitingFor 5).echo.encode)) {} ∧
    WriteOperationImpl.AcceptsEcho (waitingFor 5) (Operation.peerStep
      ((WriteOperationImpl.configured (waitingFor 5)).request {})
        (.datagram {} (waitingFor 5).echo.encode)) {} := by
  obtain ⟨hread, hwrite⟩ := echo_accepted_iff MemoryFile MemoryFile
  have hrange : (waitingFor 5).InRange := by
    refine ⟨(by rintro _ ⟨⟩), fun t ht => ?_⟩
    obtain rfl := Option.some.inj ht
    decide
  exact ⟨(hread (waitingFor 5) {} [] _ {} (plain_waitingFor 5) .start ⟨by decide, by decide⟩
      rfl).mpr hrange,
    (hwrite (waitingFor 5) {} [] _ {} (plain_waitingFor 5) .start ⟨by decide, by decide⟩
      rfl).mpr hrange⟩

/-- **Five minutes are not**: the request says 300, and so does its echo, which no timeout of 8
bits can be. -/
theorem echo_of_five_minutes : ¬ ∀ (settings : Settings MemoryFile) f history s source,
    settings.Plain →
      Protocol.Run Operation.step ((ReadOperationImpl.configured settings).request f) history s →
      s.AwaitsAnswer → source.address = settings.remote.address →
      ReadOperationImpl.AcceptsEcho settings
        (Operation.peerStep s (.datagram source settings.echo.encode)) source := by
  intro h
  have haccepts := h (waitingFor 300) {} [] _ {} (plain_waitingFor 300) .start
    ⟨by decide, by decide⟩ rfl
  have hrange := (ReadOperationImpl.echo_iff (f := {}) (plain_waitingFor 300) .start
    ⟨by decide, by decide⟩ rfl).mp haccepts
  exact absurd (hrange.2 300 rfl).2 (by decide)

end Clients

end Tftp
