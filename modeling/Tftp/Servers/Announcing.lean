import Tftp.Servers.ReadSends
import Tftp.Servers.WriteReceives
import Tftp.Files.MemoryFile

/-!
# What the server announces

A request asks for known options, and the server accepts some of them, with values of its own:
which ones and with which values is said by `Tftp.Servers.Accepts`, in terms of the request and the
configuration only. The first packet announces the accepted options among the additional ones, and
the operation uses what it announces (`Tftp.Servers.announced_is_used`).
-/

namespace Tftp.Servers

open Protocol

/-! ### The request -/

/-- The width of the type that the value of a known option is decoded to. -/
def optionWidth : KnownOptions → ℕ
  | .blockSize => 16
  | .timeout => 8
  | .transferSize => 64

/-- The smallest value of a known option. -/
def optionMin : KnownOptions → ℕ
  | .blockSize => blockSizeOptionMin
  | .timeout => timeoutOptionMin
  | .transferSize => 0

/-- The largest value of a known option. -/
def optionMax : KnownOptions → ℕ
  | .blockSize => blockSizeOptionMax
  | .timeout => timeoutOptionMax
  | .transferSize => ullongMax

theorem optionMax_lt (option : KnownOptions) : optionMax option < 2 ^ optionWidth option := by
  cases option <;> decide

/-- **A request asks for an option**: it stands there with the given value, and that is in range. -/
structure Asks (m : Options) (option : KnownOptions) (n : ℕ) : Prop where
  decoded : (m.getOption (optionWidth option) (tftpOptionsName option) (optionMin option)
    (optionMax option)).1 = (true, some n)
  min_le : optionMin option ≤ n
  le_max : n ≤ optionMax option

variable {m additional : Options} {option : KnownOptions} {n : ℕ}

theorem asks_iff : Asks m option n ↔
    (m.getOption (optionWidth option) (tftpOptionsName option) (optionMin option)
      (optionMax option)).1.2 = some n := by
  constructor
  · intro h
    rw [h.decoded]
  · intro h
    obtain ⟨hmin, hmax⟩ := Options.getOption_value h (optionMax_lt option)
    refine ⟨?_, hmin, hmax⟩
    by_cases hsome : (m.find? (tftpOptionsName option)).isSome
    · rcases Options.getOption_decoded _ (optionMin option) _ hsome (optionMax_lt option)
        with heq | ⟨n', heq, -⟩
      · rw [heq] at h
        cases h
      · rw [heq] at h ⊢
        cases h
        rfl
    · rw [Options.getOption_absent (Option.not_isSome_iff_eq_none.mp hsome)] at h
      cases h

/-- What is left of the map after the first option, and after the second one. -/
theorem find?_erase_getOption {width min max : ℕ} {name name' : RawData} (hne : name' ≠ name) :
    ((m.getOption width name min max).2.erase name).find? name' = m.find? name' := by
  rw [SortedMap.find?_erase, if_neg hne, Options.find?_getOption, if_neg hne]

/-- What is decoded fits into the type that it is put into. -/
theorem map_getOption {f : ℕ → ℕ}
    (h : ∀ n, n ≤ optionMax option → f n = n) :
    ((m.getOption (optionWidth option) (tftpOptionsName option) (optionMin option)
        (optionMax option)).1.2).map f =
      (m.getOption (optionWidth option) (tftpOptionsName option) (optionMin option)
        (optionMax option)).1.2 := by
  rcases hfound : (m.getOption (optionWidth option) (tftpOptionsName option) (optionMin option)
    (optionMax option)).1.2 with _ | n
  · rfl
  · have hmax := (Options.getOption_value hfound (optionMax_lt option)).2
    rw [Option.map_some, h n hmax]

/-- **The known options of a request** are what it asks for. -/
theorem number_tftpOptions : (tftpOptions m).1.number option = some n ↔ Asks m option n := by
  rw [asks_iff]
  cases option with
  | blockSize =>
    simp only [tftpOptions, TftpOptions.number, Option.map_map]
    refine Eq.congr_left (map_getOption fun n hn => ?_)
    show (UInt16.ofNat n).toNat = n
    rw [UInt16.toNat_ofNat']
    exact Nat.mod_eq_of_lt (hn.trans_lt (optionMax_lt .blockSize))
  | timeout =>
    have hsame : ((m.getOption 16 (tftpOptionsName .blockSize) blockSizeOptionMin
        blockSizeOptionMax).2.erase (tftpOptionsName .blockSize)).find? (tftpOptionsName .timeout) =
          m.find? (tftpOptionsName .timeout) :=
      find?_erase_getOption (TftpOptions.tftpOptionsName_ne (by decide))
    simp only [tftpOptions, TftpOptions.number, Option.map_map, Options.getOption_congr hsame]
    refine Eq.congr_left (map_getOption fun n hn => ?_)
    show (UInt8.ofNat n).toNat = n
    rw [UInt8.toNat_ofNat']
    exact Nat.mod_eq_of_lt (hn.trans_lt (optionMax_lt .timeout))
  | transferSize =>
    have hne : tftpOptionsName .transferSize ≠ tftpOptionsName .timeout :=
      TftpOptions.tftpOptionsName_ne (by decide)
    have hne' : tftpOptionsName .transferSize ≠ tftpOptionsName .blockSize :=
      TftpOptions.tftpOptionsName_ne (by decide)
    simp only [tftpOptions, TftpOptions.number, Option.map_map,
      Options.getOption_congr (find?_erase_getOption hne),
      Options.getOption_congr (find?_erase_getOption hne')]
    refine Eq.congr_left (map_getOption fun n hn => ?_)
    show (UInt64.ofNat n).toNat = n
    rw [UInt64.toNat_ofNat']
    exact Nat.mod_eq_of_lt (hn.trans_lt (optionMax_lt .transferSize))

/-- **All other options** are left as they are. -/
theorem find?_tftpOptions (m : Options) :
    (∀ option, (tftpOptions m).2.find? (tftpOptionsName option) = none) ∧
      ∀ name, (∀ option, name ≠ tftpOptionsName option) →
        (tftpOptions m).2.find? name = m.find? name := by
  simp only [tftpOptions]
  constructor
  · intro option
    cases option with
    | transferSize => rw [SortedMap.find?_erase, if_pos rfl]
    | timeout =>
      rw [find?_erase_getOption (TftpOptions.tftpOptionsName_ne (by decide)), SortedMap.find?_erase,
        if_pos rfl]
    | blockSize =>
      rw [find?_erase_getOption (TftpOptions.tftpOptionsName_ne (by decide)),
        find?_erase_getOption (TftpOptions.tftpOptionsName_ne (by decide)), SortedMap.find?_erase,
        if_pos rfl]
  · intro name hother
    rw [find?_erase_getOption (hother _), find?_erase_getOption (hother _),
      find?_erase_getOption (hother _)]

/-! ### The accepted options -/

/-- **The known options that are accepted**: a block size that is asked for and configured, and the
smaller one of the two; a timeout that does not exceed the configured one; and the transfer size, as
far as it is handled, that answers the one in the request. -/
structure Accepts (m : Options) (configuration : TftpOptionsConfiguration)
    (answer : UInt64 → Option UInt64) (known : TftpOptions) : Prop where
  blockSize : ∀ b, known.blockSize = some b ↔ ∃ n configured, Asks m .blockSize n ∧
    configuration.blockSizeOption = some configured ∧ b.toNat = min n configured.toNat
  timeout : ∀ t, known.timeout = some t ↔ Asks m .timeout t.toNat ∧
    ∃ configured, configuration.timeoutOption = some configured ∧ (t.toNat : ℤ) ≤ configured
  transferSize : ∀ z, known.transferSize = some z ↔
    configuration.handleTransferSizeOption = true ∧
      ∃ n, Asks m .transferSize n ∧ answer (UInt64.ofNat n) = some z

/-- **The options that are announced**: the additional ones and the accepted ones. -/
structure Announces (known : TftpOptions) (additional options : Options) : Prop where
  known : ∀ option, options.find? (tftpOptionsName option) =
    (known.number option).map stdToString
  other : ∀ name, (∀ option, name ≠ tftpOptionsName option) →
    options.find? name = additional.find? name

variable {configuration : TftpOptionsConfiguration} {known : TftpOptions}

theorem blockSize_tftpOptions {b : UInt16} :
    (tftpOptions m).1.blockSize = some b ↔ Asks m .blockSize b.toNat := by
  rw [← number_tftpOptions, TftpOptions.number, Option.map_eq_some_iff]
  constructor
  · intro h
    exact ⟨b, h, rfl⟩
  · rintro ⟨b', hb', heq⟩
    rw [hb', UInt16.toNat_inj.mp heq]

theorem timeout_tftpOptions {t : UInt8} :
    (tftpOptions m).1.timeout = some t ↔ Asks m .timeout t.toNat := by
  rw [← number_tftpOptions, TftpOptions.number, Option.map_eq_some_iff]
  constructor
  · intro h
    exact ⟨t, h, rfl⟩
  · rintro ⟨t', ht', heq⟩
    rw [ht', UInt8.toNat_inj.mp heq]

theorem transferSize_tftpOptions {z : UInt64} :
    (tftpOptions m).1.transferSize = some z ↔ ∃ n, Asks m .transferSize n ∧ z = UInt64.ofNat n := by
  constructor
  · intro h
    refine ⟨z.toNat, number_tftpOptions.mp ?_, UInt64.ofNat_toNat.symm⟩
    rw [TftpOptions.number, h]
    rfl
  · rintro ⟨n, hn, rfl⟩
    obtain ⟨z, hz, rfl⟩ := Option.map_eq_some_iff.mp (number_tftpOptions.mpr hn)
    rw [hz, UInt64.ofNat_toNat]

/-- **What the negotiation decides on** is what is accepted. -/
theorem accepts_acknowledged {answer : UInt64 → Option UInt64} {transferSize : Option UInt64}
    (hsize : ∀ z, transferSize = some z ↔ configuration.handleTransferSizeOption = true ∧
      ∃ n, Asks m .transferSize n ∧ answer (UInt64.ofNat n) = some z) :
    Accepts m configuration answer
      (acknowledged configuration (tftpOptions m).1 transferSize) where
  blockSize b := by
    constructor
    · intro h
      obtain ⟨configured, requested, hc, hr, heq⟩ := negotiatedBlockSize_eq_some h
      exact ⟨requested.toNat, configured, blockSize_tftpOptions.mp hr, hc, heq⟩
    · rintro ⟨n, configured, hasks, hc, heq⟩
      obtain ⟨requested, hr, rfl⟩ := Option.map_eq_some_iff.mp (number_tftpOptions.mpr hasks)
      obtain ⟨b', hb'⟩ : ∃ b',
          negotiatedBlockSize configuration (tftpOptions m).1 = some b' := by
        rw [negotiatedBlockSize, hc, hr]
        exact ⟨_, rfl⟩
      obtain ⟨configured', requested', hc', hr', heq'⟩ := negotiatedBlockSize_eq_some hb'
      cases hc.symm.trans hc'
      cases hr.symm.trans hr'
      exact hb'.trans (congrArg some (UInt16.toNat_inj.mp (heq'.trans heq.symm)))
  timeout t := by
    rw [← timeout_tftpOptions]
    show negotiatedTimeout configuration (tftpOptions m).1 = some t ↔ _
    rw [negotiatedTimeout]
    cases configuration.timeoutOption with
    | none => simp
    | some configured =>
      cases (tftpOptions m).1.timeout with
      | none => simp
      | some requested =>
        dsimp only
        constructor
        · intro h
          split_ifs at h with hle
          cases h
          exact ⟨rfl, configured, rfl, hle⟩
        · rintro ⟨heq, _, ⟨⟩, hle⟩
          cases heq
          rw [if_pos hle]
  transferSize := hsize

/-- The options that are sent are those that are announced. -/
theorem announces_onto (hlacks : TftpOptions.Lacks additional) :
    Announces known additional (known.onto additional) :=
  ⟨TftpOptions.find?_onto hlacks, fun _ hother => TftpOptions.find?_onto_ne hother⟩

/-- **Something is announced** if anything has been accepted, or there are additional options. -/
theorem isEmpty_onto_iff (known : TftpOptions) (hlacks : TftpOptions.Lacks additional) :
    (known.onto additional).isEmpty = true ↔ known.isSet = false ∧ additional.isEmpty = true := by
  constructor
  · intro hempty
    refine ⟨TftpOptions.isEmpty_onto hlacks hempty, SortedMap.isEmpty_iff.mpr fun name => ?_⟩
    by_cases hname : ∃ option, name = tftpOptionsName option
    · obtain ⟨option, rfl⟩ := hname
      exact hlacks option
    · rw [← TftpOptions.find?_onto_ne fun option heq => hname ⟨option, heq⟩]
      exact SortedMap.isEmpty_iff.mp hempty name
  · rintro ⟨hunset, hempty⟩
    obtain ⟨hblock, htimeout, hsize⟩ := isSet_eq_false hunset
    simp only [TftpOptions.onto, TftpOptions.number, hblock, htimeout, hsize, Option.map_none,
      Options.emplaceNumber]
    exact hempty

/-! ### The first packet -/

/-- The data handler is asked for, or told, the transfer size, or neither. -/
def SizeCalls (calls : List Action) : Prop :=
  calls = [] ∨ calls = [.requestedTransferSize] ∨ ∃ n, calls = [.receivedTransferSize n]

/-- **The request is answered**: what is accepted is announced by the first packet, or the transfer
goes on without options, and the operation uses what it has announced. -/
structure Answered {δ : Type} (m additional : Options) (configuration : TftpOptionsConfiguration)
    (answer : UInt64 → Option UInt64) (tftpTimeout : ℤ) (remote : Endpoint)
    (plain : List Action → Prop) (known : TftpOptions) (b : OperationImpl δ) (dataSize : UInt16) :
    Prop where
  accepts : Accepts m configuration answer known
  waits : b.phase = .waiting remote
  announces : known.isSet = true ∨ additional.isEmpty = false → ∃ calls options,
    SizeCalls calls ∧ Announces known additional options ∧ b.actions = .start :: (calls ++
      [.send (Packet.optionsAcknowledgement options).encode remote])
  plain : known.isSet = false → additional.isEmpty = true → ∃ calls acts,
    SizeCalls calls ∧ plain acts ∧ b.actions = .start :: (calls ++ acts)
  dataSize : dataSize = known.blockSize.getD defaultDataSize
  timeout : b.receiveTimeoutV = (known.timeout.map fun t : UInt8 => (t.toNat : ℤ)).getD tftpTimeout
  timer : b.timerV = some (.timeoutHandler, b.receiveTimeoutV)

/-- The transfer size of the request, if it is handled. -/
theorem offered_iff {handles : Bool} {z : UInt64} :
    (if handles then (tftpOptions m).1.transferSize else none) = some z ↔
      handles = true ∧ ∃ n, Asks m .transferSize n ∧ z = UInt64.ofNat n := by
  cases handles with
  | false => simp
  | true => simp [transferSize_tftpOptions]

theorem timerV_send_receive {δ : Type} [DataHandler δ] {b : OperationImpl δ} {peer : Endpoint}
    (h : b.Ready peer) (packet : Packet) :
    ((b.send {} packet).receive {}).timerV =
      some (.timeoutHandler, ((b.send {} packet).receive {}).receiveTimeoutV) := by
  rw [h.send_eq, (h.sent packet peer).receive_eq]
  rfl

namespace ReadOperationImpl

variable {δ : Type} [TransmitDataHandler δ] {s : ReadOperationImpl δ}

theorem timerV_sendData {peer : Endpoint} (h : s.Ready peer) :
    ((s.sendData {}).update (·.receive {})).timerV =
      some (.timeoutHandler, ((s.sendData {}).update (·.receive {})).receiveTimeoutV) := by
  have hnext := h.nextData_eq s.transmitDataSize.toNat
  simp only [sendData, update, hnext]
  exact timerV_send_receive (h.called _ _) _

/-- **The request to read is refused**, because it announces a size. -/
def Refuses (m : Options) (configuration : TftpOptionsConfiguration) : Prop :=
  configuration.handleTransferSizeOption = true ∧ ∃ n, Asks m .transferSize n ∧ n ≠ 0

omit [TransmitDataHandler δ] in
theorem refuses_iff (hclient : s.clientOptionsV = (tftpOptions m).1) :
    s.refuses = true ↔ Refuses m s.optionsConfigurationV := by
  rw [refuses, offeredTransferSize, hclient]
  constructor
  · intro h
    split at h
    · rename_i size hsize
      obtain ⟨hhandles, n, hasks, rfl⟩ := offered_iff.mp hsize
      refine ⟨hhandles, n, hasks, ?_⟩
      rintro rfl
      simp at h
    · cases h
  · rintro ⟨hhandles, n, hasks, hne⟩
    rw [offered_iff.mpr ⟨hhandles, n, hasks, rfl⟩]
    refine decide_eq_true fun hzero => hne ?_
    have hlt : n < 2 ^ 64 := hasks.le_max.trans_lt (optionMax_lt .transferSize)
    have hmod : (UInt64.ofNat n).toNat = 0 := by rw [hzero]; rfl
    rwa [UInt64.toNat_ofNat', Nat.mod_eq_of_lt hlt] at hmod

/-- The transfer size that the data handler is asked for, if the request asks for it. -/
def fileSize (dataHandler : δ) (requested : UInt64) : Option UInt64 :=
  if requested = 0 then
    (TransmitDataHandler.requestedTransferSize (DataHandler.start dataHandler)).1
  else none

/-- The transfer size that is announced answers the one in the request. -/
theorem announced_iff (hclient : s.clientOptionsV = (tftpOptions m).1)
    (hrefuses : s.refuses = false) {z : UInt64} :
    s.announced.1 = some z ↔ s.optionsConfigurationV.handleTransferSizeOption = true ∧
      ∃ n, Asks m .transferSize n ∧ fileSize s.dataHandlerV (UInt64.ofNat n) = some z := by
  rw [refuses] at hrefuses
  rw [announced]
  rcases hoffered : s.offeredTransferSize with _ | size
  · refine iff_of_false (by rintro ⟨⟩) ?_
    rintro ⟨hhandles, n, hasks, -⟩
    rw [offeredTransferSize, hclient, offered_iff.mpr ⟨hhandles, n, hasks, rfl⟩] at hoffered
    cases hoffered
  · have hzero : size = 0 := by simpa [hoffered] using hrefuses
    have hasked := hoffered
    rw [offeredTransferSize, hclient, offered_iff] at hasked
    obtain ⟨hhandles, n, hasks, heq⟩ := hasked
    constructor
    · intro h
      refine ⟨hhandles, n, hasks, ?_⟩
      rw [fileSize, ← heq, if_pos hzero]
      exact h
    · rintro ⟨-, n', -, h⟩
      rw [fileSize] at h
      split_ifs at h
      exact h

/-- The data handler is asked for the size of the file at most. -/
theorem sizeCalls_announced (s : ReadOperationImpl δ) : SizeCalls s.announced.2.2 := by
  rw [announced]
  split
  · exact Or.inr (Or.inl rfl)
  · exact Or.inl rfl

/-- **A request to read that is not refused is answered.** -/
theorem answered (h : s.Idle) (hactions : s.actions = [])
    (hclient : s.clientOptionsV = (tftpOptions m).1)
    (hlacks : TftpOptions.Lacks s.additionalNegotiatedOptionsV)
    (hsize : s.transmitDataSize = defaultDataSize) (hblock : s.lastTransmittedBlockNumber = 0)
    (hrefuses : s.refuses = false) :
    ∃ known, Answered m s.additionalNegotiatedOptionsV s.optionsConfigurationV
      (fileSize s.dataHandlerV) s.receiveTimeoutV s.remoteV
      (fun acts => ∃ data, acts = [.sendData defaultDataSize.toNat data,
        .send (Packet.data 1 data).encode s.remoteV]) known (s.start {}).toOperationImpl
          (s.start {}).transmitDataSize := by
  have haccepts := accepts_acknowledged (fun z => announced_iff (z := z) hclient hrefuses)
  rw [← hclient] at haccepts
  have hacknowledged := acknowledgedOptions_eq s
  have htimer : (s.start {}).timerV =
      some (.timeoutHandler, (s.start {}).receiveTimeoutV) := by
    rw [start_eq h, if_neg (Bool.eq_false_iff.mp hrefuses), answer]
    split_ifs
    · exact timerV_send_receive (ready_accepted h) _
    · exact timerV_sendData (ready_accepted h)
  have hempty := isEmpty_onto_iff
    (acknowledged s.optionsConfigurationV s.clientOptionsV s.announced.1) hlacks
  rw [← hacknowledged] at hempty
  refine ⟨acknowledged s.optionsConfigurationV s.clientOptionsV s.announced.1, ?_⟩
  rcases hoptions : s.acknowledgedOptions.isEmpty with _ | _
  · -- the options are acknowledged
    obtain ⟨-, hphase, hact, hview⟩ := start_acknowledges h hrefuses hoptions
    have hdata := congrArg SenderView.dataSize hview
    have htime := congrArg SenderView.timeout hview
    refine ⟨haccepts, hphase, fun _ => ⟨s.announced.2.2, s.acknowledgedOptions,
      sizeCalls_announced s, ?_, ?_⟩, fun hunset hnone => ?_, ?_, htime, htimer⟩
    · rw [hacknowledged]
      exact announces_onto hlacks
    · rw [hact, hactions]
      rfl
    · exact absurd (hempty.mpr ⟨hunset, hnone⟩) (Bool.eq_false_iff.mp hoptions)
    · rw [← hsize]
      exact hdata
  · -- the first block is sent
    obtain ⟨-, hphase, hact, hview⟩ := start_sends h hrefuses hoptions
    obtain ⟨hunset, hnone⟩ := hempty.mp hoptions
    have hdata := congrArg SenderView.dataSize hview
    have htime := congrArg SenderView.timeout hview
    refine ⟨haccepts, hphase, fun hset => ?_, fun _ _ => ⟨s.announced.2.2, _,
      sizeCalls_announced s, ⟨s.accepted.view.block, rfl⟩, ?_⟩, ?_, htime, htimer⟩
    · rw [hunset, hnone] at hset
      simp at hset
    · have hdefault : s.accepted.view.dataSize = defaultDataSize := by
        rw [← hsize]
        show (negotiatedBlockSize s.optionsConfigurationV s.clientOptionsV).getD _ = _
        rw [show negotiatedBlockSize s.optionsConfigurationV s.clientOptionsV = none from
          (isSet_eq_false hunset).1]
        rfl
      have htransmitted : s.accepted.view.transmitted = 0 := hblock
      rw [hact, hactions, SenderView.sending, hdefault, htransmitted]
      rfl
    · rw [← hsize]
      exact hdata

end ReadOperationImpl

namespace WriteOperationImpl

variable {δ : Type} [ReceiveDataHandler δ] {s : WriteOperationImpl δ}

/-- **The request to write is refused**, because the data handler does not accept the size. -/
def Refuses (m : Options) (configuration : TftpOptionsConfiguration) (dataHandler : δ) : Prop :=
  configuration.handleTransferSizeOption = true ∧ ∃ n, Asks m .transferSize n ∧
    (ReceiveDataHandler.receivedTransferSize (DataHandler.start dataHandler)
      (UInt64.ofNat n)).1 = false

/-- Telling the data handler the size of a request: it refuses, or nobody does. -/
theorem offer_cases (h : s.Idle) (hclient : s.clientOptionsV = (tftpOptions m).1) :
    ∃ accepted state calls, (OperationImpl.connected s.toOperationImpl
        s.negotiatedReceiveTimeout).offerTransferSize s.offeredTransferSize =
      (accepted, (OperationImpl.connected s.toOperationImpl s.negotiatedReceiveTimeout).called state
        calls) ∧ SizeCalls calls ∧
      (accepted = false ↔ Refuses m s.optionsConfigurationV s.dataHandlerV) := by
  have hc := OperationImpl.ready_connected h s.negotiatedReceiveTimeout
  rcases hoffered : s.offeredTransferSize with _ | z
  · refine ⟨true, (OperationImpl.connected s.toOperationImpl
      s.negotiatedReceiveTimeout).dataHandlerV, [], ?_, Or.inl rfl, iff_of_false (by rintro ⟨⟩) ?_⟩
    · rw [Tftp.OperationImpl.called_nil]
      rfl
    · rintro ⟨hhandles, n, hasks, -⟩
      rw [offeredTransferSize, hclient, offered_iff.mpr ⟨hhandles, n, hasks, rfl⟩] at hoffered
      cases hoffered
  · rw [offeredTransferSize, hclient, offered_iff] at hoffered
    obtain ⟨hhandles, n, hasks, rfl⟩ := hoffered
    refine ⟨_, _, _, hc.receivedTransferSize_eq (UInt64.ofNat n), Or.inr (Or.inr ⟨_, rfl⟩), ?_⟩
    constructor
    · exact fun hrefused => ⟨hhandles, n, hasks, hrefused⟩
    · rintro ⟨-, n', hasks', hrefused⟩
      -- the request asks for one size only
      have hsame : some n = some n' := (asks_iff.mp hasks).symm.trans (asks_iff.mp hasks')
      rw [Option.some.inj hsame]
      exact hrefused

/-- **A request to write that is refused** is answered with an ERROR packet. -/
theorem refused (h : s.Idle) (hactions : s.actions = [])
    (hclient : s.clientOptionsV = (tftpOptions m).1)
    (hrefuses : Refuses m s.optionsConfigurationV s.dataHandlerV) :
    (s.start {}).phase = .done ∧ ∃ calls, SizeCalls calls ∧
      (s.start {}).actions = .start :: (calls ++ .send (Packet.error .diskFullOrAllocationExceeds
        (ascii "File to big")).encode s.remoteV :: s.completion .transferError) := by
  obtain ⟨accepted, state, calls, heq, hcalls, hiff⟩ := offer_cases h hclient
  obtain rfl := hiff.mpr hrefuses
  obtain ⟨-, hphase, hact, -⟩ := ((OperationImpl.ready_connected h
    s.negotiatedReceiveTimeout).called state calls).reject .diskFullOrAllocationExceeds
      "File to big" .transferError
  rw [start_eq h]
  simp only [heq, Bool.false_eq_true, if_false]
  refine ⟨hphase, calls, hcalls, hact.trans ?_⟩
  rw [Tftp.OperationImpl.called_actions, OperationImpl.connected, hactions, List.append_assoc]
  rfl

/-- **A request to write that is not refused is answered.** -/
theorem answered (h : s.Idle) (hactions : s.actions = [])
    (hclient : s.clientOptionsV = (tftpOptions m).1)
    (hlacks : TftpOptions.Lacks s.additionalNegotiatedOptionsV)
    (hsize : s.receiveDataSize = defaultDataSize)
    (hrefuses : ¬ Refuses m s.optionsConfigurationV s.dataHandlerV) :
    ∃ known, Answered m s.additionalNegotiatedOptionsV s.optionsConfigurationV some
      s.receiveTimeoutV s.remoteV
      (· = [.send (Packet.acknowledgement 0).encode s.remoteV]) known (s.start {}).toOperationImpl
        (s.start {}).receiveDataSize := by
  obtain ⟨accepted, state, calls, heq, hcalls, hiff⟩ := offer_cases h hclient
  obtain rfl : accepted = true := by
    cases accepted with
    | true => rfl
    | false => exact absurd (hiff.mp rfl) hrefuses
  have hready := (OperationImpl.ready_connected h s.negotiatedReceiveTimeout).called state calls
  obtain ⟨-, hphase, hact, -, -, hsame⟩ := hready.sendAndReceive s.firstPacket
  have htimer := timerV_send_receive hready s.firstPacket
  have haccepts : Accepts m s.optionsConfigurationV some
      (acknowledged s.optionsConfigurationV s.clientOptionsV s.offeredTransferSize) := by
    rw [hclient]
    refine accepts_acknowledged fun z => ?_
    rw [offeredTransferSize, hclient, offered_iff]
    simp only [Option.some.injEq, eq_comm]
  have hacknowledged := acknowledgedOptions_eq s
  have hempty := isEmpty_onto_iff
    (acknowledged s.optionsConfigurationV s.clientOptionsV s.offeredTransferSize) hlacks
  rw [← hacknowledged] at hempty
  have hbefore : ((OperationImpl.connected s.toOperationImpl
      s.negotiatedReceiveTimeout).called state calls).actions = .start :: calls := by
    rw [Tftp.OperationImpl.called_actions, OperationImpl.connected, hactions]
    rfl
  rw [hbefore] at hact
  refine ⟨acknowledged s.optionsConfigurationV s.clientOptionsV s.offeredTransferSize, ?_⟩
  rw [start_eq h]
  simp only [heq, if_true]
  refine ⟨haccepts, hphase, fun hset => ⟨calls, s.acknowledgedOptions, hcalls, ?_, ?_⟩,
    fun hunset hnone => ⟨calls, _, hcalls, rfl, ?_⟩, ?_, ?_, htimer⟩
  · rw [hacknowledged]
    exact announces_onto hlacks
  · have hoptions : ¬ s.acknowledgedOptions.isEmpty = true := by
      rw [hempty]
      rintro ⟨hunset, hnone⟩
      rw [hunset, hnone] at hset
      simp at hset
    refine hact.trans ?_
    rw [firstPacket, if_neg hoptions]
    rfl
  · refine hact.trans ?_
    rw [firstPacket, if_pos (hempty.mpr ⟨hunset, hnone⟩)]
    rfl
  · rw [hsize]
    rfl
  · exact hsame.timeout

end WriteOperationImpl

/-- **What the server announces is what it uses, and what was asked for**: the user gets all other
options, the first packet announces what is accepted, and the operation uses it, unless the request
is refused because of its transfer size. -/
theorem announced_is_used (δ ε : Type) [TransmitDataHandler δ] [ReceiveDataHandler ε]
    (m additional : Options) (hlacks : TftpOptions.Lacks additional) :
    ((∀ option, (tftpOptions m).2.find? (tftpOptionsName option) = none) ∧
      ∀ name, (∀ option, name ≠ tftpOptionsName option) →
        (tftpOptions m).2.find? name = m.find? name) ∧
    (∀ settings : Settings δ, settings.clientOptions = (tftpOptions m).1 →
      settings.additionalNegotiatedOptions = additional →
      ∃ s', s' = (ReadOperationImpl.configured settings).start {} ∧
        (ReadOperationImpl.Refuses m settings.optionsConfiguration → s'.phase = .done ∧
          s'.actions = .start :: .send (Packet.error .tftpOptionRefused
            (ascii "transfer size must be 0")).encode settings.remote ::
              Action.completion settings.completionHandler .transferError) ∧
        (¬ ReadOperationImpl.Refuses m settings.optionsConfiguration →
          ∃ known, Answered m additional settings.optionsConfiguration
            (ReadOperationImpl.fileSize settings.dataHandler) settings.tftpTimeout settings.remote
            (fun acts => ∃ data, acts = [.sendData defaultDataSize.toNat data,
              .send (Packet.data 1 data).encode settings.remote])
            known s'.toOperationImpl s'.transmitDataSize)) ∧
    (∀ settings : Settings ε, settings.clientOptions = (tftpOptions m).1 →
      settings.additionalNegotiatedOptions = additional →
      ∃ s', s' = (WriteOperationImpl.configured settings).start {} ∧
        (WriteOperationImpl.Refuses m settings.optionsConfiguration settings.dataHandler →
          s'.phase = .done ∧ ∃ calls, SizeCalls calls ∧
            s'.actions = .start :: (calls ++ .send (Packet.error .diskFullOrAllocationExceeds
              (ascii "File to big")).encode settings.remote ::
                Action.completion settings.completionHandler .transferError)) ∧
        (¬ WriteOperationImpl.Refuses m settings.optionsConfiguration settings.dataHandler →
          ∃ known, Answered m additional settings.optionsConfiguration some settings.tftpTimeout
            settings.remote (· = [.send (Packet.acknowledgement 0).encode settings.remote])
            known s'.toOperationImpl s'.receiveDataSize)) := by
  refine ⟨find?_tftpOptions m, fun settings hclient hadditional => ⟨_, rfl, ?_, ?_⟩,
    fun settings hclient hadditional => ⟨_, rfl, ?_, ?_⟩⟩
  · intro hrefuses
    have hidle := ReadOperationImpl.idle_configured settings
    obtain ⟨-, hphase, hact, -⟩ := ReadOperationImpl.start_refused hidle
      ((ReadOperationImpl.refuses_iff hclient).mpr hrefuses)
    exact ⟨hphase, hact⟩
  · intro hrefuses
    have hnot := mt (ReadOperationImpl.refuses_iff (s := ReadOperationImpl.configured settings)
      hclient).mp hrefuses
    subst hadditional
    exact ReadOperationImpl.answered (ReadOperationImpl.idle_configured settings) rfl hclient hlacks
      rfl rfl (Bool.eq_false_iff.mpr hnot)
  · exact WriteOperationImpl.refused (WriteOperationImpl.idle_configured settings) rfl hclient
  · subst hadditional
    exact WriteOperationImpl.answered (WriteOperationImpl.idle_configured settings) rfl hclient
      hlacks rfl

/-- Of a request for blocks of 1024 bytes, as much is accepted as is configured. -/
theorem announced_is_used_700 :
    ((ReadOperationImpl.configured
      { optionsConfiguration := { blockSizeOption := some 700 }
        clientOptions := (tftpOptions (Options.blockSizeText "1024")).1
        dataHandler := MemoryFile.empty }).start {}).transmitDataSize = 700 := by
  obtain ⟨-, hread, -⟩ := announced_is_used MemoryFile MemoryFile (Options.blockSizeText "1024")
    SortedMap.empty TftpOptions.lacks_empty
  obtain ⟨_, rfl, -, hanswered⟩ := hread
    { optionsConfiguration := { blockSizeOption := some 700 }
      clientOptions := (tftpOptions (Options.blockSizeText "1024")).1
      dataHandler := MemoryFile.empty } rfl rfl
  obtain ⟨known, hknown⟩ := hanswered (by rintro ⟨⟨⟩, -⟩)
  have hasks : Asks (Options.blockSizeText "1024") .blockSize 1024 :=
    asks_iff.mpr (by decide +kernel)
  have haccepted : known.blockSize = some 700 :=
    (hknown.accepts.blockSize 700).mpr ⟨1024, 700, hasks, rfl, rfl⟩
  rw [hknown.dataSize, haccepted]
  rfl

end Tftp.Servers
