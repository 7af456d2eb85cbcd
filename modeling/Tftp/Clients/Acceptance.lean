import Tftp.Clients.OperationImpl

/-!
# Which acknowledgements answer a request

The checks of an acknowledgement of options are made one after the other, each on what the ones
before have left of the map. Taken together they ask what the map itself says on each option
(`Tftp.Clients.Answers`): every check passes if and only if its own part of the answer is right,
and in the end nothing is left if and only if only known options were there.
-/

namespace Tftp

namespace Clients

/-- The block size that is acknowledged, if there is one, is in range and not greater than the
configured one. -/
def AnswersBlockSize (configuration : TftpOptionsConfiguration) (m : Options) : Prop :=
  (m.find? (tftpOptionsName .blockSize)).isSome → ∃ n configured,
    (m.getOption 16 (tftpOptionsName .blockSize) blockSizeOptionMin blockSizeOptionMax).1 =
      (true, some n) ∧
    configuration.blockSizeOption = some configured ∧ blockSizeOptionMin ≤ n ∧
      n ≤ configured.toNat

/-- The timeout that is acknowledged, if there is one, is in range and the configured one. -/
def AnswersTimeout (configuration : TftpOptionsConfiguration) (m : Options) : Prop :=
  (m.find? (tftpOptionsName .timeout)).isSome → ∃ n,
    (m.getOption 8 (tftpOptionsName .timeout) timeoutOptionMin timeoutOptionMax).1 =
      (true, some n) ∧
    timeoutOptionMin ≤ n ∧ n ≤ timeoutOptionMax ∧ configuration.timeoutOption = some (n : ℤ)

/-- The transfer size that is acknowledged, if there is one, is a number that is acceptable. -/
def AnswersTransferSize (acceptable : UInt64 → Prop) (m : Options) : Prop :=
  (m.find? (tftpOptionsName .transferSize)).isSome → ∃ n,
    (m.getOption 64 (tftpOptionsName .transferSize) 0 ullongMax).1 = (true, some n) ∧
      acceptable (UInt64.ofNat n)

/-- **An acknowledgement that answers the request**: it says something, and only on known options
that stand in the request, and every value is one that the client can take over. -/
structure Answers (configuration : TftpOptionsConfiguration) (request : Options)
    (acceptable : UInt64 → Prop) (m : Options) : Prop where
  nonempty : m.isEmpty = false
  known : ∀ name, (m.find? name).isSome → ∃ option, name = tftpOptionsName option
  requested : ∀ name, (m.find? name).isSome → (request.find? name).isSome
  blockSize : AnswersBlockSize configuration m
  timeout : AnswersTimeout configuration m
  transferSize : AnswersTransferSize acceptable m

/-- The block size that is acknowledged. -/
def acknowledgedBlockSize (m : Options) : Option UInt16 :=
  (m.getOption 16 (tftpOptionsName .blockSize) blockSizeOptionMin
    blockSizeOptionMax).1.2.map UInt16.ofNat

/-- The timeout that is acknowledged. -/
def acknowledgedTimeout (m : Options) : Option ℤ :=
  (m.getOption 8 (tftpOptionsName .timeout) timeoutOptionMin
    timeoutOptionMax).1.2.map fun n => (n : ℤ)

/-- The transfer size that is acknowledged. -/
def acknowledgedTransferSize (m : Options) : Option UInt64 :=
  (m.getOption 64 (tftpOptionsName .transferSize) 0 ullongMax).1.2.map UInt64.ofNat

variable {configuration : TftpOptionsConfiguration} {m m' remaining : Options}

/-- **The check of the block size** passes if and only if it answers the request. -/
theorem negotiateBlockSize_iff :
    (∃ result, negotiateBlockSize configuration m = .ok result) ↔
      AnswersBlockSize configuration m := by
  rcases hg : m.getOption 16 (tftpOptionsName .blockSize) blockSizeOptionMin blockSizeOptionMax
    with ⟨⟨valid, found⟩, rest⟩
  rw [negotiateBlockSize, AnswersBlockSize]
  simp only [hg]
  rcases hfind : m.find? (tftpOptionsName .blockSize) with _ | text
  · rw [Options.getOption_absent hfind] at hg
    cases hg
    cases configuration.blockSizeOption <;> simp
  · have hdecoded := Options.getOption_decoded 16 blockSizeOptionMin blockSizeOptionMax
      (Option.isSome_of_eq_some hfind) (by decide)
    rw [hg] at hdecoded
    rcases hdecoded with heq | ⟨n, heq, hmin, -⟩
    · cases heq
      cases configuration.blockSizeOption <;> simp
    · cases heq
      cases configuration.blockSizeOption with
      | none => simp
      | some configured =>
        by_cases hle : n ≤ configured.toNat
        · simp [hmin, hle, not_lt.mpr hle]
        · simp [hle, not_le.mp hle]

/-- **The check of the timeout** passes if and only if it answers the request. -/
theorem negotiateTimeout_iff :
    (∃ result, negotiateTimeout configuration m = .ok result) ↔ AnswersTimeout configuration m := by
  rcases hg : m.getOption 8 (tftpOptionsName .timeout) timeoutOptionMin timeoutOptionMax
    with ⟨⟨valid, found⟩, rest⟩
  rw [negotiateTimeout, AnswersTimeout]
  simp only [hg]
  rcases hfind : m.find? (tftpOptionsName .timeout) with _ | text
  · rw [Options.getOption_absent hfind] at hg
    cases hg
    cases configuration.timeoutOption <;> simp
  · have hdecoded := Options.getOption_decoded 8 timeoutOptionMin timeoutOptionMax
      (Option.isSome_of_eq_some hfind) (by decide)
    rw [hg] at hdecoded
    rcases hdecoded with heq | ⟨n, heq, hmin, hmax⟩
    · cases heq
      cases configuration.timeoutOption <;> simp
    · cases heq
      cases configuration.timeoutOption with
      | none => simp
      | some configured =>
        by_cases hsame : (n : ℤ) = configured
        · simp [hmin, hmax, hsame]
        · simp [hsame, Ne.symm hsame]

/-- **The check of the transfer size** passes if and only if it is a number that was asked for. -/
theorem negotiateTransferSize_iff {expected : Bool} :
    (∃ result, negotiateTransferSize expected m = .ok result) ↔
      ((m.find? (tftpOptionsName .transferSize)).isSome → expected = true ∧ ∃ n,
        (m.getOption 64 (tftpOptionsName .transferSize) 0 ullongMax).1 = (true, some n)) := by
  rcases hg : m.getOption 64 (tftpOptionsName .transferSize) 0 ullongMax
    with ⟨⟨valid, found⟩, rest⟩
  rw [negotiateTransferSize]
  simp only [hg]
  rcases hfind : m.find? (tftpOptionsName .transferSize) with _ | text
  · rw [Options.getOption_absent hfind] at hg
    cases hg
    simp
  · have hdecoded := Options.getOption_decoded 64 0 ullongMax
      (Option.isSome_of_eq_some hfind) (by decide)
    rw [hg] at hdecoded
    rcases hdecoded with heq | ⟨n, heq, -⟩
    · cases heq
      simp
    · cases heq
      cases expected <;> simp

/-! ### One check after the other -/

/-- The value taken over is the one in the acknowledgement. -/
theorem negotiateTimeout_ok {value : Option ℤ}
    (h : negotiateTimeout configuration m = .ok (value, remaining)) :
    value = acknowledgedTimeout m ∧
      remaining =
        (m.getOption 8 (tftpOptionsName .timeout) timeoutOptionMin timeoutOptionMax).2 := by
  rw [negotiateTimeout] at h
  rw [acknowledgedTimeout]
  rcases hg : m.getOption 8 (tftpOptionsName .timeout) timeoutOptionMin timeoutOptionMax
    with ⟨⟨valid, found⟩, rest⟩
  simp only [hg] at h ⊢
  rcases hc : configuration.timeoutOption with _ | configured <;> rcases found with _ | found <;>
    rw [hc] at h
  -- an option that was not asked for is rejected
  case none.some => cases h
  all_goals
    dsimp only at h
    split_ifs at h
    cases h
    exact ⟨rfl, rfl⟩

/-- The value taken over is the one in the acknowledgement. -/
theorem negotiateTransferSize_ok {expected : Bool} {value : Option UInt64}
    (h : negotiateTransferSize expected m = .ok (value, remaining)) :
    value = acknowledgedTransferSize m ∧
      remaining = (m.getOption 64 (tftpOptionsName .transferSize) 0 ullongMax).2 := by
  rw [negotiateTransferSize] at h
  rw [acknowledgedTransferSize]
  rcases hg : m.getOption 64 (tftpOptionsName .transferSize) 0 ullongMax
    with ⟨⟨valid, found⟩, rest⟩
  simp only [hg] at h ⊢
  split_ifs at h
  cases h
  exact ⟨rfl, rfl⟩

/-- The check of the timeout is about the timeout. -/
theorem answersTimeout_congr
    (h : m.find? (tftpOptionsName .timeout) = m'.find? (tftpOptionsName .timeout)) :
    AnswersTimeout configuration m ↔ AnswersTimeout configuration m' := by
  rw [AnswersTimeout, AnswersTimeout, h, Options.getOption_congr h]

theorem acknowledgedTimeout_congr
    (h : m.find? (tftpOptionsName .timeout) = m'.find? (tftpOptionsName .timeout)) :
    acknowledgedTimeout m = acknowledgedTimeout m' := by
  rw [acknowledgedTimeout, acknowledgedTimeout, Options.getOption_congr h]

theorem acknowledgedTransferSize_congr
    (h : m.find? (tftpOptionsName .transferSize) = m'.find? (tftpOptionsName .transferSize)) :
    acknowledgedTransferSize m = acknowledgedTransferSize m' := by
  rw [acknowledgedTransferSize, acknowledgedTransferSize, Options.getOption_congr h]

/-- What the checks ask of the map, all together. -/
structure Fits (configuration : TftpOptionsConfiguration) (expected : Bool) (m : Options) :
    Prop where
  blockSize : AnswersBlockSize configuration m
  timeout : AnswersTimeout configuration m
  transferSize : (m.find? (tftpOptionsName .transferSize)).isSome → expected = true ∧ ∃ n,
    (m.getOption 64 (tftpOptionsName .transferSize) 0 ullongMax).1 = (true, some n)

/-- **How far the checks get**: to the first one that rejects its option, or through all of them,
and then the other options are left. -/
inductive Checked (configuration : TftpOptionsConfiguration) (expected : Bool) (m : Options) :
    Prop where
  | blockSize (rejection : Rejection)
      (hblock : negotiateBlockSize configuration m = .error rejection)
      (hfits : ¬ Fits configuration expected m)
  | timeout (m₁ : Options) (rejection : Rejection)
      (hblock : negotiateBlockSize configuration m = .ok (acknowledgedBlockSize m, m₁))
      (htimeout : negotiateTimeout configuration m₁ = .error rejection)
      (hfits : ¬ Fits configuration expected m)
  | transferSize (m₁ m₂ : Options) (rejection : Rejection)
      (hblock : negotiateBlockSize configuration m = .ok (acknowledgedBlockSize m, m₁))
      (htimeout : negotiateTimeout configuration m₁ = .ok (acknowledgedTimeout m, m₂))
      (hsize : negotiateTransferSize expected m₂ = .error rejection)
      (hfits : ¬ Fits configuration expected m)
  | passed (m₁ m₂ m₃ : Options)
      (hblock : negotiateBlockSize configuration m = .ok (acknowledgedBlockSize m, m₁))
      (htimeout : negotiateTimeout configuration m₁ = .ok (acknowledgedTimeout m, m₂))
      (hsize : negotiateTransferSize expected m₂ = .ok (acknowledgedTransferSize m, m₃))
      (hfits : Fits configuration expected m)
      (hleft : m₃.isEmpty = true ↔
        ∀ name, (m.find? name).isSome → ∃ option, name = tftpOptionsName option)

/-- Nothing is left without the known options if and only if there was nothing else. -/
theorem isEmpty_left {m₁ m₂ m₃ : Options}
    (h₁ : ∀ name, m₁.find? name =
      if name = tftpOptionsName .blockSize then none else m.find? name)
    (h₂ : ∀ name, m₂.find? name =
      if name = tftpOptionsName .timeout then none else m₁.find? name)
    (h₃ : ∀ name, m₃.find? name =
      if name = tftpOptionsName .transferSize then none else m₂.find? name) :
    m₃.isEmpty = true ↔
      ∀ name, (m.find? name).isSome → ∃ option, name = tftpOptionsName option := by
  rw [Protocol.SortedMap.isEmpty_iff]
  constructor
  · intro hempty name hsome
    by_contra hunknown
    have hnone := hempty name
    rw [h₃, if_neg fun h => hunknown ⟨_, h⟩, h₂, if_neg fun h => hunknown ⟨_, h⟩, h₁,
      if_neg fun h => hunknown ⟨_, h⟩] at hnone
    rw [hnone] at hsome
    cases hsome
  · intro hknown name
    rw [h₃, h₂, h₁]
    split_ifs with hsize htimeout hblock
    iterate 3 rfl
    refine Option.not_isSome_iff_eq_none.mp fun hsome => ?_
    obtain ⟨option, rfl⟩ := hknown name hsome
    cases option with
    | blockSize => exact hblock rfl
    | timeout => exact htimeout rfl
    | transferSize => exact hsize rfl

theorem checked (configuration : TftpOptionsConfiguration) (expected : Bool) (m : Options) :
    Checked configuration expected m := by
  have hnotOk {ε α : Type} {e : ε} : ¬ ∃ result : α, Except.error e = .ok result := by
    rintro ⟨_, ⟨⟩⟩
  have hblockIff : _ ↔ AnswersBlockSize configuration m := negotiateBlockSize_iff
  rcases hblock : negotiateBlockSize configuration m with rejection | ⟨value₁, m₁⟩
  · refine .blockSize rejection hblock fun hfits => ?_
    rw [hblock] at hblockIff
    exact hnotOk (hblockIff.mpr hfits.blockSize)
  obtain ⟨rfl, hm₁⟩ := negotiateBlockSize_ok hblock
  have hfind₁ : ∀ name, m₁.find? name =
      if name = tftpOptionsName .blockSize then none else m.find? name := by
    intro name
    rw [hm₁, Options.find?_getOption]
  -- the check of the timeout sees the timeout of the acknowledgement
  have hsame₁ : m₁.find? (tftpOptionsName .timeout) = m.find? (tftpOptionsName .timeout) := by
    rw [hfind₁, if_neg (TftpOptions.tftpOptionsName_ne (by decide))]
  have htimeoutIff : _ ↔ AnswersTimeout configuration m₁ := negotiateTimeout_iff
  rw [answersTimeout_congr hsame₁] at htimeoutIff
  rcases htimeout : negotiateTimeout configuration m₁ with rejection | ⟨value₂, m₂⟩
  · refine .timeout m₁ rejection hblock htimeout fun hfits => ?_
    rw [htimeout] at htimeoutIff
    exact hnotOk (htimeoutIff.mpr hfits.timeout)
  obtain ⟨hvalue₂, hm₂⟩ := negotiateTimeout_ok htimeout
  obtain rfl := hvalue₂.trans (acknowledgedTimeout_congr hsame₁)
  have hfind₂ : ∀ name, m₂.find? name =
      if name = tftpOptionsName .timeout then none else m₁.find? name := by
    intro name
    rw [hm₂, Options.find?_getOption]
  -- and so does the check of the transfer size
  have hsame₂ : m₂.find? (tftpOptionsName .transferSize) =
      m.find? (tftpOptionsName .transferSize) := by
    rw [hfind₂, if_neg (TftpOptions.tftpOptionsName_ne (by decide)), hfind₁,
      if_neg (TftpOptions.tftpOptionsName_ne (by decide))]
  have hsizeIff : (∃ result, negotiateTransferSize expected m₂ = .ok result) ↔ _ :=
    negotiateTransferSize_iff
  rw [hsame₂, Options.getOption_congr hsame₂] at hsizeIff
  rcases hsize : negotiateTransferSize expected m₂ with rejection | ⟨value₃, m₃⟩
  · refine .transferSize m₁ m₂ rejection hblock htimeout hsize fun hfits => ?_
    rw [hsize] at hsizeIff
    exact hnotOk (hsizeIff.mpr hfits.transferSize)
  obtain ⟨hvalue₃, hm₃⟩ := negotiateTransferSize_ok hsize
  obtain rfl := hvalue₃.trans (acknowledgedTransferSize_congr hsame₂)
  exact .passed m₁ m₂ m₃ hblock htimeout hsize
    ⟨hblockIff.mp ⟨_, hblock⟩, htimeoutIff.mp ⟨_, htimeout⟩, hsizeIff.mp ⟨_, hsize⟩⟩
    (isEmpty_left hfind₁ hfind₂ fun name => by rw [hm₃, Options.find?_getOption])

/-! ### The request -/

/-- The known options that stand in a request. -/
structure Requests (configuration : TftpOptionsConfiguration) (expected : Bool)
    (request : Options) : Prop where
  blockSize : (request.find? (tftpOptionsName .blockSize)).isSome =
    configuration.blockSizeOption.isSome
  timeout : (request.find? (tftpOptionsName .timeout)).isSome = configuration.timeoutOption.isSome
  transferSize : (request.find? (tftpOptionsName .transferSize)).isSome = expected

/-- Without additional options, the block size and the timeout are requested if they are
configured, and nothing else. -/
theorem find?_requestOptions (configuration : TftpOptionsConfiguration) :
    ((requestOptions Protocol.SortedMap.empty configuration).find?
      (tftpOptionsName .blockSize)).isSome = configuration.blockSizeOption.isSome ∧
    ((requestOptions Protocol.SortedMap.empty configuration).find?
      (tftpOptionsName .timeout)).isSome = configuration.timeoutOption.isSome ∧
    (requestOptions Protocol.SortedMap.empty configuration).find?
      (tftpOptionsName .transferSize) = none := by
  obtain ⟨_, blockSizeOption, timeoutOption⟩ := configuration
  have htb : tftpOptionsName .timeout ≠ tftpOptionsName .blockSize :=
    TftpOptions.tftpOptionsName_ne (by decide)
  have hzb : tftpOptionsName .transferSize ≠ tftpOptionsName .blockSize :=
    TftpOptions.tftpOptionsName_ne (by decide)
  have hzt : tftpOptionsName .transferSize ≠ tftpOptionsName .timeout :=
    TftpOptions.tftpOptionsName_ne (by decide)
  cases blockSizeOption <;> cases timeoutOption <;>
    simp [requestOptions, Protocol.SortedMap.find?_emplace, htb, htb.symm, hzb, hzt]

/-- A request with or without the transfer size. -/
theorem requests_requestOptions (configuration : TftpOptionsConfiguration) :
    Requests configuration false (requestOptions Protocol.SortedMap.empty configuration) ∧
      ∀ text, Requests configuration true
        ((requestOptions Protocol.SortedMap.empty configuration).emplace
          (tftpOptionsName .transferSize) text) := by
  obtain ⟨hblock, htimeout, hsize⟩ := find?_requestOptions configuration
  refine ⟨⟨hblock, htimeout, by rw [hsize]; rfl⟩, fun text => ⟨?_, ?_, ?_⟩⟩
  · rw [Protocol.SortedMap.find?_emplace, if_neg (TftpOptions.tftpOptionsName_ne (by decide)),
      Option.or_none, hblock]
  · rw [Protocol.SortedMap.find?_emplace, if_neg (TftpOptions.tftpOptionsName_ne (by decide)),
      Option.or_none, htimeout]
  · rw [Protocol.SortedMap.find?_emplace, hsize, if_pos rfl]
    rfl

/-- **What the checks, the rest of the map and the transfer size have to be** for an acknowledgement
that answers the request. -/
theorem answers_iff {expected : Bool} {request : Options} {acceptable : UInt64 → Prop}
    (hrequest : Requests configuration expected request) :
    Answers configuration request acceptable m ↔
      m.isEmpty = false ∧ Fits configuration expected m ∧
        (∀ name, (m.find? name).isSome → ∃ option, name = tftpOptionsName option) ∧
          ∀ n, acknowledgedTransferSize m = some n → acceptable n := by
  constructor
  · intro h
    refine ⟨h.nonempty, ⟨h.blockSize, h.timeout, fun hsome => ?_⟩, h.known, fun n hn => ?_⟩
    · obtain ⟨n, hn, -⟩ := h.transferSize hsome
      rw [← hrequest.transferSize]
      exact ⟨h.requested _ hsome, n, hn⟩
    · by_cases hsome : (m.find? (tftpOptionsName .transferSize)).isSome
      · obtain ⟨n', hn', hacceptable⟩ := h.transferSize hsome
        rw [acknowledgedTransferSize, hn'] at hn
        cases hn
        exact hacceptable
      · rw [acknowledgedTransferSize,
          Options.getOption_absent (Option.not_isSome_iff_eq_none.mp hsome)] at hn
        cases hn
  · rintro ⟨hnonempty, hfits, hknown, hacceptable⟩
    refine ⟨hnonempty, hknown, fun name hsome => ?_, hfits.blockSize, hfits.timeout,
      fun hsome => ?_⟩
    · obtain ⟨option, rfl⟩ := hknown name hsome
      cases option with
      | blockSize =>
        obtain ⟨n, configured, -, hconfigured, -⟩ := hfits.blockSize hsome
        rw [hrequest.blockSize, hconfigured]
        rfl
      | timeout =>
        obtain ⟨n, -, -, -, hconfigured⟩ := hfits.timeout hsome
        rw [hrequest.timeout, hconfigured]
        rfl
      | transferSize =>
        rw [hrequest.transferSize]
        exact (hfits.transferSize hsome).1
    · obtain ⟨-, n, hn⟩ := hfits.transferSize hsome
      refine ⟨n, hn, hacceptable _ ?_⟩
      rw [acknowledgedTransferSize, hn]
      rfl

end Clients

end Tftp
