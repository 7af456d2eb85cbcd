import Tftp.Packets.Format
import Tftp.Protocol.Terminated

/-!
# The packets with options and their grammar

RRQ, WRQ and OACK carry strings, and a string ends with a zero byte. So the body of
such a packet is read off its zero bytes alone: cut there (`Protocol.cut`), it is a list
of pieces, and the decoders walk along it. `Tftp.Packet.optionsLoop_spec` is that walk
for the loop of `Options_options`, `Tftp.Packet.decodeRequest_spec` for a request and
`Tftp.Packet.decodeOptionsAcknowledgement_spec` for an acknowledgement of options. In all
three the shape of the body decides: accepted is what ends with a zero byte and has the
right number of them, and everything else is refused as an invalid packet.

The format is not canonical – the case of the mode, the order of the options and
repeated names are lost. But whatever was decoded has no zero byte in its strings, so it
can be encoded, and then it is decoded to itself (`Tftp.Packet.decodeAs_encode`).
-/

namespace Tftp

open Protocol

namespace Packet

/-- A list of options as it stands in a packet: names and values, all terminated. -/
def IsOptions (text : RawData) : Prop := Terminated 0 text ∧ Even (text.count 0)

/-- The map of a list of options. -/
def optionsOf (text : RawData) : Options :=
  (pairs (cut 0 text)).foldl (fun m x => m.emplace x.1 x.2) SortedMap.empty

/-- The first value with a name is the one that counts. -/
theorem find?_optionsOf (text name : RawData) :
    (optionsOf text).find? name = SortedMap.lookup name (pairs (cut 0 text)) := by
  rw [optionsOf, SortedMap.find?_foldl_emplace, SortedMap.find?_empty, Option.none_or]

/-! ### The loop of the options -/

theorem isOptions_nil : IsOptions [] := ⟨terminated_nil, by simp⟩

theorem isOptions_append {name value rest : RawData} (hn : 0 ∉ name) (hv : 0 ∉ value) :
    IsOptions (name ++ 0 :: (value ++ 0 :: rest)) ↔ IsOptions rest := by
  rw [IsOptions, IsOptions, terminated_append, terminated_append, count_append hn,
    count_append hv, add_assoc, Nat.even_add]
  simp

/-- A name without terminator ends the loop. -/
theorem optionsLoop_unterminated_name {fuel : ℕ} {text : RawData} {options : Options}
    (hne : text ≠ []) (h : 0 ∉ text) :
    Rejected (Options.optionsLoop (fuel + 1) text options) := by
  obtain ⟨b, tail, rfl⟩ := List.exists_cons_of_ne_nil hne
  rw [Options.optionsLoop, List.idxOf?_eq_none_iff.mpr h]
  · exact ⟨_, rfl⟩
  · exact hne

/-- A name without a terminated value ends the loop. -/
theorem optionsLoop_unterminated_value {fuel : ℕ} {name text : RawData} {options : Options}
    (hn : 0 ∉ name) (h : 0 ∉ text) :
    Rejected (Options.optionsLoop (fuel + 1) (name ++ 0 :: text) options) := by
  obtain ⟨b, tail, hcons⟩ : ∃ b tail, name ++ 0 :: text = b :: tail := by
    cases name <;> simp
  have hdrop : (name ++ 0 :: text).drop (name.length + 1) = text := by simp
  rw [hcons, Options.optionsLoop, ← hcons, Options.idxOf?_zero hn]
  · dsimp only
    rw [hdrop, List.idxOf?_eq_none_iff.mpr h]
    exact ⟨_, rfl⟩
  · exact List.cons_ne_nil b tail

/-- **The loop accepts exactly the lists of options**, and takes over entry after
entry. -/
theorem optionsLoop_spec (fuel : ℕ) (text : RawData) (options : Options)
    (hfuel : text.length ≤ fuel) :
    (IsOptions text ∧ Options.optionsLoop fuel text options =
      .ok ((pairs (cut 0 text)).foldl (fun m x => m.emplace x.1 x.2) options)) ∨
    (¬ IsOptions text ∧ Rejected (Options.optionsLoop fuel text options)) := by
  -- the induction is on the fuel; a round takes two pieces off the front
  induction fuel generalizing text options with
  | zero =>
    obtain rfl := List.length_eq_zero_iff.mp (Nat.le_zero.mp hfuel)
    exact Or.inl ⟨isOptions_nil, rfl⟩
  | succ fuel ih =>
    by_cases hnil : text = []
    · subst hnil
      exact Or.inl ⟨isOptions_nil, rfl⟩
    by_cases hname : 0 ∈ text
    · obtain ⟨name, rest, rfl, hn⟩ := List.eq_append_cons_of_mem hname
      by_cases hvalue : 0 ∈ rest
      · obtain ⟨value, rest, rfl, hv⟩ := List.eq_append_cons_of_mem hvalue
        have hround : Options.optionsLoop (fuel + 1) (name ++ 0 :: (value ++ 0 :: rest)) options =
            Options.optionsLoop fuel rest (options.emplace name value) := by
          rw [← Options.optionsLoop_entry hn hv]
          simp
        rw [isOptions_append hn hv, hround, cut_append hn, cut_append hv, pairs, List.foldl_cons]
        refine ih rest _ ?_
        simp only [List.length_append, List.length_cons] at hfuel
        omega
      · refine Or.inr ⟨fun h => ?_, optionsLoop_unterminated_value hn hvalue⟩
        have hodd := h.2
        rw [count_append hn, List.count_eq_zero_of_not_mem hvalue] at hodd
        exact absurd hodd (by decide)
    · exact Or.inr ⟨fun h => not_terminated hnil hname h.1,
        optionsLoop_unterminated_name hnil hname⟩

theorem options_spec (text : RawData) :
    (IsOptions text ∧ Options.options text = .ok (optionsOf text)) ∨
    (¬ IsOptions text ∧ Rejected (Options.options text)) :=
  optionsLoop_spec text.length text SortedMap.empty le_rfl

/-! ### Requests -/

/-- The body of a request: it ends with a zero byte, and it has an even number of
them, at least two. -/
def IsRequestBody (body : RawData) : Prop :=
  body.getLast? = some 0 ∧ Even (body.count 0) ∧ 2 ≤ body.count 0

theorem isRequestBody_append {filename mode rest : RawData} (hf : 0 ∉ filename) (hm : 0 ∉ mode) :
    IsRequestBody (filename ++ 0 :: (mode ++ 0 :: rest)) ↔ IsOptions rest := by
  rw [← isOptions_append hf hm, IsRequestBody, IsOptions]
  have hcount : 2 ≤ (filename ++ 0 :: (mode ++ 0 :: rest)).count 0 := by
    rw [count_append hf, count_append hm]
    omega
  have hlast : (filename ++ 0 :: (mode ++ 0 :: rest)).getLast? = some 0 ↔
      Terminated 0 (filename ++ 0 :: (mode ++ 0 :: rest)) := by
    rw [Terminated, List.getLast?_eq_some_getLast (by simp)]
    simp
  rw [hlast, and_congr_right_iff]
  exact fun _ => and_iff_left hcount

/-- The two searches of the decoder of a request, on a body of the right shape. -/
theorem decodeRequest_body {packetType : PacketType} {filename mode rest : RawData}
    (hf : 0 ∉ filename) (hm : 0 ∉ mode)
    (hlast : (filename ++ 0 :: (mode ++ 0 :: rest)).back = .ok 0) :
    decodeRequest packetType (RawData.setInt packetType.opcode ++
      (filename ++ 0 :: (mode ++ 0 :: rest))) =
      (do let options ← Options.options rest
          pure (filename, decodeMode mode, options)) := by
  have hlen : ¬ (RawData.setInt packetType.opcode ++
      (filename ++ 0 :: (mode ++ 0 :: rest))).length ≤ headerSize := by
    simp only [List.length_append, RawData.length_setInt, List.length_cons, headerSize]
    omega
  have hname : (filename ++ 0 :: (mode ++ 0 :: rest)).idxOf? 0 = some filename.length :=
    Options.idxOf?_zero hf
  have hmode : (mode ++ 0 :: rest).idxOf? 0 = some mode.length := Options.idxOf?_zero hm
  have hdrop : (filename ++ 0 :: (mode ++ 0 :: rest)).drop (filename.length + 1) =
      mode ++ 0 :: rest := by simp
  have hdrop' : (mode ++ 0 :: rest).drop (mode.length + 1) = rest := by simp
  simp only [decodeRequest, decodeHeader_setInt, bind, Except.bind, if_neg hlen, hlast, ne_eq,
    not_true_eq_false, if_false, RawData.getString_length, hname, hdrop, hmode, hdrop',
    List.take_left']

/-- A body with less than two terminators has no filename or no mode. -/
theorem decodeRequest_unterminated {packetType : PacketType} {filename text : RawData}
    (hf : 0 ∉ filename) (h : 0 ∉ text) (hlast : (filename ++ 0 :: text).back = .ok 0) :
    Rejected (decodeRequest packetType
      (RawData.setInt packetType.opcode ++ (filename ++ 0 :: text))) := by
  have hlen : ¬ (RawData.setInt packetType.opcode ++ (filename ++ 0 :: text)).length ≤
      headerSize := by
    simp only [List.length_append, RawData.length_setInt, List.length_cons, headerSize]
    omega
  have hdrop : (filename ++ 0 :: text).drop (filename.length + 1) = text := by simp
  simp only [decodeRequest, decodeHeader_setInt, bind, Except.bind, if_neg hlen, hlast, ne_eq,
    not_true_eq_false, if_false, RawData.getString_length, Options.idxOf?_zero hf, hdrop,
    List.idxOf?_eq_none_iff.mpr h]
  exact ⟨_, rfl⟩

/-- A body that is empty or ends with another byte is refused before it is searched. -/
theorem decodeRequest_of_getLast {packetType : PacketType} {body : RawData}
    (h : body.getLast? ≠ some 0) :
    Rejected (decodeRequest packetType (RawData.setInt packetType.opcode ++ body)) := by
  rcases List.eq_nil_or_concat' body with rfl | ⟨text, last, rfl⟩
  · have hlen : (RawData.setInt packetType.opcode ++ []).length ≤ headerSize := by
      simp [headerSize]
    simp only [decodeRequest, decodeHeader_setInt, bind, Except.bind, if_pos hlen]
    exact ⟨_, rfl⟩
  · have hlen : ¬ (RawData.setInt packetType.opcode ++ (text ++ [last])).length ≤ headerSize := by
      simp only [List.length_append, RawData.length_setInt, List.length_singleton, headerSize]
      omega
    have hlast : last ≠ 0 := by
      rintro rfl
      exact h List.getLast?_concat
    simp only [decodeRequest, decodeHeader_setInt, bind, Except.bind, if_neg hlen,
      RawData.back_concat, ne_eq, hlast, not_false_eq_true, if_true]
    exact ⟨_, rfl⟩

/-- **A request is accepted exactly if its body has the shape of one**, and then it is
its pieces. -/
theorem decodeRequest_spec (packetType : PacketType) (body : RawData) :
    (∃ filename mode rest, body = filename ++ 0 :: (mode ++ 0 :: rest) ∧ 0 ∉ filename ∧
      0 ∉ mode ∧ IsOptions rest ∧
      decodeRequest packetType (RawData.setInt packetType.opcode ++ body) =
        .ok (filename, decodeMode mode, optionsOf rest)) ∨
    (¬ IsRequestBody body ∧
      Rejected (decodeRequest packetType (RawData.setInt packetType.opcode ++ body))) := by
  by_cases hlast : body.getLast? = some 0
  · have hback : body.back = .ok 0 := by rw [RawData.back, hlast]
    obtain ⟨filename, rest, rfl, hf⟩ := List.eq_append_cons_of_mem (List.mem_of_getLast? hlast)
    by_cases hmem : 0 ∈ rest
    · obtain ⟨mode, rest, rfl, hm⟩ := List.eq_append_cons_of_mem hmem
      rw [decodeRequest_body hf hm hback, isRequestBody_append hf hm]
      rcases options_spec rest with ⟨ho, heq⟩ | ⟨ho, hr⟩
      · exact Or.inl ⟨filename, mode, rest, rfl, hf, hm, ho, by rw [heq]; rfl⟩
      · exact Or.inr ⟨ho, Rejected.bind hr _⟩
    · refine Or.inr ⟨fun h => ?_, decodeRequest_unterminated hf hmem hback⟩
      have htwo := h.2.2
      rw [count_append hf, List.count_eq_zero_of_not_mem hmem] at htwo
      omega
  · exact Or.inr ⟨fun h => hlast h.1, decodeRequest_of_getLast hlast⟩

/-! ### Acknowledgements of options -/

/-- The body of an OACK: it is not empty, it ends with a zero byte, and it has an even
number of them. -/
def IsOptionsBody (body : RawData) : Prop :=
  body ≠ [] ∧ body.getLast? = some 0 ∧ Even (body.count 0)

theorem isOptionsBody_iff {body : RawData} (hne : body ≠ []) :
    IsOptionsBody body ↔ IsOptions body := by
  have hlast : body.getLast? = some 0 ↔ Terminated 0 body := by
    rw [Terminated, List.getLast?_eq_some_getLast hne]
    simp
  rw [IsOptionsBody, IsOptions, hlast]
  simp [hne]

/-- **An acknowledgement of options is accepted exactly if its body is a list of at
least one option.** -/
theorem decodeOptionsAcknowledgement_spec (body : RawData) :
    (IsOptionsBody body ∧ decodeOptionsAcknowledgement
      (RawData.setInt PacketType.optionsAcknowledgement.opcode ++ body) =
        .ok (.optionsAcknowledgement (optionsOf body))) ∨
    (¬ IsOptionsBody body ∧ Rejected (decodeOptionsAcknowledgement
      (RawData.setInt PacketType.optionsAcknowledgement.opcode ++ body))) := by
  by_cases hne : body = []
  · subst hne
    have hlen : (RawData.setInt PacketType.optionsAcknowledgement.opcode ++ []).length ≤
        headerSize := by
      simp [headerSize]
    refine Or.inr ⟨fun h => h.1 rfl, ?_⟩
    simp only [decodeOptionsAcknowledgement, decodeHeader_setInt, bind, Except.bind, if_pos hlen]
    exact ⟨_, rfl⟩
  · have hpos := List.length_pos_of_ne_nil hne
    have hlen : ¬ (RawData.setInt PacketType.optionsAcknowledgement.opcode ++ body).length ≤
        headerSize := by
      rw [List.length_append, RawData.length_setInt, headerSize]
      omega
    rw [isOptionsBody_iff hne]
    simp only [decodeOptionsAcknowledgement, decodeHeader_setInt, bind, Except.bind, if_neg hlen,
      RawData.getString_length]
    rcases options_spec body with ⟨ho, heq⟩ | ⟨ho, additionalInfo, hr⟩
    · exact Or.inl ⟨ho, by rw [heq]; rfl⟩
    · exact Or.inr ⟨ho, additionalInfo, by rw [hr]⟩

/-- A list of options that is not empty has an entry. -/
theorem isEmpty_optionsOf {body : RawData} (h : IsOptionsBody body) :
    (optionsOf body).isEmpty = false := by
  obtain ⟨hne, hlast, heven⟩ := h
  obtain ⟨name, rest, rfl, hn⟩ := List.eq_append_cons_of_mem (List.mem_of_getLast? hlast)
  have hmem : 0 ∈ rest := by
    by_contra hmem
    rw [count_append hn, List.count_eq_zero_of_not_mem hmem] at heven
    exact absurd heven (by decide)
  obtain ⟨value, rest, rfl, hv⟩ := List.eq_append_cons_of_mem hmem
  by_contra hempty
  have hfind := SortedMap.isEmpty_iff.mp (Bool.not_eq_false _ ▸ hempty) name
  rw [find?_optionsOf, cut_append hn, cut_append hv, pairs, SortedMap.lookup, if_pos rfl] at hfind
  cases hfind

/-! ### The grammar -/

/-- The strings of a decoded list of options contain no zero byte. -/
theorem nulFree_optionsOf (text : RawData) : (optionsOf text).NulFree := by
  rintro ⟨name, value⟩ hx
  rw [← SortedMap.find?_eq_some, find?_optionsOf] at hx
  have hpair := mem_of_mem_pairs (SortedMap.lookup_mem hx)
  exact ⟨notMem_of_mem_cut hpair.1, notMem_of_mem_cut hpair.2⟩

/-- A list of options is cut into names and values. -/
theorem cut_options {text : RawData} (h : IsOptions text) :
    (pairs (cut 0 text)).flatMap (fun x => [x.1, x.2]) = cut 0 text :=
  flatMap_pairs (by rw [length_cut]; exact h.2)

/-- `tolower` of the default locale. -/
def toLower (byte : UInt8) : UInt8 := if 65 ≤ byte ∧ byte ≤ 90 then byte + 32 else byte

/-- Equality of strings up to the case of ASCII letters. -/
def EqIgnoringCase (text text' : RawData) : Prop := text.map toLower = text'.map toLower

instance (text text' : RawData) : Decidable (EqIgnoringCase text text') :=
  inferInstanceAs (Decidable (text.map toLower = text'.map toLower))

theorem toNat_toUpper (b : UInt8) : (toUpper b).toNat =
    if 97 ≤ b.toNat ∧ b.toNat ≤ 122 then b.toNat - 32 else b.toNat := by
  rw [toUpper]
  by_cases h : 97 ≤ b ∧ b ≤ 122
  · have hn : 97 ≤ b.toNat ∧ b.toNat ≤ 122 := h
    have hle : (32 : UInt8) ≤ b := UInt8.le_iff_toNat_le.mpr (by simp; omega)
    rw [if_pos h, if_pos hn, UInt8.toNat_sub_of_le _ _ hle]
    rfl
  · exact (congrArg UInt8.toNat (if_neg h)).trans (if_neg h).symm

theorem toNat_toLower (b : UInt8) : (toLower b).toNat =
    if 65 ≤ b.toNat ∧ b.toNat ≤ 90 then b.toNat + 32 else b.toNat := by
  rw [toLower]
  by_cases h : 65 ≤ b ∧ b ≤ 90
  · have hn : 65 ≤ b.toNat ∧ b.toNat ≤ 90 := h
    rw [if_pos h, if_pos hn, UInt8.toNat_add]
    simp only [UInt8.reduceToNat]
    omega
  · exact (congrArg UInt8.toNat (if_neg h)).trans (if_neg h).symm

/-- Bytes have the same upper case if they have the same lower case. -/
theorem toUpper_eq_iff {b c : UInt8} : toUpper b = toUpper c ↔ toLower b = toLower c := by
  rw [← UInt8.toNat_inj, ← UInt8.toNat_inj, toNat_toUpper, toNat_toUpper, toNat_toLower,
    toNat_toLower]
  split_ifs <;> omega

theorem map_toUpper_eq_iff {text text' : RawData} :
    text.map toUpper = text'.map toUpper ↔ EqIgnoringCase text text' := by
  rw [EqIgnoringCase]
  induction text generalizing text' with
  | nil => cases text' <;> simp
  | cons b text ih =>
    cases text' with
    | nil => simp
    | cons c text' => rw [List.map_cons, List.map_cons, List.cons.injEq, List.map_cons,
        List.map_cons, List.cons.injEq, toUpper_eq_iff, ih]

/-- **The mode of a request is the one with its name**, whatever the case of the
letters. -/
theorem decodeMode_eq_iff {mode : RawData} {k : TransferMode} (hk : k ≠ .invalid) :
    decodeMode mode = k ↔ EqIgnoringCase mode k.text := by
  have hupper : k.text.map toUpper = k.text := by cases k <;> decide
  rw [← map_toUpper_eq_iff, hupper, decodeMode]
  cases k with
  | invalid => exact absurd rfl hk
  | octet | netascii | mail =>
    simp only [TransferMode.text]
    split_ifs with h1 h2 h3 <;> simp_all [ascii]

/-- The grammar of the requests with an opcode. -/
structure RequestGrammar (packetType : PacketType) (opcode : UInt8)
    (request : RawData → TransferMode → Options → Packet) : Prop where
  /-- Accepted is the opcode before a body of the right shape. -/
  accepted_iff : ∀ rawPacket, (∃ p, decodeAs packetType rawPacket = .ok p) ↔
    ∃ body, rawPacket = 0 :: opcode :: body ∧ IsRequestBody body
  /-- Everything else raises `InvalidPacketException`, and nothing else. -/
  rejected : ∀ rawPacket, (¬ ∃ body, rawPacket = 0 :: opcode :: body ∧ IsRequestBody body) →
    Rejected (decodeAs packetType rawPacket)
  /-- The pieces of the body are the filename, the mode and the options. -/
  decoded : ∀ body p, decodeAs packetType (0 :: opcode :: body) = .ok p →
    ∃ filename mode options k m,
      cut 0 body = filename :: mode :: options.flatMap (fun x => [x.1, x.2]) ∧
      p = request filename k m ∧
      (∀ k', k' ≠ .invalid → (k = k' ↔ EqIgnoringCase mode k'.text)) ∧
      ∀ name, m.find? name = SortedMap.lookup name options

/-- Every datagram is refused, or it is a request with the pieces of its body. -/
theorem decodeRequest_cases (packetType : PacketType) (rawPacket : RawData) :
    (Rejected (decodeRequest packetType rawPacket) ∧
      ¬ ∃ body, rawPacket = RawData.setInt packetType.opcode ++ body ∧ IsRequestBody body) ∨
    ∃ filename mode rest, rawPacket = RawData.setInt packetType.opcode ++
        (filename ++ 0 :: (mode ++ 0 :: rest)) ∧
      0 ∉ filename ∧ 0 ∉ mode ∧ IsOptions rest ∧
      decodeRequest packetType rawPacket = .ok (filename, decodeMode mode, optionsOf rest) := by
  rcases decodeHeader_rejected_or packetType rawPacket with ⟨hr, hne⟩ | ⟨body, rfl⟩
  · exact Or.inl ⟨Rejected.bind hr _, fun ⟨body, h, _⟩ => hne body h⟩
  · rcases decodeRequest_spec packetType body with
      ⟨filename, mode, rest, rfl, hf, hm, ho, heq⟩ | ⟨hbody, hr⟩
    · exact Or.inr ⟨filename, mode, rest, rfl, hf, hm, ho, heq⟩
    · refine Or.inl ⟨hr, ?_⟩
      rintro ⟨body', h, hbody'⟩
      exact hbody (List.append_cancel_left h ▸ hbody')

/-- Both request classes decode alike, so both have the grammar. -/
theorem requestGrammar {packetType : PacketType} {opcode : UInt8}
    {request : RawData → TransferMode → Options → Packet}
    (hopcode : RawData.setInt packetType.opcode = [0, opcode])
    (hdecode : ∀ rawPacket, decodeAs packetType rawPacket =
      (do let (filename, mode, options) ← decodeRequest packetType rawPacket
          pure (request filename mode options))) :
    RequestGrammar packetType opcode request := by
  have hcases : ∀ rawPacket,
      (Rejected (decodeAs packetType rawPacket) ∧
        ¬ ∃ body, rawPacket = 0 :: opcode :: body ∧ IsRequestBody body) ∨
      ∃ filename mode rest, rawPacket = 0 :: opcode :: (filename ++ 0 :: (mode ++ 0 :: rest)) ∧
        0 ∉ filename ∧ 0 ∉ mode ∧ IsOptions rest ∧
        decodeAs packetType rawPacket =
          .ok (request filename (decodeMode mode) (optionsOf rest)) := by
    intro rawPacket
    have h := decodeRequest_cases packetType rawPacket
    rw [hopcode] at h
    rw [hdecode]
    rcases h with ⟨hr, hbody⟩ | ⟨filename, mode, rest, hraw, hf, hm, ho, heq⟩
    · exact Or.inl ⟨Rejected.bind hr _, hbody⟩
    · exact Or.inr ⟨filename, mode, rest, hraw, hf, hm, ho, by rw [heq]; rfl⟩
  constructor
  · intro rawPacket
    rcases hcases rawPacket with ⟨⟨additionalInfo, hr⟩, hbody⟩ |
      ⟨filename, mode, rest, rfl, hf, hm, ho, heq⟩
    · rw [hr]
      exact ⟨by rintro ⟨p, ⟨⟩⟩, fun h => absurd h hbody⟩
    · exact ⟨fun _ => ⟨_, rfl, (isRequestBody_append hf hm).mpr ho⟩, fun _ => ⟨_, heq⟩⟩
  · intro rawPacket hbody
    rcases hcases rawPacket with ⟨hr, -⟩ | ⟨filename, mode, rest, rfl, hf, hm, ho, heq⟩
    · exact hr
    · exact absurd ⟨_, rfl, (isRequestBody_append hf hm).mpr ho⟩ hbody
  · intro body p h
    rcases hcases (0 :: opcode :: body) with ⟨⟨additionalInfo, hr⟩, -⟩ |
      ⟨filename, mode, rest, hraw, hf, hm, ho, heq⟩
    · rw [hr] at h
      cases h
    · obtain rfl : body = filename ++ 0 :: (mode ++ 0 :: rest) := by
        simpa using hraw
      rw [heq] at h
      refine ⟨filename, mode, pairs (cut 0 rest), decodeMode mode, optionsOf rest, ?_,
        (Except.ok.inj h).symm, fun k' hk => decodeMode_eq_iff hk, find?_optionsOf rest⟩
      rw [cut_append hf, cut_append hm, cut_options ho]

/-- The grammar of the acknowledgements of options. -/
structure OptionsAcknowledgementGrammar : Prop where
  /-- Accepted is the opcode before a body of the right shape. -/
  accepted_iff : ∀ rawPacket, (∃ p, decodeAs .optionsAcknowledgement rawPacket = .ok p) ↔
    ∃ body, rawPacket = 0 :: 6 :: body ∧ IsOptionsBody body
  /-- Everything else raises `InvalidPacketException`, and nothing else. -/
  rejected : ∀ rawPacket, (¬ ∃ body, rawPacket = 0 :: 6 :: body ∧ IsOptionsBody body) →
    Rejected (decodeAs .optionsAcknowledgement rawPacket)
  /-- The pieces of the body are the options, and there is one. -/
  decoded : ∀ body p, decodeAs .optionsAcknowledgement (0 :: 6 :: body) = .ok p →
    ∃ options m, cut 0 body = options.flatMap (fun x => [x.1, x.2]) ∧
      p = .optionsAcknowledgement m ∧ m.isEmpty = false ∧
      ∀ name, m.find? name = SortedMap.lookup name options

theorem opcode_optionsAcknowledgement :
    RawData.setInt PacketType.optionsAcknowledgement.opcode = [0, 6] := rfl

/-- Every datagram is refused, or it is an acknowledgement with the options of its
body. -/
theorem decodeOptionsAcknowledgement_cases (rawPacket : RawData) :
    (Rejected (decodeOptionsAcknowledgement rawPacket) ∧
      ¬ ∃ body, rawPacket = 0 :: 6 :: body ∧ IsOptionsBody body) ∨
    ∃ body, rawPacket = 0 :: 6 :: body ∧ IsOptionsBody body ∧
      decodeOptionsAcknowledgement rawPacket = .ok (.optionsAcknowledgement (optionsOf body)) := by
  have hheader := decodeHeader_rejected_or .optionsAcknowledgement rawPacket
  rw [opcode_optionsAcknowledgement] at hheader
  rcases hheader with ⟨hr, hne⟩ | ⟨body, rfl⟩
  · exact Or.inl ⟨Rejected.bind hr _, fun ⟨body, h, _⟩ => hne body h⟩
  · have hspec := decodeOptionsAcknowledgement_spec body
    rw [opcode_optionsAcknowledgement] at hspec
    rcases hspec with ⟨hbody, heq⟩ | ⟨hbody, hr⟩
    · exact Or.inr ⟨body, rfl, hbody, heq⟩
    · refine Or.inl ⟨hr, ?_⟩
      rintro ⟨body', h, hbody'⟩
      obtain rfl : body = body' := by simpa using h
      exact hbody hbody'

theorem optionsAcknowledgementGrammar : OptionsAcknowledgementGrammar := by
  constructor
  · intro rawPacket
    rw [decodeAs]
    rcases decodeOptionsAcknowledgement_cases rawPacket with ⟨⟨additionalInfo, hr⟩, hbody⟩ |
      ⟨body, rfl, hbody, heq⟩
    · rw [hr]
      exact ⟨by rintro ⟨p, ⟨⟩⟩, fun h => absurd h hbody⟩
    · exact ⟨fun _ => ⟨_, rfl, hbody⟩, fun _ => ⟨_, heq⟩⟩
  · intro rawPacket hbody
    rcases decodeOptionsAcknowledgement_cases rawPacket with ⟨hr, -⟩ | ⟨body, rfl, hbody', heq⟩
    · exact hr
    · exact absurd ⟨_, rfl, hbody'⟩ hbody
  · intro body p h
    rw [decodeAs] at h
    rcases decodeOptionsAcknowledgement_cases (0 :: 6 :: body) with ⟨⟨additionalInfo, hr⟩, -⟩ |
      ⟨body', hraw, hbody, heq⟩
    · rw [hr] at h
      cases h
    · obtain rfl : body = body' := by simpa using hraw
      rw [heq] at h
      exact ⟨pairs (cut 0 body), optionsOf body,
        (cut_options ((isOptionsBody_iff hbody.1).mp hbody)).symm, (Except.ok.inj h).symm,
        isEmpty_optionsOf hbody, find?_optionsOf body⟩

/-! ### What was decoded can be encoded -/

/-- The strings of a decoded packet contain no zero byte. -/
theorem encodable_of_decodeAs {packetType : PacketType} {rawPacket : RawData} {p : Packet}
    (h : decodeAs packetType rawPacket = .ok p) : p.Encodable := by
  have htype := type_of_decodeAs h
  have hrequest : ∀ t filename mode options,
      decodeRequest t rawPacket = .ok (filename, mode, options) →
        0 ∉ filename ∧ Options.NulFree options := by
    intro t filename mode options heq
    rcases decodeRequest_cases t rawPacket with ⟨⟨additionalInfo, hr⟩, -⟩ |
      ⟨filename', mode', rest, -, hf, -, -, heq'⟩
    · rw [hr] at heq
      cases heq
    · rw [heq'] at heq
      cases Except.ok.inj heq
      exact ⟨hf, nulFree_optionsOf rest⟩
  cases p with
  | readRequest filename mode options | writeRequest filename mode options =>
    subst htype
    simp only [decodeAs, type, bind, Except.bind] at h
    split at h
    · cases h
    · next x heq =>
      cases Except.ok.inj h
      exact hrequest _ _ _ _ heq
  | data | acknowledgement | error => trivial
  | optionsAcknowledgement options =>
    subst htype
    rw [type, decodeAs] at h
    rcases decodeOptionsAcknowledgement_cases rawPacket with ⟨⟨additionalInfo, hr⟩, -⟩ |
      ⟨body, -, hbody, heq⟩
    · rw [hr] at h
      cases h
    · rw [heq] at h
      cases Except.ok.inj h
      exact ⟨isEmpty_optionsOf hbody, nulFree_optionsOf body⟩

/-- A decoder accepts only datagrams with its opcode. -/
theorem header_of_decodeAs {packetType : PacketType} {rawPacket : RawData} {p : Packet}
    (h : decodeAs packetType rawPacket = .ok p) :
    ∃ body, rawPacket = RawData.setInt packetType.opcode ++ body := by
  rcases decodeHeader_rejected_or packetType rawPacket with ⟨⟨additionalInfo, hr⟩, -⟩ | hbody
  · -- every decoder begins with the header
    cases packetType with
    | invalid => cases h
    | readRequest | writeRequest | data | acknowledgement | error | optionsAcknowledgement =>
      simp only [decodeAs, decodeRequest, decodeData, decodeAcknowledgement, decodeError,
        decodeOptionsAcknowledgement, hr, bind, Except.bind] at h
      cases h
  · exact hbody

/-- **A decoder accepts or throws `InvalidPacketException`**; it never reads outside of
the datagram. -/
theorem decodeAs_total (packetType : PacketType) (rawPacket : RawData) :
    (∃ p, decodeAs packetType rawPacket = .ok p) ∨ Rejected (decodeAs packetType rawPacket) := by
  cases packetType with
  | invalid => exact Or.inr ⟨_, rfl⟩
  | readRequest | writeRequest =>
    rw [decodeAs]
    rcases decodeRequest_cases _ rawPacket with ⟨hr, -⟩ | ⟨filename, mode, rest, -, -, -, -, heq⟩
    · exact Or.inr (Rejected.bind hr _)
    · exact Or.inl ⟨_, by rw [heq]; rfl⟩
  | data =>
    rcases decodeData_cases rawPacket with ⟨blockNumber, bytes, rfl⟩ | hr
    · exact Or.inl ⟨_, decodeAs_data blockNumber bytes⟩
    · exact Or.inr hr
  | acknowledgement =>
    rcases decodeAcknowledgement_cases rawPacket with ⟨blockNumber, rfl⟩ | hr
    · exact Or.inl ⟨_, decodeAs_acknowledgement blockNumber⟩
    · exact Or.inr hr
  | error =>
    rcases decodeError_cases rawPacket with ⟨errorCode, errorMessage, rfl⟩ | hr
    · exact Or.inl ⟨_, decodeAs_error errorCode errorMessage⟩
    · exact Or.inr hr
  | optionsAcknowledgement =>
    rcases decodeOptionsAcknowledgement_cases rawPacket with ⟨hr, -⟩ | ⟨body, -, -, heq⟩
    · exact Or.inr hr
    · exact Or.inl ⟨_, heq⟩

end Packet

/-- **The exact grammar of the packets with options.** -/
theorem option_packets_grammar :
    Packet.RequestGrammar .readRequest 1 Packet.readRequest ∧
    Packet.RequestGrammar .writeRequest 2 Packet.writeRequest ∧
    Packet.OptionsAcknowledgementGrammar :=
  ⟨Packet.requestGrammar rfl fun _ => rfl, Packet.requestGrammar rfl fun _ => rfl,
    Packet.optionsAcknowledgementGrammar⟩

/-- **The packets with options are decoded to what was encoded**, the encoder fills its
buffer exactly, and so a packet that was decoded once is decoded to itself. -/
theorem option_packets_round_trip :
    (∀ p : Packet, p.type ∈ [.readRequest, .writeRequest, .optionsAcknowledgement] →
      p.Encodable → (∃ buffer, p.encodeInto = .ok buffer ∧ buffer.rawSpan = [] ∧
        buffer.written = p.encode) ∧ Packet.decodeAs p.type p.encode = .ok p) ∧
    (∀ packetType ∈ [PacketType.readRequest, .writeRequest, .optionsAcknowledgement],
      ∀ rawPacket p, Packet.decodeAs packetType rawPacket = .ok p →
        Packet.decodeAs packetType p.encode = .ok p) := by
  constructor
  · intro p htype hp
    refine ⟨?_, Packet.decodeAs_encode hp⟩
    obtain ⟨buffer, hb, hraw, hspan⟩ := Packet.encodeInto_eq p
    have hnil : buffer.rawSpan = [] := by
      refine hspan fun h => ?_
      rw [h] at htype
      simp at htype
    refine ⟨buffer, hb, hnil, ?_⟩
    rw [← hraw, Buffer.raw, hnil, List.append_nil]
  · intro packetType _ rawPacket p h
    rw [← Packet.type_of_decodeAs h]
    exact Packet.decodeAs_encode (Packet.encodable_of_decodeAs h)

end Tftp
