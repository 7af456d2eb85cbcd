import Tftp.Packets.Grammar

/-!
# Assigning a datagram to a packet

Every packet class has, beside the constructor that decodes a datagram, an assignment
operator that decodes one into an object that is there already. Both call the same
`decodeBody`, but the constructor has nothing to lose: if the body is refused there is no
object. The assignment operator writes into the members of the object while it parses, and
an exception leaves them as they are at that point (`Tftp.Packet.Assigning`).

DATA, ACK and OACK are checked before the first member is written. The body of a request
is not: the filename is stored before the mode is searched, and the mode before the options
are decoded. Neither is the one of an ERROR, whose code is stored before the termination of
the message is checked. `Tftp.Packet.Unharmed` says which datagrams leave such an object
alone, or as good as alone, when they are refused.
-/

namespace Tftp

open Protocol

namespace Packet

/-- A member function that writes to the members of its object and can throw. What was
written before the exception stays written. -/
abbrev Assigning (members : Type) := ExceptT DecodeError (StateM members)

/-- The members of `ReadWriteRequestPacket`. -/
structure RequestMembers where
  /-- Filename. -/
  filenameV : RawData
  /-- Transfer mode. -/
  modeV : TransferMode
  /-- Stored options. -/
  optionsV : Options

/-- The members of `DataPacket`. -/
structure DataMembers where
  /-- Block number of the packet. -/
  blockNumberV : BlockNumber
  /-- Data of the packet. -/
  dataV : RawData

/-- The members of `ErrorPacket`. -/
structure ErrorMembers where
  /-- Error code of the packet. -/
  errorCodeV : ErrorCode
  /-- Error message of the packet. -/
  errorMessageV : RawData

/-- `ReadWriteRequestPacket::decodeBody`, as a member function. -/
def RequestMembers.decodeBody (rawPacket : RawData) : Assigning RequestMembers Unit := do
  if rawPacket.length ≤ headerSize then
    throw (.invalidPacket "Invalid packet size of RRQ/WRQ packet")
  else
    let rawSpan : RawData := rawPacket.drop headerSize
    let last ← rawSpan.back
    if last ≠ 0 then throw (.invalidPacket "RRQ/WRQ message not 0-terminated")
    else
      let (_, rawRequestString) ← rawSpan.getString rawSpan.length
      match rawRequestString.idxOf? 0 with
      | none => throw (.invalidPacket "No 0-termination for filename found")
      | some filenameEnd =>
          modify fun (this : RequestMembers) =>
            { this with filenameV := rawRequestString.take filenameEnd }
          let rawRequestString := rawRequestString.drop (filenameEnd + 1)
          match rawRequestString.idxOf? 0 with
          | none => throw (.invalidPacket "No 0-termination for operation found")
          | some modeEnd =>
              modify fun (this : RequestMembers) =>
                { this with modeV := decodeMode (rawRequestString.take modeEnd) }
              let rawRequestString := rawRequestString.drop (modeEnd + 1)
              let options ← Options.options rawRequestString
              modify fun (this : RequestMembers) => { this with optionsV := options }

/-- `DataPacket::decodeBody`, as a member function. -/
def DataMembers.decodeBody (rawPacket : RawData) : Assigning DataMembers Unit := do
  if rawPacket.length < headerSize + 2 then
    throw (.invalidPacket "Invalid packet size of DATA packet")
  else
    let (remaining, blockNumber) ← RawData.getInt (rawPacket.drop headerSize)
    modify fun (this : DataMembers) => { this with blockNumberV := blockNumber }
    modify fun (this : DataMembers) => { this with dataV := remaining }

/-- `AcknowledgementPacket::decodeBody`, as a member function. -/
def decodeBodyAcknowledgement (rawPacket : RawData) : Assigning BlockNumber Unit := do
  if rawPacket.length ≠ headerSize + 2 then
    throw (.invalidPacket "Invalid packet size of ACK packet")
  else
    let (_, blockNumber) ← RawData.getInt (rawPacket.drop headerSize)
    set blockNumber

/-- `ErrorPacket::decodeBody`, as a member function. -/
def ErrorMembers.decodeBody (rawPacket : RawData) : Assigning ErrorMembers Unit := do
  if rawPacket.length < headerSize + 2 + 1 then
    throw (.invalidPacket "Invalid packet size of ERROR packet")
  else
    let (rawSpan, errorCodeInt) ← RawData.getInt (rawPacket.drop headerSize)
    modify fun (this : ErrorMembers) => { this with errorCodeV := ⟨errorCodeInt⟩ }
    let last ← rawSpan.back
    if last ≠ 0 then throw (.invalidPacket "error message not 0-terminated")
    else
      let (_, errorMessage) ← rawSpan.getString (rawSpan.length - 1)
      modify fun (this : ErrorMembers) => { this with errorMessageV := errorMessage }

/-- `OptionsAcknowledgementPacket::decodeBody`, as a member function. -/
def decodeBodyOptionsAcknowledgement (rawPacket : RawData) : Assigning Options Unit := do
  if rawPacket.length ≤ headerSize then
    throw (.invalidPacket "Invalid packet size of OACK packet")
  else
    let rawSpan : RawData := rawPacket.drop headerSize
    let (_, optionsString) ← rawSpan.getString rawSpan.length
    let options ← Options.options optionsString
    set options

/-- The body of the assignment operators: `decodeHeader`, then the `decodeBody` of the
class. -/
def decodeInto {members : Type} (packetType : PacketType)
    (decodeBody : RawData → Assigning members Unit) (rawPacket : RawData) (this : members) :
    Except DecodeError Unit × members :=
  match decodeHeader packetType rawPacket with
  | .error e => (.error e, this)
  | .ok _ => (decodeBody rawPacket).run.run this

/-- The assignment operator of a packet class: how it ended, and what the object is
afterwards. -/
def assign (packet : Packet) (rawPacket : RawData) : Except DecodeError Unit × Packet :=
  match packet with
  | .readRequest filename mode options =>
      let (result, this) :=
        decodeInto .readRequest RequestMembers.decodeBody rawPacket ⟨filename, mode, options⟩
      (result, .readRequest this.filenameV this.modeV this.optionsV)
  | .writeRequest filename mode options =>
      let (result, this) :=
        decodeInto .writeRequest RequestMembers.decodeBody rawPacket ⟨filename, mode, options⟩
      (result, .writeRequest this.filenameV this.modeV this.optionsV)
  | .data blockNumber bytes =>
      let (result, this) := decodeInto .data DataMembers.decodeBody rawPacket ⟨blockNumber, bytes⟩
      (result, .data this.blockNumberV this.dataV)
  | .acknowledgement blockNumber =>
      let (result, this) :=
        decodeInto .acknowledgement decodeBodyAcknowledgement rawPacket blockNumber
      (result, .acknowledgement this)
  | .error errorCode errorMessage =>
      let (result, this) :=
        decodeInto .error ErrorMembers.decodeBody rawPacket ⟨errorCode, errorMessage⟩
      (result, .error this.errorCodeV this.errorMessageV)
  | .optionsAcknowledgement options =>
      let (result, this) :=
        decodeInto .optionsAcknowledgement decodeBodyOptionsAcknowledgement rawPacket options
      (result, .optionsAcknowledgement this)

/-- The assignment succeeded and the object is the packet decoded from the datagram, or it
threw an `InvalidPacketException` and the object is what it was. -/
def AllOrNothing (packet : Packet) (rawPacket : RawData) : Prop :=
  (∃ decoded, packet.assign rawPacket = (.ok (), decoded) ∧
    decodeAs packet.type rawPacket = .ok decoded) ∨
  ∃ additionalInfo, packet.assign rawPacket = (.error (.invalidPacket additionalInfo), packet)

/-- A body that is refused has not reached a member of the request, or brought the value
that was there. A body that ends with a zero byte and has no other is refused behind the
filename; one with an odd number of strings behind the mode is refused behind the mode. -/
def RequestUnharmed (filename : RawData) (mode : TransferMode) (body : RawData) : Prop :=
  body.getLast? = some 0 →
    match cut 0 body with
    | [] => True
    | [name] => name = filename
    | name :: modeText :: strings =>
        Odd strings.length → name = filename ∧ decodeMode modeText = mode

/-- The datagram cannot leave a part of itself in the object. -/
def Unharmed (packet : Packet) (rawPacket : RawData) : Prop :=
  match packet with
  | .readRequest filename mode _ | .writeRequest filename mode _ =>
      ∀ body, rawPacket = RawData.setInt packet.type.opcode ++ body →
        RequestUnharmed filename mode body
  | .error errorCode _ =>
      ∀ code text last, rawPacket = RawData.setInt packet.type.opcode ++
        (RawData.setInt code ++ (text ++ [last])) → last ≠ 0 → code = errorCode.value
  | .data .. | .acknowledgement .. | .optionsAcknowledgement .. => True

/-! ### Member functions, step by step -/

section Assigning

variable {members α : Type} {this : members}

/-- What a member function makes of an object. -/
abbrev Assigning.runOn (f : Assigning members α) (this : members) :
    Except DecodeError α × members := f.run.run this

@[simp] theorem runOn_throw (e : DecodeError) :
    Assigning.runOn (throw e : Assigning members α) this = (.error e, this) := rfl

@[simp] theorem runOn_ok {β : Type} (a : α) (f : α → Assigning members β) :
    Assigning.runOn ((liftM (Except.ok a : Except DecodeError α) : Assigning members α) >>= f)
      this = (f a).runOn this := rfl

@[simp] theorem runOn_error {β : Type} (e : DecodeError) (f : α → Assigning members β) :
    Assigning.runOn ((liftM (Except.error e : Except DecodeError α) : Assigning members α) >>= f)
      this = (.error e, this) := rfl

@[simp] theorem runOn_modify_bind (g : members → members) (f : Unit → Assigning members α) :
    Assigning.runOn ((modify g : Assigning members Unit) >>= f) this = (f ()).runOn (g this) := rfl

@[simp] theorem runOn_modify (g : members → members) :
    Assigning.runOn (modify g : Assigning members Unit) this = (.ok (), g this) := rfl

@[simp] theorem runOn_set (this' : members) :
    Assigning.runOn (set this' : Assigning members Unit) this = (.ok (), this') := rfl

end Assigning

/-! ### What the bodies leave behind -/

section Bodies

variable {members : Type} {packetType : PacketType} {opcode : UInt16} {rawPacket body : RawData}

@[simp] theorem drop_header (opcode : UInt16) (body : RawData) :
    (RawData.setInt opcode ++ body).drop headerSize = body := rfl

theorem length_header (opcode : UInt16) (body : RawData) :
    (RawData.setInt opcode ++ body).length = headerSize + body.length := by
  rw [List.length_append, RawData.length_setInt, headerSize]

/-- A request that is empty or does not end with a zero byte leaves the object alone. -/
theorem RequestMembers.decodeBody_of_getLast (h : body.getLast? ≠ some 0)
    (this : RequestMembers) :
    ∃ additionalInfo, (RequestMembers.decodeBody (RawData.setInt opcode ++ body)).runOn this =
      (.error (.invalidPacket additionalInfo), this) := by
  rcases List.eq_nil_or_concat' body with rfl | ⟨text, last, rfl⟩
  · exact ⟨_, rfl⟩
  · have hlen : ¬ (RawData.setInt opcode ++ (text ++ [last])).length ≤ headerSize := by
      rw [length_header, List.length_append, List.length_singleton]
      omega
    have hlast : last ≠ 0 := by
      rintro rfl
      exact h List.getLast?_concat
    simp only [RequestMembers.decodeBody, if_neg hlen, drop_header, RawData.back_concat, runOn_ok,
      if_pos hlast]
    exact ⟨_, runOn_throw _⟩

/-- Without a mode, the filename is all that is stored. -/
theorem RequestMembers.decodeBody_filename (opcode : UInt16) {filename : RawData}
    (hf : 0 ∉ filename) (this : RequestMembers) :
    ∃ additionalInfo,
      (RequestMembers.decodeBody (RawData.setInt opcode ++ (filename ++ [0]))).runOn this =
        (.error (.invalidPacket additionalInfo), { this with filenameV := filename }) := by
  have hlen : ¬ (RawData.setInt opcode ++ (filename ++ [0])).length ≤ headerSize := by
    rw [length_header, List.length_append, List.length_singleton]
    omega
  have hdrop : (filename ++ [0]).drop (filename.length + 1) = [] := by simp
  simp only [RequestMembers.decodeBody, if_neg hlen, drop_header, RawData.back_concat, runOn_ok,
    ne_eq, not_true_eq_false, if_false, RawData.getString_length, Options.idxOf?_zero hf, hdrop,
    runOn_modify_bind, List.take_left']
  exact ⟨_, runOn_throw _⟩

/-- With a mode, the filename and the mode are stored; whether the options are depends on
them. -/
theorem RequestMembers.decodeBody_mode {filename mode rest : RawData} (hf : 0 ∉ filename)
    (hm : 0 ∉ mode) (hlast : (filename ++ 0 :: (mode ++ 0 :: rest)).back = .ok 0)
    (this : RequestMembers) :
    (RequestMembers.decodeBody
      (RawData.setInt opcode ++ (filename ++ 0 :: (mode ++ 0 :: rest)))).runOn this =
      match Options.options rest with
      | .error e => (.error e, ⟨filename, decodeMode mode, this.optionsV⟩)
      | .ok options => (.ok (), ⟨filename, decodeMode mode, options⟩) := by
  have hlen : ¬ (RawData.setInt opcode ++ (filename ++ 0 :: (mode ++ 0 :: rest))).length ≤
      headerSize := by
    rw [length_header, List.length_append, List.length_cons]
    omega
  have hdrop : (filename ++ 0 :: (mode ++ 0 :: rest)).drop (filename.length + 1) =
      mode ++ 0 :: rest := by simp
  have hdrop' : (mode ++ 0 :: rest).drop (mode.length + 1) = rest := by simp
  simp only [RequestMembers.decodeBody, if_neg hlen, drop_header, hlast, runOn_ok, ne_eq,
    not_true_eq_false, if_false, RawData.getString_length, Options.idxOf?_zero hf, hdrop,
    runOn_modify_bind, List.take_left', Options.idxOf?_zero hm, hdrop']
  cases Options.options rest with
  | error e => exact runOn_error _ _
  | ok options => rfl

/-- A request with the header of another packet leaves the object alone; otherwise its
body decides. -/
theorem RequestMembers.unharmed_iff (packetType : PacketType) (body : RawData)
    (this : RequestMembers) :
    ((∃ decoded : RequestMembers,
        (RequestMembers.decodeBody (RawData.setInt packetType.opcode ++ body)).runOn this =
          (.ok (), decoded) ∧
        decodeRequest packetType (RawData.setInt packetType.opcode ++ body) =
          .ok (decoded.filenameV, decoded.modeV, decoded.optionsV)) ∨
      ∃ additionalInfo,
        (RequestMembers.decodeBody (RawData.setInt packetType.opcode ++ body)).runOn this =
          (.error (.invalidPacket additionalInfo), this)) ↔
      RequestUnharmed this.filenameV this.modeV body := by
  by_cases hlast : body.getLast? = some 0
  · have hback : body.back = .ok 0 := by rw [RawData.back, hlast]
    obtain ⟨filename, rest, rfl, hf⟩ := List.eq_append_cons_of_mem (List.mem_of_getLast? hlast)
    by_cases hmem : 0 ∈ rest
    · -- there is a mode
      obtain ⟨mode, rest, rfl, hm⟩ := List.eq_append_cons_of_mem hmem
      have hwhole : Terminated 0 (filename ++ 0 :: (mode ++ 0 :: rest)) := by
        intro x hx
        rw [hlast] at hx
        exact (Option.some.inj hx).symm
      have hterminated : Terminated 0 rest := terminated_append.mp (terminated_append.mp hwhole)
      rw [RequestMembers.decodeBody_mode hf hm hback, decodeRequest_body hf hm hback,
        RequestUnharmed, cut_append hf, cut_append hm]
      dsimp only
      rw [length_cut]
      rcases options_spec rest with ⟨ho, heq⟩ | ⟨ho, additionalInfo, hr⟩
      · rw [heq]
        refine iff_of_true (Or.inl ⟨⟨filename, decodeMode mode, optionsOf rest⟩, rfl, rfl⟩) ?_
        exact fun _ hodd => absurd ho.2 (Nat.not_even_iff_odd.mpr hodd)
      · rw [hr]
        have hodd : Odd (rest.count 0) :=
          Nat.not_even_iff_odd.mp fun heven => ho ⟨hterminated, heven⟩
        constructor
        · rintro (⟨decoded, h, -⟩ | ⟨additionalInfo', h⟩)
          · cases (Prod.ext_iff.mp h).1
          · have hthis := (Prod.ext_iff.mp h).2
            exact fun _ _ => ⟨congrArg RequestMembers.filenameV hthis,
              congrArg RequestMembers.modeV hthis⟩
        · intro h
          obtain ⟨hname, hmode⟩ := h hlast hodd
          exact Or.inr ⟨additionalInfo, by rw [hname, hmode]⟩
    · -- a body that ends behind the filename
      obtain rfl : rest = [] := by
        by_contra hne
        rw [List.getLast?_append, List.getLast?_cons, List.getLast?_eq_some_getLast hne] at hlast
        have hzero : rest.getLast hne = 0 := by simpa using hlast
        exact hmem (hzero ▸ List.getLast_mem hne)
      obtain ⟨additionalInfo, hrun⟩ :=
        RequestMembers.decodeBody_filename packetType.opcode hf this
      rw [hrun, RequestUnharmed, cut_append hf, cut_nil]
      constructor
      · rintro (⟨decoded, h, -⟩ | ⟨additionalInfo', h⟩)
        · cases (Prod.ext_iff.mp h).1
        · exact fun _ => congrArg RequestMembers.filenameV (Prod.ext_iff.mp h).2
      · intro h
        exact Or.inr ⟨additionalInfo, by rw [show filename = this.filenameV from h hlast]⟩
  · refine iff_of_true (Or.inr (RequestMembers.decodeBody_of_getLast hlast this)) fun h => ?_
    exact absurd h hlast

/-- The header is read before the members are touched. -/
theorem decodeInto_setInt (decodeBody : RawData → Assigning members Unit) (this : members) :
    decodeInto packetType decodeBody (RawData.setInt packetType.opcode ++ body) this =
      (decodeBody (RawData.setInt packetType.opcode ++ body)).runOn this := by
  rw [decodeInto, decodeHeader_setInt]

/-- With the header of another packet, no object is touched. -/
theorem decodeInto_of_header (h : ∀ body, rawPacket ≠ RawData.setInt packetType.opcode ++ body)
    (decodeBody : RawData → Assigning members Unit) (this : members) :
    ∃ additionalInfo, decodeInto packetType decodeBody rawPacket this =
      (.error (.invalidPacket additionalInfo), this) := by
  obtain ⟨additionalInfo, hr⟩ := decodeHeader_of_ne h
  exact ⟨additionalInfo, by rw [decodeInto, hr]⟩

theorem allOrNothing_data (blockNumber : BlockNumber) (bytes rawPacket : RawData) :
    AllOrNothing (.data blockNumber bytes) rawPacket := by
  rcases decodeHeader_rejected_or .data rawPacket with ⟨-, h⟩ | ⟨body, rfl⟩
  · obtain ⟨additionalInfo, hinto⟩ := decodeInto_of_header h DataMembers.decodeBody
      ⟨blockNumber, bytes⟩
    exact Or.inr ⟨additionalInfo, by rw [assign, hinto]⟩
  · rw [AllOrNothing, assign, decodeInto_setInt, DataMembers.decodeBody, length_header]
    by_cases hsize : body.length < 2
    · rw [if_pos (Nat.add_lt_add_left hsize _)]
      exact Or.inr ⟨_, rfl⟩
    · obtain ⟨blockNumber', bytes', rfl⟩ := RawData.exists_setInt (not_lt.mp hsize)
      rw [if_neg fun h => hsize (Nat.lt_of_add_lt_add_left h)]
      simp only [drop_header, RawData.getInt_setInt, runOn_ok, runOn_modify_bind, runOn_modify]
      exact Or.inl ⟨_, rfl, decodeAs_data blockNumber' bytes'⟩

theorem allOrNothing_acknowledgement (blockNumber : BlockNumber) (rawPacket : RawData) :
    AllOrNothing (.acknowledgement blockNumber) rawPacket := by
  rcases decodeHeader_rejected_or .acknowledgement rawPacket with ⟨-, h⟩ | ⟨body, rfl⟩
  · obtain ⟨additionalInfo, hinto⟩ := decodeInto_of_header h decodeBodyAcknowledgement blockNumber
    exact Or.inr ⟨additionalInfo, by rw [assign, hinto]⟩
  · rw [AllOrNothing, assign, decodeInto_setInt, decodeBodyAcknowledgement, length_header]
    by_cases hsize : body.length = 2
    · obtain ⟨blockNumber', rest, rfl⟩ := RawData.exists_setInt hsize.ge
      obtain rfl : rest = [] := by
        rw [List.length_append, RawData.length_setInt] at hsize
        exact List.length_eq_zero_iff.mp (by omega)
      rw [if_neg (not_not_intro (congrArg (headerSize + ·) hsize))]
      have hint : RawData.getInt (RawData.setInt blockNumber') = .ok ([], blockNumber') := by
        simpa using RawData.getInt_setInt blockNumber' []
      simp only [drop_header, List.append_nil, hint, runOn_ok, runOn_set]
      exact Or.inl ⟨_, rfl, decodeAs_acknowledgement blockNumber'⟩
    · rw [if_pos fun h => hsize (Nat.add_left_cancel h)]
      exact Or.inr ⟨_, rfl⟩

theorem allOrNothing_optionsAcknowledgement (options : Options) (rawPacket : RawData) :
    AllOrNothing (.optionsAcknowledgement options) rawPacket := by
  rcases decodeHeader_rejected_or .optionsAcknowledgement rawPacket with ⟨-, h⟩ | ⟨body, rfl⟩
  · obtain ⟨additionalInfo, hinto⟩ :=
      decodeInto_of_header h decodeBodyOptionsAcknowledgement options
    exact Or.inr ⟨additionalInfo, by rw [assign, hinto]⟩
  · rw [AllOrNothing, assign, decodeInto_setInt, decodeBodyOptionsAcknowledgement, length_header]
    by_cases hne : body = []
    · rw [if_pos (by rw [hne, List.length_nil, Nat.add_zero])]
      exact Or.inr ⟨_, rfl⟩
    · have hpos := List.length_pos_of_ne_nil hne
      rw [if_neg (by omega)]
      simp only [drop_header, RawData.getString_length, runOn_ok]
      rcases decodeOptionsAcknowledgement_spec body with ⟨hbody, heq⟩ | ⟨hbody, -⟩
      · rcases options_spec body with ⟨-, ho⟩ | ⟨ho, -⟩
        · exact Or.inl ⟨_, by rw [ho, runOn_ok, runOn_set], heq⟩
        · exact absurd ((isOptionsBody_iff hne).mp hbody) ho
      · rcases options_spec body with ⟨ho, -⟩ | ⟨-, additionalInfo, hr⟩
        · exact absurd ((isOptionsBody_iff hne).mpr ho) hbody
        · exact Or.inr ⟨additionalInfo, by rw [hr, runOn_error]⟩

theorem errorBody_inj {code code' : UInt16} {text text' : RawData}
    (h : RawData.setInt PacketType.error.opcode ++ (RawData.setInt code ++ text) =
      RawData.setInt PacketType.error.opcode ++ (RawData.setInt code' ++ text')) :
    code = code' ∧ text = text' := by
  have hbody := congrArg RawData.getInt (List.append_cancel_left h)
  rw [RawData.getInt_setInt, RawData.getInt_setInt] at hbody
  obtain ⟨htext, hcode⟩ := Prod.ext_iff.mp (Except.ok.inj hbody)
  exact ⟨hcode, htext⟩

/-- An ERROR whose message is not terminated has brought its code. -/
theorem allOrNothing_error_iff (errorCode : ErrorCode) (errorMessage rawPacket : RawData) :
    AllOrNothing (.error errorCode errorMessage) rawPacket ↔
      Unharmed (.error errorCode errorMessage) rawPacket := by
  rcases decodeHeader_rejected_or .error rawPacket with ⟨-, h⟩ | ⟨body, rfl⟩
  · obtain ⟨additionalInfo, hinto⟩ := decodeInto_of_header h ErrorMembers.decodeBody
      ⟨errorCode, errorMessage⟩
    refine iff_of_true (Or.inr ⟨additionalInfo, by rw [assign, hinto]⟩) ?_
    exact fun code text last heq => absurd heq (h _)
  · rw [AllOrNothing, assign, decodeInto_setInt, ErrorMembers.decodeBody, length_header]
    by_cases hsize : body.length < 3
    · rw [if_pos (by omega)]
      refine iff_of_true (Or.inr ⟨_, rfl⟩) fun code text last heq => ?_
      have hlen := congrArg List.length (List.append_cancel_left heq)
      simp only [List.length_append, RawData.length_setInt, List.length_singleton] at hlen
      omega
    · obtain ⟨code, rest, rfl⟩ := RawData.exists_setInt (show 2 ≤ body.length by omega)
      have hrest : rest ≠ [] := by
        rintro rfl
        exact hsize (by simp)
      obtain ⟨text, last, rfl⟩ := List.eq_nil_or_concat' rest |>.resolve_left hrest
      rw [if_neg (by omega)]
      simp only [drop_header, RawData.getInt_setInt, runOn_ok, runOn_modify_bind,
        RawData.back_concat]
      by_cases hlast : last = 0
      · -- the message is terminated, so the whole packet is
        subst hlast
        refine iff_of_true (Or.inl ⟨.error ⟨code⟩ text, ?_, decodeAs_error ⟨code⟩ text⟩) ?_
        · have hstring : RawData.getString (text ++ [0]) ((text ++ [0]).length - 1) =
              .ok ([0], text) := by
            simp [RawData.getString]
          rw [if_neg (not_not_intro rfl), hstring, runOn_ok]
          rfl
        · intro code' text' last' heq hlast'
          obtain ⟨-, htext⟩ := errorBody_inj heq
          exact absurd (List.append_inj' htext rfl).2 (by simpa using Ne.symm hlast')
      · -- the code has been stored when the message is looked at
        rw [if_pos hlast, runOn_throw]
        constructor
        · rintro (⟨decoded, h, -⟩ | ⟨additionalInfo, h⟩) code' text' last' heq -
          · cases (Prod.ext_iff.mp h).1
          · obtain ⟨hcode, -⟩ := Packet.error.inj (Prod.ext_iff.mp h).2
            rw [← hcode, ← (errorBody_inj heq).1]
        · intro h
          have hcode : code = errorCode.value := h code text last rfl hlast
          exact Or.inr ⟨_, by rw [hcode]⟩

/-- A request is unharmed by the datagrams its members are unharmed by. -/
theorem allOrNothing_request_iff (build : RequestMembers → Packet)
    (hinj : Function.Injective build) (this : RequestMembers)
    (hassign : (build this).assign rawPacket =
      ((decodeInto packetType RequestMembers.decodeBody rawPacket this).1,
        build (decodeInto packetType RequestMembers.decodeBody rawPacket this).2))
    (hdecode : decodeAs (build this).type rawPacket = (do
      let (filename, mode, options) ← decodeRequest packetType rawPacket
      pure (build ⟨filename, mode, options⟩))) :
    AllOrNothing (build this) rawPacket ↔
      ∀ body, rawPacket = RawData.setInt packetType.opcode ++ body →
        RequestUnharmed this.filenameV this.modeV body := by
  rw [AllOrNothing, hassign, hdecode]
  rcases decodeHeader_rejected_or packetType rawPacket with ⟨-, h⟩ | ⟨body, rfl⟩
  · obtain ⟨additionalInfo, hinto⟩ := decodeInto_of_header h RequestMembers.decodeBody this
    rw [hinto]
    exact iff_of_true (Or.inr ⟨additionalInfo, rfl⟩) fun body heq => absurd heq (h body)
  · have hbody : (∀ body', RawData.setInt packetType.opcode ++ body =
        RawData.setInt packetType.opcode ++ body' →
          RequestUnharmed this.filenameV this.modeV body') ↔
        RequestUnharmed this.filenameV this.modeV body :=
      ⟨fun h => h body rfl, fun h _ heq => List.append_cancel_left heq ▸ h⟩
    rw [hbody, ← RequestMembers.unharmed_iff packetType, decodeInto_setInt]
    generalize (RequestMembers.decodeBody (RawData.setInt packetType.opcode ++ body)).runOn this =
      result
    obtain ⟨outcome, left⟩ := result
    dsimp only
    refine or_congr ⟨?_, ?_⟩ ⟨?_, ?_⟩
    · rintro ⟨decoded, hleft, hdecoded⟩
      obtain ⟨rfl, rfl⟩ := Prod.mk.inj hleft
      cases hrequest : decodeRequest packetType (RawData.setInt packetType.opcode ++ body) with
      | error e =>
        rw [hrequest] at hdecoded
        cases hdecoded
      | ok request =>
        rw [hrequest] at hdecoded
        obtain rfl := hinj (Except.ok.inj hdecoded)
        exact ⟨_, rfl, rfl⟩
    · rintro ⟨decoded, hleft, hdecoded⟩
      obtain ⟨rfl, rfl⟩ := Prod.mk.inj hleft
      exact ⟨_, rfl, by rw [hdecoded]; rfl⟩
    · rintro ⟨additionalInfo, hleft⟩
      obtain ⟨houtcome, hbuild⟩ := Prod.mk.inj hleft
      exact ⟨additionalInfo, by rw [houtcome, hinj hbuild]⟩
    · rintro ⟨additionalInfo, hleft⟩
      obtain ⟨rfl, rfl⟩ := Prod.mk.inj hleft
      exact ⟨additionalInfo, rfl⟩

end Bodies

/-- **When assigning a datagram is all or nothing**: exactly if the datagram leaves no part
of itself in the object. -/
theorem assign_allOrNothing_iff (packet : Packet) (rawPacket : RawData) :
    packet.AllOrNothing rawPacket ↔ packet.Unharmed rawPacket := by
  cases packet with
  | readRequest filename mode options =>
    exact allOrNothing_request_iff
      (fun this => .readRequest this.filenameV this.modeV this.optionsV)
      (fun this this' h => by cases this; cases this'; cases h; rfl)
      ⟨filename, mode, options⟩ rfl rfl
  | writeRequest filename mode options =>
    exact allOrNothing_request_iff
      (fun this => .writeRequest this.filenameV this.modeV this.optionsV)
      (fun this this' h => by cases this; cases this'; cases h; rfl)
      ⟨filename, mode, options⟩ rfl rfl
  | data blockNumber bytes => exact iff_of_true (allOrNothing_data _ _ _) trivial
  | acknowledgement blockNumber => exact iff_of_true (allOrNothing_acknowledgement _ _) trivial
  | error errorCode errorMessage => exact allOrNothing_error_iff _ _ _
  | optionsAcknowledgement options =>
    exact iff_of_true (allOrNothing_optionsAcknowledgement _ _) trivial

/-- **A request without a mode is refused, but it has brought its filename.** -/
theorem assign_takes_filename : ¬ ∀ (packet : Packet) (rawPacket : RawData),
    packet.AllOrNothing rawPacket := by
  intro h
  have hrun : assign (.readRequest (ascii "a") .octet SortedMap.empty) [0, 1, 98, 0] =
      (.error (.invalidPacket "No 0-termination for operation found"),
        .readRequest (ascii "b") .octet SortedMap.empty) := rfl
  rcases h (.readRequest (ascii "a") .octet SortedMap.empty) [0, 1, 98, 0] with
    ⟨decoded, heq, -⟩ | ⟨additionalInfo, heq⟩
  · rw [hrun] at heq
    cases (Prod.mk.inj heq).1
  · rw [hrun] at heq
    exact absurd (Packet.readRequest.inj (Prod.mk.inj heq).2).1 (by decide)

end Packet

end Tftp
