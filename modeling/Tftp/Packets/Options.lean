import Tftp.Packets.Number
import Tftp.Protocol.SortedMap

/-!
# Option lists

The options of a request or an acknowledgement: a map from names to values, its
wire format (`Tftp.Options.rawOptions`, `Tftp.Options.options`), and the lookup
`Tftp.Options.getOption` that both sides negotiate with.

The wire format is name, `NUL`, value, `NUL`, entry after entry, so it can carry
exactly the maps without `NUL` bytes (`Tftp.Options.NulFree`), and those it
carries faithfully: `Tftp.Options.options_rawOptions`.
-/

namespace Tftp

open Protocol

/-- TFTP options (`std::map< std::string, std::string >`). -/
abbrev Options := SortedMap RawData RawData

/-- The known TFTP options. -/
inductive KnownOptions where
  /-- Block size option. -/
  | blockSize
  /-- Timeout option. -/
  | timeout
  /-- Transfer size option. -/
  | transferSize
  deriving DecidableEq, Repr

/-- `TftpOptions_name`: the name of a known option on the wire. -/
def tftpOptionsName : KnownOptions → RawData
  | .blockSize => ascii "blksize"
  | .timeout => ascii "timeout"
  | .transferSize => ascii "tsize"

/-- Minimum TFTP block size option. -/
def blockSizeOptionMin : ℕ := 8
/-- Maximum TFTP block size option. -/
def blockSizeOptionMax : ℕ := 65464
/-- Minimum TFTP timeout option. -/
def timeoutOptionMin : ℕ := 1
/-- Maximum TFTP timeout option. -/
def timeoutOptionMax : ℕ := 255

namespace Options

/-- `Options_rawOptions`: the options as they stand in a packet. -/
def rawOptions (options : Options) : RawData :=
  options.entries.flatMap fun x => x.1 ++ [0] ++ x.2 ++ [0]

/-- The loop of `Options_options`. Every round cuts a name and a value, each with
its terminator, off the front of the string, so the length of the string is fuel
enough. -/
def optionsLoop : ℕ → RawData → Options → Except DecodeError Options
  | _, [], options => .ok options
  | 0, _ :: _, _ => .error .outOfBounds
  | fuel + 1, optionsString, options =>
      match optionsString.idxOf? 0 with
      | none => .error (.invalidPacket "Unexpected end of input data")
      | some nameEnd =>
          let name := optionsString.take nameEnd
          let optionsString := optionsString.drop (nameEnd + 1)
          match optionsString.idxOf? 0 with
          | none => .error (.invalidPacket "Unexpected end of input data")
          | some valueEnd =>
              let value := optionsString.take valueEnd
              let optionsString := optionsString.drop (valueEnd + 1)
              optionsLoop fuel optionsString (options.emplace name value)

/-- `Options_options`: decodes the options of a packet. -/
def options (rawOptions : RawData) : Except DecodeError Options :=
  optionsLoop rawOptions.length rawOptions SortedMap.empty

/-- `Options_getOption`: takes the option out of the map and decodes it as an
unsigned integer of `width` bits. The flag is whether the option is absent or
was decoded; the map is the one without the option. -/
def getOption (width : ℕ) (options : Options) (name : RawData) (min max : ℕ) :
    (Bool × Option ℕ) × Options :=
  match options.find? name with
  | none => ((true, none), options)
  | some optionString =>
      let options := options.erase name
      if optionString.isEmpty then ((false, none), options)
      else
        match stdStoull optionString with
        | .error _ => ((false, none), options)
        | .ok optionValue =>
            if optionValue < min ∨ max < optionValue then ((false, none), options)
            else ((true, some (optionValue % 2 ^ width)), options)

/-! ### The wire format carries the maps without `NUL` -/

/-- No name and no value contains a `NUL`. -/
def NulFree (options : Options) : Prop := ∀ x ∈ options.entries, 0 ∉ x.1 ∧ 0 ∉ x.2

theorem idxOf?_zero {text rest : RawData} (h : 0 ∉ text) :
    (text ++ 0 :: rest).idxOf? 0 = some text.length := by
  induction text with
  | nil => simp [List.idxOf?_cons]
  | cons b text ih =>
    have hb : b ≠ 0 := fun hb => h (hb ▸ List.mem_cons_self)
    have ht : 0 ∉ text := fun ht => h (List.mem_cons_of_mem _ ht)
    rw [List.cons_append, List.idxOf?_cons, if_neg (by simpa using hb), ih ht]
    rfl

/-- One round of the loop takes one entry off the front. -/
theorem optionsLoop_entry {fuel : ℕ} {name value rest : RawData} {options : Options}
    (hn : 0 ∉ name) (hv : 0 ∉ value) :
    optionsLoop (fuel + 1) (name ++ [0] ++ value ++ [0] ++ rest) options =
      optionsLoop fuel rest (options.emplace name value) := by
  have hsplit : name ++ [0] ++ value ++ [0] ++ rest = name ++ 0 :: (value ++ 0 :: rest) := by simp
  obtain ⟨b, tail, hcons⟩ : ∃ b tail, name ++ 0 :: (value ++ 0 :: rest) = b :: tail := by
    cases name <;> simp
  rw [hsplit, hcons, optionsLoop, ← hcons, idxOf?_zero hn]
  have hdrop : (name ++ 0 :: (value ++ 0 :: rest)).drop (name.length + 1) = value ++ 0 :: rest := by
    simp
  simp only [hdrop, idxOf?_zero hv, List.take_left']
  have hdrop' : (value ++ 0 :: rest).drop (value.length + 1) = rest := by simp
  rw [hdrop']
  simp

theorem optionsLoop_entries : ∀ (l : List (RawData × RawData)) (fuel : ℕ) (options : Options),
    (∀ x ∈ l, 0 ∉ x.1 ∧ 0 ∉ x.2) → l.length ≤ fuel →
    optionsLoop fuel (l.flatMap fun x => x.1 ++ [0] ++ x.2 ++ [0]) options =
      .ok (l.foldl (fun m x => m.emplace x.1 x.2) options)
  | [], fuel, options, _, _ => by
    cases fuel <;> rfl
  | x :: l, 0, options, _, hfuel => by simp at hfuel
  | x :: l, fuel + 1, options, hl, hfuel => by
    have hx := hl x List.mem_cons_self
    rw [List.flatMap_cons, optionsLoop_entry hx.1 hx.2, List.foldl_cons]
    exact optionsLoop_entries l fuel _ (fun y hy => hl y (List.mem_cons_of_mem _ hy))
      (Nat.le_of_succ_le_succ hfuel)

theorem length_le_rawOptions (l : List (RawData × RawData)) :
    l.length ≤ (l.flatMap fun x => x.1 ++ [0] ++ x.2 ++ [0]).length := by
  induction l with
  | nil => simp
  | cons x l ih =>
    simp only [List.flatMap_cons, List.length_cons, List.length_append]
    omega

/-- **Encoded options are decoded again.** -/
theorem options_rawOptions {m : Options} (h : m.NulFree) :
    Options.options m.rawOptions = .ok m := by
  rw [Options.options, rawOptions, optionsLoop_entries _ _ _ h (length_le_rawOptions _),
    SortedMap.foldl_emplace_entries]

/-! ### Taking an option out -/

section GetOption

variable {width min max : ℕ} {m : Options} {name name' : RawData}

theorem getOption_absent (h : m.find? name = none) :
    getOption width m name min max = ((true, none), m) := by
  rw [getOption, h]

/-- An option that was put in as a number is taken out as that number, if it is in
range. -/
theorem getOption_number {n : ℕ} (h : m.find? name = some (stdToString n)) (hmin : min ≤ n)
    (hmax : n ≤ max) (hwidth : n < 2 ^ width) (hull : n ≤ ullongMax) :
    getOption width m name min max = ((true, some n), m.erase name) := by
  have hne : (stdToString n).isEmpty = false := by simpa using stdToString_ne_nil n
  rw [getOption, h]
  simp only [hne, Bool.false_eq_true, if_false, stdStoull_stdToString hull]
  rw [if_neg (by omega), Nat.mod_eq_of_lt hwidth]

/-- The option taken out is gone, the others are untouched. -/
theorem find?_getOption :
    (getOption width m name min max).2.find? name' =
      if name' = name then none else m.find? name' := by
  rw [getOption]
  rcases h : m.find? name with _ | optionString
  · split_ifs with hn
    · rw [hn, h]
    · rfl
  · dsimp only
    split_ifs with he hn hn
    · rw [SortedMap.find?_erase, if_pos hn]
    · rw [SortedMap.find?_erase, if_neg hn]
    · split <;> (try split_ifs) <;> rw [SortedMap.find?_erase, if_pos hn]
    · split <;> (try split_ifs) <;> rw [SortedMap.find?_erase, if_neg hn]

/-- A value that is taken out is in range. -/
theorem getOption_value {n : ℕ} (h : (getOption width m name min max).1.2 = some n)
    (hwidth : max < 2 ^ width) : min ≤ n ∧ n ≤ max := by
  rw [getOption] at h
  rcases hf : m.find? name with _ | optionString
  · simp [hf] at h
  · simp only [hf] at h
    split_ifs at h with he
    cases hs : stdStoull optionString with
    | error e => simp [hs] at h
    | ok optionValue =>
      simp only [hs] at h
      split_ifs at h with hr
      obtain rfl := Option.some.inj h
      rw [Nat.mod_eq_of_lt (by omega)]
      omega

/-! ### What is accepted -/

/-- **Exactly the decimal numbers in range are accepted**, and the option alone is taken out. -/
def TakesDecimal (width : ℕ) (m : Options) (name : RawData) (min max : ℕ) : Prop :=
  match m.find? name with
  | none => getOption width m name min max = ((true, none), m)
  | some text =>
      (∀ name', (getOption width m name min max).2.find? name' =
        if name' = name then none else m.find? name') ∧
      (getOption width m name min max).1 =
        if IsDecimal text ∧ min ≤ digitsValue text ∧ digitsValue text ≤ max then
          (true, some (digitsValue text))
        else (false, none)

/-- What becomes of a value is up to `std::stoull` and the range. -/
theorem getOption_present {text : RawData} (h : m.find? name = some text)
    (hmax : max < 2 ^ width) :
    (getOption width m name min max).1 =
      match stdStoull text with
      | .ok n => if n < min ∨ max < n then (false, none) else (true, some n)
      | .error _ => (false, none) := by
  rw [getOption, h]
  dsimp only
  split_ifs with hempty
  · -- there is no digit in an empty string
    rw [List.isEmpty_iff.mp hempty]
    rfl
  · cases stdStoull text with
    | error e => rfl
    | ok n =>
      dsimp only
      split_ifs with hrange
      · rfl
      · rw [Nat.mod_eq_of_lt (by omega)]

/-- What becomes of an option is a matter of its own value. -/
theorem getOption_congr {m' : Options} (h : m.find? name = m'.find? name) :
    (m.getOption width name min max).1 = (m'.getOption width name min max).1 := by
  rw [getOption, getOption, h]
  cases m'.find? name with
  | none => rfl
  | some text =>
    dsimp only
    split_ifs
    · rfl
    · cases stdStoull text with
      | error e => rfl
      | ok n =>
        dsimp only
        split_ifs <;> rfl

/-- An option that is there is decoded to a number in range, or not at all. -/
theorem getOption_decoded (width min max : ℕ) (h : (m.find? name).isSome) (hmax : max < 2 ^ width) :
    (m.getOption width name min max).1 = (false, none) ∨
      ∃ n, (m.getOption width name min max).1 = (true, some n) ∧ min ≤ n ∧ n ≤ max := by
  obtain ⟨text, htext⟩ := Option.isSome_iff_exists.mp h
  rw [getOption_present htext hmax]
  cases stdStoull text with
  | error e => exact Or.inl rfl
  | ok n =>
    dsimp only
    split_ifs with hrange
    · exact Or.inl rfl
    · exact Or.inr ⟨n, rfl, by omega, by omega⟩

/-- **When an option is taken for a decimal number**: it is one, or `std::stoull` does not read a
number in range from it either. -/
theorem takesDecimal_iff (width : ℕ) (m : Options) (name : RawData) (min max : ℕ)
    (hwidth : width ≤ 64) (hmax : max < 2 ^ width) :
    TakesDecimal width m name min max ↔ ∀ text, m.find? name = some text →
      IsDecimal text ∨ ∀ n, stdStoull text = .ok n → n < min ∨ max < n := by
  have hull : max ≤ ullongMax := by
    have hpow : 2 ^ width ≤ 2 ^ 64 := Nat.pow_le_pow_right (by norm_num) hwidth
    rw [ullongMax]
    omega
  rw [TakesDecimal]
  rcases hfind : m.find? name with _ | text
  · exact iff_of_true (getOption_absent hfind) (by rintro _ ⟨⟩)
  · dsimp only
    rw [getOption_present hfind hmax]
    by_cases hdecimal : IsDecimal text
    · -- a decimal number is read as its value, unless it is too large for any range
      refine iff_of_true ⟨fun _ => find?_getOption, ?_⟩ fun text' heq => ?_
      · rcases Nat.lt_or_ge ullongMax (digitsValue text) with hlarge | hsmall
        · rw [stdStoull_large hdecimal.1 hdecimal.2 hlarge, if_neg (by omega)]
        · rw [stdStoull_digits hdecimal.1 hdecimal.2 hsmall]
          dsimp only
          split_ifs with hrange hboth hboth
          · omega
          · rfl
          · rfl
          · exact absurd ⟨hdecimal, by omega, by omega⟩ hboth
      · exact Or.inl (Option.some.inj heq ▸ hdecimal)
    · -- anything else is accepted if a number in range can be read from it
      rw [if_neg fun h => hdecimal h.1]
      constructor
      · rintro ⟨-, heq⟩ text' htext
        obtain rfl := Option.some.inj htext
        refine Or.inr fun n hn => ?_
        rw [hn] at heq
        dsimp only at heq
        by_contra hrange
        rw [if_neg hrange] at heq
        cases heq
      · intro h
        refine ⟨fun _ => find?_getOption, ?_⟩
        have hn := (h text rfl).resolve_left hdecimal
        cases hread : stdStoull text with
        | error e => rfl
        | ok n => exact if_pos (hn n hread)

end GetOption

/-- The options of a request that asks for the given block size. -/
def blockSizeText (text : String) : Options :=
  SortedMap.empty.emplace (tftpOptionsName .blockSize) (ascii text)

/-- A block size of 512 is taken for what it is. -/
theorem takesDecimal_512 : TakesDecimal 16 (blockSizeText "512") (tftpOptionsName .blockSize)
    blockSizeOptionMin blockSizeOptionMax := by
  refine (takesDecimal_iff _ _ _ _ _ (by decide) (by decide)).mpr fun text heq => Or.inl ?_
  have hfind : (blockSizeText "512").find? (tftpOptionsName .blockSize) = some (ascii "512") := by
    decide
  obtain rfl := Option.some.inj (hfind.symm.trans heq)
  decide +kernel

/-- **A number with something behind it** is accepted all the same. -/
theorem accepts_trailing_characters : ¬ TakesDecimal 16 (blockSizeText "512x")
    (tftpOptionsName .blockSize) blockSizeOptionMin blockSizeOptionMax := by
  rintro ⟨-, h⟩
  exact absurd h (by decide +kernel)

end Options

end Tftp
