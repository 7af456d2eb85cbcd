import Tftp.DataHandlers
import Tftp.Packets.Codec

/-!
# The known options in a map

Requests and acknowledgements carry the known options as decimal numbers, among options
that the library does not know. `Tftp.TftpOptions.onto` puts them into a map in the way
that the client and the server do, and the rest of this file says what can be read from
such a map: the lookups, that the wire format carries it, and how long it is.
-/

namespace Tftp

open Protocol

namespace Options

/-- Puts a number into the map, if there is one and the name is not taken. -/
def emplaceNumber (options : Options) (name : RawData) : Option ℕ → Options
  | some value => SortedMap.emplace options name (stdToString value)
  | none => options

variable {options : Options} {name name' : RawData} {value : Option ℕ}

theorem find?_emplaceNumber :
    (options.emplaceNumber name value).find? name' =
      (SortedMap.find? options name').or
        (if name' = name then value.map stdToString else none) := by
  cases value with
  | none => simp [emplaceNumber]
  | some n =>
    refine (SortedMap.find?_emplace (m := options)).trans ?_
    -- both sides decide the equality of the names, in two ways
    congr

theorem nulFree_iff :
    options.NulFree ↔ ∀ name value, SortedMap.find? options name = some value →
      0 ∉ name ∧ 0 ∉ value := by
  constructor
  · intro h name value hfind
    exact h (name, value) (SortedMap.find?_eq_some.mp hfind)
  · rintro h ⟨name, value⟩ hx
    exact h name value (SortedMap.find?_eq_some.mpr hx)

theorem nulFree_empty : NulFree (SortedMap.empty : Options) := by
  intro x hx
  cases hx

/-- A number has no `NUL` in it. -/
theorem NulFree.emplaceNumber (h : options.NulFree) (hname : 0 ∉ name) :
    (options.emplaceNumber name value).NulFree := by
  rw [nulFree_iff] at *
  intro name' text hfind
  rw [find?_emplaceNumber, Option.or_eq_some_iff] at hfind
  rcases hfind with hfind | ⟨-, hfind⟩
  · exact h name' text hfind
  · split_ifs at hfind with heq
    obtain ⟨n, -, rfl⟩ := Option.map_eq_some_iff.mp hfind
    exact ⟨heq ▸ hname, zero_notMem_stdToString n⟩

theorem length_insertEntry (k v : RawData) (l : List (RawData × RawData)) :
    ((SortedMap.insertEntry k v l).flatMap fun x => x.1 ++ [0] ++ x.2 ++ [0]).length ≤
      (l.flatMap fun x => x.1 ++ [0] ++ x.2 ++ [0]).length + (k.length + v.length + 2) := by
  induction l with
  | nil =>
    simp [SortedMap.insertEntry]
    omega
  | cons x l ih =>
    obtain ⟨k₀, v₀⟩ := x
    rw [SortedMap.insertEntry]
    split_ifs <;> simp only [List.flatMap_cons, List.length_append, List.length_singleton] at * <;>
      omega

/-- One more option makes the wire format that much longer. -/
theorem length_rawOptions_emplaceNumber (options : Options) (name : RawData) (digits : ℕ)
    (hdigits : ∀ n, value = some n → (stdToString n).length ≤ digits) :
    (options.emplaceNumber name value).rawOptions.length ≤
      options.rawOptions.length + (name.length + digits + 2) := by
  cases value with
  | none => exact Nat.le_add_right _ _
  | some n =>
    have hlen := length_insertEntry name (stdToString n) options.entries
    have hn := hdigits n rfl
    simp only [rawOptions, emplaceNumber, SortedMap.emplace]
    omega

/-- Taking a number out, and what is left. -/
theorem getOption_known {width min max : ℕ}
    (h : SortedMap.find? options name = value.map stdToString)
    (hrange : ∀ n, value = some n → min ≤ n ∧ n ≤ max ∧ n < 2 ^ width ∧ n ≤ ullongMax) :
    ∃ remaining, options.getOption width name min max = ((true, value), remaining) ∧
      ∀ k, SortedMap.find? remaining k = if k = name then none else SortedMap.find? options k := by
  have hgone : ∀ k, SortedMap.find? (options.getOption width name min max).2 k =
      if k = name then none else SortedMap.find? options k := fun k => find?_getOption
  cases value with
  | none =>
    rw [getOption_absent h] at hgone ⊢
    exact ⟨options, rfl, hgone⟩
  | some n =>
    obtain ⟨hmin, hmax, hwidth, hull⟩ := hrange n rfl
    rw [getOption_number h hmin hmax hwidth hull] at hgone ⊢
    exact ⟨SortedMap.erase options name, rfl, hgone⟩

end Options

/-- A number below `10 ^ k` has at most `k` digits. -/
theorem length_stdToString {k : ℕ} : ∀ {n : ℕ}, n < 10 ^ (k + 1) →
    (stdToString n).length ≤ k + 1 := by
  induction k with
  | zero =>
    intro n h
    rw [stdToString_of_lt (by simpa using h)]
    rfl
  | succ k ih =>
    intro n h
    rcases Nat.lt_or_ge n 10 with hn | hn
    · rw [stdToString_of_lt hn]
      simp
    · rw [stdToString_of_le hn, List.length_append]
      have := ih (n := n / 10) (by rw [Nat.pow_succ] at h; omega)
      simpa using this

namespace TftpOptions

/-- The value of a known option, as a number. -/
def number (known : TftpOptions) : KnownOptions → Option ℕ
  | .blockSize => known.blockSize.map UInt16.toNat
  | .timeout => known.timeout.map UInt8.toNat
  | .transferSize => known.transferSize.map UInt64.toNat

/-- The known options, put into a map of other options. -/
def onto (known : TftpOptions) (additional : Options) : Options :=
  ((additional.emplaceNumber (tftpOptionsName .blockSize) (known.number .blockSize)).emplaceNumber
    (tftpOptionsName .timeout) (known.number .timeout)).emplaceNumber
      (tftpOptionsName .transferSize) (known.number .transferSize)

/-- No known option stands in the map. -/
def Lacks (additional : Options) : Prop :=
  ∀ option, SortedMap.find? additional (tftpOptionsName option) = none

/-- The values are those that the decoders accept. -/
structure InRange (known : TftpOptions) : Prop where
  blockSize : ∀ b, known.blockSize = some b →
    blockSizeOptionMin ≤ b.toNat ∧ b.toNat ≤ blockSizeOptionMax
  timeout : ∀ t, known.timeout = some t → timeoutOptionMin ≤ t.toNat

variable {known : TftpOptions} {additional : Options}

theorem lacks_empty : Lacks SortedMap.empty := fun _ => rfl

theorem tftpOptionsName_inj {o o' : KnownOptions} (h : tftpOptionsName o = tftpOptionsName o') :
    o = o' := by
  cases o <;> cases o' <;> first | rfl | exact absurd h (by decide)

theorem tftpOptionsName_ne {o o' : KnownOptions} (h : o ≠ o') :
    tftpOptionsName o ≠ tftpOptionsName o' := fun heq => h (tftpOptionsName_inj heq)

theorem zero_notMem_tftpOptionsName (o : KnownOptions) : 0 ∉ tftpOptionsName o := by
  cases o <;> decide

theorem find?_onto_ne {name : RawData} (h : ∀ o, name ≠ tftpOptionsName o) :
    (known.onto additional).find? name = SortedMap.find? additional name := by
  simp only [onto, Options.find?_emplaceNumber, if_neg (h _), Option.or_none]

/-- A known option is found as it was put in. -/
theorem find?_onto (h : Lacks additional) (o : KnownOptions) :
    (known.onto additional).find? (tftpOptionsName o) = (known.number o).map stdToString := by
  simp only [onto, Options.find?_emplaceNumber, h o, Option.none_or]
  cases o with
  | blockSize =>
    rw [if_pos rfl, if_neg (tftpOptionsName_ne (by decide)),
      if_neg (tftpOptionsName_ne (by decide)), Option.or_none, Option.or_none]
  | timeout =>
    rw [if_neg (tftpOptionsName_ne (by decide)), if_pos rfl,
      if_neg (tftpOptionsName_ne (by decide)), Option.none_or, Option.or_none]
  | transferSize =>
    rw [if_neg (tftpOptionsName_ne (by decide)), if_neg (tftpOptionsName_ne (by decide)),
      if_pos rfl, Option.none_or, Option.none_or]

theorem nulFree_onto (h : additional.NulFree) : (known.onto additional).NulFree :=
  ((h.emplaceNumber (zero_notMem_tftpOptionsName _)).emplaceNumber
    (zero_notMem_tftpOptionsName _)).emplaceNumber (zero_notMem_tftpOptionsName _)

section Taking

variable {m : Options}

theorem getOption_blockSize (hrange : known.InRange)
    (hfind : m.find? (tftpOptionsName .blockSize) = (known.number .blockSize).map stdToString) :
    ∃ remaining, m.getOption 16 (tftpOptionsName .blockSize) blockSizeOptionMin blockSizeOptionMax =
        ((true, known.number .blockSize), remaining) ∧
      ∀ k, remaining.find? k = if k = tftpOptionsName .blockSize then none else m.find? k := by
  refine Options.getOption_known hfind fun n hn => ?_
  obtain ⟨b, hb, rfl⟩ := Option.map_eq_some_iff.mp hn
  obtain ⟨hmin, hmax⟩ := hrange.blockSize b hb
  have hlt : b.toNat < 2 ^ 16 := b.toNat_lt
  exact ⟨hmin, hmax, hlt, by rw [ullongMax]; omega⟩

theorem getOption_timeout (hrange : known.InRange)
    (hfind : m.find? (tftpOptionsName .timeout) = (known.number .timeout).map stdToString) :
    ∃ remaining, m.getOption 8 (tftpOptionsName .timeout) timeoutOptionMin timeoutOptionMax =
        ((true, known.number .timeout), remaining) ∧
      ∀ k, remaining.find? k = if k = tftpOptionsName .timeout then none else m.find? k := by
  refine Options.getOption_known hfind fun n hn => ?_
  obtain ⟨t, ht, rfl⟩ := Option.map_eq_some_iff.mp hn
  have hlt : t.toNat < 2 ^ 8 := t.toNat_lt
  exact ⟨hrange.timeout t ht, by rw [timeoutOptionMax]; omega, hlt, by rw [ullongMax]; omega⟩

theorem getOption_transferSize
    (hfind : m.find? (tftpOptionsName .transferSize) =
      (known.number .transferSize).map stdToString) :
    ∃ remaining, m.getOption 64 (tftpOptionsName .transferSize) 0 ullongMax =
        ((true, known.number .transferSize), remaining) ∧
      ∀ k, remaining.find? k = if k = tftpOptionsName .transferSize then none else m.find? k := by
  refine Options.getOption_known hfind fun n hn => ?_
  obtain ⟨z, hz, rfl⟩ := Option.map_eq_some_iff.mp hn
  have hlt : z.toNat < 2 ^ 64 := z.toNat_lt
  exact ⟨Nat.zero_le _, by rw [ullongMax]; omega, hlt, by rw [ullongMax]; omega⟩

end Taking

/-- A map without options is one without any option put in. -/
theorem isEmpty_onto (h : Lacks additional) :
    (known.onto additional).isEmpty = true → known.isSet = false := by
  intro hempty
  rw [SortedMap.isEmpty_iff] at hempty
  have hnone : ∀ o, known.number o = none := fun o => by
    simpa [find?_onto h] using hempty (tftpOptionsName o)
  have hb := hnone .blockSize
  have ht := hnone .timeout
  have hz := hnone .transferSize
  simp only [number, Option.map_eq_none_iff] at hb ht hz
  simp [isSet, hb, ht, hz]

/-- The known options alone fit into any packet. -/
theorem length_rawOptions_onto :
    (known.onto additional).rawOptions.length ≤ additional.rawOptions.length + 53 := by
  have hblock := Options.length_rawOptions_emplaceNumber additional (tftpOptionsName .blockSize) 5
    fun n (hn : known.number .blockSize = some n) => by
      obtain ⟨b, -, rfl⟩ := Option.map_eq_some_iff.mp hn
      exact length_stdToString (by have := b.toNat_lt; omega)
  have htimeout := Options.length_rawOptions_emplaceNumber
    (additional.emplaceNumber (tftpOptionsName .blockSize) (known.number .blockSize))
    (tftpOptionsName .timeout) 3 fun n (hn : known.number .timeout = some n) => by
      obtain ⟨t, -, rfl⟩ := Option.map_eq_some_iff.mp hn
      exact length_stdToString (by have := t.toNat_lt; omega)
  have hsize := Options.length_rawOptions_emplaceNumber
    ((additional.emplaceNumber (tftpOptionsName .blockSize)
      (known.number .blockSize)).emplaceNumber (tftpOptionsName .timeout) (known.number .timeout))
    (tftpOptionsName .transferSize) 20 fun n (hn : known.number .transferSize = some n) => by
      obtain ⟨z, -, rfl⟩ := Option.map_eq_some_iff.mp hn
      exact length_stdToString (by have := z.toNat_lt; omega)
  have hnames : (tftpOptionsName .blockSize).length = 7 ∧ (tftpOptionsName .timeout).length = 7 ∧
      (tftpOptionsName .transferSize).length = 5 := by decide
  rw [onto]
  omega

end TftpOptions

/-- **A configuration whose block size can be negotiated.** -/
def TftpOptionsConfiguration.BlockSizeInRange (configuration : TftpOptionsConfiguration) : Prop :=
  ∀ b, configuration.blockSizeOption = some b →
    blockSizeOptionMin ≤ b.toNat ∧ b.toNat ≤ blockSizeOptionMax

/-- **A configuration whose timeout can be negotiated.** -/
def TftpOptionsConfiguration.TimeoutInRange (configuration : TftpOptionsConfiguration) : Prop :=
  ∀ t, configuration.timeoutOption = some t →
    (timeoutOptionMin : ℤ) ≤ t ∧ t ≤ (timeoutOptionMax : ℤ)

end Tftp
