import Mathlib.Data.List.Infix
import Tftp.Files.FileSystem

/-!
# The check of a filename

`checkFilename`: resolves what a client asks for, and accepts it if it is below the base
directory. The two component lists are compared by a `std::equal` that is told where the base
directory ends but not where the file path ends (`Tftp.Servers.stdEqual`), so it reads beyond the
end of a file path that the base directory begins with
(`Tftp.Servers.stdEqual_eq_none_iff`), which is what `..` resolves to.
-/

namespace Tftp.Servers

section Equal

variable {α : Type*} [DecidableEq α]

/-- `std::equal` with three iterators: compares the first range with as many elements from the
beginning of the second one; nothing if that reads beyond the end of the second one. -/
def stdEqual : List α → List α → Option Bool
  | [], _ => some true
  | _ :: _, [] => none
  | a :: as, b :: bs => if a = b then stdEqual as bs else some false

variable {as bs : List α}

/-- **Ranges are equal if the second one begins with the first one.** -/
theorem stdEqual_eq_true_iff : stdEqual as bs = some true ↔ as <+: bs := by
  fun_induction stdEqual as bs with
  | case1 bs => simp
  | case2 a as => simp
  | case3 as b bs ih => rw [ih, List.cons_prefix_cons, eq_self, true_and]
  | case4 a as b bs hne => simp [List.cons_prefix_cons, hne]

/-- **The second range is left** exactly if the first one begins with it and goes on. -/
theorem stdEqual_eq_none_iff : stdEqual as bs = none ↔ bs <+: as ∧ bs ≠ as := by
  fun_induction stdEqual as bs with
  | case1 bs => simp +contextual
  | case2 a as => simp
  | case3 as b bs ih =>
    rw [ih, List.cons_prefix_cons, eq_self, true_and, Ne, Ne, List.cons_inj_right]
  | case4 a as b bs hne => simp [List.cons_prefix_cons, Ne.symm hne]

end Equal

/-- What comes of the check of a filename. -/
inductive CheckedFilename where
  /-- A component beyond the last one of the file path was read. -/
  | beyondEnd
  /-- `std::nullopt`. -/
  | rejected
  /-- The path of the file. -/
  | accepted (filePath : Path)
  deriving DecidableEq

/-- `checkFilename`. -/
def checkFilename (fs : FileSystem) (baseDir filename : Path) (mustExist : Bool) :
    CheckedFilename :=
  match fs.canonical baseDir with
  | none => .rejected
  | some canonicalBaseDir =>
      match fs.weaklyCanonical (canonicalBaseDir.append filename) with
      | none => .rejected
      | some filePath =>
          match stdEqual canonicalBaseDir filePath with
          | none => .beyondEnd
          | some false => .rejected
          | some true =>
              let (isRegular, errorCode) := fs.isRegularFile filePath
              if mustExist && !isRegular && errorCode then .rejected else .accepted filePath

/-- The base directory and what is asked for, resolved. -/
def resolved (fs : FileSystem) (baseDir filename : Path) : Option (Path × Path) :=
  (fs.canonical baseDir).bind fun canonicalBaseDir =>
    (fs.weaklyCanonical (canonicalBaseDir.append filename)).map fun filePath =>
      (canonicalBaseDir, filePath)

/-- What is asked for is the base directory, or below it. -/
def Below (fs : FileSystem) (baseDir filename filePath : Path) : Prop :=
  ∃ r ∈ resolved fs baseDir filename, r.2 = filePath ∧ r.1 <+: filePath

/-- The base directory is below what is asked for. -/
def Above (fs : FileSystem) (baseDir filename : Path) : Prop :=
  ∃ r ∈ resolved fs baseDir filename, r.2 <+: r.1 ∧ r.2 ≠ r.1

instance : Decidable (Above fs baseDir filename) :=
  inferInstanceAs (Decidable (∃ r ∈ resolved fs baseDir filename, r.2 <+: r.1 ∧ r.2 ≠ r.1))

instance : Decidable (Below fs baseDir filename filePath) :=
  inferInstanceAs
    (Decidable (∃ r ∈ resolved fs baseDir filename, r.2 = filePath ∧ r.1 <+: filePath))

variable {fs : FileSystem} {baseDir filename canonicalBaseDir filePath : Path} {mustExist : Bool}

theorem checkFilename_of_none (h : resolved fs baseDir filename = none) :
    checkFilename fs baseDir filename mustExist = .rejected := by
  rw [checkFilename]
  rw [resolved] at h
  cases hbase : fs.canonical baseDir with
  | none => rfl
  | some canonicalBaseDir =>
    rw [hbase, Option.bind_some, Option.map_eq_none_iff] at h
    dsimp only
    rw [h]

/-- What comes of the check is up to the comparison, and to whether there has to be a file. -/
theorem checkFilename_of_some
    (h : resolved fs baseDir filename = some (canonicalBaseDir, filePath)) :
    checkFilename fs baseDir filename mustExist =
      match stdEqual canonicalBaseDir filePath with
      | none => .beyondEnd
      | some false => .rejected
      | some true =>
          if mustExist && !(fs.isRegularFile filePath).1 && (fs.isRegularFile filePath).2 then
            .rejected
          else .accepted filePath := by
  obtain ⟨base, hbase, hmap⟩ := Option.bind_eq_some_iff.mp h
  obtain ⟨file, hfile, heq⟩ := Option.map_eq_some_iff.mp hmap
  obtain ⟨rfl, rfl⟩ := Prod.mk.inj heq
  rw [checkFilename, hbase]
  dsimp only
  rw [hfile]

theorem below_iff (h : resolved fs baseDir filename = some (canonicalBaseDir, filePath))
    {filePath' : Path} : Below fs baseDir filename filePath' ↔
      filePath = filePath' ∧ stdEqual canonicalBaseDir filePath = some true := by
  rw [Below, h, stdEqual_eq_true_iff]
  constructor
  · rintro ⟨-, ⟨⟩, rfl, hprefix⟩
    exact ⟨rfl, hprefix⟩
  · rintro ⟨rfl, hprefix⟩
    exact ⟨_, rfl, rfl, hprefix⟩

theorem above_iff (h : resolved fs baseDir filename = some (canonicalBaseDir, filePath)) :
    Above fs baseDir filename ↔ stdEqual canonicalBaseDir filePath = none := by
  rw [Above, h, stdEqual_eq_none_iff]
  constructor
  · rintro ⟨-, ⟨⟩, habove⟩
    exact habove
  · intro habove
    exact ⟨_, rfl, habove⟩

/-- **What is accepted**: what was asked for, if that is below the base directory and, in case it
has to exist, is a regular file or does not make the test fail. -/
theorem checkFilename_eq_accepted_iff :
    checkFilename fs baseDir filename mustExist = .accepted filePath ↔
      Below fs baseDir filename filePath ∧ (mustExist = true →
        (fs.isRegularFile filePath).1 = true ∨ (fs.isRegularFile filePath).2 = false) := by
  cases hr : resolved fs baseDir filename with
  | none => simp [checkFilename_of_none hr, Below, hr]
  | some r =>
    obtain ⟨base, file⟩ := r
    rw [checkFilename_of_some hr, below_iff hr]
    rcases stdEqual base file with _ | _ | _
    · simp
    · simp
    · constructor
      · intro h
        dsimp only at h
        split_ifs at h with hmust
        cases h
        refine ⟨⟨rfl, rfl⟩, fun hexist => ?_⟩
        rw [hexist, Bool.true_and, Bool.and_eq_true, Bool.not_eq_true', not_and] at hmust
        by_contra hnot
        obtain ⟨hregular, herror⟩ := not_or.mp hnot
        exact hmust (Bool.eq_false_iff.mpr hregular) (Bool.eq_true_of_not_eq_false herror)
      · rintro ⟨⟨rfl, -⟩, hexist⟩
        refine if_neg fun hmust => ?_
        simp only [Bool.and_eq_true, Bool.not_eq_true'] at hmust
        obtain ⟨⟨hmust, hregular⟩, herror⟩ := hmust
        rcases hexist hmust with h | h
        · cases hregular.symm.trans h
        · cases herror.symm.trans h

/-- **The comparison leaves the file path** exactly if that is above the base directory. -/
theorem checkFilename_eq_beyondEnd_iff :
    checkFilename fs baseDir filename mustExist = .beyondEnd ↔ Above fs baseDir filename := by
  cases hr : resolved fs baseDir filename with
  | none => simp [checkFilename_of_none hr, Above, hr]
  | some r =>
    obtain ⟨base, file⟩ := r
    rw [checkFilename_of_some hr, above_iff hr]
    rcases stdEqual base file with _ | _ | _
    · simp
    · simp
    · dsimp only
      split_ifs <;> simp

/-- **The check is contained**: no component beyond the last one of the file path is read, and what
is accepted is the file path and below the base directory; anything else is rejected. -/
structure Contained (fs : FileSystem) (baseDir filename : Path) (mustExist : Bool) : Prop where
  within : checkFilename fs baseDir filename mustExist ≠ .beyondEnd
  accepted : ∀ filePath, checkFilename fs baseDir filename mustExist = .accepted filePath →
    Below fs baseDir filename filePath
  rejected : (∀ filePath, ¬ Below fs baseDir filename filePath) →
    checkFilename fs baseDir filename mustExist = .rejected

/-- **When the check is contained**: unless the file path is above the base directory. -/
theorem contained_iff (fs : FileSystem) (baseDir filename : Path) (mustExist : Bool) :
    Contained fs baseDir filename mustExist ↔ ¬ Above fs baseDir filename := by
  constructor
  · intro h habove
    exact h.within (checkFilename_eq_beyondEnd_iff.mpr habove)
  · intro habove
    -- nothing is left but acceptance, and that is of what is below
    have hwithin : checkFilename fs baseDir filename mustExist ≠ .beyondEnd := fun h =>
      habove (checkFilename_eq_beyondEnd_iff.mp h)
    refine ⟨hwithin, fun filePath h => (checkFilename_eq_accepted_iff.mp h).1, fun hnot => ?_⟩
    cases hcheck : checkFilename fs baseDir filename mustExist with
    | beyondEnd => exact absurd hcheck hwithin
    | rejected => rfl
    | accepted filePath => exact absurd (checkFilename_eq_accepted_iff.mp hcheck).1 (hnot filePath)

/-- A server that offers what is below `/srv/tftp`, where there is one file. -/
def smallFiles : FileSystem :=
  .plain
    (fun file =>
      if file = Path.ofText (ascii "/srv/tftp/f") then some .regular
      else if file <+: Path.ofText (ascii "/srv/tftp") then some .directory
      else none)
    fun _ => [97, 98, 99]

/-- The check of a filename there. -/
abbrev smallCheck (filename : String) : Prop :=
  Contained smallFiles (Path.ofText (ascii "/srv/tftp")) (Path.ofText (ascii filename)) true

/-- What is next to the base directory is rejected, even if its name begins in the same way. -/
theorem contained_sibling : smallCheck "../tftp-x/f" :=
  (contained_iff _ _ _ _).mpr (by decide)

/-- **The parent of the base directory** is compared beyond its end. -/
theorem not_contained_parent : ¬ smallCheck ".." := by
  intro h
  exact h.within (by decide)

end Tftp.Servers
