import Tftp.Packets.RawData

/-!
# The file system

What the server asks `std::filesystem` for. A path is the list of its components, as an
iterator over it yields them: the root directory, if the path is absolute, the names, and an
empty component if the path ends with a slash.

A file system (`Tftp.FileSystem`) resolves a path to the file it names, and all that it says of
a path it says of that file. What the resolution does to links, and to `.` and `..`, is its own
affair; `Tftp.FileSystem.plain` is the file system without links, whose resolution is
`Tftp.Path.lexicallyNormal`.
-/

namespace Tftp

/-- A path: its components. -/
abbrev Path := List RawData

namespace Path

/-- The component for the root directory. -/
def rootDirectory : RawData := ascii "/"

/-- The path that a text stands for. -/
def ofText (text : RawData) : Path :=
  let names := (text.splitOn 47).filter fun name => !name.isEmpty
  let root : Path := if text.head? = some 47 then [rootDirectory] else []
  let trailing : Path := if !names.isEmpty ∧ text.getLast? = some 47 then [[]] else []
  root ++ names ++ trailing

/-- `is_absolute`. -/
def isAbsolute (path : Path) : Bool := path.head? = some rootDirectory

/-- The path without the empty component at its end. -/
def withoutTrailing (path : Path) : Path :=
  if path.getLast? = some [] then path.dropLast else path

/-- `operator/`: an absolute path replaces what is in front of it. -/
def append (path path' : Path) : Path :=
  if path'.isAbsolute then path'
  else if path'.isEmpty then
    -- a slash is added, unless there is one
    if path.getLast? = some rootDirectory ∨ path.isEmpty then path
    else path.withoutTrailing ++ [[]]
  else path.withoutTrailing ++ path'

/-- One component of a path that is resolved from the root directory on, without regard to
links. -/
def descend (names : Path) (component : RawData) : Path :=
  if component = rootDirectory ∨ component = ascii "." ∨ component = [] then names
  else if component = ascii ".." then names.dropLast
  else names ++ [component]

/-- The absolute path without `.` and `..`. -/
def lexicallyNormal (path : Path) : Path := rootDirectory :: path.foldl descend []

/-- A name that stands for itself. -/
def IsName (component : RawData) : Prop :=
  component ≠ rootDirectory ∧ component ≠ ascii "." ∧ component ≠ [] ∧ component ≠ ascii ".."

variable {path path' names : Path}

theorem foldl_descend_names (h : ∀ c ∈ path, IsName c) :
    path.foldl descend names = names ++ path := by
  induction path generalizing names with
  | nil => simp
  | cons c path ih =>
    obtain ⟨hc, hpath⟩ := List.forall_mem_cons.mp h
    obtain ⟨hroot, hdot, hempty, hdots⟩ := hc
    rw [List.foldl_cons, descend, if_neg (by simp [hroot, hdot, hempty]), if_neg hdots, ih hpath,
      List.append_assoc, List.singleton_append]

/-- Only names are left. -/
theorem isName_foldl_descend (h : ∀ c ∈ names, IsName c) :
    ∀ c ∈ path.foldl descend names, IsName c := by
  induction path generalizing names with
  | nil => exact h
  | cons component path ih =>
    refine ih fun c hc => ?_
    rw [descend] at hc
    split_ifs at hc with hskip hdots
    · exact h c hc
    · exact h c ((List.dropLast_sublist names).subset hc)
    · rcases List.mem_append.mp hc with hc | hc
      · exact h c hc
      · obtain rfl := List.mem_singleton.mp hc
        obtain ⟨hroot, hdot, hempty⟩ := (not_or.trans (and_congr_right fun _ => not_or)).mp hskip
        exact ⟨hroot, hdot, hempty, hdots⟩

theorem descend_rootDirectory : descend names rootDirectory = names := by
  rw [descend, if_pos (Or.inl rfl)]

/-- **A resolved path resolves to itself.** -/
theorem lexicallyNormal_lexicallyNormal :
    path.lexicallyNormal.lexicallyNormal = path.lexicallyNormal := by
  rw [lexicallyNormal, lexicallyNormal, List.foldl_cons, descend_rootDirectory,
    foldl_descend_names (isName_foldl_descend (by simp)), List.nil_append]

theorem foldl_withoutTrailing :
    path.withoutTrailing.foldl descend names = path.foldl descend names := by
  rw [withoutTrailing]
  split_ifs with h
  · -- the empty component is skipped
    obtain ⟨front, rfl⟩ := List.getLast?_eq_some_iff.mp h
    rw [List.dropLast_concat, List.foldl_append, List.foldl_cons, List.foldl_nil, descend,
      if_pos (by simp)]
  · rfl

/-- A relative path is resolved from the path in front of it on. -/
theorem foldl_append (h : path'.isAbsolute = false) :
    (path.append path').foldl descend names = path'.foldl descend (path.foldl descend names) := by
  rw [append, h, if_neg Bool.false_ne_true]
  split_ifs with hempty hroot
  · rw [List.isEmpty_iff.mp hempty, List.foldl_nil]
  · rw [List.isEmpty_iff.mp hempty, List.foldl_append, foldl_withoutTrailing, List.foldl_cons,
      List.foldl_nil, List.foldl_nil, descend, if_pos (by simp)]
  · rw [List.foldl_append, foldl_withoutTrailing]

/-- **What is in front of a path may be resolved first.** -/
theorem lexicallyNormal_append :
    (path.lexicallyNormal.append path').lexicallyNormal = (path.append path').lexicallyNormal := by
  rcases habs : path'.isAbsolute with _ | _
  · have hpath : path.lexicallyNormal.foldl descend [] = path.foldl descend [] :=
      (List.cons.inj lexicallyNormal_lexicallyNormal).2
    rw [lexicallyNormal, foldl_append habs, hpath, lexicallyNormal, foldl_append habs]
  · rw [append, append, if_pos habs, if_pos habs]

end Path

/-- `std::filesystem::file_type`, as far as it matters. -/
inductive FileType where
  | regular
  | directory
  /-- Anything else, such as a device. -/
  | other
  deriving DecidableEq, Repr

/-- A file system. -/
structure FileSystem where
  /-- The file that a path names, by the path without links, `.` and `..`; nothing if there is
  none, or if it cannot be told. -/
  resolve : Path → Option Path
  /-- `std::filesystem::weakly_canonical`: also resolves a path that names nothing. -/
  weaklyCanonical : Path → Option Path
  /-- The type of a file. -/
  fileType : Path → FileType
  /-- Whether a file can be opened to be read; a directory may be. -/
  readable : Path → Bool
  /-- Whether a path can be opened to be written, which creates the file. -/
  writable : Path → Bool
  /-- What is in a regular file. -/
  contents : Path → RawData
  resolve_resolve : ∀ path file, resolve path = some file → resolve file = some file
  /-- A directory may be resolved before what is below it. -/
  resolve_append : ∀ path directory path', resolve path = some directory →
    resolve (directory.append path') = resolve (path.append path')
  weaklyCanonical_eq : ∀ path file, resolve path = some file → weaklyCanonical path = some file

namespace FileSystem

/-- `std::filesystem::canonical`; nothing if there is an error. -/
def canonical (fs : FileSystem) (path : Path) : Option Path := fs.resolve path

/-- `std::filesystem::is_regular_file`: the answer, and whether the error code is set. A missing
file is an error. -/
def isRegularFile (fs : FileSystem) (path : Path) : Bool × Bool :=
  match fs.resolve path with
  | some file => (fs.fileType file = .regular, false)
  | none => (false, true)

/-- Whether a stream for input can be opened. -/
def opensIn (fs : FileSystem) (path : Path) : Bool :=
  match fs.resolve path with
  | some file => fs.readable file
  | none => false

/-- `std::filesystem::file_size`: nothing if it throws a `filesystem_error`, as it does for
anything but a regular file. -/
def fileSize (fs : FileSystem) (path : Path) : Option ℕ :=
  match fs.resolve path with
  | some file => if fs.fileType file = .regular then some (fs.contents file).length else none
  | none => none

/-- What is read from a path. -/
def contentsOf (fs : FileSystem) (path : Path) : RawData :=
  match fs.resolve path with
  | some file => fs.contents file
  | none => []

variable {fs : FileSystem} {path path' directory file : Path}

/-- **What the resolution of a path leads to is what the path leads to**, if that can be opened
at all. -/
theorem fileSize_isSome_iff (hdirectory : fs.canonical path = some directory)
    (hfile : fs.weaklyCanonical (directory.append path') = some file)
    (hopens : fs.opensIn (path.append path') = true) :
    (fs.fileSize (path.append path')).isSome ↔ (fs.isRegularFile file).1 = true := by
  have hresolve := fs.resolve_append path directory path' hdirectory
  rw [opensIn] at hopens
  cases hnamed : fs.resolve (path.append path') with
  | none => simp [hnamed] at hopens
  | some named =>
    rw [hnamed] at hresolve
    obtain rfl : named = file :=
      Option.some.inj ((fs.weaklyCanonical_eq _ _ hresolve).symm.trans hfile)
    rw [fileSize, isRegularFile, hnamed, fs.resolve_resolve _ _ hresolve]
    dsimp only
    split_ifs with h <;> simp [h]

/-- **The file system without links**: which files there are, of what type, and with what in
them. All of them can be opened, and written if they are no directories. -/
def plain (fileType : Path → Option FileType) (contents : Path → RawData) : FileSystem where
  resolve path :=
    if (fileType path.lexicallyNormal).isSome then some path.lexicallyNormal else none
  weaklyCanonical path := some path.lexicallyNormal
  fileType file := (fileType file).getD .other
  readable _ := true
  writable path := fileType path.lexicallyNormal ≠ some .directory
  contents := contents
  resolve_resolve path file h := by
    split_ifs at h with hthere
    obtain rfl := Option.some.inj h
    rw [Path.lexicallyNormal_lexicallyNormal, if_pos hthere]
  resolve_append path directory path' h := by
    split_ifs at h with hthere
    obtain rfl := Option.some.inj h
    rw [Path.lexicallyNormal_append]
  weaklyCanonical_eq path file h := by
    split_ifs at h with hthere
    exact h

end FileSystem

end Tftp
