import Mathlib.Data.List.AList

/-!
# The Go runtime under the file monitor

The file monitor of `share/fsmon/monitor.go` calls into Go's `strings`, `path/filepath` and
`regexp`, into the agent's shared packages (`global.SYS`, `osutil`, `utils.Set`) and into the
host's file system.  This module fixes how the model sees each of them.

* Go strings are Lean strings, and the few `strings` functions the monitor uses are written over
  their characters, which are the bytes of the ASCII paths the monitor handles.
* Event masks are `uint32` values that the monitor only combines with `|` and `&`; they are
  natural numbers here, since no such combination can overflow.
* The pure functions of the platform (path parsing, `filepath`, `regexp`, the package tables of
  `osutil`) are the fields of a `Platform`, and every result holds for every platform.
* `utils.Set` of strings is `StrSet`, a list without repetitions; a Go map is an `AList`.
-/

namespace Fsmon

/-! ### Inotify event bits -/

/-- `syscall.IN_ACCESS`. -/
def inAccess : Nat := 0x1

/-- `syscall.IN_MODIFY`. -/
def inModify : Nat := 0x2

/-- `syscall.IN_ATTRIB`. -/
def inAttrib : Nat := 0x4

/-- `syscall.IN_CLOSE_WRITE`. -/
def inCloseWrite : Nat := 0x8

/-- `syscall.IN_MOVED_FROM`. -/
def inMovedFrom : Nat := 0x40

/-- `syscall.IN_MOVED_TO`. -/
def inMovedTo : Nat := 0x80

/-- `syscall.IN_CREATE`. -/
def inCreate : Nat := 0x100

/-- `syscall.IN_DELETE`. -/
def inDelete : Nat := 0x200

/-- `syscall.IN_DELETE_SELF`. -/
def inDeleteSelf : Nat := 0x400

/-- `syscall.IN_MOVE_SELF`. -/
def inMoveSelf : Nat := 0x800

/-- `syscall.IN_UNMOUNT`. -/
def inUnmount : Nat := 0x2000

/-- `syscall.IN_IGNORED`. -/
def inIgnored : Nat := 0x8000

/-- `syscall.IN_ISDIR`. -/
def inIsdir : Nat := 0x40000000

/-- `syscall.IN_MOVE`. -/
def inMove : Nat := inMovedFrom ||| inMovedTo

/-- The bits that show the watched inode itself moved. -/
def inodeMovedMask : Nat := inMove ||| inMoveSelf ||| inMovedTo

/-! ### Event kinds and their messages -/

/-- `fileEventAttr` and the kinds after it are the bits `1 << iota`. -/
def fileEventAttr : Nat := 1 <<< 0
/-- The `iota` bit of `fileEventDirAttr`. -/
def fileEventDirAttr : Nat := 1 <<< 1
/-- The `iota` bit of `fileEventCreate`. -/
def fileEventCreate : Nat := 1 <<< 2
/-- The `iota` bit of `fileEventModified`. -/
def fileEventModified : Nat := 1 <<< 3
/-- The `iota` bit of `fileEventRemoved`. -/
def fileEventRemoved : Nat := 1 <<< 4
/-- The `iota` bit of `fileEventSymCreate`. -/
def fileEventSymCreate : Nat := 1 <<< 5
/-- The `iota` bit of `fileEventSymModified`. -/
def fileEventSymModified : Nat := 1 <<< 6
/-- The `iota` bit of `fileEventDirSymCreate`. -/
def fileEventDirSymCreate : Nat := 1 <<< 7
/-- The `iota` bit of `fileEventDirSymModified`. -/
def fileEventDirSymModified : Nat := 1 <<< 8
/-- The `iota` bit of `fileEventReplaced`. -/
def fileEventReplaced : Nat := 1 <<< 9
/-- The `iota` bit of `fileEventDirCreate`. -/
def fileEventDirCreate : Nat := 1 <<< 10
/-- The `iota` bit of `fileEventDirRemoved`. -/
def fileEventDirRemoved : Nat := 1 <<< 11
/-- The `iota` bit of `fileEventAccessed`. -/
def fileEventAccessed : Nat := 1 <<< 12
/-- The `iota` bit of `fileEventDenied`. -/
def fileEventDenied : Nat := 1 <<< 13
/-- The `iota` bit of `fileEventMovedFrom`. -/
def fileEventMovedFrom : Nat := 1 <<< 14
/-- The `iota` bit of `fileEventMovedTo`. -/
def fileEventMovedTo : Nat := 1 <<< 15
/-- The `iota` bit of `fileEventDirMovedFrom`. -/
def fileEventDirMovedFrom : Nat := 1 <<< 16
/-- The `iota` bit of `fileEventDirMovedTo`. -/
def fileEventDirMovedTo : Nat := 1 <<< 17

/-- The map literal `fileEventMsg`, entry by entry. -/
def fileEventMsgs : List (Nat × String) :=
  [(fileEventAttr, "File attribute is changed."),
   (fileEventDirAttr, "Directory attribute is changed."),
   (fileEventModified, "File was modified."),
   (fileEventReplaced, "File was replaced."),
   (fileEventCreate, "File created in watched directory."),
   (fileEventRemoved, "File deleted from watched directory."),
   (fileEventSymCreate, "File symlink was created."),
   (fileEventSymModified, "File symlink was modified."),
   (fileEventDirSymCreate, "Directory symlink was created."),
   (fileEventDirSymModified, "Directory symlink was modified."),
   (fileEventDirCreate, "Directory was created."),
   (fileEventDirRemoved, "Directory was deleted."),
   (fileEventAccessed, "File was accessed."),
   (fileEventDenied, "File access was denied."),
   (fileEventMovedFrom, "File was moved from."),
   (fileEventMovedTo, "File was moved to."),
   (fileEventDirMovedFrom, "Directory was moved from."),
   (fileEventDirMovedTo, "Directory was moved to.")]

/-- `fileEventMsg[event]`, with `none` for a kind the map does not hold. -/
def fileEventMsg (event : Nat) : Option String :=
  fileEventMsgs.lookup event

/-! ### File modes and hashes -/

/-- `os.ModeDir`, the top bit of an `os.FileMode`. -/
def modeDir : Nat := 1 <<< 31

/-- `os.ModeSymlink`. -/
def modeSymlink : Nat := 1 <<< 27

/-- `FileMode.IsDir()`. -/
def modeIsDir (mode : Nat) : Bool :=
  mode &&& modeDir != 0

/-- Modelled from the spec: `osutil.HashZero`; a content hash is a number and "zero hash means
never computed". -/
def hashZero (hash : Nat) : Bool :=
  hash == 0

/-! ### Strings -/

/-- `strings.HasPrefix`. -/
def hasPrefix (s pre : String) : Bool :=
  pre.data.isPrefixOf s.data

/-- `strings.HasSuffix`. -/
def hasSuffix (s suf : String) : Bool :=
  suf.data.isSuffixOf s.data

/-- `strings.Replace(s, "\\.", ".", -1)` on the characters of `s`: each escaped dot, left to
right, becomes a dot. -/
def unescapeDots : List Char → List Char
  | '\\' :: '.' :: rest => '.' :: unescapeDots rest
  | c :: rest => c :: unescapeDots rest
  | [] => []

/-- `strings.Index`: the position of the first occurrence of `sub`, if there is one. -/
def strIndex (sub : List Char) : List Char → Option Nat
  | [] => if sub.isEmpty then some 0 else none
  | c :: cs => if sub.isPrefixOf (c :: cs) then some 0 else (strIndex sub cs).map (· + 1)

/-! ### The platform -/

/-- The pure functions the monitor takes from Go's libraries and from the agent's shared
packages.  A compiled regular expression is the pattern it was compiled from. -/
structure Platform where
  /-- `global.SYS.ParseContainerFilePath`: the root pid and in-container path of a host path. -/
  parseContainerFilePath : String → Int × String
  /-- `global.SYS.ContainerFilePath`: the host path of an in-container path. -/
  containerFilePath : Int → String → String
  /-- `filepath.Dir`. -/
  dir : String → String
  /-- `filepath.Base`. -/
  base : String → String
  /-- `filepath.Join` of two elements. -/
  join : String → String → String
  /-- `filepath.IsAbs`. -/
  isAbs : String → Bool
  /-- Whether `regexp.Compile` accepts a pattern. -/
  regexCompiles : String → Bool
  /-- `MatchString` of a compiled pattern. -/
  regexMatch : String → String → Bool
  /-- `osutil.IsPackageLib`. -/
  isPackageLib : String → Bool

/-- `regexp.Compile`: the compiled pattern, or `none` on an error. -/
def Platform.compile (P : Platform) (pattern : String) : Option String :=
  if P.regexCompiles pattern then some pattern else none

/-- A platform that evaluates, for runs on given inputs: every host path is the same path in the
container whose root process is `pid`, a path's directory and base name split at its last `/`,
and no pattern compiles. -/
def Platform.single (pid : Int) : Platform where
  parseContainerFilePath p := (pid, p)
  containerFilePath _ p := p
  dir p := String.mk ((p.data.reverse.dropWhile (· ≠ '/')).drop 1).reverse
  base p := String.mk (p.data.reverse.takeWhile (· ≠ '/')).reverse
  join a b := if hasPrefix b "/" then a ++ b else a ++ "/" ++ b
  isAbs p := hasPrefix p "/"
  regexCompiles _ := false
  regexMatch _ _ := false
  isPackageLib _ := false

/-! ### Sets of strings -/

/-- `utils.Set` holding strings: a list without repetitions. -/
structure StrSet where
  /-- The members, in the order the model iterates them. -/
  elems : List String
  nodup : elems.Nodup

/-- `utils.NewSet()`. -/
def StrSet.empty : StrSet :=
  ⟨[], List.nodup_nil⟩

/-- `Set.Contains`. -/
def StrSet.contains (s : StrSet) (x : String) : Bool :=
  decide (x ∈ s.elems)

/-- `Set.Add`. -/
def StrSet.add (s : StrSet) (x : String) : StrSet :=
  if h : x ∈ s.elems then s else ⟨x :: s.elems, List.nodup_cons.2 ⟨h, s.nodup⟩⟩

/-- `Set.Cardinality`. -/
def StrSet.cardinality (s : StrSet) : Nat :=
  s.elems.length

/-- A set built by `Add`ing the elements of a list in order. -/
def StrSet.ofList (xs : List String) : StrSet :=
  xs.foldl StrSet.add StrSet.empty

@[simp]
theorem StrSet.contains_iff (s : StrSet) (x : String) :
  s.contains x = true ↔ x ∈ s.elems
  := by
  simp [StrSet.contains]

@[simp]
theorem StrSet.elems_empty :
  StrSet.empty.elems = []
  := rfl

theorem StrSet.mem_add (s : StrSet) (x y : String) :
  y ∈ (s.add x).elems ↔ y = x ∨ y ∈ s.elems
  := by
  unfold StrSet.add
  split
  · next h => exact ⟨Or.inr, fun h' => h'.elim (· ▸ h) id⟩
  · simp

/-! ### Go maps -/

/-- A Go map whose every value is rewritten in place, as a `range` that assigns through each
value does. -/
def mapValues {α β : Type} (f : β → β) (m : AList (fun _ : α => β)) : AList (fun _ : α => β) :=
  ⟨m.entries.map fun e => ⟨e.1, f e.2⟩, by
    simpa [List.NodupKeys, List.keys, Function.comp_def] using m.nodupKeys⟩

@[simp]
theorem lookup_mapValues {α β : Type} [DecidableEq α] (f : β → β) (m : AList (fun _ : α => β))
    (k : α) :
  (mapValues f m).lookup k = (m.lookup k).map f
  := List.dlookup_map₂ (f := fun _ => f) k

end Fsmon
