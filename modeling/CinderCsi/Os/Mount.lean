import Mathlib.Data.List.Infix
import CinderCsi.Go.Strings

/-!
# The node's filesystem and mount table

What the driver's mount provider (`pkg/csi/cinder/mount/mount.go`) calls underneath it: the
kernel's mount table and the helpers of `k8s.io/kubernetes/pkg/util/mount` (`IsLikelyNotMountPoint`,
`Mount`, `Unmount`, `CleanupMountPoint`, `FormatAndMount`) and of `os` (`Stat`, `MkdirAll`,
`Remove`). They are not code of this repository; they are modelled here at the level that the
driver's checks observe.

A path is a list of names read from the leaf up, so that its parent is its tail. Every file lives
on a device, and `Node.devOf` is the device number that `stat` reports for a path: that of the
newest mount at the path, or else its parent's, or the root filesystem's at the root. A mount of a
block device gives the device's number; a bind mount gives the source's. This is the fact that
`IsLikelyNotMountPoint` rests on: it calls a path a mount point when its device differs from that
of `filepath.Dir(strings.TrimSuffix(file, "/"))` (`statParent`), which is taken from the text of
the path. So it misses a mount of a filesystem that is also mounted above the path, and every
mount at a path whose last element is empty or `.` (`/s//`, `/s/.`), whose textual parent is the
path itself.

A path string is resolved by dropping its empty and `.` elements (`Path.parse`). The kernel also
resolves `..` against the directories it walks through; the model keeps `..` as a name, so what
it says about a path with a `..` element is not the kernel's, and the node server's theorems take
paths without one (`Path.NoDotDot`). The existing directories are the list of those visible now:
a mount hides the directories under its path and an unmount shows them again, which the list does
not follow. Block device nodes are listed with their device number and the filesystem signature
on them (`""` when unformatted). The contents of files, permissions and symbolic links are not
modelled. `mount` refuses the same filesystem on its own mount root, and `umount` a mount that a
process uses (`Node.busy`: the processes are not modelled, so no call changes it) or that has a
mount on or under it made later, both with `EBUSY`. A call that fails leaves the node as it was,
except where Go's helpers fail after a change, which `cleanupMountPoint` and `formatAndMount`
return with their error. `formatAndMount` leaves out k8s' `fsck` before the mount and takes `mkfs`
to succeed.
-/

namespace CinderCsi.Os

/-- A path, by its names from the leaf up: `/var/lib/x` is `["x", "lib", "var"]`, and the root is
`[]`. -/
abbrev Path := List String

/-- `filepath.Dir`: the parent of a path; the root is its own parent. -/
def Path.dir : Path → Path
  | [] => []
  | _ :: p => p

/-- The parent of a path is a suffix of it. -/
theorem Path.dir_suffix (p : Path) : p.dir <:+ p := by
  cases p with
  | nil => exact List.suffix_refl []
  | cons c q => exact List.suffix_cons c q

/-- How the node resolves a path string: its elements other than empty ones and `.`, from the
root (the driver's working directory, for a relative path). The empty string names no file. -/
def Path.parse (s : String) : Option Path :=
  if s = "" then none
  else some (((s.toList.splitOn '/').filter Go.isNamed).map String.mk).reverse

/-- A path string none of whose elements is `..`, the one element that `Path.parse` does not
resolve as the kernel does. -/
def Path.NoDotDot (s : String) : Prop := ['.', '.'] ∉ s.toList.splitOn '/'

instance (s : String) : Decidable (Path.NoDotDot s) :=
  inferInstanceAs (Decidable (['.', '.'] ∉ s.toList.splitOn '/'))

/-- What k8s' `IsLikelyNotMountPoint` stats as the parent of `file`:
`filepath.Dir(strings.TrimSuffix(file, "/"))`, from the text of the path. -/
def statParent (file : String) : String :=
  String.mk (Go.filepathDir (Go.trimSuffix file.toList ['/']))

/-- Without `..`, what `IsLikelyNotMountPoint` stats as the parent of a path is its parent, or,
when the path's last element is empty or `.` (`/s//`, `/s/.`), the path itself. -/
theorem parse_statParent {s : String} {p : Path} (h : Path.NoDotDot s)
    (hp : Path.parse s = some p) : ∃ q, Path.parse (statParent s) = some q ∧ (q = p.dir ∨ q = p) := by
  obtain ⟨htf, hts⟩ := Go.splitOn_trimSuffix '/' s.toList
  rw [statParent]
  generalize Go.trimSuffix s.toList ['/'] = t at htf hts ⊢
  obtain ⟨hdf, hdne⟩ := Go.filepathDir_named t fun hm => h (hts hm)
  have hne : t.splitOn '/' ≠ [] := List.splitOnP_ne_nil _ _
  have hlast := List.dropLast_append_getLast hne
  refine ⟨((((t.splitOn '/').dropLast).filter Go.isNamed).map String.mk).reverse, ?_, ?_⟩
  · have hs : String.mk (Go.filepathDir t) ≠ "" := fun h0 => hdne (congrArg String.data h0)
    rw [Path.parse, if_neg hs]
    exact congrArg (fun l => some ((l.map String.mk).reverse)) hdf
  · unfold Path.parse at hp
    split_ifs at hp
    cases hp
    rw [← htf, ← hlast, List.filter_append]
    by_cases hn : Go.isNamed ((t.splitOn '/').getLast hne)
    · exact .inl (by simp [hn, Path.dir])
    · exact .inr (by simp [hn])

/-- A block device node. -/
structure BlockDevice where
  /-- Where the node is, such as `/dev/vdb`. -/
  path : Path
  /-- The device number of a filesystem on it. -/
  dev : Nat
  /-- The filesystem signature that `blkid` finds on it; `""` when it has none. -/
  format : String
deriving DecidableEq, Repr

/-- One entry of the mount table: `mount.MountPoint`'s device, path, type and options, and the
device number that `stat` reports under it. -/
structure MountPoint where
  /-- The mounted block device, or the directory of a bind mount. -/
  device : Path
  /-- Where it is mounted. -/
  path : Path
  /-- The filesystem type. -/
  type : String
  /-- The mount options. -/
  opts : List String
  /-- The device number of the mounted filesystem. -/
  dev : Nat
deriving DecidableEq, Repr

/-- The node's filesystem and mount table. -/
structure Node where
  /-- The existing directories. -/
  dirs : List Path
  /-- The block device nodes. -/
  devices : List BlockDevice
  /-- The mount table, newest first. -/
  mounts : List MountPoint
  /-- The device number of the root filesystem. -/
  rootDev : Nat
  /-- The mounts that a process uses, with a file open or its working directory in them. -/
  busy : List MountPoint := []
deriving DecidableEq, Repr

/-- The errors of the node's calls. -/
inductive OsError where
  /-- `ENOENT`: what `os.IsNotExist` recognises. -/
  | notExist (path : String)
  /-- `ENOTDIR`. -/
  | notDir (path : String)
  /-- `EBUSY`. -/
  | busy (path : String)
  /-- `ENOTEMPTY`. -/
  | notEmpty (path : String)
  /-- `EINVAL`. -/
  | invalid (path : String)
  /-- `umount`: not mounted. -/
  | notMounted (path : String)
  /-- `mount` failed: no such block device, no filesystem, or another type. -/
  | mountFailed (source target : String)
  /-- `"failed to mount unformatted volume as read only"`. -/
  | unformattedReadOnly
  /-- `"failed to mount the volume as %q, it already contains %s. Mount error: %v"`. -/
  | formatMismatch (fstype existing : String)
  /-- `"Failed to unmount path %v"`. -/
  | failedToUnmount (path : String)
  /-- `IsLikelyNotMountPointDetach`'s `"targetpath not found"`. -/
  | targetpathNotFound
  /-- `ScanForAttach`'s `"Could not find attached Cinder disk %s. Timeout waiting for mount paths
  to be created."`. -/
  | scanTimeout (devicePath : String)
deriving DecidableEq, Repr

/-- `os.IsNotExist`. -/
def OsError.isNotExist : OsError → Bool
  | .notExist _ => true
  | _ => false

namespace Node

/-- The device number that `stat` reports for a path: that of the newest mount at the path, or
else its parent's; at the root, the root filesystem's. -/
def devOf (n : Node) : Path → Nat
  | [] => ((n.mounts.find? (·.path == [])).map (·.dev)).getD n.rootDev
  | c :: p => ((n.mounts.find? (·.path == c :: p)).map (·.dev)).getD (n.devOf p)

/-- The block device node at a path. -/
def device (n : Node) (p : Path) : Option BlockDevice := n.devices.find? (·.path == p)

/-- Whether a file exists at a path: a directory or a block device node. -/
def present (n : Node) (p : Path) : Bool := n.dirs.contains p || (n.device p).isSome

/-- A directory of the node exists. -/
theorem present_of_mem_dirs {n : Node} {p : Path} (h : p ∈ n.dirs) : n.present p := by
  simp [present, h]

/-- A file exists on a node that has at least the directories and the same device nodes. -/
theorem present_mono {n n' : Node} (hd : n.dirs ⊆ n'.dirs) (hv : n'.devices = n.devices)
    {p : Path} (h : n.present p) : n'.present p := by
  simp only [present, device, hv, Bool.or_eq_true, List.elem_iff, List.contains] at h ⊢
  exact h.imp_left (fun h => hd h)

/-- `mount.PathExists`. -/
def pathExists (n : Node) (s : String) : Bool :=
  match Path.parse s with
  | none => false
  | some p => n.present p

/-- `PathExists` holds on a node on which every file of the first exists. -/
theorem pathExists_of_present {n n' : Node} (h : ∀ p, n.present p → n'.present p) {s : String}
    (hs : n.pathExists s) : n'.pathExists s := by
  unfold pathExists at hs ⊢
  split at hs
  · cases hs
  · exact h _ hs

/-- The path and what `IsLikelyNotMountPoint` stats as its parent both exist. -/
def Statable (n : Node) (s : String) : Prop :=
  ∃ p q, Path.parse s = some p ∧ n.present p ∧ Path.parse (statParent s) = some q ∧ n.present q

/-- k8s `Mounter.IsLikelyNotMountPoint`: `true` unless the path's device differs from that of
`statParent file`; a path or parent that does not exist gives `true` with the error of
`os.Stat`. -/
def isLikelyNotMountPoint (n : Node) (file : String) : Bool × Option OsError :=
  match Path.parse file with
  | none => (true, some (.notExist file))
  | some p =>
    if !n.present p then (true, some (.notExist file))
    else
      match Path.parse (statParent file) with
      | none => (true, some (.notExist (statParent file)))
      | some q =>
        if !n.present q then (true, some (.notExist (statParent file)))
        else (n.devOf p == n.devOf q, none)

/-- `os.MkdirAll`: the directory and its missing parents are created; it fails when one of them is
a device node. -/
def mkdirAll (n : Node) (s : String) : Except OsError Node :=
  match Path.parse s with
  | none => .error (.notExist s)
  | some p =>
    if p.tails.any fun q => (n.device q).isSome then .error (.notDir s)
    else .ok { n with dirs := n.dirs ++ p.tails.filter fun q => q ∉ n.dirs }

/-- Whether a filesystem is mounted right at the path: the root filesystem at the root, or an
entry of the table. -/
def isMountRoot (n : Node) (p : Path) : Bool := p == [] || n.mounts.any (·.path == p)

/-- `mount`, as k8s `Mounter.Mount` runs it. With the `bind` option it mounts the directory
`source` on `target`, whose files then have the source's device; otherwise it mounts the filesystem
on the block device `source`, which must have one, of the type `fstype` unless that is empty, and
the kernel refuses with `EBUSY` to mount it on the root of a mount of the same filesystem. The
target must be a directory. -/
def mount (n : Node) (source target fstype : String) (options : List String) :
    Except OsError Node :=
  match Path.parse source, Path.parse target with
  | some src, some tgt =>
    if tgt ∉ n.dirs then .error (.notExist target)
    else if "bind" ∈ options then
      if src ∈ n.dirs then .ok { n with mounts := ⟨src, tgt, fstype, options, n.devOf src⟩ :: n.mounts }
      else .error (.notExist source)
    else
      match n.device src with
      | some d =>
        if d.format ≠ "" ∧ (fstype = "" ∨ fstype = d.format) then
          if n.isMountRoot tgt ∧ n.devOf tgt = d.dev then .error (.busy target)
          else .ok { n with mounts := ⟨src, tgt, d.format, options, d.dev⟩ :: n.mounts }
        else .error (.mountFailed source target)
      | none => .error (.mountFailed source target)
  | none, _ => .error (.notExist source)
  | _, none => .error (.notExist target)

/-- `umount`: the newest mount at the path goes. The kernel refuses with `EBUSY` while a process
uses it, or while a mount made after it is on or under the path. -/
def unmount (n : Node) (target : String) : Except OsError Node :=
  match Path.parse target with
  | none => .error (.notExist target)
  | some p =>
    match n.mounts.find? (·.path == p) with
    | none => .error (.notMounted target)
    | some m =>
      if m ∈ n.busy ∨ (n.mounts.takeWhile (·.path != p)).any (fun m' => p.isSuffixOf m'.path) then
        .error (.busy target)
      else .ok { n with mounts := n.mounts.eraseP (·.path == p) }

/-- The last element of a path string, the separators at its end aside: what `rmdir` removes;
none for the root. -/
def lastElement (s : String) : Option (List Char) :=
  ((s.toList.splitOn '/').filter (· ≠ [])).getLast?

/-- `os.Remove` of a directory: `rmdir` refuses the root, a last element `.` or `..`, a mount
point, and a directory with files under it. -/
def remove (n : Node) (s : String) : Except OsError Node :=
  match Path.parse s with
  | none => .error (.notExist s)
  | some p =>
    if p ∉ n.dirs then .error (.notExist s)
    else
      match lastElement s with
      | none => .error (.busy s)
      | some ['.'] => .error (.invalid s)
      | some ['.', '.'] => .error (.notEmpty s)
      | some _ =>
        if n.mounts.any (·.path == p) then .error (.busy s)
        else if n.dirs.any (fun q => q ≠ p ∧ q.dir = p) || n.devices.any (·.path.dir == p) then
          .error (.notEmpty s)
        else .ok { n with dirs := n.dirs.filter (· ≠ p) }

/-- k8s `CleanupMountPoint(mountPath, mounter, false)`: a path that does not exist is left alone;
one that is not a mount point is removed; a mount point is unmounted, then removed if it is no
longer one, and otherwise reported as `failedToUnmount`. -/
def cleanupMountPoint (n : Node) (mountPath : String) : Except OsError Unit × Node :=
  if !n.pathExists mountPath then (.ok (), n)
  else
    match n.isLikelyNotMountPoint mountPath with
    | (_, some err) => (.error err, n)
    | (true, none) =>
      match n.remove mountPath with
      | .ok n' => (.ok (), n')
      | .error err => (.error err, n)
    | (false, none) =>
      match n.unmount mountPath with
      | .error err => (.error err, n)
      | .ok n' =>
        match n'.isLikelyNotMountPoint mountPath with
        | (_, some err) => (.error err, n')
        | (true, none) =>
          match n'.remove mountPath with
          | .ok n'' => (.ok (), n'')
          | .error err => (.error err, n')
        | (false, none) => (.error (.failedToUnmount mountPath), n')

/-- The filesystem signature of a block device, as `blkid` reports it. -/
def diskFormat (n : Node) (s : String) : Except OsError String :=
  match (Path.parse s).bind n.device with
  | some d => .ok d.format
  | none => .error (.notExist s)

/-- `mkfs`: the block device gets a filesystem of the given type. -/
def format (n : Node) (s : String) (fstype : String) : Node :=
  { n with devices := n.devices.map fun d =>
      if some d.path = Path.parse s then { d with format := fstype } else d }

/-- k8s `SafeFormatAndMount.formatAndMount` (without its `fsck`): `defaults` is added to the
options and the mount tried; if it fails, an unformatted disk is formatted (as `ext4` when no type
is given, and not when mounting read-only) and mounted, and a formatted one reports the mount's
error, or `formatMismatch` when it holds another filesystem than the one asked for. -/
def formatAndMount (n : Node) (source target fstype : String) (options : List String) :
    Except OsError Unit × Node :=
  let readOnly := "ro" ∈ options
  let options := options ++ ["defaults"]
  match n.mount source target fstype options with
  | .ok n' => (.ok (), n')
  | .error mountErr =>
    match n.diskFormat source with
    | .error err => (.error err, n)
    | .ok existingFormat =>
      if existingFormat = "" then
        if readOnly then (.error .unformattedReadOnly, n)
        else
          let fstype := if fstype = "" then "ext4" else fstype
          let n' := n.format source fstype
          match n'.mount source target fstype options with
          | .ok n'' => (.ok (), n'')
          | .error err => (.error err, n')
      else if fstype = "" ∨ fstype = existingFormat then (.error mountErr, n)
      else (.error (.formatMismatch fstype existingFormat), n)

/-! ## Devices of paths -/

/-- A path has the device of the newest mount at it. -/
theorem devOf_of_head {n : Node} {m : MountPoint} {ms : List MountPoint} (h : n.mounts = m :: ms) :
    n.devOf m.path = m.dev := by
  cases hp : m.path <;> simp [devOf, h, hp]

/-- A path with no mount at it has its parent's device. -/
theorem devOf_of_not_mounted {n : Node} {p : Path} (h : ∀ m ∈ n.mounts, m.path ≠ p) :
    n.devOf p = n.devOf p.dir := by
  cases p with
  | nil => rfl
  | cons c q =>
    have hnone : n.mounts.find? (·.path == c :: q) = none :=
      List.find?_eq_none.mpr fun m hm => by simpa using h m hm
    simp [devOf, hnone, Path.dir]

/-- A new mount leaves the device of every path that is not at or under it as it was. -/
theorem devOf_of_not_suffix {n n' : Node} {m : MountPoint} (hm : n'.mounts = m :: n.mounts)
    (hr : n'.rootDev = n.rootDev) : ∀ p : Path, ¬ m.path <:+ p → n'.devOf p = n.devOf p
  | [], h => by
    have hne : (m.path == []) = false :=
      Bool.not_eq_true _ ▸ fun he => h (beq_iff_eq.mp he ▸ List.suffix_refl [])
    simp only [devOf, hm, hr, List.find?_cons, hne]
  | c :: p, h => by
    have hne : (m.path == c :: p) = false :=
      Bool.not_eq_true _ ▸ fun he => h (beq_iff_eq.mp he ▸ List.suffix_refl _)
    simp only [devOf, hm, List.find?_cons, hne,
      devOf_of_not_suffix hm hr p fun hs => h (hs.trans (List.suffix_cons c p))]

/-- When the path and what is statted as its parent exist, `IsLikelyNotMountPoint` reports no
error, and compares their devices. -/
theorem isLikelyNotMountPoint_of_present {n : Node} {s : String} {p q : Path}
    (hp : Path.parse s = some p) (h1 : n.present p) (hq : Path.parse (statParent s) = some q)
    (h2 : n.present q) : n.isLikelyNotMountPoint s = (n.devOf p == n.devOf q, none) := by
  simp [isLikelyNotMountPoint, hp, h1, hq, h2]

/-- When the path or what is statted as its parent does not exist, `IsLikelyNotMountPoint`
reports `os.Stat`'s `ENOENT`. -/
theorem isLikelyNotMountPoint_of_missing {n : Node} {s : String} (h : ¬ n.Statable s) :
    ∃ path, n.isLikelyNotMountPoint s = (true, some (.notExist path)) := by
  unfold isLikelyNotMountPoint
  split
  · exact ⟨_, rfl⟩
  · rename_i p hp
    split_ifs with h1
    · exact ⟨_, rfl⟩
    split
    · exact ⟨_, rfl⟩
    · rename_i q hq
      split_ifs with h2
      · exact ⟨_, rfl⟩
      · exact absurd ⟨p, q, hp, by simpa using h1, hq, by simpa using h2⟩ h

/-- A path that `IsLikelyNotMountPoint` answers without an error exists, and so does what it
statted as its parent. -/
theorem statable_of_isLikelyNotMountPoint {n : Node} {s : String} {b : Bool}
    (h : n.isLikelyNotMountPoint s = (b, none)) : n.Statable s := by
  by_contra hx
  obtain ⟨_, hm⟩ := isLikelyNotMountPoint_of_missing hx
  rw [hm] at h
  cases h

/-- A path that `IsLikelyNotMountPoint` answers without an error exists. -/
theorem pathExists_of_isLikelyNotMountPoint {n : Node} {s : String} {b : Bool}
    (h : n.isLikelyNotMountPoint s = (b, none)) : n.pathExists s := by
  obtain ⟨p, -, hp, h1, -⟩ := statable_of_isLikelyNotMountPoint h
  simp [pathExists, hp, h1]

/-- The newest mount at a path is detected when its device differs from that of what is statted
as the parent, and both exist. -/
theorem isLikelyNotMountPoint_of_head {n : Node} {m : MountPoint} {ms : List MountPoint}
    {s : String} {q : Path} (hm : n.mounts = m :: ms) (hp : Path.parse s = some m.path)
    (hq : Path.parse (statParent s) = some q) (hdev : m.dev ≠ n.devOf q) (h1 : n.present m.path)
    (h2 : n.present q) : n.isLikelyNotMountPoint s = (false, none) := by
  rw [isLikelyNotMountPoint_of_present hp h1 hq h2, devOf_of_head hm]
  simp [hdev]

/-! ## The calls that change the node -/

/-- A successful `mount` puts one new mount on top of the table, and changes nothing else. -/
theorem mount_ok {n n' : Node} {source target fstype : String} {options : List String}
    (h : n.mount source target fstype options = .ok n') :
    ∃ m : MountPoint, n' = { n with mounts := m :: n.mounts } ∧ Path.parse source = some m.device ∧
      Path.parse target = some m.path ∧ m.opts = options ∧ m.path ∈ n.dirs ∧
      ("bind" ∈ options → m.device ∈ n.dirs ∧ m.dev = n.devOf m.device) := by
  unfold mount at h
  split at h
  · rename_i src tgt hs ht
    split_ifs at h with h1 h2 h3
    · cases h; exact ⟨_, rfl, hs, ht, rfl, h1, fun _ => ⟨h3, rfl⟩⟩
    · split at h
      · split_ifs at h
        cases h
        exact ⟨_, rfl, hs, ht, rfl, h1, fun h => absurd h h2⟩
      · cases h
  all_goals cases h

/-- A failed `mount` changes nothing. -/
theorem mount_error_or_ok (n : Node) (source target fstype : String) (options : List String) :
    (∃ err, n.mount source target fstype options = .error err) ∨
      ∃ n', n.mount source target fstype options = .ok n' := by
  cases n.mount source target fstype options with
  | error err => exact .inl ⟨err, rfl⟩
  | ok n' => exact .inr ⟨n', rfl⟩

/-- `mkdirAll` changes only the directories. -/
theorem mkdirAll_ok {n n' : Node} {s : String} (h : n.mkdirAll s = .ok n') :
    ∃ p, Path.parse s = some p ∧ n' = { n with dirs := n.dirs ++ p.tails.filter (· ∉ n.dirs) } := by
  unfold mkdirAll at h
  split at h
  · cases h
  · split_ifs at h
    cases h
    exact ⟨_, ‹_›, rfl⟩

/-- After `mkdirAll`, the path and every directory above it exist. -/
theorem mem_dirs_of_mkdirAll {n n' : Node} {s : String} {p : Path}
    (hp : Path.parse s = some p) (h : n.mkdirAll s = .ok n') : ∀ q, q <:+ p → q ∈ n'.dirs := by
  obtain ⟨p', hp', rfl⟩ := mkdirAll_ok h
  rw [hp] at hp'
  cases hp'
  intro q hq
  by_cases hn : q ∈ n.dirs
  · exact List.mem_append_left _ hn
  · exact List.mem_append_right _ (List.mem_filter.mpr ⟨(List.mem_tails _ _).mpr hq, by simpa using hn⟩)

/-- A successful `remove` takes the directory off the list, and changes nothing else. -/
theorem remove_eq_ok {n n' : Node} {s : String} (h : n.remove s = .ok n') :
    ∃ p, Path.parse s = some p ∧ n' = { n with dirs := n.dirs.filter (· ≠ p) } := by
  unfold remove at h
  split at h
  · cases h
  · refine ⟨_, ‹_›, ?_⟩
    split_ifs at h <;> (try split at h) <;> cases h
    rfl

/-- `remove` changes only the directories. -/
theorem remove_ok {n n' : Node} {s : String} (h : n.remove s = .ok n') :
    n'.mounts = n.mounts ∧ n'.devices = n.devices ∧ n'.rootDev = n.rootDev := by
  obtain ⟨p, -, rfl⟩ := remove_eq_ok h
  exact ⟨rfl, rfl, rfl⟩

/-- A successful `umount` removes the newest mount at the path, and changes nothing else. -/
theorem unmount_ok {n n' : Node} {s : String} (h : n.unmount s = .ok n') :
    ∃ p, Path.parse s = some p ∧ n' = { n with mounts := n.mounts.eraseP (·.path == p) } := by
  unfold unmount at h
  split at h
  · cases h
  · split at h
    · cases h
    · split_ifs at h
      cases h
      exact ⟨_, ‹_›, rfl⟩

/-- `CleanupMountPoint` removes at most the newest mount at the path from the table. -/
theorem cleanupMountPoint_mounts (n : Node) (s : String) :
    (n.cleanupMountPoint s).2.mounts = n.mounts ∨ ∃ p, Path.parse s = some p ∧
      (n.cleanupMountPoint s).2.mounts = n.mounts.eraseP (·.path == p) := by
  unfold cleanupMountPoint
  split
  · exact .inl rfl
  · split
    · exact .inl rfl
    · split
      · rename_i hr
        exact .inl (remove_ok hr).1
      · exact .inl rfl
    · split
      · exact .inl rfl
      · rename_i n' hu
        obtain ⟨p, hp, rfl⟩ := unmount_ok hu
        refine .inr ⟨p, hp, ?_⟩
        split
        · rfl
        · split
          · rename_i hr
            exact (remove_ok hr).1
          · rfl
        · rfl

/-- `CleanupMountPoint` on a detected mount point takes the newest mount there off the table,
whatever it then finds, when no process uses it. -/
theorem cleanupMountPoint_of_mounted {n : Node} {m : MountPoint} {ms : List MountPoint}
    {s : String} (hm : n.mounts = m :: ms) (hp : Path.parse s = some m.path) (hb : m ∉ n.busy)
    (h : n.isLikelyNotMountPoint s = (false, none)) : (n.cleanupMountPoint s).2.mounts = ms := by
  have hx := pathExists_of_isLikelyNotMountPoint h
  have hu : n.unmount s = .ok { n with mounts := ms } := by simp [unmount, hp, hm, hb]
  unfold cleanupMountPoint
  simp only [hx, h, hu, Bool.not_true, Bool.false_eq_true, ite_false]
  split
  · rfl
  · split
    · rename_i hr
      exact (remove_ok hr).1
    · rfl
  · rfl

/-- `format` changes only the block devices' signatures. -/
@[simp] theorem format_mounts (n : Node) (s fstype : String) : (n.format s fstype).mounts = n.mounts :=
  rfl

@[simp] theorem format_dirs (n : Node) (s fstype : String) : (n.format s fstype).dirs = n.dirs := rfl

@[simp] theorem format_rootDev (n : Node) (s fstype : String) :
    (n.format s fstype).rootDev = n.rootDev := rfl

@[simp] theorem format_busy (n : Node) (s fstype : String) : (n.format s fstype).busy = n.busy := rfl

@[simp] theorem format_present (n : Node) (s fstype : String) :
    (n.format s fstype).present = n.present := by
  have hpath : ∀ d : BlockDevice,
      (if some d.path = Path.parse s then { d with format := fstype } else d).path = d.path :=
    fun d => by split <;> rfl
  funext p
  simp [present, device, format, List.find?_map, Function.comp_def, hpath]

/-- What `formatAndMount` does to the node: only the mount table and the block devices'
signatures change, and the table has one new mount of `source` on `target`, with the options and
`defaults`, when it succeeded, and is as it was when it failed. -/
theorem formatAndMount_spec {n n' : Node} {source target fstype : String} {options : List String}
    {r : Except OsError Unit} (h : n.formatAndMount source target fstype options = (r, n')) :
    n'.dirs = n.dirs ∧ n'.rootDev = n.rootDev ∧ n'.busy = n.busy ∧ n'.present = n.present ∧
      (r = .ok () → ∃ m : MountPoint, n'.mounts = m :: n.mounts ∧
        Path.parse source = some m.device ∧ Path.parse target = some m.path ∧
        m.opts = options ++ ["defaults"]) ∧
      (r ≠ .ok () → n'.mounts = n.mounts) := by
  have hok : ∀ {k k' : Node} {fs : String}, k.mount source target fs (options ++ ["defaults"]) =
      .ok k' → k'.dirs = k.dirs ∧ k'.rootDev = k.rootDev ∧ k'.busy = k.busy ∧
        k'.present = k.present ∧ ∃ m : MountPoint, k'.mounts = m :: k.mounts ∧
        Path.parse source = some m.device ∧ Path.parse target = some m.path ∧
        m.opts = options ++ ["defaults"] := by
    intro k k' fs he
    obtain ⟨m, rfl, hs, ht, ho, -⟩ := mount_ok he
    exact ⟨rfl, rfl, rfl, rfl, m, rfl, hs, ht, ho⟩
  unfold formatAndMount at h
  simp only at h
  rcases mount_error_or_ok n source target fstype (options ++ ["defaults"]) with ⟨e, he⟩ | ⟨k, he⟩
  · rw [he] at h
    simp only at h
    split at h
    · cases h; exact ⟨rfl, rfl, rfl, rfl, by simp, fun _ => rfl⟩
    · generalize (if fstype = "" then "ext4" else fstype) = fs at h
      split_ifs at h
      · cases h; exact ⟨rfl, rfl, rfl, rfl, by simp, fun _ => rfl⟩
      · rcases mount_error_or_ok (n.format source fs) source target fs (options ++ ["defaults"])
          with ⟨e', he'⟩ | ⟨k', he'⟩
        · rw [he'] at h; cases h; exact ⟨rfl, rfl, rfl, by simp, by simp, fun _ => rfl⟩
        · rw [he'] at h; cases h
          obtain ⟨hd, hr, hb, hx, hm⟩ := hok he'
          exact ⟨by simpa using hd, by simpa using hr, by simpa using hb, by simpa using hx,
            fun _ => by simpa using hm, fun h => absurd rfl h⟩
      · cases h; exact ⟨rfl, rfl, rfl, rfl, by simp, fun _ => rfl⟩
      · cases h; exact ⟨rfl, rfl, rfl, rfl, by simp, fun _ => rfl⟩
  · rw [he] at h
    cases h
    obtain ⟨hd, hr, hb, hx, hm⟩ := hok he
    exact ⟨hd, hr, hb, hx, fun _ => hm, fun h => absurd rfl h⟩

/-! ## What the calls leave alone -/

/-- `mkfs` on `s` gives the device node at `p` the new signature when `s` names `p`, and leaves it
as it was otherwise. -/
theorem format_device (n : Node) (s fstype : String) (p : Path) :
    (n.format s fstype).device p =
      (n.device p).map fun d => if some p = Path.parse s then { d with format := fstype } else d := by
  have hpath : ∀ d : BlockDevice,
      (if some d.path = Path.parse s then { d with format := fstype } else d).path = d.path :=
    fun d => by split <;> rfl
  simp only [device, format, List.find?_map, Function.comp_def, hpath]
  cases h : n.devices.find? (·.path == p) with
  | none => rfl
  | some d =>
    have hd : d.path = p := by simpa using List.find?_some h
    simp [hd]

/-- The signature that `blkid` reports is the device node's, and only it is read. -/
theorem diskFormat_eq_ok {n : Node} {s f : String} (h : n.diskFormat s = .ok f) :
    ∃ p d, Path.parse s = some p ∧ n.device p = some d ∧ d.format = f := by
  unfold diskFormat at h
  split at h
  · rename_i d hd
    cases h
    cases hp : Path.parse s with
    | none => simp [hp] at hd
    | some p => exact ⟨p, d, rfl, by simpa [hp] using hd, rfl⟩
  · cases h

/-- What `formatAndMount` does to the block devices: nothing, or `mkfs` of `source`, as `ext4` when
no type is asked for, when `blkid` found no signature on it and the mount is not read-only. -/
theorem formatAndMount_devices (n : Node) (source target fstype : String) (options : List String) :
    (n.formatAndMount source target fstype options).2.devices = n.devices ∨
      (n.diskFormat source = .ok "" ∧ "ro" ∉ options ∧
        (n.formatAndMount source target fstype options).2.devices =
          (n.format source (if fstype = "" then "ext4" else fstype)).devices) := by
  unfold formatAndMount
  simp only
  rcases mount_error_or_ok n source target fstype (options ++ ["defaults"]) with ⟨e, he⟩ | ⟨k, he⟩
  · rw [he]
    simp only
    split
    · exact .inl rfl
    · rename_i existing hdf
      generalize (if fstype = "" then "ext4" else fstype) = fs
      split_ifs with h0 hro
      · exact .inl rfl
      · subst h0
        refine .inr ⟨hdf, hro, ?_⟩
        rcases mount_error_or_ok (n.format source fs) source target fs (options ++ ["defaults"])
          with ⟨e', he'⟩ | ⟨k', he'⟩
        · rw [he']
        · rw [he']
          obtain ⟨m, rfl, -⟩ := mount_ok he'
          rfl
      · exact .inl rfl
      · exact .inl rfl
  · rw [he]
    obtain ⟨m, rfl, -⟩ := mount_ok he
    exact .inl rfl

/-- `remove` takes away only the directory it names. -/
theorem mem_dirs_of_remove {n n' : Node} {s : String} (h : n.remove s = .ok n') {q : Path}
    (hq : q ∈ n.dirs) (hs : Path.parse s ≠ some q) : q ∈ n'.dirs := by
  obtain ⟨p, hp, rfl⟩ := remove_eq_ok h
  exact List.mem_filter.mpr ⟨hq, decide_eq_true fun he => hs (he ▸ hp)⟩

/-- The node that `CleanupMountPoint` leaves: the same, or after `remove`, `umount`, or both. -/
theorem cleanupMountPoint_cases (n : Node) (s : String) :
    (n.cleanupMountPoint s).2 = n ∨ n.remove s = .ok (n.cleanupMountPoint s).2 ∨
      n.unmount s = .ok (n.cleanupMountPoint s).2 ∨
      ∃ n', n.unmount s = .ok n' ∧ n'.remove s = .ok (n.cleanupMountPoint s).2 := by
  unfold cleanupMountPoint
  split
  · exact .inl rfl
  · split
    · exact .inl rfl
    · split
      · rename_i hr; exact .inr (.inl hr)
      · exact .inl rfl
    · split
      · exact .inl rfl
      · rename_i n' hu
        split
        · exact .inr (.inr (.inl hu))
        · split
          · rename_i hr; exact .inr (.inr (.inr ⟨n', hu, hr⟩))
          · exact .inr (.inr (.inl hu))
        · exact .inr (.inr (.inl hu))

/-- `CleanupMountPoint` keeps the block devices, the root's device, and every directory but the
one it names. -/
theorem cleanupMountPoint_frame (n : Node) (s : String) :
    (n.cleanupMountPoint s).2.devices = n.devices ∧ (n.cleanupMountPoint s).2.rootDev = n.rootDev ∧
      ∀ q ∈ n.dirs, Path.parse s ≠ some q → q ∈ (n.cleanupMountPoint s).2.dirs := by
  rcases cleanupMountPoint_cases n s with h | h | h | ⟨n', hu, h⟩
  · rw [h]; exact ⟨rfl, rfl, fun q hq _ => hq⟩
  · obtain ⟨-, hd, hr⟩ := remove_ok h
    exact ⟨hd, hr, fun q hq hs => mem_dirs_of_remove h hq hs⟩
  · obtain ⟨p, -, he⟩ := unmount_ok h
    rw [he]; exact ⟨rfl, rfl, fun q hq _ => hq⟩
  · obtain ⟨-, hd, hr⟩ := remove_ok h
    obtain ⟨p, -, rfl⟩ := unmount_ok hu
    exact ⟨hd, hr, fun q hq hs => mem_dirs_of_remove h hq hs⟩

end Node

end CinderCsi.Os
