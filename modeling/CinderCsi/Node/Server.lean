import CinderCsi.Mount.Provider

/-!
# The node server's volume calls

`NodeStageVolume`, `NodePublishVolume`, `NodeUnpublishVolume` and `NodeUnstageVolume` of
`pkg/csi/cinder/nodeserver.go`, over the node of `Os/Mount.lean`. Each returns the gRPC status it
fails with, and the node as the call left it: a directory that `IsLikelyNotMountPointAttach`
created stays when a later step fails. The responses are empty messages, so success is `.ok ()`.

Stage and publish first ask whether their path is a mount point, and when it is they do nothing
more and succeed: that makes a repeated call harmless, and it also means that they succeed
whatever is mounted there. So what a successful call guarantees is one of two things: the node is
as it was and the path was already a mount point, or the call put one new mount on top of the
table, of the device (stage) or of the staging path with the requested `ro` or `rw` (publish).
Unpublish and unstage have one body, `unmountVolume`, on their own paths (`DetachOutcome`): a
path that, or whose statted parent `filepath.Dir(strings.TrimSuffix(path, "/"))`, does not exist is
`Internal` (`targetpath not found`), and an existing one on the device of its statted parent is
`NotFound`, both with the node as it was; any other goes to `UnmountPath`, which takes at most its
newest mount off the table. A mount point on its parent's device, and one named with a last element
`.` or empty (`/s/.`), whose statted parent is itself, is answered like a plain directory. These
results are for paths without a `..` element, which the model does not resolve as the kernel
does.

`GetMountProvider` cannot fail, so its error branches are left out, and the request fields that no
call reads (volume ids, secrets, the access mode) are not modelled.
-/

namespace CinderCsi.NodeServer

open CinderCsi.Os

/-! ## Requests and statuses -/

/-- The gRPC codes that the node server's volume calls return. -/
inductive Code where
  /-- `codes.InvalidArgument`. -/
  | invalidArgument
  /-- `codes.NotFound`. -/
  | notFound
  /-- `codes.Internal`. -/
  | internal
  /-- `codes.Unimplemented`. -/
  | unimplemented
deriving DecidableEq, Repr

/-- A status message: a literal text, an error's `Error()`, or `Errorf` of a format and an
error. -/
inductive Message where
  /-- A literal message. -/
  | text (s : String)
  /-- `err.Error()`. -/
  | error (err : OsError)
  /-- `fmt.Sprintf(format, err)`. -/
  | errorf (format : String) (err : OsError)
deriving DecidableEq, Repr

/-- `status.Error(code, message)`. -/
structure Status where
  /-- The gRPC code. -/
  code : Code
  /-- The message. -/
  message : Message
deriving DecidableEq, Repr

/-- The access type of a `VolumeCapability`: a filesystem, with its type and mount flags, or a raw
block device. A request without a capability, or with none of the two, carries `none`. -/
inductive AccessType where
  /-- `VolumeCapability_Mount`. -/
  | mount (fsType : String) (mountFlags : List String)
  /-- `VolumeCapability_Block`. -/
  | block
deriving DecidableEq, Repr

/-- `GetMount()`: the type and flags of a mount capability, `nil` for any other. -/
def getMount : Option AccessType → Option (String × List String)
  | some (.mount fsType mountFlags) => some (fsType, mountFlags)
  | _ => none

/-- The fields of `csi.NodeStageVolumeRequest` that `NodeStageVolume` reads. -/
structure NodeStageVolumeRequest where
  /-- Where the volume is to be mounted on the node. -/
  stagingTargetPath : String
  /-- The controller's publish info, a string map; the driver reads its `DevicePath`. -/
  publishInfo : List (String × String)
  /-- The requested access type. -/
  volumeCapability : Option AccessType
deriving DecidableEq, Repr

/-- The fields of `csi.NodePublishVolumeRequest` that `NodePublishVolume` reads. -/
structure NodePublishVolumeRequest where
  /-- Where the volume is staged. -/
  stagingTargetPath : String
  /-- Where the workload wants it. -/
  targetPath : String
  /-- Whether the workload gets it read-only. -/
  readonly : Bool
  /-- The requested access type. -/
  volumeCapability : Option AccessType
deriving DecidableEq, Repr

/-- `csi.NodeUnpublishVolumeRequest`'s target path. -/
structure NodeUnpublishVolumeRequest where
  /-- The path to unpublish. -/
  targetPath : String
deriving DecidableEq, Repr

/-- `csi.NodeUnstageVolumeRequest`'s staging path. -/
structure NodeUnstageVolumeRequest where
  /-- The path to unstage. -/
  stagingTargetPath : String
deriving DecidableEq, Repr

/-! ## The calls -/

/-- `NodeStageVolume`: the device named by the publish info's `DevicePath` is formatted if need
be and mounted on the staging path, unless that path is a mount point already. A block
capability is refused only when the path still has to be mounted. -/
def nodeStageVolume (n : Node) (req : NodeStageVolumeRequest) : Except Status Unit × Node :=
  if req.stagingTargetPath = "" then
    (.error ⟨.invalidArgument, .text "Staging target not provided"⟩, n)
  else
    match req.publishInfo.lookup "DevicePath" with
    | none => (.error ⟨.invalidArgument, .text "Device path not provided"⟩, n)
    | some devicePath =>
      match Mount.scanForAttach n devicePath with
      | .error err => (.error ⟨.internal, .errorf "Failed to ScanForAttach: %v" err⟩, n)
      | .ok () =>
        match Mount.isLikelyNotMountPointAttach n req.stagingTargetPath with
        | (.error err, n₁) => (.error ⟨.internal, .error err⟩, n₁)
        | (.ok false, n₁) => (.ok (), n₁)
        | (.ok true, n₁) =>
          -- `GetMount()` is `nil` for a block capability, so its `else if` is this test.
          if req.volumeCapability = some .block then
            (.error ⟨.unimplemented, .text "Block volume support is not yet implemented"⟩, n₁)
          else
            let fsType := ((getMount req.volumeCapability).map Prod.fst).getD "ext4"
            let options := ((getMount req.volumeCapability).map Prod.snd).getD []
            match Mount.formatAndMount n₁ devicePath req.stagingTargetPath fsType options with
            | (.ok (), n₂) => (.ok (), n₂)
            | (.error err, n₂) => (.error ⟨.internal, .error err⟩, n₂)

/-- `NodePublishVolume`: the staging path is bind-mounted on the target path, `ro` or `rw` as the
request says, unless the target path is a mount point already. -/
def nodePublishVolume (n : Node) (req : NodePublishVolumeRequest) : Except Status Unit × Node :=
  let fsType := ((getMount req.volumeCapability).map Prod.fst).getD ""
  match Mount.isLikelyNotMountPointAttach n req.targetPath with
  | (.error err, n₁) => (.error ⟨.internal, .error err⟩, n₁)
  | (.ok notMnt, n₁) =>
    if notMnt then
      let options := ["bind", if req.readonly then "ro" else "rw"]
      match Mount.mount n₁ req.stagingTargetPath req.targetPath fsType options with
      | .ok n₂ => (.ok (), n₂)
      | .error err => (.error ⟨.internal, .error err⟩, n₁)
    else (.ok (), n₁)

/-- The body of `NodeUnpublishVolume` and `NodeUnstageVolume`, on the path the request names: a
path that is not a mount point is `NotFound`; a mount point goes to `UnmountPath`. -/
def unmountVolume (n : Node) (path : String) : Except Status Unit × Node :=
  match Mount.isLikelyNotMountPointDetach n path with
  | .error err => (.error ⟨.internal, .error err⟩, n)
  | .ok true => (.error ⟨.notFound, .text "Volume not mounted"⟩, n)
  | .ok false =>
    match Mount.unmountPath n path with
    | (.ok (), n') => (.ok (), n')
    | (.error err, n') => (.error ⟨.internal, .error err⟩, n')

/-- `NodeUnpublishVolume`. -/
def nodeUnpublishVolume (n : Node) (req : NodeUnpublishVolumeRequest) :
    Except Status Unit × Node :=
  unmountVolume n req.targetPath

/-- `NodeUnstageVolume`. -/
def nodeUnstageVolume (n : Node) (req : NodeUnstageVolumeRequest) : Except Status Unit × Node :=
  unmountVolume n req.stagingTargetPath

/-! ## What each call does -/

/-- What `NodeStageVolume` does. The root's device and the mounts in use stay. Either the mount
table stays, and a success leaves the node as it was, on a staging path that was a mount point; or
the call succeeded with a non-block capability and put a mount of the device on the staging path
on top of the table, with the capability's flags and `defaults`, after which the path and the
device node exist, and so does what is statted as the path's parent if it is at or above the
path. -/
theorem nodeStageVolume_spec {n n' : Node} {req : NodeStageVolumeRequest}
    {r : Except Status Unit} (h : nodeStageVolume n req = (r, n')) :
    n'.rootDev = n.rootDev ∧ n'.busy = n.busy ∧
      ((n'.mounts = n.mounts ∧
          (r = .ok () → n' = n ∧ n.isLikelyNotMountPoint req.stagingTargetPath = (false, none))) ∨
        (r = .ok () ∧ req.stagingTargetPath ≠ "" ∧ req.volumeCapability ≠ some .block ∧
          ∃ devicePath m, req.publishInfo.lookup "DevicePath" = some devicePath ∧
            n'.pathExists devicePath ∧ n'.mounts = m :: n.mounts ∧
            Path.parse req.stagingTargetPath = some m.path ∧ Path.parse devicePath = some m.device ∧
            m.opts = ((getMount req.volumeCapability).map Prod.snd).getD [] ++ ["defaults"] ∧
            n'.present m.path ∧
            ∀ q, Path.parse (statParent req.stagingTargetPath) = some q → q <:+ m.path →
              n'.present q)) := by
  unfold nodeStageVolume at h
  -- the argument checks and the scan fail with the node unchanged
  iterate 3
    split at h
    · cases h; exact ⟨rfl, rfl, .inl ⟨rfl, nofun⟩⟩
  rename_i hs _ devicePath hd _ hscan
  have hx : n.pathExists devicePath := by
    unfold Mount.scanForAttach at hscan
    split_ifs at hscan with hx
    · exact hx
  rcases hA : Mount.isLikelyNotMountPointAttach n req.stagingTargetPath with ⟨r₁, n₁⟩
  obtain ⟨hm, hv, hr, hb, hdirs, hfalse, htrue, -⟩ := Mount.isLikelyNotMountPointAttach_spec hA
  rw [hA] at h
  match r₁, h with
  | .error err, h => cases h; exact ⟨hr, hb, .inl ⟨hm, nofun⟩⟩
  | .ok false, h =>
    cases h
    obtain ⟨rfl, hnot⟩ := hfalse rfl
    exact ⟨rfl, rfl, .inl ⟨rfl, fun _ => ⟨rfl, hnot⟩⟩⟩
  | .ok true, h =>
    obtain ⟨p, hp, h1, h2⟩ := htrue rfl
    simp only at h
    split_ifs at h with hblock
    · cases h; exact ⟨hr, hb, .inl ⟨hm, nofun⟩⟩
    unfold Mount.formatAndMount at h
    rcases hF : n₁.formatAndMount devicePath req.stagingTargetPath
      (((getMount req.volumeCapability).map Prod.fst).getD "ext4")
      (((getMount req.volumeCapability).map Prod.snd).getD []) with ⟨r₂, n₂⟩
    obtain ⟨-, hr₂, hb₂, hx₂, hok, herr⟩ := Node.formatAndMount_spec hF
    rw [hF] at h
    have hxn : ∀ q, n.present q → n₂.present q := fun q hq => by
      rw [hx₂]; exact Node.present_mono hdirs hv hq
    match r₂, h with
    | .error err, h =>
      cases h; exact ⟨hr₂.trans hr, hb₂.trans hb, .inl ⟨(herr nofun).trans hm, nofun⟩⟩
    | .ok (), h =>
      cases h
      obtain ⟨m, hm₂, hdev, hpath, hopts⟩ := hok rfl
      rw [hp] at hpath
      cases hpath
      refine ⟨hr₂.trans hr, hb₂.trans hb, .inr ⟨rfl, hs, hblock, devicePath, m, hd,
        Node.pathExists_of_present hxn hx, hm ▸ hm₂, hp, hdev, hopts, ?_, fun q hq hqp => ?_⟩⟩
      · rw [hx₂]; exact h1
      · rw [hx₂]; exact h2 q hq hqp

/-- What `NodePublishVolume` does. The root's device and the mounts in use stay. Either the mount
table stays, and a success leaves the node as it was, on a target path that was a mount point; or
the call succeeded and put a bind mount of the staging path on the target path on top of the
table, with the requested `ro` or `rw`, after which the target path exists, and so does what is
statted as its parent if it is at or above the path. -/
theorem nodePublishVolume_spec {n n' : Node} {req : NodePublishVolumeRequest}
    {r : Except Status Unit} (h : nodePublishVolume n req = (r, n')) :
    n'.rootDev = n.rootDev ∧ n'.busy = n.busy ∧
      ((n'.mounts = n.mounts ∧
          (r = .ok () → n' = n ∧ n.isLikelyNotMountPoint req.targetPath = (false, none))) ∨
        (r = .ok () ∧ ∃ m, n'.mounts = m :: n.mounts ∧ Path.parse req.targetPath = some m.path ∧
          Path.parse req.stagingTargetPath = some m.device ∧
          m.opts = ["bind", if req.readonly then "ro" else "rw"] ∧
          n'.present m.path ∧
          ∀ q, Path.parse (statParent req.targetPath) = some q → q <:+ m.path → n'.present q)) := by
  unfold nodePublishVolume at h
  rcases hA : Mount.isLikelyNotMountPointAttach n req.targetPath with ⟨r₁, n₁⟩
  obtain ⟨hm, -, hr, hb, -, hfalse, htrue, -⟩ := Mount.isLikelyNotMountPointAttach_spec hA
  rw [hA] at h
  match r₁, h with
  | .error err, h => cases h; exact ⟨hr, hb, .inl ⟨hm, nofun⟩⟩
  | .ok false, h =>
    cases h
    obtain ⟨rfl, hnot⟩ := hfalse rfl
    exact ⟨rfl, rfl, .inl ⟨rfl, fun _ => ⟨rfl, hnot⟩⟩⟩
  | .ok true, h =>
    obtain ⟨p, hp, h1, h2⟩ := htrue rfl
    simp only [ite_true, Mount.mount] at h
    rcases Node.mount_error_or_ok n₁ req.stagingTargetPath req.targetPath
      (((getMount req.volumeCapability).map Prod.fst).getD "")
      ["bind", if req.readonly then "ro" else "rw"] with ⟨e, he⟩ | ⟨n₂, he⟩
    · rw [he] at h; cases h; exact ⟨hr, hb, .inl ⟨hm, nofun⟩⟩
    · rw [he] at h
      cases h
      obtain ⟨m, rfl, hs, ht, ho, -⟩ := Node.mount_ok he
      rw [hp] at ht
      cases ht
      exact ⟨hr, hb, .inr ⟨rfl, m, by rw [hm], hp, hs, ho, h1, h2⟩⟩

/-- What `unmountVolume` does to the table: at most the newest mount at its path goes. -/
theorem unmountVolume_mounts (n : Node) (path : String) :
    (unmountVolume n path).2.mounts = n.mounts ∨ ∃ p, Path.parse path = some p ∧
      (unmountVolume n path).2.mounts = n.mounts.eraseP (·.path == p) := by
  unfold unmountVolume
  split
  · exact .inl rfl
  · exact .inl rfl
  · unfold Mount.unmountPath
    rcases Node.cleanupMountPoint_mounts n path with h | h <;>
    · split <;> rename_i heq <;> simp only [heq] at h <;> first | exact .inl h | exact .inr h

/-- On a detected mount point whose newest mount no process uses, `unmountVolume` does not answer
`NotFound`, and takes that mount off the table, whether it then succeeds or not. -/
theorem unmountVolume_of_mounted {n : Node} {m : MountPoint} {ms : List MountPoint}
    {path : String} (hm : n.mounts = m :: ms) (hp : Path.parse path = some m.path) (hb : m ∉ n.busy)
    (h : n.isLikelyNotMountPoint path = (false, none)) :
    (∀ st, (unmountVolume n path).1 = .error st → st.code ≠ .notFound) ∧
      (unmountVolume n path).2.mounts = ms := by
  have hd : Mount.isLikelyNotMountPointDetach n path = .ok false := by
    simp [Mount.isLikelyNotMountPointDetach, h]
  have hc := Node.cleanupMountPoint_of_mounted hm hp hb h
  unfold unmountVolume Mount.unmountPath
  simp only [hd]
  split <;> rename_i heq <;> rw [heq] at hc
  · exact ⟨nofun, hc⟩
  · exact ⟨(fun _ h => by cases h; simp), hc⟩

/-! ## What a successful stage or publish guarantees -/

/-- A successful `NodeStageVolume` either found the staging path already a mount point and left
the node as it was, or had a non-block capability and mounted the publish info's `DevicePath` on
the staging path. A successful `NodePublishVolume` either found the target path already a mount
point and left the node as it was, or bind-mounted the staging path on it, read-only exactly when
the request asks for it. -/
theorem stage_publish_postcondition (n : Node) :
    (∀ req n', nodeStageVolume n req = (.ok (), n') →
      (n' = n ∧ n.isLikelyNotMountPoint req.stagingTargetPath = (false, none)) ∨
      (req.volumeCapability ≠ some .block ∧ ∃ devicePath m,
        req.publishInfo.lookup "DevicePath" = some devicePath ∧ n'.mounts = m :: n.mounts ∧
        Path.parse req.stagingTargetPath = some m.path ∧ Path.parse devicePath = some m.device)) ∧
    (∀ req n', nodePublishVolume n req = (.ok (), n') →
      (n' = n ∧ n.isLikelyNotMountPoint req.targetPath = (false, none)) ∨
      (∃ m, n'.mounts = m :: n.mounts ∧ Path.parse req.targetPath = some m.path ∧
        Path.parse req.stagingTargetPath = some m.device ∧ "bind" ∈ m.opts ∧
        ("ro" ∈ m.opts ↔ req.readonly = true))) := by
  refine ⟨fun req n' h => ?_, fun req n' h => ?_⟩
  · obtain ⟨-, -, ⟨-, hok⟩ | ⟨-, -, hb, d, m, hd, -, hm, hp, hdev, -⟩⟩ := nodeStageVolume_spec h
    · exact .inl (hok rfl)
    · exact .inr ⟨hb, d, m, hd, hm, hp, hdev⟩
  · obtain ⟨-, -, ⟨-, hok⟩ | ⟨-, m, hm, ht, hs, ho, -⟩⟩ := nodePublishVolume_spec h
    · exact .inl (hok rfl)
    · refine .inr ⟨m, hm, ht, hs, by simp [ho], ?_⟩
      cases hr : req.readonly <;> simp [ho, hr]

/-- A node with a root filesystem, the directories `/s` and `/t`, and the formatted device
`/dev/vdb`, and nothing mounted. -/
def freshNode : Node where
  dirs := [[], ["dev"], ["s"], ["t"]]
  devices := [⟨["vdb", "dev"], 2, "ext4"⟩]
  mounts := []
  rootDev := 1

/-- Staging `/dev/vdb` as `ext4` on `/s`. -/
def stageRequest : NodeStageVolumeRequest :=
  ⟨"/s", [("DevicePath", "/dev/vdb")], some (.mount "ext4" [])⟩

/-- The fresh node with `/dev/vdb` mounted on `/s`. -/
def stagedNode : Node :=
  { freshNode with mounts := [⟨["vdb", "dev"], ["s"], "ext4", ["defaults"], 2⟩] }

/-- Publishing `/s` read-only on `/t`. -/
def publishRequest : NodePublishVolumeRequest := ⟨"/s", "/t", true, none⟩

/-- The staged node with `/s` bind-mounted read-only on `/t`. -/
def publishedNode : Node :=
  { stagedNode with mounts := ⟨["s"], ["t"], "", ["bind", "ro"], 2⟩ :: stagedNode.mounts }

/-- Staging `/dev/vdb` on `/s` of the fresh node mounts it there, and publishing `/s` read-only on
`/t` of the staged node bind-mounts it there read-only. -/
theorem stage_publish_postcondition_on_fresh_node :
    nodeStageVolume freshNode stageRequest = (.ok (), stagedNode) ∧
      ((stagedNode = freshNode ∧ freshNode.isLikelyNotMountPoint "/s" = (false, none)) ∨
        (stageRequest.volumeCapability ≠ some .block ∧ ∃ devicePath m,
          stageRequest.publishInfo.lookup "DevicePath" = some devicePath ∧
          stagedNode.mounts = m :: freshNode.mounts ∧ Path.parse "/s" = some m.path ∧
          Path.parse devicePath = some m.device)) ∧
      nodePublishVolume stagedNode publishRequest = (.ok (), publishedNode) ∧
      ((publishedNode = stagedNode ∧ stagedNode.isLikelyNotMountPoint "/t" = (false, none)) ∨
        (∃ m, publishedNode.mounts = m :: stagedNode.mounts ∧ Path.parse "/t" = some m.path ∧
          Path.parse "/s" = some m.device ∧ "bind" ∈ m.opts ∧ ("ro" ∈ m.opts ↔ true = true))) :=
  ⟨rfl, (stage_publish_postcondition freshNode).1 stageRequest stagedNode rfl,
    rfl, (stage_publish_postcondition stagedNode).2 publishRequest publishedNode rfl⟩

/-- A node on which `/dev/vdc` is mounted on `/s`, and `/s` is bind-mounted read-write on `/t`;
`/dev/vdb` is attached and formatted. -/
def mountedNode : Node where
  dirs := [[], ["dev"], ["s"], ["t"]]
  devices := [⟨["vdb", "dev"], 2, "ext4"⟩, ⟨["vdc", "dev"], 3, "ext4"⟩]
  mounts := [⟨["s"], ["t"], "", ["bind", "rw"], 3⟩, ⟨["vdc", "dev"], ["s"], "ext4", ["defaults"], 3⟩]
  rootDev := 1

/-- Staging `/dev/vdb` on `/s` as a block device succeeds without mounting it, and publishing `/s`
read-only on `/t` succeeds while `/t` stays a read-write mount. -/
theorem success_without_requested_mount :
    nodeStageVolume mountedNode ⟨"/s", [("DevicePath", "/dev/vdb")], some .block⟩ =
        (.ok (), mountedNode) ∧
      nodePublishVolume mountedNode ⟨"/s", "/t", true, none⟩ = (.ok (), mountedNode) ∧
      ∀ m ∈ mountedNode.mounts, m.path = ["t"] → "ro" ∉ m.opts :=
  ⟨rfl, rfl, by decide⟩

/-! ## Unpublish and unstage on every path -/

/-- What `NodeUnpublishVolume` or `NodeUnstageVolume` on `path` answers, and the node it leaves,
for each thing that the detach check can find there. -/
structure DetachOutcome (n : Node) (path : String) (r : Except Status Unit × Node) : Prop where
  /-- A path that, or whose statted parent, does not exist: `Internal` with `targetpath not
  found`, and the node as it was. -/
  missing : ¬ n.Statable path → r = (.error ⟨.internal, .error .targetpathNotFound⟩, n)
  /-- An existing path on the device of its existing statted parent: `NotFound`, and the node as
  it was. -/
  same_device : ∀ p q, Path.parse path = some p → n.present p →
    Path.parse (statParent path) = some q → n.present q → n.devOf p = n.devOf q →
    r = (.error ⟨.notFound, .text "Volume not mounted"⟩, n)
  /-- An existing path on another device than its existing statted parent's: what `UnmountPath`
  answers, its error as `Internal`, and the node that it leaves. -/
  other_device : ∀ p q, Path.parse path = some p → n.present p →
    Path.parse (statParent path) = some q → n.present q → n.devOf p ≠ n.devOf q →
    r = ((Mount.unmountPath n path).1.mapError fun err => ⟨.internal, .error err⟩,
      (Mount.unmountPath n path).2)
  /-- A path that no mount of the table is at: `NotFound` or `targetpath not found`, and the node
  as it was. -/
  not_mounted : (∀ m ∈ n.mounts, Path.parse path ≠ some m.path) → r.2 = n ∧
    (r.1 = .error ⟨.notFound, .text "Volume not mounted"⟩ ∨
      r.1 = .error ⟨.internal, .error .targetpathNotFound⟩)

/-- `unmountVolume` has the outcome of the detach check's finding on every path without `..`. -/
theorem detachOutcome_unmountVolume (n : Node) (path : String) (h : Path.NoDotDot path) :
    DetachOutcome n path (unmountVolume n path) := by
  have hmissing : ¬ n.Statable path →
      unmountVolume n path = (.error ⟨.internal, .error .targetpathNotFound⟩, n) := fun h => by
    rw [unmountVolume, Mount.isLikelyNotMountPointDetach_of_missing h]
  have hsame : ∀ p q, Path.parse path = some p → n.present p →
      Path.parse (statParent path) = some q → n.present q → n.devOf p = n.devOf q →
      unmountVolume n path = (.error ⟨.notFound, .text "Volume not mounted"⟩, n) :=
    fun p q hp h1 hq h2 hd => by
      rw [unmountVolume, Mount.isLikelyNotMountPointDetach_of_present hp h1 hq h2, hd,
        beq_self_eq_true]
  refine ⟨hmissing, hsame, fun p q hp h1 hq h2 hd => ?_, fun hno => ?_⟩
  · -- a detected mount point goes to `UnmountPath`
    rw [unmountVolume, Mount.isLikelyNotMountPointDetach_of_present hp h1 hq h2,
      beq_eq_false_iff_ne.mpr hd]
    rcases Mount.unmountPath n path with ⟨_ | _, n'⟩ <;> rfl
  · -- with no mount at the path, it has the device of its parent, which is what is statted as
    -- its parent or the path itself; or it is missing
    by_cases hx : n.Statable path
    · obtain ⟨p, q, hp, h1, hq, h2⟩ := hx
      have hd : n.devOf p = n.devOf p.dir :=
        Node.devOf_of_not_mounted fun m hm he => hno m hm (he ▸ hp)
      obtain ⟨q', hq', hqq⟩ := parse_statParent h hp
      rw [hq] at hq'
      cases hq'
      rw [hsame p q hp h1 hq h2 (by rcases hqq with rfl | rfl <;> simp [hd])]
      exact ⟨rfl, .inl rfl⟩
    · rw [hmissing hx]
      exact ⟨rfl, .inr rfl⟩

/-- A node whose directory `/s`, on the root filesystem, is bind-mounted read-write on `/t`. -/
def bindOnRootNode : Node where
  dirs := [[], ["s"], ["t"]]
  devices := []
  mounts := [⟨["s"], ["t"], "", ["bind", "rw"], 1⟩]
  rootDev := 1

end CinderCsi.NodeServer
