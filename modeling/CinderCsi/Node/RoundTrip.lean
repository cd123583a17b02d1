import CinderCsi.Node.Server

/-!
# Undoing and repeating stage and publish

Unstage and unpublish find the mount to undo, and stage and publish find that their work is done,
only through `IsLikelyNotMountPoint`, which sees a mount point where a path's device differs from
that of its statted parent `filepath.Dir(strings.TrimSuffix(path, "/"))`. A mount that the
heuristic does not see is left on the table by the inverse call, which answers `NotFound`, and is
not found by a repeated call: such are a second mount of a device on a path under one of its
mounts, any mount on the root, and any mount named with a last element `.` (`/s/.`), whose statted
parent is the path itself. A repeated stage then mounts the device again on the root of its own
mount, which the kernel refuses with `EBUSY`; a repeated publish stacks a second bind mount.

So the round trip and the repetition hold for the mounts that a call makes `Visible`: what is
statted as the path's parent is not at or under the mount, and had another device. For a path
without `..`, `detected_of_visible` says the heuristic then sees the new mount; unstage and
unpublish take exactly that mount off the table when no process uses it
(`unmountVolume_of_mounted`), and a repeated stage or publish stops at the check and changes
nothing.
-/

namespace CinderCsi.NodeServer

open CinderCsi.Os

/-- The mount that a call put on top of the table for the request path `s` is one that
`IsLikelyNotMountPoint` can see: what it stats as the parent of `s` is not at or under the mount,
and had another device than the mount's. A call that mounted nothing satisfies it. -/
def Visible (n n' : Node) (s : String) : Prop :=
  ∀ m, n'.mounts = m :: n.mounts →
    ∃ q, Path.parse (statParent s) = some q ∧ ¬ m.path <:+ q ∧ m.dev ≠ n.devOf q

/-- A visible new mount on a path without `..`, whose statted parent exists if it is at or above
the path, is detected. -/
theorem detected_of_visible {n n' : Node} {m : MountPoint} {s : String} (hs : Path.NoDotDot s)
    (hv : Visible n n' s) (hm : n'.mounts = m :: n.mounts) (hr : n'.rootDev = n.rootDev)
    (hp : Path.parse s = some m.path) (h1 : n'.present m.path)
    (h2 : ∀ q, Path.parse (statParent s) = some q → q <:+ m.path → n'.present q) :
    n'.isLikelyNotMountPoint s = (false, none) := by
  obtain ⟨q, hq, hsuf, hdev⟩ := hv m hm
  obtain ⟨q', hq', hqq⟩ := parse_statParent hs hp
  rw [hq] at hq'
  cases hq'
  have hqs : q <:+ m.path := by
    rcases hqq with rfl | rfl
    exacts [Path.dir_suffix _, List.suffix_refl _]
  refine Node.isLikelyNotMountPoint_of_head hm hp hq ?_ h1 (h2 q hq hqs)
  rwa [Node.devOf_of_not_suffix hm hr _ hsuf]

/-- `NodeStageVolume` on a staging path that is a mount point succeeds and changes nothing, once
its request is well formed and its device node exists. -/
theorem nodeStageVolume_of_mounted {n : Node} {req : NodeStageVolumeRequest} {devicePath : String}
    (hs : req.stagingTargetPath ≠ "") (hd : req.publishInfo.lookup "DevicePath" = some devicePath)
    (hx : n.pathExists devicePath)
    (h : n.isLikelyNotMountPoint req.stagingTargetPath = (false, none)) :
    nodeStageVolume n req = (.ok (), n) := by
  simp [nodeStageVolume, hs, hd, Mount.scanForAttach, hx, Mount.isLikelyNotMountPointAttach, h]

/-- `NodePublishVolume` on a target path that is a mount point succeeds and changes nothing. -/
theorem nodePublishVolume_of_mounted {n : Node} {req : NodePublishVolumeRequest}
    (h : n.isLikelyNotMountPoint req.targetPath = (false, none)) :
    nodePublishVolume n req = (.ok (), n) := by
  simp [nodePublishVolume, Mount.isLikelyNotMountPointAttach, h]

/-! ## The inverse calls -/

/-- Staging `/dev/vdb` on `/s` of the fresh node makes a visible mount: `/` has the root device. -/
theorem visible_stagedNode : Visible freshNode stagedNode "/s" := fun m hm => by
  cases hm
  exact ⟨[], by decide, by decide, by decide⟩

/-- Publishing `/s` on `/t` of the staged node makes a visible mount. -/
theorem visible_publishedNode : Visible stagedNode publishedNode "/t" := fun m hm => by
  cases hm
  exact ⟨[], by decide, by decide, by decide⟩

/-- A node on which `/dev/vdb` is mounted on `/m`, under which is the directory `/m/s`. -/
def nestedNode : Node where
  dirs := [[], ["dev"], ["m"], ["s", "m"]]
  devices := [⟨["vdb", "dev"], 2, "ext4"⟩]
  mounts := [⟨["vdb", "dev"], ["m"], "ext4", ["defaults"], 2⟩]
  rootDev := 1

/-- Staging `/dev/vdb` as `ext4` on `/m/s`. -/
def nestedRequest : NodeStageVolumeRequest :=
  ⟨"/m/s", [("DevicePath", "/dev/vdb")], some (.mount "ext4" [])⟩

/-- The nested node with `/dev/vdb` mounted on `/m/s` too. -/
def nestedStagedNode : Node :=
  { nestedNode with mounts := ⟨["vdb", "dev"], ["s", "m"], "ext4", ["defaults"], 2⟩ ::
      nestedNode.mounts }

/-- Staging `/dev/vdb` as `ext4` on `/s`, named as `/s/.`. -/
def dotRequest : NodeStageVolumeRequest :=
  ⟨"/s/.", [("DevicePath", "/dev/vdb")], some (.mount "ext4" [])⟩

/-- Publishing `/s` read-only on `/t`, named as `/t/.`. -/
def dotPublishRequest : NodePublishVolumeRequest := ⟨"/s", "/t/.", true, none⟩

end CinderCsi.NodeServer
