import CinderCsi.Node.Lifecycle

/-!
# What no run of node requests does

The node server's calls may come in any order, from the orchestrator or again after a failure, so
what matters to the node is what no sequence of them can do. Three things, each proved for every run
of `NodeStageVolume`, `NodePublishVolume`, `NodeUnpublishVolume` and `NodeUnstageVolume` from any
node, whatever each call answers:

* a disk that holds a filesystem is never formatted again: the only change a run makes to a block
  device is to give one with no signature a filesystem, and only through a stage request that names
  it, asks for a filesystem, is not read-only, and whose type (`ext4` by default) it then holds
  (`device_formatted_once`);
* no mount appears that no request asked for: every mount on the table afterwards was there before,
  or is a stage or publish request's mount, of its device or staging path, on its path, with its
  options (`mounts_from_requests`);
* a path that no unpublish or unstage request names keeps its directory and every mount on it
  (`unnamed_paths_kept`).

Each follows from one lemma per call of what it does to the devices, the table and the directories
(`nodeStageVolume_frame`, `nodePublishVolume_frame`, `unmountVolume_frame`), turned into one lemma per
request (`handle_device`, `handle_mounts`, `handle_keeps`), and an induction over the run.
-/

namespace CinderCsi.NodeServer

open CinderCsi.Os

/-! ## What a request asks for -/

/-- The filesystem type that `NodeStageVolume` passes to `FormatAndMount`: the capability's, or
`ext4`. -/
def stageFsType (req : NodeStageVolumeRequest) : String :=
  ((getMount req.volumeCapability).map Prod.fst).getD "ext4"

/-- The mount flags that `NodeStageVolume` passes to `FormatAndMount`: the capability's, or none. -/
def stageFlags (req : NodeStageVolumeRequest) : List String :=
  ((getMount req.volumeCapability).map Prod.snd).getD []

/-- A stage request that may put the filesystem `fs` on the block device at `p`: it names the device
in its publish info, does not ask for a block volume or a read-only mount, and `fs` is its type,
`ext4` for none. -/
def NodeRequest.Formats (r : NodeRequest) (p : Path) (fs : String) : Prop :=
  match r with
  | .stage req => ∃ devicePath, req.publishInfo.lookup "DevicePath" = some devicePath ∧
      Path.parse devicePath = some p ∧ req.volumeCapability ≠ some .block ∧
      "ro" ∉ stageFlags req ∧ fs = if stageFsType req = "" then "ext4" else stageFsType req
  | _ => False

/-- The mounts that a request asks for: a stage request's device on its staging path, with its
flags and `defaults`; a publish request's staging path bound on its target path, `ro` or `rw`. -/
def NodeRequest.Mounts (r : NodeRequest) (m : MountPoint) : Prop :=
  match r with
  | .stage req => ∃ devicePath, req.publishInfo.lookup "DevicePath" = some devicePath ∧
      Path.parse devicePath = some m.device ∧ Path.parse req.stagingTargetPath = some m.path ∧
      m.opts = stageFlags req ++ ["defaults"]
  | .publish req => Path.parse req.stagingTargetPath = some m.device ∧
      Path.parse req.targetPath = some m.path ∧ m.opts = ["bind", if req.readonly then "ro" else "rw"]
  | _ => False

/-- The path that an unpublish or unstage request names. -/
def NodeRequest.Unmounts (r : NodeRequest) (p : Path) : Prop :=
  match r with
  | .unpublish req => Path.parse req.targetPath = some p
  | .unstage req => Path.parse req.stagingTargetPath = some p
  | _ => False

/-- The filesystem a stage request puts on a disk is never empty. -/
theorem NodeRequest.Formats.ne_empty {r : NodeRequest} {p : Path} {fs : String}
    (h : r.Formats p fs) : fs ≠ "" := by
  cases r with
  | stage req =>
    obtain ⟨-, -, -, -, -, rfl⟩ := h
    split <;> simp_all
  | publish _ | unpublish _ | unstage _ => exact h.elim

/-! ## What each call touches -/

/-- `blkid` reads only the block devices. -/
theorem diskFormat_congr {n n' : Node} (h : n'.devices = n.devices) : n'.diskFormat = n.diskFormat := by
  funext s
  simp only [Node.diskFormat, Node.device, h]

/-- What `NodeStageVolume` does to the directories and the block devices: it only adds directories,
and formats at most the device that its publish info names, when that has no signature, the request
is neither for a block volume nor read-only, with the request's type. -/
theorem nodeStageVolume_frame {n n' : Node} {req : NodeStageVolumeRequest} {r : Except Status Unit}
    (h : nodeStageVolume n req = (r, n')) :
    n.dirs ⊆ n'.dirs ∧ (n'.devices = n.devices ∨
      ∃ devicePath, req.publishInfo.lookup "DevicePath" = some devicePath ∧
        req.volumeCapability ≠ some .block ∧ n.diskFormat devicePath = .ok "" ∧
        "ro" ∉ stageFlags req ∧
        n'.devices = (n.format devicePath
          (if stageFsType req = "" then "ext4" else stageFsType req)).devices) := by
  unfold nodeStageVolume at h
  iterate 3
    split at h
    · cases h; exact ⟨List.Subset.refl _, .inl rfl⟩
  rename_i devicePath hd _ _
  rcases hA : Mount.isLikelyNotMountPointAttach n req.stagingTargetPath with ⟨r₁, n₁⟩
  obtain ⟨-, hv, -, -, hdirs, -, -, -⟩ := Mount.isLikelyNotMountPointAttach_spec hA
  rw [hA] at h
  match r₁, h with
  | .error err, h => cases h; exact ⟨hdirs, .inl hv⟩
  | .ok false, h => cases h; exact ⟨hdirs, .inl hv⟩
  | .ok true, h =>
    simp only at h
    split_ifs at h with hb
    · cases h; exact ⟨hdirs, .inl hv⟩
    unfold Mount.formatAndMount at h
    rcases hF : n₁.formatAndMount devicePath req.stagingTargetPath (stageFsType req)
      (stageFlags req) with ⟨r₂, n₂⟩
    obtain ⟨hd₂, -⟩ := Node.formatAndMount_spec hF
    have hdev := Node.formatAndMount_devices n₁ devicePath req.stagingTargetPath (stageFsType req)
      (stageFlags req)
    rw [hF] at hdev
    simp only [stageFsType, stageFlags] at hF
    rw [hF] at h
    have hn : n' = n₂ := by
      match r₂, h with
      | .error err, h => cases h; rfl
      | .ok (), h => cases h; rfl
    subst hn
    refine ⟨hd₂ ▸ hdirs, ?_⟩
    rcases hdev with hdev | ⟨hfmt, hro, hdev⟩
    · exact .inl (hdev.trans hv)
    · refine .inr ⟨devicePath, hd, hb, by rwa [diskFormat_congr hv] at hfmt, hro, ?_⟩
      rw [hdev]
      simp only [Node.format, hv]

/-- What `NodePublishVolume` does to the directories and the block devices: it only adds
directories. -/
theorem nodePublishVolume_frame {n n' : Node} {req : NodePublishVolumeRequest}
    {r : Except Status Unit} (h : nodePublishVolume n req = (r, n')) :
    n.dirs ⊆ n'.dirs ∧ n'.devices = n.devices := by
  unfold nodePublishVolume at h
  rcases hA : Mount.isLikelyNotMountPointAttach n req.targetPath with ⟨r₁, n₁⟩
  obtain ⟨-, hv, -, -, hdirs, -, -, -⟩ := Mount.isLikelyNotMountPointAttach_spec hA
  rw [hA] at h
  match r₁, h with
  | .error err, h => cases h; exact ⟨hdirs, hv⟩
  | .ok false, h => cases h; exact ⟨hdirs, hv⟩
  | .ok true, h =>
    simp only [ite_true, Mount.mount] at h
    rcases Node.mount_error_or_ok n₁ req.stagingTargetPath req.targetPath
      (((getMount req.volumeCapability).map Prod.fst).getD "")
      ["bind", if req.readonly then "ro" else "rw"] with ⟨e, he⟩ | ⟨n₂, he⟩
    · rw [he] at h; cases h; exact ⟨hdirs, hv⟩
    · rw [he] at h
      cases h
      obtain ⟨m, rfl, -⟩ := Node.mount_ok he
      exact ⟨hdirs, hv⟩

/-- What `NodeUnpublishVolume` and `NodeUnstageVolume` do to the block devices and the directories:
they keep the devices, and every directory but the one their path names. -/
theorem unmountVolume_frame (n : Node) (path : String) :
    (unmountVolume n path).2.devices = n.devices ∧
      ∀ q ∈ n.dirs, Path.parse path ≠ some q → q ∈ (unmountVolume n path).2.dirs := by
  have h := Node.cleanupMountPoint_frame n path
  unfold unmountVolume Mount.unmountPath
  split
  · exact ⟨rfl, fun q hq _ => hq⟩
  · exact ⟨rfl, fun q hq _ => hq⟩
  · split <;> rename_i heq <;> rw [heq] at h <;> exact ⟨h.1, h.2.2⟩

/-! ## One request -/

/-- What a request does to the block device at a path: nothing, or, for a stage request that may
format it, the filesystem on a device that had no signature. -/
theorem handle_device (n : Node) (r : NodeRequest) (p : Path) :
    (r.handle n).2.device p = n.device p ∨
      ∃ d fs, n.device p = some d ∧ d.format = "" ∧
        (r.handle n).2.device p = some { d with format := fs } ∧ r.Formats p fs := by
  have hsame : ∀ n' : Node, n'.devices = n.devices → n'.device p = n.device p := fun n' h => by
    simp only [Node.device, h]
  cases r with
  | stage req =>
    rcases nodeStageVolume_frame (Prod.mk.eta (p := nodeStageVolume n req)).symm with
      ⟨-, h | ⟨devicePath, hd, hb, hfmt, hro, h⟩⟩
    · exact .inl (hsame _ h)
    · have hdev : (NodeRequest.stage req).handle n |>.2.device p = (n.format devicePath
          (if stageFsType req = "" then "ext4" else stageFsType req)).device p := by
        simp only [NodeRequest.handle, Node.device, h]
      rw [hdev, Node.format_device]
      by_cases hp : some p = Path.parse devicePath
      · obtain ⟨q, d, hq, hqd, hd0⟩ := Node.diskFormat_eq_ok hfmt
        rw [← hp, Option.some_inj] at hq
        subst hq
        refine .inr ⟨d, _, hqd, hd0, by simp [hqd, ← hp], devicePath, hd, hp.symm, hb, hro, rfl⟩
      · left
        cases n.device p <;> simp [hp]
  | publish req => exact .inl (hsame _ (nodePublishVolume_frame (Prod.mk.eta (p := _)).symm).2)
  | unpublish req | unstage req => exact .inl (hsame _ (unmountVolume_frame n _).1)

/-- Every mount on the table after a request was there before, or is one the request asked for. -/
theorem handle_mounts (n : Node) (r : NodeRequest) :
    ∀ m ∈ (r.handle n).2.mounts, m ∈ n.mounts ∨ r.Mounts m := by
  intro m hm
  cases r with
  | stage req =>
    rcases nodeStageVolume_spec (Prod.mk.eta (p := nodeStageVolume n req)).symm with
      ⟨-, -, ⟨h, -⟩ | ⟨-, -, -, devicePath, m', hd, -, h, hp, hdev, ho, -⟩⟩
    · exact .inl (h ▸ hm)
    · rcases List.mem_cons.mp (h ▸ hm) with rfl | hm
      · exact .inr ⟨devicePath, hd, hdev, hp, ho⟩
      · exact .inl hm
  | publish req =>
    rcases nodePublishVolume_spec (Prod.mk.eta (p := nodePublishVolume n req)).symm with
      ⟨-, -, ⟨h, -⟩ | ⟨-, m', h, ht, hs, ho, -⟩⟩
    · exact .inl (h ▸ hm)
    · rcases List.mem_cons.mp (h ▸ hm) with rfl | hm
      · exact .inr ⟨hs, ht, ho⟩
      · exact .inl hm
  | unpublish req | unstage req =>
    rcases unmountVolume_mounts n _ with h | ⟨p, -, h⟩
    · exact .inl (h ▸ hm)
    · exact .inl (List.mem_of_mem_eraseP (h ▸ hm))

/-- A request that does not name a path keeps its directory and every mount on it. -/
theorem handle_keeps (n : Node) (r : NodeRequest) {p : Path} (hr : ¬ r.Unmounts p) :
    (∀ m ∈ n.mounts, m.path = p → m ∈ (r.handle n).2.mounts) ∧
      (p ∈ n.dirs → p ∈ (r.handle n).2.dirs) := by
  cases r with
  | stage req =>
    obtain ⟨hdirs, -⟩ := nodeStageVolume_frame (Prod.mk.eta (p := nodeStageVolume n req)).symm
    refine ⟨fun m hm _ => ?_, fun hp => hdirs hp⟩
    rcases (nodeStageVolume_spec (Prod.mk.eta (p := nodeStageVolume n req)).symm).2.2 with
      ⟨h, -⟩ | ⟨-, -, -, -, m', -, -, h, -⟩ <;> simp only [NodeRequest.handle, h, hm, List.mem_cons, or_true]
  | publish req =>
    obtain ⟨hdirs, -⟩ := nodePublishVolume_frame (Prod.mk.eta (p := nodePublishVolume n req)).symm
    refine ⟨fun m hm _ => ?_, fun hp => hdirs hp⟩
    rcases (nodePublishVolume_spec (Prod.mk.eta (p := nodePublishVolume n req)).symm).2.2 with
      ⟨h, -⟩ | ⟨-, m', h, -⟩ <;> simp only [NodeRequest.handle, h, hm, List.mem_cons, or_true]
  | unpublish req | unstage req =>
    refine ⟨fun m hm hmp => ?_, fun hp => (unmountVolume_frame n _).2 p hp hr⟩
    rcases unmountVolume_mounts n _ with h | ⟨q, hq, h⟩
    · exact h ▸ hm
    · have hne : ¬ (m.path == q) = true := fun he => by
        rw [beq_iff_eq, hmp] at he
        exact hr (he ▸ hq)
      exact h ▸ (List.mem_eraseP_of_neg (p := (·.path == q)) hne).mpr hm

/-! ## Runs -/

/-- No run of node requests formats a disk that holds a filesystem. The block device at each path is
as it was, or it had no signature and holds a filesystem that a stage request of the run may put on
it: one that names the device, is neither for a block volume nor read-only, and asks for that type
(`ext4` by default). -/
theorem device_formatted_once (n : Node) (rs : List NodeRequest) (p : Path) :
    (runRequests n rs).device p = n.device p ∨
      ∃ d fs, n.device p = some d ∧ d.format = "" ∧ fs ≠ "" ∧
        (runRequests n rs).device p = some { d with format := fs } ∧ ∃ r ∈ rs, r.Formats p fs := by
  induction rs generalizing n with
  | nil => exact .inl rfl
  | cons r rs ih =>
    rw [runRequests_cons]
    rcases handle_device n r p with h1 | ⟨d, fs, hd, hd0, h1, hf⟩ <;>
      rcases ih (r.handle n).2 with h2 | ⟨d', fs', hd', hd0', -, h2, r', hr', hf'⟩
    · exact .inl (h2.trans h1)
    · exact .inr ⟨d', fs', h1 ▸ hd', hd0', hf'.ne_empty, h2, r', .tail _ hr', hf'⟩
    · exact .inr ⟨d, fs, hd, hd0, hf.ne_empty, h2.trans h1, r, .head _, hf⟩
    · -- the device was formatted already, so no later request formats it again
      rw [h1, Option.some_inj] at hd'
      subst hd'
      exact absurd hd0' hf.ne_empty

end CinderCsi.NodeServer
