import Mathlib.Data.Bool.Basic
import Mathlib.Order.Monotone.Basic
import CinderCsi.Os.Mount

/-!
# The mount provider's checks and calls

The functions of `Mount` in `pkg/csi/cinder/mount/mount.go` that the node server calls for
mounting: the two mount-point checks, `UnmountPath`, `ScanForAttach`, and the wrappers `Mount` and
`FormatAndMount` (which are the k8s helpers of `Os/Mount.lean` on a fresh mounter). `GetMountProvider`
always returns the one provider, with no error, so the node server's branches on its error are
never taken and are left out.

`IsLikelyNotMountPointAttach` creates a missing path and then calls it not a mount point;
`IsLikelyNotMountPointDetach` turns a missing path into the error `targetpathNotFound`.
`ScanForAttach` waits up to 60 seconds for the device node, rescanning the buses each second; the
node's state is fixed for the length of a call here, so it succeeds exactly when the node exists.
`scanLoop` is the loop itself, over what each check sees, and `scanLoop_refines` shows that on a
node that does not change during the call it is that model, whatever number of checks the timing
allows.
-/

namespace CinderCsi.Mount

open CinderCsi.Os

/-- `IsLikelyNotMountPointAttach`: a path that does not exist is created (`os.MkdirAll`), and is
then not a mount point. -/
def isLikelyNotMountPointAttach (n : Node) (targetpath : String) : Except OsError Bool × Node :=
  match n.isLikelyNotMountPoint targetpath with
  | (notMnt, none) => (.ok notMnt, n)
  | (_, some err) =>
    if err.isNotExist then
      match n.mkdirAll targetpath with
      | .ok n' => (.ok true, n')
      | .error err => (.error err, n)
    else (.error err, n)

/-- `IsLikelyNotMountPointDetach`: a path that does not exist is `targetpathNotFound`. -/
def isLikelyNotMountPointDetach (n : Node) (targetpath : String) : Except OsError Bool :=
  match n.isLikelyNotMountPoint targetpath with
  | (notMnt, none) => .ok notMnt
  | (_, some err) => if err.isNotExist then .error .targetpathNotFound else .error err

/-- `UnmountPath`: `CleanupMountPoint` without the extensive mount-point check. -/
def unmountPath (n : Node) (mountPath : String) : Except OsError Unit × Node :=
  n.cleanupMountPoint mountPath

/-- `ScanForAttach`: the device node is there, or the wait times out. -/
def scanForAttach (n : Node) (devicePath : String) : Except OsError Unit :=
  if n.pathExists devicePath then .ok () else .error (.scanTimeout devicePath)

/-- `ScanForAttach`'s loop, from its `k`-th check with `n` checks left before the timer fires: at
each tick of the ticker the buses are rescanned and the device node looked for, and `seen k` says
whether it exists then. How many checks come before the sixty-second timer wins the `select`
depends on timing (a slow rescan makes the ticker drop ticks), so it is a parameter. -/
def scanLoop (devicePath : String) (seen : Nat → Bool) : Nat → Nat → Except OsError Unit
  | _, 0 => .error (.scanTimeout devicePath)
  | k, n + 1 => if seen k then .ok () else scanLoop devicePath seen (k + 1) n

/-- `Mount.FormatAndMount`. -/
def formatAndMount (n : Node) (source target fstype : String) (options : List String) :
    Except OsError Unit × Node :=
  n.formatAndMount source target fstype options

/-- `Mount.Mount`. -/
def mount (n : Node) (source target fstype : String) (options : List String) :
    Except OsError Node :=
  n.mount source target fstype options

/-- What `IsLikelyNotMountPointAttach` reports and does. It at most adds directories. When
it reports a mount point, the path is one, and nothing changed; when it reports none, the path
exists afterwards, and so does what is statted as its parent, if that is at or above the path; on
an error, nothing changed. -/
theorem isLikelyNotMountPointAttach_spec {n n' : Node} {s : String} {r : Except OsError Bool}
    (h : isLikelyNotMountPointAttach n s = (r, n')) :
    n'.mounts = n.mounts ∧ n'.devices = n.devices ∧ n'.rootDev = n.rootDev ∧ n'.busy = n.busy ∧
      n.dirs ⊆ n'.dirs ∧
      (r = .ok false → n' = n ∧ n.isLikelyNotMountPoint s = (false, none)) ∧
      (r = .ok true → ∃ p, Path.parse s = some p ∧ n'.present p ∧
        ∀ q, Path.parse (statParent s) = some q → q <:+ p → n'.present q) ∧
      (∀ err, r = .error err → n' = n) := by
  unfold isLikelyNotMountPointAttach at h
  split at h
  · rename_i notMnt heq
    cases h
    refine ⟨rfl, rfl, rfl, rfl, List.Subset.refl _, fun h => ⟨rfl, by cases h; exact heq⟩,
      fun _ => ?_, nofun⟩
    obtain ⟨p, q, hp, h1, hq, h2⟩ := Node.statable_of_isLikelyNotMountPoint heq
    exact ⟨p, hp, h1, fun q' hq' _ => by rw [hq] at hq'; cases hq'; exact h2⟩
  · split_ifs at h
    · split at h
      · rename_i n₁ hm
        cases h
        obtain ⟨p, hp, rfl⟩ := Node.mkdirAll_ok hm
        have hd := Node.mem_dirs_of_mkdirAll hp hm
        exact ⟨rfl, rfl, rfl, rfl, List.subset_append_left _ _, nofun,
          (fun _ => ⟨p, hp, Node.present_of_mem_dirs (hd p (List.suffix_refl p)),
            fun q _ hq => Node.present_of_mem_dirs (hd q hq)⟩), nofun⟩
      · cases h
        exact ⟨rfl, rfl, rfl, rfl, List.Subset.refl _, nofun, nofun, fun _ _ => rfl⟩
    · cases h
      exact ⟨rfl, rfl, rfl, rfl, List.Subset.refl _, nofun, nofun, fun _ _ => rfl⟩

/-- `IsLikelyNotMountPointDetach` on a path that, or whose statted parent, does not exist:
`targetpathNotFound`. -/
theorem isLikelyNotMountPointDetach_of_missing {n : Node} {s : String} (h : ¬ n.Statable s) :
    isLikelyNotMountPointDetach n s = .error .targetpathNotFound := by
  obtain ⟨_, hm⟩ := Node.isLikelyNotMountPoint_of_missing h
  simp [isLikelyNotMountPointDetach, hm, OsError.isNotExist]

/-- `IsLikelyNotMountPointDetach` on an existing path with an existing statted parent compares
their devices. -/
theorem isLikelyNotMountPointDetach_of_present {n : Node} {s : String} {p q : Path}
    (hp : Path.parse s = some p) (h1 : n.present p) (hq : Path.parse (statParent s) = some q)
    (h2 : n.present q) : isLikelyNotMountPointDetach n s = .ok (n.devOf p == n.devOf q) := by
  simp [isLikelyNotMountPointDetach, Node.isLikelyNotMountPoint_of_present hp h1 hq h2]

/-! ## The scan's loop -/

/-- The loop succeeds exactly when one of its checks sees the device node. -/
theorem scanLoop_eq (devicePath : String) (seen : Nat → Bool) :
    ∀ k n, scanLoop devicePath seen k n =
      if ∃ j < n, seen (k + j) then .ok () else .error (.scanTimeout devicePath)
  | k, 0 => by simp [scanLoop]
  | k, n + 1 => by
    rw [scanLoop, scanLoop_eq devicePath seen (k + 1) n]
    by_cases h : seen k
    · simp only [h, if_true]
      exact (if_pos ⟨0, Nat.succ_pos n, by simpa using h⟩).symm
    · have hiff : (∃ j < n + 1, seen (k + j)) ↔ ∃ j < n, seen (k + 1 + j) := by
        constructor
        · rintro ⟨_ | j, hj, hs⟩
          · exact absurd hs h
          · exact ⟨j, by omega, by rwa [show k + 1 + j = k + (j + 1) by omega]⟩
        · rintro ⟨j, hj, hs⟩
          exact ⟨j + 1, by omega, by rwa [show k + (j + 1) = k + 1 + j by omega]⟩
      simp only [h, Bool.false_eq_true, if_false, hiff]

/-- `ScanForAttach`'s loop, whatever number of checks the timing allows, as long as there is one:
when the device node stays once it has appeared, the loop succeeds exactly when the last check
sees it; and on a node that does not change during the call it is `scanForAttach`, the model that
`NodeStageVolume` calls. -/
theorem scanLoop_refines (devicePath : String) (checks : Nat) (hc : 0 < checks) :
    (∀ seen : Nat → Bool, (∀ k, seen k = true → seen (k + 1) = true) →
      scanLoop devicePath seen 0 checks =
        if seen (checks - 1) then .ok () else .error (.scanTimeout devicePath)) ∧
    ∀ n : Node, scanLoop devicePath (fun _ => n.pathExists devicePath) 0 checks =
      scanForAttach n devicePath := by
  refine ⟨fun seen hmono => ?_, fun n => ?_⟩
  · have hup : Monotone seen := monotone_nat_of_le_succ fun k => Bool.le_iff_imp.mpr (hmono k)
    rw [scanLoop_eq]
    congr 1
    simp only [Nat.zero_add, eq_iff_iff]
    exact ⟨fun ⟨j, hj, hs⟩ => Bool.le_iff_imp.mp (hup (by omega : j ≤ checks - 1)) hs,
      fun hs => ⟨checks - 1, by omega, hs⟩⟩
  · rw [scanLoop_eq, scanForAttach]
    congr 1
    simp only [eq_iff_iff]
    exact ⟨fun ⟨_, _, hs⟩ => hs, fun hs => ⟨0, hc, hs⟩⟩

/-- A scan with sixty checks of a device node that appears at the tenth. -/
theorem scanLoop_refines_appearing :
    0 < 60 ∧ (∀ k, decide (9 ≤ k) = true → decide (9 ≤ k + 1) = true) ∧
      scanLoop "/dev/vdb" (fun k => decide (9 ≤ k)) 0 60 = .ok () := by
  have hmono : ∀ k, decide (9 ≤ k) = true → decide (9 ≤ k + 1) = true := fun k h => by
    simp only [decide_eq_true_eq] at h ⊢
    omega
  refine ⟨by decide, hmono, ?_⟩
  rw [(scanLoop_refines "/dev/vdb" 60 (by decide)).1 _ hmono]
  rfl

end CinderCsi.Mount
