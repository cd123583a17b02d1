import CinderCsi.Device.ById
import CinderCsi.Go.Wait

/-!
# `GetDevicePath`: polling for an attached volume's device

`GetDevicePath` exists twice as well. The copy in `openstack/openstack_metadata.go` calls, up to
`operationFinishSteps = 10` times under `wait.ExponentialBackoff`, a closure that tries
`getDevicePathBySerialID` and, when that finds nothing, asks the metadata service for the
instance's devices (`getDevicePathFromInstanceMetadata`): the first device of type `disk` whose
serial is the volume id gives a `/dev/disk/by-path/*-<bus>-<address>` pattern, and its one glob
match is the path. The copy in `mount/mount.go` tries `getDevicePathBySerialID` alone, up to
`operationFinishSteps = 15` times. Both keep the last path the closure found in a captured
`devicePath`, and after the loop turn a timeout into an error, an empty `devicePath` into another,
and return the path otherwise.

What the node shows changes from call to call, so each call reads its own `Observation`: the by-id
listing, the metadata service's answer, and `filepath.Glob`. The closure's state is `devicePath`,
and for the openstack copy also the ticks at which it asked the metadata service. A panic of
`volumeID[:20]` is the closure's error `()`, after which `GetDevicePath` returns nothing (`none`).

`ResolvesFirst` says what such a loop is for: the path of the first call that resolves a non-empty
one, and the timeout error when none does. `MetadataResolves` says what the metadata strategy is
for: the service answers, and the by-path pattern of the first of its entries for the volume
matches exactly one path; `getDevicePathFromInstanceMetadata` computes the `metadataPath` that
meets it. `getDevicePath_resolves_first` says that both copies meet `ResolvesFirst` for an id of
20 bytes or more, where the path a call resolves is the by-id path when there is one and the
metadata strategy's otherwise, and that the metadata service is asked exactly at the calls the
loop makes where the by-id strategy finds nothing.
-/

namespace CinderCsi.Device

/-! ## What a call observes -/

/-- A device entry of the instance metadata (`metadata.DeviceMetadata`): the fields that
`getDevicePathFromInstanceMetadata` reads. -/
structure DeviceMetadata where
  /-- `Type`. -/
  type : List Byte
  /-- `Serial`. -/
  serial : List Byte
  /-- `Bus`. -/
  bus : List Byte
  /-- `Address`. -/
  address : List Byte
deriving DecidableEq, Repr

/-- What one call of the closure observes on the node. -/
structure Observation where
  /-- `ioutil.ReadDir("/dev/disk/by-id/")`: the entries' names, or the error. -/
  byId : Except String (List (List Byte))
  /-- `metadataUtil.GetFromMetadataService("latest")`: the instance's `Devices`, or the error. -/
  devices : Except String (List DeviceMetadata)
  /-- `filepath.Glob`: the paths that a pattern matches, or the error. -/
  glob : List Byte → Except String (List (List Byte))

/-- `getDevicePathFromInstanceMetadata`: the one path that the by-path pattern of the first disk
whose serial is the volume id matches, or the empty path. -/
def getDevicePathFromInstanceMetadata (volumeID : List Byte)
    (instanceMetadata : Except String (List DeviceMetadata))
    (glob : List Byte → Except String (List (List Byte))) : List Byte :=
  match instanceMetadata with
  | .error _ => []
  | .ok devices =>
    match devices.find? fun device => device.type = ascii "disk" ∧ device.serial = volumeID with
    | none => []
    | some device =>
      match glob (ascii "/dev/disk/by-path/*-" ++ device.bus ++ ascii "-" ++ device.address) with
      | .ok [diskPath] => diskPath
      | _ => []

/-! ## The two copies -/

/-- The errors that `GetDevicePath` returns. -/
inductive DevicePathError where
  /-- `"Failed to find device for the volumeID: %q within the alloted time"`. -/
  | notFoundInTime (volumeID : List Byte)
  /-- `"Device path was empty for volumeID: %q"`. -/
  | pathEmpty (volumeID : List Byte)
deriving DecidableEq, Repr

/-- The end of `GetDevicePath`, on the loop's result and the captured `devicePath`: the timeout
error, the empty-path error, or the path. A panic in the closure (the condition's error) ends the
call with no result. -/
def getDevicePathResult (volumeID : List Byte) :
    Except (Go.WaitError Unit) Unit → List Byte → Option (List Byte × Option DevicePathError)
  | .error (.condition ()), _ => none
  | .error .errWaitTimeout, _ => some ([], some (.notFoundInTime volumeID))
  | .ok (), devicePath =>
    if devicePath = [] then some ([], some (.pathEmpty volumeID)) else some (devicePath, none)

namespace OpenStack

/-- `operationFinishSteps` of `openstack_metadata.go`. -/
def operationFinishSteps : Nat := 10

/-- The variables that the closure of `GetDevicePath` writes: the captured `devicePath`, and the
ticks at which it asked the metadata service, oldest first. -/
structure DevicePathState where
  /-- `devicePath`. -/
  devicePath : List Byte
  /-- The ticks at which `getDevicePathFromInstanceMetadata` ran. -/
  queried : List Nat
deriving DecidableEq, Repr

/-- The closure of `GetDevicePath` at tick `i`. -/
def getDevicePathCondition (volumeID : List Byte) (obs : Nat → Observation) (i : Nat)
    (s : DevicePathState) : Except Unit Bool × DevicePathState :=
  match getDevicePathBySerialID volumeID (obs i).byId with
  | none => (.error (), s)
  | some devicePath =>
    if devicePath ≠ [] then (.ok true, { s with devicePath := devicePath })
    else
      let devicePath := getDevicePathFromInstanceMetadata volumeID (obs i).devices (obs i).glob
      let s := { devicePath := devicePath, queried := s.queried ++ [i] }
      if devicePath ≠ [] then (.ok true, s) else (.ok false, s)

/-- The loop of `GetDevicePath`, from an empty `devicePath`. -/
def getDevicePathLoop (volumeID : List Byte) (obs : Nat → Observation) :
    Except (Go.WaitError Unit) Unit × DevicePathState :=
  Go.exponentialBackoff (getDevicePathCondition volumeID obs) operationFinishSteps ⟨[], []⟩

/-- `GetDevicePath` of `openstack_metadata.go`. -/
def getDevicePath (volumeID : List Byte) (obs : Nat → Observation) :
    Option (List Byte × Option DevicePathError) :=
  getDevicePathResult volumeID (getDevicePathLoop volumeID obs).1
    (getDevicePathLoop volumeID obs).2.devicePath

end OpenStack

namespace Mount

/-- `operationFinishSteps` of `mount.go`. -/
def operationFinishSteps : Nat := 15

/-- The closure of `GetDevicePath` at tick `i`; its state is the captured `devicePath`. -/
def getDevicePathCondition (volumeID : List Byte) (byId : Nat → Except String (List (List Byte)))
    (i : Nat) (devicePath : List Byte) : Except Unit Bool × List Byte :=
  match getDevicePathBySerialID volumeID (byId i) with
  | none => (.error (), devicePath)
  | some devicePath => if devicePath ≠ [] then (.ok true, devicePath) else (.ok false, devicePath)

/-- The loop of `GetDevicePath`, from an empty `devicePath`. -/
def getDevicePathLoop (volumeID : List Byte) (byId : Nat → Except String (List (List Byte))) :
    Except (Go.WaitError Unit) Unit × List Byte :=
  Go.exponentialBackoff (getDevicePathCondition volumeID byId) operationFinishSteps []

/-- `GetDevicePath` of `mount.go`, on the by-id listing of each call. -/
def getDevicePath (volumeID : List Byte) (byId : Nat → Except String (List (List Byte))) :
    Option (List Byte × Option DevicePathError) :=
  getDevicePathResult volumeID (getDevicePathLoop volumeID byId).1
    (getDevicePathLoop volumeID byId).2

end Mount

/-! ## What the metadata strategy is for -/

/-- A metadata entry for the volume: a device of type `disk` whose serial is the volume id. -/
def DeviceMetadata.IsVolumeDisk (volumeID : List Byte) (d : DeviceMetadata) : Prop :=
  d.type = ascii "disk" ∧ d.serial = volumeID

instance (volumeID : List Byte) (d : DeviceMetadata) : Decidable (d.IsVolumeDisk volumeID) :=
  inferInstanceAs (Decidable (_ ∧ _))

/-- The by-path pattern that a metadata entry names: `/dev/disk/by-path/*-<bus>-<address>`. -/
def DeviceMetadata.byPathPattern (d : DeviceMetadata) : List Byte :=
  ascii "/dev/disk/by-path/*-" ++ d.bus ++ ascii "-" ++ d.address

/-- The metadata strategy resolves `p` when the service answers, and the pattern of the first of
its entries for the volume matches exactly the path `p`. -/
def MetadataResolves (volumeID : List Byte) (o : Observation) (p : List Byte) : Prop :=
  ∃ ds₁ d ds₂, o.devices = .ok (ds₁ ++ d :: ds₂) ∧ (∀ e ∈ ds₁, ¬ e.IsVolumeDisk volumeID) ∧
    d.IsVolumeDisk volumeID ∧ o.glob d.byPathPattern = .ok [p]

/-- The path that the metadata strategy resolves: the one match of the pattern of the first entry
for the volume, and the empty path when the service fails, has no such entry, or the pattern does
not match exactly one path. -/
def metadataPath (volumeID : List Byte) (o : Observation) : List Byte :=
  match o.devices with
  | .error _ => []
  | .ok ds =>
    match (ds.filter fun d => decide (d.IsVolumeDisk volumeID)).head? with
    | none => []
    | some d =>
      match o.glob d.byPathPattern with
      | .ok [p] => p
      | _ => []

/-- `getDevicePathFromInstanceMetadata` computes `metadataPath`. -/
theorem getDevicePathFromInstanceMetadata_eq (volumeID : List Byte) (o : Observation) :
    getDevicePathFromInstanceMetadata volumeID o.devices o.glob = metadataPath volumeID o := by
  unfold getDevicePathFromInstanceMetadata metadataPath
  rcases o.devices with _ | ds
  · rfl
  · dsimp only
    rw [List.filter_head?]
    rfl

/-- The first entry for the volume, as a split of the service's answer. -/
theorem metadataResolves_iff {volumeID p : List Byte} {o : Observation} :
    MetadataResolves volumeID o p ↔ ∃ ds d, o.devices = .ok ds ∧
      ds.find? (fun d => decide (d.IsVolumeDisk volumeID)) = some d ∧
      o.glob d.byPathPattern = .ok [p] := by
  simp only [MetadataResolves, List.find?_eq_some, decide_eq_true_eq, Bool.not_eq_true',
    decide_eq_false_iff_not]
  constructor
  · rintro ⟨ds₁, d, ds₂, hd, hpre, hv, hg⟩
    exact ⟨_, d, hd, ⟨hv, ds₁, ds₂, rfl, hpre⟩, hg⟩
  · rintro ⟨ds, d, hd, ⟨hv, ds₁, ds₂, rfl, hpre⟩, hg⟩
    exact ⟨ds₁, d, ds₂, hd, hpre, hv, hg⟩

/-- A non-empty path is the metadata strategy's exactly when the strategy resolves it. -/
theorem metadataPath_eq_iff {volumeID p : List Byte} (o : Observation) (hp : p ≠ []) :
    metadataPath volumeID o = p ↔ MetadataResolves volumeID o p := by
  rw [metadataResolves_iff, metadataPath]
  rcases o.devices with e | ds
  · simp [hp.symm]
  · simp only [List.filter_head?, Except.ok.injEq, exists_and_left, exists_eq_left']
    cases ds.find? fun d => decide (d.IsVolumeDisk volumeID) with
    | none => simp [hp.symm]
    | some d =>
      simp only [Option.some.injEq, exists_eq_left']
      split
      · rename_i heq
        simp [heq]
      · rename_i hne
        exact ⟨fun h => absurd h.symm hp, fun h => (hne p h).elim⟩

/-! ## What the loops are for -/

/-- The by-id strategy's path on a listing, for an id of 20 bytes or more. -/
def byIdPath (volumeID : List Byte) (listing : Except String (List (List Byte))) : List Byte :=
  firstCandidatePath volumeID (listingNames listing)

/-- The path that a call of the openstack closure resolves: the by-id path when there is one,
and the metadata strategy's otherwise. -/
def resolvedPath (volumeID : List Byte) (o : Observation) : List Byte :=
  if byIdPath volumeID o.byId ≠ [] then byIdPath volumeID o.byId else metadataPath volumeID o

/-- A non-empty path is resolved exactly when it is the by-id path, or there is none and the
metadata strategy resolves it. -/
theorem resolvedPath_eq_iff {volumeID p : List Byte} (o : Observation) (hp : p ≠ []) :
    resolvedPath volumeID o = p ↔
      byIdPath volumeID o.byId = p ∨ byIdPath volumeID o.byId = [] ∧ MetadataResolves volumeID o p := by
  rw [resolvedPath, ← metadataPath_eq_iff o hp]
  by_cases hb : byIdPath volumeID o.byId = []
  · simp [hb, hp.symm]
  · simp [hb]

/-- What a loop of `steps` calls, whose call `k` resolves `resolve k`, returns. -/
structure ResolvesFirst (volumeID : List Byte) (steps : Nat) (resolve : Nat → List Byte)
    (result : Option (List Byte × Option DevicePathError)) : Prop where
  /-- A path with no error exactly when a call resolves a non-empty one; the first such. -/
  ok_iff : ∀ p, result = some (p, none) ↔
    ∃ k < steps, (∀ j < k, resolve j = []) ∧ resolve k ≠ [] ∧ p = resolve k
  /-- The timeout error when no call does. -/
  timeout : (∀ k < steps, resolve k = []) → result = some ([], some (.notFoundInTime volumeID))
  /-- Never the empty path with no error. -/
  ne_empty : result ≠ some ([], none)
  /-- Never the empty-path error. -/
  ne_pathEmpty : ∀ p, result ≠ some (p, some (.pathEmpty volumeID))

/-- A result that is the first non-empty path within the budget, or the timeout error when there
is none, is what the loop is for. -/
theorem resolvesFirst_of_cases {volumeID : List Byte} {steps : Nat} {resolve : Nat → List Byte}
    {result : Option (List Byte × Option DevicePathError)}
    (h : (∃ k < steps, (∀ j < k, resolve j = []) ∧ resolve k ≠ [] ∧
        result = some (resolve k, none)) ∨
      ((∀ k < steps, resolve k = []) ∧ result = some ([], some (.notFoundInTime volumeID)))) :
    ResolvesFirst volumeID steps resolve result := by
  rcases h with ⟨k, hk, hpre, hne, rfl⟩ | ⟨hall, rfl⟩
  · refine ⟨fun p => ⟨fun h => ⟨k, hk, hpre, hne, by simp_all⟩, ?_⟩,
      fun hall => absurd (hall k hk) hne, by simp [hne], fun p => by simp⟩
    rintro ⟨k', hk', hpre', hne', rfl⟩
    rw [Go.first_tick_unique (P := fun j => resolve j ≠ []) hne' (fun j hj => not_not.mpr (hpre' j hj))
      hne fun j hj => not_not.mpr (hpre j hj)]
  · refine ⟨fun p => ⟨by simp, ?_⟩, fun _ => rfl, by simp, fun p => by simp⟩
    rintro ⟨k, hk, -, hne, -⟩
    exact absurd (hall k hk) hne

/-- A loop whose call `k` answers whether it resolved a non-empty path and leaves
`devicePath = resolve k` is what the loop is for. -/
theorem resolvesFirst_of_condition {σ : Type} {condition : Nat → σ → Except Unit Bool × σ}
    {resolve : Nat → List Byte} (devicePath : σ → List Byte)
    (hanswer : ∀ k s, (condition k s).1 = .ok (decide (resolve k ≠ [])))
    (hpath : ∀ k s, devicePath (condition k s).2 = resolve k)
    (volumeID : List Byte) (steps : Nat) (s : σ) :
    ResolvesFirst volumeID steps resolve
      (getDevicePathResult volumeID (Go.exponentialBackoff condition steps s).1
        (devicePath (Go.exponentialBackoff condition steps s).2)) := by
  apply resolvesFirst_of_cases
  rcases Go.backoff_bool_cases (p := fun k => resolve k ≠ []) hanswer steps s with
    ⟨k, hk, hpre, hne, heq⟩ | ⟨hall, heq⟩
  · refine .inl ⟨k, hk, fun j hj => not_not.mp (hpre j hj), hne, ?_⟩
    rw [heq, Go.statesFrom_succ, hpath, Nat.zero_add]
    simp [getDevicePathResult, hne]
  · exact .inr ⟨fun j hj => not_not.mp (hall j hj), by rw [heq]; rfl⟩

/-! ## The closures -/

namespace OpenStack

/-- For an id of 20 bytes or more, a call resolves `resolvedPath` and leaves it in `devicePath`,
and asks the metadata service when the by-id strategy finds nothing. -/
theorem getDevicePathCondition_eq {volumeID : List Byte} (hl : 20 ≤ volumeID.length)
    (obs : Nat → Observation) (i : Nat) (s : DevicePathState) :
    getDevicePathCondition volumeID obs i s =
      (.ok (decide (resolvedPath volumeID (obs i) ≠ [])),
        ⟨resolvedPath volumeID (obs i),
          if byIdPath volumeID (obs i).byId = [] then s.queried ++ [i] else s.queried⟩) := by
  have hbyId : getDevicePathBySerialID volumeID (obs i).byId =
      some (byIdPath volumeID (obs i).byId) :=
    Device.getDevicePathBySerialID_of_long hl _
  unfold getDevicePathCondition resolvedPath
  rw [hbyId, getDevicePathFromInstanceMetadata_eq]
  by_cases hb : byIdPath volumeID (obs i).byId = []
  · by_cases hm : metadataPath volumeID (obs i) = [] <;> simp [hb, hm]
  · simp [hb]

/-- The ticks at which the metadata service was asked over `n` calls from tick `i`: those where
the by-id strategy found nothing. -/
theorem queried_statesFrom {volumeID : List Byte} (hl : 20 ≤ volumeID.length)
    (obs : Nat → Observation) : ∀ (n i : Nat) (s : DevicePathState),
    (Go.statesFrom (getDevicePathCondition volumeID obs) i n s).queried =
      s.queried ++ (List.range' i n).filter fun j => byIdPath volumeID (obs j).byId = []
  | 0, _, _ => by simp [Go.statesFrom]
  | n + 1, i, s => by
    rw [Go.statesFrom, queried_statesFrom hl obs n (i + 1), getDevicePathCondition_eq hl,
      List.range'_succ, List.filter_cons]
    by_cases hb : byIdPath volumeID (obs i).byId = [] <;> simp [hb]

/-- Over the first `m` calls, the metadata service is asked at tick `k` exactly when `k < m` and
the by-id strategy finds nothing there. -/
theorem mem_queried_statesFrom {volumeID : List Byte} (hl : 20 ≤ volumeID.length)
    (obs : Nat → Observation) (m k : Nat) :
    k ∈ (Go.statesFrom (getDevicePathCondition volumeID obs) 0 m ⟨[], []⟩).queried ↔
      k < m ∧ byIdPath volumeID (obs k).byId = [] := by
  rw [queried_statesFrom hl]
  simp [List.mem_range'_1]

end OpenStack

namespace Mount

/-- For an id of 20 bytes or more, a call resolves the by-id path and leaves it in
`devicePath`. -/
theorem getDevicePathCondition_eq {volumeID : List Byte} (hl : 20 ≤ volumeID.length)
    (byId : Nat → Except String (List (List Byte))) (i : Nat) (devicePath : List Byte) :
    getDevicePathCondition volumeID byId i devicePath =
      (.ok (decide (byIdPath volumeID (byId i) ≠ [])), byIdPath volumeID (byId i)) := by
  have hbyId : getDevicePathBySerialID volumeID (byId i) = some (byIdPath volumeID (byId i)) :=
    Device.getDevicePathBySerialID_of_long hl _
  unfold getDevicePathCondition
  rw [hbyId]
  by_cases hb : byIdPath volumeID (byId i) = [] <;> simp [hb]

end Mount

/-! ## Both copies -/

/-- For an id of 20 bytes or more, the openstack `GetDevicePath` returns the path of the first of
its 10 calls that resolves one, and the timeout error when none does. A call resolves the by-id
path when there is one, and otherwise the one match of the by-path pattern of the first metadata
entry for the volume; it asks the metadata service exactly at the calls the loop makes where the
by-id strategy finds nothing. The mount `GetDevicePath` does the same with the by-id strategy
alone and 15 calls. -/
theorem getDevicePath_resolves_first {volumeID : List Byte} (hl : 20 ≤ volumeID.length)
    (obs : Nat → Observation) (byId : Nat → Except String (List (List Byte))) :
    ResolvesFirst volumeID 10 (fun k => resolvedPath volumeID (obs k))
      (OpenStack.getDevicePath volumeID obs) ∧
    (∀ k p, p ≠ [] → (resolvedPath volumeID (obs k) = p ↔ byIdPath volumeID (obs k).byId = p ∨
      byIdPath volumeID (obs k).byId = [] ∧ MetadataResolves volumeID (obs k) p)) ∧
    (∀ k, k ∈ (OpenStack.getDevicePathLoop volumeID obs).2.queried ↔
      k < 10 ∧ (∀ j < k, resolvedPath volumeID (obs j) = []) ∧
        byIdPath volumeID (obs k).byId = []) ∧
    ResolvesFirst volumeID 15 (fun k => byIdPath volumeID (byId k))
      (Mount.getDevicePath volumeID byId) := by
  have hos := OpenStack.getDevicePathCondition_eq hl obs
  have hanswer : ∀ k s, (OpenStack.getDevicePathCondition volumeID obs k s).1 =
      .ok (decide (resolvedPath volumeID (obs k) ≠ [])) := fun k s => by rw [hos]
  have hmount := Mount.getDevicePathCondition_eq hl byId
  have hanswer' : ∀ k s, (Mount.getDevicePathCondition volumeID byId k s).1 =
      .ok (decide (byIdPath volumeID (byId k) ≠ [])) := fun k s => by rw [hmount]
  refine ⟨resolvesFirst_of_condition OpenStack.DevicePathState.devicePath hanswer
      (fun k s => by rw [hos]) volumeID 10 ⟨[], []⟩, fun k _ hp => resolvedPath_eq_iff _ hp,
    fun k => ?_,
    resolvesFirst_of_condition id hanswer' (fun k s => by rw [hmount]; rfl) volumeID 15 []⟩
  have hloop : OpenStack.getDevicePathLoop volumeID obs =
      Go.exponentialBackoff (OpenStack.getDevicePathCondition volumeID obs) 10 ⟨[], []⟩ := rfl
  rcases Go.backoff_bool_cases (p := fun k => resolvedPath volumeID (obs k) ≠ [])
      hanswer 10 ⟨[], []⟩ with ⟨k₀, hk₀, hpre, hne, heq⟩ | ⟨hall, heq⟩
  · -- the loop made the calls up to the first that resolved, `k₀`
    have hmade : k < k₀ + 1 ↔ k < 10 ∧ ∀ j < k, resolvedPath volumeID (obs j) = [] :=
      ⟨fun hk => ⟨by omega, fun j hj => not_not.mp (hpre j (by omega))⟩,
        fun ⟨_, hpre'⟩ => Nat.lt_succ_of_le (Nat.le_of_not_lt fun hgt => hne (hpre' k₀ hgt))⟩
    rw [hloop, heq, OpenStack.mem_queried_statesFrom hl, hmade, and_assoc]
  · -- the loop made all 10 calls
    rw [hloop, heq, OpenStack.mem_queried_statesFrom hl]
    exact ⟨fun ⟨hk, hb⟩ => ⟨hk, fun j _ => not_not.mp (hall j (by omega)), hb⟩,
      fun ⟨hk, _, hb⟩ => ⟨hk, hb⟩⟩

/-- A node where the volume shows under its `virtio-` name from the first call on, and the
metadata service does not answer. -/
def attachedObservation : Observation where
  byId := .ok [ascii "virtio-0b3a6ec5-0f03-4a8e-b"]
  devices := .error "metadata service unreachable"
  glob _ := .ok []

/-- A Hyper-V node: no by-id name for the volume, and a metadata entry for it whose by-path
pattern matches one path. -/
def metadataObservation : Observation where
  byId := .ok []
  devices := .ok [⟨ascii "disk", ascii "other", ascii "scsi", ascii "0:0:0:1"⟩,
    ⟨ascii "disk", uuidVolumeID, ascii "scsi", ascii "0:0:0:2"⟩]
  glob pattern := if pattern = ascii "/dev/disk/by-path/*-scsi-0:0:0:2"
    then .ok [ascii "/dev/disk/by-path/vmbus-scsi-0:0:0:2"] else .ok []

/-- On that node, both copies meet `ResolvesFirst` for a Cinder id, and the path resolved is the
metadata strategy's. -/
theorem getDevicePath_resolves_first_attached :
    20 ≤ uuidVolumeID.length ∧
      ResolvesFirst uuidVolumeID 10 (fun _ => resolvedPath uuidVolumeID metadataObservation)
        (OpenStack.getDevicePath uuidVolumeID fun _ => metadataObservation) ∧
      (Nat → ∀ p, p ≠ [] → (resolvedPath uuidVolumeID metadataObservation = p ↔
        byIdPath uuidVolumeID metadataObservation.byId = p ∨
          byIdPath uuidVolumeID metadataObservation.byId = [] ∧
            MetadataResolves uuidVolumeID metadataObservation p)) ∧
      (∀ k, k ∈ (OpenStack.getDevicePathLoop uuidVolumeID fun _ => metadataObservation).2.queried ↔
        k < 10 ∧ (∀ j < k, resolvedPath uuidVolumeID metadataObservation = []) ∧
          byIdPath uuidVolumeID metadataObservation.byId = []) ∧
      ResolvesFirst uuidVolumeID 15 (fun _ => byIdPath uuidVolumeID attachedObservation.byId)
        (Mount.getDevicePath uuidVolumeID fun _ => attachedObservation.byId) :=
  ⟨by decide, getDevicePath_resolves_first (by decide) _ _⟩

example : OpenStack.getDevicePath uuidVolumeID (fun _ => attachedObservation) =
    some (ascii "/dev/disk/by-id/virtio-0b3a6ec5-0f03-4a8e-b", none) := by decide

example : OpenStack.getDevicePath uuidVolumeID (fun _ => metadataObservation) =
    some (ascii "/dev/disk/by-path/vmbus-scsi-0:0:0:2", none) := by decide

end CinderCsi.Device
