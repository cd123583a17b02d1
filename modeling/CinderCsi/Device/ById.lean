import Mathlib.Data.List.Sort
import Mathlib.Data.List.Lex
import Mathlib.Order.Fin.Basic

/-!
# Finding an attached volume under `/dev/disk/by-id`

`getDevicePathBySerialID` exists twice, in `openstack/openstack_metadata.go` and in
`mount/mount.go`, with the same body: it builds three candidate names from the volume id, reads
`/dev/disk/by-id/`, and returns the path of the first entry of the listing that is a candidate.
Both copies are `getDevicePathBySerialID` here, over Go's bytes: `volumeID[:20]` panics on an id
shorter than 20 bytes, which is `none`.

`ioutil.ReadDir` sorts the listing by name, so the entry found is the least candidate present,
and the candidates' prefixes `scsi-`, `virtio-` and `wwn-` already differ in their first byte:
`getDevicePathBySerialID_eq` says the result is the first of `scsi-0QEMU_QEMU_HARDDISK_<id[:20]>`,
`virtio-<id[:20]>` and `wwn-0x<id without ->` that is in the listing, in that order, whatever the
order of the listing.
-/

namespace CinderCsi.Device

/-- A Go `byte`. -/
abbrev Byte := Fin 256

/-- A Go string literal, all ASCII, as bytes. -/
def ascii (s : String) : List Byte := s.toList.map fun c => Fin.ofNat c.toNat

/-- `ioutil.ReadDir`: the entries' names sorted bytewise, or none when the read fails. -/
def readDir (listing : Except String (List (List Byte))) : List (List Byte) :=
  match listing with
  | .ok names => names.insertionSort (· ≤ ·)
  | .error _ => []

/-- `candidateDeviceNodes`: the names the volume's disk may have under `/dev/disk/by-id/`. -/
def candidateDeviceNodes (volumeID : List Byte) : List (List Byte) :=
  [ascii "virtio-" ++ volumeID.take 20,
    ascii "scsi-0QEMU_QEMU_HARDDISK_" ++ volumeID.take 20,
    ascii "wwn-0x" ++ volumeID.filter (· ≠ Fin.ofNat '-'.toNat)]

/-- `getDevicePathBySerialID`: `/dev/disk/by-id/` and the first entry of the sorted listing that
is a candidate, or the empty path. An id shorter than 20 bytes panics at `volumeID[:20]`. -/
def getDevicePathBySerialID (volumeID : List Byte) (listing : Except String (List (List Byte))) :
    Option (List Byte) :=
  if volumeID.length < 20 then none
  else
    match (readDir listing).find? fun f => (candidateDeviceNodes volumeID).contains f with
    | some f => some (ascii "/dev/disk/by-id/" ++ f)
    | none => some []

/-- `OpenStack.getDevicePathBySerialID`. -/
def OpenStack.getDevicePathBySerialID (volumeID : List Byte)
    (listing : Except String (List (List Byte))) : Option (List Byte) :=
  Device.getDevicePathBySerialID volumeID listing

/-- `Mount.getDevicePathBySerialID`. -/
def Mount.getDevicePathBySerialID (volumeID : List Byte)
    (listing : Except String (List (List Byte))) : Option (List Byte) :=
  Device.getDevicePathBySerialID volumeID listing

/-! ## The least candidate present -/

/-- The names a listing holds: none when the read fails. -/
def listingNames : Except String (List (List Byte)) → List (List Byte)
  | .ok names => names
  | .error _ => []

/-- The candidates in byte order. -/
def sortedCandidates (volumeID : List Byte) : List (List Byte) :=
  [ascii "scsi-0QEMU_QEMU_HARDDISK_" ++ volumeID.take 20,
    ascii "virtio-" ++ volumeID.take 20,
    ascii "wwn-0x" ++ volumeID.filter (· ≠ Fin.ofNat '-'.toNat)]

/-- The path of the first candidate in byte order that the names hold, or the empty path. -/
def firstCandidatePath (volumeID : List Byte) (names : List (List Byte)) : List Byte :=
  match (sortedCandidates volumeID).find? (· ∈ names) with
  | some c => ascii "/dev/disk/by-id/" ++ c
  | none => []

/-- The first entry of a sorted list with a property is below every entry with it. -/
theorem find?_le_of_sorted {p : List Byte → Bool} :
    ∀ {l : List (List Byte)} {x : List Byte}, l.Sorted (· ≤ ·) → l.find? p = some x →
      ∀ y ∈ l, p y → x ≤ y
  | [], _, _, h, _, _, _ => by simp at h
  | a :: t, x, hs, h, y, hy, hp => by
    rw [List.sorted_cons] at hs
    rw [List.find?_cons] at h
    split at h
    · cases h
      rcases List.mem_cons.mp hy with rfl | hy
      · exact le_refl _
      · exact hs.1 y hy
    · rename_i hpa
      rcases List.mem_cons.mp hy with rfl | hy
      · exact absurd hp (by simp [hpa])
      · exact find?_le_of_sorted hs.2 h y hy hp

/-- The candidates are the sorted candidates, and those are strictly increasing. -/
theorem candidates_ordered (volumeID : List Byte) :
    (∀ f, (candidateDeviceNodes volumeID).contains f ↔ f ∈ sortedCandidates volumeID) ∧
    (sortedCandidates volumeID).Sorted (· < ·) := by
  refine ⟨fun f => ?_, ?_⟩
  · simp only [candidateDeviceNodes, sortedCandidates, List.elem_iff, List.contains,
      List.mem_cons, List.mem_singleton, List.not_mem_nil, or_false]
    tauto
  · have h12 : ascii "scsi-0QEMU_QEMU_HARDDISK_" ++ volumeID.take 20 <
        ascii "virtio-" ++ volumeID.take 20 := List.Lex.rel (by decide)
    have h23 : ascii "virtio-" ++ volumeID.take 20 <
        ascii "wwn-0x" ++ volumeID.filter (· ≠ Fin.ofNat '-'.toNat) := List.Lex.rel (by decide)
    simp only [sortedCandidates, List.sorted_cons, List.mem_cons, List.mem_singleton,
      List.not_mem_nil, or_false, forall_eq_or_imp, forall_eq, List.sorted_nil]
    exact ⟨⟨h12, h12.trans h23⟩, h23, fun _ h => h.elim, trivial⟩

/-- In a strictly increasing list, the least member that the names hold is the first one they
hold. -/
theorem find?_eq_of_least {cands names : List (List Byte)} {x : List Byte}
    (hc : cands.Sorted (· < ·)) (hxc : x ∈ cands) (hxn : x ∈ names)
    (hmin : ∀ c ∈ cands, c ∈ names → x ≤ c) : cands.find? (· ∈ names) = some x := by
  induction cands with
  | nil => exact absurd hxc (List.not_mem_nil _)
  | cons c cs ih =>
    rw [List.sorted_cons] at hc
    rw [List.find?_cons]
    by_cases hcn : c ∈ names
    · rcases List.mem_cons.mp hxc with rfl | hxcs
      · simp [hcn]
      · exact absurd ((hmin c (List.mem_cons_self _ _) hcn).trans_lt (hc.1 x hxcs)) (lt_irrefl x)
    · have hxcs : x ∈ cs := by
        rcases List.mem_cons.mp hxc with rfl | h
        · exact absurd hxn hcn
        · exact h
      simp only [hcn, decide_False]
      exact ih hc.2 hxcs fun y hy hn => hmin y (List.mem_cons_of_mem _ hy) hn

/-- The first entry of a sorted listing found in a strictly increasing list of candidates is the
first candidate the listing holds. -/
theorem find?_sorted_eq {cands names : List (List Byte)} (hc : cands.Sorted (· < ·)) :
    (names.insertionSort (· ≤ ·)).find? (· ∈ cands) = cands.find? (· ∈ names) := by
  have hperm := List.perm_insertionSort (· ≤ ·) names
  cases hx : (names.insertionSort (· ≤ ·)).find? (· ∈ cands) with
  | none =>
    symm
    rw [List.find?_eq_none] at hx ⊢
    intro c hc' hn
    exact hx c (hperm.mem_iff.mpr (by simpa using hn)) (by simpa using hc')
  | some x =>
    have hmin := find?_le_of_sorted (List.sorted_insertionSort (· ≤ ·) names) hx
    exact (find?_eq_of_least hc (by simpa using List.find?_some hx)
      (hperm.mem_iff.mp (List.mem_of_find?_eq_some hx))
      fun c hc' hn => hmin c (hperm.mem_iff.mpr hn) (by simpa using hc')).symm

/-- On an id of 20 bytes or more, `getDevicePathBySerialID` gives the path of the first candidate
in byte order that the listing holds. -/
theorem getDevicePathBySerialID_of_long {volumeID : List Byte} (hl : 20 ≤ volumeID.length)
    (listing : Except String (List (List Byte))) :
    getDevicePathBySerialID volumeID listing =
      some (firstCandidatePath volumeID (listingNames listing)) := by
  obtain ⟨hc, hs⟩ := candidates_ordered volumeID
  have hfind : (readDir listing).find? (fun f => (candidateDeviceNodes volumeID).contains f) =
      (sortedCandidates volumeID).find? (· ∈ listingNames listing) := by
    rw [show (fun f => (candidateDeviceNodes volumeID).contains f) =
      fun f => decide (f ∈ sortedCandidates volumeID) from
        funext fun f => Bool.eq_iff_iff.mpr ((hc f).trans decide_eq_true_iff.symm)]
    cases listing with
    | ok names => exact find?_sorted_eq hs
    | error _ =>
      simp only [readDir, listingNames, List.find?_nil]
      exact (List.find?_eq_none.mpr fun _ _ h => by simp at h).symm
  rw [getDevicePathBySerialID, if_neg (by omega), hfind, firstCandidatePath]
  cases (sortedCandidates volumeID).find? (· ∈ listingNames listing) <;> rfl

/-- On an id shorter than 20 bytes, `getDevicePathBySerialID` panics. -/
theorem getDevicePathBySerialID_of_short {volumeID : List Byte} (hl : volumeID.length < 20)
    (listing : Except String (List (List Byte))) : getDevicePathBySerialID volumeID listing = none :=
  if_pos hl

/-! ## Both copies -/

/-- Both copies of `getDevicePathBySerialID` panic on an id shorter than 20 bytes. On a longer
one they return the path of the first of `scsi-0QEMU_QEMU_HARDDISK_<id[:20]>`, `virtio-<id[:20]>`
and `wwn-0x<id without ->` that the listing holds (none when the read fails), or the empty path;
so listings with the same names give the same path. -/
theorem getDevicePathBySerialID_eq (volumeID : List Byte) :
    (volumeID.length < 20 → ∀ listing,
      OpenStack.getDevicePathBySerialID volumeID listing = none ∧
      Mount.getDevicePathBySerialID volumeID listing = none) ∧
    (20 ≤ volumeID.length → ∀ listing,
      OpenStack.getDevicePathBySerialID volumeID listing =
        some (firstCandidatePath volumeID (listingNames listing)) ∧
      Mount.getDevicePathBySerialID volumeID listing =
        some (firstCandidatePath volumeID (listingNames listing))) ∧
    (∀ names names' : List (List Byte), names.Perm names' →
      OpenStack.getDevicePathBySerialID volumeID (.ok names) =
        OpenStack.getDevicePathBySerialID volumeID (.ok names')) := by
  refine ⟨fun hl listing => ⟨getDevicePathBySerialID_of_short hl listing,
      getDevicePathBySerialID_of_short hl listing⟩,
    fun hl listing => ⟨getDevicePathBySerialID_of_long hl listing,
      getDevicePathBySerialID_of_long hl listing⟩, fun names names' hp => ?_⟩
  unfold OpenStack.getDevicePathBySerialID
  by_cases hl : volumeID.length < 20
  · rw [getDevicePathBySerialID_of_short hl, getDevicePathBySerialID_of_short hl]
  · rw [getDevicePathBySerialID_of_long (by omega), getDevicePathBySerialID_of_long (by omega)]
    simp only [listingNames, firstCandidatePath, hp.mem_iff]

/-- A volume id with 36 bytes, as Cinder's are. -/
def uuidVolumeID : List Byte := ascii "0b3a6ec5-0f03-4a8e-b5e6-0e0d5b5e1b44"

/-- For a Cinder id and a listing with its `virtio-` name, both copies return that path. -/
theorem getDevicePathBySerialID_virtio :
    20 ≤ uuidVolumeID.length ∧
      OpenStack.getDevicePathBySerialID uuidVolumeID (.ok [ascii "virtio-0b3a6ec5-0f03-4a8e-b"]) =
        some (firstCandidatePath uuidVolumeID [ascii "virtio-0b3a6ec5-0f03-4a8e-b"]) ∧
      Mount.getDevicePathBySerialID uuidVolumeID (.ok [ascii "virtio-0b3a6ec5-0f03-4a8e-b"]) =
        some (firstCandidatePath uuidVolumeID [ascii "virtio-0b3a6ec5-0f03-4a8e-b"]) :=
  ⟨by decide, (getDevicePathBySerialID_eq uuidVolumeID).2.1 (by decide) _⟩

/-- With both the `virtio-` and the `scsi-` name listed, in either order, the `scsi-` path is
returned; and an id of 5 bytes panics. -/
theorem getDevicePathBySerialID_scsi_first :
    OpenStack.getDevicePathBySerialID uuidVolumeID
        (.ok [ascii "virtio-0b3a6ec5-0f03-4a8e-b",
          ascii "scsi-0QEMU_QEMU_HARDDISK_0b3a6ec5-0f03-4a8e-b"]) =
        some (ascii "/dev/disk/by-id/scsi-0QEMU_QEMU_HARDDISK_0b3a6ec5-0f03-4a8e-b") ∧
      Mount.getDevicePathBySerialID (ascii "vol-1") (.ok []) = none :=
  ⟨by decide, by decide⟩

end CinderCsi.Device
