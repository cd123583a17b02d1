import CinderCsi.OpenStack.Volumes
import CinderCsi.Go.Wait

/-!
# `WaitDiskAttached` and `WaitDiskDetached`

Both waits of `openstack_metadata.go` poll `diskIsAttached` under `wait.ExponentialBackoff`:
`WaitDiskAttached` up to `diskAttachSteps = 15` times, until the volume's `AttachedServerId` is
the instance, taking a NotFound answer for "not attached yet" and stopping at any other error;
`WaitDiskDetached` up to `diskDetachSteps = 13` times, until it is not, stopping at every error.
A timeout becomes the wait's own error. The volume query's answer at each call is the `k`-th of
a sequence of answers, and the closures capture no variable they write.

`AttachedServerId` is the first attachment's server, or `""` when there is none
(`VolumeRecord.attachedServer`). So for the empty instance id a record with no attachment counts
as attached, and for the detach wait a record whose first attachment is another server's counts
as detached, whatever its other attachments are.

`WaitsFor` says what a wait is for, given how it reads each answer (`Verdict`): success at the
first answer it takes for done, the error of the first answer it fails on, and its timeout error
when every answer within the budget leaves it waiting. `waitDisk_verdicts` says that both waits
meet it and read no answer past their budget.
-/

namespace CinderCsi.OpenStack

/-! ## The waits -/

/-- `diskAttachSteps`. -/
def diskAttachSteps : Nat := 15

/-- `diskDetachSteps`. -/
def diskDetachSteps : Nat := 13

/-- The closure of `WaitDiskAttached` at tick `k`: the error of `diskIsAttached` unless it is
NotFound, and otherwise whether the volume is attached, which it is not on NotFound. -/
def waitDiskAttachedCondition (instanceID : String) (responses : Nat → Except Error VolumeRecord)
    (k : Nat) (s : Unit) : Except Error Bool × Unit :=
  match diskIsAttached instanceID (responses k) with
  | .error err => if !err.isNotFound then (.error err, s) else (.ok false, s)
  | .ok attached => (.ok attached, s)

/-- The closure of `WaitDiskDetached` at tick `k`: the error of `diskIsAttached`, or whether the
volume is not attached. -/
def waitDiskDetachedCondition (instanceID : String) (responses : Nat → Except Error VolumeRecord)
    (k : Nat) (s : Unit) : Except Error Bool × Unit :=
  match diskIsAttached instanceID (responses k) with
  | .error err => (.error err, s)
  | .ok attached => (.ok !attached, s)

/-- The end of both waits: `wait.ErrWaitTimeout` becomes the wait's `timeout` error, and the
condition's error is returned as it is. -/
def waitResult (timeout : Error) : Except (Go.WaitError Error) Unit → Except Error Unit
  | .error .errWaitTimeout => .error timeout
  | .error (.condition err) => .error err
  | .ok () => .ok ()

/-- `WaitDiskAttached`, on the answers of the volume query. -/
def waitDiskAttached (instanceID volumeID : String) (responses : Nat → Except Error VolumeRecord) :
    Except Error Unit :=
  waitResult (.attachTimeout volumeID)
    (Go.exponentialBackoff (waitDiskAttachedCondition instanceID responses) diskAttachSteps ()).1

/-- `WaitDiskDetached`, on the answers of the volume query. -/
def waitDiskDetached (instanceID volumeID : String) (responses : Nat → Except Error VolumeRecord) :
    Except Error Unit :=
  waitResult (.detachTimeout volumeID)
    (Go.exponentialBackoff (waitDiskDetachedCondition instanceID responses) diskDetachSteps ()).1

/-! ## What the waits are for -/

/-- The server that `GetVolume` reports a record attached to: the first attachment's, or `""`
when there is none. -/
def VolumeRecord.attachedServer (rec : VolumeRecord) : String :=
  (rec.attachments.head?.map (·.serverID)).getD ""

/-- How a wait reads one answer of the volume query. -/
inductive Verdict where
  /-- Go on waiting. -/
  | pending
  /-- Stop with success. -/
  | done
  /-- Stop with the error. -/
  | failed (err : Error)
deriving DecidableEq, Repr

/-- The condition's answer for a verdict. -/
def Verdict.answer : Verdict → Except Error Bool
  | .pending => .ok false
  | .done => .ok true
  | .failed err => .error err

/-- How `WaitDiskAttached` reads an answer: done once the record's server is the instance; not yet
on NotFound or another server; failed on any other error. -/
def attachVerdict (instanceID : String) : Except Error VolumeRecord → Verdict
  | .error err => if err = .notFound then .pending else .failed err
  | .ok rec => if instanceID = rec.attachedServer then .done else .pending

/-- How `WaitDiskDetached` reads an answer: not yet while the record's server is the instance;
done otherwise; failed on every error. -/
def detachVerdict (instanceID : String) : Except Error VolumeRecord → Verdict
  | .error err => .failed err
  | .ok rec => if instanceID = rec.attachedServer then .pending else .done

/-- What a wait of `steps` calls, reading its call `k` as `verdict k`, returns. -/
structure WaitsFor (steps : Nat) (verdict : Nat → Verdict) (timeout : Error)
    (result : Except Error Unit) : Prop where
  /-- Success exactly when a call within the budget is done, every earlier one pending. -/
  ok_iff : result = .ok () ↔ ∃ k < steps, (∀ j < k, verdict j = .pending) ∧ verdict k = .done
  /-- The error of the first call that fails, every earlier one pending. -/
  failed : ∀ k < steps, (∀ j < k, verdict j = .pending) → ∀ err, verdict k = .failed err →
    result = .error err
  /-- The timeout error when every call within the budget is pending. -/
  timeout : (∀ k < steps, verdict k = .pending) → result = .error timeout

/-- A condition that answers each call's verdict waits for it. -/
theorem waitsFor_of_condition {condition : Nat → Unit → Except Error Bool × Unit}
    {verdict : Nat → Verdict} (hanswer : ∀ k s, (condition k s).1 = (verdict k).answer)
    (steps : Nat) (timeout : Error) :
    WaitsFor steps verdict timeout
      (waitResult timeout (Go.exponentialBackoff condition steps ()).1) := by
  have hpending : ∀ v : Verdict, v.answer = .ok false ↔ v = .pending := by
    intro v; cases v <;> simp [Verdict.answer]
  rcases Go.backoff_cases hanswer steps 0 () with ⟨k, hk, hpend, hdec, heq⟩ | ⟨hpend, heq⟩
  · simp only [Nat.zero_add, ne_eq, hpending] at hpend hdec heq
    have hfirst : ∀ k', (∀ j < k', verdict j = .pending) → verdict k' ≠ .pending → k' = k :=
      fun k' hpre' hk' => Go.first_tick_unique (P := fun j => verdict j ≠ .pending) hk'
        (fun j hj => not_not.mpr (hpre' j hj)) hdec fun j hj => not_not.mpr (hpend j hj)
    have hres : waitResult timeout (Go.exponentialBackoff condition steps ()).1 =
        waitResult timeout (Go.WaitError.ofAnswer (verdict k).answer) := by
      rw [Go.exponentialBackoff, heq]
    rw [hres]
    refine ⟨⟨fun h => ⟨k, hk, hpend, ?_⟩, fun ⟨k', _, hpre', hdone⟩ => ?_⟩,
      fun k' _ hpre' err hfail => ?_, fun hall => absurd (hall k hk) hdec⟩
    · revert h hdec; cases verdict k <;> simp [Verdict.answer, Go.WaitError.ofAnswer, waitResult]
    · rw [← hfirst k' hpre' (by simp [hdone]), hdone]; rfl
    · rw [← hfirst k' hpre' (by simp [hfail]), hfail]; rfl
  · have hall : ∀ k < steps, verdict k = .pending := fun k hk => by
      simpa [hpending] using hpend k hk
    rw [Go.exponentialBackoff, heq]
    exact ⟨⟨nofun, fun ⟨k, hk, _, hdone⟩ => by simp [hall k hk] at hdone⟩,
      fun k hk _ err hfail => by simp [hall k hk] at hfail, fun _ => rfl⟩

/-! ## The closures -/

/-- `diskIsAttached` on an answer: its error, or whether the instance is the record's server. -/
theorem diskIsAttached_eq (instanceID : String) (response : Except Error VolumeRecord) :
    diskIsAttached instanceID response = match response with
      | .error err => .error err
      | .ok rec => .ok (instanceID == rec.attachedServer) := by
  rcases response with err | ⟨id, name, status, _ | ⟨a, as⟩⟩ <;> rfl

/-- The closure of `WaitDiskAttached` answers its call's `attachVerdict`. -/
theorem waitDiskAttachedCondition_answer (instanceID : String)
    (responses : Nat → Except Error VolumeRecord) (k : Nat) (s : Unit) :
    (waitDiskAttachedCondition instanceID responses k s).1 =
      (attachVerdict instanceID (responses k)).answer := by
  unfold waitDiskAttachedCondition attachVerdict
  rw [diskIsAttached_eq]
  rcases responses k with err | rec
  · by_cases h : err = .notFound <;> simp [h, Error.isNotFound, Verdict.answer]
  · by_cases h : instanceID = rec.attachedServer <;> simp [h, Verdict.answer]

/-- The closure of `WaitDiskDetached` answers its call's `detachVerdict`. -/
theorem waitDiskDetachedCondition_answer (instanceID : String)
    (responses : Nat → Except Error VolumeRecord) (k : Nat) (s : Unit) :
    (waitDiskDetachedCondition instanceID responses k s).1 =
      (detachVerdict instanceID (responses k)).answer := by
  unfold waitDiskDetachedCondition detachVerdict
  rw [diskIsAttached_eq]
  rcases responses k with err | rec
  · rfl
  · by_cases h : instanceID = rec.attachedServer <;> simp [h, Verdict.answer]

/-- A wait reads the answers of the volume query within its budget only. -/
theorem waitDiskAttached_congr (instanceID volumeID : String)
    {responses responses' : Nat → Except Error VolumeRecord}
    (h : ∀ k < diskAttachSteps, responses' k = responses k) :
    waitDiskAttached instanceID volumeID responses' =
      waitDiskAttached instanceID volumeID responses := by
  have hcongr : Go.backoffFrom (waitDiskAttachedCondition instanceID responses') 0 diskAttachSteps =
      Go.backoffFrom (waitDiskAttachedCondition instanceID responses) 0 diskAttachSteps :=
    Go.backoffFrom_congr 0 diskAttachSteps fun j hj => by
      unfold waitDiskAttachedCondition; rw [h _ (by omega)]
  unfold waitDiskAttached Go.exponentialBackoff
  rw [hcongr]

/-- The detach wait reads the answers of the volume query within its budget only. -/
theorem waitDiskDetached_congr (instanceID volumeID : String)
    {responses responses' : Nat → Except Error VolumeRecord}
    (h : ∀ k < diskDetachSteps, responses' k = responses k) :
    waitDiskDetached instanceID volumeID responses' =
      waitDiskDetached instanceID volumeID responses := by
  have hcongr : Go.backoffFrom (waitDiskDetachedCondition instanceID responses') 0 diskDetachSteps =
      Go.backoffFrom (waitDiskDetachedCondition instanceID responses) 0 diskDetachSteps :=
    Go.backoffFrom_congr 0 diskDetachSteps fun j hj => by
      unfold waitDiskDetachedCondition; rw [h _ (by omega)]
  unfold waitDiskDetached Go.exponentialBackoff
  rw [hcongr]

/-! ## Both waits -/

/-- `WaitDiskAttached` reads at most 15 answers and returns `nil` at the first whose server is the
instance, the first error other than NotFound, or its timeout error; `WaitDiskDetached` reads at
most 13 and returns `nil` at the first whose server is not the instance, the first error of any
kind, or its timeout error. -/
theorem waitDisk_verdicts (instanceID volumeID : String)
    (responses : Nat → Except Error VolumeRecord) :
    (∀ responses' : Nat → Except Error VolumeRecord, (∀ k < 15, responses' k = responses k) →
      waitDiskAttached instanceID volumeID responses' =
        waitDiskAttached instanceID volumeID responses) ∧
    WaitsFor 15 (fun k => attachVerdict instanceID (responses k)) (.attachTimeout volumeID)
      (waitDiskAttached instanceID volumeID responses) ∧
    (∀ responses' : Nat → Except Error VolumeRecord, (∀ k < 13, responses' k = responses k) →
      waitDiskDetached instanceID volumeID responses' =
        waitDiskDetached instanceID volumeID responses) ∧
    WaitsFor 13 (fun k => detachVerdict instanceID (responses k)) (.detachTimeout volumeID)
      (waitDiskDetached instanceID volumeID responses) :=
  ⟨fun _ h => waitDiskAttached_congr instanceID volumeID h,
    waitsFor_of_condition (waitDiskAttachedCondition_answer instanceID responses) 15 _,
    fun _ h => waitDiskDetached_congr instanceID volumeID h,
    waitsFor_of_condition (waitDiskDetachedCondition_answer instanceID responses) 13 _⟩

/-- A volume with no attachment. -/
def unattachedRecord : VolumeRecord := ⟨"vol-1", "pv-1", volumeAvailableStatus, []⟩

/-- A volume attached to two servers, `node-b` first. -/
def sharedRecord : VolumeRecord :=
  ⟨"vol-1", "pv-1", volumeInUseStatus, [⟨"node-b", "/dev/vdb"⟩, ⟨"node-a", "/dev/vdc"⟩]⟩

/-- For the empty instance id, `WaitDiskAttached` succeeds on a volume with no attachment and
`WaitDiskDetached` times out on it; and `WaitDiskDetached` for `node-a` succeeds on a volume whose
second attachment is `node-a`'s. -/
theorem waitDisk_empty_instance_and_second_attachment :
    unattachedRecord.attachments = [] ∧
      waitDiskAttached "" "vol-1" (fun _ => .ok unattachedRecord) = .ok () ∧
      waitDiskDetached "" "vol-1" (fun _ => .ok unattachedRecord) = .error (.detachTimeout "vol-1") ∧
      sharedRecord.attachments.any (·.serverID == "node-a") = true ∧
      waitDiskDetached "node-a" "vol-1" (fun _ => .ok sharedRecord) = .ok () :=
  ⟨rfl, rfl, rfl, by decide, rfl⟩

end CinderCsi.OpenStack
