import Mathlib.Logic.Function.Basic

/-!
# Volumes of the block-storage service, and the driver's calls on them

The service side is the control plane that `openstack_metadata.go` talks to through gophercloud.
A volume has a name and a place in its attach lifecycle (`Phase`), from which the service reads the
status and the attachment list that a volume query returns. An accepted attach request moves an
available volume to `attaching` with no attachment yet; a later completion step (`Cloud.complete`),
taken by the service on its own, makes it `in-use` with an attachment that names the instance.
Detach is the same in reverse. The service refuses an attach request on a volume that is not
available, and a detach request for an instance the volume is not attached to. Every attach,
detach and delete request that the service receives is kept, newest first, in `Cloud.requests`.

The driver side is translated from the source: `GetVolume` (`getVolume`), `AttachVolume`,
`DetachVolume`, `DeleteVolume`, `diskIsAttached` and `diskIsUsed`. Each one that issues a request
reads the service through one volume query and is a function of the service's state; the ones
that only read are functions of the query's answer, so that a polling loop can feed them a
sequence of answers.
-/

namespace CinderCsi.OpenStack

/-- `VolumeAvailableStatus`. -/
def volumeAvailableStatus : String := "available"

/-- `VolumeInUseStatus`. -/
def volumeInUseStatus : String := "in-use"

/-- One attachment of a volume as the service reports it: the server that holds it and the device
name that the hypervisor gave it. -/
structure Attachment where
  /-- `ServerID`. -/
  serverID : String
  /-- `Device`. -/
  device : String
deriving DecidableEq, Repr

/-- A volume as the service's volume query returns it (`volumes.Volume`): the fields that
`GetVolume` reads. -/
structure VolumeRecord where
  /-- `ID`. -/
  id : String
  /-- `Name`. -/
  name : String
  /-- `Status`. -/
  status : String
  /-- `Attachments`, in the service's order. -/
  attachments : List Attachment
deriving DecidableEq, Repr

/-- The driver's `Volume`, as `GetVolume` fills it: the first attachment's server and device,
or `""` for both when there is none. -/
structure Volume where
  /-- `AttachedServerId`: `""` if not attached. -/
  attachedServerId : String
  /-- `AttachedDevice`. -/
  attachedDevice : String
  /-- `ID`. -/
  id : String
  /-- `Name`. -/
  name : String
  /-- `Status`. -/
  status : String
deriving DecidableEq, Repr

/-- A request that the service receives. -/
inductive Request where
  /-- `volumeattach.Create` for the server `instanceID`. -/
  | attach (instanceID volumeID : String)
  /-- `volumeattach.Delete` for the server `instanceID`. -/
  | detach (instanceID volumeID : String)
  /-- `volumes.Delete`. -/
  | delete (volumeID : String)
deriving DecidableEq, Repr

/-- The errors of the driver's volume calls: the service's, and those the driver builds. -/
inductive Error where
  /-- A response with an HTTP error status; 404 is what `cpoerrors.IsNotFound` recognises. -/
  | http (code : Nat)
  /-- `"disk %s is attached to a different instance (%s)"`. -/
  | attachedToDifferentInstance (volumeID server : String)
  /-- `"failed to attach %s volume to %s compute: %v"`. -/
  | failedToAttach (volumeID instanceID : String) (err : Error)
  /-- `"can not detach volume %s, its status is %s"`. -/
  | cannotDetach (name status : String)
  /-- `"disk: %s has no attachments or is not attached to compute: %s"`. -/
  | notAttachedTo (name instanceID : String)
  /-- `"failed to delete volume %s from compute %s attached %v"`. -/
  | failedToDetach (volumeID instanceID : String) (err : Error)
  /-- `"Cannot delete the volume %q, it's still attached to a node"`. -/
  | stillAttached (volumeID : String)
  /-- `"Volume %q failed to be attached within the alloted time"`. -/
  | attachTimeout (volumeID : String)
  /-- `"Volume %q failed to detach within the alloted time"`. -/
  | detachTimeout (volumeID : String)
deriving DecidableEq, Repr

/-- The service's 404. -/
def Error.notFound : Error := .http 404

/-- `cpoerrors.IsNotFound`. -/
def Error.isNotFound (err : Error) : Bool := err == .notFound

/-- `GetVolume`, on the answer to the volume query: the id, name and status, and the server and
device of the first attachment. -/
def getVolume (response : Except Error VolumeRecord) : Except Error Volume :=
  match response with
  | .error err => .error err
  | .ok vol =>
    match vol.attachments with
    | [] => .ok ⟨"", "", vol.id, vol.name, vol.status⟩
    | a :: _ => .ok ⟨a.serverID, a.device, vol.id, vol.name, vol.status⟩

/-- `diskIsAttached`, on the answer to the volume query: whether `instanceID` is the volume's
`AttachedServerId`. -/
def diskIsAttached (instanceID : String) (response : Except Error VolumeRecord) :
    Except Error Bool :=
  match getVolume response with
  | .error err => .error err
  | .ok volume => .ok (instanceID == volume.attachedServerId)

/-- `diskIsUsed`, on the answer to the volume query: whether the volume has an
`AttachedServerId`. -/
def diskIsUsed (response : Except Error VolumeRecord) : Except Error Bool :=
  match getVolume response with
  | .error err => .error err
  | .ok volume => .ok (volume.attachedServerId != "")

/-! ## The service -/

/-- Where a volume is in its attach lifecycle. -/
inductive Phase where
  /-- Not attached, and no request in flight. -/
  | available
  /-- An attach request for `instanceID` was accepted and has not completed. -/
  | attaching (instanceID : String)
  /-- Attached. -/
  | inUse (attachments : List Attachment)
  /-- A detach request for `instanceID` was accepted and has not completed. -/
  | detaching (instanceID : String) (attachments : List Attachment)
  /-- Failed; the service leaves it so until an operator acts. -/
  | error (attachments : List Attachment)
deriving DecidableEq, Repr

/-- The status string that the service reports in each phase. -/
def Phase.status : Phase → String
  | .available => volumeAvailableStatus
  | .attaching _ => "attaching"
  | .inUse _ => volumeInUseStatus
  | .detaching _ _ => "detaching"
  | .error _ => "error"

/-- The attachments that the service reports in each phase. -/
def Phase.attachments : Phase → List Attachment
  | .available | .attaching _ => []
  | .inUse as | .detaching _ as | .error as => as

/-- A volume as the service holds it. -/
structure CloudVolume where
  /-- The volume's name. -/
  name : String
  /-- Where it is in its attach lifecycle. -/
  phase : Phase
deriving DecidableEq, Repr

/-- The service: its volumes by id, and the requests it has received, newest first. -/
structure Cloud where
  /-- The volume of each id. -/
  volumes : String → Option CloudVolume
  /-- The attach, detach and delete requests received, newest first. -/
  requests : List Request

namespace Cloud

/-- `volumes.Get`: the volume's record, or 404. -/
def get (c : Cloud) (volumeID : String) : Except Error VolumeRecord :=
  match c.volumes volumeID with
  | some v => .ok ⟨volumeID, v.name, v.phase.status, v.phase.attachments⟩
  | none => .error .notFound

/-- The service with the volume `volumeID` set to `v`. -/
def set (c : Cloud) (volumeID : String) (v : Option CloudVolume) : Cloud :=
  { c with volumes := Function.update c.volumes volumeID v }

/-- The service receives a request on one volume and answers it by `answer`, which gives its reply
and the volume afterwards from the volume before. -/
def request (c : Cloud) (r : Request) (volumeID : String)
    (answer : Option CloudVolume → Except Error Unit × Option CloudVolume) :
    Except Error Unit × Cloud :=
  ((answer (c.volumes volumeID)).1,
    { c with requests := r :: c.requests }.set volumeID (answer (c.volumes volumeID)).2)

/-- The answer to `volumeattach.Create`: accepted for an available volume and a named server, which
leaves the volume attaching; refused with 400 otherwise, and 404 for no volume. -/
def attachAnswer (instanceID : String) : Option CloudVolume → Except Error Unit × Option CloudVolume
  | none => (.error .notFound, none)
  | some v =>
    if v.phase = .available ∧ instanceID ≠ "" then (.ok (), some ⟨v.name, .attaching instanceID⟩)
    else (.error (.http 400), some v)

/-- The answer to `volumeattach.Delete`: accepted for an in-use volume with an attachment to the
server, which leaves the volume detaching; refused with 404 otherwise. -/
def detachAnswer (instanceID : String) : Option CloudVolume → Except Error Unit × Option CloudVolume
  | some ⟨name, .inUse as⟩ =>
    if as.any (·.serverID == instanceID) then (.ok (), some ⟨name, .detaching instanceID as⟩)
    else (.error .notFound, some ⟨name, .inUse as⟩)
  | v => (.error .notFound, v)

/-- The answer to `volumes.Delete`: accepted for an available volume, which goes; refused with 400
otherwise, and 404 for no volume. -/
def deleteAnswer : Option CloudVolume → Except Error Unit × Option CloudVolume
  | none => (.error .notFound, none)
  | some v => if v.phase = .available then (.ok (), none) else (.error (.http 400), some v)

/-- `volumeattach.Create`. -/
def attach (c : Cloud) (instanceID volumeID : String) : Except Error Unit × Cloud :=
  c.request (.attach instanceID volumeID) volumeID (attachAnswer instanceID)

/-- `volumeattach.Delete`. -/
def detach (c : Cloud) (instanceID volumeID : String) : Except Error Unit × Cloud :=
  c.request (.detach instanceID volumeID) volumeID (detachAnswer instanceID)

/-- `volumes.Delete`. -/
def delete (c : Cloud) (volumeID : String) : Except Error Unit × Cloud :=
  c.request (.delete volumeID) volumeID deleteAnswer

/-- A volume once the service completes the request in flight on it: an attach gives it an
attachment to the instance on `device`, and a detach removes the instance's attachments. -/
def finish (device : String) : Option CloudVolume → Option CloudVolume
  | some ⟨name, .attaching i⟩ => some ⟨name, .inUse [⟨i, device⟩]⟩
  | some ⟨name, .detaching i as⟩ =>
    let rest := as.filter (·.serverID != i)
    some ⟨name, if rest = [] then .available else .inUse rest⟩
  | v => v

/-- The service completes the request in flight on a volume. -/
def complete (c : Cloud) (volumeID device : String) : Cloud :=
  c.set volumeID (finish device (c.volumes volumeID))

@[simp] theorem set_volumes_self (c : Cloud) (volumeID : String) (v : Option CloudVolume) :
    (c.set volumeID v).volumes volumeID = v := by
  simp [set]

@[simp] theorem set_volumes_ne (c : Cloud) {volumeID w : String} (v : Option CloudVolume)
    (h : w ≠ volumeID) : (c.set volumeID v).volumes w = c.volumes w := by
  simp [set, h]

@[simp] theorem request_fst (c : Cloud) (r : Request) (volumeID : String)
    (answer : Option CloudVolume → Except Error Unit × Option CloudVolume) :
    (c.request r volumeID answer).1 = (answer (c.volumes volumeID)).1 := rfl

@[simp] theorem request_requests (c : Cloud) (r : Request) (volumeID : String)
    (answer : Option CloudVolume → Except Error Unit × Option CloudVolume) :
    (c.request r volumeID answer).2.requests = r :: c.requests := rfl

@[simp] theorem request_volumes_self (c : Cloud) (r : Request) (volumeID : String)
    (answer : Option CloudVolume → Except Error Unit × Option CloudVolume) :
    (c.request r volumeID answer).2.volumes volumeID = (answer (c.volumes volumeID)).2 := by
  simp [request]

@[simp] theorem request_volumes_ne (c : Cloud) (r : Request) {volumeID w : String}
    (answer : Option CloudVolume → Except Error Unit × Option CloudVolume) (h : w ≠ volumeID) :
    (c.request r volumeID answer).2.volumes w = c.volumes w := by
  simp [request, h]

/-- Asking the volume query of the service: the driver's `Volume`, or 404. -/
theorem getVolume_get (c : Cloud) (volumeID : String) :
    getVolume (c.get volumeID) = match c.volumes volumeID with
      | none => .error .notFound
      | some v => .ok ⟨((v.phase.attachments.head?).map (·.serverID)).getD "",
          ((v.phase.attachments.head?).map (·.device)).getD "", volumeID, v.name, v.phase.status⟩ := by
  unfold get
  rcases c.volumes volumeID with _ | ⟨name, phase⟩
  · rfl
  · simp only [getVolume]
    cases phase.attachments <;> rfl

end Cloud

/-! ## The driver's calls that change the service -/

/-- `AttachVolume`: success without a request when the volume's `AttachedServerId` is the
instance, the conflict error when it is another, and otherwise an attach request. -/
def attachVolume (c : Cloud) (instanceID volumeID : String) : Except Error String × Cloud :=
  match getVolume (c.get volumeID) with
  | .error err => (.error err, c)
  | .ok volume =>
    if volume.attachedServerId ≠ "" then
      if instanceID = volume.attachedServerId then (.ok volume.id, c)
      else (.error (.attachedToDifferentInstance volumeID volume.attachedServerId), c)
    else
      let (r, c') := c.attach instanceID volume.id
      (match r with
        | .error err => .error (.failedToAttach volumeID instanceID err)
        | .ok () => .ok volume.id, c')

/-- `DetachVolume`: success without a request for an available volume, an error for a status
other than in-use or another server, and otherwise a detach request. -/
def detachVolume (c : Cloud) (instanceID volumeID : String) : Except Error Unit × Cloud :=
  match getVolume (c.get volumeID) with
  | .error err => (.error err, c)
  | .ok volume =>
    if volume.status = volumeAvailableStatus then (.ok (), c)
    else if volume.status ≠ volumeInUseStatus then
      (.error (.cannotDetach volume.name volume.status), c)
    else if volume.attachedServerId ≠ instanceID then
      (.error (.notAttachedTo volume.name instanceID), c)
    else
      let (r, c') := c.detach instanceID volume.id
      (match r with
        | .error err => .error (.failedToDetach volume.id instanceID err)
        | .ok () => .ok (), c')

/-- `DeleteVolume`: the error `stillAttached` when `diskIsUsed`, and otherwise a delete
request. -/
def deleteVolume (c : Cloud) (volumeID : String) : Except Error Unit × Cloud :=
  match diskIsUsed (c.get volumeID) with
  | .error err => (.error err, c)
  | .ok true => (.error (.stillAttached volumeID), c)
  | .ok false => c.delete volumeID

end CinderCsi.OpenStack
