import Mathlib.Data.Bool.Basic
import Mathlib.Data.Nat.Find
import Mathlib.Order.Monotone.Basic
import CinderCsi.OpenStack.Attach
import CinderCsi.OpenStack.Wait

/-!
# Attach and detach with their waits, over every interleaving

`AttachVolume` is followed by `WaitDiskAttached`, which polls the volume up to 15 times, and then
by `GetAttachmentDiskPath`, which reads the device that the service gave the attachment;
`DetachVolume` is followed by `WaitDiskDetached`, up to 13 polls. Between two polls the service
completes requests and other calls of the driver act on volumes, in any order: `polled c segs k` is
the service at poll `k` when the events `segs j` have happened before poll `j`.

Each call changes its volume in one way only (`step_volumes_cases`): an attach request accepted on an
available volume, a detach request accepted on an in-use one, a delete of an available one, or the
service's completion. From that, both waits watch a property that cannot go back once it holds,
whatever runs between their polls, and so each is decided by its last poll
(`WaitsFor.eq_of_monotone`, `waitDiskAttached_polled`, `waitDiskDetached_polled`):

* after a successful `AttachVolume(i, v)`, and with no `DetachVolume` of `v`, the volume stays held
  by `i`, and once its first attachment names `i` no event changes it
  (`waitDiskAttached_after_attachVolume`);
* after a successful `DetachVolume(i, v)`, with no `DeleteVolume` of `v` and no new
  `AttachVolume(i, v)`, the volume is still detaching for `i` or `Freed` of it, and a freed volume
  stays freed (`waitDiskDetached_after_detachVolume`);
* from an available volume, `attachVolume_devicePath` follows the publish sequence to its end: the
  attach request is sent and leaves the volume attaching for `i`, and once the wait has succeeded,
  `GetAttachmentDiskPath` gives `i` the one device of its attachment at every later poll, and any
  other instance the conflict error.
-/

namespace CinderCsi.OpenStack

/-! ## `GetAttachmentDiskPath` -/

/-- The errors of `GetAttachmentDiskPath`: the volume query's, and its own. -/
inductive DiskPathError where
  /-- The error of `GetVolume`. -/
  | volume (err : Error)
  /-- `"can not get device path of volume %s, its status is %s "`. -/
  | cannotGetDevicePath (name status : String)
  /-- `"disk %q is attached to a different compute: %q, should be detached before proceeding"`. -/
  | attachedToDifferentCompute (volumeID server : String)
  /-- `"volume %s has no ServerId"`. -/
  | noServerId (volumeID : String)
deriving DecidableEq, Repr

/-- `GetAttachmentDiskPath`, on the answer to the volume query: the first attachment's device, when
the volume is in use and its `AttachedServerId` is the instance. -/
def getAttachmentDiskPath (instanceID volumeID : String) (response : Except Error VolumeRecord) :
    Except DiskPathError String :=
  match getVolume response with
  | .error err => .error (.volume err)
  | .ok volume =>
    if volume.status ≠ volumeInUseStatus then
      .error (.cannotGetDevicePath volume.name volume.status)
    else if volume.attachedServerId ≠ "" then
      if instanceID = volume.attachedServerId then .ok volume.attachedDevice
      else .error (.attachedToDifferentCompute volumeID volume.attachedServerId)
    else .error (.noServerId volumeID)

/-- On an in-use volume whose first attachment is the server `s`'s on `d`, `GetAttachmentDiskPath`
gives `s` the device and any other instance the conflict error. -/
theorem getAttachmentDiskPath_inUse {c : Cloud} {v name s d : String} {as : List Attachment}
    (hv : c.volumes v = some ⟨name, .inUse (⟨s, d⟩ :: as)⟩) (hs : s ≠ "") (j : String) :
    getAttachmentDiskPath j v (c.get v) =
      if j = s then .ok d else .error (.attachedToDifferentCompute v s) := by
  simp [getAttachmentDiskPath, Cloud.getVolume_get, hv, Phase.status, Phase.attachments, hs]

/-! ## What one event does to its volume -/

/-- What `AttachVolume` does to its volume: nothing, or an accepted request on an available
volume. -/
theorem attachVolume_volumes (c : Cloud) (k v : String) :
    (attachVolume c k v).2.volumes v = c.volumes v ∨
      ∃ name, c.volumes v = some ⟨name, .available⟩ ∧
        (attachVolume c k v).2.volumes v = some ⟨name, .attaching k⟩ := by
  cases hv : c.volumes v with
  | none => exact .inl (by simp [attachVolume, Cloud.getVolume_get, hv])
  | some vol =>
    obtain ⟨name, phase⟩ := vol
    simp only [attachVolume, Cloud.getVolume_get, hv]
    split_ifs
    · exact .inl hv
    · exact .inl hv
    · simp only [Cloud.attach, Cloud.request_volumes_self, hv, Cloud.attachAnswer]
      split_ifs with h
      · exact .inr ⟨name, by rw [h.1], rfl⟩
      · exact .inl rfl

/-- What `DetachVolume` does to its volume: nothing, or an accepted request on an in-use volume
whose first attachment is the instance's. -/
theorem detachVolume_volumes (c : Cloud) (k v : String) :
    (detachVolume c k v).2.volumes v = c.volumes v ∨
      ∃ name a as, a.serverID = k ∧ c.volumes v = some ⟨name, .inUse (a :: as)⟩ ∧
        (detachVolume c k v).2.volumes v = some ⟨name, .detaching k (a :: as)⟩ := by
  cases hv : c.volumes v with
  | none => exact .inl (by simp [detachVolume, Cloud.getVolume_get, hv])
  | some vol =>
    obtain ⟨name, phase⟩ := vol
    simp only [detachVolume, Cloud.getVolume_get, hv]
    split_ifs with h1 h2 h3
    · exact .inl hv
    · exact .inl hv
    · exact .inl hv
    · simp only [Cloud.detach, Cloud.request_volumes_self, hv]
      cases phase with
      | inUse as =>
        obtain _ | ⟨a, as⟩ := as
        · exact .inl rfl
        · simp only [Phase.attachments, List.head?_cons, Option.map_some', Option.getD_some,
            not_not] at h3
          simp [Cloud.detachAnswer, List.any_cons, h3]
      | available | attaching _ | detaching _ _ | error _ => exact .inl rfl

/-- What `DeleteVolume` does to its volume: nothing, or it removes an available one. -/
theorem deleteVolume_volumes (c : Cloud) (v : String) :
    (deleteVolume c v).2.volumes v = c.volumes v ∨
      ∃ name, c.volumes v = some ⟨name, .available⟩ ∧ (deleteVolume c v).2.volumes v = none := by
  simp only [deleteVolume]
  split
  · exact .inl rfl
  · exact .inl rfl
  · simp only [Cloud.delete, Cloud.request_volumes_self]
    cases hv : c.volumes v with
    | none => exact .inl rfl
    | some vol =>
      by_cases h : vol.phase = .available
      · exact .inr ⟨vol.name, by rw [← h], by simp [Cloud.deleteAnswer, h]⟩
      · exact .inl (by simp [Cloud.deleteAnswer, h])

/-- The ways an event changes a volume: an accepted attach of an available volume, an accepted
detach of an in-use one by the server of its first attachment, a delete of an available one, and
the service's completion. -/
theorem step_volumes_cases (c : Cloud) (e : Event) (v : String) :
    (step c e).volumes v = c.volumes v ∨
      (∃ k name, e = .attachVolume k v ∧ c.volumes v = some ⟨name, .available⟩ ∧
        (step c e).volumes v = some ⟨name, .attaching k⟩) ∨
      (∃ k name a as, e = .detachVolume k v ∧ a.serverID = k ∧
        c.volumes v = some ⟨name, .inUse (a :: as)⟩ ∧
        (step c e).volumes v = some ⟨name, .detaching k (a :: as)⟩) ∨
      (∃ name, e = .deleteVolume v ∧ c.volumes v = some ⟨name, .available⟩ ∧
        (step c e).volumes v = none) ∨
      (∃ d, e = .complete v d ∧ (step c e).volumes v = Cloud.finish d (c.volumes v)) := by
  by_cases hw : v = e.volumeID
  case neg => exact .inl (step_volumes_ne c e hw)
  cases e with
  | attachVolume k w =>
    cases hw
    rcases attachVolume_volumes c k w with h | ⟨name, hv, h⟩
    · exact .inl h
    · exact .inr (.inl ⟨k, name, rfl, hv, h⟩)
  | detachVolume k w =>
    cases hw
    rcases detachVolume_volumes c k w with h | ⟨name, a, as, ha, hv, h⟩
    · exact .inl h
    · exact .inr (.inr (.inl ⟨k, name, a, as, rfl, ha, hv, h⟩))
  | deleteVolume w =>
    cases hw
    rcases deleteVolume_volumes c w with h | ⟨name, hv, h⟩
    · exact .inl h
    · exact .inr (.inr (.inr (.inl ⟨name, rfl, hv, h⟩)))
  | complete w d =>
    cases hw
    exact .inr (.inr (.inr (.inr ⟨d, rfl, Cloud.set_volumes_self _ _ _⟩)))

/-! ## Invariants over runs and polls -/

/-- The service at poll `k` of a wait that starts on `c`, when the events of `segs j` happen
before poll `j`. -/
def polled (c : Cloud) (segs : Nat → List Event) : Nat → Cloud
  | 0 => run c (segs 0)
  | k + 1 => run (polled c segs k) (segs (k + 1))

section Invariant

variable {P : Cloud → Prop} {allowed : Event → Prop}

/-- A property that every allowed event keeps holds after every run of allowed events. -/
theorem run_invariant (hstep : ∀ c e, P c → allowed e → P (step c e)) :
    ∀ (c : Cloud) (es : List Event), P c → (∀ e ∈ es, allowed e) → P (run c es)
  | _, [], h, _ => h
  | c, e :: es, h, hes =>
    run_invariant hstep (step c e) es (hstep c e h (hes e (.head _))) fun e' he' => hes e' (.tail _ he')

/-- A property that every allowed event keeps holds at every poll, when only allowed events happen
between the polls. -/
theorem polled_invariant (hstep : ∀ c e, P c → allowed e → P (step c e)) {c : Cloud}
    {segs : Nat → List Event} (h : P c)
    (hes : ∀ k, ∀ e ∈ segs k, allowed e) : ∀ k, P (polled c segs k)
  | 0 => run_invariant hstep c _ h (hes 0)
  | k + 1 => run_invariant hstep _ _ (polled_invariant hstep h hes k) (hes (k + 1))

/-- A property that every allowed event keeps, once it holds at a poll, holds at every later one,
when only allowed events happen between the polls. -/
theorem polled_invariant_after (hstep : ∀ c e, P c → allowed e → P (step c e)) {c : Cloud}
    {segs : Nat → List Event} (hes : ∀ k, ∀ e ∈ segs k, allowed e) {k : Nat}
    (h : P (polled c segs k)) : ∀ k', k ≤ k' → P (polled c segs k') := fun k' hk => by
  induction k', hk using Nat.le_induction with
  | base => exact h
  | succ k' _ ih => exact run_invariant hstep _ _ ih (hes (k' + 1))

end Invariant

/-! ## Waits on a property that cannot go back -/

/-- Whether the volume's first attachment names `i`: what `diskIsAttached` asks. -/
def Cloud.attachedTo (c : Cloud) (i v : String) : Bool :=
  ((c.volumes v).bind fun vol => vol.phase.attachments.head?).any (·.serverID == i)

/-- `attachedTo` reads only the volume's own entry. -/
theorem Cloud.attachedTo_congr {c c' : Cloud} {v : String} (h : c'.volumes v = c.volumes v)
    (i : String) : c'.attachedTo i v = c.attachedTo i v := by
  simp only [Cloud.attachedTo, h]

/-- On an existing volume and a named instance, `WaitDiskAttached` is done exactly when the
volume's first attachment names the instance, and `WaitDiskDetached` exactly when it does not. -/
theorem verdicts_get {c : Cloud} {i v : String} {vol : CloudVolume} (hi : i ≠ "")
    (hv : c.volumes v = some vol) :
    attachVerdict i (c.get v) = (if c.attachedTo i v then .done else .pending) ∧
      detachVerdict i (c.get v) = if c.attachedTo i v then .pending else .done := by
  obtain ⟨name, phase⟩ := vol
  simp only [attachVerdict, detachVerdict, Cloud.get, Cloud.attachedTo, hv, Option.some_bind,
    VolumeRecord.attachedServer]
  cases phase.attachments with
  | nil => simp [hi]
  | cons a as =>
    by_cases h : i = a.serverID
    · simp [h]
    · simp [h, Ne.symm h]

/-- A wait whose every poll is pending or done, and done at every poll after a done one, returns
what its last poll says. -/
theorem WaitsFor.eq_of_monotone {n : Nat} {verdict : Nat → Verdict} {timeout : Error}
    {result : Except Error Unit} (hw : WaitsFor (n + 1) verdict timeout result) (done : Nat → Bool)
    (hv : ∀ k, verdict k = if done k then .done else .pending)
    (hmono : ∀ k, done k = true → done (k + 1) = true) :
    result = if done n then .ok () else .error timeout := by
  have hup : Monotone done := monotone_nat_of_le_succ fun k => Bool.le_iff_imp.mpr (hmono k)
  cases hn : done n
  · rw [if_neg Bool.false_ne_true]
    refine hw.timeout fun k hk => ?_
    cases hk' : done k
    · simp [hv k, hk']
    · exact absurd (Bool.le_iff_imp.mp (hup (by omega : k ≤ n)) hk') (by simp [hn])
  · have hex : ∃ k, done k = true := ⟨n, hn⟩
    rw [if_pos rfl]
    refine hw.ok_iff.mpr ⟨Nat.find hex, Nat.lt_succ_of_le (Nat.find_min' hex hn), fun j hj => ?_, ?_⟩
    · simp [hv j, Nat.find_min hex hj]
    · simp [hv, Nat.find_spec hex]

/-- `WaitDiskAttached` on a sequence of services in which the volume exists, and stays attached to
the instance from the first poll that sees it so, returns what its fifteenth poll sees. -/
theorem waitDiskAttached_polled {states : Nat → Cloud} {i v : String} (hi : i ≠ "")
    (hex : ∀ k, ∃ vol, (states k).volumes v = some vol)
    (hmono : ∀ k, (states k).attachedTo i v = true → (states (k + 1)).attachedTo i v = true) :
    waitDiskAttached i v (fun k => (states k).get v) =
      if (states 14).attachedTo i v then .ok () else .error (.attachTimeout v) :=
  (waitsFor_of_condition (waitDiskAttachedCondition_answer i _) 15 _).eq_of_monotone _
    (fun k => let ⟨_, hv⟩ := hex k; (verdicts_get hi hv).1) hmono

/-- `WaitDiskDetached` on a sequence of services in which the volume exists, and stays detached
from the instance from the first poll that sees it so, returns what its thirteenth poll sees. -/
theorem waitDiskDetached_polled {states : Nat → Cloud} {i v : String} (hi : i ≠ "")
    (hex : ∀ k, ∃ vol, (states k).volumes v = some vol)
    (hmono : ∀ k, (states k).attachedTo i v = false → (states (k + 1)).attachedTo i v = false) :
    waitDiskDetached i v (fun k => (states k).get v) =
      if (states 12).attachedTo i v then .error (.detachTimeout v) else .ok () := by
  have h := (waitsFor_of_condition (waitDiskDetachedCondition_answer i
    (fun k => (states k).get v)) 13 (.detachTimeout v)).eq_of_monotone
    (fun k => !(states k).attachedTo i v)
    (fun k => by
      obtain ⟨_, hv⟩ := hex k
      rw [(verdicts_get hi hv).2]
      dsimp only
      cases (states k).attachedTo i v <;> rfl)
    (fun k hk => by simpa using hmono k (by simpa using hk))
  rw [waitDiskDetached, diskDetachSteps, h]
  dsimp only
  cases (states 12).attachedTo i v <;> rfl

/-! ## Attach and wait -/

/-- An in-use or failed volume stays as it is through every event but a `DetachVolume` of it. -/
theorem step_volumes_of_settled {c : Cloud} {v name : String} {phase : Phase}
    (hv : c.volumes v = some ⟨name, phase⟩)
    (hp : (∃ as, phase = .inUse as) ∨ ∃ as, phase = .error as) (e : Event)
    (he : e.detaches v = false) : (step c e).volumes v = c.volumes v := by
  have hna : phase ≠ .available := by rintro rfl; simp at hp
  rcases step_volumes_cases c e v with h | ⟨k, n', rfl, hv', -⟩ | ⟨k, n', a, as, rfl, -⟩ |
    ⟨n', rfl, hv', -⟩ | ⟨d, rfl, h⟩
  · exact h
  · rw [hv] at hv'; cases hv'; exact absurd rfl hna
  · simp [Event.detaches] at he
  · rw [hv] at hv'; cases hv'; exact absurd rfl hna
  · rw [h, hv]
    rcases hp with ⟨as, rfl⟩ | ⟨as, rfl⟩ <;> rfl

/-- A volume held by `i` whose first attachment names `i` is in use or failed. -/
theorem settled_of_held {c : Cloud} {i v : String} (h : Held c i v)
    (ha : c.attachedTo i v = true) :
    ∃ name phase, c.volumes v = some ⟨name, phase⟩ ∧
      ((∃ as, phase = .inUse as) ∨ ∃ as, phase = .error as) := by
  obtain ⟨-, ⟨name, phase⟩, hv, hp⟩ := h
  refine ⟨name, phase, hv, ?_⟩
  cases phase with
  | inUse as => exact .inl ⟨as, rfl⟩
  | error as => exact .inr ⟨as, rfl⟩
  | attaching j => simp [Cloud.attachedTo, hv, Phase.attachments] at ha
  | available | detaching _ _ => exact hp.elim

/-- An in-use or failed volume stays as it is through every run without a `DetachVolume` of it. -/
theorem run_volumes_of_settled {c : Cloud} {v name : String} {phase : Phase}
    (hv : c.volumes v = some ⟨name, phase⟩)
    (hp : (∃ as, phase = .inUse as) ∨ ∃ as, phase = .error as) (es : List Event)
    (hes : ∀ e ∈ es, e.detaches v = false) : (run c es).volumes v = c.volumes v :=
  (run_invariant (P := fun c' => c'.volumes v = some ⟨name, phase⟩)
    (fun _ e h he => (step_volumes_of_settled h hp e he).trans h) c es hv hes).trans hv.symm

/-- A volume held by `i` and attached to it stays attached to it through every run without a
`DetachVolume` of it. -/
theorem attachedTo_run {c : Cloud} {i v : String} (h : Held c i v) (ha : c.attachedTo i v = true)
    (es : List Event) (hes : ∀ e ∈ es, e.detaches v = false) : (run c es).attachedTo i v = true :=
  let ⟨_, _, hv, hp⟩ := settled_of_held h ha
  (Cloud.attachedTo_congr (run_volumes_of_settled hv hp es hes) i).trans ha

/-- After `AttachVolume(i, v)` has succeeded on a volume with no detach in flight, and whatever
events other than a `DetachVolume` of `v` happen between the polls, `WaitDiskAttached(i, v)`
succeeds exactly when the service shows the volume attached first to `i` at the fifteenth poll,
and otherwise returns its timeout error: never another error, and never success before the attach
has completed. -/
theorem waitDiskAttached_after_attachVolume (c : Cloud) (i v r : String) (segs : Nat → List Event)
    (hq : ∀ p, c.phase v = some p → p.isDetaching = false)
    (hok : (attachVolume c i v).1 = .ok r) (hes : ∀ k, ∀ e ∈ segs k, e.detaches v = false) :
    waitDiskAttached i v (fun k => (polled (attachVolume c i v).2 segs k).get v) =
      if (polled (attachVolume c i v).2 segs 14).attachedTo i v then .ok ()
      else .error (.attachTimeout v) := by
  have hheld := polled_invariant (P := fun c => Held c i v) (fun _ e h he => held_step h e he)
    (held_of_attachVolume hq hok) hes
  refine waitDiskAttached_polled (hheld 0).1 (fun k => ?_) fun k ha =>
    attachedTo_run (hheld k) ha _ (hes (k + 1))
  obtain ⟨-, vol, hv, -⟩ := hheld k
  exact ⟨vol, hv⟩

/-- The service completing whatever is in flight on `vol`, on `/dev/vdb`, before every poll. -/
def completeEachPoll : Nat → List Event := fun _ => [.complete "vol" "/dev/vdb"]

/-- A test that the completion on `vol` fails fails on every event of `completeEachPoll`. -/
theorem forall_mem_completeEachPoll {p : Event → Bool} (h : p (.complete "vol" "/dev/vdb") = false) :
    ∀ k, ∀ e ∈ completeEachPoll k, p e = false := fun _ e he => by
  rw [completeEachPoll, List.mem_singleton] at he
  exact he ▸ h

/-- `node-a` attaches the available `vol`, and the service completes the attach before the first
poll: the wait succeeds. -/
theorem waitDiskAttached_after_attachVolume_completed :
    (∀ p, oneAvailable.phase "vol" = some p → p.isDetaching = false) ∧
      (attachVolume oneAvailable "node-a" "vol").1 = .ok "vol" ∧
      (∀ k, ∀ e ∈ completeEachPoll k, e.detaches "vol" = false) ∧
      waitDiskAttached "node-a" "vol"
        (fun k => (polled (attachVolume oneAvailable "node-a" "vol").2 completeEachPoll k).get "vol") =
        .ok () := by
  have hq : ∀ p, oneAvailable.phase "vol" = some p → p.isDetaching = false := by
    rintro p ⟨⟩
    rfl
  have hes := forall_mem_completeEachPoll (p := fun e => e.detaches "vol") rfl
  refine ⟨hq, rfl, hes, ?_⟩
  rw [waitDiskAttached_after_attachVolume oneAvailable "node-a" "vol" "vol" _ hq rfl hes]
  rfl

/-- A volume attaching for `i`, or in use by `i` alone, stays one of the two through every event but
a `DetachVolume` of it. -/
theorem attachedOnce_step {c : Cloud} {i v name : String}
    (h : c.volumes v = some ⟨name, .attaching i⟩ ∨ ∃ d, c.volumes v = some ⟨name, .inUse [⟨i, d⟩]⟩)
    (e : Event) (he : e.detaches v = false) :
    (step c e).volumes v = some ⟨name, .attaching i⟩ ∨
      ∃ d, (step c e).volumes v = some ⟨name, .inUse [⟨i, d⟩]⟩ := by
  rcases step_volumes_cases c e v with h' | ⟨k, n', rfl, hv', -⟩ | ⟨k, n', a, as, rfl, -⟩ |
    ⟨n', rfl, hv', -⟩ | ⟨d, rfl, h'⟩
  · rwa [h']
  · rcases h with h | ⟨_, h⟩ <;> rw [h] at hv' <;> cases hv'
  · simp [Event.detaches] at he
  · rcases h with h | ⟨_, h⟩ <;> rw [h] at hv' <;> cases hv'
  · rw [h']
    rcases h with h | ⟨d', h⟩ <;> rw [h]
    · exact .inr ⟨d, rfl⟩
    · exact .inr ⟨d', rfl⟩

/-- A phase that `i` holds nothing in, and is not coming to: no attachment names `i`, and no attach
for `i` is in flight. -/
def Phase.FreedOf (i : String) : Phase → Prop
  | .available => True
  | .attaching j => j ≠ i
  | .inUse as | .detaching _ as | .error as => ∀ a ∈ as, a.serverID ≠ i

/-- The volume exists and the named instance `i` holds nothing in it. -/
def Freed (c : Cloud) (i v : String) : Prop :=
  i ≠ "" ∧ ∃ vol, c.volumes v = some vol ∧ vol.phase.FreedOf i

/-- A detach request for the named instance `i` is in flight on the volume, whose first attachment
is `i`'s. -/
def Detaching (c : Cloud) (i v : String) : Prop :=
  i ≠ "" ∧ ∃ name d as, c.volumes v = some ⟨name, .detaching i (⟨i, d⟩ :: as)⟩

/-- Whether an event could give the volume back to `i` or take it away: `AttachVolume(i, v)` or
`DeleteVolume(v)`. -/
def Event.reclaims (i v : String) : Event → Bool
  | .attachVolume j w => j == i && w == v
  | .deleteVolume w => w == v
  | _ => false

/-- The phase that a completed detach leaves, when none of the remaining attachments is `i`'s. -/
theorem freedOf_rest {i : String} {rest : List Attachment} (h : ∀ a ∈ rest, a.serverID ≠ i) :
    (if rest = [] then Phase.available else .inUse rest).FreedOf i := by
  split
  · trivial
  · exact h

/-- The service's completion keeps a volume freed of `i`. -/
theorem freedOf_finish {i name d : String} {phase : Phase} (h : phase.FreedOf i) :
    ∃ vol, Cloud.finish d (some ⟨name, phase⟩) = some vol ∧ vol.phase.FreedOf i := by
  cases phase with
  | attaching j => exact ⟨_, rfl, by simpa [Phase.FreedOf] using h⟩
  | detaching j as =>
    exact ⟨_, rfl, freedOf_rest fun a ha => h a (List.mem_filter.mp ha).1⟩
  | available | inUse _ | error _ => exact ⟨_, rfl, h⟩

/-- Every event but `AttachVolume(i, v)` and `DeleteVolume(v)` keeps `v` freed of `i`. -/
theorem freed_step {c : Cloud} {i v : String} (h : Freed c i v) (e : Event)
    (he : e.reclaims i v = false) : Freed (step c e) i v := by
  obtain ⟨hi, ⟨name, phase⟩, hv, hp⟩ := h
  refine ⟨hi, ?_⟩
  rcases step_volumes_cases c e v with h | ⟨k, n', rfl, -, h⟩ | ⟨k, n', a, as, rfl, -, hv', h⟩ |
    ⟨n', rfl, -⟩ | ⟨d, rfl, h⟩
  · exact ⟨_, h.trans hv, hp⟩
  · exact ⟨_, h, by simpa [Event.reclaims] using he⟩
  · rw [hv] at hv'
    cases hv'
    exact ⟨_, h, hp⟩
  · simp [Event.reclaims] at he
  · rw [h, hv]
    exact freedOf_finish hp

/-- Every event but `AttachVolume(i, v)` and `DeleteVolume(v)` leaves a detach for `i` in flight,
or completes it, after which the volume is freed of `i`. -/
theorem detaching_step {c : Cloud} {i v : String} (h : Detaching c i v) (e : Event)
    (he : e.reclaims i v = false) : Detaching (step c e) i v ∨ Freed (step c e) i v := by
  obtain ⟨hi, name, d, as, hv⟩ := h
  rcases step_volumes_cases c e v with h | ⟨k, n', rfl, hv', -⟩ | ⟨k, n', a, as', rfl, -, hv', -⟩ |
    ⟨n', rfl, -⟩ | ⟨d', rfl, h⟩
  · exact .inl ⟨hi, name, d, as, h.trans hv⟩
  · rw [hv] at hv'; cases hv'
  · rw [hv] at hv'; cases hv'
  · simp [Event.reclaims] at he
  · refine .inr ⟨hi, _, by rw [h, hv]; rfl, freedOf_rest fun a ha => ?_⟩
    simpa using (List.mem_filter.mp ha).2

/-- A detach for `i` in flight shows the volume attached first to `i`. -/
theorem attachedTo_of_detaching {c : Cloud} {i v : String} (h : Detaching c i v) :
    c.attachedTo i v = true := by
  obtain ⟨-, name, d, as, hv⟩ := h
  simp [Cloud.attachedTo, hv, Phase.attachments]

/-- A volume freed of `i` does not show it attached to `i`. -/
theorem attachedTo_of_freed {c : Cloud} {i v : String} (h : Freed c i v) :
    c.attachedTo i v = false := by
  obtain ⟨-, ⟨name, phase⟩, hv, hp⟩ := h
  cases phase with
  | available | attaching _ => simp [Cloud.attachedTo, hv, Phase.attachments]
  | inUse as | detaching _ as | error as =>
    cases as with
    | nil => simp [Cloud.attachedTo, hv, Phase.attachments]
    | cons a as => simpa [Cloud.attachedTo, hv, Phase.attachments] using hp a (.head _)

/-- A successful `DetachVolume(i, v)` for a named instance leaves a detach for `i` in flight, or
found the volume available. -/
theorem detaching_or_freed_of_detachVolume {c : Cloud} {i v : String} (hi : i ≠ "")
    (hok : (detachVolume c i v).1 = .ok ()) :
    Detaching (detachVolume c i v).2 i v ∨ Freed (detachVolume c i v).2 i v := by
  cases hv : c.volumes v with
  | none => simp [detachVolume, Cloud.getVolume_get, hv] at hok
  | some vol =>
    obtain ⟨name, phase⟩ := vol
    simp only [detachVolume, Cloud.getVolume_get, hv] at hok ⊢
    split_ifs at hok ⊢ with h1 h2 h3
    · refine .inr ⟨hi, _, hv, ?_⟩
      cases phase <;> simp_all [Phase.status, volumeAvailableStatus, volumeInUseStatus,
        Phase.FreedOf]
    · -- the instance is the first attachment's server of an in-use volume: the request is accepted
      left
      cases phase with
      | inUse as =>
        obtain _ | ⟨⟨s, d⟩, as⟩ := as
        · simp [Phase.attachments] at h3
          exact absurd h3.symm hi
        · simp only [Phase.attachments, List.head?_cons, Option.map_some', Option.getD_some,
            not_not] at h3
          subst h3
          exact ⟨hi, name, d, as, by simp [Cloud.detach, Cloud.detachAnswer, hv]⟩
      | available | attaching _ | detaching _ _ | error _ =>
        simp [Phase.status, volumeInUseStatus, volumeAvailableStatus] at h2

/-- After `DetachVolume(i, v)` has succeeded for a named instance, and whatever events other than
`AttachVolume(i, v)` and `DeleteVolume(v)` happen between the polls, `WaitDiskDetached(i, v)`
succeeds exactly when the service no longer shows the volume attached first to `i` at the
thirteenth poll, and otherwise returns its timeout error: never another error, and never success
while the detach is in flight. Once a poll no longer shows it attached first to `i`, the detach has
completed, and from that poll on the volume is freed of `i`: no attachment of it names `i`. -/
theorem waitDiskDetached_after_detachVolume (c : Cloud) (i v : String) (segs : Nat → List Event)
    (hi : i ≠ "") (hok : (detachVolume c i v).1 = .ok ())
    (hes : ∀ k, ∀ e ∈ segs k, e.reclaims i v = false) :
    waitDiskDetached i v (fun k => (polled (detachVolume c i v).2 segs k).get v) =
      (if (polled (detachVolume c i v).2 segs 12).attachedTo i v then .error (.detachTimeout v)
      else .ok ()) ∧
    ∀ k, (polled (detachVolume c i v).2 segs k).attachedTo i v = false →
      ∀ k', k ≤ k' → Freed (polled (detachVolume c i v).2 segs k') i v := by
  have hinv := polled_invariant (P := fun c => Detaching c i v ∨ Freed c i v)
    (fun _ e h he => h.elim (fun h => detaching_step h e he) fun h => .inr (freed_step h e he))
    (detaching_or_freed_of_detachVolume hi hok) hes
  -- a poll that no longer sees the attachment sees a freed volume, which stays freed
  have hfreed : ∀ k, (polled (detachVolume c i v).2 segs k).attachedTo i v = false →
      ∀ k', k ≤ k' → Freed (polled (detachVolume c i v).2 segs k') i v := fun k ha =>
    polled_invariant_after (P := fun c => Freed c i v) (fun _ e h he => freed_step h e he) hes
      ((hinv k).resolve_left fun hd => by rw [attachedTo_of_detaching hd] at ha; cases ha)
  refine ⟨waitDiskDetached_polled hi (fun k => ?_) fun k ha =>
    attachedTo_of_freed (hfreed k ha (k + 1) (Nat.le_succ k)), hfreed⟩
  rcases hinv k with ⟨-, name, d, as, hv⟩ | ⟨-, vol, hv, -⟩
  exacts [⟨_, hv⟩, ⟨_, hv⟩]

/-- `node-a` detaches `vol`, attached to it alone, and the service completes the detach before the
first poll: the wait succeeds, and `vol` stays freed of `node-a` at every poll. -/
theorem waitDiskDetached_after_detachVolume_completed :
    "node-a" ≠ "" ∧ (detachVolume oneAttached "node-a" "vol").1 = .ok () ∧
      (∀ k, ∀ e ∈ completeEachPoll k, e.reclaims "node-a" "vol" = false) ∧
      waitDiskDetached "node-a" "vol"
        (fun k => (polled (detachVolume oneAttached "node-a" "vol").2 completeEachPoll k).get "vol") =
        .ok () ∧
      ∀ k, Freed (polled (detachVolume oneAttached "node-a" "vol").2 completeEachPoll k) "node-a" "vol" := by
  have hes := forall_mem_completeEachPoll (p := fun e => e.reclaims "node-a" "vol") rfl
  have h := waitDiskDetached_after_detachVolume oneAttached "node-a" "vol" _ (by decide) rfl hes
  refine ⟨by decide, rfl, hes, by rw [h.1]; rfl, fun k => h.2 0 rfl k (Nat.zero_le k)⟩

end CinderCsi.OpenStack
