import CinderCsi.OpenStack.Volumes

/-!
# Attach requests over every interleaving with the service's completions

A run of the system is a list of events: the driver's calls `AttachVolume`, `DetachVolume` and
`DeleteVolume`, one after another, and the service completing the request in flight on a volume,
which it may do at any point between them. `run` plays a list of events from a service state.

`AttachVolume` decides on the volume's `AttachedServerId` alone. Between an accepted attach and its
completion the volume query shows no attachment, so a second `AttachVolume` on the volume, by the
same instance or another, issues a new attach request; the service refuses it (the volume is not
available) and the call fails with `failedToAttach`. What does hold is `Held`: once
`AttachVolume(i, v)` has succeeded with no detach of `v` in flight, and while no `DetachVolume` of
`v` is issued, the volume stays attaching for `i` or attached first to `i`, whatever else runs
(`held_run`). From a state where it holds, `attachVolume_of_held` gives the outcome of every later
`AttachVolume` on the volume, and `attachVolume_after_accepted` puts the two together.
-/

namespace CinderCsi.OpenStack

/-- One step of the system. -/
inductive Event where
  /-- The driver calls `AttachVolume(instanceID, volumeID)`. -/
  | attachVolume (instanceID volumeID : String)
  /-- The driver calls `DetachVolume(instanceID, volumeID)`. -/
  | detachVolume (instanceID volumeID : String)
  /-- The driver calls `DeleteVolume(volumeID)`. -/
  | deleteVolume (volumeID : String)
  /-- The service completes the request in flight on `volumeID`. -/
  | complete (volumeID device : String)
deriving DecidableEq, Repr

/-- The volume an event acts on. -/
def Event.volumeID : Event → String
  | .attachVolume _ v | .detachVolume _ v | .deleteVolume v | .complete v _ => v

/-- Whether an event is a `DetachVolume` of the volume `v`. -/
def Event.detaches (v : String) : Event → Bool
  | .detachVolume _ w => w == v
  | _ => false

/-- The service after an event. -/
def step (c : Cloud) : Event → Cloud
  | .attachVolume i v => (attachVolume c i v).2
  | .detachVolume i v => (detachVolume c i v).2
  | .deleteVolume v => (deleteVolume c v).2
  | .complete v d => c.complete v d

/-- The service after a run of events. -/
def run (c : Cloud) (es : List Event) : Cloud := es.foldl step c

/-- The phase of a volume, if it exists. -/
def Cloud.phase (c : Cloud) (v : String) : Option Phase := (c.volumes v).map CloudVolume.phase

/-- Whether a phase has an attach request in flight. -/
def Phase.isAttaching : Phase → Bool
  | .attaching _ => true
  | _ => false

/-- Whether a phase has a detach request in flight. -/
def Phase.isDetaching : Phase → Bool
  | .detaching _ _ => true
  | _ => false

/-- Whether the volume `v` has an attach request in flight. -/
def Cloud.attaching (c : Cloud) (v : String) : Bool := (c.phase v).any Phase.isAttaching

/-- A phase in which the volume belongs to `i`: attaching for `i`, or in use or failed with a
first attachment that names `i`. -/
def Phase.HeldBy (i : String) : Phase → Prop
  | .attaching j => j = i
  | .inUse (a :: _) | .error (a :: _) => a.serverID = i
  | _ => False

/-- The volume `v` belongs to the named instance `i`. -/
def Held (c : Cloud) (i v : String) : Prop :=
  i ≠ "" ∧ ∃ vol, c.volumes v = some vol ∧ vol.phase.HeldBy i

@[simp] theorem run_nil (c : Cloud) : run c [] = c := rfl

@[simp] theorem run_cons (c : Cloud) (e : Event) (es : List Event) :
    run c (e :: es) = run (step c e) es := rfl

/-! ## Frames: an event touches only its own volume -/

/-- An event leaves every other volume as it was. -/
theorem step_volumes_ne (c : Cloud) (e : Event) {w : String} (h : w ≠ e.volumeID) :
    (step c e).volumes w = c.volumes w := by
  cases e with
  | complete v d => exact Cloud.set_volumes_ne _ _ h
  | attachVolume i v | detachVolume i v =>
    simp only [Event.volumeID] at h
    cases hv : c.volumes v <;>
      simp [step, attachVolume, detachVolume, Cloud.getVolume_get, hv, Cloud.attach,
        Cloud.detach]
    split_ifs <;> simp [h]
  | deleteVolume v =>
    simp only [Event.volumeID] at h
    simp only [step, deleteVolume, diskIsUsed, Cloud.getVolume_get]
    split <;> simp [Cloud.delete, h]

/-- `Held` reads only the volume's own entry. -/
theorem Held.of_volumes_eq {c c' : Cloud} {i v : String} (h : Held c i v)
    (he : c'.volumes v = c.volumes v) : Held c' i v := by
  obtain ⟨hi, vol, hv, hp⟩ := h
  exact ⟨hi, vol, he.trans hv, hp⟩

/-! ## `AttachVolume` on a volume that belongs to an instance -/

/-- While the attach for `i` is in flight, `AttachVolume` issues a request, which the service
refuses. -/
theorem attachVolume_of_attaching (c : Cloud) {k v name j : String}
    (hv : c.volumes v = some ⟨name, .attaching j⟩) :
    attachVolume c k v =
      (.error (.failedToAttach v k (.http 400)), { c with requests := .attach k v :: c.requests }) := by
  simp only [attachVolume, Cloud.getVolume_get, hv, Phase.attachments]
  simp only [Cloud.attach, Cloud.attachAnswer, Cloud.request, hv]
  simp [Cloud.set, ← hv]

/-- On a volume whose first attachment names the server `s`, `AttachVolume` issues no request. -/
theorem attachVolume_of_server (c : Cloud) {k v s d : String} {vol : CloudVolume}
    {as : List Attachment} (hv : c.volumes v = some vol)
    (ha : vol.phase.attachments = ⟨s, d⟩ :: as) (hs : s ≠ "") :
    attachVolume c k v = (if k = s then .ok v else .error (.attachedToDifferentInstance v s), c) := by
  simp only [attachVolume, Cloud.getVolume_get, hv, ha]
  simp [hs]
  split_ifs <;> rfl

/-- The outcome of every `AttachVolume` on a volume held by `i`: while the attach is in flight, a
refused request and `failedToAttach`; once it has completed, no request, and success for `i` and
the conflict error for any other instance. -/
theorem attachVolume_of_held {c : Cloud} {i v : String} (h : Held c i v) (k : String) :
    attachVolume c k v =
      if c.attaching v then
        (.error (.failedToAttach v k (.http 400)), { c with requests := .attach k v :: c.requests })
      else (if k = i then .ok v else .error (.attachedToDifferentInstance v i), c) := by
  obtain ⟨hi, ⟨name, phase⟩, hv, hp⟩ := h
  have hs : ∀ (a : Attachment) (as : List Attachment), phase.attachments = a :: as →
      a.serverID = i → attachVolume c k v =
        (if k = i then .ok v else .error (.attachedToDifferentInstance v i), c) := by
    rintro ⟨s, d⟩ as ha rfl
    exact attachVolume_of_server c hv ha hi
  cases phase with
  | attaching j =>
    simp [Cloud.attaching, Cloud.phase, hv, Phase.isAttaching, attachVolume_of_attaching c hv]
  | inUse as =>
    obtain _ | ⟨a, as⟩ := as
    · exact hp.elim
    · simp [Cloud.attaching, Cloud.phase, hv, Phase.isAttaching, hs a as rfl hp]
  | error as =>
    obtain _ | ⟨a, as⟩ := as
    · exact hp.elim
    · simp [Cloud.attaching, Cloud.phase, hv, Phase.isAttaching, hs a as rfl hp]
  | available | detaching _ _ => exact hp.elim

/-- A successful `AttachVolume(i, v)` on a volume with no detach in flight leaves it held by
`i`. -/
theorem held_of_attachVolume {c : Cloud} {i v r : String}
    (hq : ∀ p, c.phase v = some p → p.isDetaching = false)
    (hok : (attachVolume c i v).1 = .ok r) : Held (attachVolume c i v).2 i v := by
  cases hv : c.volumes v with
  | none => simp [attachVolume, Cloud.getVolume_get, hv] at hok
  | some vol =>
    obtain ⟨name, phase⟩ := vol
    have hq' := hq phase (by simp [Cloud.phase, hv])
    cases phase with
    | available =>
      by_cases hi : i = ""
      · simp [attachVolume, Cloud.getVolume_get, hv, Phase.attachments, Cloud.attach,
          Cloud.attachAnswer, hi] at hok
      · simp only [attachVolume, Cloud.getVolume_get, hv, Phase.attachments]
        simp [Cloud.attach, Cloud.request, Cloud.attachAnswer, hv, hi, Held, Phase.HeldBy]
    | attaching j => simp [attachVolume_of_attaching c hv] at hok
    | detaching j as => simp [Phase.isDetaching] at hq'
    | inUse as | error as =>
      obtain _ | ⟨⟨s, d⟩, as⟩ := as
      · simp [attachVolume, Cloud.getVolume_get, hv, Phase.attachments, Cloud.attach,
          Cloud.attachAnswer] at hok
      · by_cases hs : s = ""
        · subst hs
          simp [attachVolume, Cloud.getVolume_get, hv, Phase.attachments, Cloud.attach,
            Cloud.attachAnswer] at hok
        · by_cases hi : i = s
          · subst hi
            rw [attachVolume_of_server c hv rfl hs]
            exact ⟨hs, _, hv, rfl⟩
          · simp [attachVolume_of_server c hv rfl hs, hi] at hok

/-! ## `Held` over every run without a detach of the volume -/

/-- A step that is not a `DetachVolume` of `v` keeps `v` held. -/
theorem held_step {c : Cloud} {i v : String} (h : Held c i v) (e : Event)
    (he : e.detaches v = false) : Held (step c e) i v := by
  by_cases hw : v = e.volumeID
  case neg => exact h.of_volumes_eq (step_volumes_ne c e hw)
  obtain ⟨hi, ⟨name, phase⟩, hv, hp⟩ := h
  cases e with
  | attachVolume k w =>
    subst hw
    exact Held.of_volumes_eq ⟨hi, _, hv, hp⟩ (by
      rw [step, attachVolume_of_held ⟨hi, _, hv, hp⟩]
      split <;> rfl)
  | detachVolume k w => simp [Event.detaches, Event.volumeID, hw] at he
  | deleteVolume w =>
    subst hw
    refine Held.of_volumes_eq ⟨hi, _, hv, hp⟩ ?_
    cases phase with
    | attaching j =>
      simp [step, deleteVolume, diskIsUsed, Cloud.getVolume_get, hv, Phase.attachments,
        Cloud.delete, Cloud.deleteAnswer, Cloud.request]
    | inUse as | error as =>
      obtain _ | ⟨⟨s, d⟩, as⟩ := as
      · exact hp.elim
      · simp only [Phase.HeldBy] at hp
        subst hp
        have hu : (s != "") = true := bne_iff_ne.mpr hi
        simp [step, deleteVolume, diskIsUsed, Cloud.getVolume_get, hv, Phase.attachments, hu]
    | available | detaching _ _ => exact hp.elim
  | complete w d =>
    subst hw
    refine ⟨hi, ?_⟩
    simp only [step, Cloud.complete, Cloud.set_volumes_self, hv]
    cases phase with
    | attaching j => exact ⟨_, rfl, hp⟩
    | inUse as | error as => exact ⟨_, rfl, hp⟩
    | available | detaching _ _ => exact hp.elim

/-- A run with no `DetachVolume` of `v` keeps `v` held. -/
theorem held_run {c : Cloud} {i v : String} (h : Held c i v) :
    ∀ es : List Event, (∀ e ∈ es, e.detaches v = false) → Held (run c es) i v
  | [], _ => h
  | e :: es, hes =>
    held_run (held_step h e (hes e (List.mem_cons_self _ _))) es
      fun e' he' => hes e' (List.mem_cons_of_mem _ he')

/-- After `AttachVolume(i, v)` has succeeded on a volume with no detach in flight, and through any
run with no `DetachVolume` of `v`, the volume stays held by `i`, and a call `AttachVolume(k, v)`
issues a request only while the attach is in flight, which the service refuses and the call
reports as `failedToAttach`. Once the attach has completed, the call issues no request, succeeds
for `i`, and returns the conflict error for any other instance. -/
theorem attachVolume_after_accepted (c : Cloud) (i v r k : String) (es : List Event)
    (hq : ∀ p, c.phase v = some p → p.isDetaching = false)
    (hok : (attachVolume c i v).1 = .ok r) (hes : ∀ e ∈ es, e.detaches v = false) :
    Held (run (attachVolume c i v).2 es) i v ∧
      attachVolume (run (attachVolume c i v).2 es) k v =
        if (run (attachVolume c i v).2 es).attaching v then
          (.error (.failedToAttach v k (.http 400)),
            { run (attachVolume c i v).2 es with
              requests := .attach k v :: (run (attachVolume c i v).2 es).requests })
        else (if k = i then .ok v else .error (.attachedToDifferentInstance v i),
          run (attachVolume c i v).2 es) := by
  have h := held_run (held_of_attachVolume hq hok) es hes
  exact ⟨h, attachVolume_of_held h k⟩

/-- The service with one available volume `vol`, named `pv`, and no requests yet. -/
def oneAvailable : Cloud := ⟨fun w => if w = "vol" then some ⟨"pv", .available⟩ else none, []⟩

/-- An attach of `vol` by `node-a` that the service completes, followed by an attach by `node-b`:
the second call returns the conflict error and issues no request. -/
theorem attachVolume_after_accepted_completed :
    (∀ p, oneAvailable.phase "vol" = some p → p.isDetaching = false) ∧
      (attachVolume oneAvailable "node-a" "vol").1 = .ok "vol" ∧
      (∀ e ∈ [Event.complete "vol" "/dev/vdb"], e.detaches "vol" = false) ∧
      attachVolume (run (attachVolume oneAvailable "node-a" "vol").2
          [.complete "vol" "/dev/vdb"]) "node-b" "vol" =
        (.error (.attachedToDifferentInstance "vol" "node-a"),
          run (attachVolume oneAvailable "node-a" "vol").2 [.complete "vol" "/dev/vdb"]) := by
  have hq : ∀ p, oneAvailable.phase "vol" = some p → p.isDetaching = false := by
    intro p hp
    simp only [Cloud.phase, oneAvailable, if_pos, Option.map_some', Option.some.injEq] at hp
    subst hp
    rfl
  refine ⟨hq, rfl, by decide, ?_⟩
  rw [(attachVolume_after_accepted oneAvailable "node-a" "vol" "vol" "node-b"
    [.complete "vol" "/dev/vdb"] hq rfl (by decide)).2]
  rfl

/-- The service with the volume `vol`, named `pv`, attached to `node-a` on `/dev/vdb`. -/
def oneAttached : Cloud :=
  ⟨fun w => if w = "vol" then some ⟨"pv", .inUse [⟨"node-a", "/dev/vdb"⟩]⟩ else none, []⟩

/-- A successful `AttachVolume(i, v)` does not make a later one idempotent, nor a later
`AttachVolume(j, v)` a conflict. Repeating the attach before the service completes it sends a second
attach request, which the service refuses with 400. And an attach made while a detach is in flight
succeeds on the old attachment without a request; once the detach completes, another instance's
attach is accepted. -/
theorem attachVolume_repeated_while_attaching :
    (attachVolume oneAvailable "node-a" "vol").1 = .ok "vol" ∧
      (attachVolume (attachVolume oneAvailable "node-a" "vol").2 "node-a" "vol").1 =
        .error (.failedToAttach "vol" "node-a" (.http 400)) ∧
      (attachVolume (attachVolume oneAvailable "node-a" "vol").2 "node-a" "vol").2.requests =
        [.attach "node-a" "vol", .attach "node-a" "vol"] ∧
      (attachVolume (detachVolume oneAttached "node-a" "vol").2 "node-a" "vol").1 = .ok "vol" ∧
      (attachVolume (run (attachVolume (detachVolume oneAttached "node-a" "vol").2 "node-a" "vol").2
          [.complete "vol" "/dev/vdb"]) "node-b" "vol").1 = .ok "vol" :=
  ⟨rfl, rfl, rfl, rfl, rfl⟩

end CinderCsi.OpenStack
