import CinderCsi.Go.Strings

/-!
# The node's id

`NodeGetId` and `NodeGetInfo` answer with `getNodeID` (`pkg/csi/cinder/nodeserver.go`). It asks
the mount provider's `GetInstanceID` first, which reads the file that cloud-init writes,
`/var/lib/cloud/data/instance-id`, and falls back on the metadata service's `GetInstanceID`
(`openstack/openstack_metadata.go`) only when the first answers with an error and no id.

Go's results are pairs of a value and an error, either of which may be set, and are modelled as
such, with an error as its message. The environment is what the calls read: the file, the answer
of `http.Get`, and `json.Unmarshal` as a function from the body to the decoded struct and its
error.

`GetInstanceID` of the mount provider returns the error of the file read, which is `nil` when the
file was read, also when it holds only white space and the id is empty. So a blank file gives the
empty id with no error, and the metadata service is not asked (`getNodeID_of_blank_file`). The
other way to an empty id with no error is an unreadable file and a metadata answer whose decoded
`uuid` is empty (`getNodeID_eq_empty_iff`).
-/

namespace CinderCsi

/-! ## The two sources -/

namespace Mount

/-- `Mount.GetInstanceID`: the instance-id file's content without surrounding white space. The
error returned is the read's, `nil` when the file was read, even when the id is empty. -/
def getInstanceID (instanceIDFile : Except String String) : String × Option String :=
  match instanceIDFile with
  | .ok idBytes =>
    let instanceID := String.mk (Go.trimSpace idBytes.toList)
    if instanceID ≠ "" then (instanceID, none) else ("", none)
  | .error err => ("", some err)

end Mount

namespace OpenStack

/-- `metadata`: the field of the metadata service's JSON that `GetInstanceID` reads. -/
structure Metadata where
  /-- `UUID`. -/
  uuid : String
deriving DecidableEq, Repr

/-- An answer of the metadata service: its status code, and what reading its body gives. -/
structure HttpResponse where
  /-- `resp.StatusCode`. -/
  statusCode : Nat
  /-- `ioutil.ReadAll(resp.Body)`: the body, or the error. -/
  body : Except String String

/-- `getMetadata`: the body of a `200 OK` answer. On another status it returns no body and the
error of `http.Get`, which is `nil` there. -/
def getMetadata (resp : Except String HttpResponse) : String × Option String :=
  match resp with
  | .error err => ("", some err)
  | .ok r =>
    if r.statusCode ≠ 200 then ("", none)
    else
      match r.body with
      | .error err => ("", some err)
      | .ok md => (md, none)

/-- `getMetaDataInfo`: the body, decoded by `json.Unmarshal` into a zero `metadata`. -/
def getMetaDataInfo (resp : Except String HttpResponse)
    (unmarshal : String → Metadata × Option String) : Metadata × Option String :=
  match getMetadata resp with
  | (_, some err) => (⟨""⟩, some err)
  | (md, none) => unmarshal md

/-- `GetInstanceID` of the metadata service: the decoded `uuid`, or the error. -/
def getInstanceID (resp : Except String HttpResponse)
    (unmarshal : String → Metadata × Option String) : String × Option String :=
  match getMetaDataInfo resp unmarshal with
  | (_, some err) => ("", some err)
  | (md, none) => (md.uuid, none)

end OpenStack

/-! ## `getNodeID` -/

namespace NodeServer

/-- What the node's id is read from. -/
structure IdSources where
  /-- `ioutil.ReadFile` of `/var/lib/cloud/data/instance-id`: the content, or the error. -/
  instanceIDFile : Except String String
  /-- `http.Get` of the metadata service's `meta_data.json`: the answer, or the error. -/
  metadataResponse : Except String OpenStack.HttpResponse
  /-- `json.Unmarshal` into `metadata`: the decoded struct, and the error. -/
  unmarshal : String → OpenStack.Metadata × Option String

/-- `getNodeIDMountProvider`. -/
def getNodeIDMountProvider (env : IdSources) : String × Option String :=
  match Mount.getInstanceID env.instanceIDFile with
  | (_, some err) => ("", some err)
  | (nodeID, none) => (nodeID, none)

/-- `getNodeIDMetdataService`. -/
def getNodeIDMetdataService (env : IdSources) : String × Option String :=
  match OpenStack.getInstanceID env.metadataResponse env.unmarshal with
  | (_, some err) => ("", some err)
  | (nodeID, none) => (nodeID, none)

/-- `getNodeID`: the mount provider's answer unless it is an error with no id; then the metadata
service's. -/
def getNodeID (env : IdSources) : String × Option String :=
  match getNodeIDMountProvider env with
  | (nodeID, err) =>
    if err = none ∨ nodeID ≠ "" then (nodeID, none)
    else
      match getNodeIDMetdataService env with
      | (_, some err) => ("", some err)
      | (nodeID, none) => (nodeID, none)

/-- The body that `NodeGetId` and `NodeGetInfo` share: the node's id, or `getNodeID`'s error. -/
def nodeIdResponse (env : IdSources) : Except String String :=
  match getNodeID env with
  | (_, some err) => .error err
  | (nodeID, none) => .ok nodeID

/-- `NodeGetId`. -/
def nodeGetId (env : IdSources) : Except String String := nodeIdResponse env

/-- `NodeGetInfo`. -/
def nodeGetInfo (env : IdSources) : Except String String := nodeIdResponse env

/-- The mount provider answers with the trimmed file content and no error when the file is read,
and with no id and the read's error otherwise. -/
theorem getNodeIDMountProvider_eq (env : IdSources) :
    getNodeIDMountProvider env = match env.instanceIDFile with
      | .ok content => (String.mk (Go.trimSpace content.toList), none)
      | .error err => ("", some err) := by
  unfold getNodeIDMountProvider Mount.getInstanceID
  cases env.instanceIDFile with
  | ok content =>
    dsimp only
    split_ifs with hb
    · rfl
    · rw [not_not.mp hb]
  | error err => rfl

/-- A readable file that holds only white space gives the empty id with no error, whatever the
metadata service would answer, and `NodeGetId` answers with the empty id. -/
theorem getNodeID_of_blank_file {env : IdSources} {content : String}
    (hf : env.instanceIDFile = .ok content) (hb : Go.trimSpace content.toList = []) :
    getNodeID env = ("", none) ∧ nodeGetId env = .ok "" := by
  have h : getNodeID env = ("", none) := by
    rw [getNodeID, getNodeIDMountProvider_eq, hf]
    simp only [hb]
    rfl
  exact ⟨h, by simp [nodeGetId, nodeIdResponse, h]⟩

/-- A metadata service that answers with a valid id. -/
def answeringSources (instanceIDFile : Except String String) : IdSources where
  instanceIDFile := instanceIDFile
  metadataResponse := .ok ⟨200, .ok "uuid-of-node"⟩
  unmarshal md := if md = "uuid-of-node" then (⟨"i-0001"⟩, none) else (⟨""⟩, some "bad json")

/-- An instance-id file that holds a newline: the metadata service would answer `i-0001`, but
the node's id is empty, with no error. -/
theorem getNodeID_newline_file :
    getNodeIDMetdataService (answeringSources (.ok "\n")) = ("i-0001", none) ∧
      (answeringSources (.ok "\n")).instanceIDFile = .ok "\n" ∧
      Go.trimSpace "\n".toList = [] ∧
      getNodeID (answeringSources (.ok "\n")) = ("", none) ∧
      nodeGetId (answeringSources (.ok "\n")) = .ok "" :=
  ⟨by decide, rfl, by decide, @getNodeID_of_blank_file (answeringSources (.ok "\n")) "\n" rfl (by decide)⟩

/-- `getNodeID` answers with the empty id and no error exactly when the file is readable and
blank, or unreadable with a metadata answer that decodes to an empty `uuid` without error. -/
theorem getNodeID_eq_empty_iff (env : IdSources) :
    getNodeID env = ("", none) ↔
      (∃ content, env.instanceIDFile = .ok content ∧ Go.trimSpace content.toList = []) ∨
      (∃ err, env.instanceIDFile = .error err ∧
        OpenStack.getInstanceID env.metadataResponse env.unmarshal = ("", none)) := by
  unfold getNodeID getNodeIDMetdataService
  rw [getNodeIDMountProvider_eq]
  cases hf : env.instanceIDFile with
  | ok content =>
    simp only [true_or, if_true, Prod.mk.injEq, and_true, reduceCtorEq, false_and, exists_false,
      or_false, Except.ok.injEq, exists_eq_left']
    constructor
    · intro h
      simpa using congrArg String.data h
    · intro h
      rw [h]
  | error err =>
    simp only [reduceCtorEq, false_and, exists_false, Except.error.injEq, exists_eq_left',
      false_or, ne_eq, not_true_eq_false, or_self, if_false]
    rcases OpenStack.getInstanceID env.metadataResponse env.unmarshal with ⟨id, _ | e⟩ <;> simp

end NodeServer

end CinderCsi
