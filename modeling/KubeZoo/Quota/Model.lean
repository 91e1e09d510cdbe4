import KubeZoo.Convert.Reference
import KubeZoo.Lib.Fallible
import KubeZoo.Lib.Table

/-! # Cluster quotas -/

namespace KubeZoo.Quota

open Calls

/-- The entries of a `corev1.ResourceList`. Quantities are counted in one unit. -/
abbrev Quantities := Std.ExtTreeMap String Int compare

/-- `corev1.ResourceList`, which can be nil. -/
abbrev ResourceList := Option Quantities

namespace ResourceList

def entries (l : ResourceList) : Quantities := l.getD ∅

def quantity (l : ResourceList) (resource : String) : Int := (l.entries[resource]?).getD 0

def add (a b : ResourceList) : ResourceList :=
  some (b.entries ∪ a.entries.map fun resource q => q + b.quantity resource)

/-- `quotautil.Equals`, and `Semantic.DeepEqual`: nil is the same as empty. -/
def equals (a b : ResourceList) : Bool := a.entries = b.entries

def stored : ResourceList → ResourceList
  | none => none
  | some m => if m.isEmpty then none else some m

end ResourceList

/-- `corev1.ScopedResourceSelectorRequirement`. -/
structure ScopeRequirement where
  scopeName : String := ""
  operator : String := ""
  values : List String := []
deriving DecidableEq

structure ResourceQuotaSpec where
  hard : ResourceList := none
  scopes : List String := []
  scopeSelector : Option (List ScopeRequirement) := none
deriving DecidableEq

structure ResourceQuotaStatus where
  hard : ResourceList := none
  used : ResourceList := none
deriving DecidableEq

/-- `Semantic.DeepEqual`. -/
def ResourceQuotaSpec.equals (a b : ResourceQuotaSpec) : Bool :=
  a.hard.equals b.hard && a.scopes = b.scopes && a.scopeSelector = b.scopeSelector

def ResourceQuotaSpec.stored (spec : ResourceQuotaSpec) : ResourceQuotaSpec :=
  { spec with hard := spec.hard.stored }

def ResourceQuotaStatus.equals (a b : ResourceQuotaStatus) : Bool :=
  a.hard.equals b.hard && a.used.equals b.used

def ResourceQuotaStatus.stored (status : ResourceQuotaStatus) : ResourceQuotaStatus :=
  { hard := status.hard.stored, used := status.used.stored }

/-- The part of `metav1.OwnerReference` that says who controls an object. -/
structure ControllerReference extends OwnerReference where
  uid : String := ""
  controller : Bool := false
deriving DecidableEq

def getControllerOf (refs : List ControllerReference) : Option ControllerReference :=
  refs.find? (·.controller)

structure ResourceQuota where
  «namespace» : String := ""
  name : String := ""
  generateName : String := ""
  labels : StringMap := ∅
  ownerReferences : List ControllerReference := []
  spec : ResourceQuotaSpec := {}
  status : ResourceQuotaStatus := {}
deriving DecidableEq

namespace ResourceQuota

def key (q : ResourceQuota) : String × String := (q.namespace, q.name)

/-- `metav1.GetControllerOf`. -/
def controller (q : ResourceQuota) : Option ControllerReference := getControllerOf q.ownerReferences

/-- `Semantic.DeepEqual`. -/
def equals (a b : ResourceQuota) : Bool :=
  a.key = b.key && a.generateName = b.generateName && a.labels = b.labels &&
    a.ownerReferences = b.ownerReferences && a.spec.equals b.spec && a.status.equals b.status

def updated (q old : ResourceQuota) : ResourceQuota :=
  { q with spec := q.spec.stored, status := old.status }

end ResourceQuota

/-- `metav1.LabelSelectorRequirement`. -/
structure SelectorRequirement where
  key : String := ""
  operator : String := ""
  values : List String := []
deriving DecidableEq

structure LabelSelector where
  matchLabels : StringMap := ∅
  matchExpressions : List SelectorRequirement := []
deriving DecidableEq

structure ClusterResourceQuota where
  name : String
  uid : String := ""
  spec : ResourceQuotaSpec := {}
  namespaceSelector : Option LabelSelector := none
  namespaces : List String := []
  status : ResourceQuotaStatus := {}
deriving DecidableEq

/-- `Semantic.DeepEqual`. -/
def ClusterResourceQuota.equals (a b : ClusterResourceQuota) : Bool :=
  a.name = b.name && a.uid = b.uid && a.spec.equals b.spec &&
    a.namespaceSelector = b.namespaceSelector && a.namespaces = b.namespaces &&
    a.status.equals b.status

def ClusterResourceQuota.statusOf (Q old : ClusterResourceQuota) : ClusterResourceQuota :=
  { old with status := Q.status.stored }

structure Namespace where
  name : String
  labels : StringMap := ∅
deriving DecidableEq

def clusterResourceQuotaKind : String := "ClusterResourceQuota"

def labelClusterResourceQuotaAutoUpdate : String :=
  "clusterresourcequota.quota.kubezoo.io/autoupdate"

def newControllerRef (Q : ClusterResourceQuota) : ControllerReference :=
  { apiVersion := "quota.kubezoo.io/v1alpha1", kind := clusterResourceQuotaKind, name := Q.name
    uid := Q.uid, controller := true }

/-- What the apiserver stores, as the controllers see it. -/
structure State where
  clusterQuotas : Table ClusterResourceQuota.name
  namespaces : List Namespace
  quotas : Table ResourceQuota.key

inductive Call
  | getClusterQuota (name : String)
  | listNamespaces (selector : StringMap → Bool)
  | getNamespace (name : String)
  | listQuotas (ns label value : String)
  | getQuota (key : String × String)
  | createQuota (q : ResourceQuota)
  | updateQuota (q : ResourceQuota)
  | deleteQuota (key : String × String)
  | updateClusterQuotaStatus (Q : ClusterResourceQuota)

namespace Call

abbrev Result : Call → Type
  | getClusterQuota _ => ClusterResourceQuota
  | listNamespaces _ => List Namespace
  | getNamespace _ => Namespace
  | listQuotas _ _ _ => List ResourceQuota
  | getQuota _ => ResourceQuota
  | createQuota _ => ResourceQuota
  | updateQuota _ => ResourceQuota
  | deleteQuota _ => Unit
  | updateClusterQuotaStatus _ => ClusterResourceQuota

def isWrite : Call → Bool
  | createQuota _ | updateQuota _ | deleteQuota _ | updateClusterQuotaStatus _ => true
  | _ => false

end Call

/-- What the apiserver does beyond the rules below: which calls it refuses, and what it appends to a
`generateName`. -/
structure Apiserver where
  deny : State → Call → Option GoError := fun _ _ => none
  suffix : State → String

def quotaNotFound (name : String) : GoError := .status (newNotFound "" "resourcequotas" name)

def clusterQuotaNotFound (name : String) : GoError :=
  .status (newNotFound "quota.kubezoo.io" "clusterresourcequotas" name)

namespace State

def listed (S : State) (ns label value : String) : List ResourceQuota :=
  S.quotas.rows.filter fun q => (ns = "" || q.namespace = ns) && q.labels[label]? = some value

def created (srv : Apiserver) (S : State) (q : ResourceQuota) : ResourceQuota :=
  { q with
    name := if q.name = "" then q.generateName ++ srv.suffix S else q.name
    spec := q.spec.stored
    status := {} }

def create (srv : Apiserver) (S : State) (q : ResourceQuota) : State × Except GoError ResourceQuota :=
  match S.quotas.find? (S.created srv q).key with
  | some old => (S, .error (.status (newAlreadyExists "" "resourcequotas" old.name)))
  | none => ({ S with quotas := S.quotas.insert (S.created srv q) }, .ok (S.created srv q))

def update (S : State) (q : ResourceQuota) : State × Except GoError ResourceQuota :=
  match S.quotas.find? q.key with
  | none => (S, .error (quotaNotFound q.name))
  | some old => ({ S with quotas := S.quotas.replace (q.updated old) }, .ok (q.updated old))

def delete (S : State) (key : String × String) : State × Except GoError Unit :=
  match S.quotas.find? key with
  | none => (S, .error (quotaNotFound key.2))
  | some _ => ({ S with quotas := S.quotas.erase key }, .ok ())

def updateStatus (S : State) (Q : ClusterResourceQuota) :
    State × Except GoError ClusterResourceQuota :=
  match S.clusterQuotas.find? Q.name with
  | none => (S, .error (clusterQuotaNotFound Q.name))
  | some old =>
    ({ S with clusterQuotas := S.clusterQuotas.replace (Q.statusOf old) }, .ok (Q.statusOf old))

def answer (srv : Apiserver) (S : State) : (c : Call) → State × Answer GoError Call.Result c
  | .getClusterQuota name =>
    (S, (S.clusterQuotas.find? name).elim (.error (clusterQuotaNotFound name)) .ok)
  | .listNamespaces selector => (S, .ok (S.namespaces.filter (selector ·.labels)))
  | .getNamespace name =>
    (S, (S.namespaces.find? (·.name = name)).elim
      (.error (.status (newNotFound "" "namespaces" name))) .ok)
  | .listQuotas ns label value => (S, .ok (S.listed ns label value))
  | .getQuota key => (S, (S.quotas.find? key).elim (.error (quotaNotFound key.2)) .ok)
  | .createQuota q => S.create srv q
  | .updateQuota q => S.update q
  | .deleteQuota key => S.delete key
  | .updateClusterQuotaStatus Q => S.updateStatus Q

end State

def serve (srv : Apiserver) : Calls.Server State Call (Answer GoError Call.Result) := fun S c =>
  match srv.deny S c with
  | some e => (S, .error e)
  | none => S.answer srv c

abbrev Client (α : Type) := Fallible Call Call.Result GoError α

namespace Call

abbrev send (c : Call) : Client c.Result := Fallible.send c

abbrev attempt (c : Call) : Client Unit := Fallible.attempt c

abbrev find (c : Call) : Client (Option c.Result) := Fallible.find GoError.isNotFound c

end Call

/-- What `UpdateOnConflict` is given of an object: its key, `Semantic.DeepEqual`, and how it is read
and written. -/
structure Updater (α : Type) where
  key : α → String × String
  equals : α → α → Bool
  get : String × String → Client α
  update : α → Client α

namespace Updater

variable {α : Type} (u : Updater α) (f : α → α)

def mutate (key : String × String) (obj : α) : Except GoError α :=
  if u.key (f obj) = key then .ok (f obj)
  else .error (.plain "mutateFn cannot mutate object name and/or object namespace")

def tryUpdate (key : String × String) (obj : Option α) : Client α := do
  let existing ← (match obj with
    | some obj => pure obj
    | none => u.get key)
  let obj ← Fallible.ofExcept (u.mutate f key existing)
  if u.equals existing obj then return obj else u.update obj

def retryOnConflict (key : String × String) : (steps : ℕ) → Option α → Client α
  | 0, _ => throw (.plain "timed out waiting for the condition")
  | steps + 1, obj => tryCatch (u.tryUpdate f key obj) fun e =>
    if e.isConflict && steps != 0 then retryOnConflict key steps none else throw e

/-- `UpdateOnConflict` with `DefaultRetry`. -/
def updateOnConflict (obj : α) : Client α := u.retryOnConflict f (u.key obj) 5 (some obj)

end Updater

/-- The reads of the API reader, and `ObjectUpdater`. -/
def objectUpdater : Updater ResourceQuota where
  key := ResourceQuota.key
  equals := ResourceQuota.equals
  get key := (Call.getQuota key).send
  update q := (Call.updateQuota q).send

/-- The reads of the API reader, and `StatusUpdater`. -/
def statusUpdater : Updater ClusterResourceQuota where
  key Q := ("", Q.name)
  equals := ClusterResourceQuota.equals
  get key := (Call.getClusterQuota key.2).send
  update Q := (Call.updateClusterQuotaStatus Q).send

structure Reconciler where
  clusterResourceQuotaCreatedby : String
  createdby_ne : clusterResourceQuotaCreatedby ≠ labelClusterResourceQuotaAutoUpdate
  labelSelectorAsSelector : LabelSelector → Except GoError (StringMap → Bool)

namespace Reconciler

variable (r : Reconciler)

def existing : List String → Client (List String)
  | [] => return []
  | name :: names => do
    match ← (Call.getNamespace name).find with
    | none => existing names
    | some _ => return name :: (← existing names)

def selected : Option LabelSelector → Client (List String)
  | none => return []
  | some labelSelector => do
    let selector ← Fallible.ofExcept (r.labelSelectorAsSelector labelSelector)
    let nsList ← (Call.listNamespaces selector).send
    return nsList.map Namespace.name

/-- `GetNamespacesForClusterQuota`: a set. -/
def getNamespacesForClusterQuota (Q : ClusterResourceQuota) : Client (List String) := do
  let selected ← r.selected Q.namespaceSelector
  let names ← existing Q.namespaces
  return (selected ++ names).dedup

/-- `GetResourceQuotaForClusterQuota`: the namespaces that hold a quota with the label, and their
quotas. -/
def getResourceQuotaForClusterQuota (Q : ClusterResourceQuota) :
    Client (List String × (String → List ResourceQuota)) := do
  let quotaList ← (Call.listQuotas "" r.clusterResourceQuotaCreatedby Q.name).send
  return ((quotaList.map ResourceQuota.namespace).dedup,
    fun ns => quotaList.filter (·.namespace = ns))

def unlabelled (q : ResourceQuota) : ResourceQuota :=
  { q with labels := q.labels.erase r.clusterResourceQuotaCreatedby }

/-- The loop of `ensureResourceQuotaInNamespace`: the first quota that a ClusterResourceQuota
controls is kept, the others are deleted, and one that nothing or something else controls loses the
label. -/
def matchedQuota (matched : Option ResourceQuota) :
    List ResourceQuota → Client (Option ResourceQuota)
  | [] => return matched
  | quota :: quotas => do
    let owner := quota.controller
    if owner.any (·.kind ≠ clusterResourceQuotaKind) then
      (Call.updateQuota (r.unlabelled quota)).attempt
      matchedQuota matched quotas
    else if owner = none then
      (Call.updateQuota (r.unlabelled quota)).attempt
      matchedQuota matched quotas
    else if matched = none then
      matchedQuota (some quota) quotas
    else
      (Call.deleteQuota quota.key).attempt
      matchedQuota matched quotas

def withLabels (Q : ClusterResourceQuota) (labels : StringMap) : StringMap :=
  (labels.insert r.clusterResourceQuotaCreatedby Q.name).insert
    labelClusterResourceQuotaAutoUpdate "true"

def newQuota (Q : ClusterResourceQuota) (ns : String) : ResourceQuota :=
  { «namespace» := ns
    generateName := Q.name ++ "-"
    labels := r.withLabels Q ∅
    ownerReferences := [newControllerRef Q]
    spec := Q.spec }

def labelsDirty (Q : ClusterResourceQuota) (quota : ResourceQuota) : Bool :=
  quota.labels[r.clusterResourceQuotaCreatedby]?.getD "" ≠ Q.name ||
    quota.labels[labelClusterResourceQuotaAutoUpdate]?.getD "" ≠ "true"

def specDirty (Q : ClusterResourceQuota) (quota : ResourceQuota) : Bool :=
  !Q.spec.equals quota.spec

def repaired (Q : ClusterResourceQuota) (quota : ResourceQuota) : ResourceQuota :=
  { quota with spec := Q.spec, labels := r.withLabels Q quota.labels }

def ensureResourceQuotaInNamespace (Q : ClusterResourceQuota) (ns : String)
    (quotas : List ResourceQuota) : Client ResourceQuota := do
  match ← r.matchedQuota none quotas with
  | none => (Call.createQuota (r.newQuota Q ns)).send
  | some quota =>
    if specDirty Q quota || r.labelsDirty Q quota then
      objectUpdater.updateOnConflict (r.repaired Q) quota
    else return quota

/-- The loop of `Reconcile` over the namespaces that match. -/
def ensureAll (Q : ClusterResourceQuota) (quotas : String → List ResourceQuota) :
    List String → Client (List ResourceQuota)
  | [] => return []
  | ns :: namespaces => do
    let quota ← r.ensureResourceQuotaInNamespace Q ns (quotas ns)
    let expectedQuotas ← ensureAll Q quotas namespaces
    return quota :: expectedQuotas

/-- The loop of `Reconcile` over the quotas in other namespaces. -/
def deleteAll : List ResourceQuota → Client Unit
  | [] => return ()
  | quota :: quotas => do
    (Call.deleteQuota quota.key).attempt
    deleteAll quotas

/-- The status `syncStatus` computes. -/
def usage (Q : ClusterResourceQuota) (quotas : List ResourceQuota) : ResourceQuotaStatus :=
  { hard := ResourceList.add (some ∅) Q.spec.hard
    used := quotas.foldl (fun newUsage quota => newUsage.add quota.status.used) (some ∅) }

def statusDirty (Q : ClusterResourceQuota) (quotas : List ResourceQuota) : Bool :=
  !Q.spec.hard.equals Q.status.hard || Q.status.hard.isNone || Q.status.used.isNone ||
    !Q.status.used.equals (usage Q quotas).used

def syncStatus (Q : ClusterResourceQuota) (quotas : List ResourceQuota) : Client Unit :=
  if statusDirty Q quotas then do
    let _ ← statusUpdater.updateOnConflict (fun obj => { obj with status := usage Q quotas }) Q
    return ()
  else return ()

/-- `Reconcile`, once it has read the ClusterResourceQuota. -/
def reconcileQuota (Q : ClusterResourceQuota) : Client Unit := do
  let namespaces ← r.getNamespacesForClusterQuota Q
  let (quotaNamespaces, quotas) ← r.getResourceQuotaForClusterQuota Q
  let expectedQuotas ← r.ensureAll Q quotas (sortStrings namespaces)
  let unmatched := quotaNamespaces.filter (· ∉ namespaces)
  deleteAll ((sortStrings unmatched).flatMap quotas)
  syncStatus Q expectedQuotas

def reconcile (name : String) : Client Unit := do
  match ← (Call.getClusterQuota name).find with
  | none => return ()
  | some Q => r.reconcileQuota Q

end Reconciler

/-- The loop of `GetQuotas`: a quota that a ClusterResourceQuota controls is shown with the status of
that one. -/
def withClusterStatus : List ResourceQuota → Client (List ResourceQuota)
  | [] => return []
  | quota :: quotas => do
    match quota.controller with
    | none => withClusterStatus quotas
    | some owner =>
      if owner.kind ≠ clusterResourceQuotaKind then withClusterStatus quotas
      else
        match ← (Call.getClusterQuota owner.name).find with
        | none => withClusterStatus quotas
        | some Q =>
          return { quota with status := Q.status, name := "clusterresourcequota/" ++ Q.name } ::
            (← withClusterStatus quotas)

def getQuotas (ns : String) : Client (List ResourceQuota) := do
  let quotaList ← (Call.listQuotas ns labelClusterResourceQuotaAutoUpdate "true").send
  withClusterStatus quotaList

def updateQuotaStatus (_newQuota : ResourceQuota) : Client Unit := return ()

end KubeZoo.Quota
