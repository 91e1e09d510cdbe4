import KubeZoo.Lib.Calls
import KubeZoo.Proxy.GuaranteedUpdate

/-! # RoleBindings upstream -/

namespace KubeZoo

/-- What a binding holds beside the metadata every object has. `deletionTimestamp` says whether it
is set. -/
structure BindingBody where
  finalizers : List String := []
  deletionTimestamp : Bool := false
  creationTimestamp : String := ""
  managedFields : List String := []
  ownerReferences : List OwnerReference := []
  roleRef : RoleRef := {}
  subjects : List Subject := []
deriving DecidableEq

/-- `rbac.RoleBinding`, and `rbac.ClusterRoleBinding`, which has the same fields. -/
abbrev Binding := Object BindingBody

inductive Call
  | listNamespaces
  | list (ns : String) (options : ListOptions)
  | get (ns name : String)
  | create (ns : String) (b : Binding) (options : WriteOptions)
  | update (ns : String) (b : Binding) (options : WriteOptions)
  | apply (ns : String) (b : Binding) (options : WriteOptions)
  | delete (ns name : String) (options : DeleteOptions)
deriving DecidableEq

namespace Call

/-- What a call that succeeds is answered with. An update says whether it created the object, and a
delete answers with a `Status` if the object is gone. -/
abbrev Result : Call → Type
  | listNamespaces => List String
  | list _ _ => List Binding
  | get _ _ => Binding
  | create _ _ _ => Binding
  | update _ _ _ => Binding × Bool
  | apply _ _ _ => Binding
  | delete _ _ _ => Option Binding

abbrev Reply (c : Call) : Type := Except GoError c.Result

instance : (c : Call) → DecidableEq c.Result
  | listNamespaces => inferInstanceAs (DecidableEq (List String))
  | list _ _ => inferInstanceAs (DecidableEq (List Binding))
  | get _ _ => inferInstanceAs (DecidableEq Binding)
  | create _ _ _ => inferInstanceAs (DecidableEq Binding)
  | update _ _ _ => inferInstanceAs (DecidableEq (Binding × Bool))
  | apply _ _ _ => inferInstanceAs (DecidableEq Binding)
  | delete _ _ _ => inferInstanceAs (DecidableEq (Option Binding))

def ns : Call → String
  | listNamespaces => ""
  | list ns _ => ns
  | get ns _ => ns
  | create ns _ _ => ns
  | update ns _ _ => ns
  | apply ns _ _ => ns
  | delete ns _ _ => ns

def sentName : Call → Option String
  | create _ b _ => some b.metadata.name
  | update _ b _ => some b.metadata.name
  | apply _ b _ => some b.metadata.name
  | _ => none

end Call

structure Cluster where
  namespaces : List String
  nodup : namespaces.Nodup
  bindings : String → Std.ExtTreeMap String Binding compare
  revision : ℕ

/-- What the apiserver does beyond the rules below: whether it refuses a call, what it appends to a
`generateName`, what an apply makes of a stored object, what a selector chooses, and whether an
update creates what is missing. -/
structure Apiserver where
  deny : Cluster → Call → Option GoError := fun _ _ => none
  suffix : Cluster → String
  merge : Option Binding → Binding → Except GoError Binding
  selects : ListOptions → Binding → Bool
  createsOnUpdate : Bool := true

/-- Upstream denies no call. -/
def Apiserver.Permits (srv : Apiserver) : Prop := ∀ S c, srv.deny S c = none

def bindingNotFound (name : String) : GoError :=
  .status (newNotFound "rbac.authorization.k8s.io" "rolebindings" name)

namespace Cluster

def binding (S : Cluster) (ns name : String) : Option Binding := (S.bindings ns)[name]?

def set (S : Cluster) (ns name : String) (b : Option Binding) : Cluster :=
  { S with
    bindings := Function.update S.bindings ns ((S.bindings ns).alter name fun _ => b)
    revision := S.revision + 1 }

def nextVersion (S : Cluster) : String := formatUint (S.revision + 1)

def resolvedName (srv : Apiserver) (S : Cluster) (b : Binding) : String :=
  if b.metadata.name = "" then b.metadata.generateName ++ srv.suffix S else b.metadata.name

def created (S : Cluster) (ns name : String) (b : Binding) : Binding :=
  { b with
    metadata := { b.metadata with
      name := name, «namespace» := ns, uid := S.nextVersion, resourceVersion := S.nextVersion }
    body := { b.body with deletionTimestamp := false, creationTimestamp := S.nextVersion } }

def create (srv : Apiserver) (S : Cluster) (ns : String) (b : Binding) (dryRun : Bool) :
    Cluster × Except GoError Binding :=
  if b.metadata.name = "" ∧ b.metadata.generateName = "" then
    (S, .error (.status (newInvalid "rbac.authorization.k8s.io" "RoleBinding" ""
      (fieldRequired "metadata.name" "name or generateName is required"))))
  else if b.metadata.resourceVersion ≠ "" then
    (S, .error (.status (newBadRequest "resourceVersion should not be set on objects to be created")))
  else
    let name := resolvedName srv S b
    match S.binding ns name with
    | some _ => (S, .error (.status (newAlreadyExists "rbac.authorization.k8s.io" "rolebindings" name)))
    | none =>
      (if dryRun then S else S.set ns name (some (S.created ns name b)), .ok (S.created ns name b))

def admitUpdate (old b : Binding) : Except GoError Binding :=
  let conflict := fun message => Except.error (.status (newConflict "rbac.authorization.k8s.io"
    "rolebindings" b.metadata.name message))
  if b.metadata.resourceVersion ≠ "" ∧ b.metadata.resourceVersion ≠ old.metadata.resourceVersion then
    conflict optimisticLockErrorMsg
  else if b.metadata.uid ≠ "" ∧ b.metadata.uid ≠ old.metadata.uid then
    conflict "Precondition failed: UID in precondition"
  else if b.body.roleRef ≠ old.body.roleRef then
    .error (.status (newInvalid "rbac.authorization.k8s.io" "RoleBinding" b.metadata.name
      ("roleRef: Invalid value: " ++ quoted b.body.roleRef.name ++ ": cannot change roleRef")))
  else
    .ok { b with
      metadata := { b.metadata with
        «namespace» := old.metadata.namespace, uid := old.metadata.uid
        resourceVersion := old.metadata.resourceVersion }
      body := { b.body with
        deletionTimestamp := old.body.deletionTimestamp
        creationTimestamp := old.body.creationTimestamp
        managedFields := if b.body.managedFields = [] then old.body.managedFields
          else b.body.managedFields } }

def commit (S : Cluster) (ns name : String) (old new : Binding) : Cluster × Binding :=
  if old.body.deletionTimestamp ∧ new.body.finalizers = [] then (S.set ns name none, new)
  else if new = old then (S, old)
  else
    let stored := { new with metadata := { new.metadata with resourceVersion := S.nextVersion } }
    (S.set ns name (some stored), stored)

def update (srv : Apiserver) (S : Cluster) (ns : String) (b : Binding) (dryRun : Bool) :
    Cluster × Except GoError (Binding × Bool) :=
  match S.binding ns b.metadata.name with
  | none =>
    if srv.createsOnUpdate ∧ b.metadata.resourceVersion = "" ∧ b.metadata.name ≠ "" then
      ((S.create srv ns b dryRun).1, (S.create srv ns b dryRun).2.map (·, true))
    else (S, .error (bindingNotFound b.metadata.name))
  | some old =>
    match admitUpdate old b with
    | .error e => (S, .error e)
    | .ok new =>
      if dryRun then (S, .ok (new, false))
      else ((S.commit ns b.metadata.name old new).1,
        .ok ((S.commit ns b.metadata.name old new).2, false))

def mergedAs (merged : Binding) (name : String) : Binding :=
  { merged with metadata := { merged.metadata with name := name, resourceVersion := "" } }

def apply (srv : Apiserver) (S : Cluster) (ns : String) (b : Binding) (dryRun : Bool) :
    Cluster × Except GoError Binding :=
  if b.metadata.name = "" then (S, .error (.plain "name is required"))
  else
    match srv.merge (S.binding ns b.metadata.name) b with
    | .error e => (S, .error e)
    | .ok merged =>
      let sent := mergedAs merged b.metadata.name
      match S.binding ns b.metadata.name with
      | none => S.create srv ns sent dryRun
      | some _ => ((S.update srv ns sent dryRun).1, (S.update srv ns sent dryRun).2.map Prod.fst)

def marked (S : Cluster) (b : Binding) (finalizers : List String) : Binding :=
  { b with
    metadata := { b.metadata with resourceVersion := S.nextVersion }
    body := { b.body with deletionTimestamp := true, finalizers := finalizers } }

def delete (S : Cluster) (ns name : String) (options : DeleteOptions) :
    Cluster × Except GoError (Option Binding) :=
  match S.binding ns name with
  | none => (S, .error (bindingNotFound name))
  | some old =>
    let finalizers := old.body.finalizers ++ options.propagation.toList
    if finalizers = [] then
      (if options.isDryRun then S else S.set ns name none, .ok none)
    else if old.body.deletionTimestamp ∧ finalizers = old.body.finalizers then
      (S, .ok (some old))
    else
      (if options.isDryRun then S else S.set ns name (some (S.marked old finalizers)),
        .ok (some (S.marked old finalizers)))

def answer (srv : Apiserver) (S : Cluster) : (c : Call) → Cluster × c.Reply
  | .listNamespaces => (S, .ok S.namespaces)
  | .list ns options =>
    (S, .ok ((S.bindings ns).toList.map Prod.snd |>.filter (srv.selects options)))
  | .get ns name =>
    (S, match S.binding ns name with
      | none => .error (bindingNotFound name)
      | some b => .ok b)
  | .create ns b options => S.create srv ns b options.isDryRun
  | .update ns b options => S.update srv ns b options.isDryRun
  | .apply ns b options => S.apply srv ns b options.isDryRun
  | .delete ns name options => S.delete ns name options

def serve (srv : Apiserver) : Calls.Server Cluster Call Call.Reply := fun S c =>
  match srv.deny S c with
  | some e => (S, .error e)
  | none => S.answer srv c

variable {S : Cluster} {srv : Apiserver} {ns name : String} {b : Binding}

variable {o : Option Binding} {name' ns' : String}

lemma binding_set :
    (S.set ns name o).binding ns' name' =
      if ns' = ns ∧ name' = name then o else S.binding ns' name' := by
  unfold set binding
  by_cases hns : ns' = ns
  · subst hns
    by_cases hname : name' = name
    · subst hname; simp
    · have hne : ¬ name = name' := fun h => hname h.symm
      simp [Std.ExtTreeMap.getElem?_alter, hne, hname]
  · simp [hns]

@[simp] lemma binding_set_self : (S.set ns name o).binding ns name = o := by
  rw [binding_set, if_pos ⟨rfl, rfl⟩]

lemma binding_set_of_ne (h : ¬ (ns' = ns ∧ name' = name)) :
    (S.set ns name o).binding ns' name' = S.binding ns' name' := by
  rw [binding_set, if_neg h]

lemma serve_of_permits (hsrv : srv.Permits) (c : Call) : serve srv S c = S.answer srv c := by
  unfold serve
  rw [hsrv S c]

/-- Bindings are stored under their names. -/
def Keyed (S : Cluster) : Prop :=
  ∀ ns name b, S.binding ns name = some b → b.metadata.name = name ∧ name ≠ ""

structure SameOutside (K : String → String → Prop) (S S' : Cluster) : Prop where
  namespaces : S'.namespaces = S.namespaces
  binding : ∀ ns name, ¬ K ns name → S'.binding ns name = S.binding ns name

namespace SameOutside

variable {K K' : String → String → Prop} {S' S'' : Cluster}

lemma refl (K : String → String → Prop) (S : Cluster) : SameOutside K S S :=
  ⟨rfl, fun _ _ _ => rfl⟩

lemma trans (h : SameOutside K S S') (h' : SameOutside K S' S'') : SameOutside K S S'' :=
  ⟨h'.namespaces.trans h.namespaces,
    fun ns name hK => (h'.binding ns name hK).trans (h.binding ns name hK)⟩

lemma mono (h : SameOutside K S S') (hK : ∀ ns name, K ns name → K' ns name) :
    SameOutside K' S S' :=
  ⟨h.namespaces, fun ns name hn => h.binding ns name fun hk => hn (hK ns name hk)⟩

end SameOutside

lemma sameOutside_set :
    SameOutside (fun ns' name' => ns' = ns ∧ name' = name) S (S.set ns name o) :=
  ⟨rfl, fun _ _ h => binding_set_of_ne h⟩

/-- What a write of `sent` in a namespace comes to, and the binding it is answered with. -/
inductive Wrote (S : Cluster) (ns : String) (sent : Binding) : Cluster → Binding → Prop
  | created {b : Binding} (hsent : sent.metadata.name ≠ "" → b.metadata.name = sent.metadata.name)
      (hname : b.metadata.name ≠ "")
      (hnone : S.binding ns b.metadata.name = none)
      (hmark : b.body.deletionTimestamp = false)
      (hfinalizers : b.body.finalizers = sent.body.finalizers) :
      Wrote S ns sent (S.set ns b.metadata.name (some b)) b
  | changed {old b : Binding} (hsent : b.metadata.name = sent.metadata.name)
      (hold : S.binding ns b.metadata.name = some old)
      (hrole : b.body.roleRef = old.body.roleRef)
      (hmark : b.body.deletionTimestamp = old.body.deletionTimestamp)
      (hkept : old.body.deletionTimestamp = true → b.body.finalizers ≠ [])
      (hfinalizers : b.body.finalizers = sent.body.finalizers) :
      Wrote S ns sent (S.set ns b.metadata.name (some b)) b
  | same {b : Binding} (hsent : b.metadata.name = sent.metadata.name)
      (hold : S.binding ns b.metadata.name = some b)
      (hkept : b.body.deletionTimestamp = true → b.body.finalizers ≠ [])
      (hfinalizers : b.body.finalizers = sent.body.finalizers) : Wrote S ns sent S b
  | emptied {old b : Binding} (hsent : b.metadata.name = sent.metadata.name)
      (hold : S.binding ns b.metadata.name = some old)
      (hmark : old.body.deletionTimestamp = true) (hempty : sent.body.finalizers = []) :
      Wrote S ns sent (S.set ns b.metadata.name none) b

section

variable {dryRun : Bool} {S' : Cluster}

lemma Wrote.named {sent : Binding} (h : Wrote S ns sent S' b) (hname : sent.metadata.name ≠ "") :
    b.metadata.name = sent.metadata.name := by
  cases h with
  | created hsent => exact hsent hname
  | changed hsent | same hsent | emptied hsent => exact hsent

lemma resolvedName_ne (h : ¬ (b.metadata.name = "" ∧ b.metadata.generateName = "")) :
    resolvedName srv S b ≠ "" := by
  unfold resolvedName
  split_ifs with hname
  · intro hempty
    have hlist := congrArg String.toList hempty
    rw [String.toList_append, String.toList_empty, List.append_eq_nil_iff] at hlist
    exact h ⟨hname, String.toList_eq_nil_iff.mp hlist.1⟩
  · exact hname

variable {b' new old : Binding} {e : GoError}

lemma create_ok (h : S.create srv ns b dryRun = (S', .ok b')) :
    b' = S.created ns (resolvedName srv S b) b ∧ resolvedName srv S b ≠ "" ∧
      S.binding ns (resolvedName srv S b) = none ∧
      S' = if dryRun then S else S.set ns (resolvedName srv S b) (some b') := by
  unfold create at h
  split at h
  · cases h
  · next hnames =>
    split at h
    · cases h
    · simp only at h
      split at h
      · cases h
      · next hnone =>
        obtain ⟨rfl, hb⟩ := Prod.mk.inj h
        obtain rfl := Except.ok.inj hb
        exact ⟨rfl, resolvedName_ne hnames, hnone, rfl⟩

lemma create_error (h : S.create srv ns b dryRun = (S', .error e)) : S' = S := by
  unfold create at h
  split at h
  · exact (Prod.mk.inj h).1.symm
  · split at h
    · exact (Prod.mk.inj h).1.symm
    · simp only at h
      split at h
      · exact (Prod.mk.inj h).1.symm
      · cases h

lemma create_of_none (hname : b.metadata.name ≠ "") (hversion : b.metadata.resourceVersion = "")
    (hnone : S.binding ns b.metadata.name = none) :
    S.create srv ns b dryRun =
      (if dryRun then S else S.set ns b.metadata.name (some (S.created ns b.metadata.name b)),
        .ok (S.created ns b.metadata.name b)) := by
  have hresolved : resolvedName srv S b = b.metadata.name := if_neg hname
  unfold create
  rw [if_neg fun h => hname h.1, if_neg (not_not.mpr hversion)]
  simp only [hresolved, hnone]

lemma create_of_some (hname : b.metadata.name ≠ "") (hold : S.binding ns b.metadata.name = some
    old) :
    ∃ e, S.create srv ns b dryRun = (S, .error e) := by
  have hresolved : resolvedName srv S b = b.metadata.name := if_neg hname
  unfold create
  rw [if_neg fun h => hname h.1]
  by_cases hversion : b.metadata.resourceVersion ≠ ""
  · rw [if_pos hversion]
    exact ⟨_, rfl⟩
  · rw [if_neg hversion]
    simp only [hresolved, hold]
    exact ⟨_, rfl⟩

lemma wrote_create (h : S.create srv ns b false = (S', .ok b')) : Wrote S ns b S' b' := by
  obtain ⟨rfl, hname, hnone, rfl⟩ := create_ok h
  exact .created (b := S.created ns (resolvedName srv S b) b) (fun hb => if_neg hb) hname hnone rfl rfl

lemma admitUpdate_ok (h : admitUpdate old b = .ok new) :
    new.metadata.name = b.metadata.name ∧ new.body.roleRef = old.body.roleRef ∧
      new.body.deletionTimestamp = old.body.deletionTimestamp ∧
      new.body.finalizers = b.body.finalizers := by
  unfold admitUpdate at h
  split_ifs at h with _ _ hrole
  · obtain rfl := Except.ok.inj h
    exact ⟨rfl, not_not.mp hrole, rfl, rfl⟩
  · obtain rfl := Except.ok.inj h
    exact ⟨rfl, not_not.mp hrole, rfl, rfl⟩

variable (hold : S.binding ns b.metadata.name = some old) (hnew : admitUpdate old b = .ok new)

include hold hnew in
lemma wrote_commit :
    Wrote S ns b (S.commit ns b.metadata.name old new).1 (S.commit ns b.metadata.name old new).2 := by
  obtain ⟨hname, hrole, hmark, hfinalizers⟩ := admitUpdate_ok hnew
  rw [← hname] at hold ⊢
  unfold commit
  split_ifs with hempty heq
  · exact .emptied hname hold hempty.1 (hfinalizers ▸ hempty.2)
  · rw [← heq] at hold ⊢
    refine .same hname hold (fun h hnil => hempty ⟨?_, hnil⟩) hfinalizers
    rwa [heq] at h
  · refine .changed (b := { new with metadata := { new.metadata with
      resourceVersion := S.nextVersion } }) hname hold hrole hmark (fun h => ?_) hfinalizers
    exact fun hnil => hempty ⟨h, hnil⟩

include hold hnew in
lemma update_of_admitted :
    S.update srv ns b false = ((S.commit ns b.metadata.name old new).1,
      .ok ((S.commit ns b.metadata.name old new).2, false)) := by
  unfold update
  simp only [hold, hnew, Bool.false_eq_true, if_false]

include hold in
lemma update_of_refused (he : admitUpdate old b = .error e) :
    S.update srv ns b dryRun = (S, .error e) := by
  unfold update
  simp only [hold, he]

lemma answer_listNamespaces : S.answer srv .listNamespaces = (S, .ok S.namespaces) :=
  rfl

lemma answer_get_of_some (h : S.binding ns name = some b) :
    S.answer srv (.get ns name) = (S, .ok b) := by
  show (S, match S.binding ns name with
    | none => Except.error (bindingNotFound name)
    | some b => Except.ok b) = _
  rw [h]

lemma answer_get_of_none (h : S.binding ns name = none) :
    S.answer srv (.get ns name) = (S, .error (bindingNotFound name)) := by
  show (S, match S.binding ns name with
    | none => Except.error (bindingNotFound name)
    | some b => Except.ok b) = _
  rw [h]

lemma update_unchanged {x : Except GoError (Binding × Bool)}
    (h : S.update srv ns b dryRun = (S', x)) (hx : dryRun = true ∨ ∃ e, x = .error e) : S' = S := by
  unfold update at h
  split at h
  · split at h
    · obtain ⟨rfl, hxeq⟩ := Prod.mk.inj h
      cases hc : S.create srv ns b dryRun with
      | mk S₁ y =>
        cases y with
        | error e => exact create_error hc
        | ok b' =>
          obtain ⟨_, _, _, hS⟩ := create_ok hc
          obtain rfl | ⟨e, rfl⟩ := hx
          · simpa using hS
          · rw [hc] at hxeq
            cases hxeq
    · exact (Prod.mk.inj h).1.symm
  · split at h
    · exact (Prod.mk.inj h).1.symm
    · split at h
      · exact (Prod.mk.inj h).1.symm
      · next hdry =>
        obtain rfl | ⟨e, rfl⟩ := hx
        · exact absurd rfl hdry
        · cases h

lemma wrote_update {created : Bool} (h : S.update srv ns b false = (S', .ok (b', created))) :
    Wrote S ns b S' b' := by
  unfold update at h
  split at h
  · split at h
    · cases hc : S.create srv ns b false with
      | mk S₁ y =>
        rw [hc] at h
        cases y with
        | error e => cases h
        | ok b'' =>
          obtain ⟨rfl, hb⟩ := Prod.mk.inj h
          obtain rfl : b'' = b' := congrArg Prod.fst (Except.ok.inj hb)
          exact wrote_create hc
    · cases h
  · next old hold =>
    split at h
    · cases h
    · next new hnew =>
      obtain ⟨rfl, hb⟩ := Prod.mk.inj h
      obtain rfl := congrArg Prod.fst (Except.ok.inj hb)
      exact wrote_commit hold hnew

lemma apply_unchanged {x : Except GoError Binding} (h : S.apply srv ns b dryRun = (S', x))
    (hx : dryRun = true ∨ ∃ e, x = .error e) : S' = S := by
  unfold apply at h
  split at h
  · exact (Prod.mk.inj h).1.symm
  · split at h
    · exact (Prod.mk.inj h).1.symm
    · next merged hmerged =>
      simp only at h
      split at h
      · cases x with
        | error e => exact create_error h
        | ok b' =>
          obtain rfl | ⟨e, he⟩ := hx
          · exact (create_ok h).2.2.2
          · cases he
      · cases hu : S.update srv ns (mergedAs merged b.metadata.name) dryRun with
        | mk S₁ y =>
          rw [hu] at h
          obtain ⟨rfl, hxeq⟩ := Prod.mk.inj h
          refine update_unchanged hu (hx.imp_right fun ⟨e, he⟩ => ?_)
          -- The apply fails with the error of the update.
          cases y with
          | error e' => exact ⟨e', rfl⟩
          | ok y => rw [he] at hxeq; cases hxeq

lemma wrote_apply (h : S.apply srv ns b false = (S', .ok b')) :
    b'.metadata.name = b.metadata.name ∧
      ∃ merged, srv.merge (S.binding ns b.metadata.name) b = .ok merged ∧
        Wrote S ns (mergedAs merged b.metadata.name) S' b' := by
  unfold apply at h
  split at h
  · cases h
  · next hname =>
    split at h
    · cases h
    · next merged hmerged =>
      simp only at h
      split at h
      · exact ⟨(wrote_create h).named hname, merged, hmerged, wrote_create h⟩
      · cases hu : S.update srv ns (mergedAs merged b.metadata.name) false with
        | mk S₁ y =>
          rw [hu] at h
          cases y with
          | error e => cases h
          | ok y =>
            obtain ⟨rfl, hb⟩ := Prod.mk.inj h
            obtain rfl : y.1 = b' := Except.ok.inj hb
            exact ⟨(wrote_update hu).named hname, merged, hmerged, wrote_update hu⟩

lemma delete_cases (S : Cluster) (ns name : String) (options : DeleteOptions) :
    (S.binding ns name = none ∧ S.delete ns name options = (S, .error (bindingNotFound name))) ∨
    ∃ old, S.binding ns name = some old ∧ ∃ answer : Option Binding,
      (options.isDryRun = true ∧ S.delete ns name options = (S, .ok answer) ∨
      options.isDryRun = false ∧ old.body.finalizers ++ options.propagation.toList = [] ∧
        S.delete ns name options = (S.set ns name none, .ok answer) ∨
      old.body.deletionTimestamp = true ∧ old.body.finalizers ≠ [] ∧
        S.delete ns name options = (S, .ok answer) ∨
      options.isDryRun = false ∧ old.body.finalizers ++ options.propagation.toList ≠ [] ∧
        (old.body.deletionTimestamp = true → options.propagation ≠ none) ∧
        S.delete ns name options = (S.set ns name (some (S.marked old
          (old.body.finalizers ++ options.propagation.toList))), .ok answer)) := by
  unfold delete
  cases hold : S.binding ns name with
  | none => exact .inl ⟨rfl, rfl⟩
  | some old =>
    right
    refine ⟨old, rfl, ?_⟩
    simp only
    split_ifs with hempty hdry hmark hdry
    · exact ⟨_, .inl ⟨hdry, rfl⟩⟩
    · exact ⟨_, .inr (.inl ⟨by simpa using hdry, hempty, rfl⟩)⟩
    · exact ⟨_, .inr (.inr (.inl ⟨hmark.1, hmark.2 ▸ hempty, rfl⟩))⟩
    · exact ⟨_, .inl ⟨hdry, rfl⟩⟩
    · refine ⟨_, .inr (.inr (.inr ⟨by simpa using hdry, hempty, fun hold hnone => ?_, rfl⟩))⟩
      exact hmark ⟨hold, by rw [hnone]; exact List.append_nil _⟩

lemma delete_error {options : DeleteOptions} (h : S.delete ns name options = (S', .error e)) :
    S' = S := by
  obtain ⟨_, h'⟩ | ⟨_, _, _, ⟨_, h'⟩ | ⟨_, _, h'⟩ | ⟨_, _, h'⟩ | ⟨_, _, _, h'⟩⟩ :=
    delete_cases S ns name options
  · rw [h'] at h
    exact (Prod.mk.inj h).1.symm
  all_goals
    rw [h'] at h
    cases (Prod.mk.inj h).2

end

section

variable {S' : Cluster} {sent : Binding}

lemma Wrote.name_eq (h : Wrote S ns sent S' b) (hsent : sent.metadata.name ≠ "") :
    b.metadata.name = sent.metadata.name := by
  cases h with
  | created hname _ _ _ _ => exact hname hsent
  | changed hname _ _ _ _ _ | same hname _ _ _ | emptied hname _ _ _ => exact hname

lemma Wrote.sameOutside (h : Wrote S ns sent S' b) :
    SameOutside (fun ns' name' => ns' = ns ∧ name' = b.metadata.name) S S' := by
  cases h with
  | created _ _ _ _ _ | changed _ _ _ _ _ _ | emptied _ _ _ _ => exact sameOutside_set
  | same _ _ _ _ => exact .refl _ _

lemma sameOutside_delete (options : DeleteOptions) :
    SameOutside (fun ns' name' => ns' = ns ∧ name' = name) S (S.delete ns name options).1 := by
  obtain ⟨_, h⟩ | ⟨_, _, _, ⟨_, h⟩ | ⟨_, _, h⟩ | ⟨_, _, h⟩ | ⟨_, _, _, h⟩⟩ :=
    delete_cases S ns name options
  · rw [h]; exact .refl _ _
  · rw [h]; exact .refl _ _
  · rw [h]; exact sameOutside_set
  · rw [h]; exact .refl _ _
  · rw [h]; exact sameOutside_set

lemma Keyed.set (hS : S.Keyed)
    (ho : ∀ b, o = some b → b.metadata.name = name ∧ name ≠ "") : (S.set ns name o).Keyed := by
  intro ns' name' b' hb'
  rw [binding_set] at hb'
  split_ifs at hb' with hkey
  · rw [hkey.2]
    exact ho b' hb'
  · exact hS ns' name' b' hb'

lemma Keyed.wrote (hS : S.Keyed) (h : Wrote S ns sent S' b) : S'.Keyed := by
  cases h with
  | created _ hname _ _ _ =>
    refine hS.set fun b' hb' => ?_
    rw [← Option.some.inj hb']
    exact ⟨rfl, hname⟩
  | changed _ hold _ _ _ _ =>
    refine hS.set fun b' hb' => ?_
    rw [← Option.some.inj hb']
    exact ⟨rfl, (hS _ _ _ hold).2⟩
  | same _ _ _ _ => exact hS
  | emptied _ _ _ _ => exact hS.set fun _ hb' => nomatch hb'

lemma Keyed.delete (hS : S.Keyed) (options : DeleteOptions) : (S.delete ns name options).1.Keyed := by
  obtain ⟨_, h⟩ | ⟨old, hold, _, ⟨_, h⟩ | ⟨_, _, h⟩ | ⟨_, _, h⟩ | ⟨_, _, _, h⟩⟩ :=
    delete_cases S ns name options
  · rw [h]; exact hS
  · rw [h]; exact hS
  · rw [h]; exact hS.set fun _ hb' => nomatch hb'
  · rw [h]; exact hS
  · rw [h]
    refine hS.set fun b' hb' => ?_
    rw [← Option.some.inj hb']
    show old.metadata.name = name ∧ name ≠ ""
    exact hS _ _ _ hold

lemma answer_cases (S : Cluster) (srv : Apiserver) (c : Call) :
    (S.answer srv c).1 = S ∨
      (∃ sent b, c.sentName = some sent.metadata.name ∧ Wrote S c.ns sent (S.answer srv c).1 b) ∨
      c.sentName = none ∧ ∃ name options, (S.answer srv c).1 = (S.delete c.ns name options).1 := by
  cases c with
  | listNamespaces | list ns options | get ns name => exact .inl rfl
  | create ns b options =>
    show (S.create srv ns b options.isDryRun).1 = S ∨ _ ∨ _
    cases hx : S.create srv ns b options.isDryRun with
    | mk S' x =>
      cases x with
      | error e => exact .inl (create_error hx)
      | ok b' =>
        cases hdry : options.isDryRun with
        | true =>
          rw [hdry] at hx
          exact .inl (create_ok hx).2.2.2
        | false =>
          rw [hdry] at hx
          refine .inr (.inl ⟨b, b', rfl, ?_⟩)
          show Wrote S ns b (S.create srv ns b options.isDryRun).1 b'
          rw [hdry, hx]
          exact wrote_create hx
  | update ns b options =>
    cases hdry : options.isDryRun with
    | true => exact .inl (update_unchanged rfl (.inl hdry))
    | false =>
      cases hx : S.update srv ns b options.isDryRun with
      | mk S' x =>
        have hstate : (S.answer srv (.update ns b options)).1 = S' := congrArg Prod.fst hx
        rw [hstate]
        cases x with
        | error e => exact .inl (update_unchanged hx (.inr ⟨e, rfl⟩))
        | ok x =>
          rw [hdry] at hx
          exact .inr (.inl ⟨b, x.1, rfl, wrote_update hx⟩)
  | apply ns b options =>
    cases hdry : options.isDryRun with
    | true => exact .inl (apply_unchanged rfl (.inl hdry))
    | false =>
      cases hx : S.apply srv ns b options.isDryRun with
      | mk S' x =>
        have hstate : (S.answer srv (.apply ns b options)).1 = S' := congrArg Prod.fst hx
        rw [hstate]
        cases x with
        | error e => exact .inl (apply_unchanged hx (.inr ⟨e, rfl⟩))
        | ok x =>
          rw [hdry] at hx
          obtain ⟨_, merged, _, hwrote⟩ := wrote_apply hx
          exact .inr (.inl ⟨mergedAs merged b.metadata.name, x, rfl, hwrote⟩)
  | delete ns name options => exact .inr (.inr ⟨rfl, name, options, rfl⟩)

lemma sameOutside_serve (srv : Apiserver) (c : Call) :
    SameOutside (fun ns _ => ns = c.ns) S (serve srv S c).1 := by
  unfold serve
  cases srv.deny S c with
  | some e => exact .refl _ _
  | none =>
    show SameOutside _ S (S.answer srv c).1
    obtain h | ⟨sent, b, -, hwrote⟩ | ⟨-, name, options, h⟩ := answer_cases S srv c
    · rw [h]
      exact .refl _ _
    · exact hwrote.sameOutside.mono fun _ _ hkey => hkey.1
    · rw [h]
      exact (sameOutside_delete options).mono fun _ _ hkey => hkey.1

lemma serve_keeps (srv : Apiserver) (hS : S.Keyed) (c : Call) :
    (serve srv S c).1.Keyed ∧ (serve srv S c).1.namespaces = S.namespaces := by
  refine ⟨?_, (sameOutside_serve srv c).namespaces⟩
  unfold serve
  cases srv.deny S c with
  | some e => exact hS
  | none =>
    show (S.answer srv c).1.Keyed
    obtain h | ⟨sent, b, -, hwrote⟩ | ⟨-, name, options, h⟩ := answer_cases S srv c
    · rw [h]
      exact hS
    · exact hS.wrote hwrote
    · rw [h]
      exact hS.delete options

end

end Cluster

end KubeZoo
