import KubeZoo.Convert.AccessReview
import KubeZoo.Discovery.OpenAPI
import KubeZoo.Proxy.Requests

/-! # The filters before the storage -/

namespace KubeZoo

open Tag

/-- The id of a tenant. Its length is counted in bytes. -/
abbrev TenantID := { id : String // id.utf8ByteSize = tenantIDLength }

/-- A user; `tenant` is what `TenantFrom` finds in the extras. -/
structure TenantUser where
  name : String
  tenant : Option TenantID := none

def commonNameUserConversion (commonName : String) (organizationalUnit : List String) :
    Option TenantUser :=
  if commonName = "" then none
  else
    match organizationalUnit with
    | [] => some { name := commonName }
    | unit :: _ =>
      if h : unit.utf8ByteSize = tenantIDLength then
        if Marked (tenantPrefix unit) commonName then
          some { name := commonName, tenant := some ⟨unit, h⟩ }
        else some { name := commonName }
      else some { name := commonName }

/-- The subject of the client certificate, and whom the other authenticators find. -/
structure Credential where
  certificate : Option (String × List String) := none
  others : Option TenantUser := none

def authenticate (credential : Credential) : Option TenantUser :=
  (credential.certificate.bind fun subject => commonNameUserConversion subject.1 subject.2).or
    credential.others

def withTenantInfo (getTenantIDFromNamespace : String → Except GoError TenantID)
    (user : TenantUser) : TenantUser :=
  match splitUsername user.name with
  | none => user
  | some (ns, _) =>
    match getTenantIDFromNamespace ns with
    | .error _ => user
    | .ok tid => { user with tenant := some tid }

structure ResourceInfo extends RequestInfo where
  isResourceRequest : Bool := true
  apiGroup : String := ""
  resource : String := ""
  subresource : String := ""

def forbidden (message : String) : GoError :=
  .status { code := 403, reason := "Forbidden", message := message }

def platformGroups : List String := ["tenant.kubezoo.io", "quota.kubezoo.io"]

def withPlatformAPIGuard (info : ResourceInfo) : Option TenantID → Except GoError Unit
  | none => .ok ()
  | some tid =>
    if !info.isResourceRequest || info.apiGroup ∉ platformGroups then .ok ()
    else .error (forbidden (info.resource ++ "." ++ info.apiGroup ++
      " belongs to the kubezoo platform and is not part of tenant " ++ tid ++ "'s cluster"))

inductive SuspensionMode
  | readOnly
  | frozen
  | unrecognised (mode : String)
deriving DecidableEq

structure TenantSuspension where
  mode : SuspensionMode
  reason : String := ""

def allowedUnderSuspension (info : ResourceInfo) (mode : SuspensionMode) : Bool :=
  if !info.isResourceRequest then true
  else if mode ≠ .readOnly then false
  else if info.subresource ∈ ["exec", "attach", "portforward", "token"] then false
  else if info.verb ∈ ["get", "list", "watch"] then true
  else info.verb = "create" ∧ info.apiGroup = "authorization.k8s.io"

def suspensionMessage (tid : String) (suspension : TenantSuspension) : String :=
  "tenant " ++ tid ++ " is suspended" ++ (match suspension.mode with
    | .readOnly => " and is read-only: this request would change something. " ++
      "Your objects are still readable and your workloads are still running"
    | .frozen => " and is frozen: no request is accepted. Nothing of yours has been " ++
      "deleted and your workloads are still running"
    | .unrecognised mode =>
      " with an unrecognised mode " ++ quoted mode ++ ", and is being treated as frozen") ++
    (if suspension.reason ≠ "" then " (" ++ suspension.reason ++ ")" else "") ++
    ". Contact the platform operator."

/-- `suspensions` is what the cache has of each tenant. One that is not found there is not held to
be suspended. -/
def withTenantSuspension (suspensions : String → Except GoError (Option TenantSuspension))
    (info : ResourceInfo) : Option TenantID → Except GoError Unit
  | none => .ok ()
  | some tid =>
    match suspensions tid with
    | .ok (some suspension) =>
      if allowedUnderSuspension info suspension.mode then .ok ()
      else .error (forbidden (suspensionMessage tid suspension))
    | _ => .ok ()

section

variable {β : Type}

def TenantRequest.verbs : TenantRequest β → List String
  | .get _ => ["get"]
  | .create _ _ => ["create"]
  | .update _ => ["update", "patch"]
  | .delete _ _ => ["delete"]
  | .deleteCollection _ _ => ["deletecollection"]

/-- A request for an object that is stored upstream, with the cache as it is when it comes in. -/
structure HTTPRequest (β : Type) where
  suspensions : String → Except GoError (Option TenantSuspension)
  credential : Credential
  info : ResourceInfo
  isApplyPatch : Bool := false
  request : TenantRequest β
  isResource : info.isResourceRequest = true
  isStored : info.apiGroup ≠ "authorization.k8s.io"
  routed : info.verb ∈ request.verbs

namespace HTTPRequest

variable (getTenantIDFromNamespace : String → Except GoError TenantID) (q : HTTPRequest β)

def user : Option TenantUser :=
  (authenticate q.credential).map (withTenantInfo getTenantIDFromNamespace)

def filtered : Except GoError RequestContext :=
  match q.user getTenantIDFromNamespace with
  | none => .error (.status { code := 401, reason := "Unauthorized", message := "Unauthorized" })
  | some user => do
    withPlatformAPIGuard q.info user.tenant
    withTenantSuspension q.suspensions q.info user.tenant
    return ⟨user.tenant.map Subtype.val, some q.info.toRequestInfo, q.isApplyPatch⟩

def serve (tp : TenantProxy β) (g : Guards β) (pods : PodSteps β) (new : Object β) (srv : Server β)
    (S : Store β) : Store β :=
  match q.filtered getTenantIDFromNamespace with
  | .error _ => S
  | .ok ctx => tp.after g pods new srv S ctx q.request

variable {getTenantIDFromNamespace q}

lemma filtered_ok {ctx : RequestContext} (h : q.filtered getTenantIDFromNamespace = .ok ctx) :
    ∃ user, q.user getTenantIDFromNamespace = some user ∧
      ctx.tenantID = user.tenant.map Subtype.val ∧
      withTenantSuspension q.suspensions q.info user.tenant = .ok () := by
  unfold filtered at h
  split at h
  · cases h
  · next user huser =>
    obtain ⟨-, -, h⟩ := Except.bind_eq_ok_iff.mp h
    obtain ⟨_, hsuspension, h⟩ := Except.bind_eq_ok_iff.mp h
    cases h
    exact ⟨user, huser, rfl, hsuspension⟩

lemma eq_get_of_verb (h : q.info.verb ∈ ["get", "list", "watch"]) :
    ∃ name, q.request = .get name := by
  have hrouted := q.routed
  cases hr : q.request with
  | get name => exact ⟨name, rfl⟩
  | _ =>
    simp only [hr, TenantRequest.verbs] at h hrouted
    grind

/-- A suspension lets a request through only if it stores nothing. -/
lemma get_of_suspended {tid : TenantID} {suspension : TenantSuspension}
    (hsuspended : q.suspensions tid = .ok (some suspension))
    (h : withTenantSuspension q.suspensions q.info (some tid) = .ok ()) :
    ∃ name, q.request = .get name := by
  simp only [withTenantSuspension, hsuspended] at h
  split_ifs at h with hallowed
  simp only [allowedUnderSuspension, q.isResource, Bool.not_true, Bool.false_eq_true, if_false]
    at hallowed
  split_ifs at hallowed with _ _ hread
  · exact eq_get_of_verb hread
  · exact absurd (of_decide_eq_true hallowed).2 q.isStored

variable {tp : TenantProxy β} {g : Guards β} {pods : PodSteps β} {new : Object β} {srv : Server β}

lemma serve_elsewhere (hc : tp.contract.Dashes) {tid : TenantID}
    (hown : ∀ user, q.user getTenantIDFromNamespace = some user → user.tenant = some tid →
      ∃ suspension, q.suspensions tid = .ok (some suspension))
    {ns : String} (hns : Marked (tenantPrefix tid) ns) (S : Store β) (name : String) :
    q.serve getTenantIDFromNamespace tp g pods new srv S ns name = S ns name := by
  cases hpassed : q.filtered getTenantIDFromNamespace with
  | error e => simp only [serve, hpassed]
  | ok ctx =>
    simp only [serve, hpassed]
    by_cases hclient : tp.getClient ctx = .ok ns
    swap
    · exact TenantProxy.after_elsewhere hclient name
    -- The namespace is an own one of the user, who is the suspended tenant.
    obtain ⟨user, huser, htenant, hsuspension⟩ := filtered_ok hpassed
    obtain ⟨_, hid, hmarked⟩ := TenantProxy.marked_of_getClient hc hclient
      fun h => not_marked_empty (tenantPrefix_ne _) (h ▸ hns)
    obtain ⟨other, hother, rfl⟩ := Option.map_eq_some_iff.mp (htenant.symm.trans hid)
    obtain rfl : other = tid := by
      refine Subtype.ext ((String.append_left_inj "-").mp (hmarked.unique_of_size hns ?_))
      simp only [tenantPrefix, String.utf8ByteSize_append, other.2, tid.2]
    obtain ⟨suspension, hsuspended⟩ := hown user huser hother
    rw [hother] at hsuspension
    obtain ⟨asked, hget⟩ := get_of_suspended hsuspended hsuspension
    rw [hget, TenantProxy.after]

end HTTPRequest

end

/-- Whoever sends whatever requests in whatever order: what is stored in a tenant's namespaces
changes only by a request that bears the tenant's own identity while the cache does not have the
tenant as suspended. -/
theorem changed_only_by_its_tenant {β : Type} (tp : TenantProxy β) (g : Guards β)
    (pods : PodSteps β) (new : Object β) (srv : Server β) (hc : tp.contract.Dashes)
    (getTenantIDFromNamespace : String → Except GoError TenantID) (tid : TenantID)
    (qs : List (HTTPRequest β))
    (hown : ∀ q ∈ qs, ∀ user, q.user getTenantIDFromNamespace = some user →
      user.tenant = some tid → ∃ suspension, q.suspensions tid = .ok (some suspension))
    (S : Store β) (ns : String) (hns : Marked (tenantPrefix tid) ns) (name : String) :
    qs.foldl (fun S q => q.serve getTenantIDFromNamespace tp g pods new srv S) S ns name =
      S ns name := by
  induction qs generalizing S with
  | nil => rfl
  | cons q qs ih =>
    obtain ⟨hq, hqs⟩ := List.forall_mem_cons.mp hown
    rw [List.foldl_cons, ih hqs]
    exact HTTPRequest.serve_elsewhere hc hq hns S name

private def creates (credential : Credential) : HTTPRequest Unit where
  suspensions tid := .ok (if tid = "111111" then some { mode := .frozen } else none)
  credential := credential
  info := { verb := "create", «namespace» := "web" }
  request := .create { metadata := { name := "settings" }, body := () } {}
  isResource := rfl
  isStored := by decide
  routed := List.mem_singleton.mpr rfl

theorem changed_only_by_its_tenant_frozen :
    [creates { others := some { name := "system:serviceaccount:111111-web:builder" } },
      creates { certificate := some ("222222-admin", ["222222"]) }].foldl
      (fun S q => q.serve (fun _ => .ok ⟨"111111", rfl⟩) plainConfigMaps .permissive noPod
        { metadata := {}, body := () } storingServer S) .empty "111111-web" "settings" = none := by
  refine changed_only_by_its_tenant _ _ _ _ _ dashes_dashContract _ ⟨"111111", rfl⟩ _ ?_ _ _
    ⟨"web", rfl⟩ _
  simp [creates]

end KubeZoo
