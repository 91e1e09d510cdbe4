import KubeZoo.Lib.Transition
import KubeZoo.Proxy.List
import KubeZoo.Proxy.Retry

/-! # Requests over a store -/

namespace KubeZoo

open Except

open Transition (System)

variable {β : Type}

namespace Store

def put (S : Store β) (ns : String) (o : Object β) : Store β := fun ns' name =>
  if ns' = ns ∧ name = o.metadata.name then some o else S ns' name

def remove (S : Store β) (ns name : String) : Store β := fun ns' name' =>
  if ns' = ns ∧ name' = name then none else S ns' name'

def empty : Store β := fun _ _ => none

/-- Everything that is stored is as `P` says. -/
def All (S : Store β) (P : Object β → Prop) : Prop := ∀ ns name o, S ns name = some o → P o

lemma All.empty (P : Object β → Prop) : (empty : Store β).All P := fun _ _ _ h => by cases h

lemma All.put {S : Store β} {P : Object β → Prop} (hS : S.All P) {o : Object β} (ho : P o)
    (ns : String) : (S.put ns o).All P := by
  intro ns' name o' h
  rw [Store.put] at h
  split_ifs at h with heq
  · rw [← Option.some.inj h]
    exact ho
  · exact hS ns' name o' h

lemma All.remove {S : Store β} {P : Object β → Prop} (hS : S.All P) (ns name : String) :
    (S.remove ns name).All P := by
  intro ns' name' o h
  rw [Store.remove] at h
  split_ifs at h with heq
  exact hS ns' name' o h

end Store

structure Server (β : Type) where
  upstream : Store β → Upstream β
  list : Store β → String → ListOptions → Except GoError (UnstructuredList (Object β))
  delete : Store β → String → String → DeleteOptions → Except GoError (Option (Object β))

def Server.DeleteKeeps (srv : Server β) (I : Object β → Prop) : Prop :=
  ∀ S ns name options left, srv.delete S ns name options = .ok (some left) →
    ∃ old, S ns name = some old ∧ (I old → I left)

lemma Server.deleteKeeps_of_eq {γ : Type} {srv : Server β} {f : Object β → γ}
    (h : ∀ S ns name options left, srv.delete S ns name options = .ok (some left) →
      ∃ old, S ns name = some old ∧ f left = f old) (P : γ → Prop) :
    srv.DeleteKeeps fun o => P (f o) := by
  intro S ns name options left hdelete
  obtain ⟨old, hold, heq⟩ := h S ns name options left hdelete
  refine ⟨old, hold, fun hP => ?_⟩
  show P (f left)
  rw [heq]
  exact hP

inductive TenantRequest (β : Type)
  | get (name : String)
  | create (obj : Object β) (options : WriteOptions)
  | update (req : PatchRequest β)
  | delete (name : String) (options : DeleteOptions)
  | deleteCollection (options : DeleteOptions) (listOptions : ListOptions)

def TenantRequest.options : TenantRequest β → WriteOptions
  | .create _ options => options
  | .update req => req.options
  | _ => {}

namespace TenantProxy

variable (tp : TenantProxy β) (g : Guards β) (pods : PodSteps β) (new : Object β)

structure Shipment (β : Type) extends Outgoing β where
  creates : Bool

/-- What `Create` sends. -/
def shipNew (ctx : RequestContext) (obj : Object β) : Except GoError (Shipment β) := do
  let (tid, tenantForm, utd) ← tp.prepareCreate g pods ctx obj
  let ns ← tp.getClient ctx
  return { tenantID := tid, ns := ns, tenantForm := tenantForm, utd := utd, creates := true }

/-- What is sent for the object `original` that was read. -/
def shipFound (ctx : RequestContext) (obj original : Object β) : Except GoError (Shipment β) := do
  let obj ← tp.guardUpdate g ctx obj original
  let out ← tp.prepareUpdate g ctx obj
  return { out with creates := false }

def updated (info : RequestInfo) (req : PatchRequest β) (original : Object β) :
    Except GoError (Object β) :=
  if info.verb = "patch" then patched req.objInfo original else req.objInfo.updatedObject original

/-- What `Update` sends. A patch that finds nothing creates the object, and a PUT sends an update
of nothing, where either is allowed. -/
def shipUpdate (client : Upstream β) (ctx : RequestContext) (req : PatchRequest β) :
    Except GoError (Shipment β) :=
  match ctx.requestInfo with
  | none => .error (.plain "missing requestInfo")
  | some info =>
    match tp.readForUpdate client ctx req.name with
    | .ok original => do
      tp.shipFound g ctx (← updated info req original) original
    | .error e =>
      if !e.isNotFound || !req.forceAllowCreate then .error e
      else do
        let obj ← updated info req new
        if info.verb = "patch" then tp.shipNew g pods ctx obj else tp.shipFound g ctx obj new

def callApplyOf (client : Upstream β) (ctx : RequestContext) (options : WriteOptions)
    (s : Shipment β) : Except GoError (Option (Object β)) :=
  if s.creates ∧ options.fieldManager = "" then .ok none
  else tp.callApply client ctx options s.toOutgoing

def storedFor (client : Upstream β) (ctx : RequestContext) (options : WriteOptions)
    (s : Shipment β) : Except GoError (Object β) := do
  match ← tp.callApplyOf client ctx options s with
  | some applied => return applied
  | none =>
    if s.creates then client.create s.ns s.utd options
    else (client.update s.ns s.utd options tp.subresource).map Prod.fst

/-- `tenantProxy.Delete` up to the call: the namespace and the name of what is deleted. -/
def deleteTarget (ctx : RequestContext) (name : String) : Except GoError (String × String) :=
  if !tp.newFunc then .error (.plain "newFunc is nil")
  else
    match ctx.tenantID with
    | none => .error (.plain "tanentID doesn't exist in context")
    | some tid => do
      tp.refuseProjectedName (tp.upstreamName name tid)
      tp.refuseReservedName tid (tp.upstreamName name tid)
      return (← tp.getClient ctx, tp.upstreamName name tid)

def afterDelete (srv : Server β) (S : Store β) (ns name : String) (options : DeleteOptions) :
    Except GoError (Store β) :=
  (srv.delete S ns name options).map fun left =>
    if options.isDryRun then S
    else
      match left with
      | none => S.remove ns name
      | some o => S.put ns o

/-- The loop of `DeleteCollection`: names kept for the platform are passed over, and an error ends
it. -/
def deleteEach (srv : Server β) (tid ns : String) (options : DeleteOptions) :
    Store β → List String → Store β
  | S, [] => S
  | S, name :: names =>
    match tp.refuseProjectedName name, tp.refuseReservedName tid name with
    | .ok _, .ok _ =>
      match afterDelete srv S ns name options with
      | .error _ => S
      | .ok S' => deleteEach srv tid ns options S' names
    | _, _ => deleteEach srv tid ns options S names

/-- What `DeleteCollection` goes through: the tenant, the namespace, and the names it listed. -/
def deleteTargets (srv : Server β) (S : Store β) (ctx : RequestContext) (listOptions : ListOptions) :
    Except GoError (String × String × List String) := do
  let (tid, proxyListOptions) ← tp.listOptions ctx listOptions
  let ns ← tp.getClient ctx
  let utdList ← (srv.list S ns proxyListOptions).mapError
    fun e => tp.contract.trimTenantIDFromError e tid
  let utdList := tp.hideProjections (tp.filterUnstructuredList utdList tid)
  return (tid, ns, utdList.items.map fun o => o.metadata.name)

def afterWrite (client : Upstream β) (S : Store β) (ctx : RequestContext) (options : WriteOptions)
    (shipment : Except GoError (Shipment β)) : Store β :=
  match shipment with
  | .error _ => S
  | .ok s =>
    match tp.storedFor client ctx options s with
    | .error _ => S
    | .ok o => if options.isDryRun then S else S.put s.ns o

def ship (client : Upstream β) (ctx : RequestContext) :
    TenantRequest β → Except GoError (Shipment β)
  | .create obj _ => tp.shipNew g pods ctx obj
  | .update req => tp.shipUpdate g pods new client ctx req
  | _ => .error (.plain "not a write")

def submitted (client : Upstream β) (ctx : RequestContext) :
    TenantRequest β → Except GoError (Object β)
  | .create obj _ => .ok obj
  | .update req =>
    match ctx.requestInfo with
    | none => .error (.plain "missing requestInfo")
    | some info =>
      match tp.readForUpdate client ctx req.name with
      | .ok original => updated info req original
      | .error e =>
        if !e.isNotFound || !req.forceAllowCreate then .error e else updated info req new
  | _ => .error (.plain "not a write")

def creating (client : Upstream β) (ctx : RequestContext) : TenantRequest β → Bool
  | .create _ _ => true
  | .update req =>
    match ctx.requestInfo, tp.readForUpdate client ctx req.name with
    | some info, .error _ => info.verb = "patch"
    | _, _ => false
  | _ => false

def originalOf (client : Upstream β) (ctx : RequestContext) : TenantRequest β → Object β
  | .update req => (tp.readForUpdate client ctx req.name).toOption.getD new
  | _ => new

def after (srv : Server β) (S : Store β) (ctx : RequestContext) (r : TenantRequest β) : Store β :=
  match r with
  | .get _ => S
  | .create _ options =>
    tp.afterWrite (srv.upstream S) S ctx options (tp.ship g pods new (srv.upstream S) ctx r)
  | .update req =>
    tp.afterWrite (srv.upstream S) S ctx req.options (tp.ship g pods new (srv.upstream S) ctx r)
  | .delete name options =>
    match tp.deleteTarget ctx name with
    | .error _ => S
    | .ok (ns, name) =>
      match afterDelete srv S ns name options with
      | .error _ => S
      | .ok S' => S'
  | .deleteCollection options listOptions =>
    match tp.deleteTargets srv S ctx listOptions with
    | .error _ => S
    | .ok (tid, ns, names) => tp.deleteEach srv tid ns options S names

def requests (srv : Server β) : System (Store β) (RequestContext × TenantRequest β) :=
  Transition.ofStep (fun S a => some (tp.after g pods new srv S a.1 a.2)) fun S => S = .empty

/-- What the tenant is told of a shipment. -/
def answer (client : Upstream β) (ctx : RequestContext) (options : WriteOptions)
    (s : Shipment β) : Except GoError (Object β) := do
  let o ← (tp.storedFor client ctx options s).mapError
    fun e => tp.contract.trimTenantIDFromError e s.tenantID
  tp.finishWrite ctx s.tenantID o

variable {tp g pods new}

variable {obj original : Object β} {result : Object β × Bool} {I : Object β → Prop}
  {req : PatchRequest β} {ctx : RequestContext} {srv : Server β} {s : Shipment β} {S : Store β}
  {options : WriteOptions} {name ns : String} {r : TenantRequest β} {client : Upstream β}

lemma sendUpdate_eq_answer (out : Outgoing β) :
    Prod.fst <$> tp.sendUpdate client ctx options out =
      tp.answer client ctx options ⟨out, false⟩ := by
  simp only [sendUpdate, answer, callWrite, callUpdate, storedFor, callApplyOf, map_bind, map_pure,
    bind_pure]
  rcases tp.callApply client ctx options out with e | _ | o
  · rfl
  · cases client.update out.ns out.utd options tp.subresource <;> rfl
  · rfl

lemma update_eq_answer (x : Except GoError (Object β)) (original : Object β) :
    (Prod.fst <$> do tp.update g client ctx (← tp.guardUpdate g ctx (← x) original) options) =
      (do tp.shipFound g ctx (← x) original) >>= tp.answer client ctx options := by
  simp only [update, shipFound, map_bind, bind_assoc, pure_bind, sendUpdate_eq_answer]

lemma create_eq_answer (hsub : tp.subresource = "") {info : RequestInfo}
    (hinfo : ctx.requestInfo = some info) :
    (tp.create g pods client.toWriteClient ctx obj options).2 =
      tp.shipNew g pods ctx obj >>= tp.answer client ctx options := by
  unfold create shipNew
  rcases hprepare : tp.prepareCreate g pods ctx obj with e | ⟨tid, form, utd⟩
  · rfl
  obtain ⟨ns, hns⟩ : ∃ ns, tp.getClient ctx = .ok ns := by
    obtain ⟨-, htenant, -⟩ := prepareCreate_eq_ok_iff.mp hprepare
    simp only [getClient, htenant, hinfo]
    split <;> exact ⟨_, rfl⟩
  rw [hns]
  show _ = tp.answer client ctx options ⟨⟨tid, ns, form, utd⟩, true⟩
  simp only [answer, storedFor, callApplyOf, callApply, sendCreate, hns, hsub]
  by_cases hmanager : options.fieldManager = ""
  · simp only [hmanager]
    rfl
  · simp only [hmanager, ne_eq]
    rcases client.forwardApply ctx utd form options.fieldManager options with e | _ | o <;> rfl

lemma roundFound_eq_done_iff :
    tp.roundFound g client ctx req original = .done (.ok result) ↔
      (do let obj ← tp.guardUpdate g ctx (← patched req.objInfo original) original
          tp.update g client ctx obj req.options) = .ok result := by
  rw [← bind_assoc, roundFound]
  cases patched req.objInfo original >>= fun obj => tp.guardUpdate g ctx obj original with
  | error e => exact ⟨nofun, nofun⟩
  | ok guarded =>
    simp only [bind, Except.bind]
    cases tp.update g client ctx guarded req.options with
    | error e => by_cases h : e.isLockConflict <;> simp [h]
    | ok result' => simp

lemma roundMissing_eq_done_iff :
    tp.roundMissing g pods new client ctx req = .done (.ok result) ↔
      (do (tp.create g pods client.toWriteClient ctx (← patched req.objInfo new) req.options).2) =
        .ok result.1 ∧ result.2 = true := by
  unfold roundMissing
  cases patched req.objInfo new with
  | error e => exact ⟨nofun, nofun⟩
  | ok obj =>
    simp only [bind, Except.bind]
    cases (tp.create g pods client.toWriteClient ctx obj req.options).2 with
    | error e => by_cases h : e.isAlreadyExists <;> simp [h]
    | ok created => simp [Prod.ext_iff]

lemma guaranteedUpdate_eq_some_iff {result : Except GoError (Object β × Bool)} :
    (∃ rounds, tp.guaranteedUpdate g pods new ctx req (fun _ => (client, client)) rounds =
      some result) ↔
      tp.round g pods new client ctx req (tp.readForUpdate client ctx req.name) = .done result := by
  refine ⟨fun ⟨rounds, h⟩ => ?_, fun h => ⟨1, by rw [guaranteedUpdate, h]⟩⟩
  induction rounds with
  | zero => cases h
  | succ rounds ih =>
    rw [guaranteedUpdate] at h
    split at h
    · exact ih h
    · next hround => rw [hround, Option.some.inj h]

/-- With no other write meanwhile, `Update` answers with an object if and only if that is what the
tenant is told of what the request ships. -/
theorem updateRequest_eq_ok_iff (hsub : tp.subresource = "") (hnew : tp.newFunc = true)
    {shown : Object β} :
    (∃ created rounds, tp.updateRequest g pods new ctx req (fun _ => (client, client)) rounds =
        some (.ok (shown, created))) ↔
      tp.shipUpdate g pods new client ctx req >>= tp.answer client ctx req.options = .ok shown := by
  have hfst : ∀ x : Except GoError (Object β × Bool),
      (∃ created, x = .ok (shown, created)) ↔ Prod.fst <$> x = .ok shown := by
    intro x
    cases x <;> simp [Prod.ext_iff]
  simp only [updateRequest, shipUpdate, updated, hnew, Bool.not_true, Bool.false_eq_true, if_false]
  rcases hinfo : ctx.requestInfo with _ | info
  · exact ⟨by rintro ⟨_, _, ⟨⟩⟩, by rintro ⟨⟩⟩
  by_cases hverb : info.verb = "patch"
  · simp only [if_pos hverb, guaranteedUpdate_eq_some_iff]
    cases tp.readForUpdate client ctx req.name with
    | ok original => simp only [round, roundFound_eq_done_iff, hfst, update_eq_answer]
    | error e =>
      simp only [round]
      split_ifs
      · exact ⟨by rintro ⟨_, _, ⟨⟩⟩, by rintro ⟨⟩⟩
      · simp [roundMissing_eq_done_iff, create_eq_answer hsub hinfo]
  · simp only [if_neg hverb, Option.some.injEq, exists_const, hfst]
    cases tp.readForUpdate client ctx req.name with
    | ok original => exact (congrArg (· = _) (update_eq_answer _ original)).to_iff
    | error e =>
      simp only
      split_ifs
      · exact ⟨by rintro ⟨_, _, ⟨⟩⟩, by rintro ⟨⟩⟩
      · exact (congrArg (· = _) (update_eq_answer _ new)).to_iff

def ReadAs (tp : TenantProxy β) (client : Upstream β) (ctx : RequestContext) (original : Object β) :
    Prop :=
  ∃ ns name o tid, client.get ns name "" = .ok o ∧ tp.forUpdate.finishWrite ctx tid o = .ok original

lemma readAs_of_readForUpdate (h : tp.readForUpdate client ctx name = .ok original) :
    tp.ReadAs client ctx original := by
  obtain ⟨tid, ns, o, -, -, hget, hshown⟩ := readForUpdate_ok h
  exact ⟨ns, _, o, tid, hget, hshown⟩

/-- A shipment creates what `Create` prepared from an object, or updates what was read, or nothing,
with what passed the guards. -/
inductive Ships (tp : TenantProxy β) (g : Guards β) (pods : PodSteps β) (new : Object β)
    (client : Upstream β) (ctx : RequestContext) (s : Shipment β) : Prop
  | creates (obj : Object β) (hcreates : s.creates = true) (hns : tp.getClient ctx = .ok s.ns)
      (h : tp.prepareCreate g pods ctx obj = .ok (s.tenantID, s.tenantForm, s.utd))
  | updates (obj original guarded : Object β) (hcreates : s.creates = false)
      (hread : tp.ReadAs client ctx original ∨ original = new)
      (hguard : tp.guardUpdate g ctx obj original = .ok guarded)
      (h : tp.prepareUpdate g ctx guarded = .ok s.toOutgoing)

lemma shipNew_eq_ok_iff :
    tp.shipNew g pods ctx obj = .ok s ↔ s.creates = true ∧ tp.getClient ctx = .ok s.ns ∧
      tp.prepareCreate g pods ctx obj = .ok (s.tenantID, s.tenantForm, s.utd) := by
  simp only [shipNew, bind_eq_ok_iff]
  constructor
  · intro ⟨⟨tid, form, utd⟩, hprep, ns, hns, h⟩
    rw [← Except.ok.inj h]
    exact ⟨rfl, hns, hprep⟩
  · intro ⟨hcreates, hns, hprep⟩
    refine ⟨_, hprep, _, hns, ?_⟩
    rw [← hcreates]
    rfl

lemma shipFound_eq_ok_iff :
    tp.shipFound g ctx obj original = .ok s ↔ s.creates = false ∧
      ∃ guarded, tp.guardUpdate g ctx obj original = .ok guarded ∧
        tp.prepareUpdate g ctx guarded = .ok s.toOutgoing := by
  simp only [shipFound, bind_eq_ok_iff]
  constructor
  · intro ⟨guarded, hguarded, out, hout, h⟩
    rw [← Except.ok.inj h]
    exact ⟨rfl, guarded, hguarded, hout⟩
  · intro ⟨hcreates, guarded, hguarded, hout⟩
    refine ⟨guarded, hguarded, _, hout, ?_⟩
    rw [← hcreates]
    rfl

lemma ship_eq_ok_iff :
    tp.ship g pods new client ctx r = .ok s ↔ ∃ obj, tp.submitted new client ctx r = .ok obj ∧
        (tp.creating client ctx r = true ∧ tp.shipNew g pods ctx obj = .ok s ∨
          tp.creating client ctx r = false ∧
            tp.shipFound g ctx obj (tp.originalOf new client ctx r) = .ok s) := by
  cases r with
  | get name | delete name options | deleteCollection options listOptions => simp [ship, submitted]
  | create obj options => simp [ship, submitted, creating]
  | update req =>
    simp only [ship, shipUpdate, submitted, creating, originalOf]
    cases hinfo : ctx.requestInfo with
    | none => simp
    | some info =>
      cases hread : tp.readForUpdate client ctx req.name with
      | ok original => simp [bind_eq_ok_iff, Except.toOption]
      | error e =>
        by_cases hmissing : (!e.isNotFound || !req.forceAllowCreate) = true
        · simp [hmissing]
        · by_cases hverb : info.verb = "patch"
          · simp [hmissing, hverb, bind_eq_ok_iff]
          · simp [hmissing, hverb, bind_eq_ok_iff, Except.toOption]

lemma readAs_originalOf (client : Upstream β) (ctx : RequestContext) (r : TenantRequest β) :
    tp.ReadAs client ctx (tp.originalOf new client ctx r) ∨
      tp.originalOf new client ctx r = new := by
  cases r with
  | update req =>
    rw [originalOf]
    cases hread : tp.readForUpdate client ctx req.name with
    | ok original => exact .inl (readAs_of_readForUpdate hread)
    | error e => exact .inr rfl
  | _ => exact .inr rfl

lemma ships_of_ship (h : tp.ship g pods new client ctx r = .ok s) :
    tp.Ships g pods new client ctx s := by
  obtain ⟨obj, -, ⟨-, h⟩ | ⟨-, h⟩⟩ := ship_eq_ok_iff.mp h
  · obtain ⟨hcreates, hns, hprep⟩ := shipNew_eq_ok_iff.mp h
    exact .creates obj hcreates hns hprep
  · obtain ⟨hcreates, guarded, hguarded, hout⟩ := shipFound_eq_ok_iff.mp h
    exact .updates obj _ guarded hcreates (readAs_originalOf client ctx r) hguarded hout

lemma storedFor_ok (hsub : tp.subresource = "") {o : Object β}
    (h : tp.storedFor client ctx options s = .ok o) :
    client.forwardApply ctx s.utd s.tenantForm options.fieldManager options = .ok (some o) ∨
    s.creates = true ∧ client.create s.ns s.utd options = .ok o ∨
    s.creates = false ∧ ∃ created, client.update s.ns s.utd options "" = .ok (o, created) := by
  obtain ⟨applied, happlied, h⟩ := bind_eq_ok_iff.mp h
  cases applied with
  | some applied =>
    left
    rw [callApplyOf] at happlied
    split_ifs at happlied with hnone
    · cases happlied
    · rw [callApply, if_pos hsub] at happlied
      rw [happlied]
      exact congrArg _ (congrArg some (Except.ok.inj h))
  | none =>
    right
    by_cases hcreates : s.creates = true
    · left
      exact ⟨hcreates, by simpa only [if_pos hcreates] using h⟩
    · right
      simp only [if_neg hcreates] at h
      obtain ⟨⟨o', created⟩, hupdate, rfl⟩ := map_eq_ok_iff.mp h
      exact ⟨Bool.eq_false_iff.mpr hcreates, created, hsub ▸ hupdate⟩

lemma deleteTarget_ok {upstream : String} (h : tp.deleteTarget ctx name = .ok (ns, upstream)) :
    tp.getClient ctx = .ok ns ∧ tp.refuseProjectedName upstream = .ok () := by
  unfold deleteTarget at h
  split_ifs at h
  split at h
  · cases h
  · simp only [bind_eq_ok_iff] at h
    obtain ⟨⟨⟩, hprojected, -, -, ns', hns, h⟩ := h
    obtain ⟨rfl, rfl⟩ := Prod.mk.inj (Except.ok.inj h)
    exact ⟨hns, hprojected⟩

lemma afterDelete_all {S' : Store β} {options : DeleteOptions} (hS : S.All I)
    (hleft : srv.DeleteKeeps I) (h : afterDelete srv S ns name options = .ok S') : S'.All I := by
  obtain ⟨left, hdelete, rfl⟩ := map_eq_ok_iff.mp h
  split_ifs with hdry
  · exact hS
  · cases left with
    | none => exact hS.remove ns name
    | some o =>
      obtain ⟨old, hold, hkeeps⟩ := hleft S ns name options o hdelete
      exact hS.put (hkeeps (hS ns name old hold)) ns

lemma deleteEach_preserves {P : Store β → Prop} {tid : String} {options : DeleteOptions}
    {names : List String}
    (hdelete : ∀ S S' name, name ∈ names → P S → tp.refuseProjectedName name = .ok () →
      afterDelete srv S ns name options = .ok S' → P S') (hS : P S) :
    P (tp.deleteEach srv tid ns options S names) := by
  induction names generalizing S with
  | nil => exact hS
  | cons name names ih =>
    have hrest := fun S S' name' hname => hdelete S S' name' (List.mem_cons_of_mem name hname)
    rw [deleteEach]
    split
    · next hprojected _ =>
      split
      · exact hS
      · next S' hS' => exact ih hrest (hdelete S S' name List.mem_cons_self hS hprojected hS')
    · exact ih hrest hS

lemma after_preserves {P : Store β → Prop} (hS : P S)
    (hwrite : ∀ s o, tp.ship g pods new (srv.upstream S) ctx r = .ok s →
      tp.storedFor (srv.upstream S) ctx r.options s = .ok o → P (S.put s.ns o))
    (hdelete : ∀ S S' ns name options, tp.getClient ctx = .ok ns → P S →
      tp.refuseProjectedName name = .ok () → afterDelete srv S ns name options = .ok S' → P S') :
    P (tp.after g pods new srv S ctx r) := by
  have hput : P (tp.afterWrite (srv.upstream S) S ctx r.options
      (tp.ship g pods new (srv.upstream S) ctx r)) := by
    unfold afterWrite
    split
    · exact hS
    · next s hs =>
      split
      · exact hS
      · next o ho =>
        split_ifs
        · exact hS
        · exact hwrite s o hs ho
  cases r with
  | get name => exact hS
  | create obj options => exact hput
  | update req => exact hput
  | delete name options =>
    rw [after]
    split
    · exact hS
    · next ns upstream htarget =>
      split
      · exact hS
      · next S' hS' =>
        obtain ⟨hns, hprojected⟩ := deleteTarget_ok htarget
        exact hdelete S S' ns upstream options hns hS hprojected hS'
  | deleteCollection options listOptions =>
    rw [after]
    split
    · exact hS
    · next htargets =>
      obtain ⟨_, -, h⟩ := bind_eq_ok_iff.mp htargets
      obtain ⟨ns, hns, h⟩ := bind_eq_ok_iff.mp h
      obtain ⟨_, -, h⟩ := bind_eq_ok_iff.mp h
      cases h
      exact deleteEach_preserves (fun S S' name _ => hdelete S S' _ name options hns) hS

lemma after_all (hS : S.All I) (hleft : srv.DeleteKeeps I)
    (hwrite : ∀ s o, tp.ship g pods new (srv.upstream S) ctx r = .ok s →
      tp.storedFor (srv.upstream S) ctx r.options s = .ok o → I o) :
    (tp.after g pods new srv S ctx r).All I := by
  refine after_preserves (P := fun S : Store β => S.All I) hS ?_ ?_
  · intro s o hs ho
    exact hS.put (hwrite s o hs ho) s.ns
  · intro S S' ns name options _ hS _ hS'
    exact afterDelete_all hS hleft hS'

lemma all_of_reachable {G : Store β → RequestContext × TenantRequest β → Prop}
    (h : ((tp.requests g pods new srv).restrict G).Reachable S)
    (hstep : ∀ S ctx r, S.All I → G S (ctx, r) → (tp.after g pods new srv S ctx r).All I) :
    S.All I := by
  refine h.invariant (P := fun S : Store β => S.All I) ?_ ?_
  · intro S hS
    rw [show S = .empty from hS]
    exact Store.All.empty _
  · intro S a S' _ hS hrequest
    obtain ⟨hS', hG⟩ := hrequest
    rw [← Option.some.inj hS']
    exact hstep S a.1 a.2 hS hG

lemma getClient_of_ship (h : tp.ship g pods new client ctx r = .ok s) :
    tp.getClient ctx = .ok s.ns := by
  cases ships_of_ship h with
  | creates _ _ hns _ => exact hns
  | updates _ _ _ _ _ _ h =>
    obtain ⟨-, -, -, -, -, hns⟩ := prepareUpdate_ok h
    exact hns

lemma after_elsewhere (hns : tp.getClient ctx ≠ .ok ns) (name : String) :
    tp.after g pods new srv S ctx r ns name = S ns name := by
  refine after_preserves (P := fun S' : Store β => S' ns name = S ns name) rfl ?_ ?_
  · intro s o hship _
    refine if_neg ?_
    rintro ⟨rfl, -⟩
    exact hns (getClient_of_ship hship)
  · intro S₁ S₂ ns' name' options hclient hS _ hdelete
    obtain ⟨left, -, rfl⟩ := map_eq_ok_iff.mp hdelete
    rw [← hS]
    have hne : ns ≠ ns' := fun h => hns (h ▸ hclient)
    split_ifs
    · rfl
    · cases left with
      | none => exact if_neg fun h : ns = ns' ∧ _ => hne h.1
      | some o => exact if_neg fun h : ns = ns' ∧ _ => hne h.1

lemma marked_of_getClient (hc : tp.contract.Dashes) (h : tp.getClient ctx = .ok ns)
    (hns : ns ≠ "") : ∃ tid, ctx.tenantID = some tid ∧ Tag.Marked (tenantPrefix tid) ns := by
  rw [getClient] at h
  split at h
  · cases h
  · cases h
  · next tid info htid _ =>
    split_ifs at h with hscoped
    · refine ⟨tid, htid, ?_⟩
      rw [← Except.ok.inj h, hc.upstream tid _ hscoped.2, Tag.ensure]
      split_ifs with hmarked
      · exact hmarked
      · exact Tag.marked_append _ _
    · cases h
      exact absurd rfl hns

end TenantProxy

def storingServer {β : Type} : Server β where
  upstream S := .ofStore (fun _ _ _ => false) S
  list _ _ _ := .ok {}
  delete S ns name _ :=
    match S ns name with
    | none => .error (.status (newNotFound "" "" name))
    | some _ => .ok none

variable {o : Object β} {S : Store β} {tp : TenantProxy β} {ctx : RequestContext}
  {options : WriteOptions} {s : TenantProxy.Shipment β}

lemma storedFor_storingServer (hsub : tp.subresource = "")
    (h : tp.storedFor (storingServer.upstream S) ctx options s = .ok o) : o = s.utd := by
  obtain happly | ⟨-, hcreate⟩ | ⟨-, created, hupdate⟩ := TenantProxy.storedFor_ok hsub h
  · cases happly
  · simp only [storingServer, Upstream.ofStore] at hcreate
    split at hcreate
    · cases hcreate
    · exact (Except.ok.inj hcreate).symm
  · simp only [storingServer, Upstream.ofStore] at hupdate
    split_ifs at hupdate
    exact (Prod.mk.inj (Except.ok.inj hupdate)).1.symm

lemma get_storingServer {ns name : String}
    (h : (storingServer.upstream S).get ns name "" = .ok o) : S ns name = some o := by
  simp only [storingServer, Upstream.ofStore] at h
  split at h
  · next o' ho' => rw [ho', Except.ok.inj h]
  · cases h

lemma delete_storingServer {ns name : String} {options : DeleteOptions}
    {left : Option (Object β)} (h : storingServer.delete S ns name options = .ok left) :
    left = none := by
  simp only [storingServer] at h
  split at h
  · cases h
  · exact (Except.ok.inj h).symm

def Server.admitting {β : Type} (srv : Server β) (f : Object β → Object β) : Server β :=
  { srv with
    upstream := fun S =>
      { srv.upstream S with
        create := fun ns utd options => ((srv.upstream S).create ns utd options).map f
        update := fun ns utd options sub =>
          ((srv.upstream S).update ns utd options sub).map fun a => (f a.1, a.2)
        forwardApply := fun ctx utd form manager options =>
          ((srv.upstream S).forwardApply ctx utd form manager options).map (Option.map f) } }

lemma storedFor_admitting (hsub : tp.subresource = "") {srv : Server β} {f : Object β → Object β}
    (h : tp.storedFor ((srv.admitting f).upstream S) ctx options s = .ok o) :
    ∃ o', tp.storedFor (srv.upstream S) ctx options s = .ok o' ∧ o = f o' := by
  obtain ⟨applied, happlied, h⟩ := bind_eq_ok_iff.mp h
  have hbase : ∃ applied', tp.callApplyOf (srv.upstream S) ctx options s = .ok applied' ∧
      applied = applied'.map f := by
    rw [TenantProxy.callApplyOf, TenantProxy.callApply] at happlied ⊢
    split_ifs at happlied ⊢ with hnone
    · exact ⟨none, rfl, (Except.ok.inj happlied).symm⟩
    · obtain ⟨applied', hbase, rfl⟩ := map_eq_ok_iff.mp happlied
      exact ⟨applied', hbase, rfl⟩
  obtain ⟨applied', hbase, rfl⟩ := hbase
  rw [TenantProxy.storedFor, hbase]
  cases applied' with
  | some a => exact ⟨a, rfl, (Except.ok.inj h).symm⟩
  | none =>
    split_ifs at h ⊢ with hcreates
    · obtain ⟨o', ho', rfl⟩ := map_eq_ok_iff.mp h
      exact ⟨o', ho', rfl⟩
    · obtain ⟨a, ha, rfl⟩ := map_eq_ok_iff.mp h
      obtain ⟨b, hb, rfl⟩ := map_eq_ok_iff.mp ha
      exact ⟨b.1, map_eq_ok_iff.mpr ⟨b, hb, rfl⟩, rfl⟩

def webVerb (verb : String) : RequestContext :=
  { tenantID := some "111111", requestInfo := some { «namespace» := "web", verb := verb } }

private def webSettings : Object Unit :=
  { metadata := { name := "settings", «namespace» := "web" }, body := () }

theorem updateRequest_eq_ok_iff_created :
    ∃ created rounds, plainConfigMaps.updateRequest .permissive noPod { body := () }
      (webVerb "patch") ⟨"settings", { updatedObject := fun _ => .ok webSettings }, true, {}⟩
      (fun _ => (storingServer.upstream .empty, storingServer.upstream .empty)) rounds =
        some (.ok (webSettings, created)) :=
  (TenantProxy.updateRequest_eq_ok_iff rfl rfl).mpr (by decide +kernel)

end KubeZoo
