import KubeZoo.Projection.Model

/-! # Writes of a record -/

namespace KubeZoo

open Cluster

open Calls (Program)
open Cluster (serve Wrote)

namespace RecordProxy

variable (r : RecordProxy) (srv : Apiserver) (S : Cluster)

/-- What a write with `utd` has upstream store: `utd`, or what an apply merges it to. -/
def Stores (isPatch : Bool) (utd sent : Binding) : Prop :=
  sent = utd ∨ isPatch = true ∧ r.goesAsApply utd = true ∧
    ∃ merged, srv.merge (S.binding r.ns utd.metadata.name) utd = .ok merged ∧
      sent = mergedAs merged utd.metadata.name

def SendsCreate (isPatch : Bool) (obj sent : Binding) : Prop :=
  ∃ utd, r.beforeCreate obj = .ok utd ∧ r.Stores srv S isPatch utd sent

def SendsUpdate (isPatch : Bool) (req : PatchRequest BindingBody) (sent : Binding) : Prop :=
  (∃ original utd,
    (original = r.new ∨ ∃ b, S.binding r.ns req.name = some b ∧ r.readView b = .ok original) ∧
      r.outgoing isPatch req original = .ok utd ∧ r.Stores srv S isPatch utd sent) ∨
  isPatch = true ∧ ∃ updated, TenantProxy.patched req.objInfo r.new = .ok updated ∧
    r.SendsCreate srv S isPatch updated sent

variable {r srv S} {isPatch : Bool} {S' : Cluster} (hsrv : srv.Permits)

include hsrv

lemma run_callCreate (utd : Binding) (options : WriteOptions) :
    (r.callCreate isPatch utd options).run (serve srv) S =
      if isPatch ∧ r.goesAsApply utd ∧ options.fieldManager ≠ "" then
        S.apply srv r.ns utd options.isDryRun
      else S.create srv r.ns utd options.isDryRun := by
  unfold callCreate
  split_ifs
  · rw [Call.run_ask, serve_of_permits hsrv]
    rfl
  · rw [Call.run_ask, serve_of_permits hsrv]
    rfl

omit hsrv in
lemma callCreate_post (utd : Binding) (options : WriteOptions) :
    r.callCreate false utd options = (Call.create r.ns utd options).ask :=
  if_neg fun h => Bool.false_ne_true h.1

variable {options : WriteOptions}

variable {obj utd : Binding} {x : Except GoError Binding}

lemma callCreate_outcome (hreal : options.isDryRun = false)
    (h : (r.callCreate isPatch utd options).run (serve srv) S = (S', x)) :
    S' = S ∧ (∃ e, x = .error e) ∨ ∃ sent stored, x = .ok stored ∧ r.Stores srv S isPatch utd sent ∧
        Wrote S r.ns sent S' stored := by
  rw [run_callCreate hsrv, hreal] at h
  split_ifs at h with happly
  · cases x with
    | error e => exact .inl ⟨apply_unchanged h (.inr ⟨e, rfl⟩), e, rfl⟩
    | ok stored =>
      obtain ⟨_, merged, hmerged, hwrote⟩ := wrote_apply h
      exact .inr ⟨_, stored, rfl, .inr ⟨happly.1, happly.2.1, merged, hmerged, rfl⟩, hwrote⟩
  · cases x with
    | error e => exact .inl ⟨create_error h, e, rfl⟩
    | ok stored =>
      exact .inr ⟨utd, stored, rfl, .inl rfl, wrote_create h⟩

lemma create_outcome (hreal : options.isDryRun = false)
    (h : (r.create isPatch obj options).run (serve srv) S = (S', x)) :
    S' = S ∧ (∃ e, x = .error e) ∨
      ∃ sent stored, r.SendsCreate srv S isPatch obj sent ∧ Wrote S r.ns sent S' stored ∧
        x = r.answer stored := by
  unfold create at h
  split at h
  · next e _ =>
    obtain ⟨rfl, rfl⟩ := Prod.mk.inj h
    exact .inl ⟨rfl, e, rfl⟩
  · next utd hutd =>
    rw [Program.run_bind] at h
    cases hcall : (r.callCreate isPatch utd options).run (serve srv) S with
    | mk S₁ y =>
      rw [hcall] at h
      obtain ⟨rfl, rfl⟩ := Prod.mk.inj h
      obtain ⟨rfl, e, rfl⟩ | ⟨sent, stored, rfl, hstores, hwrote⟩ :=
        callCreate_outcome hsrv hreal hcall
      · exact .inl ⟨rfl, _, rfl⟩
      · exact .inr ⟨sent, stored, ⟨utd, hutd, hstores⟩, hwrote, rfl⟩

lemma create_post {created : Binding}
    (h : (r.create false obj options).run (serve srv) S = (S', .ok created)) :
    ∃ utd stored, r.beforeCreate obj = .ok utd ∧
      S.create srv r.ns utd options.isDryRun = (S', .ok stored) ∧ r.answer stored = .ok created := by
  unfold create at h
  split at h
  · cases h
  · next utd hutd =>
    rw [Program.run_bind, callCreate_post, Call.run_ask, serve_of_permits hsrv] at h
    cases hcall : S.create srv r.ns utd options.isDryRun with
    | mk S₁ y =>
      rw [show S.answer srv (.create r.ns utd options) = (S₁, y) from hcall] at h
      cases y with
      | error e => cases h
      | ok stored =>
        obtain ⟨rfl, hanswer⟩ := Prod.mk.inj h
        exact ⟨utd, stored, hutd, hcall, hanswer⟩

lemma callUpdate_outcome (hreal : options.isDryRun = false) {x : Except GoError (Binding × Bool)}
    (h : (r.callUpdate isPatch utd options).run (serve srv) S = (S', x)) :
    S' = S ∧ (∃ e, x = .error e) ∨
      ∃ sent stored created, x = .ok (stored, created) ∧ r.Stores srv S isPatch utd sent ∧
        Wrote S r.ns sent S' stored := by
  unfold callUpdate at h
  split_ifs at h with happly
  · rw [Call.run_ask_bind hsrv] at h
    cases hcall : S.apply srv r.ns utd options.isDryRun with
    | mk S₁ y =>
      rw [show S.answer srv (.apply r.ns utd options) = (S₁, y) from hcall] at h
      obtain ⟨rfl, rfl⟩ := Prod.mk.inj h
      rw [hreal] at hcall
      cases y with
      | error e => exact .inl ⟨apply_unchanged hcall (.inr ⟨e, rfl⟩), e, rfl⟩
      | ok stored =>
        obtain ⟨_, merged, hmerged, hwrote⟩ := wrote_apply hcall
        exact .inr ⟨_, stored, false, rfl, .inr ⟨happly.1, happly.2, merged, hmerged, rfl⟩, hwrote⟩
  · rw [Call.run_ask, serve_of_permits hsrv] at h
    have hcall : S.update srv r.ns utd options.isDryRun = (S', x) := h
    rw [hreal] at hcall
    cases x with
    | error e => exact .inl ⟨update_unchanged hcall (.inr ⟨e, rfl⟩), e, rfl⟩
    | ok y => exact .inr ⟨utd, y.1, y.2, rfl, .inl rfl, wrote_update hcall⟩

section

variable {req : PatchRequest BindingBody} (hreal : req.options.isDryRun = false)
  (hanswer : ∀ b, ∃ b', r.answer b = .ok b')

def RoundOutcome (r : RecordProxy) (S S' : Cluster) (Sends : Binding → Prop)
    (x : Option (Except GoError (Binding × Bool))) : Prop :=
  (S' = S ∧ ∀ result, x ≠ some (.ok result)) ∨
    ∃ sent stored result, Sends sent ∧ Wrote S r.ns sent S' stored ∧
      r.answer stored = .ok result ∧ ∃ created, x = some (.ok (result, created))

variable {x : Option (Except GoError (Binding × Bool))}

omit hsrv in
lemma RoundOutcome.imp {Sends Sends' : Binding → Prop} (h : RoundOutcome r S S' Sends x)
    (hsends : ∀ sent, Sends sent → Sends' sent) : RoundOutcome r S S' Sends' x :=
  h.imp_right fun ⟨sent, stored, result, hsent, hrest⟩ =>
    ⟨sent, stored, result, hsends sent hsent, hrest⟩

include hreal hanswer

lemma roundFound_outcome {original : Binding}
    (h : (r.roundFound isPatch req original).run (serve srv) S = (S', x)) :
    RoundOutcome r S S' (fun sent => ∃ utd, r.outgoing isPatch req original = .ok utd ∧
      r.Stores srv S isPatch utd sent) x := by
  unfold roundFound at h
  split at h
  · obtain ⟨rfl, rfl⟩ := Prod.mk.inj h
    exact .inl ⟨rfl, fun _ hx => nomatch hx⟩
  · next utd hutd =>
    rw [Program.run_bind] at h
    cases hcall : (r.callUpdate isPatch utd req.options).run (serve srv) S with
    | mk S₁ y =>
      rw [hcall] at h
      obtain ⟨rfl, rfl⟩ := Prod.mk.inj h
      obtain ⟨rfl, e, rfl⟩ | ⟨sent, stored, created, rfl, hstores, hwrote⟩ :=
        callUpdate_outcome hsrv hreal hcall
      · refine .inl ⟨rfl, fun result hx => ?_⟩
        unfold written at hx
        simp only [Except.mapError, Except.bind] at hx
        split_ifs at hx
        cases hx
      · obtain ⟨result, hresult⟩ := hanswer stored
        refine .inr ⟨sent, stored, result, ⟨utd, hutd, hstores⟩, hwrote, hresult, created, ?_⟩
        unfold written
        simp [Except.mapError, Except.bind, hresult, Except.map]

lemma roundMissing_outcome (h : (r.roundMissing req).run (serve srv) S = (S', x)) :
    RoundOutcome r S S' (fun sent => ∃ updated, TenantProxy.patched req.objInfo r.new = .ok updated ∧
      r.SendsCreate srv S true updated sent) x := by
  unfold roundMissing at h
  split at h
  · obtain ⟨rfl, rfl⟩ := Prod.mk.inj h
    exact .inl ⟨rfl, fun _ hx => nomatch hx⟩
  · next updated hupdated =>
    rw [Program.run_bind] at h
    cases hcall : (r.create true updated req.options).run (serve srv) S with
    | mk S₁ y =>
      rw [hcall] at h
      obtain ⟨rfl, e, rfl⟩ | ⟨sent, stored, hsends, hwrote, rfl⟩ := create_outcome hsrv hreal hcall
      · obtain ⟨rfl, rfl⟩ := Prod.mk.inj h
        refine .inl ⟨rfl, fun result hx => ?_⟩
        split_ifs at hx
        cases hx
      · obtain ⟨result, hresult⟩ := hanswer stored
        rw [hresult] at h
        obtain ⟨rfl, rfl⟩ := Prod.mk.inj h
        exact .inr ⟨sent, stored, result, ⟨updated, hupdated, hsends⟩, hwrote, hresult, true, rfl⟩

lemma update_outcome {rounds : ℕ} (h : (r.update isPatch req rounds).run (serve srv) S = (S', x)) :
    RoundOutcome r S S' (r.SendsUpdate srv S isPatch req) x := by
  induction rounds with
  | zero =>
    obtain ⟨rfl, rfl⟩ := Prod.mk.inj h
    exact .inl ⟨rfl, fun _ hx => nomatch hx⟩
  | succ rounds ih =>
    unfold update at h
    rw [Call.run_ask_bind hsrv, Program.run_bind] at h
    rw [show (S.answer srv (.get r.ns req.name)).1 = S from rfl] at h
    cases hround : (r.afterRead isPatch req (S.answer srv (.get r.ns req.name)).2).run
        (serve srv) S with
    | mk S₁ y =>
      rw [hround] at h
      have houtcome : RoundOutcome r S S₁ (r.SendsUpdate srv S isPatch req) y := by
        unfold afterRead at hround
        split at hround
        · next original hread =>
          refine (roundFound_outcome hsrv hreal hanswer hround).imp fun sent ⟨utd, hutd, hst⟩ => ?_
          refine .inl ⟨original, utd, .inr ?_, hutd, hst⟩
          -- What was read is the view of what is stored.
          cases hb : S.binding r.ns req.name with
          | none => rw [answer_get_of_none hb] at hread; cases hread
          | some b =>
            rw [answer_get_of_some hb] at hread
            exact ⟨b, rfl, hread⟩
        · split_ifs at hround with _ hpatch
          · obtain ⟨rfl, rfl⟩ := Prod.mk.inj hround
            exact .inl ⟨rfl, fun _ hx => nomatch hx⟩
          · refine (roundMissing_outcome hsrv hreal hanswer hround).imp fun sent hsent => ?_
            rw [show isPatch = true from hpatch]
            exact .inr ⟨rfl, hsent⟩
          · refine (roundFound_outcome hsrv hreal hanswer hround).imp fun sent ⟨utd, hutd, hst⟩ => ?_
            exact .inl ⟨r.new, utd, .inl rfl, hutd, hst⟩
      cases y with
      | none =>
        -- The loop goes round again only if nothing was written.
        obtain ⟨rfl, _⟩ | ⟨_, _, _, _, _, _, _, hx⟩ := houtcome
        · exact ih h
        · cases hx
      | some result =>
        obtain ⟨rfl, rfl⟩ := Prod.mk.inj h
        exact houtcome

end

lemma delete_outcome (hanswer : ∀ b, ∃ b', r.answer b = .ok b') {name : String}
    {options : DeleteOptions} {x : Except GoError (Option Binding)}
    (h : (r.delete name options).run (serve srv) S = (S', x)) :
    (S' = S ∧ ∃ e, x = .error e) ∨
      S' = (S.delete r.ns name options).1 ∧ ∃ deleted, x = .ok deleted := by
  unfold delete at h
  split at h
  · next e _ =>
    obtain ⟨rfl, rfl⟩ := Prod.mk.inj h
    exact .inl ⟨rfl, e, rfl⟩
  · rw [Call.run_ask_bind hsrv] at h
    cases hcall : S.delete r.ns name options with
    | mk S₁ y =>
      rw [show S.answer srv (.delete r.ns name options) = (S₁, y) from hcall] at h
      obtain ⟨rfl, rfl⟩ := Prod.mk.inj h
      cases y with
      | error e => exact .inl ⟨delete_error hcall, _, rfl⟩
      | ok deleted =>
        refine .inr ⟨rfl, ?_⟩
        cases deleted with
        | none => exact ⟨none, rfl⟩
        | some b =>
          obtain ⟨b', hb'⟩ := hanswer b
          refine ⟨some b', ?_⟩
          show (r.answer b).map some = _
          rw [hb']
          rfl

end RecordProxy

namespace Projection

structure ServesRecords (p : Projection) : Prop where
  ns : p.records.ns = p.upstreamRecord
  name : ∀ b b', p.records.answer b = .ok b' → b'.metadata.name = b.metadata.name

structure WritesRecords (p : Projection) : Prop extends p.ServesRecords where
  create : ∀ b utd, p.records.beforeCreate b = .ok utd →
    utd.metadata.name = b.metadata.name ∧ utd.metadata.generateName = b.metadata.generateName
  update : ∀ b original utd, p.records.beforeUpdate b original = .ok utd →
    utd.metadata.name = b.metadata.name
  shows : ∀ b, ∃ b', p.records.answer b = .ok b'

end Projection

namespace TenantProxy

structure KeepsNames (tp : TenantProxy BindingBody) (g : Guards BindingBody) : Prop where
  typed : tp.unstructured = false
  forward : ∀ o t b o', tp.convertor.convertTenantObjectToUpstreamObject o t b = .ok o' →
    o'.metadata.name = o.metadata.name ∧ o'.metadata.generateName = o.metadata.generateName
  backward : ∀ o t b, ∃ o', tp.convertor.convertUpstreamObjectToTenantObject o t b = .ok o' ∧
    o'.metadata.name = o.metadata.name
  body : ∀ o, ∃ body, tp.fromVersioned o = .ok body
  view : ∀ o, (tp.showTenantClusterIP o).metadata.name = o.metadata.name
  address : ∀ o original o', g.refuseForeignClusterIP o original = .ok o' →
    o'.metadata.name = o.metadata.name

variable {tp : TenantProxy BindingBody} {g : Guards BindingBody} {pods : PodSteps BindingBody}

lemma KeepsNames.finishWrite (h : tp.KeepsNames g) (ctx : RequestContext) (tid : String)
    (b : Binding) :
    ∃ b', tp.finishWrite ctx tid b = .ok b' ∧ b'.metadata.name = b.metadata.name := by
  obtain ⟨body, hbody⟩ := h.body b
  obtain ⟨shown, hshown, hname⟩ := h.backward { b with body := body } tid tp.namespaceScoped
  have houtput : tp.convertUnstructuredToOutput b = .ok { b with body := body } := by
    unfold convertUnstructuredToOutput
    rw [if_neg (by rw [h.typed]; decide), hbody]
    rfl
  have hviews : (tp.applyTenantViews shown).metadata.name = b.metadata.name := by
    unfold applyTenantViews
    split_ifs
    · exact hname
    · rw [HiddenMetadata.name_strip, h.view, hname]
  refine ⟨tp.echoRequestNamespace (tp.applyTenantViews shown) tid (tp.requestNamespace ctx), ?_, ?_⟩
  · unfold TenantProxy.finishWrite convertUpstreamObjectToTenantObject
    rw [houtput]
    show (tp.convertor.convertUpstreamObjectToTenantObject { b with body := body } tid
      tp.namespaceScoped >>= _) = _
    rw [hshown]
    rfl
  · unfold echoRequestNamespace
    simp only
    split_ifs
    · exact hviews
    · exact hviews
    · exact hviews
    · exact hviews

variable {b : Binding} {ctx : RequestContext}

lemma KeepsNames.prepareCreate (h : tp.KeepsNames g) (hpods : ∀ b, pods.isPod b = false)
    {utd : Binding} {tid : String} {form : Option Binding}
    (hutd : tp.prepareCreate g pods ctx b = .ok (tid, form, utd)) :
    utd.metadata.name = b.metadata.name ∧ utd.metadata.generateName = b.metadata.generateName := by
  obtain ⟨_, up, hup, hmeta⟩ := prepareCreate_typed h.typed hutd
  rw [hmeta]
  obtain ⟨converted, hconverted, hup⟩ := Except.bind_eq_ok_iff.mp hup
  rw [if_neg fun hpod => by rw [hpods] at hpod; exact Bool.false_ne_true hpod.1] at hup
  rw [← Except.ok.inj hup]
  exact h.forward _ _ _ _ hconverted

lemma KeepsNames.guardUpdate (h : tp.KeepsNames g) {original b' : Binding}
    (hb : tp.guardUpdate g ctx b original = .ok b') : b'.metadata.name = b.metadata.name := by
  obtain ⟨obj, hobj, rfl⟩ := guardUpdate_ok hb
  rw [HiddenMetadata.name_restore]
  exact h.address _ _ _ hobj

lemma KeepsNames.prepareUpdate (h : tp.KeepsNames g) {out : Outgoing BindingBody}
    (hout : tp.prepareUpdate g ctx b = .ok out) : out.utd.metadata.name = b.metadata.name := by
  obtain ⟨converted, _, hconverted, hutd, -, -⟩ := prepareUpdate_ok hout
  rw [convertInternalObjectToUnstructuredObject, if_neg (by rw [h.typed]; decide),
    Except.map_eq_ok_iff] at hutd
  obtain ⟨body, _, hbody⟩ := hutd
  rw [← hbody]
  exact (h.forward _ _ _ _ hconverted).1

lemma KeepsNames.writesRecords (h : tp.KeepsNames g) (hpods : ∀ b, pods.isPod b = false)
    {p : Projection} (client : Upstream BindingBody) (goesAsApply : Binding → Bool)
    (verb name : String)
    (hp : p.records = tp.records g pods client goesAsApply p.tenantID verb name)
    (hns : tp.contract.upstreamNamespace p.tenantID canonicalNamespace = p.upstreamRecord) :
    p.WritesRecords where
  ns := by rw [hp]; exact hns
  name b b' hb := by
    rw [hp] at hb
    obtain ⟨shown, hshown, hname⟩ := h.finishWrite _ p.tenantID b
    rw [← hname, ← Except.ok.inj (hshown.symm.trans hb)]
  create b utd hutd := by
    rw [hp] at hutd
    obtain ⟨⟨tid, form, utd⟩, hprepared, rfl⟩ := Except.map_eq_ok_iff.mp hutd
    exact h.prepareCreate hpods hprepared
  update b original utd hutd := by
    rw [hp] at hutd
    obtain ⟨guarded, hguarded, hutd⟩ := Except.bind_eq_ok_iff.mp hutd
    obtain ⟨out, hout, rfl⟩ := Except.map_eq_ok_iff.mp hutd
    exact (h.prepareUpdate hout).trans (h.guardUpdate hguarded)
  shows b := by
    rw [hp]
    obtain ⟨shown, hshown, _⟩ := h.finishWrite _ p.tenantID b
    exact ⟨shown, hshown⟩

end TenantProxy

def bindingContract : Contract :=
  { dashContract with isManagedBindingName := fun name => startsWith name "kubezoo:clusterrolebinding:" }

def roleBindings : TenantProxy BindingBody where
  kind := { group := "rbac.authorization.k8s.io", version := "v1", kind := "RoleBinding" }
  resource := "rolebindings"
  namespaceScoped := true
  contract := bindingContract
  convertor :=
    { convertTenantObjectToUpstreamObject := fun o tid _ =>
        .ok { o with metadata := { o.metadata with
          «namespace» := bindingContract.upstreamNamespace tid o.metadata.namespace } }
      convertUpstreamObjectToTenantObject := fun o tid _ =>
        .ok { o with metadata := { o.metadata with
          «namespace» := bindingContract.trimTenantIDPrefix tid o.metadata.namespace } } }

lemma keepsNames_roleBindings : roleBindings.KeepsNames .permissive where
  typed := rfl
  forward o t b o' h := by rw [← Except.ok.inj h]; exact ⟨rfl, rfl⟩
  backward o t b := ⟨_, rfl, rfl⟩
  body o := ⟨_, rfl⟩
  view o := rfl
  address o original o' h := by rw [← Except.ok.inj h]

def tenantProjection : Projection where
  contract := bindingContract
  tenantID := "111111"
  records := roleBindings.records .permissive noPod
    { echoClient with get := fun _ _ name => .error (bindingNotFound name), getNamespace := fun _ => .ok () }
    (fun _ => false) "111111" "" ""

lemma writesRecords_tenantProjection : tenantProjection.WritesRecords :=
  keepsNames_roleBindings.writesRecords (fun _ => rfl) _ _ _ _ rfl (by decide +kernel)

def plainApiserver : Apiserver where
  suffix S := formatUint S.revision
  merge _ b := .ok b
  selects _ _ := true

lemma permits_plainApiserver : plainApiserver.Permits := fun _ _ => rfl

def Cluster.empty (namespaces : List String) (h : namespaces.Nodup) : Cluster :=
  { namespaces := namespaces, nodup := h, bindings := fun _ => ∅, revision := 0 }

variable {namespaces : List String} {h : namespaces.Nodup}

lemma Cluster.binding_empty (ns name : String) :
    (empty namespaces h).binding ns name = none :=
  Std.ExtTreeMap.getElem?_empty

lemma Cluster.keyed_empty : (empty namespaces h).Keyed := by
  intro ns name b hb
  cases hb

end KubeZoo
