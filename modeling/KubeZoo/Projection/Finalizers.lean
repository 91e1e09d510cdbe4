import KubeZoo.Projection.Sync

/-! # Records with finalizers -/

namespace KubeZoo

open Calls (Program)
open Cluster (serve Wrote)
open Transition (System)

namespace Projection

variable {p : Projection} {srv : Apiserver} {S S' : Cluster} {name : String}

structure Mirrored (p : Projection) (S : Cluster) (name : String) : Prop where
  gone : S.binding p.upstreamRecord name = none → ∀ ns ∈ S.namespaces, S.binding ns name = none
  like : ∀ record, S.binding p.upstreamRecord name = some record →
    record.body.deletionTimestamp = false → ∀ ns ∈ S.namespaces, ∀ b, S.binding ns name = some b →
      CopyOf record b ∧ b.body.deletionTimestamp = false
  waits : ∀ record, S.binding p.upstreamRecord name = some record →
    record.body.deletionTimestamp = true → record.body.finalizers ≠ []

lemma Mirrored.of_sameOutside {K : String → String → Prop} (h : p.Mirrored S name)
    (hS : Cluster.SameOutside K S S') (hK : ∀ ns, ¬ K ns name) : p.Mirrored S' name where
  gone hnone ns hns := by
    rw [hS.binding _ _ (hK _)] at hnone ⊢
    exact h.gone hnone ns (hS.namespaces ▸ hns)
  like record hrecord hmark ns hns b hb := by
    rw [hS.binding _ _ (hK _)] at hrecord hb
    exact h.like record hrecord hmark ns (hS.namespaces ▸ hns) b hb
  waits record hrecord := by
    rw [hS.binding _ _ (hK _)] at hrecord
    exact h.waits record hrecord

lemma Mirrored.of_gone (hhome : p.upstreamRecord ∈ S.namespaces)
    (h : ∀ ns ∈ S.namespaces, S.binding ns name = none) : p.Mirrored S name where
  gone _ := h
  like record hrecord := by rw [h _ hhome] at hrecord; cases hrecord
  waits record hrecord := by rw [h _ hhome] at hrecord; cases hrecord

lemma Mirrored.of_marked {record : Binding} (hrecord : S.binding p.upstreamRecord name = some record)
    (hmark : record.body.deletionTimestamp = true) (hne : record.body.finalizers ≠ []) :
    p.Mirrored S name where
  gone hnone := by rw [hrecord] at hnone; cases hnone
  like record' hrecord' hmark' := by
    obtain rfl := Option.some.inj (hrecord.symm.trans hrecord')
    rw [hmark] at hmark'
    cases hmark'
  waits record' hrecord' _ := Option.some.inj (hrecord.symm.trans hrecord') ▸ hne

lemma Mirrored.finalizers {record : Binding} (h : p.Mirrored S name)
    (hrecord : S.binding p.upstreamRecord name = some record) (hempty : record.body.finalizers = []) :
    ∀ ns ∈ S.namespaces, ∀ b, S.binding ns name = some b → b.body.finalizers = [] := by
  intro ns hns b hb
  have hmark : record.body.deletionTimestamp = false :=
    Bool.eq_false_iff.mpr fun hmark => h.waits record hrecord hmark hempty
  exact (h.like record hrecord hmark ns hns b hb).1.fields.2.2.2.2.2.trans hempty

section

variable (hsrv : srv.Permits) (hS : p.Tenancy S)

include hsrv hS

lemma Mirrored.project {record : Binding} (hrecord : S.binding p.upstreamRecord name = some record)
    (hwaits : record.body.deletionTimestamp = true → record.body.finalizers ≠ [])
    (hcopies : record.body.deletionTimestamp = false → ∀ ns ∈ S.namespaces,
      ns ≠ p.upstreamRecord → ∀ b, S.binding ns name = some b →
        b.body.roleRef = record.body.roleRef ∧ b.body.deletionTimestamp = false) :
    p.Mirrored ((p.project name).run (serve srv) S).1 name := by
  have hframe := sameOutside_project (p := p) hsrv hS.keyed name
  have hhome : ((p.project name).run (serve srv) S).1.binding p.upstreamRecord name = some record := by
    rw [hframe.binding _ _ fun h => h.2.1 rfl]
    exact hrecord
  cases hmark : record.body.deletionTimestamp with
  | true => exact .of_marked hhome hmark (hwaits hmark)
  | false =>
    refine ⟨fun hnone => ?_, fun record' hrecord' _ ns hns b hb => ?_, fun record' hrecord' hmark' => ?_⟩
    · rw [hhome] at hnone
      cases hnone
    · obtain rfl := Option.some.inj (hhome.symm.trans hrecord')
      obtain ⟨b', hb', hcopy⟩ := copies_project hsrv hS.few hS.keyed hrecord hmark (hcopies hmark)
        (hframe.namespaces ▸ hns)
      obtain rfl := Option.some.inj (hb'.symm.trans hb)
      exact hcopy
    · obtain rfl := Option.some.inj (hhome.symm.trans hrecord')
      rw [hmark] at hmark'
      cases hmark'

lemma Mirrored.project_stored (h : p.Mirrored S name) :
    p.Mirrored ((p.project name).run (serve srv) S).1 name := by
  cases hrecord : S.binding p.upstreamRecord name with
  | none =>
    rw [run_project_of_none hsrv hrecord]
    exact h
  | some record =>
    refine Mirrored.project hsrv hS hrecord (h.waits record hrecord) fun hmark ns hns _ b hb => ?_
    obtain ⟨hcopy, hmark'⟩ := h.like record hrecord hmark ns hns b hb
    exact ⟨hcopy.fields.2.1, hmark'⟩

lemma Mirrored.write {sent stored : Binding} {S₁ : Cluster}
    (h : p.Mirrored S stored.metadata.name) (hwrote : Wrote S p.upstreamRecord sent S₁ stored)
    (hkeeps : ∀ old, S.binding p.upstreamRecord stored.metadata.name = some old →
      old.body.deletionTimestamp = true → sent.body.finalizers ≠ []) :
    p.Mirrored ((p.project stored.metadata.name).run (serve srv) S₁).1 stored.metadata.name := by
  have hframe := hwrote.sameOutside
  have hS₁ : p.Tenancy S₁ := ⟨hS.keyed.wrote hwrote, hframe.namespaces ▸ hS.home,
    hframe.namespaces ▸ hS.few⟩
  have hothers : ∀ ns, ns ≠ p.upstreamRecord →
      S₁.binding ns stored.metadata.name = S.binding ns stored.metadata.name :=
    fun ns hne => hframe.binding _ _ fun h => hne h.1
  cases hwrote with
  | created _ _ hnone hmark _ =>
    refine Mirrored.project hsrv hS₁ Cluster.binding_set_self (fun hmark' => ?_) ?_
    · rw [hmark] at hmark'
      cases hmark'
    · intro _ ns hns hne b hb
      rw [hothers ns hne, h.gone hnone ns (hframe.namespaces ▸ hns)] at hb
      cases hb
  | @changed old _ _ hold hrole hmark hkept _ =>
    refine Mirrored.project hsrv hS₁ Cluster.binding_set_self (fun hmark' => ?_) ?_
    · exact hkept (hmark.symm.trans hmark')
    · intro hmark' ns hns hne b hb
      rw [hothers ns hne] at hb
      obtain ⟨hcopy, hunmarked⟩ :=
        h.like old hold (hmark.symm.trans hmark') ns (hframe.namespaces ▸ hns) b hb
      exact ⟨hcopy.fields.2.1.trans hrole.symm, hunmarked⟩
  | same _ hold _ _ => exact Mirrored.project_stored hsrv hS h
  | emptied _ hold hmark hempty => exact absurd hempty (hkeeps _ hold hmark)

lemma Mirrored.unproject (h : p.Mirrored S name) :
    p.Mirrored ((p.unproject name).run (serve srv) S).1 name := by
  have hnamespaces := (sameOutside_unproject (p := p) (S := S) hsrv name).namespaces
  have hgone : (∀ ns ∈ S.namespaces, ∀ b, S.binding ns name = some b → b.body.finalizers = []) →
      p.Mirrored ((p.unproject name).run (serve srv) S).1 name := by
    intro hempty
    refine .of_gone (hS.run _).home fun ns hns => ?_
    exact gone_unproject hsrv hS.few hempty (hnamespaces ▸ hns)
  cases hrecord : S.binding p.upstreamRecord name with
  | none =>
    refine hgone fun ns hns b hb => ?_
    rw [h.gone hrecord ns hns] at hb
    cases hb
  | some record =>
    by_cases hempty : record.body.finalizers = []
    · exact hgone (h.finalizers hrecord hempty)
    · -- The record is among what is deleted, and is marked by it.
      obtain ⟨S₁, hget, hrun⟩ := binding_unproject (p := p) hsrv hS.few hS.home
      obtain ⟨_, hnil⟩ | ⟨old, b, hold, hne, hb, hmark, hfinalizers, _⟩ :=
        Cluster.binding_remove (S := S₁) p.upstreamRecord name
      · exact absurd (hnil record (hget.trans hrecord)) hempty
      · exact .of_marked (hrun.trans hb) hmark (hfinalizers ▸ hne)

lemma Mirrored.delete (options : DeleteOptions) (h : p.Mirrored S name) :
    p.Mirrored ((p.unproject name).run (serve srv) (S.delete p.upstreamRecord name options).1).1
      name := by
  obtain ⟨_, hd⟩ | ⟨old, hold, _, ⟨_, hd⟩ | ⟨_, hempty, hd⟩ | ⟨_, _, hd⟩ | ⟨_, hne, _, hd⟩⟩ :=
    Cluster.delete_cases S p.upstreamRecord name options
  · rw [hd]
    exact Mirrored.unproject hsrv hS h
  · rw [hd]
    exact Mirrored.unproject hsrv hS h
  · -- The record goes, and nothing that has its name has finalizers.
    rw [hd]
    have hnamespaces := (sameOutside_unproject (p := p) (S := S.set p.upstreamRecord name none)
      hsrv name).namespaces
    refine .of_gone ?_ fun ns hns => ?_
    · rw [hnamespaces]
      exact hS.home
    · refine gone_unproject hsrv hS.few (fun ns' hns' b hb => ?_) (hnamespaces ▸ hns)
      rw [Cluster.binding_set] at hb
      split_ifs at hb
      exact h.finalizers hold (List.append_eq_nil_iff.mp hempty).1 ns' hns' b hb
  · rw [hd]
    exact Mirrored.unproject hsrv hS h
  · rw [hd]
    refine Mirrored.unproject hsrv ⟨?_, hS.home, hS.few⟩ (.of_marked Cluster.binding_set_self rfl hne)
    refine hS.keyed.set fun b hb => ?_
    rw [← Option.some.inj hb]
    show old.metadata.name = name ∧ name ≠ ""
    exact hS.keyed _ _ _ hold

end

/-- No update takes the last finalizer off a record that is being deleted. -/
def KeepsFinalizer (p : Projection) (srv : Apiserver) (S : Cluster) : BindingRequest → Prop
  | .update isPatch req _ => req.options.isDryRun = false →
    ∀ record, S.binding p.upstreamRecord (p.contract.projectedBindingName req.name) = some record →
      record.body.deletionTimestamp = true →
        ∀ sent, p.records.SendsUpdate srv S isPatch (p.recordRequest req) sent →
          sent.body.finalizers ≠ []
  | _ => True

lemma nameInvariant_mirrored (hsrv : srv.Permits) :
    p.NameInvariant srv (fun S req => req.Named ∧ p.KeepsFinalizer srv S req) (fun _ => True)
      p.Mirrored where
  named h := h.1
  options _ := trivial
  collectionOptions _ := trivial
  frame h hS hK := h.of_sameOutside hS hK
  write {S S₁ req sent stored} hG hreal hS hsends hwrote hover h := by
    refine h.write hsrv hS hwrote fun old hold hmark => ?_
    obtain hnone | ⟨isPatch, q, rounds, rfl, hname⟩ := hover
    · rw [hnone] at hold
      cases hold
    · rw [hname] at hold
      exact hG.2 hreal old hold hmark sent hsends
  rewrite _ _ hS h := h.project_stored hsrv hS
  delete _ hS h := h.delete hsrv hS _

/-- In every run from a tenant without records in which no update takes the last finalizer off a
record that is being deleted, a name without a record is bound in none of the tenant's namespaces. -/
theorem revoked_with_record (hsrv : srv.Permits) (hp : p.WritesRecords)
    (hm : ∀ crb, p.contract.projectedBindingName crb ≠ "")
    (h : ((p.gateway srv fun S => p.Tenancy S ∧ p.NoRecords S).restrict
      fun S req => req.Named ∧ p.KeepsFinalizer srv S req).Reachable S) (name : String)
    (hname : p.contract.IsProjectedName name)
    (hnone : S.binding p.upstreamRecord name = none) :
    ∀ ns ∈ S.namespaces, S.binding ns name = none := by
  have hall : p.AllNames p.Mirrored S :=
    (nameInvariant_mirrored hsrv).reachable hsrv hp hm (fun S name hS hgone => .of_gone hS.home hgone) h
  exact (hall name hname).gone hnone

end Projection

def heldBinding : Binding :=
  { viewersBinding with body := { viewersBinding.body with finalizers := ["example.com/hold"] } }

def released (old : Binding) : Binding :=
  { old with
    metadata := { old.metadata with name := "viewers" }
    body := { old.body with finalizers := [] } }

def releaseBinding : PatchRequest BindingBody :=
  { name := "viewers", objInfo := { updatedObject := fun old => .ok (released old) } }

def afterRequests (requests : List BindingRequest) : Cluster :=
  requests.foldl (fun S req => ((tenantProjection.perform req).run (serve plainApiserver) S).1) twoEmpty

theorem revoked_with_record_released :
    ((afterRequests [.create heldBinding {}]).binding "111111-web"
      "kubezoo:clusterrolebinding:viewers").isSome = true ∧
    ∀ ns ∈ ["111111-kube-system", "111111-web"],
      (afterRequests [.create heldBinding {}, .update false releaseBinding 1,
        .delete "viewers" {}]).binding ns "kubezoo:clusterrolebinding:viewers" = none := by
  have hinit : tenantProjection.Tenancy twoEmpty ∧ tenantProjection.NoRecords twoEmpty := by
    refine ⟨⟨Cluster.keyed_empty, by decide +kernel, by decide⟩, fun ns _ name _ => ?_⟩
    exact Cluster.binding_empty ns name
  refine ⟨by decide +kernel, Projection.revoked_with_record permits_plainApiserver
    writesRecords_tenantProjection projectedBindingName_bindingContract
    (.step (a := .delete "viewers" {}) (.step (a := .update false releaseBinding 1)
      (.step (a := .create heldBinding {}) (.init hinit) ⟨rfl, trivial, trivial⟩)
      ⟨rfl, ⟨by decide, ?_⟩, ?_⟩) ⟨rfl, trivial, trivial⟩)
    "kubezoo:clusterrolebinding:viewers" ⟨"viewers", by decide +kernel⟩ (by decide +kernel)⟩
  · intro old crb h
    rw [← Except.ok.inj h]
    rfl
  · -- The record is not being deleted when its finalizers are taken off.
    intro _ record hrecord hmark
    have hunmarked : ((afterRequests [.create heldBinding {}]).binding
        tenantProjection.upstreamRecord "kubezoo:clusterrolebinding:viewers").map
          (fun b => b.body.deletionTimestamp) = some false := by decide +kernel
    have hname : tenantProjection.contract.projectedBindingName releaseBinding.name =
        "kubezoo:clusterrolebinding:viewers" := by decide +kernel
    rw [← hname, show (afterRequests [.create heldBinding {}]).binding _ _ = some record from hrecord,
      Option.map_some, hmark] at hunmarked
    cases hunmarked

theorem released_record_leaves_copy :
    (afterRequests [.create heldBinding {}, .delete "viewers" {},
      .update false releaseBinding 1]).binding "111111-kube-system"
        "kubezoo:clusterrolebinding:viewers" = none ∧
    ((afterRequests [.create heldBinding {}, .delete "viewers" {},
      .update false releaseBinding 1]).binding "111111-web"
        "kubezoo:clusterrolebinding:viewers").map (fun b => b.body.roleRef.name) = some "view" := by
  decide +kernel

end KubeZoo
