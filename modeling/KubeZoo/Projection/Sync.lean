import KubeZoo.Lib.Transition
import KubeZoo.Projection.DryRun

/-! # Records and copies over runs -/

namespace KubeZoo

open Cluster

open Calls (Program)
open Cluster (serve Wrote)
open Transition (System)

/-- A name that the record and the copies of some ClusterRoleBinding have. -/
def Contract.IsProjectedName (c : Contract) (name : String) : Prop :=
  ∃ crb, c.projectedBindingName crb = name

variable {p : Projection} {srv : Apiserver} {S S' : Cluster} {name : String}

namespace Projection

section

variable (hsrv : srv.Permits) (hp : p.WritesRecords)

include hsrv hp

lemma run_create_real (crb : Binding) {options : WriteOptions} (hreal : options.isDryRun = false) :
    (((p.create crb options).run (serve srv) S).1 = S ∧
      ∃ e, ((p.create crb options).run (serve srv) S).2 = .error e) ∨
    ∃ record sent stored S₁, asRoleBinding p.contract crb = .ok record ∧
      p.records.beforeCreate record = .ok sent ∧
      S.create srv p.records.ns sent false = (S₁, .ok stored) ∧
      ((p.create crb options).run (serve srv) S).1 =
        ((p.project stored.metadata.name).run (serve srv) S₁).1 := by
  unfold create
  cases hrecord : asRoleBinding p.contract crb with
  | error e => exact .inl ⟨rfl, e, rfl⟩
  | ok record =>
    rw [Program.run_bind, run_inert p.refuseTooManyBindings_inert]
    cases (p.refuseTooManyBindings.run (serve srv) S).2 with
    | error e => exact .inl ⟨rfl, e, rfl⟩
    | ok _ =>
      unfold createRecord
      rw [Program.run_bind]
      cases hcreate : (p.records.create false record options).run (serve srv) S with
      | mk S₁ x =>
        cases x with
        | error e =>
          obtain ⟨rfl, _⟩ | ⟨_, stored, _, _, hanswer⟩ :=
            RecordProxy.create_outcome hsrv hreal hcreate
          · exact .inl ⟨rfl, _, rfl⟩
          · obtain ⟨b', hb'⟩ := hp.shows stored
            rw [hb'] at hanswer
            cases hanswer
        | ok created =>
          obtain ⟨sent, stored, hsent, hstored, hanswer⟩ := RecordProxy.create_post hsrv hcreate
          rw [hreal] at hstored
          refine .inr ⟨record, sent, stored, S₁, rfl, hsent, hstored, ?_⟩
          show Prod.fst (Program.run (serve srv) (p.project created.metadata.name >>= _) S₁) = _
          rw [Program.run_bind, hp.name _ _ hanswer]
          rfl

lemma run_update_real (isPatch : Bool) {req : PatchRequest BindingBody}
    (hreal : req.options.isDryRun = false) (rounds : ℕ) :
    (((p.update isPatch req rounds).run (serve srv) S).1 = S ∧
      ∀ result, ((p.update isPatch req rounds).run (serve srv) S).2 ≠ some (.ok result)) ∨
    ∃ sent stored S₁, p.records.SendsUpdate srv S isPatch (p.recordRequest req) sent ∧
      Wrote S p.records.ns sent S₁ stored ∧
      ((p.update isPatch req rounds).run (serve srv) S).1 =
        ((p.project (p.contract.projectedBindingName req.name)).run (serve srv) S₁).1 := by
  have hreal' : (p.recordRequest req).options.isDryRun = false := hreal
  unfold update
  rw [Program.run_bind]
  cases hupdate : (p.records.update isPatch (p.recordRequest req) rounds).run (serve srv) S with
  | mk S₁ x =>
    obtain ⟨rfl, hfails⟩ | ⟨sent, stored, result, hsends, hwrote, _, created, rfl⟩ :=
      RecordProxy.update_outcome hsrv hreal' hp.shows hupdate
    · left
      cases x with
      | none => exact ⟨rfl, fun _ h => nomatch h⟩
      | some x =>
        cases x with
        | error e => exact ⟨rfl, fun _ h => nomatch h⟩
        | ok result => exact absurd rfl (hfails result)
    · refine .inr ⟨sent, stored, S₁, hsends, hwrote, ?_⟩
      show Prod.fst (Program.run (serve srv) (p.project _ >>= _) S₁) = _
      rw [Program.run_bind]
      rfl

lemma run_delete_outcome (options : DeleteOptions) (name : String) :
    (((p.delete name options).run (serve srv) S).1 = S ∧
      ∃ e, ((p.delete name options).run (serve srv) S).2 = .error e) ∨
    ((p.delete name options).run (serve srv) S).1 =
      ((p.unproject (p.contract.projectedBindingName name)).run (serve srv)
        (S.delete p.records.ns (p.contract.projectedBindingName name) options).1).1 := by
  unfold delete
  rw [Program.run_bind]
  cases hdelete : (p.records.delete (p.contract.projectedBindingName name) options).run
      (serve srv) S with
  | mk S₁ x =>
    obtain ⟨rfl, e, rfl⟩ | ⟨rfl, deleted, rfl⟩ := RecordProxy.delete_outcome hsrv hp.shows hdelete
    · exact .inl ⟨rfl, _, rfl⟩
    · right
      show Prod.fst (Program.run (serve srv) (p.unproject _ >>= _) _) = _
      rw [Program.run_bind]
      rfl

end

structure Tenancy (p : Projection) (S : Cluster) : Prop where
  keyed : S.Keyed
  home : p.upstreamRecord ∈ S.namespaces
  few : S.namespaces.length ≤ maxFannedNamespaces

def gateway (p : Projection) (srv : Apiserver) (Init : Cluster → Prop) :
    System Cluster BindingRequest where
  Init := Init
  Step S req S' := S' = ((p.perform req).run (serve srv) S).1

def Sends (p : Projection) (srv : Apiserver) (S : Cluster) : BindingRequest → Binding → Prop
  | .create crb _, sent =>
    ∃ record, asRoleBinding p.contract crb = .ok record ∧ p.records.beforeCreate record = .ok sent
  | .update isPatch req _, sent => p.records.SendsUpdate srv S isPatch (p.recordRequest req) sent
  | .delete _ _, _ => False
  | .deleteCollection _ _, _ => False

end Projection

/-- An update names the binding that it updates. -/
def BindingRequest.Named : BindingRequest → Prop
  | update _ req _ => req.name ≠ "" ∧
    ∀ old crb, req.objInfo.updatedObject old = .ok crb → crb.metadata.name = req.name
  | _ => True

def BindingRequest.propagation : BindingRequest → Option String
  | delete _ options => options.propagation
  | deleteCollection options _ => options.propagation
  | _ => none

lemma asRoleBinding_name {c : Contract} {crb record : Binding}
    (h : asRoleBinding c crb = .ok record) :
    (crb.metadata.name ≠ "" → record.metadata.name = c.projectedBindingName crb.metadata.name ∧
      record.metadata.generateName = "") ∧
    (crb.metadata.name = "" → record.metadata.name = "" ∧
      record.metadata.generateName = c.projectedBindingName crb.metadata.generateName) := by
  unfold asRoleBinding at h
  split at h
  · cases h
  · simp only at h
    split_ifs at h with hname hgenerate
    · rw [← Except.ok.inj h]
      exact ⟨fun _ => ⟨rfl, rfl⟩, fun hempty => absurd hempty hname⟩
    · rw [← Except.ok.inj h]
      exact ⟨fun hne => absurd hne hname, fun _ => ⟨rfl, rfl⟩⟩

namespace Projection

variable {b old sent stored record : Binding} {req : PatchRequest BindingBody} {isPatch : Bool}
  {rounds : ℕ} {S₁ : Cluster} {options : DeleteOptions}

section

variable (hne : req.name ≠ "")
  (hnamed : ∀ old crb, req.objInfo.updatedObject old = .ok crb → crb.metadata.name = req.name)
include hne hnamed

lemma updatedObject_name (h : (p.recordRequest req).objInfo.updatedObject old = .ok b) :
    b.metadata.name = p.contract.projectedBindingName req.name := by
  obtain ⟨crb, hcrb, hb⟩ := Except.bind_eq_ok_iff.mp h
  have hname := hnamed _ _ hcrb
  rw [((asRoleBinding_name hb).1 (by rw [hname]; exact hne)).1, hname]

lemma patched_name (h : TenantProxy.patched (p.recordRequest req).objInfo old = .ok b) :
    b.metadata.name = p.contract.projectedBindingName req.name := by
  obtain ⟨_, _, hb⟩ := Except.bind_eq_ok_iff.mp h
  exact updatedObject_name hne hnamed hb

end

lemma sendsUpdate_name (hp : p.WritesRecords)
    (hnamed : (BindingRequest.update isPatch req rounds).Named)
    (h : p.records.SendsUpdate srv S isPatch (p.recordRequest req) sent) :
    sent.metadata.name = p.contract.projectedBindingName req.name := by
  have hstores : ∀ utd, p.records.Stores srv S isPatch utd sent →
      sent.metadata.name = utd.metadata.name := by
    rintro utd (rfl | ⟨_, _, merged, _, rfl⟩)
    · rfl
    · rfl
  obtain ⟨original, utd, _, hutd, hst⟩ | ⟨_, updated, hpatch, utd, hutd, hst⟩ := h
  · obtain ⟨b, hb, hutd⟩ := Except.bind_eq_ok_iff.mp hutd
    rw [hstores utd hst, hp.update _ _ _ hutd]
    unfold RecordProxy.updated at hb
    split_ifs at hb
    · exact patched_name hnamed.1 hnamed.2 hb
    · exact updatedObject_name hnamed.1 hnamed.2 hb
  · rw [hstores utd hst, (hp.create _ _ hutd).1]
    exact patched_name hnamed.1 hnamed.2 hpatch

lemma Tenancy.run {α : Type} (hS : p.Tenancy S) (q : UpstreamProgram α) :
    p.Tenancy (q.run (serve srv) S).1 := by
  refine Program.run_invariant (I := p.Tenancy) (fun S' c hS' => ?_) q hS
  obtain ⟨hkeyed, hnamespaces⟩ := serve_keeps srv hS'.keyed c
  exact ⟨hkeyed, hnamespaces ▸ hS'.home, hnamespaces ▸ hS'.few⟩

/-- No namespace has a binding under a projected name. -/
def NoRecords (p : Projection) (S : Cluster) : Prop :=
  ∀ ns ∈ S.namespaces, ∀ name, p.contract.IsProjectedName name → S.binding ns name = none

/-- A property of a name that the requests allowed by `G` keep, among them the deletes with options
`D`: it depends on what is bound to the name only, and it survives a write of the record with the
copies that follow, a new copy of what is stored, and a delete with the withdrawal that follows. -/
structure NameInvariant (p : Projection) (srv : Apiserver) (G : Cluster → BindingRequest → Prop)
    (D : DeleteOptions → Prop) (Q : Cluster → String → Prop) : Prop where
  named : ∀ {S req}, G S req → req.Named
  options : ∀ {S name options}, G S (.delete name options) → D options
  collectionOptions : ∀ {S options listOptions}, G S (.deleteCollection options listOptions) → D options
  frame : ∀ {K S S' name}, Q S name → Cluster.SameOutside K S S' → (∀ ns, ¬ K ns name) → Q S' name
  write : ∀ {S S₁ req sent stored}, G S req → req.isDryRun = false → p.Tenancy S →
    p.Sends srv S req sent → Wrote S p.upstreamRecord sent S₁ stored →
    (S.binding p.upstreamRecord stored.metadata.name = none ∨
      ∃ isPatch q rounds, req = .update isPatch q rounds ∧
        stored.metadata.name = p.contract.projectedBindingName q.name) →
    Q S stored.metadata.name →
      Q ((p.project stored.metadata.name).run (serve srv) S₁).1 stored.metadata.name
  rewrite : ∀ {S req name}, G S req → req.isDryRun = true → p.Tenancy S → Q S name →
    Q ((p.project name).run (serve srv) S).1 name
  delete : ∀ {S options name}, D options → p.Tenancy S → Q S name →
    Q ((p.unproject name).run (serve srv) (S.delete p.upstreamRecord name options).1).1 name

def AllNames (p : Projection) (Q : Cluster → String → Prop) (S : Cluster) : Prop :=
  ∀ name, p.contract.IsProjectedName name → Q S name

namespace NameInvariant

variable {G : Cluster → BindingRequest → Prop} {D : DeleteOptions → Prop}
  {Q : Cluster → String → Prop} (hQ : p.NameInvariant srv G D Q)
  (hsrv : srv.Permits) (hp : p.WritesRecords) (hm : ∀ crb, p.contract.projectedBindingName crb ≠ "")
  (hS : p.Tenancy S) (h : p.AllNames Q S)

include hQ in
lemma step_name {n : String} (hframe : Cluster.SameOutside (fun _ name => name = n) S S')
    (h : p.AllNames Q S) (hn : p.contract.IsProjectedName n → Q S' n) :
    p.AllNames Q S' := by
  intro name hname
  by_cases heq : name = n
  · subst heq
    exact hn hname
  · exact hQ.frame (h name hname) hframe fun _ => heq

include hsrv hS in
lemma sameOutside_write (hwrote : Wrote S p.upstreamRecord sent S₁ stored) :
    Cluster.SameOutside (fun _ name => name = stored.metadata.name) S
      ((p.project stored.metadata.name).run (serve srv) S₁).1 :=
  (hwrote.sameOutside.mono fun _ _ h => h.2).trans
    ((sameOutside_project hsrv (hS.keyed.wrote hwrote) _).mono fun _ _ h => h.2.2)

include hQ hsrv hp hS h in
lemma step_create {crb : Binding} {options : WriteOptions} (hG : G S (.create crb options)) :
    p.AllNames Q ((p.create crb options).run (serve srv) S).1 := by
  cases hdry : options.isDryRun with
  | true =>
    rw [run_create_dry hsrv hp.toServesRecords hdry]
    exact h
  | false =>
    obtain ⟨heq, _⟩ | ⟨record, sent, stored, S₁, hrecord, hsent, hstored, heq⟩ :=
      run_create_real (S := S) hsrv hp crb hdry
    · rw [heq]
      exact h
    · rw [heq]
      rw [hp.ns] at hstored
      have hwrote := wrote_create hstored
      refine hQ.step_name (sameOutside_write hsrv hS hwrote) h fun hprojected => ?_
      refine hQ.write hG hdry hS ⟨record, hrecord, hsent⟩ hwrote (.inl ?_) (h _ hprojected)
      obtain ⟨rfl, _, hnone, _⟩ := create_ok hstored
      exact hnone

include hQ hsrv hp hm hS h in
lemma step_update (hG : G S (.update isPatch req rounds)) :
    p.AllNames Q ((p.update isPatch req rounds).run (serve srv) S).1 := by
  cases hdry : req.options.isDryRun with
  | true =>
    -- The record is as it was, and may be copied again.
    have hdry' : (p.recordRequest req).options.isDryRun = true := hdry
    unfold Projection.update
    rw [Program.run_bind, run_inert (RecordProxy.update_inert hdry' rounds)]
    cases ((p.records.update isPatch (p.recordRequest req) rounds).run (serve srv) S).2 with
    | none => exact h
    | some x =>
      cases x with
      | error e => exact h
      | ok result =>
        show p.AllNames Q (Program.run (serve srv) (p.project _ >>= _) S).1
        rw [Program.run_bind]
        refine hQ.step_name ((sameOutside_project hsrv hS.keyed _).mono fun _ _ h => h.2.2) h ?_
        exact fun hprojected => hQ.rewrite hG hdry hS (h _ hprojected)
  | false =>
    obtain ⟨heq, _⟩ | ⟨sent, stored, S₁, hsends, hwrote, heq⟩ :=
      run_update_real (S := S) hsrv hp isPatch hdry rounds
    · rw [heq]
      exact h
    · have hname := sendsUpdate_name hp (hQ.named hG) hsends
      have hstored : stored.metadata.name = p.contract.projectedBindingName req.name :=
        (hwrote.name_eq (by rw [hname]; exact hm _)).trans hname
      rw [heq, ← hstored]
      rw [hp.ns] at hwrote
      refine hQ.step_name (sameOutside_write hsrv hS hwrote) h fun hprojected => ?_
      exact hQ.write hG hdry hS hsends hwrote (.inr ⟨isPatch, req, rounds, rfl, hstored⟩)
        (h _ hprojected)

include hQ hsrv hp hS h in
lemma step_delete (hD : D options) (name : String) :
    p.AllNames Q ((p.delete name options).run (serve srv) S).1 := by
  obtain ⟨heq, _⟩ | heq := run_delete_outcome (S := S) hsrv hp options name
  · rw [heq]
    exact h
  · rw [heq, hp.ns]
    refine hQ.step_name (n := p.contract.projectedBindingName name) ?_ h fun hprojected => ?_
    · exact ((sameOutside_delete options).mono fun _ _ h => h.2).trans
        ((sameOutside_unproject hsrv _).mono fun _ _ h => h.2)
    · exact hQ.delete hD hS (h _ hprojected)

include hQ hsrv hp hS h in
lemma step_deleteAll (hD : D options) (names : List String) :
    p.AllNames Q ((p.deleteAll options names).run (serve srv) S).1 := by
  induction names generalizing S with
  | nil => exact h
  | cons name names ih =>
    unfold deleteAll
    rw [Program.run_bind]
    have hnext := hQ.step_delete hsrv hp hS h hD name
    cases ((p.delete name options).run (serve srv) S).2 with
    | error e => exact hnext
    | ok _ => exact ih (hS.run _) hnext

include hQ hsrv hp hm hS h in
lemma step {req : BindingRequest} (hG : G S req) :
    p.AllNames Q ((p.perform req).run (serve srv) S).1 := by
  unfold perform
  cases req with
  | create crb options =>
    rw [Program.run_bind]
    exact hQ.step_create hsrv hp hS h hG
  | update isPatch req rounds =>
    rw [Program.run_bind]
    exact hQ.step_update hsrv hp hm hS h hG
  | delete name options =>
    rw [Program.run_bind]
    exact hQ.step_delete hsrv hp hS h (hQ.options hG) name
  | deleteCollection options listOptions =>
    rw [Program.run_bind]
    show p.AllNames Q ((p.deleteCollection options listOptions).run (serve srv) S).1
    unfold deleteCollection
    rw [Program.run_bind, run_inert p.list_inert]
    cases ((p.list listOptions).run (serve srv) S).2 with
    | error e => exact h
    | ok crbs =>
      rw [Program.run_bind]
      exact hQ.step_deleteAll hsrv hp hS h (hQ.collectionOptions hG) _

include hQ hsrv hp hm in
lemma reachable (hgone : ∀ S name, p.Tenancy S → (∀ ns ∈ S.namespaces, S.binding ns name = none) →
    Q S name)
    (h : ((p.gateway srv fun S => p.Tenancy S ∧ p.NoRecords S).restrict G).Reachable S) :
    p.AllNames Q S := by
  refine (h.invariant (P := fun S => p.Tenancy S ∧ p.AllNames Q S) ?_ ?_).2
  · intro S ⟨hS, hnone⟩
    exact ⟨hS, fun name hname => hgone S name hS fun ns hns => hnone ns hns name hname⟩
  · intro S req S' _ ⟨hS, hall⟩ ⟨hstep, hG⟩
    rw [hstep]
    exact ⟨hS.run _, hQ.step hsrv hp hm hS hall hG⟩

end NameInvariant

structure Synced (p : Projection) (S : Cluster) (name : String) : Prop where
  gone : S.binding p.upstreamRecord name = none → ∀ ns ∈ S.namespaces, S.binding ns name = none
  like : ∀ record, S.binding p.upstreamRecord name = some record →
    record.body.deletionTimestamp = false ∧ record.body.finalizers = [] ∧
      ∀ ns ∈ S.namespaces, ∃ b, S.binding ns name = some b ∧ CopyOf record b ∧
        b.body.deletionTimestamp = false

lemma Synced.of_sameOutside {K : String → String → Prop} (h : p.Synced S name)
    (hS : Cluster.SameOutside K S S') (hK : ∀ ns, ¬ K ns name) : p.Synced S' name where
  gone hnone ns hns := by
    rw [hS.binding _ _ (hK _)] at hnone ⊢
    exact h.gone hnone ns (hS.namespaces ▸ hns)
  like record hrecord := by
    rw [hS.binding _ _ (hK _)] at hrecord
    obtain ⟨hmark, hempty, hcopies⟩ := h.like record hrecord
    refine ⟨hmark, hempty, fun ns hns => ?_⟩
    rw [hS.binding _ _ (hK _)]
    exact hcopies ns (hS.namespaces ▸ hns)

section

variable (hsrv : srv.Permits) (hS : p.Tenancy S)

include hsrv hS

lemma Synced.project (hrecord : S.binding p.upstreamRecord name = some record)
    (hmark : record.body.deletionTimestamp = false) (hempty : record.body.finalizers = [])
    (hcopies : ∀ ns ∈ S.namespaces, ns ≠ p.upstreamRecord → ∀ b, S.binding ns name = some b →
      b.body.roleRef = record.body.roleRef ∧ b.body.deletionTimestamp = false) :
    p.Synced ((p.project name).run (serve srv) S).1 name := by
  have hframe := sameOutside_project (p := p) hsrv hS.keyed name
  have hhome : ((p.project name).run (serve srv) S).1.binding p.upstreamRecord name = some record := by
    rw [hframe.binding _ _ fun h => h.2.1 rfl]
    exact hrecord
  constructor
  · intro hnone
    rw [hhome] at hnone
    cases hnone
  · intro record' hrecord'
    obtain rfl := Option.some.inj (hhome.symm.trans hrecord')
    refine ⟨hmark, hempty, fun ns hns => ?_⟩
    exact copies_project hsrv hS.few hS.keyed hrecord hmark hcopies (hframe.namespaces ▸ hns)

lemma Synced.write
    (hsync : p.Synced S stored.metadata.name) (hwrote : Wrote S p.upstreamRecord sent S₁ stored)
    (hempty : sent.body.finalizers = []) :
    p.Synced ((p.project stored.metadata.name).run (serve srv) S₁).1 stored.metadata.name := by
  have hframe := hwrote.sameOutside
  have hS₁ : p.Tenancy S₁ := ⟨hS.keyed.wrote hwrote, hframe.namespaces ▸ hS.home,
    hframe.namespaces ▸ hS.few⟩
  -- The other namespaces are as they were.
  have hothers : ∀ ns, ns ≠ p.upstreamRecord →
      S₁.binding ns stored.metadata.name = S.binding ns stored.metadata.name :=
    fun ns hne => hframe.binding _ _ fun h => hne h.1
  cases hwrote with
  | created _ _ hnone hmark hfinalizers =>
    refine Synced.project hsrv hS₁ binding_set_self hmark (hfinalizers.trans hempty) ?_
    intro ns hns hne b hb
    rw [hothers ns hne, hsync.gone hnone ns (hframe.namespaces ▸ hns)] at hb
    cases hb
  | @changed old _ _ hold hrole hmark _ hfinalizers =>
    obtain ⟨hunmarked, _, hcopies⟩ := hsync.like old hold
    refine Synced.project hsrv hS₁ binding_set_self (hmark.trans hunmarked)
      (hfinalizers.trans hempty) ?_
    intro ns hns hne b hb
    rw [hothers ns hne] at hb
    obtain ⟨b', hb', hcopy, hmark'⟩ := hcopies ns (hframe.namespaces ▸ hns)
    obtain rfl := Option.some.inj (hb'.symm.trans hb)
    exact ⟨hcopy.fields.2.1.trans hrole.symm, hmark'⟩
  | same _ hold _ hfinalizers =>
    obtain ⟨hunmarked, _, hcopies⟩ := hsync.like stored hold
    refine Synced.project hsrv hS₁ hold hunmarked (hfinalizers.trans hempty) ?_
    intro ns hns hne b hb
    obtain ⟨b', hb', hcopy, hmark'⟩ := hcopies ns hns
    obtain rfl := Option.some.inj (hb'.symm.trans hb)
    exact ⟨hcopy.fields.2.1, hmark'⟩
  | emptied _ hold hmark _ =>
    rw [(hsync.like _ hold).1] at hmark
    cases hmark

lemma Synced.delete (hreal : options.isDryRun = false)
    (hnone : options.propagation = none) (hsync : p.Synced S name) :
    p.Synced ((p.unproject name).run (serve srv) (S.delete p.upstreamRecord name options).1).1
      name := by
  -- Nothing that has the name has finalizers, so all of it goes.
  have hfinalizers : ∀ ns ∈ S.namespaces, ∀ b, S.binding ns name = some b →
      b.body.finalizers = [] := by
    intro ns hns b hb
    cases hrecord : S.binding p.upstreamRecord name with
    | none =>
      rw [hsync.gone hrecord ns hns] at hb
      cases hb
    | some record =>
      obtain ⟨_, hempty, hcopies⟩ := hsync.like record hrecord
      obtain ⟨b', hb', hcopy, _⟩ := hcopies ns hns
      obtain rfl := Option.some.inj (hb'.symm.trans hb)
      exact hcopy.fields.2.2.2.2.2.trans hempty
  have hdeleted : (S.delete p.upstreamRecord name options).1 = S ∨
      (S.delete p.upstreamRecord name options).1 = S.set p.upstreamRecord name none := by
    obtain ⟨_, h⟩ | ⟨old, hold, _, ⟨hdry, _⟩ | ⟨_, _, h⟩ | ⟨_, hne, _⟩ | ⟨_, hne, _⟩⟩ :=
      delete_cases S p.upstreamRecord name options
    · rw [h]; exact .inl rfl
    · rw [hreal] at hdry; cases hdry
    · rw [h]; exact .inr rfl
    · exact absurd (hfinalizers _ hS.home old hold) hne
    · rw [hfinalizers _ hS.home old hold, hnone] at hne
      exact absurd rfl hne
  have hgone : ∀ ns ∈ S.namespaces, ((p.unproject name).run (serve srv)
      (S.delete p.upstreamRecord name options).1).1.binding ns name = none := by
    intro ns hns
    obtain h | h := hdeleted
    · rw [h]
      exact gone_unproject hsrv hS.few hfinalizers hns
    · rw [h]
      refine gone_unproject hsrv hS.few (fun ns' hns' b hb => ?_) hns
      rw [binding_set] at hb
      split_ifs at hb
      exact hfinalizers ns' hns' b hb
  have hnamespaces : ((p.unproject name).run (serve srv)
      (S.delete p.upstreamRecord name options).1).1.namespaces = S.namespaces := by
    rw [(sameOutside_unproject hsrv name).namespaces]
    obtain h | h := hdeleted
    · rw [h]
    · rw [h]; rfl
  constructor
  · intro _ ns hns
    exact hgone ns (hnamespaces ▸ hns)
  · intro record hrecord
    rw [hgone _ hS.home] at hrecord
    cases hrecord

end

structure Plain (p : Projection) (srv : Apiserver) (S : Cluster) (req : BindingRequest) : Prop where
  real : req.isDryRun = false
  named : req.Named
  empty : ∀ sent, p.Sends srv S req sent → sent.body.finalizers = []
  propagation : req.propagation = none

def InSync (p : Projection) (S : Cluster) : Prop :=
  ∀ ns ∈ S.namespaces, ∀ name, p.contract.IsProjectedName name →
    (S.binding p.upstreamRecord name = none → S.binding ns name = none) ∧
    ∀ record, S.binding p.upstreamRecord name = some record →
      ∃ b, S.binding ns name = some b ∧ b.metadata.name = record.metadata.name ∧
        b.body.roleRef = record.body.roleRef ∧ b.body.subjects = record.body.subjects ∧
        b.metadata.labels = record.metadata.labels ∧
        b.metadata.annotations = record.metadata.annotations

lemma nameInvariant_synced (hsrv : srv.Permits) :
    p.NameInvariant srv (p.Plain srv) (fun options => options.isDryRun = false ∧
      options.propagation = none) p.Synced where
  named h := h.named
  options h := ⟨h.real, h.propagation⟩
  collectionOptions h := ⟨h.real, h.propagation⟩
  frame h hS hK := h.of_sameOutside hS hK
  write hplain _ hS hsends hwrote _ h := h.write hsrv hS hwrote (hplain.empty _ hsends)
  rewrite hplain hdry := absurd (hplain.real.symm.trans hdry) Bool.false_ne_true
  delete hD hS h := h.delete hsrv hS hD.1 hD.2

/-- From a tenant without records, with at most as many namespaces as the gateway goes through, the
requests that bring no finalizers keep records and copies in sync. -/
theorem projection_in_sync (hsrv : srv.Permits) (hp : p.WritesRecords)
    (hm : ∀ crb, p.contract.projectedBindingName crb ≠ "")
    (h : ((p.gateway srv fun S => p.Tenancy S ∧ p.NoRecords S).restrict (p.Plain srv)).Reachable S) :
    p.InSync S := by
  have hsync : p.AllNames p.Synced S := by
    refine (nameInvariant_synced hsrv).reachable hsrv hp hm (fun S name hS hnone => ?_) h
    refine ⟨fun _ => hnone, fun record hrecord => ?_⟩
    rw [hnone _ hS.home] at hrecord
    cases hrecord
  intro ns hns name hname
  refine ⟨fun hnone => (hsync name hname).gone hnone ns hns, fun record hrecord => ?_⟩
  obtain ⟨b, hb, hcopy, _⟩ := ((hsync name hname).like record hrecord).2.2 ns hns
  obtain ⟨h₁, h₂, h₃, h₄, h₅, _⟩ := hcopy.fields
  exact ⟨b, hb, h₁, h₂, h₃, h₄, h₅⟩

end Projection

lemma projectedBindingName_bindingContract (crb : String) :
    bindingContract.projectedBindingName crb ≠ "" := by
  intro h
  have hlist := congrArg String.toList h
  rw [show bindingContract.projectedBindingName crb = "kubezoo:clusterrolebinding:" ++ crb from rfl,
    String.toList_append] at hlist
  cases hlist

def viewersBinding : Binding :=
  { metadata := { name := "viewers" }
    body :=
      { roleRef := { apiGroup := "rbac.authorization.k8s.io", kind := "ClusterRole", name := "view" }
        subjects := [{ kind := "User", name := "alice" }] } }

lemma plain_viewersBinding (S : Cluster) :
    tenantProjection.Plain plainApiserver S (.create viewersBinding {}) where
  real := rfl
  named := trivial
  empty sent h := by
    obtain ⟨record, hrecord, hsent⟩ := h
    cases hrecord
    cases hsent
    rfl
  propagation := rfl

lemma nodup_twoNamespaces : ["111111-kube-system", "111111-web"].Nodup := by decide

def twoEmpty : Cluster := empty ["111111-kube-system", "111111-web"] nodup_twoNamespaces

theorem projection_in_sync_first_create :
    (((tenantProjection.perform (.create viewersBinding {})).run (serve plainApiserver)
      twoEmpty).1.binding "111111-web" "kubezoo:clusterrolebinding:viewers").isSome = true ∧
    tenantProjection.InSync
      ((tenantProjection.perform (.create viewersBinding {})).run (serve plainApiserver) twoEmpty).1 := by
  refine ⟨by decide +kernel, ?_⟩
  refine Projection.projection_in_sync permits_plainApiserver writesRecords_tenantProjection
    projectedBindingName_bindingContract (.step (.init ⟨⟨keyed_empty, ?_, ?_⟩, ?_⟩)
      ⟨rfl, plain_viewersBinding twoEmpty⟩)
  · decide +kernel
  · decide
  · intro ns _ name _
    exact binding_empty ns name

def manyNames : List String :=
  (List.range 501).map fun i => "111111-kube-system" ++ String.ofList (List.replicate i 'x')

lemma nodup_manyNames : manyNames.Nodup := by
  refine List.nodup_range.map fun i j h => ?_
  have hlength := congrArg (fun s : String => s.toList.length) h
  simpa using hlength

theorem projection_out_of_sync_many_namespaces :
    tenantProjection.NoRecords (empty manyNames nodup_manyNames) ∧
    tenantProjection.upstreamRecord ∈ (empty manyNames nodup_manyNames).namespaces ∧
    tenantProjection.Plain plainApiserver (empty manyNames nodup_manyNames)
      (.create viewersBinding {}) ∧
    ((tenantProjection.perform (.create viewersBinding {})).run (serve plainApiserver)
      (empty manyNames nodup_manyNames)).2 = some (.ok ()) ∧
    ¬ tenantProjection.InSync ((tenantProjection.perform (.create viewersBinding {})).run
      (serve plainApiserver) (empty manyNames nodup_manyNames)).1 := by
  refine ⟨fun ns _ name _ => binding_empty ns name, by decide +kernel,
    plain_viewersBinding _, by decide +kernel, fun h => ?_⟩
  have hrecord : (((tenantProjection.perform (.create viewersBinding {})).run (serve plainApiserver)
      (empty manyNames nodup_manyNames)).1.binding tenantProjection.upstreamRecord
        "kubezoo:clusterrolebinding:viewers").isSome = true := by decide +kernel
  have hcopy : ((tenantProjection.perform (.create viewersBinding {})).run (serve plainApiserver)
      (empty manyNames nodup_manyNames)).1.binding "111111-kube-systemx"
        "kubezoo:clusterrolebinding:viewers" = none := by decide +kernel
  obtain ⟨record, hrecord⟩ := Option.isSome_iff_exists.mp hrecord
  obtain ⟨b, hb, _⟩ := (h "111111-kube-systemx" (by decide +kernel)
    "kubezoo:clusterrolebinding:viewers" ⟨"viewers", by decide +kernel⟩).2 record hrecord
  rw [hcopy] at hb
  cases hb

end KubeZoo
