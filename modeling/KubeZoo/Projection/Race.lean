import KubeZoo.Projection.Sync

/-! # A create that meets a delete -/

namespace KubeZoo

open Calls (Interleaving Program Served interleave)
open Cluster (serve)

abbrev UpstreamEvent := Calls.Event Call Call.Reply

def Call.Withdraws (recordName : String) : Call → Prop
  | listNamespaces => True
  | delete _ name options => name = recordName ∧ options = {}
  | _ => False

def Call.Spares (home : String) : Call → Prop
  | listNamespaces => True
  | list _ _ => True
  | get _ _ => True
  | create ns _ _ => ns ≠ home
  | update ns _ _ => ns ≠ home
  | _ => False

def Call.CreatesIn (home : String) (c : Call) : Prop := ∃ b options, c = .create home b options

lemma Call.Reads.spares {c : Call} (hc : c.Reads) (home : String) : c.Spares home := by
  cases c with
  | listNamespaces => trivial
  | list ns options => trivial
  | get ns name => trivial
  | create ns b options | update ns b options | apply ns b options | delete ns name options =>
    cases hc

lemma Call.Spares.not_createsIn {c : Call} {home : String} (hc : c.Spares home) :
    ¬ c.CreatesIn home := by
  rintro ⟨b, options, rfl⟩
  exact hc rfl

namespace Projection

variable {p : Projection} {crb : Binding}

lemma unproject_withdraws (recordName : String) :
    (p.unproject recordName).Only (Call.Withdraws recordName) := by
  refine Program.Only.bind ((Program.only_ask _).mpr trivial) fun reply => ?_
  split
  · trivial
  · refine Program.Only.forM fun ns _ => ?_
    exact Program.Only.bind ((Program.only_ask _).mpr ⟨rfl, rfl⟩) fun _ => trivial

lemma copyInto_spares (record : Binding) (recordName ns : String) :
    (p.copyInto record recordName ns).Only (Call.Spares p.upstreamRecord) := by
  unfold copyInto
  split_ifs with hns
  · trivial
  · refine Program.Only.bind ((Program.only_ask _).mpr hns) fun created => ?_
    split
    · trivial
    · refine Program.Only.bind ((Program.only_ask _).mpr trivial) fun existing => ?_
      split
      · trivial
      · exact Program.Only.bind ((Program.only_ask _).mpr hns) fun _ => trivial

lemma project_spares (recordName : String) :
    (p.project recordName).Only (Call.Spares p.upstreamRecord) := by
  refine Program.Only.bind ((Program.only_ask _).mpr trivial) fun reply => ?_
  split
  · trivial
  · refine Program.Only.bind ((Program.only_ask _).mpr trivial) fun record => ?_
    split
    · trivial
    · exact Program.Only.forM fun ns _ => p.copyInto_spares _ _ _

lemma delete_after (name : String) (options : DeleteOptions) (C : Call → Prop) :
    (p.delete name options).After C (Call.Withdraws (p.contract.projectedBindingName name)) := by
  refine Program.After.bind_left ?_ fun deleted => ?_
  · unfold RecordProxy.delete
    split
    · trivial
    · exact (Program.after_ask _).bind_left fun _ => trivial
  · split
    · trivial
    · exact (p.unproject_withdraws _).bind fun _ => trivial

lemma create_after (options : WriteOptions) :
    (p.create crb options).After (Call.CreatesIn p.upstreamRecord)
      (Call.Spares p.upstreamRecord) := by
  unfold create
  split
  · trivial
  · refine Program.After.bind_right ?_ fun refused => ?_
    · refine p.refuseTooManyBindings_reads.mono fun c hc => ?_
      exact (hc.spares _).not_createsIn
    · split
      · trivial
      · unfold createRecord
        refine Program.After.bind_left ?_ fun created => ?_
        · unfold RecordProxy.create
          split
          · trivial
          · rw [RecordProxy.callCreate_post]
            exact (Program.after_ask _).bind_left fun _ => trivial
        · split
          · trivial
          · exact (p.project_spares _).bind fun _ => trivial

lemma create_creates (options : WriteOptions) :
    (p.create crb options).Only fun c => ∀ b o, c = .create p.upstreamRecord b o →
      ∃ record, asRoleBinding p.contract crb = .ok record ∧
        p.records.beforeCreate record = .ok b := by
  have hspares : ∀ c : Call, c.Spares p.upstreamRecord → ∀ b o, c = .create p.upstreamRecord b o →
      ∃ record, asRoleBinding p.contract crb = .ok record ∧ p.records.beforeCreate record = .ok b :=
    fun c hc b o h => absurd ⟨b, o, h⟩ hc.not_createsIn
  unfold create
  split
  · trivial
  · next record hrecord =>
    refine (p.refuseTooManyBindings_reads.mono fun c hc => hspares c (hc.spares _)).bind fun x => ?_
    split
    · trivial
    · unfold createRecord RecordProxy.create
      refine Program.Only.bind ?_ fun created => ?_
      · split
        · trivial
        · next utd hutd =>
          refine Program.Only.bind ((Program.only_ask _).mpr fun b o h => ?_) fun _ => trivial
          obtain ⟨_, rfl, _⟩ := Call.create.inj h
          exact ⟨record, hrecord, hutd⟩
      · split
        · trivial
        · exact ((p.project_spares _).mono hspares).bind fun _ => trivial

end Projection

namespace Cluster

variable {S S' : Cluster} {srv : Apiserver} {c : Call} {home name : String} {b : Binding}

lemma serve_spares (hc : c.Spares home) :
    (serve srv S c).1.binding home name = S.binding home name := by
  by_cases hns : home = c.ns
  · -- In the records' namespace it only reads.
    have hreads : c.Reads := by
      cases c with
      | listNamespaces | list ns options | get ns name => trivial
      | create ns b options => exact hc hns.symm
      | update ns b options => exact hc hns.symm
      | apply ns b options => cases hc
      | delete ns name options => cases hc
    rw [serve_inert hreads.inert]
  · exact (sameOutside_serve srv c).binding home name hns

lemma binding_remove_uid (h : (S.remove home name).binding home name = some b) :
    ∃ old, S.binding home name = some old ∧ b.metadata.uid = old.metadata.uid := by
  unfold remove at h
  obtain ⟨_, hd⟩ | ⟨old, hold, _, ⟨_, hd⟩ | ⟨_, _, hd⟩ | ⟨_, _, hd⟩ | ⟨_, _, _, hd⟩⟩ :=
    delete_cases S home name {}
  · rw [hd] at h
    exact ⟨b, h, rfl⟩
  · rw [hd] at h
    exact ⟨b, h, rfl⟩
  · rw [hd, binding_set_self] at h
    cases h
  · rw [hd] at h
    exact ⟨b, h, rfl⟩
  · rw [hd, binding_set_self] at h
    refine ⟨old, hold, ?_⟩
    rw [← Option.some.inj h]
    rfl

def Withdrawal (home name : String) (events : List UpstreamEvent) : Prop :=
  ∀ e ∈ events, if e.first then e.call.Withdraws name else e.call.Spares home

def granted (home name : String) (answer : Option Binding) : UpstreamEvent :=
  ⟨true, .delete home name {}, .ok answer⟩

section

variable {events : List UpstreamEvent} {e : UpstreamEvent} {answer : Option Binding}

lemma serve_granted (hreply : (granted home name answer).reply =
    (serve srv S (granted home name answer).call).2) :
    (serve srv S (granted home name answer).call).1 = S.remove home name := by
  have hserved : Except.ok answer = (serve srv S (.delete home name {})).2 := hreply
  show (serve srv S (.delete home name {})).1 = (S.delete home name {}).1
  unfold serve at hserved ⊢
  cases hdeny : srv.deny S (.delete home name {}) with
  | some e => rw [hdeny] at hserved; cases hserved
  | none => rfl

lemma serve_delete_error {options : DeleteOptions} {e : GoError}
    (h : (serve srv S (.delete home name options)).2 = .error e) :
    (serve srv S (.delete home name options)).1 = S := by
  unfold serve at h ⊢
  cases hdeny : srv.deny S (.delete home name options) with
  | some e => rfl
  | none =>
    rw [hdeny] at h
    exact delete_error (Prod.ext rfl h)

variable (h : Withdrawal home name events) (hserved : Served (serve srv) S events S')

include h in
lemma Withdrawal.step (he : e ∈ events) (hreply : e.reply = (serve srv S e.call).2) :
    (serve srv S e.call).1.binding home name = S.binding home name ∨
      ∃ answer, e = granted home name answer := by
  have hevent := h e he
  obtain ⟨first, c, reply⟩ := e
  cases first with
  | false => exact .inl (serve_spares hevent)
  | true =>
    cases c with
    | delete ns name' options =>
      obtain ⟨rfl, rfl⟩ : name' = name ∧ options = {} := hevent
      by_cases hns : home = ns
      · subst hns
        cases reply with
        | ok answer => exact .inr ⟨answer, rfl⟩
        | error e =>
          left
          show (serve srv S (.delete home name' {})).1.binding home name' = _
          rw [serve_delete_error hreply.symm]
      · exact .inl ((sameOutside_serve srv _).binding home name' hns)
    | listNamespaces => exact .inl (serve_spares (c := .listNamespaces) trivial)
    | list ns options | get ns name | create ns b options | update ns b options
    | apply ns b options => cases hevent

lemma Withdrawal.keeps {I : Option Binding → Prop} (h : Withdrawal home name events)
    (hserved : Served (serve srv) S events S')
    (hremove : ∀ S : Cluster, I (S.binding home name) → I ((S.remove home name).binding home name))
    (hS : I (S.binding home name)) : I (S'.binding home name) := by
  refine hserved.invariant (I := fun S => I (S.binding home name)) (fun e he S hreply hS => ?_) hS
  obtain hsame | ⟨answer, rfl⟩ := h.step he hreply
  · rw [hsame]
    exact hS
  · rw [serve_granted hreply]
    exact hremove S hS

include h hserved

lemma Withdrawal.same (hnever : ∀ answer, granted home name answer ∉ events) :
    S'.binding home name = S.binding home name := by
  refine hserved.invariant (I := fun S' => S'.binding home name = S.binding home name)
    (fun e he S₁ hreply hS₁ => ?_) rfl
  obtain hsame | ⟨answer, rfl⟩ := h.step he hreply
  · rw [hsame, hS₁]
  · exact absurd he (hnever answer)

lemma Withdrawal.kept (hb : S.binding home name = some b) (hne : b.body.finalizers ≠ []) :
    ∃ b', S'.binding home name = some b' ∧ b'.metadata.uid = b.metadata.uid := by
  have hkept : ∃ b', S'.binding home name = some b' ∧ b'.metadata.uid = b.metadata.uid ∧
      b'.body.finalizers ≠ [] := by
    refine h.keeps (I := fun o => ∃ b', o = some b' ∧ b'.metadata.uid = b.metadata.uid ∧
      b'.body.finalizers ≠ []) hserved (fun S ⟨b', hb', huid, hne'⟩ => ?_) ⟨b, hb, rfl, hne⟩
    obtain ⟨_, hempty⟩ | ⟨old, b'', hold, _, hb'', _, hfinalizers, _⟩ :=
      binding_remove (S := S) home name
    · exact absurd (hempty b' hb') hne'
    · obtain rfl := Option.some.inj (hb'.symm.trans hold)
      obtain ⟨old', hold', huid'⟩ := binding_remove_uid hb''
      obtain rfl := Option.some.inj (hb'.symm.trans hold')
      exact ⟨b'', hb'', huid'.trans huid, hfinalizers ▸ hne'⟩
  obtain ⟨b', hb', huid, _⟩ := hkept
  exact ⟨b', hb', huid⟩

lemma Withdrawal.gone (hb : S.binding home name = some b) (hempty : b.body.finalizers = [])
    (hgranted : granted home name answer ∈ events) : S'.binding home name = none := by
  -- No record with finalizers comes to be, so a withdrawal leaves none.
  have hremove : ∀ S : Cluster, (∀ b, S.binding home name = some b → b.body.finalizers = []) →
      (S.remove home name).binding home name = none := by
    intro S hS
    obtain ⟨hnone, _⟩ | ⟨old, _, hold, hne, _⟩ := binding_remove (S := S) home name
    · exact hnone
    · exact absurd (hS old hold) hne
  obtain ⟨before, after, rfl⟩ := List.append_of_mem hgranted
  obtain ⟨S₁, hbefore, hreply, hafter⟩ := hserved.split
  have hS₁ : ∀ b, S₁.binding home name = some b → b.body.finalizers = [] := by
    refine Withdrawal.keeps (I := fun o => ∀ b, o = some b → b.body.finalizers = [])
      (fun e he => h e (List.mem_append_left _ he)) hbefore (fun S hS b' hb' => ?_) fun b' hb' => ?_
    · rw [hremove S hS] at hb'
      cases hb'
    · obtain rfl := Option.some.inj (hb.symm.trans hb')
      exact hempty
  refine Withdrawal.keeps (I := fun o => o = none)
    (fun e he => h e (List.mem_append_right _ (List.mem_cons_of_mem _ he))) hafter
    (fun S hS => hremove S fun b hb => ?_) ?_
  · rw [hS] at hb
    cases hb
  · rw [serve_granted hreply]
    exact hremove S₁ hS₁

end

lemma serve_create_ok {sent stored : Binding} {options : WriteOptions}
    (hreal : options.isDryRun = false)
    (h : (serve srv S (.create home sent options)).2 = .ok stored) :
    stored = S.created home (resolvedName srv S sent) sent ∧
      ¬ (sent.metadata.name = "" ∧ sent.metadata.generateName = "") ∧
      (serve srv S (.create home sent options)).1 =
        S.set home (resolvedName srv S sent) (some stored) := by
  unfold serve at h ⊢
  cases hdeny : srv.deny S (.create home sent options) with
  | some e => rw [hdeny] at h; cases h
  | none =>
    rw [hdeny] at h
    have hcreate : S.create srv home sent options.isDryRun = (_, .ok stored) := Prod.ext rfl h
    obtain ⟨hstored, _, _, hS⟩ := create_ok hcreate
    refine ⟨hstored, fun hnames => ?_, ?_⟩
    · unfold create at hcreate
      rw [if_pos hnames] at hcreate
      cases hcreate
    · rw [if_neg (by rw [hreal]; decide)] at hS
      exact hS

end Cluster

namespace Projection

variable {p : Projection} {srv : Apiserver} {S S' : Cluster} {crb sent stored : Binding}
  {options : WriteOptions} {deleteOptions : DeleteOptions} {before after : List UpstreamEvent}
  {deleted : Except GoError (Option Binding)} {created : Except GoError Binding}

lemma resolvedName_record (hp : p.WritesRecords) (hname : crb.metadata.name ≠ "") {record : Binding}
    (hrecord : asRoleBinding p.contract crb = .ok record)
    (hsent : p.records.beforeCreate record = .ok sent)
    (hnames : ¬ (sent.metadata.name = "" ∧ sent.metadata.generateName = "")) :
    Cluster.resolvedName srv S sent = p.contract.projectedBindingName crb.metadata.name := by
  obtain ⟨hrecordName, hgenerate⟩ := (asRoleBinding_name hrecord).1 hname
  obtain ⟨hsentName, hsentGenerate⟩ := hp.create record sent hsent
  have hne : sent.metadata.name ≠ "" := by
    intro hempty
    exact hnames ⟨hempty, hsentGenerate.trans hgenerate⟩
  rw [Cluster.resolvedName, if_neg hne, hsentName, hrecordName]

/-- A create whose record is written once a delete of the same name deleted the record there was: the
record is stored when both are through if and only if it has finalizers, or the delete withdraws
nothing from the records' namespace any more. -/
theorem created_record_stays_iff (hp : p.WritesRecords) (hname : crb.metadata.name ≠ "")
    (hreal : options.isDryRun = false)
    (hrun : Interleaving (serve srv) S (p.delete crb.metadata.name deleteOptions)
      (p.create crb options)
      (before ++ ⟨false, .create p.upstreamRecord sent options, .ok stored⟩ :: after)
      S' deleted created)
    (hdeleted : ∃ answer, ⟨true, .delete p.upstreamRecord
      (p.contract.projectedBindingName crb.metadata.name) deleteOptions, .ok answer⟩ ∈ before) :
    (∃ b, S'.binding p.upstreamRecord (p.contract.projectedBindingName crb.metadata.name) = some b ∧
      b.metadata.uid = stored.metadata.uid) ↔
    sent.body.finalizers ≠ [] ∨ ∀ answer, ⟨true, .delete p.upstreamRecord
      (p.contract.projectedBindingName crb.metadata.name) {}, .ok answer⟩ ∉ after := by
  obtain ⟨answer, hdeleted⟩ := hdeleted
  -- Past the two calls the delete withdraws, and the create writes elsewhere.
  have hwithdrawal : Cluster.Withdrawal p.upstreamRecord
      (p.contract.projectedBindingName crb.metadata.name) after := by
    rw [List.append_cons] at hrun
    refine hrun.after (p.delete_after _ _ fun _ => True) (p.create_after options)
      ⟨_, List.mem_append_left _ hdeleted, rfl, trivial⟩
      ⟨_, List.mem_append_right _ List.mem_cons_self, rfl, sent, options, rfl⟩
  -- The record is stored as it was sent.
  obtain ⟨S₁, _, hreply, hafter⟩ := hrun.served.split
  obtain ⟨hstored, hnames, hserve⟩ := Cluster.serve_create_ok hreal hreply.symm
  have hresolved : Cluster.resolvedName srv S₁ sent =
      p.contract.projectedBindingName crb.metadata.name := by
    have hevent := hrun.only (P := fun _ => True) (Program.only_true _)
      (p.create_creates options) _ (List.mem_append_right _ List.mem_cons_self)
    obtain ⟨record, hrecord, hsent⟩ := hevent sent options rfl
    exact resolvedName_record hp hname hrecord hsent hnames
  rw [hresolved] at hserve
  have hb : (serve srv S₁ (.create p.upstreamRecord sent options)).1.binding p.upstreamRecord
      (p.contract.projectedBindingName crb.metadata.name) = some stored := by
    rw [hserve, Cluster.binding_set_self]
  have hfinalizers : stored.body.finalizers = sent.body.finalizers := by
    rw [hstored]
    rfl
  constructor
  · rintro ⟨b, hb', _⟩
    by_contra hnot
    push Not at hnot
    obtain ⟨hempty, answer, hgranted⟩ := hnot
    rw [hwithdrawal.gone hafter hb (hfinalizers.trans hempty) hgranted] at hb'
    cases hb'
  · rintro (hne | hnever)
    · exact hwithdrawal.kept hafter hb (hfinalizers ▸ hne)
    · exact ⟨stored, (hwithdrawal.same hafter hnever).trans hb, rfl⟩

end Projection

def viewersAlone : Cluster :=
  (Cluster.empty ["111111-kube-system"] (by decide)).set "111111-kube-system"
    "kubezoo:clusterrolebinding:viewers" (some (viewers "111111-kube-system" [] false))

def viewersSent : Binding :=
  { viewersBinding with
    metadata :=
      { name := "kubezoo:clusterrolebinding:viewers", «namespace» := "111111-kube-system"
        labels := (∅ : StringMap).insert bindingContract.projectedClusterRoleBindingLabelKey "true" } }

def viewersStored : Binding :=
  { viewersSent with
    metadata := { viewersSent.metadata with uid := "3", resourceVersion := "3" }
    body := { viewersSent.body with creationTimestamp := "3" } }

def deleteRecord (reply : Except GoError (Option Binding)) : UpstreamEvent :=
  ⟨true, .delete tenantProjection.upstreamRecord
    (tenantProjection.contract.projectedBindingName viewersBinding.metadata.name) {}, reply⟩

def recordDeleted : List UpstreamEvent :=
  [deleteRecord (.ok none), ⟨true, .listNamespaces, .ok ["111111-kube-system"]⟩]

def recordWritten : UpstreamEvent :=
  ⟨false, .create tenantProjection.upstreamRecord viewersSent {}, .ok viewersStored⟩

def recordProjected : List UpstreamEvent :=
  [⟨false, .listNamespaces, .ok ["111111-kube-system"]⟩,
    ⟨false, .get tenantProjection.upstreamRecord "kubezoo:clusterrolebinding:viewers",
      .ok viewersStored⟩]

def deleteAndCreate (schedule : List Bool) :=
  interleave (serve plainApiserver) schedule viewersAlone
    (tenantProjection.delete viewersBinding.metadata.name {})
    (tenantProjection.create viewersBinding {})

theorem created_record_stays_after_delete :
    ∃ S' deleted created, Interleaving (serve plainApiserver) viewersAlone
      (tenantProjection.delete viewersBinding.metadata.name {})
      (tenantProjection.create viewersBinding {})
      ((recordDeleted ++
        [deleteRecord (.error (bindingNotFound "kubezoo:clusterrolebinding:viewers"))]) ++
        recordWritten :: recordProjected) S' deleted created ∧
      ∃ b, S'.binding tenantProjection.upstreamRecord
        (tenantProjection.contract.projectedBindingName viewersBinding.metadata.name) = some b ∧
        b.metadata.uid = viewersStored.metadata.uid := by
  have hevents : (deleteAndCreate [true, true, true, false, false, false]).map (fun x => x.1) =
      some ((recordDeleted ++
        [deleteRecord (.error (bindingNotFound "kubezoo:clusterrolebinding:viewers"))]) ++
        recordWritten :: recordProjected) := by decide +kernel
  obtain ⟨⟨events, S', deleted, created⟩, hrun, rfl⟩ := Option.map_eq_some_iff.mp hevents
  have hrun := Interleaving.of_interleave hrun
  refine ⟨S', deleted, created, hrun, ?_⟩
  refine (Projection.created_record_stays_iff writesRecords_tenantProjection (by decide) rfl hrun
    ⟨none, List.mem_cons_self⟩).mpr (.inr fun answer => ?_)
  simp [recordProjected]

theorem created_record_lost_to_delete :
    ∃ S' deleted created, Interleaving (serve plainApiserver) viewersAlone
      (tenantProjection.delete viewersBinding.metadata.name {})
      (tenantProjection.create viewersBinding {})
      (recordDeleted ++ recordWritten :: recordProjected ++ [deleteRecord (.ok none)])
      S' (.ok deleted) (.ok created) ∧
      S'.binding tenantProjection.upstreamRecord
        (tenantProjection.contract.projectedBindingName viewersBinding.metadata.name) = none := by
  have hrun : (deleteAndCreate [true, true, false, false, false, true]).map (fun x =>
      (x.1, x.2.1.binding tenantProjection.upstreamRecord
        (tenantProjection.contract.projectedBindingName viewersBinding.metadata.name),
        x.2.2.1.isOk, x.2.2.2.isOk)) =
      some (recordDeleted ++ recordWritten :: recordProjected ++ [deleteRecord (.ok none)],
        none, true, true) := by decide +kernel
  obtain ⟨⟨events, S', deleted, created⟩, hrun, h⟩ := Option.map_eq_some_iff.mp hrun
  obtain ⟨rfl, hgone, hdeleted, hcreated⟩ : _ ∧ _ ∧ _ ∧ _ := by simpa only [Prod.mk.injEq] using h
  cases deleted with
  | error e => cases hdeleted
  | ok deleted =>
    cases created with
    | error e => cases hcreated
    | ok created => exact ⟨S', deleted, created, .of_interleave hrun, hgone⟩

end KubeZoo
