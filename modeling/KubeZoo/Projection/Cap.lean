import KubeZoo.Projection.Race

/-! # The cap on ClusterRoleBindings -/

namespace KubeZoo

open Calls (Program)
open Cluster (serve)

def Object.isRecord (key : String) (b : Binding) : Bool := b.metadata.labels[key]? == some "true"

namespace Cluster

def records (S : Cluster) (ns key : String) : Finset String :=
  ((S.bindings ns).filter fun _ b => b.isRecord key).keys.toFinset

variable {S S' : Cluster} {srv : Apiserver} {c : Call} {ns home key name n : String}

lemma mem_records :
    n ∈ S.records ns key ↔ ∃ b, S.binding ns n = some b ∧ b.isRecord key = true := by
  unfold records binding
  rw [List.mem_toFinset, Std.ExtTreeMap.mem_keys, Std.ExtTreeMap.mem_iff_isSome_getElem?,
    Std.ExtTreeMap.getElem?_filter, Option.isSome_pfilter_iff]
  simp

lemma card_records :
    (S.records ns key).card =
      (((S.bindings ns).toList.map Prod.snd).filter (Object.isRecord key)).length := by
  unfold records
  rw [List.toFinset_card_of_nodup Std.ExtTreeMap.nodup_keys, Std.ExtTreeMap.length_keys,
    ← Std.ExtTreeMap.length_toList, Std.ExtTreeMap.toList_filter, List.filter_map, List.length_map]
  rfl

lemma records_subset_insert (h : ∀ n ≠ name, S'.binding home n = S.binding home n) :
    S'.records home key ⊆ insert name ((S.records home key).erase name) := by
  intro n hn
  by_cases hname : n = name
  · exact Finset.mem_insert.mpr (.inl hname)
  · refine Finset.mem_insert_of_mem (Finset.mem_erase.mpr ⟨hname, ?_⟩)
    obtain ⟨b, hb, hrecord⟩ := mem_records.mp hn
    exact mem_records.mpr ⟨b, h n hname ▸ hb, hrecord⟩

lemma records_congr (h : ∀ n, S'.binding home n = S.binding home n) :
    S'.records home key = S.records home key := by
  ext n
  rw [mem_records, mem_records, h]

end Cluster

def Call.WritesAt (home name : String) (c : Call) : Prop :=
  c.ns = home → c.Reads ∨ c.sentName = some name

def Call.Lessens (c : Call) : Prop := c.Reads ∨ ∃ ns name options, c = .delete ns name options

lemma Call.Spares.writesAt {home name : String} {c : Call} (h : c.Spares home) :
    c.WritesAt home name := by
  intro hns
  cases c with
  | listNamespaces | list ns options | get ns name => exact .inl trivial
  | create ns b options => exact absurd hns h
  | update ns b options => exact absurd hns h
  | apply ns b options => cases h
  | delete ns name options => cases h

namespace Cluster

variable {S : Cluster} {srv : Apiserver} {c : Call} {home key name n : String}

lemma serve_writesAt (hc : c.WritesAt home name) (hname : name ≠ "") (hn : n ≠ name) :
    (serve srv S c).1.binding home n = S.binding home n := by
  by_cases hns : c.ns = home
  · rcases hc hns with hreads | hsent
    · rw [serve_inert hreads.inert]
    · unfold serve
      cases srv.deny S c with
      | some e => rfl
      | none =>
        obtain h | ⟨sent, b, hsent', hwrote⟩ | ⟨hnone, _⟩ := answer_cases S srv c
        · exact congrArg (fun S' : Cluster => S'.binding home n) h
        · obtain rfl : sent.metadata.name = name := Option.some.inj (hsent'.symm.trans hsent)
          refine hwrote.sameOutside.binding home n fun hkey => hn ?_
          rw [hkey.2, hwrote.name_eq hname]
        · rw [hnone] at hsent
          cases hsent
  · exact (sameOutside_serve srv c).binding home n fun h => hns h.symm

lemma records_serve_lessens (hc : c.Lessens) :
    (serve srv S c).1.records home key ⊆ S.records home key := by
  obtain hreads | ⟨ns, name, options, rfl⟩ := hc
  · rw [serve_inert hreads.inert]
  · unfold serve
    cases srv.deny S (.delete ns name options) with
    | some e => exact subset_rfl
    | none =>
      show (S.delete ns name options).1.records home key ⊆ _
      intro n hn
      obtain ⟨b, hb, hrecord⟩ := mem_records.mp hn
      obtain ⟨_, h⟩ | ⟨old, hold, _, ⟨_, h⟩ | ⟨_, _, h⟩ | ⟨_, _, h⟩ | ⟨_, _, _, h⟩⟩ :=
        delete_cases S ns name options
      · rwa [h] at hn
      · rwa [h] at hn
      · rw [h, binding_set] at hb
        split_ifs at hb
        exact mem_records.mpr ⟨b, hb, hrecord⟩
      · rwa [h] at hn
      · rw [h, binding_set] at hb
        split_ifs at hb with hkey
        · -- What is marked keeps its labels.
          rw [← Option.some.inj hb] at hrecord
          exact mem_records.mpr ⟨old, by rw [hkey.1, hkey.2, hold], hrecord⟩
        · exact mem_records.mpr ⟨b, hb, hrecord⟩

lemma card_records_serve_create (b : Binding) (options : WriteOptions) :
    ((serve srv S (.create home b options)).1.records home key).card ≤
      (S.records home key).card + 1 := by
  have hone : ∃ name, ∀ n ≠ name,
      (serve srv S (.create home b options)).1.binding home n = S.binding home n := by
    unfold serve
    cases srv.deny S (.create home b options) with
    | some e => exact ⟨"", fun _ _ => rfl⟩
    | none =>
      obtain h | ⟨sent, stored, -, hwrote⟩ | ⟨hnone, _⟩ := answer_cases S srv (.create home b options)
      · exact ⟨"", fun n _ => congrArg (fun S' : Cluster => S'.binding home n) h⟩
      · exact ⟨stored.metadata.name, fun n hn => hwrote.sameOutside.binding home n fun h => hn h.2⟩
      · cases hnone
  obtain ⟨name, hname⟩ := hone
  calc ((serve srv S (.create home b options)).1.records home key).card
      ≤ (insert name ((S.records home key).erase name)).card :=
        Finset.card_le_card (records_subset_insert hname)
    _ ≤ ((S.records home key).erase name).card + 1 := Finset.card_insert_le _ _
    _ ≤ (S.records home key).card + 1 := Nat.add_le_add_right Finset.card_erase_le 1

end Cluster

namespace Projection

variable (p : Projection)

def stored (S : Cluster) : Finset String :=
  S.records p.upstreamRecord p.contract.projectedClusterRoleBindingLabelKey

structure Counts (srv : Apiserver) : Prop where
  list : ∀ S ns options, srv.deny S (.list ns options) = none
  selects : ∀ b, srv.selects
      { labelSelector := p.contract.projectedClusterRoleBindingLabelKey ++ "=true" } b =
    b.isRecord p.contract.projectedClusterRoleBindingLabelKey
  shows : ∀ l, ∃ l', p.records.answerList l = .ok l' ∧ l'.length = l.length

structure Roomy (S : Cluster) (req : BindingRequest) : Prop where
  named : req.Named
  room : ∀ isPatch (r : PatchRequest BindingBody) rounds, req = .update isPatch r rounds →
    p.contract.projectedBindingName r.name ∈ p.stored S ∨
    (S.binding p.upstreamRecord (p.contract.projectedBindingName r.name) = none ∧
      r.forceAllowCreate = false) ∨
    ((p.stored S).card : ℤ) < p.limit

variable {p} {srv : Apiserver} {S : Cluster}

variable {isPatch : Bool} {req : PatchRequest BindingBody} {rounds : ℕ}

/-- The calls that write no record but the one that `req` names. -/
abbrev WritesNamed (p : Projection) (req : PatchRequest BindingBody) : Call → Prop :=
  Call.WritesAt p.upstreamRecord (p.contract.projectedBindingName req.name)

lemma ask_writesNamed (C : Binding → Call) (hC : ∀ b, (C b).sentName = some b.metadata.name)
    {utd : Binding} (hutd : utd.metadata.name = p.contract.projectedBindingName req.name) :
    (C utd).ask.Only (p.WritesNamed req) :=
  (Program.only_ask _).mpr fun _ => .inr (by rw [hC, hutd])

section

variable (hp : p.WritesRecords) (hnamed : (BindingRequest.update isPatch req rounds).Named)

include hp hnamed

lemma roundFound_writesNamed (original : Binding) :
    (p.records.roundFound isPatch (p.recordRequest req) original).Only (p.WritesNamed req) := by
  unfold RecordProxy.roundFound
  split
  · trivial
  · next utd hutd =>
    obtain ⟨b, hb, hutd⟩ := Except.bind_eq_ok_iff.mp hutd
    have hname : utd.metadata.name = p.contract.projectedBindingName req.name := by
      rw [hp.update _ _ _ hutd]
      unfold RecordProxy.updated at hb
      split_ifs at hb
      · exact patched_name hnamed.1 hnamed.2 hb
      · exact updatedObject_name hnamed.1 hnamed.2 hb
    refine Program.Only.bind ?_ fun _ => trivial
    unfold RecordProxy.callUpdate
    split_ifs
    · exact (ask_writesNamed (fun b => .apply _ b _) (fun _ => rfl) hname).bind fun _ => trivial
    · exact ask_writesNamed (fun b => .update _ b _) (fun _ => rfl) hname

lemma roundMissing_writesNamed :
    (p.records.roundMissing (p.recordRequest req)).Only (p.WritesNamed req) := by
  unfold RecordProxy.roundMissing
  split
  · trivial
  · next updated hupdated =>
    refine Program.Only.bind ?_ fun created => ?_
    · unfold RecordProxy.create
      split
      · trivial
      · next utd hutd =>
        have hname : utd.metadata.name = p.contract.projectedBindingName req.name := by
          rw [(hp.create _ _ hutd).1]
          exact patched_name hnamed.1 hnamed.2 hupdated
        refine Program.Only.bind ?_ fun _ => trivial
        unfold RecordProxy.callCreate
        split_ifs
        · exact ask_writesNamed (fun b => .apply _ b _) (fun _ => rfl) hname
        · exact ask_writesNamed (fun b => .create _ b _) (fun _ => rfl) hname
    · split
      · trivial
      · trivial

lemma rounds_writesNamed (n : ℕ) :
    (p.records.update isPatch (p.recordRequest req) n).Only (p.WritesNamed req) := by
  induction n with
  | zero => trivial
  | succ n ih =>
    unfold RecordProxy.update
    refine Program.Only.bind ((Program.only_ask _).mpr fun _ => .inl trivial) fun read => ?_
    refine Program.Only.bind ?_ fun result => ?_
    · unfold RecordProxy.afterRead
      split
      · exact roundFound_writesNamed hp hnamed _
      · split_ifs
        · trivial
        · exact roundMissing_writesNamed hp hnamed
        · exact roundFound_writesNamed hp hnamed _
    · split
      · exact ih
      · trivial

lemma update_writesAt : (p.update isPatch req rounds).Only (p.WritesNamed req) := by
  unfold update
  refine (rounds_writesNamed hp hnamed rounds).bind fun result => ?_
  split
  · trivial
  · trivial
  · exact ((p.project_spares _).mono fun _ hc => hc.writesAt).bind fun _ => trivial

end

lemma run_update_missing (hp : p.WritesRecords)
    (hnone : S.binding p.upstreamRecord (p.contract.projectedBindingName req.name) = none)
    (hcreate : req.forceAllowCreate = false) :
    ((p.update isPatch req rounds).run (serve srv) S).1 = S := by
  cases rounds with
  | zero => rfl
  | succ rounds =>
    -- The read fails, whether or not upstream refuses it.
    have hread : ∃ e, serve srv S (.get p.records.ns (p.contract.projectedBindingName req.name)) =
        (S, .error e) := by
      unfold serve
      cases srv.deny S (.get p.records.ns (p.contract.projectedBindingName req.name)) with
      | some e => exact ⟨e, rfl⟩
      | none =>
        rw [← hp.ns] at hnone
        exact ⟨_, Cluster.answer_get_of_none hnone⟩
    obtain ⟨e, hread⟩ := hread
    have hround : p.records.afterRead isPatch (p.recordRequest req) (.error e) =
        pure (some (.error (p.records.readError e))) := by
      show (if _ then _ else _) = _
      rw [if_pos]
      rw [show (p.recordRequest req).forceAllowCreate = false from hcreate]
      simp
    have hrun : (p.records.update isPatch (p.recordRequest req) (rounds + 1)).run (serve srv) S =
        (S, some (.error (p.records.readError e))) := by
      unfold RecordProxy.update
      rw [Program.run_bind, Call.run_ask,
        show serve srv S (.get p.records.ns (p.recordRequest req).name) = (S, .error e) from hread,
        Program.run_bind, hround]
      rfl
    unfold update
    rw [Program.run_bind, hrun]
    rfl

variable {α : Type} {q : UpstreamProgram α}

lemma stored_run_spares (hq : q.Only (Call.Spares p.upstreamRecord)) :
    p.stored (q.run (serve srv) S).1 = p.stored S := by
  refine Cluster.records_congr fun n => ?_
  exact hq.run_keeps (I := fun S' : Cluster =>
      S'.binding p.upstreamRecord n = S.binding p.upstreamRecord n)
    (fun S' c hc hS' => (Cluster.serve_spares hc).trans hS') rfl

lemma stored_run_lessens (hq : q.Only Call.Lessens) :
    p.stored (q.run (serve srv) S).1 ⊆ p.stored S :=
  hq.run_keeps (I := fun S' => p.stored S' ⊆ p.stored S)
    (fun _ _ hc hS' => (Cluster.records_serve_lessens hc).trans hS') subset_rfl

lemma card_stored_run_writesAt {name : String} (hname : name ≠ "")
    (hq : q.Only (Call.WritesAt p.upstreamRecord name)) :
    (p.stored (q.run (serve srv) S).1).card ≤ ((p.stored S).erase name).card + 1 := by
  have hsame : ∀ n ≠ name, (q.run (serve srv) S).1.binding p.upstreamRecord n =
      S.binding p.upstreamRecord n := by
    intro n hn
    exact hq.run_keeps (I := fun S' : Cluster =>
        S'.binding p.upstreamRecord n = S.binding p.upstreamRecord n)
      (fun S' c hc hS' => (Cluster.serve_writesAt hc hname hn).trans hS') rfl
  exact (Finset.card_le_card (Cluster.records_subset_insert hsame)).trans (Finset.card_insert_le _ _)

lemma run_refuseTooManyBindings (hp : p.WritesRecords) (hcounts : p.Counts srv) (hlimit : 0 < p.limit) :
    (p.refuseTooManyBindings.run (serve srv) S).1 = S ∧
      ((p.refuseTooManyBindings.run (serve srv) S).2 = .ok () →
        ((p.stored S).card : ℤ) < p.limit) := by
  refine ⟨run_inert p.refuseTooManyBindings_inert, fun hok => ?_⟩
  -- The list of the records has as many items as there are records.
  obtain ⟨shown, hshown, hlength⟩ := hcounts.shows
    (((S.bindings p.records.ns).toList.map Prod.snd).filter (srv.selects
      { labelSelector := p.contract.projectedClusterRoleBindingLabelKey ++ "=true" }))
  have hlist : (p.records.list
      { labelSelector := p.contract.projectedClusterRoleBindingLabelKey ++ "=true" }).run
        (serve srv) S = (S, .ok shown) := by
    unfold RecordProxy.list
    rw [Program.run_bind, Call.run_ask]
    unfold serve
    rw [hcounts.list]
    show (S, p.records.answerList _) = _
    rw [hshown]
  have hcard : (p.stored S).card = shown.length := by
    rw [hlength]
    unfold stored
    rw [Cluster.card_records, ← hp.ns, funext hcounts.selects]
  unfold refuseTooManyBindings at hok
  rw [if_neg (by omega)] at hok
  have hselector : p.withProjectedSelector {} = .ok
      { labelSelector := p.contract.projectedClusterRoleBindingLabelKey ++ "=true" } := rfl
  rw [hselector] at hok
  simp only at hok
  rw [Program.run_bind, hlist] at hok
  simp only at hok
  split_ifs at hok with hroom
  · rwa [hcard]
  · cases hok

lemma card_stored_createRecord (hp : p.WritesRecords) (name : String) (record : Binding)
    (options : WriteOptions) :
    (p.stored ((p.createRecord name record options).run (serve srv) S).1).card ≤
      (p.stored S).card + 1 := by
  have hcreate : (p.stored ((p.records.create false record options).run (serve srv) S).1).card ≤
      (p.stored S).card + 1 := by
    unfold RecordProxy.create
    split
    · exact Nat.le_succ _
    · rw [Program.run_bind, RecordProxy.callCreate_post, Call.run_ask, hp.ns]
      exact Cluster.card_records_serve_create _ _
  unfold createRecord
  rw [Program.run_bind]
  split
  · exact hcreate
  · rw [Program.run_bind]
    show (p.stored ((p.project _).run (serve srv) _).1).card ≤ _
    rw [stored_run_spares (p.project_spares _)]
    exact hcreate

lemma delete_lessens (name : String) (options : DeleteOptions) :
    (p.delete name options).Only Call.Lessens := by
  have hdelete : ∀ ns name options, (Call.delete ns name options).ask.Only Call.Lessens :=
    fun ns name options => (Program.only_ask _).mpr (.inr ⟨ns, name, options, rfl⟩)
  unfold delete
  refine Program.Only.bind ?_ fun deleted => ?_
  · unfold RecordProxy.delete
    split
    · trivial
    · exact (hdelete _ _ _).bind fun _ => trivial
  · split
    · trivial
    · refine Program.Only.bind ?_ fun _ => trivial
      unfold unproject
      refine Program.Only.bind ((Program.only_ask _).mpr (.inl trivial)) fun reply => ?_
      split
      · trivial
      · exact Program.Only.forM fun ns _ => (hdelete _ _ _).bind fun _ => trivial

lemma deleteAll_lessens (options : DeleteOptions) (names : List String) :
    (p.deleteAll options names).Only Call.Lessens := by
  induction names with
  | nil => trivial
  | cons name names ih =>
    unfold deleteAll
    refine (delete_lessens name options).bind fun deleted => ?_
    split
    · trivial
    · exact ih

lemma card_stored_perform (hp : p.WritesRecords) (hm : ∀ crb, p.contract.projectedBindingName crb ≠ "")
    (hcounts : p.Counts srv) (hlimit : 0 < p.limit) {req : BindingRequest} (hroomy : p.Roomy S req)
    (hS : ((p.stored S).card : ℤ) ≤ p.limit) :
    ((p.stored ((p.perform req).run (serve srv) S).1).card : ℤ) ≤ p.limit := by
  have hless : ∀ {S' : Cluster}, p.stored S' ⊆ p.stored S → ((p.stored S').card : ℤ) ≤ p.limit := by
    intro S' hsub
    have hcard := Finset.card_le_card hsub
    omega
  cases req with
  | create crb options =>
    unfold perform
    rw [Program.run_bind]
    show ((p.stored ((p.create crb options).run (serve srv) S).1).card : ℤ) ≤ p.limit
    unfold create
    split
    · exact hS
    · next record _ =>
      obtain ⟨hstate, hroom⟩ := run_refuseTooManyBindings (S := S) hp hcounts hlimit
      rw [Program.run_bind, hstate]
      split
      · exact hS
      · next hok =>
        have hcard : (p.stored ((p.createRecord crb.metadata.name record options).run
            (serve srv) S).1).card ≤ (p.stored S).card + 1 := card_stored_createRecord hp _ _ _
        have hlt := hroom hok
        omega
  | update isPatch r rounds =>
    unfold perform
    rw [Program.run_bind]
    show ((p.stored ((p.update isPatch r rounds).run (serve srv) S).1).card : ℤ) ≤ p.limit
    have hcard : (p.stored ((p.update isPatch r rounds).run (serve srv) S).1).card ≤
        ((p.stored S).erase (p.contract.projectedBindingName r.name)).card + 1 :=
      card_stored_run_writesAt (hm r.name) (update_writesAt hp hroomy.named)
    rcases hroomy.room isPatch r rounds rfl with hstored | ⟨hnone, hcreate⟩ | hroom
    · rw [Finset.card_erase_add_one hstored] at hcard
      omega
    · rw [run_update_missing hp hnone hcreate]
      exact hS
    · have herase := Finset.card_erase_le (a := p.contract.projectedBindingName r.name) (s := p.stored S)
      omega
  | delete name options =>
    exact hless (stored_run_lessens ((delete_lessens name options).bind fun _ => trivial))
  | deleteCollection options listOptions =>
    refine hless (stored_run_lessens ?_)
    unfold perform deleteCollection
    refine Program.Only.bind ?_ fun _ => trivial
    refine Program.Only.bind ?_ fun listed => ?_
    · unfold list
      split
      · trivial
      · exact (RecordProxy.list_reads.mono fun _ hc => .inl hc).bind fun _ => trivial
    · split
      · trivial
      · exact (deleteAll_lessens _ _).bind fun _ => trivial

/-- A tenant that has no more ClusterRoleBindings than the limit never gets more by requests of which
every update is one of a stored record, may not create one, or finds room for one more. -/
theorem binding_cap_kept (hp : p.WritesRecords) (hm : ∀ crb, p.contract.projectedBindingName crb ≠ "")
    (hcounts : p.Counts srv) (hlimit : 0 < p.limit)
    (h : ((p.gateway srv fun S => ((p.stored S).card : ℤ) ≤ p.limit).restrict p.Roomy).Reachable S) :
    ((p.stored S).card : ℤ) ≤ p.limit := by
  refine h.invariant (P := fun S => ((p.stored S).card : ℤ) ≤ p.limit) (fun S hS => hS) ?_
  intro S req S' _ hS hstep
  rw [hstep.1]
  exact card_stored_perform hp hm hcounts hlimit hstep.2 hS

end Projection

def cappedProjection : Projection := { tenantProjection with limit := 1 }

lemma writesRecords_cappedProjection : cappedProjection.WritesRecords where
  ns := writesRecords_tenantProjection.ns
  name := writesRecords_tenantProjection.name
  create := writesRecords_tenantProjection.create
  update := writesRecords_tenantProjection.update
  shows := writesRecords_tenantProjection.shows

def labelApiserver : Apiserver :=
  { plainApiserver with selects := fun _ b => b.isRecord "kubezoo.io/projected" }

lemma counts_cappedProjection : cappedProjection.Counts labelApiserver where
  list _ _ _ := rfl
  selects _ := rfl
  shows l := by
    -- What is listed is converted item by item, and every item can be.
    have hitems : ∃ l', l.mapM (fun b => roleBindings.convertUpstreamObjectToTenantObject b "111111"
        canonicalNamespace) = .ok l' := by
      rw [Except.exists_mapM_eq_ok_iff]
      intro b _
      exact ⟨_, rfl⟩
    obtain ⟨l', hl'⟩ := hitems
    exact ⟨l', hl', (Except.mapM_eq_ok_iff.mp hl').length_eq.symm⟩

def editorsBinding : Binding :=
  { viewersBinding with metadata := { name := "editors" } }

def applyEditors : BindingRequest :=
  .update true
    { name := "editors"
      objInfo := { updatedObject := fun _ => .ok editorsBinding }
      forceAllowCreate := true
      options := { fieldManager := "ci" } } 1

def oneViewer : Cluster :=
  ((cappedProjection.perform (.create viewersBinding {})).run (serve labelApiserver) twoEmpty).1

theorem binding_cap_kept_first :
    (cappedProjection.stored oneViewer).card = 1 ∧
      ((cappedProjection.stored oneViewer).card : ℤ) ≤ cappedProjection.limit := by
  refine ⟨by decide +kernel, ?_⟩
  refine Projection.binding_cap_kept (p := cappedProjection) writesRecords_cappedProjection
    projectedBindingName_bindingContract counts_cappedProjection (by decide)
    (.step (.init (s := twoEmpty) ?_) (a := .create viewersBinding {}) ⟨rfl, ⟨trivial, ?_⟩⟩)
  · show ((cappedProjection.stored twoEmpty).card : ℤ) ≤ cappedProjection.limit
    decide +kernel
  · intro _ _ _ h
    cases h

theorem apply_exceeds_binding_cap :
    cappedProjection.limit = 1 ∧ (cappedProjection.stored twoEmpty).card = 0 ∧
      (cappedProjection.gateway labelApiserver
        fun S => ((cappedProjection.stored S).card : ℤ) ≤ cappedProjection.limit).Reachable
        ((cappedProjection.perform applyEditors).run (serve labelApiserver) oneViewer).1 ∧
      (cappedProjection.stored
        ((cappedProjection.perform applyEditors).run (serve labelApiserver) oneViewer).1).card = 2 ∧
      (cappedProjection.stored ((cappedProjection.perform (.create editorsBinding {})).run
        (serve labelApiserver) oneViewer).1).card = 1 := by
  refine ⟨rfl, by decide +kernel, ?_, by decide +kernel, by decide +kernel⟩
  refine .step (.step (.init (s := twoEmpty) ?_) (a := .create viewersBinding {}) rfl)
    (a := applyEditors) rfl
  show ((cappedProjection.stored twoEmpty).card : ℤ) ≤ cappedProjection.limit
  decide +kernel

end KubeZoo
