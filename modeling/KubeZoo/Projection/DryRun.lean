import KubeZoo.Projection.Copies
import KubeZoo.Projection.Records

/-! # Dry runs -/

namespace KubeZoo

open Cluster

open Calls (Program)
open Cluster (serve)

/-- A request carries `dryRun=All`. -/
def BindingRequest.isDryRun : BindingRequest → Bool
  | create _ options => options.isDryRun
  | update _ req _ => req.options.isDryRun
  | delete _ options => options.isDryRun
  | deleteCollection options _ => options.isDryRun

def Call.Reads : Call → Prop
  | listNamespaces => True
  | list _ _ => True
  | get _ _ => True
  | _ => False

/-- A call that reads, or carries `dryRun=All`. -/
def Call.Inert : Call → Prop
  | listNamespaces => True
  | list _ _ => True
  | get _ _ => True
  | create _ _ options => options.isDryRun = true
  | update _ _ options => options.isDryRun = true
  | apply _ _ options => options.isDryRun = true
  | delete _ _ options => options.isDryRun = true

lemma Call.Reads.inert {c : Call} (hc : c.Reads) : c.Inert := by
  cases c with
  | listNamespaces => trivial
  | list ns options => trivial
  | get ns name => trivial
  | create ns b options => cases hc
  | update ns b options => cases hc
  | apply ns b options => cases hc
  | delete ns name options => cases hc

namespace Cluster

variable {S : Cluster} {srv : Apiserver} {c : Call}

lemma answer_inert (hc : c.Inert) : (S.answer srv c).1 = S := by
  cases c with
  | listNamespaces => rfl
  | list ns options => rfl
  | get ns name => rfl
  | create ns b options =>
    show (S.create srv ns b options.isDryRun).1 = S
    rw [show options.isDryRun = true from hc]
    cases hx : S.create srv ns b true with
    | mk S' x =>
      cases x with
      | error e => exact create_error hx
      | ok b' => exact (create_ok hx).2.2.2
  | update ns b options => exact update_unchanged rfl (.inl hc)
  | apply ns b options => exact apply_unchanged rfl (.inl hc)
  | delete ns name options =>
    have hdry : options.isDryRun = true := hc
    show (S.delete ns name options).1 = S
    obtain ⟨_, h⟩ | ⟨_, _, _, ⟨_, h⟩ | ⟨hreal, _⟩ | ⟨_, _, h⟩ | ⟨hreal, _⟩⟩ :=
      delete_cases S ns name options
    · rw [h]
    · rw [h]
    · rw [hdry] at hreal; cases hreal
    · rw [h]
    · rw [hdry] at hreal; cases hreal

lemma serve_inert (hc : c.Inert) : (serve srv S c).1 = S := by
  unfold serve
  cases srv.deny S c with
  | some e => rfl
  | none => exact answer_inert hc

end Cluster

lemma run_inert {α : Type} {q : UpstreamProgram α} (hq : q.Only Call.Inert) {srv : Apiserver}
    {S : Cluster} : (q.run (serve srv) S).1 = S :=
  hq.run_keeps (I := (· = S)) (fun S' c hc hS' => by rw [serve_inert hc, hS']) rfl

lemma Call.only_inert {c : Call} (hc : c.Inert) : c.ask.Only Call.Inert :=
  Program.only_ask c |>.mpr hc

namespace RecordProxy

variable {r : RecordProxy} {isPatch : Bool}

lemma create_inert {obj : Binding} {options : WriteOptions} (h : options.isDryRun = true) :
    (r.create isPatch obj options).Only Call.Inert := by
  unfold create
  split
  · trivial
  · refine Program.Only.bind ?_ fun _ => trivial
    unfold callCreate
    split_ifs
    · exact Call.only_inert h
    · exact Call.only_inert h

variable {req : PatchRequest BindingBody}

lemma roundFound_inert {original : Binding} (h : req.options.isDryRun = true) :
    (r.roundFound isPatch req original).Only Call.Inert := by
  unfold roundFound
  split
  · trivial
  · refine Program.Only.bind ?_ fun _ => trivial
    unfold callUpdate
    split_ifs
    · refine Program.Only.bind ?_ fun _ => trivial
      exact Call.only_inert h
    · exact Call.only_inert h

lemma afterRead_inert {read : Except GoError Binding} (h : req.options.isDryRun = true) :
    (r.afterRead isPatch req read).Only Call.Inert := by
  unfold afterRead
  split
  · exact roundFound_inert h
  · split_ifs
    · trivial
    · unfold roundMissing
      split
      · trivial
      · refine (create_inert h).bind fun x => ?_
        cases x with
        | error e => trivial
        | ok created => trivial
    · exact roundFound_inert h

lemma update_inert (h : req.options.isDryRun = true) (rounds : ℕ) :
    (r.update isPatch req rounds).Only Call.Inert := by
  induction rounds with
  | zero => trivial
  | succ rounds ih =>
    refine Program.Only.bind (Call.only_inert (c := .get r.ns req.name) trivial) fun read => ?_
    refine (afterRead_inert h).bind fun x => ?_
    cases x with
    | none => exact ih
    | some result => trivial

lemma delete_inert {name : String} {options : DeleteOptions} (h : options.isDryRun = true) :
    (r.delete name options).Only Call.Inert := by
  unfold delete
  split
  · trivial
  · refine Program.Only.bind ?_ fun _ => trivial
    exact Call.only_inert h

lemma list_reads {options : ListOptions} : (r.list options).Only Call.Reads :=
  Program.Only.bind ((Program.only_ask (Call.list r.ns options)).mpr trivial) fun _ => trivial

end RecordProxy

namespace Projection

variable (p : Projection) (srv : Apiserver) (S : Cluster)

lemma list_inert {options : ListOptions} : (p.list options).Only Call.Inert := by
  unfold list
  split
  · trivial
  · exact (RecordProxy.list_reads.mono fun _ => Call.Reads.inert).bind fun _ => trivial

lemma refuseTooManyBindings_reads : p.refuseTooManyBindings.Only Call.Reads := by
  unfold refuseTooManyBindings
  split_ifs
  · trivial
  · split
    · trivial
    · refine RecordProxy.list_reads.bind fun x => ?_
      cases x with
      | error e => trivial
      | ok records =>
        show Program.Only _ (if _ then _ else _)
        split_ifs
        · trivial
        · trivial

lemma refuseTooManyBindings_inert : p.refuseTooManyBindings.Only Call.Inert :=
  p.refuseTooManyBindings_reads.mono fun _ => Call.Reads.inert

/-- The copies of a name are as `project` would leave them: there, and like the record, unless
upstream refuses to change their role. -/
def Settled (name : String) : Prop :=
  S.namespaces.length ≤ maxFannedNamespaces →
    ∀ record, S.binding p.upstreamRecord name = some record →
      ∀ ns ∈ S.namespaces, ns ≠ p.upstreamRecord → ∃ b, S.binding ns name = some b ∧
        (b.body.roleRef ≠ record.body.roleRef ∨
          CopyOf record b ∧ ¬ (b.body.deletionTimestamp = true ∧ b.body.finalizers = []))

/-- There is nothing `unproject` would remove or mark: whatever has the name is marked and waits for
its finalizers. -/
def Withdrawn (name : String) : Prop :=
  S.namespaces.length ≤ maxFannedNamespaces → ∀ ns ∈ S.namespaces, ∀ b, S.binding ns name = some b →
      b.body.deletionTimestamp = true ∧ b.body.finalizers ≠ []

def UpdateGranted (isPatch : Bool) (req : PatchRequest BindingBody) (rounds : ℕ) : Prop :=
  ∃ result, ((p.records.update isPatch (p.recordRequest req) rounds).run (serve srv) S).2 =
    some (.ok result)

def deleteGranted (options : DeleteOptions) (name : String) : Bool :=
  ((p.records.delete (p.contract.projectedBindingName name) options).run (serve srv) S).2.isOk

def Harmless : BindingRequest → Prop
  | .create _ _ => True
  | .update isPatch req rounds =>
    p.UpdateGranted srv S isPatch req rounds →
      p.Settled S (p.contract.projectedBindingName req.name)
  | .delete name options =>
    p.deleteGranted srv S options name = true → Withdrawn S (p.contract.projectedBindingName name)
  | .deleteCollection options listOptions =>
    ∀ crbs, ((p.list listOptions).run (serve srv) S).2 = .ok crbs →
      ∀ name ∈ (crbs.map fun crb => crb.metadata.name).takeWhile (p.deleteGranted srv S options),
        Withdrawn S (p.contract.projectedBindingName name)

variable {p srv S}

variable {name ns : String}

variable {record : Binding} {options : WriteOptions}

lemma binding_copyIn_eq_iff :
    (S.copyIn record ns).binding ns record.metadata.name = S.binding ns record.metadata.name ↔
      ∃ b, S.binding ns record.metadata.name = some b ∧ (b.body.roleRef ≠ record.body.roleRef ∨
          CopyOf record b ∧ ¬ (b.body.deletionTimestamp = true ∧ b.body.finalizers = [])) := by
  cases hb : S.binding ns record.metadata.name with
  | none =>
    obtain ⟨b, hcopy, _⟩ := binding_copyIn_of_none hb
    rw [hcopy]
    simp
  | some b =>
    simp only [Option.some.injEq, exists_eq_left']
    unfold copyIn
    rw [hb]
    by_cases hrole : b.body.roleRef = record.body.roleRef
    · have hfinalizers : CopyOf record b → b.body.finalizers = record.body.finalizers :=
        fun h => (congrArg (fun x : Binding => x.body.finalizers)
          (show asCopy record b = b from h)).symm
      rw [or_iff_right (not_not.mpr hrole)]
      simp only
      unfold commit
      split_ifs with hempty heq
      · -- The marked copy goes.
        rw [binding_set_self]
        refine ⟨(fun h => nomatch h), fun ⟨hcopy, hnot⟩ => ?_⟩
        exact absurd ⟨hempty.1, (hfinalizers hcopy).trans hempty.2⟩ hnot
      · refine ⟨fun _ => ⟨heq, fun h => hempty ⟨h.1, ?_⟩⟩, fun _ => hb⟩
        exact (hfinalizers heq).symm.trans h.2
      · rw [binding_set_self]
        refine ⟨fun h => absurd ?_ heq, fun h => absurd h.1 heq⟩
        -- A stored copy that equals what was there has its version, and so is like the record.
        have hstored := Option.some.inj h
        have hversion : S.nextVersion = b.metadata.resourceVersion :=
          congrArg (fun x : Binding => x.metadata.resourceVersion) hstored
        rw [hversion] at hstored
        exact hstored
    · simp only
      rw [if_neg hrole]
      exact iff_of_true hb (.inl hrole)

lemma project_keeps_iff (hsrv : srv.Permits) (hS : S.Keyed) :
    (∀ ns name', ((p.project name).run (serve srv) S).1.binding ns name' = S.binding ns name') ↔
      p.Settled S name := by
  constructor
  · intro h hlen record hrecord ns hns hne
    obtain ⟨S₁, hget, hrun⟩ := binding_project hsrv hlen hS hrecord hns hne
    rw [h ns name, ← hget, ← (hS _ _ _ hrecord).1] at hrun
    have := binding_copyIn_eq_iff.mp hrun.symm
    rwa [(hS _ _ _ hrecord).1, hget] at this
  · intro h ns name'
    by_cases hkey : ns ∈ S.namespaces ∧ ns ≠ p.upstreamRecord ∧ name' = name
    · obtain ⟨hns, hne, rfl⟩ := hkey
      cases hrecord : S.binding p.upstreamRecord name' with
      | none => rw [run_project_of_none hsrv hrecord]
      | some record =>
        by_cases hlen : S.namespaces.length ≤ maxFannedNamespaces
        · obtain ⟨S₁, hget, hrun⟩ := binding_project hsrv hlen hS hrecord hns hne
          have hname := (hS _ _ _ hrecord).1
          rw [hrun, ← hget, ← hname]
          refine binding_copyIn_eq_iff.mpr ?_
          rw [hname, hget]
          exact h hlen record hrecord ns hns hne
        · rw [run_project_of_many hsrv (not_le.mp hlen)]
    · exact (sameOutside_project hsrv hS name).binding ns name' hkey

def standing : Option Binding → ℕ
  | none => 0
  | some b => if b.body.deletionTimestamp then 1 else 2

lemma remove_eq_or_lt :
    S.remove ns name = S ∨
      standing ((S.remove ns name).binding ns name) < standing (S.binding ns name) := by
  unfold remove
  obtain ⟨_, h⟩ | ⟨old, hold, _, ⟨_, h⟩ | ⟨_, _, h⟩ | ⟨_, _, h⟩ | ⟨_, _, hmark, h⟩⟩ :=
    delete_cases S ns name {}
  · rw [h]; exact .inl rfl
  · rw [h]; exact .inl rfl
  · right
    rw [h, binding_set_self, hold]
    show 0 < if old.body.deletionTimestamp then 1 else 2
    split_ifs <;> omega
  · rw [h]; exact .inl rfl
  · right
    rw [h, binding_set_self, hold]
    have hunmarked : ¬ old.body.deletionTimestamp = true := fun ht => hmark ht rfl
    show (if true = true then 1 else 2) < if old.body.deletionTimestamp then 1 else 2
    rw [if_pos rfl, if_neg hunmarked]
    omega

lemma remove_eq_iff :
    S.remove ns name = S ↔ ∀ b, S.binding ns name = some b →
      b.body.deletionTimestamp = true ∧ b.body.finalizers ≠ [] := by
  constructor
  · intro h b hb
    obtain ⟨hnone, _⟩ | ⟨old, b', hold, hne, hb', hmark, _, _⟩ :=
      binding_remove (S := S) ns name
    · rw [h, hb] at hnone
      cases hnone
    · rw [h, hb] at hb'
      rw [hb] at hold
      obtain rfl := Option.some.inj hb'
      obtain rfl := Option.some.inj hold
      exact ⟨hmark, hne⟩
  · intro h
    unfold remove
    obtain ⟨_, h'⟩ | ⟨old, hold, _, ⟨_, h'⟩ | ⟨_, hempty, _⟩ | ⟨_, _, h'⟩ | ⟨_, _, hmark, _⟩⟩ :=
      delete_cases S ns name {}
    · rw [h']
    · rw [h']
    · exact absurd (List.append_eq_nil_iff.mp hempty).1 (h old hold).2
    · rw [h']
    · exact absurd rfl (hmark (h old hold).1)

section

variable (hsrv : srv.Permits)

include hsrv

lemma unproject_of_withdrawn (h : Withdrawn S name) :
    ((p.unproject name).run (serve srv) S).1 = S := by
  by_cases hlen : S.namespaces.length ≤ maxFannedNamespaces
  · rw [run_unproject hsrv hlen]
    refine Program.run_forM_keeps (I := (· = S)) (fun S' hS' ns hns => ?_) rfl
    subst hS'
    rw [run_removeFrom hsrv]
    exact remove_eq_iff.mpr (h hlen ns (mem_sortStrings.mp hns))
  · exact run_unproject_of_many hsrv (not_le.mp hlen)

lemma standing_unproject_le (ns name' : String) :
    standing (((p.unproject name).run (serve srv) S).1.binding ns name') ≤
      standing (S.binding ns name') := by
  by_cases hlen : S.namespaces.length ≤ maxFannedNamespaces
  · by_cases hkey : ns ∈ S.namespaces ∧ name' = name
    · obtain ⟨hns, rfl⟩ := hkey
      obtain ⟨S₁, hget, hrun⟩ := binding_unproject (p := p) hsrv hlen hns
      rw [hrun, ← hget]
      obtain heq | hlt := remove_eq_or_lt (S := S₁)
      · rw [heq]
      · exact hlt.le
    · rw [(sameOutside_unproject hsrv name).binding ns name' hkey]
  · rw [run_unproject_of_many hsrv (not_le.mp hlen)]

lemma standing_unproject_lt (h : ¬ Withdrawn S name) :
    ∃ ns, standing (((p.unproject name).run (serve srv) S).1.binding ns name) <
      standing (S.binding ns name) := by
  unfold Withdrawn at h
  push Not at h
  obtain ⟨hlen, ns, hns, b, hb, hwaits⟩ := h
  obtain ⟨S₁, hget, hrun⟩ := binding_unproject (p := p) hsrv hlen hns
  refine ⟨ns, ?_⟩
  rw [hrun, ← hget]
  refine remove_eq_or_lt.resolve_left fun heq => ?_
  obtain ⟨hmark, hne⟩ := remove_eq_iff.mp heq b (hget.trans hb)
  exact hne (hwaits hmark)

section

variable {options : DeleteOptions} (hdry : options.isDryRun = true)

include hdry

omit hsrv in
lemma run_delete (name : String) :
    (p.deleteGranted srv S options name = true ∧ ((p.delete name options).run (serve srv) S).1 =
        ((p.unproject (p.contract.projectedBindingName name)).run (serve srv) S).1 ∧
      ∃ answer, ((p.delete name options).run (serve srv) S).2 = .ok answer) ∨
    (p.deleteGranted srv S options name = false ∧
      ∃ e, (p.delete name options).run (serve srv) S = (S, .error e)) := by
  have hstate : ((p.records.delete (p.contract.projectedBindingName name) options).run
      (serve srv) S).1 = S := run_inert (RecordProxy.delete_inert hdry)
  unfold deleteGranted delete
  rw [Program.run_bind, hstate]
  cases ((p.records.delete (p.contract.projectedBindingName name) options).run (serve srv) S).2 with
  | error e => exact .inr ⟨rfl, _, rfl⟩
  | ok deleted =>
    left
    refine ⟨rfl, ?_, deleted.map (asClusterRoleBinding p.contract), ?_⟩
    · show Prod.fst (Program.run (serve srv) (p.unproject _ >>= _) S) = _
      rw [Program.run_bind]
      rfl
    · show Prod.snd (Program.run (serve srv) (p.unproject _ >>= _) S) = _
      rw [Program.run_bind]
      rfl

lemma standing_deleteAll_le (names : List String) (ns name : String) :
    standing (((p.deleteAll options names).run (serve srv) S).1.binding ns name) ≤
      standing (S.binding ns name) := by
  induction names generalizing S with
  | nil => exact le_rfl
  | cons a names ih =>
    unfold deleteAll
    rw [Program.run_bind]
    obtain ⟨_, hstate, answer, hok⟩ | ⟨_, e, herror⟩ := run_delete (p := p) (S := S) hdry a
    · rw [hok, hstate]
      exact ih.trans (standing_unproject_le hsrv ns name)
    · rw [herror]
      exact le_rfl

lemma deleteAll_keeps_iff (names : List String) :
    (∀ ns name, ((p.deleteAll options names).run (serve srv) S).1.binding ns name =
      S.binding ns name) ↔
      ∀ name ∈ names.takeWhile (p.deleteGranted srv S options),
        Withdrawn S (p.contract.projectedBindingName name) := by
  induction names with
  | nil => exact iff_of_true (fun _ _ => rfl) (fun _ h => nomatch h)
  | cons a names ih =>
    unfold deleteAll
    rw [Program.run_bind]
    obtain ⟨hgranted, hstate, answer, hok⟩ | ⟨hrefused, e, herror⟩ :=
      run_delete (p := p) (S := S) hdry a
    · rw [hok, hstate, List.takeWhile_cons_of_pos hgranted, List.forall_mem_cons]
      by_cases hwithdrawn : Withdrawn S (p.contract.projectedBindingName a)
      · rw [unproject_of_withdrawn hsrv hwithdrawn, and_iff_right hwithdrawn]
        exact ih
      · refine iff_of_false (fun h => ?_) fun h => hwithdrawn h.1
        -- What the first delete brought nearer its end no later one brings back.
        obtain ⟨ns, hlt⟩ := standing_unproject_lt (p := p) hsrv hwithdrawn
        have hle := standing_deleteAll_le hsrv hdry (p := p)
          (S := ((p.unproject (p.contract.projectedBindingName a)).run (serve srv) S).1) names ns
          (p.contract.projectedBindingName a)
        have heq := congrArg standing (h ns (p.contract.projectedBindingName a))
        dsimp only at heq
        omega
    · rw [herror, List.takeWhile_cons_of_neg (by rw [hrefused]; decide)]
      exact iff_of_true (fun _ _ => rfl) (fun _ h => nomatch h)

end

lemma run_createRecord_dry (hp : p.ServesRecords) (hdry : options.isDryRun = true) :
    ((p.createRecord name record options).run (serve srv) S).1 = S := by
  have hstate : ((p.records.create false record options).run (serve srv) S).1 = S :=
    run_inert (RecordProxy.create_inert hdry)
  unfold createRecord
  rw [Program.run_bind, hstate]
  cases hcreate : ((p.records.create false record options).run (serve srv) S).2 with
  | error e => rfl
  | ok created =>
    show Prod.fst (Program.run (serve srv) (p.project created.metadata.name >>= _) S) = S
    rw [Program.run_bind]
    refine run_project_of_none hsrv ?_
    obtain ⟨utd, stored, _, hstored, hanswer⟩ :=
      RecordProxy.create_post hsrv (Prod.ext hstate hcreate)
    obtain ⟨rfl, _, hnone, _⟩ := create_ok hstored
    rw [hp.name _ _ hanswer, ← hp.ns]
    exact hnone

lemma run_create_dry (hp : p.ServesRecords) (hdry : options.isDryRun = true) {crb : Binding} :
    ((p.create crb options).run (serve srv) S).1 = S := by
  unfold create
  split
  · rfl
  · rw [Program.run_bind, run_inert p.refuseTooManyBindings_inert]
    split
    · rfl
    · exact run_createRecord_dry hsrv hp hdry

lemma update_keeps_iff (hS : S.Keyed) {isPatch : Bool} {req : PatchRequest BindingBody}
    (hdry : req.options.isDryRun = true) (rounds : ℕ) :
    (∀ ns name, ((p.update isPatch req rounds).run (serve srv) S).1.binding ns name =
      S.binding ns name) ↔
      (p.UpdateGranted srv S isPatch req rounds →
        p.Settled S (p.contract.projectedBindingName req.name)) := by
  have hdry' : (p.recordRequest req).options.isDryRun = true := hdry
  have hstate : ((p.records.update isPatch (p.recordRequest req) rounds).run (serve srv) S).1 = S :=
    run_inert (RecordProxy.update_inert hdry' rounds)
  unfold UpdateGranted update
  rw [Program.run_bind, hstate]
  cases ((p.records.update isPatch (p.recordRequest req) rounds).run (serve srv) S).2 with
  | none => exact iff_of_true (fun _ _ => rfl) (fun ⟨_, h⟩ => nomatch h)
  | some x =>
    cases x with
    | error e => exact iff_of_true (fun _ _ => rfl) (fun ⟨_, h⟩ => nomatch h)
    | ok result =>
      rw [forall_prop_of_true ⟨result, rfl⟩, ← project_keeps_iff hsrv hS]
      show (∀ ns name, (Program.run (serve srv) (p.project _ >>= _) S).1.binding ns name = _) ↔ _
      rw [Program.run_bind]
      rfl

lemma delete_keeps_iff {options : DeleteOptions} (hdry : options.isDryRun = true) (name : String) :
    (∀ ns name', ((p.delete name options).run (serve srv) S).1.binding ns name' =
      S.binding ns name') ↔
      (p.deleteGranted srv S options name = true →
        Withdrawn S (p.contract.projectedBindingName name)) := by
  obtain ⟨hgranted, hstate, _⟩ | ⟨hrefused, e, herror⟩ := run_delete (p := p) (S := S) hdry name
  · rw [hstate, forall_prop_of_true hgranted]
    constructor
    · intro h
      by_contra hnot
      obtain ⟨ns, hlt⟩ := standing_unproject_lt (p := p) hsrv hnot
      rw [h ns] at hlt
      exact lt_irrefl _ hlt
    · intro h ns name'
      rw [unproject_of_withdrawn hsrv h]
  · rw [herror]
    exact iff_of_true (fun _ _ => rfl) (fun h => absurd (hrefused.symm.trans h) Bool.false_ne_true)

lemma deleteCollection_keeps_iff {options : DeleteOptions}
    (hdry : options.isDryRun = true) (listOptions : ListOptions) :
    (∀ ns name, ((p.deleteCollection options listOptions).run (serve srv) S).1.binding ns name =
      S.binding ns name) ↔ p.Harmless srv S (.deleteCollection options listOptions) := by
  unfold Harmless deleteCollection
  rw [Program.run_bind, run_inert p.list_inert]
  show _ ↔ ∀ crbs, ((p.list listOptions).run (serve srv) S).2 = .ok crbs → _
  cases ((p.list listOptions).run (serve srv) S).2 with
  | error e => exact iff_of_true (fun _ _ => rfl) (fun _ h => nomatch h)
  | ok crbs =>
    simp only [Except.ok.injEq, forall_eq']
    rw [← deleteAll_keeps_iff hsrv hdry, Program.run_bind]
    rfl

end

/-- A dry run leaves every stored RoleBinding as it was exactly when it is a create, when the
record's own write is refused, or when the copies are such that the calls that follow change
nothing. -/
theorem dry_run_keeps_bindings_iff (hsrv : srv.Permits) (hS : S.Keyed) (hp : p.ServesRecords)
    {req : BindingRequest} (hdry : req.isDryRun = true) :
    (∀ ns name, ((p.perform req).run (serve srv) S).1.binding ns name = S.binding ns name) ↔
      p.Harmless srv S req := by
  unfold perform
  cases req with
  | create crb options =>
    rw [Program.run_bind]
    refine iff_of_true (fun ns name => ?_) trivial
    exact congrArg (·.binding ns name) (run_create_dry hsrv hp hdry)
  | update isPatch req rounds =>
    rw [Program.run_bind]
    exact update_keeps_iff hsrv hS hdry rounds
  | delete name options =>
    rw [Program.run_bind]
    exact delete_keeps_iff hsrv hdry name
  | deleteCollection options listOptions =>
    rw [Program.run_bind]
    exact deleteCollection_keeps_iff hsrv hdry listOptions

end Projection

/-- A binding of the role `view`, stored under the name of the record `viewers`. -/
def viewers (ns : String) (finalizers : List String) (deletionTimestamp : Bool) : Binding :=
  { metadata :=
      { name := "kubezoo:clusterrolebinding:viewers", «namespace» := ns, uid := "1"
        resourceVersion := "1" }
    body :=
      { finalizers := finalizers, deletionTimestamp := deletionTimestamp
        roleRef := { apiGroup := "rbac.authorization.k8s.io", kind := "ClusterRole", name := "view" } } }

def mirroredViewers (finalizers : List String) (deletionTimestamp : Bool) : Cluster :=
  ((empty ["111111-kube-system", "111111-web"] (by decide)).set "111111-kube-system"
    "kubezoo:clusterrolebinding:viewers"
    (some (viewers "111111-kube-system" finalizers deletionTimestamp))).set "111111-web"
    "kubezoo:clusterrolebinding:viewers" (some (viewers "111111-web" finalizers deletionTimestamp))

lemma keyed_mirroredViewers (finalizers : List String) (deletionTimestamp : Bool) :
    (mirroredViewers finalizers deletionTimestamp).Keyed := by
  refine (keyed_empty.set fun b hb => ?_).set fun b hb => ?_
  · rw [← Option.some.inj hb]
    exact ⟨rfl, by decide⟩
  · rw [← Option.some.inj hb]
    exact ⟨rfl, by decide⟩

theorem dry_run_keeps_marked_bindings :
    ((mirroredViewers ["example.com/hold"] true).binding "111111-web"
      "kubezoo:clusterrolebinding:viewers").isSome = true ∧
    ∀ ns name, ((tenantProjection.perform (.delete "viewers" { dryRun := ["All"] })).run
      (serve plainApiserver) (mirroredViewers ["example.com/hold"] true)).1.binding ns name =
        (mirroredViewers ["example.com/hold"] true).binding ns name := by
  refine ⟨by decide +kernel, (Projection.dry_run_keeps_bindings_iff permits_plainApiserver
    (keyed_mirroredViewers _ _) writesRecords_tenantProjection.toServesRecords rfl).mpr
      fun _ _ ns hns b hb => ?_⟩
  rw [mirroredViewers, binding_set] at hb
  split_ifs at hb with hweb
  · rw [← Option.some.inj hb]
    exact ⟨rfl, by decide⟩
  · rw [binding_set] at hb
    split_ifs at hb with hsystem
    · rw [← Option.some.inj hb]
      exact ⟨rfl, by decide⟩
    · rw [binding_empty] at hb
      cases hb

theorem dry_run_delete_removes_bindings :
    (BindingRequest.delete "viewers" { dryRun := ["All"] }).isDryRun = true ∧
    ((mirroredViewers [] false).binding "111111-kube-system"
      "kubezoo:clusterrolebinding:viewers").isSome = true ∧
    ((mirroredViewers [] false).binding "111111-web" "kubezoo:clusterrolebinding:viewers").isSome = true ∧
    ((tenantProjection.perform (.delete "viewers" { dryRun := ["All"] })).run
      (serve plainApiserver) (mirroredViewers [] false)).1.binding "111111-kube-system"
        "kubezoo:clusterrolebinding:viewers" = none ∧
    ((tenantProjection.perform (.delete "viewers" { dryRun := ["All"] })).run
      (serve plainApiserver) (mirroredViewers [] false)).1.binding "111111-web"
        "kubezoo:clusterrolebinding:viewers" = none := by
  decide +kernel

end KubeZoo
