import KubeZoo.Proxy.GuaranteedUpdate

/-! # When the loop of a patch returns -/

namespace KubeZoo

variable {β : Type}

abbrev Store (β : Type) := String → String → Option (Object β)

def Store.Overtakes (S : Store β) (ns : String) (utd : Object β) : Prop :=
  ∃ o, S ns utd.metadata.name = some o ∧ utd.metadata.resourceVersion ≠ "" ∧
    utd.metadata.resourceVersion ≠ o.metadata.resourceVersion

instance (S : Store β) (ns : String) (utd : Object β) : Decidable (S.Overtakes ns utd) :=
  match h : S ns utd.metadata.name with
  | none => .isFalse fun ⟨o, ho, _⟩ => by rw [h] at ho; cases ho
  | some o =>
    decidable_of_iff (utd.metadata.resourceVersion ≠ "" ∧
      utd.metadata.resourceVersion ≠ o.metadata.resourceVersion)
      ⟨fun hv => ⟨o, h, hv⟩, fun ⟨o', ho', hv⟩ => Option.some.inj (h.symm.trans ho') ▸ hv⟩

namespace Upstream

/-- The answers of upstream about some of what it stores. An update is refused for its version if the
store overtook it, and a create for its name if the name is taken. `applies` says which writes go up
as an apply, which carries no version. -/
structure Serves (applies : RequestContext → Object β → String → Bool)
    (K : String → String → Prop) (S : Store β) (client : Upstream β) : Prop where
  get_some : ∀ ns name o, K ns name → S ns name = some o → client.get ns name "" = .ok o
  get_none : ∀ ns name, K ns name → S ns name = none →
    ∃ e, client.get ns name "" = .error e ∧ e.isNotFound = true
  update : ∀ ns utd options sub, K ns utd.metadata.name →
    ((∃ e, client.update ns utd options sub = .error e ∧ e.isLockConflict = true) ↔
      S.Overtakes ns utd)
  create : ∀ ns utd options, K ns utd.metadata.name →
    ((∃ e, client.create ns utd options = .error e ∧ e.isAlreadyExists = true) ↔
      S ns utd.metadata.name ≠ none)
  createSubresource : ∀ ns name utd options sub e,
    client.createSubresource ns name utd options sub = .error e → e.isAlreadyExists = false
  apply_none : ∀ ctx utd form manager options, applies ctx utd manager = false →
    client.forwardApply ctx utd form manager options = .ok none
  apply_some : ∀ ctx utd form manager options, applies ctx utd manager = true →
    (∃ applied, client.forwardApply ctx utd form manager options = .ok (some applied)) ∨
    ∃ e, client.forwardApply ctx utd form manager options = .error e ∧
      e.isLockConflict = false ∧ e.isAlreadyExists = false

def ofStore (applies : RequestContext → Object β → String → Bool) (S : Store β) : Upstream β where
  get ns name _ :=
    match S ns name with
    | some o => .ok o
    | none => .error (.status (newNotFound "" "" name))
  create ns utd _ :=
    match S ns utd.metadata.name with
    | some _ => .error (.status (newAlreadyExists "" "" utd.metadata.name))
    | none => .ok utd
  createSubresource _ _ utd _ _ := .ok utd
  update ns utd _ _ :=
    if S.Overtakes ns utd then
      .error (.status (newConflict "" "" utd.metadata.name optimisticLockErrorMsg))
    else .ok (utd, false)
  forwardApply ctx utd _ manager _ := .ok (if applies ctx utd manager then some utd else none)
  getNamespace _ := .ok ()

lemma ofStore_get_eq_ok_iff {applies : RequestContext → Object β → String → Bool} {S : Store β}
    {ns name subresource : String} {o : Object β} :
    (ofStore applies S).get ns name subresource = .ok o ↔ S ns name = some o := by
  cases hS : S ns name with
  | none => simp [ofStore, hS]
  | some o' => simp [ofStore, hS]

lemma isLockConflict_newConflict (group resource name : String) :
    (GoError.status (newConflict group resource name optimisticLockErrorMsg)).isLockConflict =
      true := by
  have hcontains : containsText (newConflict group resource name optimisticLockErrorMsg).message
      optimisticLockErrorMsg = true := by
    unfold containsText newConflict
    simp only [String.toList_append, decide_eq_true_eq]
    exact (List.suffix_append _ _).isInfix
  unfold GoError.isLockConflict
  rw [show (GoError.status (newConflict group resource name optimisticLockErrorMsg)).error =
    (newConflict group resource name optimisticLockErrorMsg).message from rfl, hcontains]
  rfl

lemma serves_ofStore (applies : RequestContext → Object β → String → Bool)
    (K : String → String → Prop) (S : Store β) : (ofStore applies S).Serves applies K S where
  get_some ns name o _ h := by simp only [ofStore, h]
  get_none ns name _ h := ⟨.status (newNotFound "" "" name), by simp only [ofStore, h], rfl⟩
  update ns utd options sub _ := by
    simp only [ofStore]
    split_ifs with h
    · exact ⟨fun _ => h, fun _ => ⟨_, rfl, isLockConflict_newConflict _ _ _⟩⟩
    · exact ⟨fun ⟨_, he, _⟩ => (nomatch he), fun h' => absurd h' h⟩
  create ns utd options _ := by
    simp only [ofStore]
    cases S ns utd.metadata.name with
    | some o => exact ⟨fun _ h => (nomatch h), fun _ => ⟨_, rfl, rfl⟩⟩
    | none => exact ⟨fun ⟨_, he, _⟩ => (nomatch he), fun h => absurd rfl h⟩
  createSubresource ns name utd options sub e h := nomatch h
  apply_none ctx utd form manager options h := by simp [ofStore, h]
  apply_some ctx utd form manager options h := .inl ⟨utd, by simp [ofStore, h]⟩

end Upstream

/-- Taking the tenant's id out of an error keeps its kind. -/
structure Contract.KeepsKinds (c : Contract) : Prop where
  lockConflict : ∀ e t, (c.trimTenantIDFromError e t).isLockConflict = e.isLockConflict
  alreadyExists : ∀ e t, (c.trimTenantIDFromError e t).isAlreadyExists = e.isAlreadyExists
  notFound : ∀ e t, (c.trimTenantIDFromError e t).isNotFound = e.isNotFound

namespace TenantProxy

variable (tp : TenantProxy β) (g : Guards β) (pods : PodSteps β) (new : Object β)
  (ctx : RequestContext) (req : PatchRequest β)

structure OwnErrors : Prop where
  prepareUpdate : ∀ obj e, tp.prepareUpdate g ctx obj = .error e → e.isLockConflict = false
  prepareCreate : ∀ obj e, tp.prepareCreate g pods ctx obj = .error e → e.isAlreadyExists = false
  finishWrite : ∀ t o e, tp.finishWrite ctx t o = .error e →
    e.isLockConflict = false ∧ e.isAlreadyExists = false

def outgoing (original : Object β) : Except GoError (Outgoing β) := do
  let obj ← patched req.objInfo original
  let obj ← tp.guardUpdate g ctx obj original
  tp.prepareUpdate g ctx obj

def outgoingNew : Except GoError (String × Object β) := do
  let obj ← patched req.objInfo new
  let (_, _, utd) ← tp.prepareCreate g pods ctx obj
  return (← tp.getClient ctx, utd)

variable (applies : RequestContext → Object β → String → Bool) (S : Store β)

def found : Except GoError (Object β) :=
  tp.readForUpdate (.ofStore applies S) ctx req.name

/-- The round sends an update of a version that is stored no more. -/
def SendsOvertaken : Prop :=
  ∃ original out, tp.found ctx req applies S = .ok original ∧
    tp.outgoing g ctx req original = .ok out ∧
    ¬ (tp.subresource = "" ∧ applies ctx out.utd req.options.fieldManager = true) ∧
    S.Overtakes out.ns out.utd

/-- The round creates an object under a name that is taken by then. -/
def SendsTaken : Prop :=
  ∃ e ns utd, tp.found ctx req applies S = .error e ∧ e.isNotFound = true ∧
    req.forceAllowCreate = true ∧ tp.outgoingNew g pods new ctx req = .ok (ns, utd) ∧
    tp.subresource = "" ∧
    ¬ (req.options.fieldManager ≠ "" ∧ applies ctx utd req.options.fieldManager = true) ∧
    S ns utd.metadata.name ≠ none

/-- The keys at which the round reads or writes. -/
inductive Touches : String → String → Prop
  | read {tid ns : String} (htenant : ctx.tenantID = some tid)
      (hns : tp.getClient ctx = .ok ns) : Touches ns (tp.upstreamName req.name tid)
  | update {original : Object β} {out : Outgoing β}
      (hfound : tp.found ctx req applies S = .ok original)
      (hout : tp.outgoing g ctx req original = .ok out) : Touches out.ns out.utd.metadata.name
  | create {ns : String} {utd : Object β}
      (hout : tp.outgoingNew g pods new ctx req = .ok (ns, utd)) : Touches ns utd.metadata.name

variable {tp g pods new ctx req applies S} {client : Upstream β} {K : String → String → Prop}

variable {e : GoError} {obj original utd : Object β} {tid : String} {options : WriteOptions}

lemma shapeError_of_isNotFound (he : e.isNotFound = true) (tid : String) :
    tp.shapeError client ctx e tid = tp.contract.trimTenantIDFromError e tid := by
  have hforbidden : e.isForbidden = false := by
    cases e with
    | plain message => rfl
    | status s =>
      simp only [GoError.isNotFound, GoError.isForbidden, GoError.hasReason, GoError.knownReasons]
        at he ⊢
      grind
  unfold shapeError
  simp only [hforbidden, Bool.not_false, Bool.true_or, if_true]

inductive SameRead : Except GoError (Object β) → Except GoError (Object β) → Prop
  | refl (x : Except GoError (Object β)) : SameRead x x
  | missing {e e' : GoError} (he : e.isNotFound = true) (he' : e'.isNotFound = true) :
      SameRead (.error e) (.error e')

variable {x y : Except GoError (Object β)} {form : Option (Object β)} {out : Outgoing β}

lemma SameRead.of_ok (h : SameRead x y) {o : Object β} (hx : x = .ok o) : y = .ok o := by
  cases h with
  | refl => exact hx
  | missing => cases hx

lemma SameRead.of_error (h : SameRead x y) (hx : x = .error e) :
    ∃ e', y = .error e' ∧ e'.isNotFound = e.isNotFound := by
  cases h with
  | refl => exact ⟨e, hx, rfl⟩
  | missing he he' => exact ⟨_, rfl, by rw [he', ← Except.error.inj hx, he]⟩

lemma readForUpdate_serves (hk : tp.contract.KeepsKinds) (hc : client.Serves applies K S)
    (hK : ∀ tid ns, ctx.tenantID = some tid → tp.getClient ctx = .ok ns →
      K ns (tp.upstreamName req.name tid)) :
    SameRead (tp.found ctx req applies S) (tp.readForUpdate client ctx req.name) := by
  unfold found readForUpdate get
  split_ifs
  · exact .refl _
  · exact .refl _
  · cases htenant : ctx.tenantID with
    | none => exact .refl _
    | some tid =>
      cases hns : tp.forUpdate.getClient ctx with
      | error e => exact .refl _
      | ok ns =>
        have hK := hK tid ns htenant hns
        have hstore := Upstream.serves_ofStore applies K S
        show SameRead
          (((Upstream.ofStore applies S).get ns (tp.upstreamName req.name tid) "").mapError _ >>= _)
          ((client.get ns (tp.upstreamName req.name tid) "").mapError _ >>= _)
        cases hS : S ns (tp.upstreamName req.name tid) with
        | some o =>
          rw [hstore.get_some _ _ o hK hS, hc.get_some _ _ o hK hS]
          exact .refl _
        | none =>
          obtain ⟨e, he, hmissing⟩ := hstore.get_none _ _ hK hS
          obtain ⟨e', he', hmissing'⟩ := hc.get_none _ _ hK hS
          rw [he, he']
          show SameRead (.error (tp.forUpdate.shapeError _ ctx e tid))
            (.error (tp.forUpdate.shapeError client ctx e' tid))
          rw [shapeError_of_isNotFound hmissing, shapeError_of_isNotFound hmissing']
          exact .missing ((hk.notFound e tid).trans hmissing) ((hk.notFound e' tid).trans hmissing')

section

variable {out : Outgoing β} {options : WriteOptions}

lemma callWrite_of_applied (hsub : tp.subresource = "") {applied : Object β}
    (h : client.forwardApply ctx out.utd out.tenantForm options.fieldManager options =
      .ok (some applied)) : tp.callWrite client ctx options out = .ok (applied, false) := by
  unfold callWrite callApply
  rw [if_pos hsub, h]
  rfl

lemma callWrite_of_refused (hsub : tp.subresource = "")
    (h : client.forwardApply ctx out.utd out.tenantForm options.fieldManager options = .error e) :
    tp.callWrite client ctx options out = .error e := by
  unfold callWrite callApply
  rw [if_pos hsub, h]
  rfl

lemma callWrite_of_update (hc : client.Serves applies K S)
    (h : ¬ (tp.subresource = "" ∧ applies ctx out.utd options.fieldManager = true)) :
    tp.callWrite client ctx options out = tp.callUpdate client options out := by
  have hnone : tp.callApply client ctx options out = .ok none := by
    unfold callApply
    split_ifs with hsub
    · refine hc.apply_none ctx out.utd out.tenantForm options.fieldManager options ?_
      exact Bool.eq_false_iff.mpr fun hyes => h ⟨hsub, hyes⟩
    · rfl
  unfold callWrite
  rw [hnone]
  rfl

end

variable (hk : tp.contract.KeepsKinds) (hown : tp.OwnErrors g pods ctx)
  (hc : client.Serves applies K S)

include hk hown hc in
lemma sendUpdate_lockConflict_iff (hK : K out.ns out.utd.metadata.name) :
    (∃ e, tp.sendUpdate client ctx options out = .error e ∧ e.isLockConflict = true) ↔
      ¬ (tp.subresource = "" ∧ applies ctx out.utd options.fieldManager = true) ∧
        S.Overtakes out.ns out.utd := by
  have hfinish : ∀ got created e, (do return (← tp.finishWrite ctx out.tenantID got, created) :
      Except GoError (Object β × Bool)) = .error e → e.isLockConflict = false := by
    intro got created e h
    cases hgot : tp.finishWrite ctx out.tenantID got with
    | error e' =>
      rw [hgot] at h
      exact Except.error.inj h ▸ (hown.finishWrite _ _ _ hgot).1
    | ok o =>
      rw [hgot] at h
      cases h
  unfold sendUpdate
  by_cases happly : tp.subresource = "" ∧ applies ctx out.utd options.fieldManager = true
  · -- An apply carries no version.
    refine ⟨fun ⟨e, he, hconflict⟩ => ?_, fun h => absurd happly h.1⟩
    obtain ⟨applied, happlied⟩ | ⟨e', he', hconflict', _⟩ :=
      hc.apply_some ctx out.utd out.tenantForm options.fieldManager options happly.2
    · rw [callWrite_of_applied happly.1 happlied] at he
      rw [hfinish applied false e he] at hconflict
      cases hconflict
    · rw [callWrite_of_refused happly.1 he'] at he
      rw [← Except.error.inj he, hk.lockConflict, hconflict'] at hconflict
      cases hconflict
  · rw [callWrite_of_update hc happly]
    unfold callUpdate
    rw [← hc.update out.ns out.utd options tp.subresource hK]
    cases hupdate : client.update out.ns out.utd options tp.subresource with
    | error e' =>
      refine ⟨fun ⟨e, he, hconflict⟩ => ⟨happly, e', rfl, ?_⟩, fun ⟨_, e, he, hconflict⟩ => ?_⟩
      · rwa [← Except.error.inj he, hk.lockConflict] at hconflict
      · refine ⟨_, rfl, ?_⟩
        rwa [hk.lockConflict, Except.error.inj he]
    | ok got =>
      refine ⟨fun ⟨e, he, hconflict⟩ => ?_, fun ⟨_, e, he, _⟩ => nomatch he⟩
      rw [hfinish got.1 _ e he] at hconflict
      cases hconflict

lemma roundFound_of_outgoing (hout : tp.outgoing g ctx req original = .ok out) :
    tp.roundFound g client ctx req original =
      match tp.sendUpdate client ctx req.options out with
      | .error e => if e.isLockConflict then .again else .done (.error e)
      | .ok result => .done (.ok result) := by
  obtain ⟨obj, hobj, hout⟩ := Except.bind_eq_ok_iff.mp hout
  obtain ⟨updated, hupdated, hout⟩ := Except.bind_eq_ok_iff.mp hout
  unfold roundFound update
  cases hsent : tp.sendUpdate client ctx req.options out <;>
    simp [bind, Except.bind, hobj, hupdated, hout, hsent]

lemma roundFound_of_error (client : Upstream β) (hout : tp.outgoing g ctx req original = .error e) :
    tp.roundFound g client ctx req original = .done (.error e) ∨
      tp.roundFound g client ctx req original = .again ∧ e.isLockConflict = true ∧
        ∃ obj, tp.prepareUpdate g ctx obj = .error e := by
  unfold outgoing at hout
  unfold roundFound update
  cases hobj : patched req.objInfo original with
  | error e' =>
    rw [hobj] at hout
    exact .inl (congrArg (fun e => Round.done (.error e)) (Except.error.inj hout))
  | ok obj =>
    rw [hobj] at hout
    cases hupdated : tp.guardUpdate g ctx obj original with
    | error e' =>
      have hsame : e' = e := by
        simp only [hupdated, bind, Except.bind] at hout
        exact Except.error.inj hout
      simp only [hupdated, bind, Except.bind, hsame]
      exact .inl trivial
    | ok updated =>
      have hprepare : tp.prepareUpdate g ctx updated = .error e := by
        simpa only [hupdated, bind, Except.bind] using hout
      simp only [hupdated, hprepare, bind, Except.bind]
      split_ifs with hconflict
      · exact .inr ⟨rfl, hconflict, updated, hprepare⟩
      · exact .inl rfl

include hk hown hc in
lemma roundFound_again_iff
    (hK : ∀ out, tp.outgoing g ctx req original = .ok out → K out.ns out.utd.metadata.name) :
    tp.roundFound g client ctx req original = .again ↔
      ∃ out, tp.outgoing g ctx req original = .ok out ∧
        ¬ (tp.subresource = "" ∧ applies ctx out.utd req.options.fieldManager = true) ∧
        S.Overtakes out.ns out.utd := by
  cases hout : tp.outgoing g ctx req original with
  | error e =>
    refine ⟨fun hagain => ?_, fun ⟨out, h, _⟩ => nomatch h⟩
    obtain hdone | ⟨_, hconflict, obj, hobj⟩ := roundFound_of_error client hout
    · rw [hdone] at hagain
      cases hagain
    · rw [hown.prepareUpdate obj e hobj] at hconflict
      cases hconflict
  | ok out =>
    rw [roundFound_of_outgoing hout]
    simp only [Except.ok.injEq, exists_eq_left',
      ← sendUpdate_lockConflict_iff hk hown hc (hK out hout)]
    cases tp.sendUpdate client ctx req.options out with
    | ok result => simp
    | error e =>
      simp only [Except.error.injEq]
      split_ifs with hconflict
      · simp [hconflict]
      · simp [hconflict]

include hk hown in
lemma finishCreate_alreadyExists_iff (tid : String) (got : Except GoError (Object β)) :
    (∃ e, (got.mapError fun e => tp.contract.trimTenantIDFromError e tid).bind
      (tp.finishWrite ctx tid) = .error e ∧ e.isAlreadyExists = true) ↔
    ∃ e, got = .error e ∧ e.isAlreadyExists = true := by
  cases got with
  | error e =>
    constructor
    · rintro ⟨e', he', hexists⟩
      rw [← Except.error.inj he', hk.alreadyExists] at hexists
      exact ⟨e, rfl, hexists⟩
    · rintro ⟨e', he', hexists⟩
      rw [← Except.error.inj he'] at hexists
      exact ⟨_, rfl, (hk.alreadyExists e tid).trans hexists⟩
  | ok o =>
    refine ⟨fun ⟨e, he, hexists⟩ => ?_, fun ⟨e, he, _⟩ => nomatch he⟩
    rw [(hown.finishWrite tid o e he).2] at hexists
    cases hexists

include hk hown hc in
lemma sendCreate_alreadyExists_iff (hK : ∀ ns, tp.getClient ctx = .ok ns → K ns utd.metadata.name) :
    (∃ e, (tp.sendCreate client.toWriteClient ctx options tid utd).2 = .error e ∧
      e.isAlreadyExists = true) ↔
    ∃ ns, tp.getClient ctx = .ok ns ∧ tp.subresource = "" ∧ S ns utd.metadata.name ≠ none := by
  unfold sendCreate
  cases hns : tp.getClient ctx with
  | error e =>
    refine ⟨fun ⟨e', he', hexists⟩ => ?_, fun ⟨ns, h, _⟩ => nomatch h⟩
    -- The client is refused with a message only.
    have hplain : e.isAlreadyExists = false := by
      unfold getClient at hns
      split at hns
      · rw [← Except.error.inj hns]
        rfl
      · rw [← Except.error.inj hns]
        rfl
      · split_ifs at hns
    rw [← Except.error.inj he', hplain] at hexists
    cases hexists
  | ok ns =>
    simp only [Except.ok.injEq, exists_eq_left']
    by_cases hsub : tp.subresource = ""
    · rw [if_pos hsub, finishCreate_alreadyExists_iff hk hown tid,
        hc.create ns utd options (hK ns hns)]
      exact ⟨fun h => ⟨hsub, h⟩, fun h => h.2⟩
    · rw [if_neg hsub]
      refine ⟨fun ⟨e, he, hexists⟩ => ?_, fun h => absurd h.1 hsub⟩
      cases hinfo : ctx.requestInfo with
      | none =>
        rw [hinfo] at he
        rw [← Except.error.inj he] at hexists
        cases hexists
      | some info =>
        rw [hinfo] at he
        obtain ⟨e', he', hexists'⟩ :=
          (finishCreate_alreadyExists_iff hk hown tid _).mp ⟨e, he, hexists⟩
        rw [hc.createSubresource _ _ _ _ _ e' he'] at hexists'
        cases hexists'

include hc in
lemma create_of_not_applied (hprepare : tp.prepareCreate g pods ctx obj = .ok (tid, form, utd))
    (happly : ¬ (tp.subresource = "" ∧ options.fieldManager ≠ "" ∧
      applies ctx utd options.fieldManager = true)) :
    (tp.create g pods client.toWriteClient ctx obj options).2 =
      (tp.sendCreate client.toWriteClient ctx options tid utd).2 := by
  unfold create
  rw [hprepare]
  simp only
  split_ifs with hmanager
  · rw [hc.apply_none ctx utd form options.fieldManager options
      (Bool.eq_false_iff.mpr fun h => happly ⟨hmanager.1, hmanager.2, h⟩)]
  · rfl

include hk hown hc in
lemma create_of_applied (hprepare : tp.prepareCreate g pods ctx obj = .ok (tid, form, utd))
    (happly : tp.subresource = "" ∧ options.fieldManager ≠ "" ∧
      applies ctx utd options.fieldManager = true)
    (he : (tp.create g pods client.toWriteClient ctx obj options).2 = .error e) :
    e.isAlreadyExists = false := by
  unfold create at he
  rw [hprepare] at he
  simp only at he
  rw [if_pos ⟨happly.1, happly.2.1⟩] at he
  obtain ⟨applied, happlied⟩ | ⟨e', he', _, hexists'⟩ :=
    hc.apply_some ctx utd form options.fieldManager options happly.2.2
  · rw [happlied] at he
    exact (hown.finishWrite tid applied e he).2
  · rw [he'] at he
    rw [← Except.error.inj he, hk.alreadyExists, hexists']

include hk hown hc in
lemma create_alreadyExists_iff
    (hK : ∀ tid form utd ns, tp.prepareCreate g pods ctx obj = .ok (tid, form, utd) →
      tp.getClient ctx = .ok ns → K ns utd.metadata.name) :
    (∃ e, (tp.create g pods client.toWriteClient ctx obj options).2 = .error e ∧
      e.isAlreadyExists = true) ↔
    ∃ tid form utd ns, tp.prepareCreate g pods ctx obj = .ok (tid, form, utd) ∧
      tp.getClient ctx = .ok ns ∧ tp.subresource = "" ∧
      ¬ (options.fieldManager ≠ "" ∧ applies ctx utd options.fieldManager = true) ∧
      S ns utd.metadata.name ≠ none := by
  cases hprepare : tp.prepareCreate g pods ctx obj with
  | error e =>
    have hcreate : (tp.create g pods client.toWriteClient ctx obj options).2 = .error e := by
      unfold create
      rw [hprepare]
    refine ⟨fun ⟨e', he', hexists⟩ => ?_, fun ⟨_, _, _, _, h, _⟩ => nomatch h⟩
    rw [hcreate] at he'
    rw [← Except.error.inj he', hown.prepareCreate obj e hprepare] at hexists
    cases hexists
  | ok x =>
    obtain ⟨tid, form, utd⟩ := x
    by_cases happly : tp.subresource = "" ∧ options.fieldManager ≠ "" ∧
        applies ctx utd options.fieldManager = true
    · constructor
      · rintro ⟨e, he, hexists⟩
        rw [create_of_applied hk hown hc hprepare happly he] at hexists
        cases hexists
      · rintro ⟨_, _, _, _, h, _, _, hnot, _⟩
        obtain ⟨rfl, rfl, rfl⟩ : _ ∧ _ ∧ _ := by simpa only [Except.ok.injEq, Prod.mk.injEq] using h
        exact absurd happly.2 hnot
    · rw [create_of_not_applied hc hprepare happly,
        sendCreate_alreadyExists_iff hk hown hc (hK tid form utd · hprepare)]
      constructor
      · rintro ⟨ns, hns, hsub, htaken⟩
        exact ⟨tid, form, utd, ns, rfl, hns, hsub, fun h => happly ⟨hsub, h⟩, htaken⟩
      · rintro ⟨_, _, _, ns, h, hns, hsub, _, htaken⟩
        obtain ⟨rfl, rfl, rfl⟩ : _ ∧ _ ∧ _ := by simpa only [Except.ok.injEq, Prod.mk.injEq] using h
        exact ⟨ns, hns, hsub, htaken⟩

lemma outgoingNew_eq_ok_iff {ns : String} :
    tp.outgoingNew g pods new ctx req = .ok (ns, utd) ↔
      ∃ updated tid form, patched req.objInfo new = .ok updated ∧
        tp.prepareCreate g pods ctx updated = .ok (tid, form, utd) ∧
        tp.getClient ctx = .ok ns := by
  unfold outgoingNew
  simp only [Except.bind_eq_ok_iff, Prod.exists]
  constructor
  · rintro ⟨updated, hupdated, tid, form, utd', hprepare, ns', hns, h⟩
    obtain ⟨rfl, rfl⟩ := Prod.mk.inj (Except.ok.inj h)
    exact ⟨updated, tid, form, hupdated, hprepare, hns⟩
  · rintro ⟨updated, tid, form, hupdated, hprepare, hns⟩
    exact ⟨updated, hupdated, tid, form, utd, hprepare, ns, hns, rfl⟩

include hk hown hc in
lemma roundMissing_again_iff
    (hK : ∀ ns utd, tp.outgoingNew g pods new ctx req = .ok (ns, utd) → K ns utd.metadata.name) :
    tp.roundMissing g pods new client ctx req = .again ↔
      ∃ ns utd, tp.outgoingNew g pods new ctx req = .ok (ns, utd) ∧ tp.subresource = "" ∧
        ¬ (req.options.fieldManager ≠ "" ∧ applies ctx utd req.options.fieldManager = true) ∧
        S ns utd.metadata.name ≠ none := by
  unfold roundMissing
  cases hupdated : patched req.objInfo new with
  | error e =>
    refine ⟨fun h => (nomatch h), fun ⟨ns, utd, hout, _⟩ => ?_⟩
    obtain ⟨_, _, _, h, _⟩ := outgoingNew_eq_ok_iff.mp hout
    rw [hupdated] at h
    cases h
  | ok updated =>
    have hcreate : (∃ e, (tp.create g pods client.toWriteClient ctx updated req.options).2 =
        .error e ∧ e.isAlreadyExists = true) ↔ _ := create_alreadyExists_iff hk hown hc
      fun tid form utd ns hprepare hns =>
        hK ns utd (outgoingNew_eq_ok_iff.mpr ⟨updated, tid, form, hupdated, hprepare, hns⟩)
    dsimp only
    refine Iff.trans ?_ (hcreate.trans ⟨?_, ?_⟩)
    · cases (tp.create g pods client.toWriteClient ctx updated req.options).2 with
      | ok created => simp
      | error e =>
        dsimp only
        split_ifs with hexists
        · simp [hexists]
        · simp [hexists]
    · rintro ⟨tid, form, utd, ns, hprepare, hns, hrest⟩
      exact ⟨ns, utd, outgoingNew_eq_ok_iff.mpr ⟨updated, tid, form, hupdated, hprepare, hns⟩,
        hrest⟩
    · rintro ⟨ns, utd, hout, hrest⟩
      obtain ⟨updated', tid, form, hupdated', hprepare, hns⟩ := outgoingNew_eq_ok_iff.mp hout
      obtain rfl := Except.ok.inj (hupdated.symm.trans hupdated')
      exact ⟨tid, form, utd, ns, hprepare, hns, hrest⟩

include hk hown in
lemma round_again_iff {reader : Upstream β}
    (hr : reader.Serves applies (tp.Touches g pods new ctx req applies S) S)
    (hc : client.Serves applies (tp.Touches g pods new ctx req applies S) S) :
    tp.round g pods new client ctx req (tp.readForUpdate reader ctx req.name) = .again ↔
      tp.SendsOvertaken g ctx req applies S ∨ tp.SendsTaken g pods new ctx req applies S := by
  have hread := readForUpdate_serves hk hr fun tid ns htenant hns => .read htenant hns
  have hmissing := roundMissing_again_iff hk hown hc fun ns utd hout => .create hout
  unfold round SendsOvertaken SendsTaken
  cases hfound : tp.found ctx req applies S with
  | ok original =>
    rw [hread.of_ok hfound]
    rw [roundFound_again_iff hk hown hc fun out hout => .update hfound hout]
    simp
  | error e =>
    obtain ⟨e', hsame, hkind⟩ := hread.of_error hfound
    rw [hsame]
    simp only [hkind]
    split_ifs with hreturns
    · simp only [Bool.or_eq_true] at hreturns
      refine ⟨fun h => (nomatch h), ?_⟩
      rintro (⟨_, _, h, _⟩ | ⟨_, _, _, h, hnotFound, hforce, _⟩)
      · cases h
      · rw [Except.error.inj h, hnotFound, hforce] at hreturns
        simp at hreturns
    · simp only [Bool.or_eq_true, Bool.not_eq_eq_eq_not, Bool.not_true, not_or] at hreturns
      rw [hmissing]
      simp [hreturns]

lemma guaranteedUpdate_returns (history : ℕ → Upstream β × Upstream β) (n : ℕ)
    (hround : tp.round g pods new (history n).2 ctx req
      (tp.readForUpdate (history n).1 ctx req.name) ≠ .again) :
    ∃ rounds result, tp.guaranteedUpdate g pods new ctx req history rounds = some result := by
  -- The rounds before the `n`-th return, or make way for it.
  induction n generalizing history with
  | zero =>
    cases h : tp.round g pods new (history 0).2 ctx req
        (tp.readForUpdate (history 0).1 ctx req.name) with
    | again => exact absurd h hround
    | done result => exact ⟨1, result, guaranteedUpdate_succ_done h 0⟩
  | succ n ih =>
    cases h : tp.round g pods new (history 0).2 ctx req
        (tp.readForUpdate (history 0).1 ctx req.name) with
    | done result => exact ⟨1, result, guaranteedUpdate_succ_done h 0⟩
    | again =>
      obtain ⟨rounds, result, hreturns⟩ := ih (fun n => history (n + 1)) hround
      refine ⟨rounds + 1, result, ?_⟩
      rw [guaranteedUpdate_succ_again h, hreturns]

lemma guaranteedUpdate_of_again (history : ℕ → Upstream β × Upstream β)
    (hround : ∀ n, tp.round g pods new (history n).2 ctx req
      (tp.readForUpdate (history n).1 ctx req.name) = .again) (rounds : ℕ) :
    tp.guaranteedUpdate g pods new ctx req history rounds = none := by
  induction rounds generalizing history with
  | zero => rfl
  | succ rounds ih =>
    rw [guaranteedUpdate_succ_again (hround 0)]
    exact ih _ fun n => hround (n + 1)

/-- Whatever upstream stores in the end, the loop of a patch returns in every history that comes to
rest there if and only if a round over it sends neither an update that is overtaken nor a create whose
name is taken. -/
theorem guaranteedUpdate_returns_iff (hk : tp.contract.KeepsKinds) (hown : tp.OwnErrors g pods ctx) :
    (∀ history : ℕ → Upstream β × Upstream β, (∃ N, ∀ n ≥ N,
        (history n).1.Serves applies (tp.Touches g pods new ctx req applies S) S ∧
        (history n).2.Serves applies (tp.Touches g pods new ctx req applies S) S) →
      ∃ rounds result, tp.guaranteedUpdate g pods new ctx req history rounds = some result) ↔
    ¬ tp.SendsOvertaken g ctx req applies S ∧ ¬ tp.SendsTaken g pods new ctx req applies S := by
  constructor
  · intro h
    by_contra hsends
    rw [← not_or, not_not] at hsends
    -- An upstream that stays at the store has every round go round again.
    have hserves := Upstream.serves_ofStore applies (tp.Touches g pods new ctx req applies S) S
    have hagain := (round_again_iff hk hown hserves hserves).mpr hsends
    obtain ⟨rounds, result, hreturns⟩ := h
      (fun _ => (.ofStore applies S, .ofStore applies S)) ⟨0, fun _ _ => ⟨hserves, hserves⟩⟩
    have hnone := guaranteedUpdate_of_again
      (fun _ => (.ofStore applies S, .ofStore applies S)) (fun _ => hagain) rounds
    rw [hnone] at hreturns
    cases hreturns
  · rintro hsends history ⟨N, hquiet⟩
    refine guaranteedUpdate_returns history N fun hagain => ?_
    obtain ⟨hr, hc⟩ := hquiet N le_rfl
    have := (round_again_iff hk hown hr hc).mp hagain
    tauto

end TenantProxy

def settingsStore : Store Unit := fun ns name =>
  if ns = "111111-web" ∧ name = "settings" then
    some { metadata := { name := "settings", «namespace» := "111111-web", resourceVersion := "2" }
           body := () }
  else none

def settingsPatch (version : String → String) : PatchRequest Unit :=
  { name := "settings"
    objInfo := { updatedObject := fun old => .ok { old with metadata := { old.metadata with
      labels := old.metadata.labels.insert "tier" "gold"
      resourceVersion := version old.metadata.resourceVersion } } } }

def Round.isAgain : Round β → Bool
  | .again => true
  | .done _ => false

lemma Round.eq_again {r : Round β} (h : r.isAgain = true) : r = .again := by
  cases r with
  | again => rfl
  | done result => cases h

def neverApplies : RequestContext → Object Unit → String → Bool := fun _ _ _ => false

lemma keepsKinds_dashContract : dashContract.KeepsKinds :=
  ⟨fun _ _ => rfl, fun _ _ => rfl, fun _ _ => rfl⟩

lemma ownErrors_plainConfigMaps : plainConfigMaps.OwnErrors .permissive noPod webContext where
  prepareUpdate obj e h := by cases h
  prepareCreate obj e h := by cases h
  finishWrite t o e h := by cases h

theorem guaranteedUpdate_returns_kept_version :
    ∃ rounds result, plainConfigMaps.guaranteedUpdate .permissive noPod { body := () } webContext
      (settingsPatch id)
      (fun _ => (.ofStore neverApplies settingsStore, .ofStore neverApplies settingsStore)) rounds =
        some result := by
  have hserves := Upstream.serves_ofStore neverApplies (plainConfigMaps.Touches .permissive noPod
    { body := () } webContext (settingsPatch id) neverApplies settingsStore) settingsStore
  refine (TenantProxy.guaranteedUpdate_returns_iff keepsKinds_dashContract
    ownErrors_plainConfigMaps).mpr ⟨?_, ?_⟩ _ ⟨0, fun _ _ => ⟨hserves, hserves⟩⟩
  · rintro ⟨original, out, hfound, hout, _, o, ho, _, hne⟩
    cases hfound
    cases hout
    exact hne (congrArg (fun o => o.metadata.resourceVersion) (Option.some.inj ho))
  · rintro ⟨e, ns, utd, hfound, _⟩
    cases hfound

theorem stale_patch_never_returns :
    (Upstream.ofStore neverApplies settingsStore).Serves neverApplies (fun _ _ => True)
      settingsStore ∧
    ∀ rounds, plainConfigMaps.guaranteedUpdate .permissive noPod { body := () } webContext
      (settingsPatch fun _ => "1")
      (fun _ => (.ofStore neverApplies settingsStore, .ofStore neverApplies settingsStore)) rounds =
        none := by
  refine ⟨Upstream.serves_ofStore _ _ _, ?_⟩
  refine TenantProxy.guaranteedUpdate_of_again _ fun _ => Round.eq_again ?_
  decide +kernel

end KubeZoo
