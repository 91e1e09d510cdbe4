import KubeZoo.Lib.Optimistic
import KubeZoo.Proxy.Retry

/-! # Patches of one object -/

namespace KubeZoo

open Transition (System)

variable {β ι : Type}

def Object.atVersion (o : Object β) (version : String) : Object β :=
  { o with metadata := { o.metadata with resourceVersion := version } }

/-- Upstream for the requests of one stored object. -/
def Upstream.ofObject (o : Object β) (version : String) : Upstream β where
  get _ _ _ := .ok o
  create _ utd _ := .error (.status (newAlreadyExists "" "" utd.metadata.name))
  createSubresource _ name _ _ subresource := .error (.status (newNotFound "" subresource name))
  update _ utd _ _ :=
    if utd.metadata.resourceVersion = o.metadata.resourceVersion then
      .ok (utd.atVersion version, false)
    else .error (.status (newConflict "" "" utd.metadata.name optimisticLockErrorMsg))
  forwardApply _ _ _ _ _ := .ok none
  getNamespace _ := .ok ()

inductive PatchPhase (β : Type)
  | reading
  | holding (read : Except GoError (Object β))
  | returned (result : Except GoError (Object β × Bool))

def PatchPhase.after : Round β → PatchPhase β
  | .again => reading
  | .done result => returned result

def PatchPhase.succeeded : PatchPhase β → Bool
  | returned (.ok _) => true
  | _ => false

structure Patching (ι β : Type) where
  stored : Option ι × Object β
  past : List (Option ι × Object β)
  phase : ι → PatchPhase β

inductive PatchAction (ι β : Type)
  | read (i : ι)
  | write (i : ι)
  | foreign (o : Object β)

namespace Patching

def versions (s : Patching ι β) : List (Option ι × Object β) := s.stored :: s.past

def push (s : Patching ι β) (who : Option ι) (o : Object β) : Patching ι β :=
  { s with stored := (who, o), past := s.versions }

def move [DecidableEq ι] (s : Patching ι β) (i : ι) (phase : PatchPhase β) : Patching ι β :=
  { s with phase := Function.update s.phase i phase }

/-- Upstream, when these versions were written. -/
def upstream (version : ℕ → String) (s : Patching ι β) : Upstream β :=
  .ofObject s.stored.2 (version (s.versions.length + 1))

end Patching

namespace TenantProxy

variable (tp : TenantProxy β) (g : Guards β) (pods : PodSteps β) (new : Object β)

def stores (client : Upstream β) (ctx : RequestContext) (req : PatchRequest β)
    (read : Except GoError (Object β)) : Option (Object β) :=
  match read with
  | .error _ => none
  | .ok original =>
    match tp.outgoing g ctx req original with
    | .error _ => none
    | .ok out => (client.update out.ns out.utd req.options tp.subresource).toOption.map Prod.fst

variable (version : ℕ → String) (ctx : ι → RequestContext) (req : ι → PatchRequest β)
  [DecidableEq ι]

def wrote (s : Patching ι β) (i : ι) (read : Except GoError (Object β)) : Patching ι β :=
  match tp.stores g (s.upstream version) (ctx i) (req i) read with
  | some o => s.push (some i) o
  | none => s

inductive PatchStep : Patching ι β → PatchAction ι β → Patching ι β → Prop
  | read {s : Patching ι β} {i : ι} (hphase : s.phase i = .reading) : PatchStep s (.read i)
        (s.move i (.holding (tp.readForUpdate (s.upstream version) (ctx i) (req i).name)))
  | write {s : Patching ι β} {i : ι} {read : Except GoError (Object β)}
      (hphase : s.phase i = .holding read) :
      PatchStep s (.write i) ((tp.wrote g version ctx req s i read).move i
          (.after (tp.round g pods new (s.upstream version) (ctx i) (req i) read)))
  | foreign {s : Patching ι β} (o : Object β) :
      PatchStep s (.foreign o) (s.push none (o.atVersion (version (s.versions.length + 1))))

def patching : System (Patching ι β) (PatchAction ι β) where
  Init s := s.past = [] ∧ s.stored.1 = none ∧ s.stored.2.metadata.resourceVersion = version 1 ∧
    ∀ i, s.phase i = .reading
  Step := tp.PatchStep g pods new version ctx req

omit [DecidableEq ι] in
structure KeepsVersions : Prop where
  forward : ∀ o t b o', tp.convertor.convertTenantObjectToUpstreamObject o t b = .ok o' →
    o'.metadata.resourceVersion = o.metadata.resourceVersion
  backward : ∀ o t b, ∃ o', tp.convertor.convertUpstreamObjectToTenantObject o t b = .ok o' ∧
    o'.metadata.resourceVersion = o.metadata.resourceVersion
  body : ∀ o, ∃ body, tp.fromVersioned o = .ok body

/-- `w` is what a patch makes of the stored object `v`: the patch is applied to the view of it, the
hidden keys are put back, and the result is converted. -/
def PatchOf (ctx : RequestContext) (req : PatchRequest β) (v w : Object β) : Prop :=
  ∃ tid original updated up utd version, ctx.tenantID = some tid ∧
    tp.forUpdate.finishWrite ctx tid v = .ok original ∧
    patched req.objInfo original = .ok updated ∧
    tp.convertTenantObjectToUpstreamObject
      (HiddenMetadata.restore tp.hiddenMetadata updated (some original)) tid = .ok up ∧
    tp.convertInternalObjectToUnstructuredObject up = .ok utd ∧ w = utd.atVersion version

variable {tp g pods new version ctx req}

section

variable {ctx : RequestContext} {req : PatchRequest β} {o original : Object β} {v : String}

lemma KeepsVersions.forUpdate (h : tp.KeepsVersions) : tp.forUpdate.KeepsVersions :=
  ⟨h.forward, h.backward, h.body⟩

lemma KeepsVersions.finishWrite (h : tp.KeepsVersions) (ctx : RequestContext) (tid : String)
    (o : Object β) :
    ∃ shown, shown.metadata.resourceVersion = o.metadata.resourceVersion ∧
      tp.finishWrite ctx tid o =
        .ok (tp.echoRequestNamespace (tp.applyTenantViews shown) tid (tp.requestNamespace ctx)) := by
  have houtput : ∃ output, tp.convertUnstructuredToOutput o = .ok output ∧
      output.metadata = o.metadata := by
    unfold convertUnstructuredToOutput
    split_ifs
    · exact ⟨o, rfl, rfl⟩
    · obtain ⟨body, hbody⟩ := h.body o
      rw [hbody]
      exact ⟨{ o with body := body }, rfl, rfl⟩
  obtain ⟨output, houtput, hmeta⟩ := houtput
  obtain ⟨shown, hshown, hversion⟩ := h.backward output tid tp.namespaceScoped
  refine ⟨shown, by rw [hversion, hmeta], ?_⟩
  unfold TenantProxy.finishWrite convertUpstreamObjectToTenantObject
  rw [houtput]
  show (tp.convertor.convertUpstreamObjectToTenantObject output tid tp.namespaceScoped >>= _) = _
  rw [hshown]
  rfl

lemma echoRequestNamespace_version (obj : Object β) (tid ns : String) :
    (tp.echoRequestNamespace obj tid ns).metadata.resourceVersion =
      obj.metadata.resourceVersion := by
  obtain ⟨ns', h⟩ := tp.echoRequestNamespace_eq obj tid ns
  rw [h]

lemma KeepsVersions.view (h : tp.KeepsVersions) {tid : String}
    (hview : tp.forUpdate.finishWrite ctx tid o = .ok original) :
    original.metadata.resourceVersion = o.metadata.resourceVersion := by
  obtain ⟨shown, hversion, hshown⟩ := h.forUpdate.finishWrite ctx tid o
  rw [hshown] at hview
  rw [← Except.ok.inj hview, echoRequestNamespace_version, ← hversion]
  -- What a write reads is the stored view.
  show (if true then shown else _ : Object β).metadata.resourceVersion = _
  rw [if_pos rfl]

lemma readForUpdate_ofObject (hread : tp.readForUpdate (.ofObject o v) ctx req.name = .ok original) :
    ∃ tid, ctx.tenantID = some tid ∧ tp.forUpdate.finishWrite ctx tid o = .ok original := by
  unfold readForUpdate get at hread
  split_ifs at hread
  cases htenant : ctx.tenantID with
  | none => rw [htenant] at hread; cases hread
  | some tid =>
    rw [htenant] at hread
    obtain ⟨ns, _, hread⟩ := Except.bind_eq_ok_iff.mp hread
    exact ⟨tid, rfl, hread⟩

lemma restore_version (hidden : Option HiddenMetadata) (obj : Object β) (old : Option (Object β)) :
    (HiddenMetadata.restore hidden obj old).metadata.resourceVersion =
      obj.metadata.resourceVersion := by
  cases hidden with
  | none => rfl
  | some hidden => rfl

variable (h : tp.KeepsVersions)
  (hip : ∀ obj old obj', g.refuseForeignClusterIP obj old = .ok obj' → obj' = obj)
  (hpatch : ∀ old obj, req.objInfo.updatedObject old = .ok obj →
    obj.metadata.resourceVersion = old.metadata.resourceVersion)

include h hip hpatch in
lemma outgoing_ok {out : Outgoing β} (hout : tp.outgoing g ctx req original = .ok out) :
    out.utd.metadata.resourceVersion = original.metadata.resourceVersion ∧
    ∃ updated up, patched req.objInfo original = .ok updated ∧ ctx.tenantID = some out.tenantID ∧
      tp.convertTenantObjectToUpstreamObject
        (HiddenMetadata.restore tp.hiddenMetadata updated (some original)) out.tenantID = .ok up ∧
      tp.convertInternalObjectToUnstructuredObject up = .ok out.utd := by
  obtain ⟨updated, hupdated, hrest⟩ := Except.bind_eq_ok_iff.mp hout
  obtain ⟨guarded, hguarded, hprepare⟩ := Except.bind_eq_ok_iff.mp hrest
  obtain ⟨obj', hobj', rfl⟩ := guardUpdate_ok hguarded
  obtain rfl := hip _ _ _ hobj'
  obtain ⟨up, htenant, hup, hutd, -, -⟩ := prepareUpdate_ok hprepare
  refine ⟨?_, obj', up, hupdated, htenant, hup, hutd⟩
  obtain ⟨_, hobj⟩ := Except.bind_eq_ok_iff.mp hupdated
  rw [metadata_of_versioned hutd, h.forward _ _ _ _ hup, restore_version]
  exact hpatch original obj' hobj.2

lemma create_ofObject (obj : Object β) (options : WriteOptions) :
    ∃ e, (tp.create g pods (Upstream.ofObject o v).toWriteClient ctx obj options).2 = .error e := by
  have hsend : ∀ tid utd, ∃ e,
      (tp.sendCreate (Upstream.ofObject o v).toWriteClient ctx options tid utd).2 = .error e := by
    intro tid utd
    unfold sendCreate
    cases tp.getClient ctx with
    | error e => exact ⟨e, rfl⟩
    | ok ns =>
      simp only
      by_cases hsub : tp.subresource = ""
      · rw [if_pos hsub]
        exact ⟨_, rfl⟩
      · rw [if_neg hsub]
        cases ctx.requestInfo with
        | none | some info => exact ⟨_, rfl⟩
  unfold create
  cases tp.prepareCreate g pods ctx obj with
  | error e => exact ⟨e, rfl⟩
  | ok x =>
    obtain ⟨tid, form, utd⟩ := x
    split_ifs
    · exact hsend tid utd
    · exact hsend tid utd

lemma round_ofObject (pods : PodSteps β) (new : Object β) (h : tp.KeepsVersions)
    (read : Except GoError (Object β)) :
    (∃ result, tp.round g pods new (.ofObject o v) ctx req read = .done (.ok result)) ↔
      (tp.stores g (.ofObject o v) ctx req read).isSome = true := by
  unfold round
  cases read with
  | error e =>
    refine ⟨fun ⟨result, hresult⟩ => ?_, fun hstores => nomatch hstores⟩
    simp only at hresult
    split_ifs at hresult
    · cases hresult
    · unfold roundMissing at hresult
      split at hresult
      · cases hresult
      · next updated _ =>
        have hcreate : ∃ e, (tp.create g pods (Upstream.ofObject o v).toWriteClient ctx updated
            req.options).2 = .error e := create_ofObject updated req.options
        obtain ⟨e, he⟩ := hcreate
        rw [he] at hresult
        simp only at hresult
        split_ifs at hresult
        cases hresult
  | ok original =>
    unfold stores
    simp only
    cases hout : tp.outgoing g ctx req original with
    | error e =>
      refine ⟨fun ⟨result, hresult⟩ => ?_, fun hstores => nomatch hstores⟩
      obtain hdone | ⟨hagain, _⟩ := roundFound_of_error (.ofObject o v) hout
      · rw [hdone] at hresult
        cases hresult
      · rw [hagain] at hresult
        cases hresult
    | ok out =>
      rw [roundFound_of_outgoing hout]
      have hcall : tp.callWrite (.ofObject o v) ctx req.options out =
          tp.callUpdate (.ofObject o v) req.options out := by
        unfold callWrite callApply
        split_ifs
        · rfl
        · rfl
      unfold sendUpdate
      rw [hcall]
      unfold callUpdate
      dsimp only
      cases (Upstream.ofObject o v).update out.ns out.utd req.options tp.subresource with
      | error e =>
        refine ⟨fun ⟨result, hresult⟩ => ?_, fun hstores => nomatch hstores⟩
        simp only [Except.map, Except.mapError, bind, Except.bind] at hresult
        split_ifs at hresult
        cases hresult
      | ok got =>
        obtain ⟨shown, _, hshown⟩ := h.finishWrite ctx out.tenantID got.1
        simp only [Except.map, Except.mapError, bind, Except.bind, hshown]
        exact ⟨fun _ => rfl, fun _ => ⟨_, rfl⟩⟩

include h hip hpatch in
lemma stores_ofObject {stored w : Object β} {next : String}
    (hstores : tp.stores g (.ofObject stored next) ctx req
      (tp.readForUpdate (.ofObject o v) ctx req.name) = some w) :
    tp.PatchOf ctx req o w ∧ w.metadata.resourceVersion = next ∧
      o.metadata.resourceVersion = stored.metadata.resourceVersion := by
  unfold stores at hstores
  cases hread : tp.readForUpdate (.ofObject o v) ctx req.name with
  | error e => rw [hread] at hstores; cases hstores
  | ok original =>
    rw [hread] at hstores
    cases hout : tp.outgoing g ctx req original with
    | error e => simp only [hout] at hstores; cases hstores
    | ok out =>
      simp only [hout] at hstores
      obtain ⟨hversion, updated, up, hupdated, htenant, hup, hutd⟩ := outgoing_ok h hip hpatch hout
      obtain ⟨tid, htenant', hview⟩ := readForUpdate_ofObject hread
      obtain rfl : out.tenantID = tid := Option.some.inj (htenant.symm.trans htenant')
      -- Upstream takes a write that carries the stored version.
      by_cases haccepted : out.utd.metadata.resourceVersion = stored.metadata.resourceVersion
      · have hupdate : (Upstream.ofObject stored next).update out.ns out.utd req.options
            tp.subresource = .ok (out.utd.atVersion next, false) := if_pos haccepted
        rw [hupdate] at hstores
        obtain rfl : out.utd.atVersion next = w := Option.some.inj hstores
        refine ⟨⟨out.tenantID, original, updated, up, out.utd, next, htenant, hview, hupdated, hup,
          hutd, rfl⟩, rfl, ?_⟩
        rw [← h.view hview, ← hversion, haccepted]
      · have hupdate : (Upstream.ofObject stored next).update out.ns out.utd req.options
            tp.subresource = .error _ := if_neg haccepted
        rw [hupdate] at hstores
        cases hstores

end

inductive SamePhase (tp : TenantProxy β) (version : ℕ → String) (ctx : RequestContext)
    (req : PatchRequest β) : PatchPhase β → Optimistic.Phase (Object β) → Prop
  | reading : SamePhase tp version ctx req .reading .idle
  | holding {n : ℕ} {o : Object β} {next : String}
      (hversion : o.metadata.resourceVersion = version n) :
      SamePhase tp version ctx req
        (.holding (tp.readForUpdate (.ofObject o next) ctx req.name)) (.holding n o)
  | succeeded {result : Object β × Bool} :
      SamePhase tp version ctx req (.returned (.ok result)) .committed
  | failed {e : GoError} : SamePhase tp version ctx req (.returned (.error e)) .failed

structure Simulates (tp : TenantProxy β) (version : ℕ → String) (ctx : ι → RequestContext)
    (req : ι → PatchRequest β) (s : Patching ι β) (a : Optimistic.State ι (Object β)) : Prop where
  log : a.log = s.versions
  stored : s.stored.2.metadata.resourceVersion = version s.versions.length
  phase : ∀ i, SamePhase tp version (ctx i) (req i) (s.phase i) (a.phase i)

section

variable {s s' : Patching ι β} {a : Optimistic.State ι (Object β)} {act : PatchAction ι β}

section

variable {ctx : RequestContext} {req : PatchRequest β} {phase : PatchPhase β}
  {phase' : Optimistic.Phase (Object β)}

lemma SamePhase.of_reading (h : SamePhase tp version ctx req phase phase')
    (hphase : phase = .reading) : phase' = .idle := by
  cases h with
  | reading => rfl
  | holding | succeeded | failed => cases hphase

lemma SamePhase.of_holding (h : SamePhase tp version ctx req phase phase')
    {read : Except GoError (Object β)} (hphase : phase = .holding read) :
    ∃ n o next, phase' = .holding n o ∧ read = tp.readForUpdate (.ofObject o next) ctx req.name ∧
      o.metadata.resourceVersion = version n := by
  cases h with
  | holding hversion => exact ⟨_, _, _, rfl, (PatchPhase.holding.inj hphase).symm, hversion⟩
  | reading | succeeded | failed => cases hphase

lemma SamePhase.succeeded_iff (h : SamePhase tp version ctx req phase phase') :
    phase.succeeded = true ↔ phase' = .committed := by
  cases h with
  | reading | holding | failed => exact ⟨fun h => (nomatch h), fun h => nomatch h⟩
  | succeeded => exact ⟨fun _ => rfl, fun _ => rfl⟩

end

lemma SamePhase.update {phase : ι → PatchPhase β} {phase' : ι → Optimistic.Phase (Object β)}
    (h : ∀ j, SamePhase tp version (ctx j) (req j) (phase j) (phase' j)) {i : ι}
    {p : PatchPhase β} {p' : Optimistic.Phase (Object β)}
    (hp : SamePhase tp version (ctx i) (req i) p p') (j : ι) :
    SamePhase tp version (ctx j) (req j) (Function.update phase i p j)
      (Function.update phase' i p' j) := by
  by_cases hij : j = i
  · subst hij
    rw [Function.update_self, Function.update_self]
    exact hp
  · rw [Function.update_of_ne hij, Function.update_of_ne hij]
    exact h j

variable (hv : Function.Injective version) (hconv : tp.KeepsVersions)
  (hip : ∀ obj old obj', g.refuseForeignClusterIP obj old = .ok obj' → obj' = obj)
  (hpatch : ∀ i old obj, (req i).objInfo.updatedObject old = .ok obj →
    obj.metadata.resourceVersion = old.metadata.resourceVersion)

include hv hconv hip hpatch in
lemma Simulates.step (h : Simulates tp version ctx req s a)
    (hstep : tp.PatchStep g pods new version ctx req s act s') :
    ∃ act' a', Optimistic.Step (fun i => tp.PatchOf (ctx i) (req i)) a act' a' ∧
      Simulates tp version ctx req s' a' := by
  cases hstep with
  | foreign o =>
    refine ⟨_, _, .foreign (o.atVersion (version (s.versions.length + 1))), ?_, rfl, h.phase⟩
    show _ :: a.log = _ :: s.versions
    rw [h.log]
    rfl
  | @read i hphase =>
    refine ⟨_, _, .read ((h.phase i).of_reading hphase) h.log, h.log, h.stored, SamePhase.update h.phase ?_⟩
    refine .holding ?_
    rw [h.log, h.stored]
  | @write i read hphase =>
    obtain ⟨n, o, next, hheld, rfl, hversion⟩ := (h.phase i).of_holding hphase
    have hround : (∃ result, tp.round g pods new
        (.ofObject s.stored.2 (version (s.versions.length + 1))) (ctx i) (req i)
        (tp.readForUpdate (.ofObject o next) (ctx i) (req i).name) = .done (.ok result)) ↔
        (tp.stores g (.ofObject s.stored.2 (version (s.versions.length + 1))) (ctx i) (req i)
          (tp.readForUpdate (.ofObject o next) (ctx i) (req i).name)).isSome = true :=
      round_ofObject pods new hconv _
    unfold wrote Patching.upstream
    cases hstores : tp.stores g (.ofObject s.stored.2 (version (s.versions.length + 1))) (ctx i)
        (req i) (tp.readForUpdate (.ofObject o next) (ctx i) (req i).name) with
    | some w =>
      obtain ⟨hpatchOf, hnext, hsame⟩ := stores_ofObject hconv hip (hpatch i) hstores
      obtain ⟨result, hresult⟩ := hround.mpr (by rw [hstores]; rfl)
      rw [hresult]
      -- What the patch read is the version that is stored.
      have hn : n = a.log.length := by
        rw [h.log]
        exact hv (by rw [← hversion, hsame, h.stored])
      subst hn
      refine ⟨_, _, .commit hheld hpatchOf, ?_, hnext, SamePhase.update h.phase .succeeded⟩
      show _ :: a.log = _ :: s.versions
      rw [h.log]
      rfl
    | none =>
      cases hresult : tp.round g pods new (.ofObject s.stored.2 (version (s.versions.length + 1)))
          (ctx i) (req i) (tp.readForUpdate (.ofObject o next) (ctx i) (req i).name) with
      | again =>
        exact ⟨_, _, .retry hheld, h.log, h.stored, SamePhase.update h.phase .reading⟩
      | done result =>
        cases result with
        | error e =>
          refine ⟨_, _, .fail (i := i) (by rw [hheld]; exact nofun), h.log, h.stored,
            SamePhase.update h.phase .failed⟩
        | ok result =>
          have hsome := hround.mp ⟨result, hresult⟩
          rw [hstores] at hsome
          cases hsome

include hv hconv hip hpatch in
lemma simulates_of_reachable (h : (tp.patching g pods new version ctx req).Reachable s) :
    ∃ a, (Optimistic.system fun i => tp.PatchOf (ctx i) (req i)).Reachable a ∧
      Simulates tp version ctx req s a := by
  refine h.invariant (P := fun s => ∃ a,
    (Optimistic.system fun i => tp.PatchOf (ctx i) (req i)).Reachable a ∧
      Simulates tp version ctx req s a) (fun s hinit => ?_) fun s act s' _ ⟨a, ha, hsim⟩ hstep => ?_
  · obtain ⟨hpast, hwho, hstored, hphase⟩ := hinit
    have hversions : s.versions = [(none, s.stored.2)] := by
      unfold Patching.versions
      rw [hpast, ← hwho]
    refine ⟨⟨s.versions, fun _ => .idle⟩, .init ⟨⟨s.stored.2, hversions⟩, fun _ => rfl⟩, rfl, ?_,
      fun i => ?_⟩
    · rw [hversions]
      exact hstored
    · rw [hphase i]
      exact .reading
  · obtain ⟨act', a', hstep', hsim'⟩ := hsim.step hv hconv hip hpatch hstep
    exact ⟨a', ha.step hstep', hsim'⟩

/-- In every order of the reads and writes of any number of patches, each version a patch wrote is
what it makes of the version right before, and a patch wrote once if it succeeded, and not at all if
it did not. -/
theorem no_lost_patch (hv : Function.Injective version) (hconv : tp.KeepsVersions)
    (hip : ∀ obj old obj', g.refuseForeignClusterIP obj old = .ok obj' → obj' = obj)
    (hpatch : ∀ i old obj, (req i).objInfo.updatedObject old = .ok obj →
      obj.metadata.resourceVersion = old.metadata.resourceVersion)
    (h : (tp.patching g pods new version ctx req).Reachable s) :
    (∀ newer i w v older, s.versions = newer ++ (some i, w) :: v :: older →
      tp.PatchOf (ctx i) (req i) v.2 w) ∧
    ∀ i, s.versions.countP (fun v => v.1 = some i) = if (s.phase i).succeeded then 1 else 0 := by
  obtain ⟨a, ha, hsim⟩ := simulates_of_reachable hv hconv hip hpatch h
  constructor
  · rw [← hsim.log]
    exact Optimistic.chained_of_reachable ha
  · intro i
    have hcounted := Optimistic.counted_of_reachable ha i
    rw [hsim.log, ← (hsim.phase i).succeeded_iff] at hcounted
    split_ifs with hsucceeded
    · exact hcounted.1 hsucceeded
    · exact hcounted.2 fun hc => hsucceeded ((hsim.phase i).succeeded_iff.mpr hc)

end

end TenantProxy

lemma keepsVersions_plainConfigMaps : plainConfigMaps.KeepsVersions where
  forward o t b o' h := by rw [← Except.ok.inj h]
  backward o t b := ⟨o, rfl, rfl⟩
  body o := ⟨o.body, rfl⟩

def settingsPatching : Patching Bool Unit :=
  { stored := (none, { metadata := { name := "settings", «namespace» := "111111-web"
                                     resourceVersion := "1" }, body := () })
    past := []
    phase := fun _ => .reading }

theorem no_lost_patch_two :
    ∃ s, (plainConfigMaps.patching .permissive noPod { body := () } formatUint
        (fun _ : Bool => webContext) fun _ => settingsPatch id).Reachable s ∧
      s.versions.length = 2 ∧
      (∀ newer i w v older, s.versions = newer ++ (some i, w) :: v :: older →
        plainConfigMaps.PatchOf webContext (settingsPatch id) v.2 w) ∧
      s.versions.countP (fun v => v.1 = some true) = if (s.phase true).succeeded then 1 else 0 := by
  have hinit : (plainConfigMaps.patching .permissive noPod { body := () } formatUint
      (fun _ : Bool => webContext) fun _ => settingsPatch id).Reachable settingsPatching :=
    .init ⟨rfl, rfl, by decide +kernel, fun _ => rfl⟩
  have hrun := ((hinit.step (.read (i := true) rfl)).step (.read (i := false) rfl)).step
    (.write (i := true) rfl)
  have hresults := TenantProxy.no_lost_patch formatUint_injective keepsVersions_plainConfigMaps
    (fun obj old obj' h => (Except.ok.inj h).symm)
    (fun _ old obj h => by rw [← Except.ok.inj h]; rfl) hrun
  exact ⟨_, hrun, by decide +kernel, hresults.1, hresults.2 true⟩

end KubeZoo
