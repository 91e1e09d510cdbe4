import KubeZoo.Convert.Prefix
import KubeZoo.Convert.Reference
import KubeZoo.Lib.View

/-! # The default convertor -/

namespace KubeZoo

structure Owned (σ : Type) where
  ownerReferences : List OwnerReference := []
  spec : σ
deriving DecidableEq

variable {σ : Type}

namespace Object

def withSpec (o : Object (Owned σ)) (spec : σ) : Object (Owned σ) :=
  { o with body := { o.body with spec := spec } }

@[simp] lemma metadata_withSpec (o : Object (Owned σ)) (spec : σ) :
    (o.withSpec spec).metadata = o.metadata := rfl

@[simp] lemma spec_withSpec (o : Object (Owned σ)) (spec : σ) :
    (o.withSpec spec).body.spec = spec := rfl

@[simp] lemma owners_withSpec (o : Object (Owned σ)) (spec : σ) :
    (o.withSpec spec).body.ownerReferences = o.body.ownerReferences := rfl

end Object

/-- `errors.WithMessage` and `errors.Wrap`. -/
def withMessage (message : String) (e : GoError) : GoError := .plain (message ++ ": " ++ e.error)

lemma mapError_eq_ok_iff {α : Type} {x : Except GoError α} {f : GoError → GoError} {a : α} :
    x.mapError f = .ok a ↔ x = .ok a := by
  cases x <;> simp [Except.mapError]

/-- `ownerReferenceTransformer.Backward`. The group that arrives has its prefix already. -/
def ownerReferenceBackward (c : Contract) (checkGroupKind : CheckGroupKind) (tid : String)
    (ref : OwnerReference) : Except GoError OwnerReference := do
  let group ← parseGroup ref.apiVersion
  let (namespaced, customResourceGroup) ← checkGroupKind group ref.kind tid false
  let name := if !namespaced then c.trimTenantIDPrefix tid ref.name else ref.name
  let apiVersion := if customResourceGroup then trimIfAttributable c ref.apiVersion tid
    else ref.apiVersion
  return { ref with apiVersion := apiVersion, name := name }

def ownerReferenceView (c : Contract) (checkGroupKind : CheckGroupKind) (tid : String) :
    View GoError OwnerReference OwnerReference where
  read := ownerReferenceBackward c checkGroupKind tid
  write := ownerReferenceForward c checkGroupKind tid

def rewriteAppliedValue (c : Contract) (tid : String) (isNamespaceScoped forward : Bool)
    (value : String) : String :=
  if forward && isNamespaceScoped then c.upstreamNamespace tid value
  else if forward then c.addTenantIDPrefix tid value
  else c.trimTenantIDPrefix tid value

def rewriteDocument (c : Contract) (tid : String) (isNamespaceScoped forward : Bool)
    (raw : String) : Option String :=
  let key := if !isNamespaceScoped then "name" else "namespace"
  match Json.parse raw.toList with
  | some (.object applied) =>
    if !Json.fieldsInRange applied then none
    else
      match Json.field applied "metadata" with
      | some (.object metadata) =>
        match Json.field metadata key with
        | some (.string value) =>
          let rewritten := rewriteAppliedValue c tid isNamespaceScoped forward value
          if value = "" ∨ rewritten = value then none
          else
            let metadata := Json.setField metadata key (.string rewritten)
            some (String.ofList (Json.marshal
              (.object (Json.setField applied "metadata" (.object metadata)))))
        | _ => none
      | _ => none
  | _ => none

def rewriteLastApplied (c : Contract) (tid : String) (isNamespaceScoped forward : Bool)
    (annotations : StringMap) : StringMap :=
  match annotations[lastAppliedKey]? with
  | none => annotations
  | some raw =>
    if raw = "" then annotations
    else
      match rewriteDocument c tid isNamespaceScoped forward raw with
      | none => annotations
      | some encoded => annotations.insert lastAppliedKey encoded

def forwardMetadata (c : Contract) (tid : String) (isNamespaceScoped : Bool)
    (m : ObjectMeta) : ObjectMeta :=
  let m :=
    if isNamespaceScoped then
      if m.namespace ≠ "" then { m with «namespace» := c.upstreamNamespace tid m.namespace }
      else m
    else
      { m with
        name := if m.name ≠ "" then c.addTenantIDPrefix tid m.name else m.name
        generateName :=
          if m.generateName ≠ "" then c.addTenantIDPrefix tid m.generateName
          else m.generateName }
  { m with annotations := rewriteLastApplied c tid isNamespaceScoped true m.annotations }

def backwardMetadata (c : Contract) (tid : String) (isNamespaceScoped : Bool)
    (m : ObjectMeta) : ObjectMeta :=
  let m :=
    if isNamespaceScoped then
      { m with «namespace» := c.trimTenantIDPrefix tid m.namespace }
    else
      { m with
        name := c.trimTenantIDPrefix tid m.name
        generateName := c.trimTenantIDPrefix tid m.generateName }
  { m with annotations := rewriteLastApplied c tid isNamespaceScoped false m.annotations }

def defaultConvertor (c : Contract) (checkGroupKind : CheckGroupKind) : Convertor (Owned σ) where
  convertTenantObjectToUpstreamObject o tid isNamespaceScoped := do
    let owners ← o.body.ownerReferences.mapM (ownerReferenceForward c checkGroupKind tid)
    return { o with
      metadata := forwardMetadata c tid isNamespaceScoped o.metadata
      body := { o.body with ownerReferences := owners } }
  convertUpstreamObjectToTenantObject o tid isNamespaceScoped := do
    let owners ← o.body.ownerReferences.mapM (ownerReferenceBackward c checkGroupKind tid)
    return { o with
      metadata := backwardMetadata c tid isNamespaceScoped o.metadata
      body := { o.body with ownerReferences := owners } }

structure ObjectTransformer (β : Type) where
  forward : Object β → String → Except GoError (Object β)
  backward : Object β → String → Except GoError (Object β)

/-- `CrossReferenceConvertor`: the convertor of every kind, and then the kind's own. -/
def crossReferenceConvertor {β : Type} (d : Convertor β) (t : ObjectTransformer β) :
    Convertor β where
  convertTenantObjectToUpstreamObject o tid isNamespaceScoped := do
    let o ← d.convertTenantObjectToUpstreamObject o tid isNamespaceScoped
    t.forward o tid
  convertUpstreamObjectToTenantObject o tid isNamespaceScoped := do
    let o ← d.convertUpstreamObjectToTenantObject o tid isNamespaceScoped
    t.backward o tid

/-- `transformerChain`: forward in order, backward in the reverse order. -/
def chainTransformers {β : Type} (ts : List (ObjectTransformer β)) : ObjectTransformer β where
  forward o tid := ts.foldlM (fun o t => t.forward o tid) o
  backward o tid := ts.reverse.foldlM (fun o t => t.backward o tid) o

section

variable {β : Type} {ts pre : List (ObjectTransformer β)} {t : ObjectTransformer β} {tid : String}
  {o o' mid : Object β} {e : GoError}

lemma chainTransformers_append (ts later : List (ObjectTransformer β)) :
    (chainTransformers (ts ++ later)).forward o tid
      = (chainTransformers ts).forward o tid >>= fun mid =>
          (chainTransformers later).forward mid tid :=
  List.foldlM_append

lemma chainTransformers_fails (hpre : (chainTransformers pre).forward o tid = .ok mid)
    (ht : t.forward mid tid = .error e) (later : List (ObjectTransformer β)) :
    (chainTransformers (pre ++ t :: later)).forward o tid = .error e := by
  rw [chainTransformers_append, hpre]
  show (t.forward mid tid >>= _) = _
  rw [ht]
  rfl

lemma chainTransformers_backward
    (hinv : ∀ t ∈ ts, ∀ o o', t.forward o tid = .ok o' → t.backward o' tid = .ok o)
    (h : (chainTransformers ts).forward o tid = .ok o') :
    (chainTransformers ts).backward o' tid = .ok o := by
  -- from the right end: the last transformer is the first that is undone
  induction ts using List.reverseRecOn generalizing o' with
  | nil => exact (Except.ok.inj h).symm ▸ rfl
  | append_singleton ts t ih =>
    rw [chainTransformers_append, Except.bind_eq_ok_iff] at h
    obtain ⟨mid, hmid, ht⟩ := h
    have ht' : t.forward mid tid = .ok o' := by simpa [chainTransformers] using ht
    have hrest := ih (fun u hu => hinv u (List.mem_append_left _ hu)) hmid
    have hlast := hinv t (by simp) mid o' ht'
    simp only [chainTransformers, List.reverse_append, List.reverse_singleton,
      List.singleton_append, List.foldlM_cons]
    rw [hlast]
    exact hrest

/-- The chain is an onion: what the last transformer added the first one backward takes away. A
transformer that fails ends the run forward, whatever comes after it. -/
theorem chainTransformers_inverts (ts : List (ObjectTransformer β)) (tid : String)
    (hinv : ∀ t ∈ ts, ∀ o o', t.forward o tid = .ok o' → t.backward o' tid = .ok o) :
    (∀ o o', (chainTransformers ts).forward o tid = .ok o' →
      (chainTransformers ts).backward o' tid = .ok o) ∧
    ∀ pre t post, ts = pre ++ t :: post → ∀ o mid e,
      (chainTransformers pre).forward o tid = .ok mid → t.forward mid tid = .error e →
      ∀ later, (chainTransformers (pre ++ t :: later)).forward o tid = .error e :=
  ⟨fun _ _ => chainTransformers_backward hinv,
    fun _ _ _ _ _ _ _ hpre ht later => chainTransformers_fails hpre ht later⟩

/-- A number on top of the others, and off again. -/
def pushTransformer (n : ℕ) : ObjectTransformer (List ℕ) where
  forward o _ := .ok { o with body := n :: o.body }
  backward o _ :=
    if o.body.head? = some n then .ok { o with body := o.body.tail }
    else .error (.plain "not on top")

theorem chainTransformers_inverts_pushes :
    (chainTransformers [pushTransformer 1, pushTransformer 2]).backward { body := [2, 1] } "acme"
      = .ok { body := [] } := by
  refine (chainTransformers_inverts _ "acme" fun t ht o o' h => ?_).1 { body := [] } _ rfl
  simp only [List.mem_cons, List.not_mem_nil, or_false] at ht
  rcases ht with rfl | rfl <;> rw [← Except.ok.inj h] <;> rfl

end

def kindConvertor (c : Contract) (checkGroupKind : CheckGroupKind)
    (t : ObjectTransformer (Owned σ)) : Convertor (Owned σ) :=
  crossReferenceConvertor (defaultConvertor c checkGroupKind) t

section

variable {c : Contract} {checkGroupKind : CheckGroupKind} {t : ObjectTransformer (Owned σ)}
  {tid : String} {scope : Bool} {o o' : Object (Owned σ)}

lemma kindConvertor_forward_ok :
    (kindConvertor c checkGroupKind t).convertTenantObjectToUpstreamObject o tid scope = .ok o' ↔
      ∃ owners, o.body.ownerReferences.mapM (ownerReferenceForward c checkGroupKind tid) =
          .ok owners ∧
        t.forward { o with
          metadata := forwardMetadata c tid scope o.metadata
          body := { o.body with ownerReferences := owners } } tid = .ok o' := by
  simp only [kindConvertor, crossReferenceConvertor, defaultConvertor, bind_assoc, pure_bind,
    Except.bind_eq_ok_iff]

lemma kindConvertor_backward_ok :
    (kindConvertor c checkGroupKind t).convertUpstreamObjectToTenantObject o tid scope = .ok o' ↔
      ∃ owners, o.body.ownerReferences.mapM (ownerReferenceBackward c checkGroupKind tid) =
          .ok owners ∧
        t.backward { o with
          metadata := backwardMetadata c tid scope o.metadata
          body := { o.body with ownerReferences := owners } } tid = .ok o' := by
  simp only [kindConvertor, crossReferenceConvertor, defaultConvertor, bind_assoc, pure_bind,
    Except.bind_eq_ok_iff]

open Tag

def OwnerReference.Shown (checkGroupKind : CheckGroupKind) (tid : String)
    (ref : OwnerReference) (namespaced custom : Bool) : Prop :=
  ∃ group, parseGroup ref.apiVersion = .ok group ∧
    checkGroupKind group ref.kind tid false = .ok (namespaced, custom)

def OwnerReference.Sent (checkGroupKind : CheckGroupKind) (tid : String)
    (ref : OwnerReference) (apiVersion : String) (namespaced custom : Bool) : Prop :=
  ∃ group, parseGroup apiVersion = .ok group ∧
    checkGroupKind group ref.kind tid true = .ok (namespaced, custom)

def OwnerReference.shownAPIVersion (tid : String) (ref : OwnerReference) (custom : Bool) :
    String :=
  if custom then Tag.trim (tenantPrefix tid) ref.apiVersion else ref.apiVersion

def OwnerReference.Refused (checkGroupKind : CheckGroupKind) (tid : String)
    (ref : OwnerReference) : Prop :=
  ∃ namespaced custom, ref.Shown checkGroupKind tid namespaced custom ∧
    ¬ ∃ namespaced' custom', ref.Sent checkGroupKind tid
      (ref.shownAPIVersion tid custom) namespaced' custom'

def OwnerReference.Kept (checkGroupKind : CheckGroupKind) (tid : String)
    (ref : OwnerReference) : Prop :=
  ∀ namespaced custom, ref.Shown checkGroupKind tid namespaced custom →
    ∀ namespaced' custom', ref.Sent checkGroupKind tid
        (ref.shownAPIVersion tid custom) namespaced' custom' →
      Tag.Kept (tenantPrefix tid) (!namespaced) (!namespaced') ref.name ∧
      Tag.Kept (tenantPrefix tid) custom custom' ref.apiVersion

variable {ref : OwnerReference}

lemma ownerReferenceBackward_ok (hc : c.Dashes) {shown : OwnerReference} :
    ownerReferenceBackward c checkGroupKind tid ref = .ok shown ↔
      ∃ namespaced custom, ref.Shown checkGroupKind tid namespaced custom ∧
        shown = { ref with
          apiVersion := ref.shownAPIVersion tid custom
          name := if !namespaced then Tag.trim (tenantPrefix tid) ref.name else ref.name } := by
  simp only [ownerReferenceBackward, Except.bind_eq_ok_iff, hc.trim, hc.trimIfAttributable]
  constructor
  · intro ⟨group, hgroup, ⟨namespaced, custom⟩, hcheck, h⟩
    exact ⟨namespaced, custom, ⟨group, hgroup, hcheck⟩, (Except.ok.inj h).symm⟩
  · rintro ⟨namespaced, custom, ⟨group, hgroup, hcheck⟩, rfl⟩
    exact ⟨group, hgroup, _, hcheck, rfl⟩

lemma exists_ownerReferenceBackward_iff :
    (∃ shown, ownerReferenceBackward c checkGroupKind tid ref = .ok shown) ↔
      ∃ namespaced custom, ref.Shown checkGroupKind tid namespaced custom := by
  simp only [ownerReferenceBackward, Except.bind_eq_ok_iff]
  constructor
  · intro ⟨_, group, hgroup, ⟨namespaced, custom⟩, hcheck, _⟩
    exact ⟨namespaced, custom, group, hgroup, hcheck⟩
  · intro ⟨namespaced, custom, group, hgroup, hcheck⟩
    exact ⟨_, group, hgroup, _, hcheck, rfl⟩

lemma ownerReferenceForward_ok (hc : c.Dashes) {sent : OwnerReference} :
    ownerReferenceForward c checkGroupKind tid ref = .ok sent ↔
      ∃ namespaced custom, ref.Sent checkGroupKind tid ref.apiVersion namespaced custom ∧
        sent = { ref with
          apiVersion :=
            if custom && ref.apiVersion != "" then tenantPrefix tid ++ ref.apiVersion
            else ref.apiVersion
          name :=
            if !namespaced && ref.name != "" then tenantPrefix tid ++ ref.name
            else ref.name } := by
  simp only [ownerReferenceForward, Except.bind_eq_ok_iff, hc.add]
  constructor
  · intro ⟨group, hgroup, ⟨namespaced, custom⟩, hcheck, h⟩
    exact ⟨namespaced, custom, ⟨group, hgroup, hcheck⟩, (Except.ok.inj h).symm⟩
  · rintro ⟨namespaced, custom, ⟨group, hgroup, hcheck⟩, rfl⟩
    exact ⟨group, hgroup, _, hcheck, rfl⟩

lemma ownerReference_not_writable_iff (hc : c.Dashes) :
    ¬ (ownerReferenceView c checkGroupKind tid).Writable ref ↔ ref.Refused checkGroupKind tid := by
  unfold View.Writable OwnerReference.Refused
  simp only [ownerReferenceView, ownerReferenceBackward_ok hc, ownerReferenceForward_ok hc]
  push Not
  constructor
  · rintro ⟨_, ⟨namespaced, custom, hshown, rfl⟩, hsent⟩
    refine ⟨namespaced, custom, hshown, ?_⟩
    intro namespaced' custom' hsent'
    exact hsent _ namespaced' custom' hsent' rfl
  · intro ⟨namespaced, custom, hshown, hsent⟩
    refine ⟨_, ⟨namespaced, custom, hshown, rfl⟩, ?_⟩
    intro _ namespaced' custom' hsent'
    exact absurd hsent' (hsent namespaced' custom')

lemma ownerReference_neutral_iff (hc : c.Dashes) :
    (ownerReferenceView c checkGroupKind tid).Neutral id ref ↔ ref.Kept checkGroupKind tid := by
  have htag := tenantPrefix_ne tid
  unfold View.Neutral OwnerReference.Kept
  simp only [ownerReferenceView, ownerReferenceBackward_ok hc, ownerReferenceForward_ok hc]
  constructor
  · intro h namespaced custom hshown namespaced' custom' hsent
    have heq := h _ ⟨namespaced, custom, hshown, rfl⟩ _ ⟨namespaced', custom', hsent, rfl⟩
    refine ⟨(rewrite_eq_iff htag _ _).mp ?_, (rewrite_eq_iff htag _ _).mp ?_⟩
    · exact congrArg OwnerReference.name heq
    · exact congrArg OwnerReference.apiVersion heq
  · rintro h _ ⟨namespaced, custom, hshown, rfl⟩ _ ⟨namespaced', custom', hsent, rfl⟩
    obtain ⟨hname, hversion⟩ := h namespaced custom hshown namespaced' custom' hsent
    show OwnerReference.mk (rewrite (tenantPrefix tid) custom custom' ref.apiVersion) ref.kind
      (rewrite (tenantPrefix tid) (!namespaced) (!namespaced') ref.name) = ref
    rw [(rewrite_eq_iff htag _ _).mpr hname, (rewrite_eq_iff htag _ _).mpr hversion]

structure ObjectTransformer.Converts (t : ObjectTransformer (Owned σ)) (tid : String)
    (v : View GoError σ σ) : Prop where
  forward : ∀ o o', t.forward o tid = .ok o' ↔
    ∃ spec, v.write o.body.spec = .ok spec ∧ o' = o.withSpec spec
  backward : ∀ o o', t.backward o tid = .ok o' ↔
    ∃ spec, v.read o.body.spec = .ok spec ∧ o' = o.withSpec spec

variable {v : View GoError σ σ} {x shown : Object (Owned σ)}

lemma ObjectTransformer.Converts.forward_ok (ht : t.Converts tid v) :
    (kindConvertor c checkGroupKind t).convertTenantObjectToUpstreamObject o tid scope = .ok o' ↔
      ∃ owners, o.body.ownerReferences.mapM (ownerReferenceView c checkGroupKind tid).write =
          .ok owners ∧
        ∃ spec, v.write o.body.spec = .ok spec ∧
          o' = { o with
            metadata := forwardMetadata c tid scope o.metadata, body := ⟨owners, spec⟩ } := by
  rw [kindConvertor_forward_ok]
  exact exists_congr fun owners => and_congr_right fun _ => ht.forward _ _

lemma ObjectTransformer.Converts.backward_ok (ht : t.Converts tid v) :
    (kindConvertor c checkGroupKind t).convertUpstreamObjectToTenantObject o tid scope = .ok o' ↔
      ∃ owners, o.body.ownerReferences.mapM (ownerReferenceView c checkGroupKind tid).read =
          .ok owners ∧
        ∃ spec, v.read o.body.spec = .ok spec ∧
          o' = { o with
            metadata := backwardMetadata c tid scope o.metadata, body := ⟨owners, spec⟩ } := by
  rw [kindConvertor_backward_ok]
  exact exists_congr fun owners => and_congr_right fun _ => ht.backward _ _

lemma ObjectTransformer.Converts.neutral_iff {γ : Type} (hc : c.Dashes) (ht : t.Converts tid v)
    {f : σ → γ} {Refused Kept : Prop} (hwritable : v.Writable x.body.spec ↔ ¬ Refused)
    (hneutral : ¬ Refused → (v.Neutral f x.body.spec ↔ Kept))
    (hshown : (kindConvertor c checkGroupKind t).convertUpstreamObjectToTenantObject x tid
      scope = .ok shown) :
    (∀ y, (kindConvertor c checkGroupKind t).convertTenantObjectToUpstreamObject shown tid
        scope = .ok y →
      y.body.ownerReferences = x.body.ownerReferences ∧ f y.body.spec = f x.body.spec) ↔
    ((∃ ref ∈ x.body.ownerReferences, ref.Refused checkGroupKind tid) ∨ Refused) ∨
    (∀ ref ∈ x.body.ownerReferences, ref.Kept checkGroupKind tid) ∧ Kept := by
  obtain ⟨owners, howners, spec, hspec, rfl⟩ := ht.backward_ok.mp hshown
  rw [← View.write_both_eq_iff howners hspec (fun _ => ownerReference_not_writable_iff hc)
    (fun _ => ownerReference_neutral_iff hc) hwritable hneutral]
  simp only [ht.forward_ok]
  constructor
  · intro h owners' howners' spec' hspec'
    exact h _ ⟨owners', howners', spec', hspec', rfl⟩
  · rintro h y ⟨owners', howners', spec', hspec', rfl⟩
    exact h owners' howners' spec' hspec'

end

end KubeZoo
