import KubeZoo.Convert.Embedding

/-! # References of events -/

namespace KubeZoo

open Tag ObjectReference

/-- `refRewriter`. -/
abbrev RefRewriter := Option ObjectReference → Except GoError (Option ObjectReference)

/-- `objectReferenceTransformer.Backward`. -/
def objectReferenceBackward (c : Contract) (check : CheckGroupKind) (tid : String) : RefRewriter
  | none => .ok none
  | some ref => do
    let group ← parseGroup ref.apiVersion
    match check group ref.kind tid false with
    | .error _ =>
      if ref.namespace ≠ "" then
        return some { ref with «namespace» := c.trimTenantIDPrefix tid ref.namespace }
      else if ref.name ≠ "" then
        return some { ref with name := c.trimTenantIDPrefix tid ref.name }
      else return some ref
    | .ok (namespaced, customResourceGroup) =>
      let ns := if namespaced && ref.namespace != "" then
        trimIfAttributable c ref.namespace tid else ref.namespace
      let name := if !namespaced && ref.name != "" then trimIfAttributable c ref.name tid
        else ref.name
      let apiVersion := if customResourceGroup && ref.apiVersion != "" then
        trimIfAttributable c ref.apiVersion tid else ref.apiVersion
      return some { ref with apiVersion := apiVersion, «namespace» := ns, name := name }

/-- `corev1.ObjectReference`. -/
structure VersionedReference extends ObjectReference where
  uid : String := ""
  resourceVersion : String := ""
  fieldPath : String := ""
deriving DecidableEq

/-- The part of `eventsv1.Event` that is rewritten. -/
structure EventsV1 where
  regarding : VersionedReference
  related : Option VersionedReference := none
deriving DecidableEq

def rewriteVersionedRef (rewrite : RefRewriter) (ref : VersionedReference) :
    Except GoError VersionedReference := do
  match ← rewrite (some ref.toObjectReference) with
  | none => return ref
  | some rewritten => return { ref with toObjectReference := rewritten }

/-- `EventsV1Transformer.rewrite`: what is left in the event, and the error. An event whose related
reference fails has its regarding one rewritten already. -/
def EventsV1.rewrite (rewrite : RefRewriter) (event : EventsV1) : EventsV1 × Except GoError Unit :=
  match rewriteVersionedRef rewrite event.regarding with
  | .error e => (event, .error e)
  | .ok regarding =>
    match event.related with
    | none => ({ event with regarding := regarding }, .ok ())
    | some related =>
      match rewriteVersionedRef rewrite related with
      | .error e => ({ event with regarding := regarding }, .error e)
      | .ok related => ({ regarding := regarding, related := some related }, .ok ())

/-- `EventsV1Transformer`. `Backward` answers the event whether or not it failed. -/
def eventsV1Transformer (c : Contract) (check : CheckGroupKind) :
    ObjectTransformer (Owned EventsV1) where
  forward o tid :=
    let (event, err) := o.body.spec.rewrite (objectReferenceForward c check tid)
    err.map fun _ => o.withSpec event
  backward o tid := .ok (o.withSpec (o.body.spec.rewrite (objectReferenceBackward c check tid)).1)

namespace ObjectReference

/-- Which of the namespace, the name and the version are rewritten, where they are not empty. -/
def touched (ref : ObjectReference) : Except GoError (Bool × Bool) → Bool × Bool × Bool
  | .error _ => (true, ref.namespace == "", false)
  | .ok (namespaced, custom) => (namespaced, !namespaced, custom)

def mapFields (f : String → String) (ref : ObjectReference) (t : Bool × Bool × Bool) :
    ObjectReference :=
  { ref with
    «namespace» := if t.1 && ref.namespace != "" then f ref.namespace else ref.namespace
    name := if t.2.1 && ref.name != "" then f ref.name else ref.name
    apiVersion := if t.2.2 && ref.apiVersion != "" then f ref.apiVersion else ref.apiVersion }

/-- The reference as a tenant spells it, of a kind that is known in neither form or in both, and
then as the same. -/
structure Spelled (check : CheckGroupKind) (tid : String) (ref : ObjectReference) :
    Prop where
  own : ¬ Marked (tenantPrefix tid) ref.namespace
  consistent : ∀ group, parseGroup ref.apiVersion = .ok group →
    ∀ group', parseGroup (ref.mapFields (tenantPrefix tid ++ ·)
      (ref.touched (check group ref.kind tid true))).apiVersion = .ok group' →
    ∀ known, check group ref.kind tid true = .ok known ↔ check group' ref.kind tid false = .ok known

end ObjectReference

variable {c : Contract} {check : CheckGroupKind} {tid : String} {ref : ObjectReference}

lemma objectReferenceForward_eq (hc : c.Dashes) (hown : ¬ Marked (tenantPrefix tid) ref.namespace) :
    objectReferenceForward c check tid (some ref)
      = (parseGroup ref.apiVersion).map fun group => some (ref.mapFields (tenantPrefix tid ++ ·)
          (ref.touched (check group ref.kind tid true))) := by
  have hup : ref.namespace ≠ "" →
      c.upstreamNamespace tid ref.namespace = tenantPrefix tid ++ ref.namespace := by
    intro hns
    rw [hc.upstream tid _ hns, ensure_of_not hown]
  cases hparse : parseGroup ref.apiVersion with
  | error e => simp [objectReferenceForward, hparse, bind, Except.bind, Except.map]
  | ok group =>
    obtain ⟨apiVersion, kind, ns, name⟩ := ref
    cases hcheck : check group kind tid true <;> by_cases hns : ns = "" <;>
      by_cases hname : name = "" <;>
      simp_all [objectReferenceForward, bind, Except.bind, pure, Except.pure, Except.map, hc.add,
        mapFields, touched]

lemma objectReferenceBackward_eq (hc : c.Dashes) :
    objectReferenceBackward c check tid (some ref)
      = (parseGroup ref.apiVersion).map fun group => some (ref.mapFields (trim (tenantPrefix tid))
          (ref.touched (check group ref.kind tid false))) := by
  cases hparse : parseGroup ref.apiVersion with
  | error e => simp [objectReferenceBackward, hparse, bind, Except.bind, Except.map]
  | ok group =>
    obtain ⟨apiVersion, kind, ns, name⟩ := ref
    cases hcheck : check group kind tid false <;> by_cases hns : ns = "" <;>
      by_cases hname : name = "" <;>
      simp_all [objectReferenceBackward, bind, Except.bind, pure, Except.pure, Except.map,
        hc.trim, hc.trimIfAttributable, mapFields, touched]

lemma mapFields_trim (tag : String) (ref : ObjectReference) (t : Bool × Bool × Bool) :
    (ref.mapFields (tag ++ ·) t).mapFields (trim tag) t = ref := by
  have hfield : ∀ (adds : Bool) (s : String),
      (if adds && (if adds && s != "" then tag ++ s else s) != "" then
        trim tag (if adds && s != "" then tag ++ s else s)
        else if adds && s != "" then tag ++ s else s) = s := by
    intro adds s
    by_cases hs : s = "" <;> cases adds <;> simp [hs]
  simp only [mapFields, hfield]

lemma parseGroup_ok_iff {apiVersion : String} :
    (∃ group, parseGroup apiVersion = .ok group) ↔ apiVersion.toList.count '/' ≤ 1 := by
  unfold parseGroup
  by_cases hempty : apiVersion = "" ∨ apiVersion = "/"
  · rw [if_pos hempty]
    rcases hempty with rfl | rfl <;> simp
  · rw [if_neg hempty]
    cases hcount : apiVersion.toList.count '/' with
    | zero => simp
    | succ n => cases n <;> simp

lemma parseGroup_mapFields (htid : '/' ∉ tid.toList) {group : String}
    (h : parseGroup ref.apiVersion = .ok group) (t : Bool × Bool × Bool) :
    ∃ group', parseGroup (ref.mapFields (tenantPrefix tid ++ ·) t).apiVersion = .ok group' := by
  simp only [mapFields]
  split_ifs
  · have hcount := parseGroup_ok_iff.mp ⟨group, h⟩
    rw [parseGroup_ok_iff, tenantPrefix, String.toList_append, String.toList_append,
      List.count_append, List.count_append, List.count_eq_zero_of_not_mem htid]
    simpa using hcount
  · exact ⟨group, h⟩

/-- What is sent is shown again, unless a version it names is none: then it is not sent. -/
def Returns {α : Type} (forward backward : α → Except GoError α) (sent : α)
    (versions : List String) : Prop :=
  (∃ up, forward sent = .ok up ∧ backward up = .ok sent) ∨
    ∃ apiVersion ∈ versions, ∃ e, parseGroup apiVersion = .error e ∧ forward sent = .error e

lemma returns_objectReference (hc : c.Dashes) (htid : '/' ∉ tid.toList)
    (h : ref.Spelled check tid) :
    Returns (objectReferenceForward c check tid)
      (objectReferenceBackward c check tid) (some ref) [ref.apiVersion] := by
  have hforward : objectReferenceForward c check tid (some ref) = _ :=
    objectReferenceForward_eq hc h.own
  cases hparse : parseGroup ref.apiVersion with
  | error e =>
    rw [hparse] at hforward
    exact .inr ⟨_, List.mem_singleton.mpr rfl, e, hparse, hforward⟩
  | ok group =>
    rw [hparse] at hforward
    obtain ⟨group', hparse'⟩ := parseGroup_mapFields htid hparse
      (ref.touched (check group ref.kind tid true))
    have hknown := h.consistent group hparse group' hparse'
    -- the answers agree, and a namespace that was not empty is not empty with its prefix either
    have htouched : (ref.mapFields (tenantPrefix tid ++ ·)
        (ref.touched (check group ref.kind tid true))).touched (check group' ref.kind tid false)
        = ref.touched (check group ref.kind tid true) := by
      cases hsent : check group ref.kind tid true with
      | ok known => rw [(hknown known).mp hsent]; rfl
      | error e =>
        cases hshown : check group' ref.kind tid false with
        | ok known => simp [(hknown known).mpr hshown] at hsent
        | error e' =>
          by_cases hns : ref.namespace = "" <;>
            simp [touched, mapFields, hns]
    refine .inl ⟨_, hforward, ?_⟩
    rw [objectReferenceBackward_eq hc, hparse']
    show Except.ok (some (mapFields _ _ (touched _
      (check group' ref.kind tid false)))) = _
    rw [htouched, mapFields_trim]

lemma returns_versionedRef (hc : c.Dashes) (htid : '/' ∉ tid.toList) {ref : VersionedReference}
    (h : ref.Spelled check tid) :
    Returns (rewriteVersionedRef (objectReferenceForward c check tid))
      (rewriteVersionedRef (objectReferenceBackward c check tid)) ref
      [ref.apiVersion] := by
  rcases returns_objectReference hc htid h with ⟨up, hsent, hshown⟩ | ⟨v, hv, e, hparse, hsent⟩
  · obtain ⟨up, rfl, -⟩ := objectReferenceForward_some hsent
    refine .inl ⟨{ ref with toObjectReference := up }, ?_, ?_⟩
    · rw [rewriteVersionedRef, hsent]
      rfl
    · rw [rewriteVersionedRef, hshown]
      rfl
  · refine .inr ⟨v, hv, e, hparse, ?_⟩
    rw [rewriteVersionedRef, hsent]
    rfl

def EventsV1.references (event : EventsV1) : List VersionedReference :=
  event.regarding :: event.related.toList

/-- Any reference a tenant spells comes back as it was sent, and so does any event with its one or
two references. -/
theorem eventsV1Transformer_roundTrip (hc : c.Dashes) (htid : '/' ∉ tid.toList) :
    (∀ ref : ObjectReference, ref.Spelled check tid → Returns (objectReferenceForward c check tid)
        (objectReferenceBackward c check tid) (some ref) [ref.apiVersion]) ∧
    ∀ o : Object (Owned EventsV1), (∀ ref ∈ o.body.spec.references, ref.Spelled check tid) →
      Returns ((eventsV1Transformer c check).forward · tid)
        ((eventsV1Transformer c check).backward · tid) o
        (o.body.spec.references.map fun ref => ref.apiVersion) := by
  refine ⟨fun ref h => returns_objectReference hc htid h, fun o h => ?_⟩
  obtain ⟨metadata, template, owners, regarding, related⟩ := o
  rcases returns_versionedRef hc htid (h regarding List.mem_cons_self) with
    ⟨up, hup, hshown⟩ | ⟨v, hv, e, hparse, he⟩
  · cases related with
    | none =>
      exact .inl ⟨_, by simp only [eventsV1Transformer, EventsV1.rewrite, hup]; rfl,
        by simp only [eventsV1Transformer, EventsV1.rewrite, Object.withSpec, hshown]⟩
    | some related =>
      rcases returns_versionedRef hc htid (h related (by simp [EventsV1.references])) with
        ⟨up', hup', hshown'⟩ | ⟨v, hv, e, hparse, he⟩
      · exact .inl ⟨_, by simp only [eventsV1Transformer, EventsV1.rewrite, hup, hup']; rfl,
          by simp only [eventsV1Transformer, EventsV1.rewrite, Object.withSpec, hshown, hshown']⟩
      · refine .inr ⟨v, List.mem_cons_of_mem _ hv, e, hparse, ?_⟩
        simp only [eventsV1Transformer, EventsV1.rewrite, hup, he]
        rfl
  · refine .inr ⟨v, List.mem_cons.mpr (.inl (List.mem_singleton.mp hv)), e, hparse, ?_⟩
    simp only [eventsV1Transformer, EventsV1.rewrite, he]
    rfl

/-- An event about a pod and its node, read where no kind is known. -/
def podEvent : Object (Owned EventsV1) :=
  { body := { spec := { regarding := { kind := "Pod", «namespace» := "web", name := "p" }
                        related := some { kind := "Node", name := "n" } } } }

def unknownKinds : CheckGroupKind := fun _ _ _ _ => .error (.plain "unknown kind")

theorem eventsV1Transformer_roundTrip_pod :
    (∃ up, (eventsV1Transformer dashContract unknownKinds).forward podEvent "acme" = .ok up ∧
      up.body.spec.regarding.namespace = "acme-web") ∧
    Returns ((eventsV1Transformer dashContract unknownKinds).forward · "acme")
      ((eventsV1Transformer dashContract unknownKinds).backward · "acme") podEvent ["", ""] := by
  refine ⟨⟨_, rfl, rfl⟩, (@eventsV1Transformer_roundTrip dashContract unknownKinds "acme"
    dashes_dashContract (by decide)).2 podEvent fun ref href => ⟨?_, ?_⟩⟩
  · rw [marked_iff_isPrefixOf]
    revert ref
    decide
  · intro group _ group' _ known
    simp [unknownKinds]

end KubeZoo
