import KubeZoo.Proxy.GuaranteedUpdate

/-! # Endpoint addresses -/

namespace KubeZoo

structure EndpointAddress where
  ip : String
  targetRef : Option ObjectReference := none
deriving DecidableEq

structure EndpointSubset where
  addresses : List EndpointAddress := []
  notReadyAddresses : List EndpointAddress := []
deriving DecidableEq

structure Endpoint where
  addresses : List String := []
  targetRef : Option ObjectReference := none
deriving DecidableEq

inductive EndpointsBody
  | endpoints (subsets : List EndpointSubset)
  | endpointSlice (endpoints : List Endpoint)
deriving DecidableEq

namespace EndpointsBody

def kind : EndpointsBody → String
  | endpoints _ => "Endpoints"
  | endpointSlice _ => "EndpointSlice"

structure Entry where
  path : String
  address : String
  targetRef : Option ObjectReference
deriving DecidableEq

def index (path : String) (i : ℕ) : String := path ++ "[" ++ toString i ++ "]"

def addressEntries (path : String) : ℕ → List EndpointAddress → List Entry
  | _, [] => []
  | j, a :: as => ⟨index path j, a.ip, a.targetRef⟩ :: addressEntries path (j + 1) as

def subsetEntries : ℕ → List EndpointSubset → List Entry
  | _, [] => []
  | i, s :: ss =>
    addressEntries (index "subsets" i ++ ".addresses") 0 s.addresses ++
      addressEntries (index "subsets" i ++ ".notReadyAddresses") 0 s.notReadyAddresses ++
      subsetEntries (i + 1) ss

def textEntries (path : String) (targetRef : Option ObjectReference) : ℕ → List String → List Entry
  | _, [] => []
  | j, a :: as => ⟨index path j, a, targetRef⟩ :: textEntries path targetRef (j + 1) as

def endpointEntries : ℕ → List Endpoint → List Entry
  | _, [] => []
  | i, e :: es =>
    textEntries (index "endpoints" i ++ ".addresses") e.targetRef 0 e.addresses ++
      endpointEntries (i + 1) es

def entries : EndpointsBody → List Entry
  | endpoints subsets => subsetEntries 0 subsets
  | endpointSlice es => endpointEntries 0 es

/-- `EndpointsTransformer` and `EndpointSliceTransformer`: every reference is converted, in turn. -/
def mapRefs (f : Option ObjectReference → Except GoError (Option ObjectReference)) :
    EndpointsBody → Except GoError EndpointsBody
  | endpoints subsets => do
    let onAddress := fun (a : EndpointAddress) => do
      return { a with targetRef := ← f a.targetRef }
    return endpoints (← subsets.mapM fun s => do
      let addresses ← s.addresses.mapM onAddress
      let notReadyAddresses ← s.notReadyAddresses.mapM onAddress
      return { addresses := addresses, notReadyAddresses := notReadyAddresses })
  | endpointSlice es => do
    return endpointSlice (← es.mapM fun e => do return { e with targetRef := ← f e.targetRef })

end EndpointsBody

open EndpointsBody (Entry)

/-- The addresses of a pod, as upstream has them under `status.podIPs`. -/
abbrev GetPodIPs := String → String → Except GoError (List String)

def addressBelongsToAPod (getPodIPs : GetPodIPs) (ns kind name : String) (e : Entry) :
    Except GoError Unit :=
  let refuse := fun detail =>
    Except.error (.status (newInvalid "discovery.k8s.io" kind name (fieldForbidden e.path detail)))
  let noPod := "address " ++ quoted e.address ++ " names no pod: an endpoint must carry a targetRef to a Pod of yours, because the address is what the platform's ingress and metrics components connect to"
  if e.address = "" then .ok ()
  else
    match e.targetRef with
    | none => refuse noPod
    | some ref =>
      if ref.kind ≠ "Pod" ∨ ref.name = "" then refuse noPod
      else if ref.namespace ≠ "" ∧ ref.namespace ≠ ns then
        refuse ("targetRef names namespace " ++ quoted ref.namespace ++
          ", which is not this object's")
      else
        match getPodIPs ns ref.name with
        | .error err =>
          if err.isNotFound then
            refuse ("targetRef names pod " ++ quoted ref.name ++ ", which does not exist")
          else .error err
        | .ok ips =>
          if e.address ∈ ips then .ok ()
          else refuse ("address " ++ quoted e.address ++ " is not one of pod " ++
            quoted ref.name ++ "'s addresses")

def refuseForgedEndpointAddress (getPodIPs : GetPodIPs) (obj : Object EndpointsBody) :
    Except GoError Unit :=
  forM obj.body.entries
    (addressBelongsToAPod getPodIPs obj.metadata.namespace obj.body.kind obj.metadata.name)

abbrev PodState := String → String → Option (List String)

def PodState.get (pods : PodState) : GetPodIPs := fun ns name =>
  match pods ns name with
  | none => .error (.status (newNotFound "" "pods" name))
  | some ips => .ok ips

def PodState.Lists (pods : PodState) (ns name address : String) : Prop :=
  ∃ ips, pods ns name = some ips ∧ address ∈ ips

def endpointGuards (pods : PodState) : Guards EndpointsBody :=
  { Guards.permissive with
    refuseForgedEndpointAddress := fun _ obj => refuseForgedEndpointAddress pods.get obj }

/-- The reference names the pod, in the object's namespace. -/
def NamesPod (inNamespace : String → Prop) (targetRef : Option ObjectReference) (pod : String) :
    Prop :=
  ∃ ref, targetRef = some ref ∧ ref.kind = "Pod" ∧ ref.name = pod ∧ pod ≠ "" ∧
    (ref.namespace = "" ∨ inNamespace ref.namespace)

lemma addressBelongsToAPod_ok_iff (pods : PodState) (ns kind name : String) (e : Entry) :
    addressBelongsToAPod pods.get ns kind name e = .ok () ↔
      (e.address ≠ "" → ∃ pod, NamesPod (· = ns) e.targetRef pod ∧ pods.Lists ns pod e.address) := by
  rw [addressBelongsToAPod]
  by_cases haddr : e.address = ""
  · simp [haddr]
  · rw [if_neg haddr]
    cases href : e.targetRef with
    | none => simp [NamesPod, haddr]
    | some ref =>
      simp only [NamesPod, Option.some.injEq, exists_eq_left']
      by_cases hkind : ref.kind ≠ "Pod" ∨ ref.name = ""
      · rw [if_pos hkind]
        simp only [reduceCtorEq, false_iff]
        rintro h
        obtain ⟨pod, ⟨hpod, rfl, hname, -⟩, -⟩ := h haddr
        rcases hkind with hkind | hkind
        · exact hkind hpod
        · exact hname hkind
      · rw [if_neg hkind]
        push Not at hkind
        by_cases hns : ref.namespace ≠ "" ∧ ref.namespace ≠ ns
        · rw [if_pos hns]
          simp only [reduceCtorEq, false_iff]
          rintro h
          obtain ⟨pod, ⟨-, -, -, hin⟩, -⟩ := h haddr
          rcases hin with hin | hin
          · exact hns.1 hin
          · exact hns.2 hin
        · rw [if_neg hns]
          have hin : ref.namespace = "" ∨ ref.namespace = ns := by
            by_contra hnot
            push Not at hnot
            exact hns hnot
          have hasked : (e.address ≠ "" → ∃ pod, (ref.kind = "Pod" ∧ ref.name = pod ∧ pod ≠ "" ∧
              (ref.namespace = "" ∨ ref.namespace = ns)) ∧ pods.Lists ns pod e.address) ↔
              pods.Lists ns ref.name e.address := by
            constructor
            · intro h
              obtain ⟨pod, ⟨-, rfl, -, -⟩, hlists⟩ := h haddr
              exact hlists
            · intro h _
              exact ⟨ref.name, ⟨hkind.1, rfl, hkind.2, hin⟩, h⟩
          rw [hasked, PodState.get, PodState.Lists]
          cases hpod : pods ns ref.name with
          | none => simp [GoError.isNotFound, GoError.hasReason, newNotFound]
          | some ips => by_cases hip : e.address ∈ ips <;> simp [hip]

def Passes (inNamespace : String → Prop) (ns : String) (es : List Entry) (pods : PodState) : Prop :=
  ∀ e ∈ es, e.address ≠ "" → ∃ pod, NamesPod inNamespace e.targetRef pod ∧
    pods.Lists ns pod e.address

lemma refuseForgedEndpointAddress_ok_iff (pods : PodState) (obj : Object EndpointsBody) :
    refuseForgedEndpointAddress pods.get obj = .ok () ↔
      Passes (· = obj.metadata.namespace) obj.metadata.namespace obj.body.entries pods := by
  rw [refuseForgedEndpointAddress, Except.forM_eq_ok_iff]
  simp only [addressBelongsToAPod_ok_iff, Passes]

section

variable {P P' : String → Prop} {ns ns' : String} {es es' : List Entry} {pods : PodState}

variable {addresses : List String} {pod pod' : String}

lemma NamesPod.unique {targetRef : Option ObjectReference} (h : NamesPod P targetRef pod)
    (h' : NamesPod P' targetRef pod') : pod = pod' := by
  obtain ⟨ref, href, -, hpod, -⟩ := h
  obtain ⟨ref', href', -, hpod', -⟩ := h'
  rw [← hpod, ← hpod', Option.some.inj (href.symm.trans href')]

/-- Some address has no reference to a pod. -/
def Refused (P : String → Prop) (es : List Entry) : Prop :=
  ∃ e ∈ es, e.address ≠ "" ∧ ¬ ∃ pod, NamesPod P e.targetRef pod

def Asked (P : String → Prop) (es : List Entry) (pod address : String) : Prop :=
  ∃ e ∈ es, e.address = address ∧ address ≠ "" ∧ NamesPod P e.targetRef pod

lemma passes_iff : Passes P ns es pods ↔
    ¬ Refused P es ∧ ∀ pod address, Asked P es pod address → pods.Lists ns pod address := by
  constructor
  · intro h
    refine ⟨?_, ?_⟩
    · intro ⟨e, he, haddr, hnone⟩
      obtain ⟨pod, hpod, -⟩ := h e he haddr
      exact hnone ⟨pod, hpod⟩
    · intro pod address ⟨e, he, haddr, hne, hpod⟩
      obtain ⟨pod', hpod', hlists⟩ := h e he (haddr ▸ hne)
      rwa [hpod.unique hpod', ← haddr]
  · intro ⟨hrefused, hasked⟩ e he haddr
    by_cases hpod : ∃ pod, NamesPod P e.targetRef pod
    · obtain ⟨pod, hpod⟩ := hpod
      exact ⟨pod, hpod, hasked pod e.address ⟨e, he, rfl, haddr, hpod⟩⟩
    · exact absurd ⟨e, he, haddr, hpod⟩ hrefused

def allBut (addresses : List String) (ns pod address : String) : PodState := fun ns' pod' =>
  some (addresses.filter fun a => !(ns' == ns && pod' == pod && a == address))

lemma lists_allBut {address address' : String} (haddr : address' ∈ addresses) :
    (allBut addresses ns pod address).Lists ns' pod' address' ↔
      ¬ (ns' = ns ∧ pod' = pod ∧ address' = address) := by
  simp only [PodState.Lists, allBut, Option.some.injEq, exists_eq_left', List.mem_filter,
    Bool.not_eq_true', Bool.and_eq_false_iff, beq_eq_false_iff_ne]
  tauto

lemma passes_allBut (hrefused : ¬ Refused P es) (haddr : ∀ e ∈ es, e.address ∈ addresses)
    (ns ns' pod address : String) :
    Passes P ns es (allBut addresses ns' pod address) ↔ ¬ (ns = ns' ∧ Asked P es pod address) := by
  rw [passes_iff]
  constructor
  · intro ⟨_, h⟩ ⟨hns, hasked⟩
    obtain ⟨e, he, rfl, -, -⟩ := id hasked
    exact (lists_allBut (haddr e he)).mp (h pod e.address hasked) ⟨hns, rfl, rfl⟩
  · intro h
    refine ⟨hrefused, fun pod' address' hasked => ?_⟩
    obtain ⟨e, he, rfl, -, -⟩ := id hasked
    refine (lists_allBut (haddr e he)).mpr ?_
    intro ⟨hns, hpod, hee⟩
    exact h ⟨hns, hpod ▸ hee ▸ hasked⟩

def SameQuestions (P P' : String → Prop) (ns ns' : String) (es es' : List Entry) : Prop :=
  ∀ pod address, (Asked P es pod address ↔ Asked P' es' pod address) ∧
    (Asked P es pod address → ns = ns')

lemma same_verdict_iff : (∀ pods, Passes P ns es pods ↔ Passes P' ns' es' pods) ↔
    (Refused P es ∧ Refused P' es') ∨
      (¬ Refused P es ∧ ¬ Refused P' es' ∧ SameQuestions P P' ns ns' es es') := by
  let addresses := es.map (·.address) ++ es'.map (·.address)
  have haddr : ∀ e ∈ es, e.address ∈ addresses := fun e he =>
    List.mem_append_left _ (List.mem_map_of_mem he)
  have haddr' : ∀ e ∈ es', e.address ∈ addresses := fun e he =>
    List.mem_append_right _ (List.mem_map_of_mem he)
  -- No address is empty, so this state lists all that can be asked for.
  have hfull : ∀ {P ns es}, (∀ e ∈ es, e.address ∈ addresses) →
      (Passes P ns es (allBut addresses "" "" "") ↔ ¬ Refused P es) := by
    intro P ns es hes
    constructor
    · intro h
      exact (passes_iff.mp h).1
    · intro h
      refine (passes_allBut h hes _ _ _ _).mpr ?_
      intro ⟨_, e, _, haddr, hne, _⟩
      exact hne rfl
  constructor
  · intro h
    have hrefused : ¬ Refused P es ↔ ¬ Refused P' es' :=
      (hfull haddr).symm.trans ((h _).trans (hfull haddr'))
    by_cases hr : Refused P es
    · exact Or.inl ⟨hr, not_not.mp fun hr' => hrefused.mpr hr' hr⟩
    · have hr' := hrefused.mp hr
      refine Or.inr ⟨hr, hr', fun pod address => ?_⟩
      have hmissing : ∀ n, (n = ns ∧ Asked P es pod address) ↔
          (n = ns' ∧ Asked P' es' pod address) := by
        intro n
        have h1 := passes_allBut hr haddr ns n pod address
        have h2 := passes_allBut hr' haddr' ns' n pod address
        have h3 := not_iff_not.mp (h1.symm.trans ((h _).trans h2))
        rw [eq_comm, h3, eq_comm]
      refine ⟨⟨fun hasked => ((hmissing ns).mp ⟨rfl, hasked⟩).2,
        fun hasked => ((hmissing ns').mpr ⟨rfl, hasked⟩).2⟩, fun hasked => ?_⟩
      exact ((hmissing ns).mp ⟨rfl, hasked⟩).1
  · rintro (⟨hr, hr'⟩ | ⟨hr, hr', hsame⟩) pods
    · exact ⟨fun h => absurd hr (passes_iff.mp h).1, fun h => absurd hr' (passes_iff.mp h).1⟩
    · rw [passes_iff, passes_iff]
      refine and_congr ⟨fun _ => hr', fun _ => hr⟩ ?_
      refine forall_congr' fun pod => forall_congr' fun address => ?_
      obtain ⟨hiff, hns⟩ := hsame pod address
      constructor
      · intro h hasked
        rw [← hns (hiff.mpr hasked)]
        exact h (hiff.mpr hasked)
      · intro h hasked
        rw [hns hasked]
        exact h (hiff.mp hasked)

end

section

variable {f : Option ObjectReference → Except GoError (Option ObjectReference)}

def ConvertedBy (f : Option ObjectReference → Except GoError (Option ObjectReference))
    (e e' : Entry) : Prop :=
  e'.address = e.address ∧ f e.targetRef = .ok e'.targetRef

open EndpointsBody

lemma addressEntries_converted {as as' : List EndpointAddress}
    (h : List.Forall₂ (fun a a' => a'.ip = a.ip ∧ f a.targetRef = .ok a'.targetRef) as as')
    (path : String) (j : ℕ) :
    List.Forall₂ (ConvertedBy f) (addressEntries path j as) (addressEntries path j as') := by
  induction h generalizing j with
  | nil => exact .nil
  | cons h _ ih => exact .cons h (ih (j + 1))

lemma subsetEntries_converted {ss ss' : List EndpointSubset} (h : List.Forall₂ (fun s s' =>
      List.Forall₂ (fun a a' => a'.ip = a.ip ∧ f a.targetRef = .ok a'.targetRef)
        s.addresses s'.addresses ∧
      List.Forall₂ (fun a a' => a'.ip = a.ip ∧ f a.targetRef = .ok a'.targetRef)
        s.notReadyAddresses s'.notReadyAddresses) ss ss') (i : ℕ) :
    List.Forall₂ (ConvertedBy f) (subsetEntries i ss) (subsetEntries i ss') := by
  induction h generalizing i with
  | nil => exact .nil
  | cons h _ ih =>
    refine List.rel_append (List.rel_append ?_ ?_) (ih (i + 1))
    · exact addressEntries_converted h.1 _ 0
    · exact addressEntries_converted h.2 _ 0

lemma textEntries_converted {r r' : Option ObjectReference} (h : f r = .ok r') (path : String)
    (as : List String) (j : ℕ) :
    List.Forall₂ (ConvertedBy f) (textEntries path r j as) (textEntries path r' j as) := by
  induction as generalizing j with
  | nil => exact .nil
  | cons a as ih => exact .cons ⟨rfl, h⟩ (ih (j + 1))

lemma endpointEntries_converted {es es' : List Endpoint}
    (h : List.Forall₂ (fun e e' => e'.addresses = e.addresses ∧ f e.targetRef = .ok e'.targetRef)
      es es') (i : ℕ) :
    List.Forall₂ (ConvertedBy f) (endpointEntries i es) (endpointEntries i es') := by
  induction h generalizing i with
  | nil => exact .nil
  | @cons e e' _ _ h _ ih =>
    refine List.rel_append ?_ (ih (i + 1))
    rw [h.1]
    exact textEntries_converted h.2 _ _ 0

lemma entries_mapRefs {body body' : EndpointsBody} (h : body.mapRefs f = .ok body') :
    List.Forall₂ (ConvertedBy f) body.entries body'.entries := by
  have haddress : ∀ {as as' : List EndpointAddress},
      (as.mapM fun a => do return { a with targetRef := ← f a.targetRef }) = .ok as' →
      List.Forall₂ (fun a a' => a'.ip = a.ip ∧ f a.targetRef = .ok a'.targetRef) as as' := by
    intro as as' has
    refine (Except.mapM_eq_ok_iff.mp has).imp fun a a' ha => ?_
    rw [Except.bind_eq_ok_iff] at ha
    obtain ⟨r, hr, ha⟩ := ha
    rw [← Except.ok.inj ha]
    exact ⟨rfl, hr⟩
  cases body with
  | endpoints ss =>
    simp only [mapRefs, Except.bind_eq_ok_iff] at h
    obtain ⟨ss', hss, h⟩ := h
    rw [← Except.ok.inj h]
    refine subsetEntries_converted ((Except.mapM_eq_ok_iff.mp hss).imp fun s s' hs => ?_) 0
    simp only [Except.bind_eq_ok_iff] at hs
    obtain ⟨as, has, bs, hbs, hs⟩ := hs
    rw [← Except.ok.inj hs]
    exact ⟨haddress has, haddress hbs⟩
  | endpointSlice es =>
    simp only [mapRefs, Except.bind_eq_ok_iff] at h
    obtain ⟨es', hes, h⟩ := h
    rw [← Except.ok.inj h]
    refine endpointEntries_converted ((Except.mapM_eq_ok_iff.mp hes).imp fun e e' he => ?_) 0
    simp only [Except.bind_eq_ok_iff] at he
    obtain ⟨r, hr, he⟩ := he
    rw [← Except.ok.inj he]
    exact ⟨rfl, hr⟩

end

/-- What `UpstreamNamespace` does to the namespaces of a tenant: its own spelling stays, and a
namespace stays one. -/
structure NamespaceLaws (c : Contract) (tid : String) : Prop where
  idem : ∀ ns, c.upstreamNamespace tid (c.upstreamNamespace tid ns) = c.upstreamNamespace tid ns
  empty_iff : ∀ ns, c.upstreamNamespace tid ns = "" ↔ ns = ""

def ConvertsEndpoints (tp : TenantProxy EndpointsBody) (checkGroupKind : CheckGroupKind) : Prop :=
  ∀ obj tid up, tp.convertTenantObjectToUpstreamObject obj tid = .ok up →
    up.metadata.namespace = tp.contract.upstreamNamespace tid obj.metadata.namespace ∧
    obj.body.mapRefs (objectReferenceForward tp.contract checkGroupKind tid) = .ok up.body

section

variable {c : Contract} {checkGroupKind : CheckGroupKind} {tid : String}

variable {n : String} {e e' : Entry}

lemma namesPod_of_converted (hlaws : NamespaceLaws c tid)
    (he : ConvertedBy (objectReferenceForward c checkGroupKind tid) e e') {pod : String}
    (h : NamesPod (· = c.upstreamNamespace tid n) e'.targetRef pod) :
    ∃ pod', NamesPod (fun m => c.upstreamNamespace tid m = c.upstreamNamespace tid n)
      e.targetRef pod' := by
  obtain ⟨ref', href', hkind, hname, hpod, hns⟩ := h
  have hforward := he.2
  cases href : e.targetRef with
  | none =>
    rw [href] at hforward
    rw [← Except.ok.inj hforward] at href'
    cases href'
  | some ref =>
    rw [href] at hforward
    obtain ⟨ref'', heq, hkind'', hname'', hns''⟩ := objectReferenceForward_some hforward
    obtain rfl : ref' = ref'' := Option.some.inj (href'.symm.trans heq)
    refine ⟨ref.name, ref, rfl, hkind''.symm.trans hkind, rfl, ?_, ?_⟩
    · intro hempty
      exact hpod (hname ▸ hname'' hempty)
    · rcases hns'' with hsame | ⟨hne, hup⟩
      · rw [hsame] at hns
        refine hns.imp id fun h => ?_
        rw [h]
        exact hlaws.idem n
      · rcases hns with hempty | hns
        · exact absurd ((hlaws.empty_iff _).mp (hup ▸ hempty)) hne
        · exact Or.inr (hup.symm.trans hns)

lemma converted_of_namesPod (hn : c.upstreamNamespace tid n = n)
    (he : ConvertedBy (objectReferenceForward c checkGroupKind tid) e e') {pod : String}
    (h : NamesPod (· = n) e.targetRef pod) :
    ∃ ref', e'.targetRef = some ref' ∧
      (ref'.name ≠ "" → NamesPod (· = c.upstreamNamespace tid n) e'.targetRef ref'.name) := by
  obtain ⟨ref, href, hkind, -, -, hns⟩ := h
  have hforward := he.2
  rw [href] at hforward
  obtain ⟨ref', heq, hkind', -, hns'⟩ := objectReferenceForward_some hforward
  refine ⟨ref', heq, fun hname => ⟨ref', heq, hkind'.trans hkind, rfl, hname, ?_⟩⟩
  rcases hns' with hsame | ⟨hne, hup⟩
  · rw [hsame, hn]
    exact hns
  · rcases hns with hempty | hns
    · exact absurd hempty hne
    · rw [hup, hns]
      exact Or.inr rfl

lemma guardCreate_endpoints {tp : TenantProxy EndpointsBody} (hscoped : tp.namespaceScoped = true)
    (hprojected : tp.hideProjected = false) (pods : PodState) (ctx : RequestContext)
    (tid : String) (up : Object EndpointsBody) (utd : Utd EndpointsBody) :
    (∃ r, tp.guardCreate (endpointGuards pods) ctx tid up utd = .ok r) ↔
      refuseForgedEndpointAddress pods.get up = .ok () := by
  have hrestore : refuseForgedEndpointAddress pods.get
      (HiddenMetadata.restore tp.hiddenMetadata up none) =
        refuseForgedEndpointAddress pods.get up := by
    cases tp.hiddenMetadata <;> rfl
  simp only [TenantProxy.guardCreate, TenantProxy.refuseReservedName, hscoped,
    TenantProxy.refuseProjectedName, TenantProxy.refuseProjectedLabel, hprojected, endpointGuards,
    Guards.permissive, true_or, bind, Except.bind, pure, Except.pure, hrestore]
  cases refuseForgedEndpointAddress pods.get up <;> simp

lemma guardUpdate_endpoints (tp : TenantProxy EndpointsBody) (pods : PodState)
    (ctx : RequestContext) (obj original : Object EndpointsBody) :
    (∃ r, tp.guardUpdate (endpointGuards pods) ctx obj original = .ok r) ↔
      refuseForgedEndpointAddress pods.get obj = .ok () := by
  simp only [TenantProxy.guardUpdate, endpointGuards, Guards.permissive, bind, Except.bind, pure,
    Except.pure]
  cases refuseForgedEndpointAddress pods.get obj <;> simp

end

def Genuine (c : Contract) (tid : String) (obj : Object EndpointsBody) (pods : PodState) : Prop :=
  Passes (fun m => c.upstreamNamespace tid m = c.upstreamNamespace tid obj.metadata.namespace)
    (c.upstreamNamespace tid obj.metadata.namespace) obj.body.entries pods

/-- An entry claims the address for the pod. -/
def Asks (es : List Entry) (pod address : String) : Prop :=
  ∃ e ∈ es, e.address = address ∧ address ≠ "" ∧ ∃ ref, e.targetRef = some ref ∧ ref.name = pod

lemma asked_iff_asks {P : String → Prop} {es : List Entry} (h : ¬ Refused P es)
    (pod address : String) : Asked P es pod address ↔ Asks es pod address := by
  constructor
  · intro ⟨e, he, haddr, hne, ref, href, _, hname, _⟩
    exact ⟨e, he, haddr, hne, ref, href, hname⟩
  · intro ⟨e, he, haddr, hne, ref, href, hname⟩
    by_cases hpod : ∃ pod', NamesPod P e.targetRef pod'
    · obtain ⟨pod', hpod'⟩ := hpod
      refine ⟨e, he, haddr, hne, ?_⟩
      obtain ⟨ref', href', hkind, hname', hne', hns⟩ := hpod'
      obtain rfl : ref = ref' := Option.some.inj (href.symm.trans href')
      exact ⟨ref, href, hkind, hname, hname ▸ hname' ▸ hne', hns⟩
    · exact absurd ⟨e, he, haddr ▸ hne, hpod⟩ h

/-- The guard of a create, and that of an update or a patch, accept exactly the genuine addresses,
whatever pods there are, if and only if the object is refused on every path, or its namespace and
those of its references are spelled as upstream spells them and conversion leaves it naming the same
pods. -/
theorem endpoint_guards_genuine_iff (tp : TenantProxy EndpointsBody)
    (hscoped : tp.namespaceScoped = true) (hprojected : tp.hideProjected = false)
    (checkGroupKind : CheckGroupKind) (hconv : ConvertsEndpoints tp checkGroupKind)
    (tid : String) (hlaws : NamespaceLaws tp.contract tid) (ctx : RequestContext)
    (obj original up : Object EndpointsBody) (utd : Utd EndpointsBody)
    (hup : tp.convertTenantObjectToUpstreamObject obj tid = .ok up) :
    (∀ pods : PodState, ((∃ r, tp.guardCreate (endpointGuards pods) ctx tid up utd = .ok r) ↔
        Genuine tp.contract tid obj pods) ∧
      ((∃ r, tp.guardUpdate (endpointGuards pods) ctx obj original = .ok r) ↔
        Genuine tp.contract tid obj pods)) ↔
    Refused (fun m => tp.contract.upstreamNamespace tid m =
        tp.contract.upstreamNamespace tid obj.metadata.namespace) obj.body.entries ∨
      ((∀ e ∈ obj.body.entries, e.address ≠ "" →
          tp.contract.upstreamNamespace tid obj.metadata.namespace = obj.metadata.namespace ∧
          ∃ pod, NamesPod (· = obj.metadata.namespace) e.targetRef pod) ∧
        ∀ pod address, Asks up.body.entries pod address ↔ Asks obj.body.entries pod address) := by
  obtain ⟨hns, hbody⟩ := hconv obj tid up hup
  obtain ⟨hforth, hback⟩ := Except.forall₂_mem (entries_mapRefs hbody)
  simp only [guardCreate_endpoints hscoped hprojected, guardUpdate_endpoints,
    refuseForgedEndpointAddress_ok_iff, hns, Genuine]
  rw [forall_and, same_verdict_iff, same_verdict_iff]
  generalize hn : obj.metadata.namespace = n at *
  generalize hu : tp.contract.upstreamNamespace tid n = u at *
  -- What names no pod of the tenant's names none before or after conversion.
  have hliteral : Refused (fun m => tp.contract.upstreamNamespace tid m = u) obj.body.entries →
      Refused (· = n) obj.body.entries := by
    intro ⟨e, he, haddr, hnone⟩
    refine ⟨e, he, haddr, fun ⟨pod, ref, href, hkind, hname, hne, hin⟩ => hnone ?_⟩
    exact ⟨pod, ref, href, hkind, hname, hne, hin.imp id fun h => (congrArg _ h).trans hu⟩
  have hcreate : Refused (fun m => tp.contract.upstreamNamespace tid m = u) obj.body.entries →
      Refused (· = u) up.body.entries := by
    intro ⟨e, he, haddr, hnone⟩
    obtain ⟨e', he', hee'⟩ := hforth e he
    refine ⟨e', he', hee'.1 ▸ haddr, fun ⟨pod, hpod⟩ => hnone ?_⟩
    have h := namesPod_of_converted (n := n) hlaws hee' (hu.symm ▸ hpod)
    rwa [hu] at h
  constructor
  · intro ⟨hc, hl⟩
    by_cases hrs : Refused (fun m => tp.contract.upstreamNamespace tid m = u) obj.body.entries
    · exact Or.inl hrs
    · obtain ⟨hrl, -, hlsame⟩ := hl.resolve_left fun h => hrs h.2
      obtain ⟨hrc, -, hcsame⟩ := hc.resolve_left fun h => hrs h.2
      refine Or.inr ⟨fun e he haddr => ?_, fun pod address => ?_⟩
      · by_cases hpod : ∃ pod, NamesPod (· = n) e.targetRef pod
        · obtain ⟨pod, hpod⟩ := hpod
          exact ⟨((hlsame pod e.address).2 ⟨e, he, rfl, haddr, hpod⟩).symm, pod, hpod⟩
        · exact absurd ⟨e, he, haddr, hpod⟩ hrl
      · exact (asked_iff_asks hrc pod address).symm.trans
          ((hcsame pod address).1.trans (asked_iff_asks hrs pod address))
  · intro h
    rcases h with hrs | ⟨hspelled, hasks⟩
    · exact ⟨Or.inl ⟨hcreate hrs, hrs⟩, Or.inl ⟨hliteral hrs, hrs⟩⟩
    · have hrl : ¬ Refused (· = n) obj.body.entries := fun ⟨e, he, haddr, hnone⟩ =>
        hnone (hspelled e he haddr).2
      have hrs := mt hliteral hrl
      have hrc : ¬ Refused (· = u) up.body.entries := by
        intro ⟨e', he', haddr', hnone⟩
        obtain ⟨e, he, hee'⟩ := hback e' he'
        obtain ⟨hun, pod, hpod⟩ := hspelled e he (hee'.1 ▸ haddr')
        obtain ⟨ref', href', hnames⟩ := converted_of_namesPod (hu.trans hun) hee' hpod
        -- The converted reference has a name, for the object itself asks about that pod.
        obtain ⟨e₂, he₂, haddr₂, hne₂, ref₂, href₂, hname₂⟩ :=
          (hasks ref'.name e'.address).mp ⟨e', he', rfl, haddr', ref', href', rfl⟩
        obtain ⟨pod₂, ref₃, href₃, -, hname₃, hpod₂, -⟩ := (hspelled e₂ he₂ (haddr₂ ▸ hne₂)).2
        obtain rfl : ref₂ = ref₃ := Option.some.inj (href₂.symm.trans href₃)
        have hne : ref'.name ≠ "" := by
          rw [← hname₂, hname₃]
          exact hpod₂
        exact hnone ⟨ref'.name, hu ▸ hnames hne⟩
      refine ⟨Or.inr ⟨hrc, hrs, fun pod address => ⟨?_, fun _ => rfl⟩⟩,
        Or.inr ⟨hrl, hrs, fun pod address => ⟨?_, ?_⟩⟩⟩
      · exact (asked_iff_asks hrc pod address).trans
          ((hasks pod address).trans (asked_iff_asks hrs pod address).symm)
      · exact (asked_iff_asks hrl pod address).trans (asked_iff_asks hrs pod address).symm
      · intro ⟨e, he, haddr, hne, _⟩
        exact (hspelled e he (haddr ▸ hne)).1.symm

def podsOnly : CheckGroupKind := fun group kind _ _ =>
  if group = "" ∧ kind = "Pod" then .ok (true, false) else .error (.plain "no such kind")

def plainEndpoints : TenantProxy EndpointsBody where
  kind := { version := "v1", kind := "Endpoints" }
  resource := "endpoints"
  namespaceScoped := true
  contract := dashContract
  convertor :=
    { convertTenantObjectToUpstreamObject := fun o tid _ =>
        (o.body.mapRefs (objectReferenceForward dashContract podsOnly tid)).map fun body =>
          let ns := dashContract.upstreamNamespace tid o.metadata.namespace
          { o with metadata := { o.metadata with «namespace» := ns }, body := body }
      convertUpstreamObjectToTenantObject := fun o _ _ => .ok o }

lemma convertsEndpoints_plainEndpoints : ConvertsEndpoints plainEndpoints podsOnly := by
  intro obj tid up h
  obtain ⟨body, hbody, rfl⟩ := Except.map_eq_ok_iff.mp h
  exact ⟨rfl, hbody⟩

lemma namespaceLaws_dashContract (tid : String) : NamespaceLaws dashContract tid where
  idem ns := by
    by_cases h : ns = "" ∨ (tid ++ "-").toList.isPrefixOf ns.toList
    · simp only [dashContract, if_pos h]
    · simp only [dashContract, if_neg h]
      refine if_pos (Or.inr ?_)
      rw [List.isPrefixOf_iff_prefix]
      exact ⟨ns.toList, String.toList_append.symm⟩
  empty_iff ns := by
    by_cases h : ns = "" ∨ (tid ++ "-").toList.isPrefixOf ns.toList
    · simp only [dashContract, if_pos h]
    · have hne : ns ≠ "" := fun hns => h (Or.inl hns)
      simp only [dashContract, if_neg h]
      refine iff_of_false (fun hempty => hne ?_) hne
      have hlength := congrArg String.length hempty
      simp only [String.length_append, String.length_empty] at hlength
      exact String.length_eq_zero_iff.mp (by omega)

def oneAddress (ns : String) : Object EndpointsBody :=
  { metadata := { name := "web", «namespace» := ns }
    body := .endpoints [{ addresses :=
      [{ ip := "10.0.0.1", targetRef := some { kind := "Pod", name := "a" } }] }] }

theorem endpoint_guards_genuine_upstream_spelling :
    plainEndpoints.convertTenantObjectToUpstreamObject (oneAddress "111111-web") "111111" =
      .ok (oneAddress "111111-web") ∧
    ∀ pods : PodState, ((∃ r, plainEndpoints.guardCreate (endpointGuards pods) webContext "111111"
          (oneAddress "111111-web") .alias = .ok r) ↔
        Genuine dashContract "111111" (oneAddress "111111-web") pods) ∧
      ((∃ r, plainEndpoints.guardUpdate (endpointGuards pods) webContext
          (oneAddress "111111-web") (oneAddress "111111-web") = .ok r) ↔
        Genuine dashContract "111111" (oneAddress "111111-web") pods) := by
  have hconvert : plainEndpoints.convertTenantObjectToUpstreamObject (oneAddress "111111-web")
      "111111" = .ok (oneAddress "111111-web") := by decide +kernel
  refine ⟨hconvert, (endpoint_guards_genuine_iff plainEndpoints rfl rfl podsOnly
    convertsEndpoints_plainEndpoints "111111" (namespaceLaws_dashContract "111111") webContext
    (oneAddress "111111-web") (oneAddress "111111-web") (oneAddress "111111-web") .alias
    hconvert).mpr (Or.inr ⟨?_, fun _ _ => Iff.rfl⟩)⟩
  intro e he _
  obtain rfl : e = ⟨"subsets[0].addresses[0]", "10.0.0.1", some { kind := "Pod", name := "a" }⟩ := by
    exact List.mem_singleton.mp he
  exact ⟨by decide +kernel, "a", _, rfl, rfl, rfl, by decide, Or.inl rfl⟩

def onePod (ns : String) : PodState := fun ns' name =>
  if ns' = ns ∧ name = "a" then some ["10.0.0.1"] else none

theorem endpoint_guard_update_asks_outside :
    let obj := oneAddress "web"
    let up := oneAddress "111111-web"
    plainEndpoints.convertTenantObjectToUpstreamObject obj "111111" = .ok up ∧
    ((∃ r, plainEndpoints.guardCreate (endpointGuards (onePod "111111-web")) webContext "111111" up
        .alias = .ok r) ∧
      ¬ ∃ r, plainEndpoints.guardUpdate (endpointGuards (onePod "111111-web")) webContext obj obj =
        .ok r) ∧
    ((∃ r, plainEndpoints.guardUpdate (endpointGuards (onePod "web")) webContext obj obj = .ok r) ∧
      ¬ ∃ r, plainEndpoints.guardCreate (endpointGuards (onePod "web")) webContext "111111" up
        .alias = .ok r) := by
  simp only [guardUpdate_endpoints, guardCreate_endpoints (show plainEndpoints.namespaceScoped = true from rfl) rfl]
  decide +kernel

end KubeZoo
