import KubeZoo.Convert.Default
import KubeZoo.Lib.Rename
import KubeZoo.Lib.Selector

/-! # Network policies -/

namespace KubeZoo

open Tag Rename
open Selector (About Silent)

/-- `metav1.LabelSelector`, of a peer. -/
structure PeerSelector where
  matchLabels : Option StringMap := none
  matchExpressions : List (Selector.Requirement String String) := []
deriving DecidableEq

namespace PeerSelector

def entries (s : PeerSelector) : StringMap := s.matchLabels.getD ∅

/-- `metav1.LabelSelectorAsSelector`. -/
def requirements (s : PeerSelector) : List (Selector.Requirement String String) :=
  s.entries.toList.map (fun e => .equals e.1 e.2) ++ s.matchExpressions

/-- `labels` meet the selector. -/
def Matches (s : PeerSelector) (labels : StringMap) : Prop :=
  Selector.Matches s.requirements fun k => labels[k]?

instance (s : PeerSelector) (labels : StringMap) : Decidable (s.Matches labels) :=
  inferInstanceAs (Decidable (Selector.Matches _ _))

def nilEmpty (s : PeerSelector) : PeerSelector :=
  { s with matchLabels := if s.entries.isEmpty then none else some s.entries }

end PeerSelector

def labelMetadataName : String := "kubernetes.io/metadata.name"

def confineToTenant (c : Contract) (s : PeerSelector) (tid : String) : PeerSelector :=
  { s with
    matchLabels := some ((entry labelMetadataName (c.upstreamNamespace tid)
      s.entries).insert tenantNamespaceLabelKey tid) }

def releaseFromTenant (c : Contract) (s : PeerSelector) (tid : String) : PeerSelector :=
  match s.matchLabels with
  | none => s
  | some m =>
    let m := (entry labelMetadataName (c.trimTenantIDPrefix tid) m).erase
      tenantNamespaceLabelKey
    { s with matchLabels := if m.isEmpty then none else some m }

/-- The part of `networking.NetworkPolicyPeer` that is read or written, and the selector beside it. -/
structure NetworkPolicyPeer where
  podSelector : Option PeerSelector := none
  namespaceSelector : Option PeerSelector := none
deriving DecidableEq

/-- The part of `networking.NetworkPolicySpec` that is read or written: the peers of its rules. -/
structure NetworkPolicy where
  ingress : List (List NetworkPolicyPeer) := []
  egress : List (List NetworkPolicyPeer) := []
deriving DecidableEq

def NetworkPolicyPeer.visit (f : PeerSelector → PeerSelector) (peer : NetworkPolicyPeer) :
    NetworkPolicyPeer :=
  { peer with namespaceSelector := peer.namespaceSelector.map f }

namespace NetworkPolicy

def forEachPeer (f : PeerSelector → PeerSelector) (p : NetworkPolicy) : NetworkPolicy where
  ingress := p.ingress.map fun peers => peers.map (·.visit f)
  egress := p.egress.map fun peers => peers.map (·.visit f)

def namespaceSelectors (p : NetworkPolicy) : List PeerSelector :=
  (p.ingress.flatten ++ p.egress.flatten).filterMap fun peer => peer.namespaceSelector

end NetworkPolicy

def networkPolicyTransformer (c : Contract) : ObjectTransformer (Owned NetworkPolicy) where
  forward o tid := .ok (o.withSpec (o.body.spec.forEachPeer fun s => confineToTenant c s tid))
  backward o tid := .ok (o.withSpec (o.body.spec.forEachPeer fun s => releaseFromTenant c s tid))

namespace NetworkPolicy

variable {f g : PeerSelector → PeerSelector} {p : NetworkPolicy}

lemma forEachPeer_forEachPeer :
    (p.forEachPeer f).forEachPeer g = p.forEachPeer fun s => g (f s) := by
  simp only [forEachPeer, NetworkPolicyPeer.visit, List.map_map, Function.comp_def, Option.map_map]

lemma namespaceSelectors_forEachPeer :
    (p.forEachPeer f).namespaceSelectors = p.namespaceSelectors.map f := by
  simp only [namespaceSelectors, forEachPeer, NetworkPolicyPeer.visit, ← List.map_flatten,
    ← List.map_append, List.filterMap_map, List.map_filterMap, Function.comp_def]

lemma forEachPeer_congr (h : ∀ s ∈ p.namespaceSelectors, f s = g s) :
    p.forEachPeer f = p.forEachPeer g := by
  have hpeers : ∀ rules : List (List NetworkPolicyPeer), rules.flatten ⊆ p.ingress.flatten ++
      p.egress.flatten → rules.map (fun peers => peers.map (·.visit f)) =
        rules.map fun peers => peers.map (·.visit g) := by
    intro rules hrules
    refine List.map_congr_left fun peers hpeers => List.map_congr_left fun peer hpeer => ?_
    have hmem := hrules (List.mem_flatten_of_mem hpeers hpeer)
    unfold NetworkPolicyPeer.visit
    cases hs : peer.namespaceSelector with
    | none => rfl
    | some s => rw [Option.map_some, Option.map_some, h s (List.mem_filterMap.mpr ⟨peer, hmem, hs⟩)]
  rw [forEachPeer, forEachPeer, hpeers _ (List.subset_append_left _ _),
    hpeers _ (List.subset_append_right _ _)]

end NetworkPolicy

structure ClusterNamespace where
  name : String
  labels : StringMap
  named : labels[labelMetadataName]? = some name
  owned : ∀ tid, labels[tenantNamespaceLabelKey]? = some tid →
    ∃ own, own ≠ "" ∧ name = tenantPrefix tid ++ own

def ClusterNamespace.view (N : ClusterNamespace) (tid : String) : StringMap :=
  (N.labels.insert labelMetadataName (trim (tenantPrefix tid) N.name)).erase tenantNamespaceLabelKey

lemma getElem?_erase_string (m : StringMap) (k a : String) :
    (m.erase k)[a]? = if k = a then none else m[a]? := by
  rw [Std.ExtTreeMap.getElem?_erase]
  simp only [Std.compare_eq_iff_eq]

lemma labelMetadataName_ne : labelMetadataName ≠ tenantNamespaceLabelKey := by decide

namespace PeerSelector

def RestMet (s : PeerSelector) : Prop :=
  ∃ labels : StringMap, ∀ k, k ≠ labelMetadataName → About s.requirements k labels[k]?

def Passes (s : PeerSelector) (name : String) : Prop :=
  About s.matchExpressions labelMetadataName (some name)

/-- The expressions say of each name that `matchLabels` lets pass what they say of it with the prefix.
If `matchLabels` asks for a name that has the prefix, they let it not pass. -/
def NamesKept (s : PeerSelector) (tid : String) : Prop :=
  match s.entries[labelMetadataName]? with
  | none => ∀ own, own ≠ "" → (s.Passes own ↔ s.Passes (tenantPrefix tid ++ own))
  | some name =>
    if startsWith name (tenantPrefix tid) then ¬ s.Passes name
    else name ≠ "" → (s.Passes name ↔ s.Passes (tenantPrefix tid ++ name))

structure OwnSpelling (s : PeerSelector) (tid : String) : Prop where
  silent : s.entries[tenantNamespaceLabelKey]? = none
  name : ∀ name, s.entries[labelMetadataName]? = some name →
    startsWith name (tenantPrefix tid) = false

variable {c : Contract} {tid own : String} {s : PeerSelector} {labels : StringMap}

lemma matches_iff : s.Matches labels ↔ ∀ k, About s.requirements k labels[k]? :=
  Selector.matches_iff_about

lemma about_requirements_iff {k : String} {value : Option String} :
    About s.requirements k value ↔
      (∀ v, s.entries[k]? = some v → value = some v) ∧ About s.matchExpressions k value := by
  rw [requirements, Selector.about_append]
  refine and_congr_left fun _ => ?_
  unfold About
  simp only [List.mem_map, Prod.exists, Std.ExtTreeMap.mem_toList_iff_getElem?_eq_some]
  constructor
  · intro h v hv
    exact Selector.Requirement.holds_equals.mp (h _ ⟨k, v, hv, rfl⟩ rfl)
  · rintro h _ ⟨k, v, hv, rfl⟩ rfl
    exact Selector.Requirement.holds_equals.mpr (h v hv)

lemma getElem?_confineToTenant (k : String) :
    (confineToTenant c s tid).entries[k]? =
      if tenantNamespaceLabelKey = k then some tid
      else if k = labelMetadataName then value (c.upstreamNamespace tid) s.entries[k]?
      else s.entries[k]? := by
  show ((entry _ _ s.entries).insert _ _)[k]? = _
  rw [getElem?_insert_string, getElem?_entry]

lemma matches_confineToTenant (hsilent : Silent s.requirements tenantNamespaceLabelKey) :
    (confineToTenant c s tid).Matches labels ↔ labels[tenantNamespaceLabelKey]? = some tid ∧
      ((∀ name, value (c.upstreamNamespace tid) s.entries[labelMetadataName]? =
          some name → labels[labelMetadataName]? = some name) ∧
        About s.matchExpressions labelMetadataName labels[labelMetadataName]?) ∧
      ∀ k, k ≠ labelMetadataName → About s.requirements k labels[k]? := by
  have habout : ∀ k, About (confineToTenant c s tid).requirements k labels[k]? ↔
      (∀ v, (confineToTenant c s tid).entries[k]? = some v → labels[k]? = some v) ∧
        About s.matchExpressions k labels[k]? := fun k => about_requirements_iff
  have hexpressions : About s.matchExpressions tenantNamespaceLabelKey
      labels[tenantNamespaceLabelKey]? :=
    (about_requirements_iff.mp (Selector.about_of_silent hsilent)).2
  simp only [matches_iff, habout, getElem?_confineToTenant]
  constructor
  · intro h
    refine ⟨(h tenantNamespaceLabelKey).1 _ (if_pos rfl), ?_, fun k hk => ?_⟩
    · simpa [labelMetadataName_ne.symm] using h labelMetadataName
    · by_cases hlabel : tenantNamespaceLabelKey = k
      · exact hlabel ▸ Selector.about_of_silent hsilent
      · rw [about_requirements_iff]
        simpa [hlabel, hk] using h k
  · rintro ⟨hlabel, hname, hrest⟩ k
    by_cases hk : tenantNamespaceLabelKey = k
    · subst hk
      simpa [hlabel] using hexpressions
    · by_cases hkey : k = labelMetadataName
      · subst hkey
        simpa [hk] using hname
      · simpa [hk, hkey] using about_requirements_iff.mp (hrest k hkey)

lemma matches_view (hsilent : Silent s.requirements tenantNamespaceLabelKey) {N : ClusterNamespace}
    (hname : N.name = tenantPrefix tid ++ own) :
    s.Matches (N.view tid) ↔
      ((∀ name, s.entries[labelMetadataName]? = some name → own = name) ∧ s.Passes own) ∧
      ∀ k, k ≠ labelMetadataName → About s.requirements k N.labels[k]? := by
  have hview : ∀ k, (N.view tid)[k]? = if tenantNamespaceLabelKey = k then none
      else if labelMetadataName = k then some own else N.labels[k]? := by
    intro k
    rw [ClusterNamespace.view, hname, trim_append, getElem?_erase_string, getElem?_insert_string]
  have hown : (N.view tid)[labelMetadataName]? = some own := by
    rw [hview, if_neg labelMetadataName_ne.symm, if_pos rfl]
  have hat : About s.requirements labelMetadataName (some own) ↔
      (∀ name, s.entries[labelMetadataName]? = some name → own = name) ∧ s.Passes own := by
    simp only [about_requirements_iff, Option.some.injEq]
    rfl
  rw [matches_iff, ← hat]
  constructor
  · intro h
    refine ⟨hown ▸ h labelMetadataName, fun k hk => ?_⟩
    by_cases hlabel : tenantNamespaceLabelKey = k
    · exact hlabel ▸ Selector.about_of_silent hsilent
    · have hk' := h k
      rwa [hview, if_neg hlabel, if_neg (Ne.symm hk)] at hk'
  · rintro ⟨hown', hrest⟩ k
    by_cases hlabel : tenantNamespaceLabelKey = k
    · exact hlabel ▸ Selector.about_of_silent hsilent
    · by_cases hk : k = labelMetadataName
      · subst hk
        rw [hown]
        exact hown'
      · rw [hview, if_neg hlabel, if_neg (Ne.symm hk)]
        exact hrest k hk

lemma namesKept_iff (hc : c.Dashes) :
    s.NamesKept tid ↔ ∀ own, own ≠ "" →
      (((∀ name, value (c.upstreamNamespace tid) s.entries[labelMetadataName]? =
            some name → some (tenantPrefix tid ++ own) = some name) ∧
          s.Passes (tenantPrefix tid ++ own)) ↔
        (∀ name, s.entries[labelMetadataName]? = some name → own = name) ∧ s.Passes own) := by
  have htag := tenantPrefix_ne tid
  unfold NamesKept
  cases s.entries[labelMetadataName]? with
  | none =>
    simp only [value, Option.map_none, reduceCtorEq, false_implies, implies_true, true_and]
    exact forall₂_congr fun own _ => iff_comm
  | some name =>
    by_cases hempty : name = ""
    · subst hempty
      have hstart : startsWith "" (tenantPrefix tid) = false :=
        Bool.eq_false_iff.mpr fun h => not_marked_empty htag (startsWith_iff.mp h)
      simp only [hstart, Bool.false_eq_true, if_false, ne_eq, not_true_eq_false, false_implies,
        true_iff]
      intro own hown
      refine iff_of_false (fun h => ?_) fun h => hown (h.1 _ rfl)
      exact append_ne_empty htag own (Option.some.inj (h.1 "" rfl))
    · have hsent : value (c.upstreamNamespace tid) (some name) =
          some (ensure (tenantPrefix tid) name) := by
        simp only [value, Option.map_some, ne_eq, hempty, not_false_eq_true, if_true,
          hc.upstream _ _ hempty]
      simp only [hsent, Option.some.injEq, forall_eq']
      by_cases hmarked : Marked (tenantPrefix tid) name
      · rw [if_pos (startsWith_iff.mpr hmarked), ensure_of_marked hmarked]
        constructor
        · rintro h own -
          refine iff_of_false ?_ ?_
          · rintro ⟨rfl, hpass⟩
            exact h hpass
          · rintro ⟨rfl, hpass⟩
            exact h hpass
        · intro h hpass
          exact append_ne htag name ((h name hempty).mpr ⟨rfl, hpass⟩).1
      · rw [if_neg (fun h => hmarked (startsWith_iff.mp h)), ensure_of_not hmarked]
        constructor
        · intro h own _
          constructor
          · rintro ⟨hown, hpass⟩
            obtain rfl := (String.append_right_inj _).mp hown
            exact ⟨rfl, (h hempty).mpr hpass⟩
          · rintro ⟨rfl, hpass⟩
            exact ⟨rfl, (h hempty).mp hpass⟩
        · intro h _
          exact ⟨fun hpass => ((h name hempty).mpr ⟨rfl, hpass⟩).2,
            fun hpass => ((h name hempty).mp ⟨rfl, hpass⟩).2⟩

lemma confined_matches_iff (hc : c.Dashes)
    (hsilent : Silent s.requirements tenantNamespaceLabelKey) :
    (∀ N : ClusterNamespace, (confineToTenant c s tid).Matches N.labels ↔
      N.labels[tenantNamespaceLabelKey]? = some tid ∧ s.Matches (N.view tid)) ↔
    ¬ s.RestMet ∨ s.NamesKept tid := by
  simp only [matches_confineToTenant hsilent]
  constructor
  · intro h
    by_cases hrest : s.RestMet
    · refine .inr ((namesKept_iff hc).mpr fun own hown => ?_)
      obtain ⟨labels, hlabels⟩ := hrest
      -- The namespace of that name with these labels.
      have hget : ∀ k, ((labels.insert labelMetadataName (tenantPrefix tid ++ own)).insert
          tenantNamespaceLabelKey tid)[k]? = if tenantNamespaceLabelKey = k then some tid
            else if labelMetadataName = k then some (tenantPrefix tid ++ own)
            else labels[k]? := by
        intro k
        rw [getElem?_insert_string, getElem?_insert_string]
      have hnamed := hget labelMetadataName
      rw [if_neg labelMetadataName_ne.symm, if_pos rfl] at hnamed
      have howned := hget tenantNamespaceLabelKey
      rw [if_pos rfl] at howned
      have hN := h ⟨_, _, hnamed, fun t ht => ⟨own, hown, by
        rw [Option.some.inj (howned.symm.trans ht)]⟩⟩
      rw [matches_view hsilent rfl] at hN
      simp only [howned, hnamed, true_and] at hN
      have hothers : ∀ k, k ≠ labelMetadataName → About s.requirements k
          ((labels.insert labelMetadataName (tenantPrefix tid ++ own)).insert
            tenantNamespaceLabelKey tid)[k]? := by
        intro k hk
        by_cases hlabel : tenantNamespaceLabelKey = k
        · exact hlabel ▸ Selector.about_of_silent hsilent
        · rw [hget, if_neg hlabel, if_neg (Ne.symm hk)]
          exact hlabels k hk
      exact (and_congr_left_iff.mp hN) hothers
    · exact .inl hrest
  · intro h N
    refine and_congr_right fun hlabel => ?_
    obtain ⟨own, hown, hname⟩ := N.owned tid hlabel
    rw [matches_view hsilent hname, N.named, hname]
    refine and_congr_left fun hrest => ?_
    exact (namesKept_iff hc).mp (h.resolve_left fun hnot => hnot ⟨_, hrest⟩) own hown

lemma releaseFromTenant_confineToTenant (hc : c.Dashes) (h : s.OwnSpelling tid) :
    releaseFromTenant c (confineToTenant c s tid) tid = s.nilEmpty := by
  have hmap : (entry labelMetadataName (c.trimTenantIDPrefix tid)
      ((entry labelMetadataName (c.upstreamNamespace tid) s.entries).insert
        tenantNamespaceLabelKey tid)).erase tenantNamespaceLabelKey = s.entries := by
    refine Std.ExtTreeMap.ext_getElem? fun k => ?_
    rw [getElem?_erase_string, getElem?_entry, getElem?_insert_string, getElem?_entry]
    by_cases hlabel : tenantNamespaceLabelKey = k
    · rw [if_pos hlabel, ← hlabel, h.silent]
    · rw [if_neg hlabel, if_neg hlabel]
      split_ifs with hk
      · subst hk
        rw [value_value]
        refine (value_eq_iff.mpr fun name hne hname => ?_).trans value_id
        have hmarked : ¬ Marked (tenantPrefix tid) name := fun hm =>
          Bool.eq_false_iff.mp (h.name name hname) (startsWith_iff.mpr hm)
        simp only [andThen, hc.upstream _ _ hne, ensure_of_not hmarked, hc.trim, trim_append,
          append_ne_empty (tenantPrefix_ne _) name, ne_eq, not_false_eq_true, if_true]
      · rfl
  unfold releaseFromTenant confineToTenant nilEmpty
  simp only [hmap]

lemma OwnSpelling.namesKept (h : s.OwnSpelling tid)
    (hsilent : Silent s.matchExpressions labelMetadataName) : s.NamesKept tid := by
  have hpasses : ∀ name, s.Passes name := fun name => Selector.about_of_silent hsilent
  unfold NamesKept
  cases hname : s.entries[labelMetadataName]? with
  | none => exact fun own _ => iff_of_true (hpasses _) (hpasses _)
  | some name =>
    simp only [h.name name hname]
    exact fun _ => iff_of_true (hpasses _) (hpasses _)

end PeerSelector

/-- A policy is sent with its namespace selectors confined to the tenant: one that says nothing of
the tenant's label matches exactly the tenant's namespaces that it matches as the tenant sees them,
if and only if no namespace can meet the rest of it, or its expressions say of the names what they
say of them with the prefix. -/
theorem networkPolicy_confined_iff (c : Contract) (hc : c.Dashes)
    (o : Object (Owned NetworkPolicy)) (tid : String) :
    ∃ sent, (networkPolicyTransformer c).forward o tid = .ok sent ∧
      List.Forall₂ (fun (s confined : PeerSelector) =>
        Silent s.requirements tenantNamespaceLabelKey →
          ((∀ N : ClusterNamespace, confined.Matches N.labels ↔
              N.labels[tenantNamespaceLabelKey]? = some tid ∧ s.Matches (N.view tid)) ↔
            ¬ s.RestMet ∨ s.NamesKept tid))
        o.body.spec.namespaceSelectors sent.body.spec.namespaceSelectors ∧
      ((∀ s ∈ o.body.spec.namespaceSelectors, s.OwnSpelling tid) →
        (networkPolicyTransformer c).backward sent tid =
          .ok (o.withSpec (o.body.spec.forEachPeer PeerSelector.nilEmpty))) := by
  refine ⟨_, rfl, ?_, fun hspelling => ?_⟩
  · show List.Forall₂ _ _ (NetworkPolicy.namespaceSelectors (NetworkPolicy.forEachPeer _ _))
    rw [NetworkPolicy.namespaceSelectors_forEachPeer, List.forall₂_map_right_iff]
    exact List.forall₂_same.mpr fun s _ hsilent => PeerSelector.confined_matches_iff hc hsilent
  · show Except.ok (o.withSpec (NetworkPolicy.forEachPeer _ (NetworkPolicy.forEachPeer _ _))) = _
    rw [NetworkPolicy.forEachPeer_forEachPeer, NetworkPolicy.forEachPeer_congr fun s hs =>
      PeerSelector.releaseFromTenant_confineToTenant hc (hspelling s hs)]

def admitting (s : PeerSelector) : Object (Owned NetworkPolicy) :=
  { body := { spec := { ingress := [[{ namespaceSelector := some s }]] } } }

def byLabel (name : String) : PeerSelector :=
  { matchLabels := some ((∅ : StringMap).insert labelMetadataName name) }

def byExpression (name : String) : PeerSelector :=
  { matchExpressions := [.equals labelMetadataName name] }

def tenantNamespace (tid own : String) (hown : own ≠ "") : ClusterNamespace where
  name := tenantPrefix tid ++ own
  labels := ((∅ : StringMap).insert labelMetadataName (tenantPrefix tid ++ own)).insert
    tenantNamespaceLabelKey tid
  named := by
    rw [getElem?_insert_string, if_neg labelMetadataName_ne.symm, getElem?_insert_string, if_pos rfl]
  owned t ht := by
    rw [getElem?_insert_string, if_pos rfl] at ht
    exact ⟨own, hown, by rw [Option.some.inj ht]⟩

lemma ownSpelling_byLabel : (byLabel "default").OwnSpelling "111111" where
  silent := by decide +kernel
  name := by
    rw [show (byLabel "default").entries[labelMetadataName]? = some "default" by decide +kernel]
    rintro _ ⟨⟩
    decide +kernel

theorem networkPolicy_confined_byLabel :
    ∃ sent confined, (networkPolicyTransformer dashContract).forward
        (admitting (byLabel "default")) "111111" = .ok sent ∧
      sent.body.spec.namespaceSelectors = [confined] ∧
      (∀ N : ClusterNamespace, confined.Matches N.labels ↔
        N.labels[tenantNamespaceLabelKey]? = some "111111" ∧
          (byLabel "default").Matches (N.view "111111")) ∧
      (networkPolicyTransformer dashContract).backward sent "111111" =
        .ok (admitting (byLabel "default")) := by
  obtain ⟨sent, hsent, hconfined, hback⟩ := networkPolicy_confined_iff dashContract
    dashes_dashContract (admitting (byLabel "default")) "111111"
  cases hsent
  obtain ⟨hmatches, -⟩ := List.forall₂_cons.mp hconfined
  refine ⟨_, _, rfl, rfl, (hmatches ?_).mpr (.inr (ownSpelling_byLabel.namesKept (List.forall_mem_nil _))), ?_⟩
  · show ∀ r ∈ (byLabel "default").requirements, r.key ≠ tenantNamespaceLabelKey
    decide +kernel
  · rw [hback fun s hs => List.mem_singleton.mp hs ▸ ownSpelling_byLabel]
    decide +kernel

theorem byExpression_not_confined :
    ∃ sent confined, (networkPolicyTransformer dashContract).forward
        (admitting (byExpression "default")) "111111" = .ok sent ∧
      sent.body.spec.namespaceSelectors = [confined] ∧
      (tenantNamespace "111111" "default" (by decide)).labels[tenantNamespaceLabelKey]? =
        some "111111" ∧
      (byExpression "default").Matches
        ((tenantNamespace "111111" "default" (by decide)).view "111111") ∧
      ¬ confined.Matches (tenantNamespace "111111" "default" (by decide)).labels :=
  ⟨_, _, rfl, rfl, by decide +kernel⟩

end KubeZoo
