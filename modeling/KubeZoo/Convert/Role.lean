import KubeZoo.Proxy.CustomResource

/-! # Rules of roles -/

namespace KubeZoo

open Tag

/-- The part of `rbac.PolicyRule` that is about resources. -/
@[ext]
structure PolicyRule where
  verbs : List String := []
  apiGroups : List String := []
  resources : List String := []
  resourceNames : List String := []
deriving DecidableEq

/-- `NewCustomGroupResourcesMap(crds).HasGroup`: the group is that of one of the definitions. -/
def hasGroup (crds : List CustomResourceDefinition) (group : String) : Bool :=
  crds.any (·.group == group)

section

variable (c : Contract)

def forwardAPIGroup (crds : List CustomResourceDefinition) (tid group : String) : String :=
  if hasGroup crds (c.addTenantIDPrefix tid group) then c.addTenantIDPrefix tid group
  else group

def transformRuleToUpstream (crds : List CustomResourceDefinition) (tid : String)
    (rule : PolicyRule) : PolicyRule :=
  { rule with
    apiGroups := rule.apiGroups.map (forwardAPIGroup c crds tid)
    resourceNames :=
      rule.resourceNames ++ rule.resourceNames.map (c.addTenantIDPrefix tid) }

def transformRuleToTenant (tid : String) (rule : PolicyRule) : PolicyRule :=
  { rule with
    apiGroups := rule.apiGroups.map (c.trimTenantIDPrefix tid)
    resourceNames := rule.resourceNames.filter fun name => !startsWith name (tenantPrefix tid) }

end

structure ResourceRequest where
  verb : String
  apiGroup : String
  resource : String
  subresource : String := ""
  name : String
deriving DecidableEq

def ResourceRequest.combinedResource (r : ResourceRequest) : String :=
  if r.subresource = "" then r.resource else r.resource ++ "/" ++ r.subresource

namespace PolicyRule

/-- `VerbMatches` and `APIGroupMatches` of the RBAC authorizer: a star matches all. -/
def matchesWord (words : List String) (word : String) : Bool :=
  words.any fun w => w == "*" || w == word

/-- `ResourceMatches`. -/
def matchesResource (resources : List String) (r : ResourceRequest) : Bool :=
  resources.any fun resource =>
    resource == "*" || resource == r.combinedResource ||
      (r.subresource != "" && resource == "*/" ++ r.subresource)

/-- `ResourceNameMatches`: a rule without names matches all. -/
def matchesName (names : List String) (name : String) : Bool :=
  names.isEmpty || names.contains name

/-- `RuleAllows`, for requests of resources. -/
def grants (rule : PolicyRule) (r : ResourceRequest) : Bool :=
  matchesWord rule.verbs r.verb && matchesWord rule.apiGroups r.apiGroup &&
    matchesResource rule.resources r && matchesName rule.resourceNames r.name

/-- The one rule grants nothing that the other does not. -/
def Within (rule rule' : PolicyRule) : Prop := ∀ r, rule.grants r = true → rule'.grants r = true

end PolicyRule

lemma exists_not_mem (l : List String) : ∃ s, s ∉ l := by
  -- One that is longer than all of them.
  obtain ⟨n, hn⟩ : ∃ n, ∀ s ∈ l, s.length < n := by
    induction l with
    | nil => exact ⟨0, by simp⟩
    | cons s l ih =>
      obtain ⟨n, hn⟩ := ih
      refine ⟨max n (s.length + 1), ?_⟩
      intro s' hs'
      rcases List.mem_cons.mp hs' with rfl | hmem
      · omega
      · have := hn s' hmem
        omega
  refine ⟨String.ofList (List.replicate n 'x'), fun hmem => ?_⟩
  have := hn _ hmem
  rw [String.length_ofList, List.length_replicate] at this
  exact lt_irrefl n this

namespace PolicyRule

variable {rule rule' : PolicyRule} {words names : List String}

lemma matchesWord_iff {word : String} :
    matchesWord words word = true ↔ "*" ∈ words ∨ word ∈ words := by
  simp only [matchesWord, List.any_eq_true, Bool.or_eq_true, beq_iff_eq]
  constructor
  · rintro ⟨w, hw, rfl | rfl⟩
    · exact Or.inl hw
    · exact Or.inr hw
  · rintro (h | h)
    · exact ⟨_, h, Or.inl rfl⟩
    · exact ⟨_, h, Or.inr rfl⟩

lemma matchesName_iff {name : String} :
    matchesName names name = true ↔ names = [] ∨ name ∈ names := by
  simp [matchesName]

lemma exists_matchesName (names : List String) : ∃ n, matchesName names n = true := by
  cases names with
  | nil => exact ⟨"", rfl⟩
  | cons n names => exact ⟨n, by simp [matchesName]⟩

lemma within_iff (hverbs : rule.verbs = rule'.verbs) (hresources : rule.resources = rule'.resources) :
    rule.Within rule' ↔ (rule.verbs = [] ∨ rule.resources = [] ∨ rule.apiGroups = []) ∨
      (∀ g, matchesWord rule.apiGroups g = true → matchesWord rule'.apiGroups g = true) ∧
        ∀ n, matchesName rule.resourceNames n = true → matchesName rule'.resourceNames n = true := by
  have hgrants : ∀ r, rule.grants r = true ↔ ((matchesWord rule.verbs r.verb = true ∧
      matchesWord rule.apiGroups r.apiGroup = true) ∧ matchesResource rule.resources r = true) ∧
        matchesName rule.resourceNames r.name = true := by
    intro r
    simp only [grants, Bool.and_eq_true]
  constructor
  · intro h
    by_cases hempty : rule.verbs = [] ∨ rule.resources = [] ∨ rule.apiGroups = []
    · exact Or.inl hempty
    · push Not at hempty
      obtain ⟨hv, hr, hg⟩ := hempty
      obtain ⟨v, hv⟩ := List.exists_mem_of_ne_nil _ hv
      obtain ⟨res, hres⟩ := List.exists_mem_of_ne_nil _ hr
      obtain ⟨g₀, hg₀⟩ := List.exists_mem_of_ne_nil _ hg
      obtain ⟨n₀, hn₀⟩ := exists_matchesName rule.resourceNames
      -- One of the rule's verbs and resources, with any group and name it matches.
      have hany : ∀ g n, matchesWord rule.apiGroups g = true →
          matchesName rule.resourceNames n = true →
          matchesWord rule'.apiGroups g = true ∧ matchesName rule'.resourceNames n = true := by
        intro g n hg hn
        have hres' : matchesResource rule.resources ⟨v, g, res, "", n⟩ = true := by
          simp only [matchesResource, List.any_eq_true]
          exact ⟨res, hres, by simp [ResourceRequest.combinedResource]⟩
        have hgranted := h ⟨v, g, res, "", n⟩ ((hgrants _).mpr
          ⟨⟨⟨matchesWord_iff.mpr (Or.inr hv), hg⟩, hres'⟩, hn⟩)
        simp only [grants, Bool.and_eq_true] at hgranted
        exact ⟨hgranted.1.1.2, hgranted.2⟩
      refine Or.inr ⟨fun g hg => (hany g n₀ hg hn₀).1, fun n hn => (hany g₀ n ?_ hn).2⟩
      exact matchesWord_iff.mpr (Or.inr hg₀)
  · intro h r hr
    obtain ⟨⟨⟨hv, hg⟩, hres⟩, hn⟩ := (hgrants r).mp hr
    rcases h with (h | h | h) | ⟨hgroups, hnames⟩
    · simp [h, matchesWord] at hv
    · simp [h, matchesResource] at hres
    · simp [h, matchesWord] at hg
    · simp only [grants, Bool.and_eq_true, ← hverbs, ← hresources]
      exact ⟨⟨⟨hv, hgroups _ hg⟩, hres⟩, hnames _ hn⟩

lemma matchesWord_within_iff {words' : List String} :
    (∀ g, matchesWord words g = true → matchesWord words' g = true) ↔
      "*" ∈ words' ∨ ∀ g ∈ words, g ∈ words' := by
  simp only [matchesWord_iff]
  constructor
  · intro h
    by_cases hstar : "*" ∈ words'
    · exact Or.inl hstar
    · refine Or.inr fun g hg => ?_
      rcases h g (Or.inr hg) with hs | hs
      · exact absurd hs hstar
      · exact hs
  · rintro (h | h) g hg
    · exact Or.inl h
    · rcases hg with hg | hg
      · exact Or.inl (h _ hg)
      · exact Or.inr (h g hg)

lemma matchesName_within_iff {names' : List String} :
    (∀ n, matchesName names n = true → matchesName names' n = true) ↔
      names' = [] ∨ names ≠ [] ∧ ∀ n ∈ names, n ∈ names' := by
  simp only [matchesName_iff]
  constructor
  · intro h
    by_cases hempty : names' = []
    · exact Or.inl hempty
    · refine Or.inr ⟨?_, ?_⟩
      · rintro rfl
        obtain ⟨n, hn⟩ := exists_not_mem names'
        exact (h n (Or.inl rfl)).elim hempty hn
      · intro n hn
        exact (h n (Or.inr hn)).resolve_left hempty
  · rintro (h | ⟨hne, h⟩) n hn
    · exact Or.inl h
    · exact Or.inr (h n (hn.resolve_left hne))

end PolicyRule

section

variable {c : Contract} {crds : List CustomResourceDefinition} {tid : String}

def GroupsKept (crds : List CustomResourceDefinition) (tid : String) (groups : List String) :
    Prop :=
  "*" ∈ groups ∨
  (∀ rest, tenantPrefix tid ++ rest ∈ groups →
    hasGroup crds (tenantPrefix tid ++ rest) = true ∨ rest ∈ groups) ∧
  ∀ g ∈ groups, ¬ Marked (tenantPrefix tid) g →
    hasGroup crds (tenantPrefix tid ++ g) = true → tenantPrefix tid ++ g ∈ groups

def NamesKept (tid : String) (names : List String) : Prop :=
  names = [] ∨
  (∃ n ∈ names, ¬ Marked (tenantPrefix tid) n) ∧
    ∀ n ∈ names, ¬ Marked (tenantPrefix tid) n → tenantPrefix tid ++ n ∈ names

lemma groups_kept_iff (hc : c.Dashes) (groups : List String) :
    ("*" ∈ groups ∨ ∀ g ∈ (groups.map (c.trimTenantIDPrefix tid)).map
        (forwardAPIGroup c crds tid), g ∈ groups) ↔ GroupsKept crds tid groups := by
  refine or_congr_right ?_
  simp only [List.forall_mem_map, forwardAPIGroup, hc.add, hc.trim]
  constructor
  · intro h
    refine ⟨?_, ?_⟩
    · intro rest hrest
      have := h _ hrest
      rw [trim_append] at this
      split_ifs at this with hgroup
      · exact Or.inl hgroup
      · exact Or.inr this
    · intro g hg hnot hgroup
      have := h g hg
      rwa [trim_of_not hnot, if_pos hgroup] at this
  · intro ⟨hmarked, hnot⟩ g hg
    by_cases h : Marked (tenantPrefix tid) g
    · obtain ⟨rest, rfl⟩ := h
      rw [trim_append]
      split_ifs with hgroup
      · exact hg
      · exact (hmarked rest hg).resolve_left hgroup
    · rw [trim_of_not h]
      split_ifs with hgroup
      · exact hnot g hg h hgroup
      · exact hg

lemma filter_eq_unmarked (names : List String) :
    (names.filter fun name => !startsWith name (tenantPrefix tid)) =
      names.filter fun name => ¬ Marked (tenantPrefix tid) name := by
  refine List.filter_congr fun name _ => ?_
  simp [← startsWith_iff]

lemma names_kept_iff (hc : c.Dashes) (names : List String) :
    (names = [] ∨
      let shown := names.filter fun name => !startsWith name (tenantPrefix tid)
      (shown ++ shown.map (c.addTenantIDPrefix tid) ≠ [] ∧
        ∀ n ∈ shown ++ shown.map (c.addTenantIDPrefix tid), n ∈ names)) ↔
      NamesKept tid names := by
  refine or_congr_right ?_
  simp only [filter_eq_unmarked, List.append_eq_nil_iff, List.map_eq_nil_iff, and_self, ne_eq,
    List.filter_eq_nil_iff, List.mem_append, List.mem_map, List.mem_filter, decide_eq_true_eq, hc.add]
  constructor
  · intro ⟨hsome, hall⟩
    push Not at hsome
    exact ⟨hsome, fun n hn hnot => hall _ (Or.inr ⟨n, ⟨hn, hnot⟩, rfl⟩)⟩
  · intro ⟨hsome, hall⟩
    refine ⟨?_, ?_⟩
    · push Not
      exact hsome
    · rintro n (⟨hn, -⟩ | ⟨m, ⟨hm, hnot⟩, rfl⟩)
      · exact hn
      · exact hall m hm hnot

lemma resourceNames_faithful_iff (hc : c.Dashes) (names : List String) :
    ((names ++ names.map (c.addTenantIDPrefix tid)).filter
        fun name => !startsWith name (tenantPrefix tid)) = names ↔
      ∀ n ∈ names, ¬ Marked (tenantPrefix tid) n := by
  have hprefixed : ((names.map (c.addTenantIDPrefix tid)).filter
      fun name => !startsWith name (tenantPrefix tid)) = [] := by
    simp [List.filter_eq_nil_iff, hc.add, startsWith_iff, marked_append]
  rw [List.filter_append, hprefixed]
  simp [← startsWith_iff]

lemma apiGroups_faithful_iff (hc : c.Dashes) (groups : List String) :
    (groups.map (forwardAPIGroup c crds tid)).map (c.trimTenantIDPrefix tid) = groups ↔
      ∀ g ∈ groups, Marked (tenantPrefix tid) g → hasGroup crds (tenantPrefix tid ++ g) = true := by
  have hmap : (groups.map (forwardAPIGroup c crds tid)).map (c.trimTenantIDPrefix tid) =
      groups ↔ ∀ g ∈ groups, Tag.trim (tenantPrefix tid) (forwardAPIGroup c crds tid g) = g := by
    rw [List.map_map]
    conv_lhs => rw [← List.map_id groups, List.map_map, List.map_inj_left]
    simp [hc.trim]
  rw [hmap]
  refine forall₂_congr fun g _ => ?_
  unfold forwardAPIGroup
  rw [hc.add]
  split_ifs with hgroup
  · simp [hgroup]
  · constructor
    · rintro h ⟨rest, rfl⟩
      rw [trim_append] at h
      exact absurd h.symm (append_ne (tenantPrefix_ne tid) rest)
    · intro h
      exact trim_of_not fun hmarked => hgroup (h hmarked)

end

/-- Rules over the two conversions. -/
theorem rules_never_widen_iff {c : Contract} (hc : c.Dashes) (crds : List CustomResourceDefinition)
    (tid : String) :
    (∀ u : PolicyRule,
      (transformRuleToUpstream c crds tid (transformRuleToTenant c tid u)).Within u ↔
        (u.verbs = [] ∨ u.resources = [] ∨ u.apiGroups = []) ∨
        GroupsKept crds tid u.apiGroups ∧ NamesKept tid u.resourceNames) ∧
    ∀ r : PolicyRule, transformRuleToTenant c tid (transformRuleToUpstream c crds tid r) = r ↔
        (∀ n ∈ r.resourceNames, ¬ Marked (tenantPrefix tid) n) ∧
        ∀ g ∈ r.apiGroups, Marked (tenantPrefix tid) g →
          hasGroup crds (tenantPrefix tid ++ g) = true := by
  refine ⟨fun u => ?_, fun r => ?_⟩
  · refine Iff.trans (PolicyRule.within_iff ?_ ?_) ?_
    · rfl
    · rfl
    rw [PolicyRule.matchesWord_within_iff, PolicyRule.matchesName_within_iff]
    simp only [transformRuleToUpstream, transformRuleToTenant, List.map_eq_nil_iff]
    rw [groups_kept_iff hc, ← names_kept_iff hc]
  · rw [PolicyRule.ext_iff, ← resourceNames_faithful_iff hc, ← apiGroups_faithful_iff hc]
    simp only [transformRuleToUpstream, transformRuleToTenant, true_and]
    exact and_comm

theorem rules_never_widen_bothSpellings :
    (transformRuleToUpstream dashContract [] "111111" (transformRuleToTenant dashContract "111111"
      { verbs := ["get"], apiGroups := [""], resources := ["configmaps"]
        resourceNames := ["settings", "111111-settings"] })).Within
      { verbs := ["get"], apiGroups := [""], resources := ["configmaps"]
        resourceNames := ["settings", "111111-settings"] } := by
  refine ((rules_never_widen_iff dashes_dashContract [] "111111").1 _).mpr (Or.inr ⟨?_, ?_⟩)
  · refine Or.inr ⟨?_, ?_⟩
    · intro rest hrest
      exact absurd (List.mem_singleton.mp hrest) (append_ne_empty (tenantPrefix_ne _) rest)
    · intro g _ _ hgroup
      cases hgroup
  · refine Or.inr ⟨⟨"settings", by decide, by decide⟩, ?_⟩
    decide

theorem rules_widen_prefixedName :
    (transformRuleToUpstream dashContract [] "111111" (transformRuleToTenant dashContract "111111"
      { verbs := ["delete"], apiGroups := [""], resources := ["persistentvolumes"]
        resourceNames := ["111111-scratch"] })).grants
      { verb := "delete", apiGroup := "", resource := "persistentvolumes", name := "111111-ledger" } =
        true ∧
    PolicyRule.grants
      { verbs := ["delete"], apiGroups := [""], resources := ["persistentvolumes"]
        resourceNames := ["111111-scratch"] }
      { verb := "delete", apiGroup := "", resource := "persistentvolumes", name := "111111-ledger" } =
        false := by
  decide

end KubeZoo
