import KubeZoo.Proxy.List

/-! # Cursors from anyone -/

namespace KubeZoo

def setVersion (name : String) (v : Json.Value) (version : String) : Option String :=
  match name with
  | "v" => Json.asString version v
  | _ => some version

def tokenVersion (token : String) : Option String :=
  (Json.ofToken token).bind (Json.unmarshal setVersion "")

def upstreamContinueVersion : String := "meta.k8s.io/v1"

variable {token : String}

lemma tokenVersion_of_fanout {c : FanoutContinue}
    (h : (Json.ofToken token).bind (Json.unmarshal FanoutContinue.set {}) = some c) :
    tokenVersion token = some c.apiVersion := by
  obtain ⟨document, hdocument, hread⟩ := Option.bind_eq_some_iff.mp h
  refine Option.bind_eq_some_iff.mpr ⟨document, hdocument, ?_⟩
  refine Json.unmarshal_view FanoutContinue.apiVersion ?_ hread
  intro name v c c' hset
  unfold FanoutContinue.set at hset
  split at hset
  · obtain ⟨s, hs, rfl⟩ := Option.map_eq_some_iff.mp hset
    exact hs
  · obtain ⟨s, -, rfl⟩ := Option.map_eq_some_iff.mp hset
    rfl
  · obtain ⟨i, -, rfl⟩ := Option.map_eq_some_iff.mp hset
    rfl
  · obtain ⟨s, -, rfl⟩ := Option.map_eq_some_iff.mp hset
    rfl
  · next hv _ _ _ =>
    cases hset
    unfold setVersion
    split
    · exact absurd rfl hv
    · rfl

lemma tokenVersion_of_clusterScoped {c : ClusterScopedContinue}
    (h : (Json.ofToken token).bind (Json.unmarshal ClusterScopedContinue.set {}) = some c) :
    tokenVersion token = some c.apiVersion := by
  obtain ⟨document, hdocument, hread⟩ := Option.bind_eq_some_iff.mp h
  refine Option.bind_eq_some_iff.mpr ⟨document, hdocument, ?_⟩
  refine Json.unmarshal_view ClusterScopedContinue.apiVersion ?_ hread
  intro name v c c' hset
  unfold ClusterScopedContinue.set at hset
  split at hset
  · obtain ⟨s, hs, rfl⟩ := Option.map_eq_some_iff.mp hset
    exact hs
  · obtain ⟨s, -, rfl⟩ := Option.map_eq_some_iff.mp hset
    rfl
  · next hv _ =>
    cases hset
    unfold setVersion
    split
    · exact absurd rfl hv
    · rfl

lemma decodeFanoutContinue_ok {c : FanoutContinue} (h : decodeFanoutContinue token = .ok c) :
    c.resourceVersion ≠ "" ∧ 0 ≤ c.namespaceIndex := by
  unfold decodeFanoutContinue at h
  split at h
  · cases h
  · split_ifs at h with hversion hrest
    cases h
    exact ⟨fun hrv => hrest (.inl hrv), by omega⟩

lemma decodeFanoutContinue_refuses (h : tokenVersion token ≠ some fanoutContinueVersion) :
    decodeFanoutContinue token = .error notIssued := by
  unfold decodeFanoutContinue
  split
  · rfl
  · next c hread =>
    rw [tokenVersion_of_fanout hread] at h
    exact if_pos fun hversion => h (congrArg some hversion)

lemma decodeClusterScopedContinue_refuses
    (h : tokenVersion token ≠ some clusterScopedContinueVersion) :
    decodeClusterScopedContinue token = .error notIssued := by
  unfold decodeClusterScopedContinue
  split
  · rfl
  · next c hread =>
    rw [tokenVersion_of_clusterScoped hread] at h
    exact if_pos fun hversion => h (congrArg some hversion)

lemma tokenVersion_encodeFanoutContinue (c : FanoutContinue) :
    tokenVersion (encodeFanoutContinue c) = some fanoutContinueVersion := by
  have hv : Json.foldName "v" = "v" := by decide
  have hrv : Json.foldName "rv" = "rv" := by decide
  have hnsi : Json.foldName "nsi" = "nsi" := by decide
  have hinner : Json.foldName "inner" = "inner" := by decide
  have hne : { c with apiVersion := fanoutContinueVersion }.fields ≠ [] := nofun
  rw [tokenVersion, encodeFanoutContinue, Json.ofToken_token _ hne, Option.bind_some,
    Json.unmarshal, FanoutContinue.fields]
  split_ifs
  · simp [Json.Field.ofString, Json.Field.ofInt, Json.Field.read, hv, hrv, hnsi, setVersion,
      Json.asString]
  · simp [Json.Field.ofString, Json.Field.ofInt, Json.Field.read, hv, hrv, hnsi, hinner, setVersion,
      Json.asString]

lemma tokenVersion_encodeClusterScopedContinue (upstreamToken : String) :
    tokenVersion (encodeClusterScopedContinue upstreamToken) = some clusterScopedContinueVersion :=
  tokenVersion_of_clusterScoped (ClusterScopedContinue.ofToken_fields _)

variable {α : Type}

/-- `namespaces[index]`, where `none` stands for the panic of an index out of range. -/
def indexed (namespaces : List String) (index : Int) : Option String :=
  if index < 0 then none else namespaces[index.toNat]?

/-- The loop of `listAcrossNamespaces` with its index as the source has it. -/
def listIndexed (client : DynamicClient α) (options : ListOptions) (revision : String)
    (namespaces : List String) (index : Int) (gathered : UnstructuredList α) (inner : String)
    (remaining : Int) : Option (Except GoError (UnstructuredList α)) :=
  if index < namespaces.length then
    (indexed namespaces index).bind fun ns =>
      match client.list ns (perNamespace options revision inner remaining) with
      | .error e => some (.error e)
      | .ok page =>
        let gathered := gathered.merge page
        let inner := page.getContinue
        if options.limit ≤ 0 then
          listIndexed client options revision namespaces (index + 1) gathered inner remaining
        else
          let remaining := options.limit - gathered.items.length
          if remaining > 0 then
            listIndexed client options revision namespaces (index + 1) gathered "" remaining
          else
            let next := if inner = "" then index + 1 else index
            if next ≥ namespaces.length ∧ inner = "" then some (.ok (allRead revision gathered))
            else
              let token := encodeFanoutContinue
                { resourceVersion := revision, namespaceIndex := next, inner := inner }
              some (.ok ((gathered.setContinue token).setResourceVersion revision))
  else some (.ok (allRead revision gathered))
termination_by (namespaces.length - index).toNat

/-- `listAcrossNamespaces` with that loop. -/
def listAcrossNamespacesIndexed (client : DynamicClient α) (options : ListOptions)
    (tid : String) : Option (Except GoError (UnstructuredList α)) :=
  match requestCursor options with
  | .error e => some (.error e)
  | .ok cursor =>
    match tenantNamespaces client tid cursor.resourceVersion with
    | .error e => some (.error e)
    | .ok (namespaces, revision) =>
      let revision := if cursor.resourceVersion = "" then revision else cursor.resourceVersion
      if cursor.namespaceIndex > namespaces.length then some (.error pastTheEnd)
      else listIndexed client options revision namespaces cursor.namespaceIndex {} cursor.inner
        options.limit

lemma listIndexed_eq {client : DynamicClient α} {options : ListOptions} {revision : String}
    {namespaces : List String} (rest : List String) :
    ∀ (index : ℕ) (gathered : UnstructuredList α) (inner : String) (remaining : Int),
      namespaces.drop index = rest →
      listIndexed client options revision namespaces index gathered inner remaining =
        some (listFrom client options revision namespaces.length index rest gathered inner
          remaining) := by
  induction rest with
  | nil =>
    intro index gathered inner remaining hdrop
    have hle := List.drop_eq_nil_iff.mp hdrop
    rw [listIndexed, if_neg (by omega)]
    rfl
  | cons ns rest ih =>
    intro index gathered inner remaining hdrop
    have hlt : index < namespaces.length := by
      rw [← not_le, ← List.drop_eq_nil_iff, hdrop]
      exact List.cons_ne_nil _ _
    have hns : namespaces[index]? = some ns := by
      rw [← List.head?_drop, hdrop]
      rfl
    have hrest : namespaces.drop (index + 1) = rest := by
      rw [← List.tail_drop, hdrop, List.tail_cons]
    have hindexed : indexed namespaces index = some ns := by
      rw [indexed, if_neg (by omega), Int.toNat_natCast, hns]
    rw [listIndexed, if_pos (by omega), hindexed, Option.bind_some]
    cases hpage : client.list ns (perNamespace options revision inner remaining) with
    | error e =>
      rw [listFrom, hpage]
    | ok page =>
      have hsucc : (index : Int) + 1 = (index + 1 : ℕ) := rfl
      have hnext : (if page.getContinue = "" then ((index + 1 : ℕ) : Int) else index) =
          (if page.getContinue = "" then index + 1 else index : ℕ) := by
        split_ifs <;> rfl
      rw [listFrom_turn hpage]
      simp only [hsucc, hnext, ih _ _ _ _ hrest, apply_ite some, Nat.cast_le]
      rfl

lemma listAcrossNamespacesIndexed_eq (client : DynamicClient α) (options : ListOptions)
    (tid : String) :
    listAcrossNamespacesIndexed client options tid =
      some (listAcrossNamespaces client options tid) := by
  rw [listAcrossNamespacesIndexed, listAcrossNamespaces_eq_bind]
  cases hcursor : requestCursor options with
  | error e => rfl
  | ok cursor =>
    have h0 : 0 ≤ cursor.namespaceIndex := by
      unfold requestCursor at hcursor
      split_ifs at hcursor
      · exact (decodeFanoutContinue_ok hcursor).2
      · cases hcursor
        exact le_rfl
    simp only [Except.bind]
    cases tenantNamespaces client tid cursor.resourceVersion with
    | error e => rfl
    | ok listed =>
      obtain ⟨index, hindex⟩ := Int.eq_ofNat_of_zero_le h0
      rw [hindex]
      by_cases hpast : (index : Int) > listed.1.length
      · simp only [if_pos hpast]
      · simp only [if_neg hpast]
        exact listIndexed_eq _ index _ _ _ rfl

lemma items_foldl_merge (pages : List (UnstructuredList α)) :
    ∀ gathered : UnstructuredList α, (pages.foldl UnstructuredList.merge gathered).items =
      gathered.items ++ pages.flatMap (·.items) := by
  induction pages with
  | nil =>
    intro gathered
    exact (List.append_nil _).symm
  | cons page pages ih =>
    intro gathered
    rw [List.foldl_cons, ih, List.flatMap_cons, ← List.append_assoc]
    rfl

lemma mem_listAcrossNamespaces {client : DynamicClient α} {options : ListOptions} {tid : String}
    {list : UnstructuredList α} (h : listAcrossNamespaces client options tid = .ok list) :
    ∃ o names revision, o.labelSelector = tenantSelector tid ∧
      client.listNamespaces o = .ok (names, revision) ∧
      ∀ x ∈ list.items, ∃ ns ∈ names, ∃ o' page, client.list ns o' = .ok page ∧ x ∈ page.items := by
  obtain ⟨cursor, namespaces, revision, -, hnamespaces, -, hlist⟩ := listAcrossNamespaces_ok h
  obtain ⟨o, names, ho, hnames, rfl, -⟩ := tenantNamespaces_ok hnamespaces
  refine ⟨o, names, revision, ho, hnames, ?_⟩
  intro x hx
  obtain ⟨pages, token, hreads, rfl⟩ := listFrom_ok _ _ _ _ _ _ hlist
  rw [UnstructuredList.items_setResourceVersion, UnstructuredList.items_setContinue,
    items_foldl_merge, List.nil_append] at hx
  obtain ⟨page, hpage, hx⟩ := List.mem_flatMap.mp hx
  obtain ⟨ns, hns, o', hread⟩ := hreads.mem page hpage
  exact ⟨ns, (sortStrings_perm names).mem_iff.mp (List.mem_of_mem_drop hns), o', page, hread, hx⟩

/-- Cursors are read back, each decoder refuses those of the other and upstream's own, and
whatever continue parameter is sent, a list that is answered is of the tenant's namespaces and was
read with no index out of range. -/
theorem fanout_cursors_robust :
    (∀ c : FanoutContinue, c.resourceVersion ≠ "" → 0 ≤ c.namespaceIndex →
      c.namespaceIndex < 2 ^ 63 → decodeFanoutContinue (encodeFanoutContinue c) =
        .ok { c with apiVersion := fanoutContinueVersion }) ∧
    (∀ upstreamToken,
      decodeClusterScopedContinue (encodeClusterScopedContinue upstreamToken) = .ok upstreamToken ∧
      decodeFanoutContinue (encodeClusterScopedContinue upstreamToken) = .error notIssued) ∧
    (∀ c, decodeClusterScopedContinue (encodeFanoutContinue c) = .error notIssued) ∧
    (∀ token, decodeFanoutContinue token = .error notIssued ∨
      decodeClusterScopedContinue token = .error notIssued) ∧
    (∀ token, tokenVersion token = some upstreamContinueVersion →
      decodeFanoutContinue token = .error notIssued ∧
      decodeClusterScopedContinue token = .error notIssued) ∧
    ∀ (client : DynamicClient α) (options : ListOptions) (tid : String),
      listAcrossNamespacesIndexed client options tid =
        some (listAcrossNamespaces client options tid) ∧
      ∀ list, listAcrossNamespaces client options tid = .ok list →
        ∃ o names revision, o.labelSelector = tenantSelector tid ∧
          client.listNamespaces o = .ok (names, revision) ∧
          ∀ x ∈ list.items, ∃ ns ∈ names, ∃ o' page,
            client.list ns o' = .ok page ∧ x ∈ page.items := by
  refine ⟨fun c => decode_encodeFanoutContinue, fun upstreamToken => ⟨?_, ?_⟩, fun c => ?_,
    fun token => ?_, fun token htoken => ⟨?_, ?_⟩, fun client options tid => ⟨?_, ?_⟩⟩
  · exact decode_encodeClusterScopedContinue upstreamToken
  · refine decodeFanoutContinue_refuses ?_
    rw [tokenVersion_encodeClusterScopedContinue]
    decide
  · refine decodeClusterScopedContinue_refuses ?_
    rw [tokenVersion_encodeFanoutContinue]
    decide
  · by_cases hversion : tokenVersion token = some fanoutContinueVersion
    · refine .inr (decodeClusterScopedContinue_refuses ?_)
      rw [hversion]
      decide
    · exact .inl (decodeFanoutContinue_refuses hversion)
  · refine decodeFanoutContinue_refuses ?_
    rw [htoken]
    decide
  · refine decodeClusterScopedContinue_refuses ?_
    rw [htoken]
    decide
  · exact listAcrossNamespacesIndexed_eq client options tid
  · exact fun list => mem_listAcrossNamespaces

theorem fanout_cursors_robust_sample :
    decodeFanoutContinue (encodeFanoutContinue { resourceVersion := "7", namespaceIndex := 1 }) =
      .ok { apiVersion := "kubezoo/v1", resourceVersion := "7", namespaceIndex := 1 } ∧
    decodeFanoutContinue "eyJ2IjoibWV0YS5rOHMuaW8vdjEiLCJydiI6MTIzLCJzdGFydCI6Ii9wb2RzL3gifQ" =
      .error notIssued := by
  have h := fanout_cursors_robust (α := Unit)
  refine ⟨h.1 _ (by decide) (by decide) (by decide), (h.2.2.2.2.1 _ ?_).1⟩
  decide +kernel

end KubeZoo
