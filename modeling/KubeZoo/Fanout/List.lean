import KubeZoo.Fanout.Cursor
import KubeZoo.Lib.Except
import KubeZoo.Lib.Paging
import Mathlib.Data.List.Sort
import Mathlib.Data.String.Basic

/-! # Lists across a tenant's namespaces -/

namespace KubeZoo

structure DynamicClient (α : Type) where
  listNamespaces : ListOptions → Except GoError (List String × String)
  list : String → ListOptions → Except GoError (UnstructuredList α)

def tenantNamespaceLabelKey : String := "kubezoo.io/tenant"

def maxFannedNamespaces : ℕ := 500

def sortStrings (names : List String) : List String := names.insertionSort (· ≤ ·)

lemma sortStrings_perm (names : List String) : (sortStrings names).Perm names :=
  List.perm_insertionSort _ _

def tenantSelector (tid : String) : String := tenantNamespaceLabelKey ++ "=" ++ tid

def tooManyNamespaces (n : ℕ) : GoError :=
  .status (newBadRequest ("listing across " ++ toString n ++
    " namespaces at once is more than this server will do (limit " ++
    toString maxFannedNamespaces ++ "); narrow the request to one namespace"))

variable {α : Type}

def tenantNamespaces (client : DynamicClient α) (tid atRevision : String) :
    Except GoError (List String × String) := do
  let options : ListOptions := { labelSelector := tenantSelector tid }
  let options := if atRevision ≠ "" then
    { options with resourceVersion := atRevision, resourceVersionMatch := resourceVersionMatchExact }
    else options
  let (names, revision) ← client.listNamespaces options
  if names.length > maxFannedNamespaces then
    throw (tooManyNamespaces names.length)
  return (sortStrings names, revision)

section

variable {pages : List (UnstructuredList α)} {ns tid : String} {count : ℕ}
  {client : DynamicClient α}

lemma tenantNamespaces_ok {atRevision : String} {listed : List String × String}
    (h : tenantNamespaces client tid atRevision = .ok listed) :
    ∃ o names, o.labelSelector = tenantSelector tid ∧
      client.listNamespaces o = .ok (names, listed.2) ∧ listed.1 = sortStrings names ∧
      names.length ≤ maxFannedNamespaces := by
  obtain ⟨⟨names, revision⟩, hnames, h⟩ := Except.bind_eq_ok_iff.mp h
  simp only at h
  split_ifs at h with hmany
  all_goals cases h
  refine ⟨_, names, ?_, hnames, rfl, by omega⟩
  split_ifs <;> rfl

/-- The options of one read. The apiserver refuses a continue token alongside a
`resourceVersionMatch`; the token carries the revision it was issued at. -/
def perNamespace (options : ListOptions) (revision inner : String) (remaining : Int) :
    ListOptions :=
  let o := { options with «continue» := inner }
  let o := if inner = "" then
      { o with resourceVersion := revision, resourceVersionMatch := resourceVersionMatchExact }
    else { o with resourceVersion := "", resourceVersionMatch := "" }
  if options.limit > 0 then { o with limit := remaining } else o

def allRead (revision : String) (gathered : UnstructuredList α) : UnstructuredList α :=
  (gathered.setContinue "").setResourceVersion revision

/-- The loop over the namespaces from `index` on; `count` is how many there are in all. -/
def listFrom (client : DynamicClient α) (options : ListOptions) (revision : String) (count : ℕ) :
    ℕ → List String → UnstructuredList α → String → Int → Except GoError (UnstructuredList α)
  | _, [], gathered, _, _ => .ok (allRead revision gathered)
  | index, ns :: rest, gathered, inner, remaining =>
    match client.list ns (perNamespace options revision inner remaining) with
    | .error e => .error e
    | .ok page =>
      let gathered : UnstructuredList α :=
        { object := gathered.object.orElse fun _ => page.object,
          items := gathered.items ++ page.items }
      let inner := page.getContinue
      if options.limit ≤ 0 then
        listFrom client options revision count (index + 1) rest gathered inner remaining
      else
        let remaining := options.limit - gathered.items.length
        if remaining > 0 then
          -- The source takes the namespace for exhausted here, whatever `inner` says.
          listFrom client options revision count (index + 1) rest gathered "" remaining
        else
          let next := if inner = "" then index + 1 else index
          if next ≥ count ∧ inner = "" then .ok (allRead revision gathered)
          else
            let token := encodeFanoutContinue
              { resourceVersion := revision, namespaceIndex := next, inner := inner }
            .ok ((gathered.setContinue token).setResourceVersion revision)

def UnstructuredList.merge (gathered page : UnstructuredList α) : UnstructuredList α where
  object := gathered.object.orElse fun _ => page.object
  items := gathered.items ++ page.items

variable {remaining : Int} {rest : List String} {options : ListOptions} {inner revision : String}

lemma listFrom_turn {index : ℕ} {gathered page : UnstructuredList α}
    (h : client.list ns (perNamespace options revision inner remaining) = .ok page) :
    listFrom client options revision count index (ns :: rest) gathered inner remaining =
      if options.limit ≤ 0 then
        listFrom client options revision count (index + 1) rest (gathered.merge page)
          page.getContinue remaining
      else if options.limit - (gathered.items ++ page.items).length > 0 then
        listFrom client options revision count (index + 1) rest (gathered.merge page) ""
          (options.limit - (gathered.items ++ page.items).length)
      else if (if page.getContinue = "" then index + 1 else index) ≥ count ∧
          page.getContinue = "" then
        .ok (allRead revision (gathered.merge page))
      else .ok (((gathered.merge page).setContinue (encodeFanoutContinue
        { resourceVersion := revision,
          namespaceIndex := (if page.getContinue = "" then index + 1 else index : ℕ),
          inner := page.getContinue })).setResourceVersion revision) := by
  simp only [listFrom, h]
  rfl

/-- The pages that a loop over `rest` reads, in order. -/
inductive ReadsPages (client : DynamicClient α) (options : ListOptions) (revision : String) :
    List String → String → Int → List (UnstructuredList α) → Prop
  | done {inner : String} {remaining : Int} :
      ReadsPages client options revision [] inner remaining []
  | stop {ns inner : String} {rest : List String} {remaining : Int} {page : UnstructuredList α}
      (h : client.list ns (perNamespace options revision inner remaining) = .ok page) :
      ReadsPages client options revision (ns :: rest) inner remaining [page]
  | next {ns inner inner' : String} {rest : List String} {remaining remaining' : Int}
      {page : UnstructuredList α} {pages : List (UnstructuredList α)}
      (h : client.list ns (perNamespace options revision inner remaining) = .ok page)
      (hrest : ReadsPages client options revision rest inner' remaining' pages) :
      ReadsPages client options revision (ns :: rest) inner remaining (page :: pages)

lemma ReadsPages.mem (h : ReadsPages client options revision rest inner remaining pages) :
    ∀ page ∈ pages, ∃ ns ∈ rest, ∃ o, client.list ns o = .ok page := by
  induction h with
  | done => exact nofun
  | stop h =>
    intro page hpage
    rw [List.mem_singleton.mp hpage]
    exact ⟨_, List.mem_cons_self, _, h⟩
  | next h _ ih =>
    intro page hpage
    rcases List.mem_cons.mp hpage with rfl | hpage
    · exact ⟨_, List.mem_cons_self, _, h⟩
    · obtain ⟨ns, hns, hread⟩ := ih page hpage
      exact ⟨ns, List.mem_cons_of_mem _ hns, hread⟩

lemma ReadsPages.first (h : ReadsPages client options revision (ns :: rest) inner remaining pages) :
    ∃ page more, pages = page :: more ∧
      client.list ns (perNamespace options revision inner remaining) = .ok page := by
  cases h with
  | stop h => exact ⟨_, [], rfl, h⟩
  | next h _ => exact ⟨_, _, rfl, h⟩

lemma listFrom_ok (rest : List String) :
    ∀ (index : ℕ) (gathered list : UnstructuredList α) (inner : String) (remaining : Int),
      listFrom client options revision count index rest gathered inner remaining = .ok list →
      ∃ pages token, ReadsPages client options revision rest inner remaining pages ∧
        list = ((pages.foldl UnstructuredList.merge gathered).setContinue token).setResourceVersion
          revision := by
  induction rest with
  | nil =>
    intro index gathered list inner remaining h
    cases h
    exact ⟨[], "", .done, rfl⟩
  | cons ns rest ih =>
    intro index gathered list inner remaining h
    cases hpage : client.list ns (perNamespace options revision inner remaining) with
    | error e =>
      rw [listFrom, hpage] at h
      cases h
    | ok page =>
      rw [listFrom_turn hpage] at h
      generalize (if page.getContinue = "" then index + 1 else index) = next at h
      split_ifs at h
      · obtain ⟨pages, token, hreads, rfl⟩ := ih _ _ _ _ _ h
        exact ⟨page :: pages, token, .next hpage hreads, rfl⟩
      · obtain ⟨pages, token, hreads, rfl⟩ := ih _ _ _ _ _ h
        exact ⟨page :: pages, token, .next hpage hreads, rfl⟩
      · cases h
        exact ⟨[page], "", .stop hpage, rfl⟩
      · cases h
        exact ⟨[page], _, .stop hpage, rfl⟩

def pastTheEnd : GoError :=
  .status (newBadRequest "the continue parameter points past the end of this tenant's namespaces")

def listAcrossNamespaces (client : DynamicClient α) (options : ListOptions) (tid : String) :
    Except GoError (UnstructuredList α) := do
  let cursor ← if options.continue ≠ "" then decodeFanoutContinue options.continue else .ok {}
  let (namespaces, revision) ← tenantNamespaces client tid cursor.resourceVersion
  let revision := if cursor.resourceVersion = "" then revision else cursor.resourceVersion
  if cursor.namespaceIndex > namespaces.length then
    throw pastTheEnd
  let index := cursor.namespaceIndex.toNat
  listFrom client options revision namespaces.length index (namespaces.drop index) {} cursor.inner
    options.limit

def requestCursor (options : ListOptions) : Except GoError FanoutContinue :=
  if options.continue ≠ "" then decodeFanoutContinue options.continue else .ok {}

lemma listAcrossNamespaces_eq_bind (client : DynamicClient α) (options : ListOptions)
    (tid : String) :
    listAcrossNamespaces client options tid = (requestCursor options).bind fun cursor =>
      (tenantNamespaces client tid cursor.resourceVersion).bind fun listed =>
        if cursor.namespaceIndex > listed.1.length then .error pastTheEnd
        else listFrom client options
          (if cursor.resourceVersion = "" then listed.2 else cursor.resourceVersion)
          listed.1.length cursor.namespaceIndex.toNat
          (listed.1.drop cursor.namespaceIndex.toNat) {} cursor.inner options.limit := by
  unfold listAcrossNamespaces requestCursor
  by_cases hfirst : options.continue ≠ ""
  · rw [if_pos hfirst]
    simp only [if_pos hfirst]
    rfl
  · rw [if_neg hfirst]
    simp only [if_neg hfirst]
    rfl

lemma listAcrossNamespaces_ok {list : UnstructuredList α}
    (h : listAcrossNamespaces client options tid = .ok list) :
    ∃ cursor namespaces listed, requestCursor options = .ok cursor ∧
      tenantNamespaces client tid cursor.resourceVersion = .ok (namespaces, listed) ∧
      cursor.namespaceIndex ≤ namespaces.length ∧
      listFrom client options
        (if cursor.resourceVersion = "" then listed else cursor.resourceVersion)
        namespaces.length cursor.namespaceIndex.toNat
        (namespaces.drop cursor.namespaceIndex.toNat) {} cursor.inner options.limit = .ok list := by
  rw [listAcrossNamespaces_eq_bind] at h
  obtain ⟨cursor, hcursor, h⟩ := Except.bind_eq_ok_iff.mp h
  obtain ⟨⟨namespaces, listed⟩, hlisted, h⟩ := Except.bind_eq_ok_iff.mp h
  by_cases hpast : cursor.namespaceIndex > namespaces.length
  · rw [if_pos hpast] at h
    cases h
  · rw [if_neg hpast] at h
    exact ⟨cursor, namespaces, listed, hcursor, hlisted, by omega, h⟩

end

def follow (client : DynamicClient α) (tid : String) (options : ListOptions) :
    ℕ → Except GoError (Option (List (List α)))
  | 0 => .ok none
  | fuel + 1 => do
    let page ← listAcrossNamespaces client options tid
    if page.getContinue = "" then
      return some [page.items]
    let pages ← follow client tid { options with «continue» := page.getContinue } fuel
    return pages.map (page.items :: ·)

/-- What upstream holds at a revision, and how it pages through it. `size` is how many of the
items at a position it returns to a request with a limit: the contract lets it return fewer than
asked for. It gives a cursor exactly when items remain. -/
structure Snapshot (α : Type) where
  revision : String
  namespaces : String → List String
  objects : String → List α
  size : String → ℕ → ℕ → ℕ
  token : String → ℕ → String
  position : String → String → ℕ
  revision_ne : revision ≠ ""
  nodup : ∀ selector, (namespaces selector).Nodup
  token_ne : ∀ ns p, token ns p ≠ ""
  position_token : ∀ ns p, position ns (token ns p) = p

namespace Snapshot

variable (S : Snapshot α)

def source : Paging.Source String α := { items := S.objects, size := S.size }

def page (ns : String) (p : ℕ) (limit : Int) : UnstructuredList α :=
  let items := if 0 < limit then S.source.page ⟨[ns], p, limit.toNat⟩ else (S.objects ns).drop p
  let stop := p + items.length
  let token := if stop < (S.objects ns).length then S.token ns stop else ""
  { object := some { resourceVersion := S.revision, «continue» := token }, items := items }

def list (ns : String) (options : ListOptions) : Except GoError (UnstructuredList α) :=
  if options.continue = "" then
    if options.resourceVersion = S.revision ∧
        options.resourceVersionMatch = resourceVersionMatchExact then
      .ok (S.page ns 0 options.limit)
    else .error (.status (newResourceExpired "the requested revision is not this one"))
  else if options.resourceVersion = "" ∧ options.resourceVersionMatch = "" then
    .ok (S.page ns (S.position ns options.continue) options.limit)
  else
    .error (.status (newBadRequest "resourceVersionMatch is forbidden when continue is provided"))

def listNamespaces (options : ListOptions) : Except GoError (List String × String) :=
  if options.resourceVersion = "" ∨ options.resourceVersion = S.revision ∧
      options.resourceVersionMatch = resourceVersionMatchExact then
    .ok (S.namespaces options.labelSelector, S.revision)
  else .error (.status (newResourceExpired "the requested revision is not this one"))

def client : DynamicClient α := { listNamespaces := S.listNamespaces, list := S.list }

def tenantNames (tid : String) : List String :=
  sortStrings (S.namespaces (tenantSelector tid))

def everything (tid : String) : List α := (S.tenantNames tid).flatMap S.objects

end Snapshot

end KubeZoo
