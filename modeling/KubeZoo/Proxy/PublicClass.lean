import KubeZoo.Lib.Table
import KubeZoo.PublishedClass

/-! # The published classes, as tenants read them -/

namespace KubeZoo

namespace LabelledSet

/-- `Names`, where `listed` is what `List` of the store answers. -/
def names (s : LabelledSet) (listed : List (String × StringMap)) : List String :=
  if s.store.isNone || !s.hasSynced then s.static.dedup
  else listed.foldl (fun names o =>
    if (o.2[s.label]?).getD "" = "" ∨ o.1 ∈ names then names else names ++ [o.1]) s.static.dedup

end LabelledSet

/-- The store of an informer, keyed by the names of its objects. One that has no labels to ask for
is there as `none`. -/
abbrev InformerStore := Table (Prod.fst : String × Option StringMap → String)

namespace InformerStore

def getByKey (store : InformerStore) (name : String) : Except GoError (Option (Option StringMap)) :=
  .ok ((store.find? name).map Prod.snd)

/-- What `List` answers, of the objects that `Names` does not skip. -/
def list (store : InformerStore) : List (String × StringMap) :=
  store.rows.filterMap fun o => o.2.map (o.1, ·)

end InformerStore

/-- What upstream has of the kind. -/
structure UpstreamClasses (β : Type) where
  get : String → Option (Object β)
  named : ∀ {name o}, get name = some o → o.metadata.name = name

/-- `publicClassStorage`, at some time. -/
structure PublicClassStorage (β : Type) where
  group : String := ""
  resource : String := ""
  upstream : UpstreamClasses β
  label : String := ""
  store : Option InformerStore := none
  synced : Option Bool := none
  static : List String := []

namespace PublicClassStorage

variable {β : Type} (s : PublicClassStorage β)

def published : LabelledSet :=
  .new s.label (s.store.map InformerStore.getByKey) s.synced s.static

def publishedNames : List String :=
  s.published.names ((s.store.map InformerStore.list).getD [])

def get (name : String) : Except GoError (Object β) :=
  if !s.published.visible name then .error (.status (newNotFound s.group s.resource name))
  else
    match s.upstream.get name with
    | none => .error (.status (newNotFound s.group s.resource name))
    | some o => .ok o

/-- `List`: a name that is not found is left out. -/
def list (_options : ListOptions) : List (Object β) := s.publishedNames.filterMap s.upstream.get

/-- What `Watch` sends. -/
def watch (options : ListOptions) : List (EventType × Object β) :=
  if options.resourceVersion = "" ∨ options.resourceVersion = "0" then
    (s.list options).map fun o => (.added, o)
  else []

end PublicClassStorage

section

variable {label name : String} {names : List String} {listed : List (String × StringMap)}

lemma mem_foldl_names :
    name ∈ listed.foldl (fun names o =>
        if (o.2[label]?).getD "" = "" ∨ o.1 ∈ names then names else names ++ [o.1]) names ↔
      name ∈ names ∨ ∃ o ∈ listed, o.1 = name ∧ (o.2[label]?).getD "" ≠ "" := by
  induction listed generalizing names with
  | nil => simp
  | cons o listed ih =>
    grind

lemma nodup_foldl_names (h : names.Nodup) :
    (listed.foldl (fun names o =>
      if (o.2[label]?).getD "" = "" ∨ o.1 ∈ names then names else names ++ [o.1]) names).Nodup := by
  induction listed generalizing names with
  | nil => exact h
  | cons o listed ih =>
    rw [List.foldl_cons]
    apply ih
    split_ifs with hskip
    · exact h
    · rw [← List.concat_eq_append]
      exact h.concat (not_or.mp hskip).2

end

namespace LabelledSet

variable {s : LabelledSet} {name : String} {listed : List (String × StringMap)}

/-- What `GetByKey` answers of a name is what `List` has of it. -/
def Keyed (s : LabelledSet) (listed : List (String × StringMap)) : Prop :=
  ∀ getByKey, s.store = some getByKey → ∀ name labels,
    getByKey name = .ok (some (some labels)) ↔ (name, labels) ∈ listed

lemma nodup_names : (s.names listed).Nodup := by
  unfold names
  split_ifs
  · exact List.nodup_dedup _
  · exact nodup_foldl_names (List.nodup_dedup _)

lemma any_value_iff (h : s.Keyed listed) (hstore : s.store.isSome = true)
    (hsynced : s.hasSynced = true) :
    (s.value name).any (· ≠ "") = true ↔
      ∃ o ∈ listed, o.1 = name ∧ (o.2[s.label]?).getD "" ≠ "" := by
  obtain ⟨getByKey, hget⟩ := Option.isSome_iff_exists.mp hstore
  have hkeyed := h getByKey hget name
  simp only [value, hget, hsynced, Bool.not_true, Bool.false_eq_true, if_false]
  constructor
  · intro hany
    split at hany
    · cases hany
    · cases hany
    · cases hany
    · next labels hlabels =>
      refine ⟨(name, labels), (hkeyed labels).mp hlabels, rfl, ?_⟩
      cases hvalue : labels[s.label]? <;> simp_all
  · rintro ⟨⟨_, labels⟩, hmem, rfl, hvalue⟩
    rw [(hkeyed labels).mpr hmem]
    show (labels[s.label]?).any _ = true
    cases hlabel : labels[s.label]? <;> simp_all

lemma mem_names_iff (h : s.Keyed listed) : name ∈ s.names listed ↔ s.visible name = true := by
  rw [visible, Bool.or_eq_true, List.contains_iff_mem, names]
  split_ifs with hstatic
  · -- Only the static names are known.
    have hvalue : s.value name = none := by
      unfold value
      cases hstore : s.store with
      | none => rfl
      | some getByKey =>
        rw [hstore] at hstatic
        exact if_pos (by simpa using hstatic)
    simp [hvalue]
  · have hboth : s.store.isSome = true ∧ s.hasSynced = true := by
      simpa [Option.isSome_iff_ne_none] using hstatic
    rw [mem_foldl_names, List.mem_dedup, any_value_iff h hboth.1 hboth.2]

lemma visible_of_retired (h : s.retired name = true) : s.visible name = true := by
  simp only [retired, Bool.and_eq_true, beq_iff_eq] at h
  simp [visible, h.2, publishedDeprecated]

end LabelledSet

namespace InformerStore

lemma getByKey_eq_iff {store : InformerStore} {name : String} {labels : StringMap} :
    store.getByKey name = .ok (some (some labels)) ↔ (name, labels) ∈ store.list := by
  simp only [getByKey, list, Except.ok.injEq, Option.map_eq_some_iff, List.mem_filterMap,
    Table.find?_eq_some_iff, Prod.mk.injEq]
  constructor
  · rintro ⟨o, ⟨ho, rfl⟩, hlabels⟩
    exact ⟨o, ho, labels, hlabels, rfl, rfl⟩
  · rintro ⟨o, ho, _, hlabels, rfl, rfl⟩
    exact ⟨o, ⟨ho, rfl⟩, hlabels⟩

lemma keyed_new (label : String) (store : Option InformerStore) (synced : Option Bool)
    (static : List String) :
    (LabelledSet.new label (store.map getByKey) synced static).Keyed
      ((store.map list).getD []) := by
  intro getByKey hget name labels
  obtain ⟨store, rfl, rfl⟩ := Option.map_eq_some_iff.mp hget
  exact getByKey_eq_iff

end InformerStore

/-- The names a set lists are those it shows, each once, and it shows what it has retired. -/
theorem publication_tests_agree (label : String) (store : Option InformerStore)
    (synced : Option Bool) (static : List String) (name : String) :
    let s := LabelledSet.new label (store.map InformerStore.getByKey) synced static
    let names := s.names ((store.map InformerStore.list).getD [])
    (s.visible name = true ↔ name ∈ names) ∧ names.Nodup ∧
      (s.retired name = true → s.visible name = true) :=
  ⟨(LabelledSet.mem_names_iff (InformerStore.keyed_new label store synced static)).symm,
    LabelledSet.nodup_names, LabelledSet.visible_of_retired⟩

namespace PublicClassStorage

variable {β : Type} {s : PublicClassStorage β} {name : String} {o : Object β}

lemma nodup_publishedNames : s.publishedNames.Nodup := LabelledSet.nodup_names

lemma mem_publishedNames : name ∈ s.publishedNames ↔ s.published.visible name = true :=
  LabelledSet.mem_names_iff (InformerStore.keyed_new _ _ _ _)

lemma get_eq_ok_iff :
    s.get name = .ok o ↔ s.published.visible name = true ∧ s.upstream.get name = some o := by
  unfold get
  cases s.published.visible name <;> cases s.upstream.get name <;> simp

lemma mem_list {options : ListOptions} : o ∈ s.list options ↔ s.get o.metadata.name = .ok o := by
  rw [list, List.mem_filterMap, get_eq_ok_iff, ← mem_publishedNames]
  constructor
  · rintro ⟨name, hname, ho⟩
    obtain rfl := s.upstream.named ho
    exact ⟨hname, ho⟩
  · rintro ⟨hname, ho⟩
    exact ⟨_, hname, ho⟩

lemma nodup_list (options : ListOptions) : (s.list options).Nodup :=
  nodup_publishedNames.filterMap fun _ _ _ h h' => (s.upstream.named h).symm.trans (s.upstream.named h')

/-- The objects are, without duplicates, those that exist, that can be got and that the request
selects. -/
def Exact (s : PublicClassStorage β) (selects : Object β → Bool) (os : List (Object β)) : Prop :=
  os.Nodup ∧ ∀ o, o ∈ os ↔ (s.upstream.get o.metadata.name = some o ∧
    s.get o.metadata.name = .ok o) ∧ selects o = true

lemma exact_list_iff {options : ListOptions} {selects : Object β → Bool} :
    s.Exact selects (s.list options) ↔ ∀ name o, s.get name = .ok o → selects o = true := by
  unfold Exact
  simp only [nodup_list, true_and, mem_list]
  constructor
  · intro h name o ho
    obtain rfl := s.upstream.named (get_eq_ok_iff.mp ho).2
    exact ((h o).mp ho).2
  · intro h o
    exact ⟨fun ho => ⟨⟨(get_eq_ok_iff.mp ho).2, ho⟩, h _ o ho⟩, fun ho => ho.1.2⟩

/-- A list, and a watch without a resource version, is what the request selects of what can be got,
exactly if the request selects all of it: `List` reads no selector. -/
theorem publicClass_reads_agree_iff (s : PublicClassStorage β)
    (selects : ListOptions → Object β → Bool) (options : ListOptions) :
    (s.Exact (selects options) (s.list options) ∧
      (options.resourceVersion = "" → ∃ os, s.watch options = os.map (fun o => (.added, o)) ∧
        s.Exact (selects options) os)) ↔
    ∀ name o, s.get name = .ok o → selects options o = true := by
  rw [← @exact_list_iff _ s options]
  refine ⟨And.left, fun h => ⟨h, fun hrv => ⟨s.list options, ?_, h⟩⟩⟩
  exact if_pos (.inl hrv)

def twoClasses : PublicClassStorage Unit where
  upstream :=
    { get := fun name =>
        if name = "gold" ∨ name = "silver" then some { metadata := { name := name }, body := () }
        else none
      named := by
        intro name o h
        split_ifs at h
        exact Option.some.inj h ▸ rfl }
  static := ["gold", "silver"]

theorem publicClass_list_ignores_selectors :
    (twoClasses.list { fieldSelector := "metadata.name=gold" }).map (fun o => o.metadata.name)
      = ["gold", "silver"] := by decide

end PublicClassStorage

end KubeZoo
