import KubeZoo.Proxy.List

/-! # What a cluster-scoped list says about the others -/

namespace KubeZoo

variable {β : Type}

structure ClusterState (β : Type) where
  revision : String
  objects : List (Object β)
  sorted : objects.Pairwise fun a b => a.metadata.name < b.metadata.name

structure NativeList (β : Type) where
  token : String → String → String
  start : String → Option (String × String)
  selects : ListOptions → Object β → Bool
  header : ListObject := {}
  token_ne : ∀ revision name, token revision name ≠ ""
  start_token : ∀ revision name, start (token revision name) = some (revision, name)

structure Window (β : Type) where
  items : List (Object β)
  stop : Option String
  remaining : ℕ

namespace NativeList

variable (n : NativeList β) (s : ClusterState β)

def range (options : ListOptions) : Except GoError (List (Object β)) :=
  if options.continue = "" then .ok s.objects
  else
    match n.start options.continue with
    | none => .error (.status (newBadRequest "continue key is not valid"))
    | some (revision, name) =>
      if revision ≠ s.revision then
        .error (.status (newResourceExpired "The provided continue parameter is too old"))
      else .ok (s.objects.filter fun o => name < o.metadata.name)

/-- Whether a request reads an object, if its window goes on that far. -/
def reads (options : ListOptions) (o : Object β) : Bool :=
  (options.continue = "" ||
    (n.start options.continue).any fun r => decide (r.2 < o.metadata.name)) && n.selects options o

def cut (limit : Int) (selected : List (Object β)) : Window β :=
  if limit ≤ 0 then ⟨selected, none, 0⟩
  else
    let items := selected.take limit.toNat
    if selected.length ≤ limit.toNat then ⟨items, none, 0⟩
    else ⟨items, items.getLast?.map fun o => o.metadata.name, selected.length - limit.toNat⟩

def window (options : ListOptions) : Except GoError (Window β) :=
  (n.range s options).map fun objects => cut options.limit (objects.filter (n.selects options))

/-- Whether an object is not behind the name where a window stops. -/
def within (stop : Option String) (o : Object β) : Bool :=
  stop.all fun name => !decide (name < o.metadata.name)

def cursor (revision : String) (stop : Option String) : String :=
  match stop with
  | none => ""
  | some name => n.token revision name

def tenantCursor (revision : String) (stop : Option String) : String :=
  match stop with
  | none => ""
  | some name => encodeClusterScopedContinue (n.token revision name)

def answer (w : Window β) : UnstructuredList (Object β) :=
  { object := some { n.header with
      resourceVersion := s.revision
      «continue» := n.cursor s.revision w.stop
      remainingItemCount := if w.stop.isSome then some w.remaining else none }
    items := w.items }

def client : DynamicClient (Object β) where
  listNamespaces := fun _ => .ok ([], s.revision)
  list := fun _ options => (n.window s options).map (n.answer s)

end NativeList

namespace TenantProxy

variable (tp : TenantProxy β)

def kept (tid : String) (items : List (Object β)) : List (Object β) :=
  items.filter fun o => tp.contract.keeps tid tp.namespaceScoped o.metadata

def own (tid : String) (items : List (Object β)) : List (Object β) :=
  if !tp.hideProjected then tp.kept tid items
  else (tp.kept tid items).filter fun o => !tp.contract.isManagedBindingName o.metadata.name

def shown (ctx : RequestContext) (tid : String) (items : List (Object β)) :
    Except GoError (List (Object β)) := do
  let items ← (tp.own tid items).mapM (tp.convertItem ctx tid)
  if tp.unstructured then return items else tp.listFromVersioned items

def asked (ctx : RequestContext) (options : ListOptions) : Except GoError (String × ListOptions) := do
  let (tid, proxyOptions) ← tp.listOptions ctx options
  let (_, proxyOptions) ← tp.scopedRead ctx proxyOptions
  return (tid, proxyOptions)

structure Alike (tid : String) (s₁ s₂ : ClusterState β) : Prop where
  revision : s₁.revision = s₂.revision
  objects : List.Forall₂ (fun a b =>
    (tp.contract.keeps tid tp.namespaceScoped a.metadata ∨
      tp.contract.keeps tid tp.namespaceScoped b.metadata) → a = b) s₁.objects s₂.objects

def pageHeader (n : NativeList β) (tid revision : String) (stop : Option String) :
    ListObject :=
  let o : ListObject := { n.header with
    resourceVersion := revision
    «continue» := n.tenantCursor revision stop
    remainingItemCount := none }
  if !tp.isCustomResource then o
  else { o with apiVersion := tp.contract.trimTenantIDPrefix tid o.apiVersion }

def page (n : NativeList β) (ctx : RequestContext) (tid revision : String) (w : Window β) :
    Except GoError (UnstructuredList (Object β)) :=
  (tp.shown ctx tid w.items).map fun items =>
    { object := some (tp.pageHeader n tid revision w.stop), items := items }

variable {tp}

lemma tenantCursor_injective (n : NativeList β) (revision : String) :
    Function.Injective (n.tenantCursor revision) := by
  intro stop₁ stop₂ h
  cases stop₁ with
  | none =>
    cases stop₂ with
    | none => rfl
    | some name => exact absurd h.symm (encodeClusterScopedContinue_ne _)
  | some name₁ =>
    cases stop₂ with
    | none => exact absurd h (encodeClusterScopedContinue_ne _)
    | some name₂ =>
      have htoken := encodeClusterScopedContinue_injective h
      have hstart := n.start_token revision name₁
      rw [htoken, n.start_token] at hstart
      rw [(Prod.mk.inj (Option.some.inj hstart)).2]

lemma pageHeader_injective (n : NativeList β) (tid revision : String) :
    Function.Injective (tp.pageHeader n tid revision) := by
  intro stop₁ stop₂ h
  have hget : ∀ stop, (tp.pageHeader n tid revision stop).continue =
      n.tenantCursor revision stop := by
    intro stop
    simp only [pageHeader]
    split_ifs <;> rfl
  have hcontinue := congrArg ListObject.continue h
  rw [hget, hget] at hcontinue
  exact tenantCursor_injective n revision hcontinue

lemma hideUpstreamListCursor_answer (n : NativeList β) (s : ClusterState β) (tid : String)
    (w : Window β) :
    hideUpstreamListCursor (tp.filterUnstructuredList (n.answer s w) tid) =
      { object := some { n.header with
          resourceVersion := s.revision
          «continue» := n.tenantCursor s.revision w.stop
          remainingItemCount := none }
        items := tp.kept tid w.items } := by
  cases hstop : w.stop with
  | none =>
    simp only [NativeList.answer, hstop]
    rfl
  | some name =>
    simp only [hideUpstreamListCursor, filterUnstructuredList, NativeList.answer,
      NativeList.cursor, hstop, Option.map_some, UnstructuredList.getContinue,
      if_neg (n.token_ne _ _)]
    rfl

lemma finishList_answer (n : NativeList β) (s : ClusterState β) (ctx : RequestContext)
    (tid : String) (w : Window β) :
    tp.finishList ctx tid (hideUpstreamListCursor (tp.filterUnstructuredList (n.answer s w) tid)) =
      tp.page n ctx tid s.revision w := by
  have hown : ∀ o : ListObject,
      tp.hideProjections { object := some o, items := tp.kept tid w.items } =
        { object := some o, items := tp.own tid w.items } := by
    intro o
    simp only [hideProjections, own]
    split_ifs <;> rfl
  rw [hideUpstreamListCursor_answer, finishList, hown, page, shown]
  cases hitems : (tp.own tid w.items).mapM (tp.convertItem ctx tid) with
  | error e => simp only [bind, Except.bind, Except.map]
  | ok items =>
    have htrim : tp.trimAPIVersion
        { object := some { n.header with
            resourceVersion := s.revision
            «continue» := n.tenantCursor s.revision w.stop
            remainingItemCount := none }
          items := items } tid =
        { object := some (tp.pageHeader n tid s.revision w.stop), items := items } := by
      simp only [trimAPIVersion, pageHeader]
      split_ifs <;> rfl
    simp only [bind, Except.bind]
    rw [htrim, convertUnstructuredListToOutput]
    split_ifs <;> rfl

lemma list_clusterScoped (hscope : tp.namespaceScoped = false) (n : NativeList β)
    (s : ClusterState β) (ctx : RequestContext) (options : ListOptions) :
    tp.list (n.client s) ctx options = (tp.asked ctx options).bind fun r =>
      ((n.window s r.2).mapError fun e => tp.contract.trimTenantIDFromError e r.1).bind
        (tp.page n ctx r.1 s.revision) := by
  have hfan : tp.shouldFanOut ctx = false := by simp only [shouldFanOut, hscope, Bool.not_false,
    if_true]
  rw [TenantProxy.list, asked]
  cases hoptions : tp.listOptions ctx options with
  | error e => rfl
  | ok r =>
    simp only [bind, Except.bind, hfan]
    cases hread : tp.scopedRead ctx r.2 with
    | error e => rfl
    | ok o =>
      simp only [NativeList.client, hscope, Bool.not_false, if_true, pure, Except.pure]
      cases n.window s o.2 with
      | error e => rfl
      | ok w => exact finishList_answer n s ctx r.1 w

lemma page_eq_iff (n : NativeList β) (ctx : RequestContext) (tid revision : String)
    (w₁ w₂ : Window β) :
    tp.page n ctx tid revision w₁ = tp.page n ctx tid revision w₂ ↔
      tp.shown ctx tid w₁.items = tp.shown ctx tid w₂.items ∧
      ((∃ items, tp.shown ctx tid w₁.items = .ok items) → w₁.stop = w₂.stop) := by
  rw [page, page]
  cases h₁ : tp.shown ctx tid w₁.items with
  | error e₁ =>
    cases h₂ : tp.shown ctx tid w₂.items with
    | error e₂ => simp [Except.map]
    | ok items₂ => simp [Except.map]
  | ok items₁ =>
    cases h₂ : tp.shown ctx tid w₂.items with
    | error e₂ => simp [Except.map]
    | ok items₂ =>
      simp only [Except.map, Except.ok.injEq, UnstructuredList.mk.injEq, Option.some.injEq,
        (pageHeader_injective n tid revision).eq_iff, exists_eq', forall_const]
      exact and_comm

variable {s₁ s₂ : ClusterState β} {tid : String}

lemma window_cases (n : NativeList β) (h : s₁.revision = s₂.revision) (o : ListOptions) :
    (∃ w₁ w₂, n.window s₁ o = .ok w₁ ∧ n.window s₂ o = .ok w₂) ∨
      ∃ e, n.window s₁ o = .error e ∧ n.window s₂ o = .error e := by
  simp only [NativeList.window, NativeList.range, h]
  by_cases hfirst : o.continue = ""
  · simp only [if_pos hfirst]
    exact .inl ⟨_, _, rfl, rfl⟩
  simp only [if_neg hfirst]
  cases n.start o.continue with
  | none => exact .inr ⟨_, rfl, rfl⟩
  | some r =>
    by_cases hrev : r.1 ≠ s₂.revision
    · simp only [if_pos hrev]
      exact .inr ⟨_, rfl, rfl⟩
    · simp only [if_neg hrev]
      exact .inl ⟨_, _, rfl, rfl⟩

lemma kept_eq_of_forall₂ {objects₁ objects₂ : List (Object β)} (h : List.Forall₂ (fun a b =>
      (tp.contract.keeps tid tp.namespaceScoped a.metadata ∨
        tp.contract.keeps tid tp.namespaceScoped b.metadata) → a = b) objects₁ objects₂) :
    tp.kept tid objects₁ = tp.kept tid objects₂ := by
  induction h with
  | nil => rfl
  | @cons a b objects₁ objects₂ hab h ih =>
    simp only [kept, List.filter_cons] at ih ⊢
    by_cases ha : tp.contract.keeps tid tp.namespaceScoped a.metadata
    · have hb := hab (.inl ha)
      rw [← hb, if_pos ha, if_pos ha, ih]
    by_cases hb : tp.contract.keeps tid tp.namespaceScoped b.metadata
    · exact absurd (hab (.inr hb) ▸ hb) ha
    · rw [if_neg ha, if_neg hb, ih]

lemma within_some {name : String} {o : Object β} :
    NativeList.within (some name) o = true ↔ ¬ name < o.metadata.name := by
  rw [NativeList.within, Option.all_some, Bool.not_eq_true', decide_eq_false_iff_not]

/-- The first objects of a sorted list are those that are not behind the last of them. -/
lemma cut_items (limit : Int) {selected : List (Object β)}
    (hsorted : selected.Pairwise fun a b => a.metadata.name < b.metadata.name) :
    (NativeList.cut limit selected).items =
      selected.filter (NativeList.within (NativeList.cut limit selected).stop) := by
  unfold NativeList.cut
  split_ifs with hlimit hlength
  · exact (List.filter_eq_self.2 fun _ _ => rfl).symm
  · rw [List.take_of_length_le hlength]
    exact (List.filter_eq_self.2 fun _ _ => rfl).symm
  · have hne : selected.take limit.toNat ≠ [] := by
      rw [Ne, List.take_eq_nil_iff]
      rintro (hzero | rfl)
      · omega
      · simp at hlength
    obtain ⟨before, last, htake⟩ := (List.eq_nil_or_concat' _).resolve_left hne
    have hsplit := List.take_append_drop limit.toNat selected
    simp only [htake, List.getLast?_concat, Option.map_some]
    rw [htake] at hsplit
    rw [← hsplit] at hsorted ⊢
    obtain ⟨hfront, -, hacross⟩ := List.pairwise_append.mp hsorted
    have hbefore := (List.pairwise_append.mp hfront).2.2
    rw [List.filter_append, List.filter_eq_self.2, List.filter_eq_nil_iff.2, List.append_nil]
    · intro o ho
      rw [within_some, not_not]
      exact hacross last (by simp) o ho
    · intro o ho
      rw [within_some]
      obtain ho | rfl := by simpa using ho
      · exact (hbefore o ho last (by simp)).asymm
      · exact lt_irrefl _

/-- The window of a request has the objects that are read and that do not lie behind its stop. -/
lemma window_items {n : NativeList β} {s : ClusterState β} {o : ListOptions} {w : Window β}
    (h : n.window s o = .ok w) :
    w.items = (s.objects.filter (n.reads o)).filter (NativeList.within w.stop) := by
  have hwindow : w = NativeList.cut o.limit (s.objects.filter (n.reads o)) := by
    unfold NativeList.window NativeList.range at h
    by_cases hfirst : o.continue = ""
    · rw [if_pos hfirst] at h
      have hreads : n.reads o = n.selects o := by
        funext obj
        simp [NativeList.reads, hfirst]
      rw [← Except.ok.inj h, hreads]
    rw [if_neg hfirst] at h
    cases hstart : n.start o.continue with
    | none =>
      rw [hstart] at h
      cases h
    | some r =>
      simp only [hstart] at h
      split_ifs at h with hrevision
      · cases h
      · have hreads : n.reads o =
            fun obj => n.selects o obj && decide (r.2 < obj.metadata.name) := by
          funext obj
          simp [NativeList.reads, hfirst, hstart, Bool.and_comm]
        rw [← Except.ok.inj h]
        simp only [List.filter_filter, hreads]
  rw [hwindow]
  exact cut_items o.limit (s.sorted.filter _)

/-- Two windows that stop at the same name have the same objects of the tenant, whatever the request
selects and wherever it begins. -/
lemma own_eq_of_stop {n : NativeList β} (halike : tp.Alike tid s₁ s₂) {o : ListOptions}
    {w₁ w₂ : Window β} (h₁ : n.window s₁ o = .ok w₁) (h₂ : n.window s₂ o = .ok w₂)
    (hstop : w₁.stop = w₂.stop) : tp.own tid w₁.items = tp.own tid w₂.items := by
  have hkept : tp.kept tid w₁.items = tp.kept tid w₂.items := by
    have hfilter : ∀ (objects : List (Object β)) (p q : Object β → Bool),
        tp.kept tid ((objects.filter p).filter q) = ((tp.kept tid objects).filter p).filter q := by
      intro objects p q
      simp only [kept, List.filter_comm _ (fun o : Object β =>
        (tp.contract.keeps tid tp.namespaceScoped o.metadata : Bool))]
    rw [window_items h₁, window_items h₂, hfilter, hfilter, hstop,
      kept_eq_of_forall₂ halike.objects]
  rw [own, own, hkept]

/-- Both pages fail, and for the same reason, when the tenant's own objects are converted. -/
def BothFail (tp : TenantProxy β) (ctx : RequestContext) (tid : String) (w₁ w₂ : Window β) : Prop :=
  ∃ e, tp.shown ctx tid w₁.items = .error e ∧ tp.shown ctx tid w₂.items = .error e

lemma page_eq_iff_stop {n : NativeList β} (halike : tp.Alike tid s₁ s₂) {o : ListOptions}
    {w₁ w₂ : Window β} (h₁ : n.window s₁ o = .ok w₁) (h₂ : n.window s₂ o = .ok w₂)
    (ctx : RequestContext) (revision : String) :
    tp.page n ctx tid revision w₁ = tp.page n ctx tid revision w₂ ↔
      w₁.stop = w₂.stop ∨ tp.BothFail ctx tid w₁ w₂ := by
  rw [page_eq_iff]
  constructor
  · rintro ⟨hshown, hstop⟩
    cases hitems : tp.shown ctx tid w₁.items with
    | ok items => exact .inl (hstop ⟨items, hitems⟩)
    | error e => exact .inr ⟨e, hitems, hshown ▸ hitems⟩
  · rintro (hstop | ⟨e, he₁, he₂⟩)
    · refine ⟨?_, fun _ => hstop⟩
      rw [shown, shown, own_eq_of_stop halike h₁ h₂ hstop]
    · rw [he₁, he₂]
      exact ⟨rfl, fun ⟨_, h⟩ => by cases h⟩

lemma tenantID_of_asked {ctx : RequestContext} {options : ListOptions} {r : String × ListOptions}
    (h : tp.asked ctx options = .ok r) : ctx.tenantID = some r.1 := by
  simp only [asked, listOptions, bind, Except.bind, pure, Except.pure, throw,
    throwThe, MonadExceptOf.throw] at h
  grind

end TenantProxy

def plainVolumes : TenantProxy Unit where
  kind := { version := "v1", kind := "PersistentVolume" }
  resource := "persistentvolumes"
  namespaceScoped := false
  contract := dashContract

def recordCursors : NativeList Unit where
  token revision name :=
    Json.token (ClusterScopedContinue.fields { apiVersion := revision, upstream := name })
  start token := ((Json.ofToken token).bind (Json.unmarshal ClusterScopedContinue.set {})).map
      fun c => (c.apiVersion, c.upstream)
  selects _ _ := true
  token_ne _ _ := Json.token_ne_empty _
  start_token revision name := by
    rw [ClusterScopedContinue.ofToken_fields]
    rfl

def volumes (first second : String) (h : first < second) : ClusterState Unit where
  revision := "7"
  objects := [{ metadata := { name := first }, body := () },
    { metadata := { name := second }, body := () }]
  sorted := by simpa using h

def tenantContext : RequestContext := { tenantID := some "111111", requestInfo := some {} }

lemma alike_volumes {first first' second second' : String} {h : first < second}
    {h' : first' < second'}
    (hfirst : dashContract.keeps "111111" false { name := first } ∨
      dashContract.keeps "111111" false { name := first' } → first = first')
    (hsecond : dashContract.keeps "111111" false { name := second } ∨
      dashContract.keeps "111111" false { name := second' } → second = second') :
    plainVolumes.Alike "111111" (volumes first second h) (volumes first' second' h') where
  revision := rfl
  objects := .cons (fun hkept => by rw [hfirst hkept]) (.cons (fun hkept => by rw [hsecond hkept]) .nil)

end KubeZoo
