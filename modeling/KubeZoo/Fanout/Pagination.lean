import KubeZoo.Fanout.List

/-! # Following the cursors of a fanned-out list -/

namespace KubeZoo

open Paging

variable {α : Type}

lemma sortStrings_pairwise {names : List String} (h : names.Nodup) :
    (sortStrings names).Pairwise (· < ·) := by
  have hle : (sortStrings names).Pairwise (· ≤ ·) := List.pairwise_insertionSort _ _
  have hne : (sortStrings names).Pairwise (· ≠ ·) := (sortStrings_perm names).nodup_iff.2 h
  exact (hle.and hne).imp fun ⟨hab, hne⟩ => lt_of_le_of_ne hab hne

namespace Snapshot

variable (S : Snapshot α) (tid : String)

/-- A cursor of the walk: the namespaces from `index` on, and the position in the first. -/
structure Resumes (index : ℕ) (inner : String) (rest : List String) (p : ℕ) : Prop where
  drop : (S.tenantNames tid).drop index = rest
  le : index ≤ (S.tenantNames tid).length
  at_position : inner = "" ∧ p = 0 ∨ ∃ ns tail, rest = ns :: tail ∧ inner = S.token ns p

variable {S tid}

lemma tenantNamespaces_client {revision : String}
    (hmax : (S.namespaces (tenantSelector tid)).length ≤ maxFannedNamespaces)
    (h : revision = "" ∨ revision = S.revision) :
    tenantNamespaces S.client tid revision = .ok (S.tenantNames tid, S.revision) := by
  have hlist : ∀ options : ListOptions, options.labelSelector = tenantSelector tid →
      (options.resourceVersion = "" ∨ options.resourceVersion = S.revision ∧
        options.resourceVersionMatch = resourceVersionMatchExact) →
      S.client.listNamespaces options = .ok (S.namespaces (tenantSelector tid), S.revision) := by
    intro options hsel hrev
    show S.listNamespaces options = _
    rw [listNamespaces, if_pos hrev, hsel]
  have hle : ¬ (S.namespaces (tenantSelector tid)).length > maxFannedNamespaces := by omega
  simp only [tenantNamespaces, ne_eq]
  rw [hlist _ (by split_ifs <;> rfl) ?_]
  · simp only [bind, Except.bind, if_neg hle, pure, Except.pure, tenantNames]
  · split_ifs with hempty
    · exact .inl rfl
    · exact .inr ⟨h.resolve_left hempty, rfl⟩

variable {c : Call String} {rest : List String} {options : ListOptions} {inner ns : String}
  {index limit p : ℕ}

lemma Resumes.next (h : S.Resumes tid index inner (ns :: rest) p) :
    S.Resumes tid (index + 1) "" rest 0 := by
  have hlen := congrArg List.length h.drop
  rw [List.length_drop, List.length_cons] at hlen
  refine ⟨?_, by omega, .inl ⟨rfl, rfl⟩⟩
  rw [← List.tail_drop, h.drop, List.tail_cons]

lemma Resumes.list (h : S.Resumes tid index inner (ns :: rest) p) (options : ListOptions)
    (remaining : Int) :
    S.client.list ns (perNamespace options S.revision inner remaining) =
      .ok (S.page ns p (if options.limit > 0 then remaining else options.limit)) := by
  have hcontinue : (perNamespace options S.revision inner remaining).continue = inner := by
    simp only [perNamespace]
    split_ifs <;> rfl
  have hlimit : (perNamespace options S.revision inner remaining).limit =
      if options.limit > 0 then remaining else options.limit := by
    simp only [perNamespace]
    split_ifs <;> rfl
  show S.list ns _ = _
  rw [Snapshot.list, hcontinue, hlimit]
  obtain ⟨hinner, hp⟩ | ⟨ns', tail, hrest, hinner⟩ := h.at_position
  · rw [if_pos hinner, if_pos, hp]
    constructor <;> simp only [perNamespace] <;> split_ifs <;> rfl
  · have hne : inner ≠ "" := hinner ▸ S.token_ne ns' p
    have hns : ns = ns' := (List.cons.inj hrest).1
    rw [if_neg hne, if_pos, hinner, ← hns, S.position_token]
    constructor <;> simp only [perNamespace] <;> split_ifs <;> rfl

/-- How a page of the walk from `c` ends that has found `fresh`: either nothing is left, or the
budget is used up and the cursor says where the next page starts. -/
def Ends (S : Snapshot α) (tid : String) (limit : ℕ) (c : Call String)
    (list : UnstructuredList α) (fresh : List α) : Prop :=
  list.getContinue = "" ∧ S.source.Collects limit c fresh ∨
  ∃ index inner rest p, S.Resumes tid index inner rest p ∧ list.getContinue = encodeFanoutContinue
      { resourceVersion := S.revision, namespaceIndex := index, inner := inner } ∧
    fresh.length = c.budget ∧
    fresh.length + (S.source.left ⟨rest, p, limit⟩).length ≤ (S.source.left c).length ∧
    ∀ out, S.source.Collects limit ⟨rest, p, limit⟩ out → S.source.Collects limit c (fresh ++ out)

lemma Ends.call {c' : Call String} {list : UnstructuredList α} {fresh : List α} (hc : c.rest ≠ [])
    (hstep : S.source.step limit c = c') (hbudget : (S.source.page c).length + c'.budget = c.budget)
    (h : S.Ends tid limit c' list fresh) :
    S.Ends tid limit c list (S.source.page c ++ fresh) := by
  have hleft := S.source.length_left_step limit c
  rw [hstep] at hleft
  rcases h with ⟨hdone, hcollects⟩ | ⟨index, inner, rest, p, hres, htoken, hlen, hle, hcollects⟩
  · exact .inl ⟨hdone, .call c fresh hc (hstep ▸ hcollects)⟩
  · refine .inr ⟨index, inner, rest, p, hres, htoken, ?_, ?_, fun out hout => ?_⟩
    · rw [List.length_append]
      omega
    · rw [List.length_append]
      omega
    · rw [List.append_assoc]
      exact .call c _ hc (hstep ▸ hcollects out hout)

lemma Ends.turn {list : UnstructuredList α} (hc : c.rest ≠ [])
    (hstep : S.source.step limit c = ⟨rest, p, limit⟩) (hbudget : S.source.answer c = c.budget)
    (hres : S.Resumes tid index inner rest p)
    (htoken : list.getContinue = encodeFanoutContinue
      { resourceVersion := S.revision, namespaceIndex := index, inner := inner }) :
    S.Ends tid limit c list (S.source.page c) := by
  have hleft := S.source.length_left_step limit c
  rw [hstep] at hleft
  refine .inr ⟨index, inner, rest, p, hres, htoken, ?_, hleft, fun out hout => ?_⟩
  · rw [S.source.length_page, hbudget]
  · exact .call c out hc (hstep ▸ hout)

lemma items_page (ns : String) (rest : List String) (p : ℕ) {r : ℕ} (h : 0 < r) :
    (S.page ns p r).items = S.source.page ⟨ns :: rest, p, r⟩ := by
  have hr : (0 : Int) < r := by omega
  simp only [Snapshot.page, if_pos hr]
  rfl

lemma getContinue_page (ns : String) (p : ℕ) (limit : Int) :
    (S.page ns p limit).getContinue =
      if p + (S.page ns p limit).items.length < (S.objects ns).length then
        S.token ns (p + (S.page ns p limit).items.length) else "" := rfl

def resumable (S : Snapshot α) (index : ℕ) (inner : String) (gathered : UnstructuredList α) :
    UnstructuredList α :=
  (gathered.setContinue (encodeFanoutContinue
    { resourceVersion := S.revision, namespaceIndex := index, inner := inner })).setResourceVersion
      S.revision

lemma listFrom_cons {gathered : UnstructuredList α} (hlimit : options.limit = limit)
    (hres : S.Resumes tid index inner (ns :: rest) p) (hlt : gathered.items.length < limit)
    (hc : c = ⟨ns :: rest, p, limit - gathered.items.length⟩) :
    ∃ more : UnstructuredList α, more.items = gathered.items ++ S.source.page c ∧
      listFrom S.client options S.revision (S.tenantNames tid).length index (ns :: rest)
        gathered inner (limit - gathered.items.length : ℕ) =
      if S.source.answer c < c.budget then
        listFrom S.client options S.revision (S.tenantNames tid).length (index + 1) rest more
          "" (limit - more.items.length : ℕ)
      else if p + S.source.answer c < (S.objects ns).length then
        .ok (S.resumable index (S.token ns (p + S.source.answer c)) more)
      else if rest = [] then .ok (allRead S.revision more)
      else .ok (S.resumable (index + 1) "" more) := by
  have hbudget : c.budget = limit - gathered.items.length := by rw [hc]
  have hlist := hres.list options (limit - gathered.items.length : ℕ)
  rw [if_pos (by omega)] at hlist
  have hitems := S.items_page ns rest p (show 0 < limit - gathered.items.length by omega)
  rw [← hc] at hitems
  have hinner := S.getContinue_page ns p (limit - gathered.items.length : ℕ)
  rw [hitems, S.source.length_page] at hinner
  have hanswer := S.source.answer_le_budget c
  have hrest : index + 1 ≥ (S.tenantNames tid).length ↔ rest = [] := by
    have hlen := congrArg List.length hres.drop
    rw [List.length_drop, List.length_cons] at hlen
    rw [← List.length_eq_zero_iff]
    omega
  generalize hpage : S.page ns p (limit - gathered.items.length : ℕ) = page at hlist hitems hinner
  refine ⟨{ object := gathered.object.orElse fun _ => page.object,
            items := gathered.items ++ page.items }, by rw [hitems], ?_⟩
  have hmore : (gathered.items ++ page.items).length =
      gathered.items.length + S.source.answer c := by
    rw [List.length_append, hitems, S.source.length_page]
  have hrem : options.limit - ((gathered.items ++ page.items).length : Int) =
      (limit - (gathered.items ++ page.items).length : ℕ) := by omega
  simp only [listFrom, hlist, hrem]
  rw [if_neg (by omega), hinner, hbudget]
  by_cases hshort : S.source.answer c < limit - gathered.items.length
  · rw [if_pos (by omega), if_pos hshort]
  rw [if_neg (by omega), if_neg hshort]
  by_cases hinside : p + S.source.answer c < (S.objects ns).length
  · have hne := S.token_ne ns (p + S.source.answer c)
    simp only [if_pos hinside, hne, and_false]
    rfl
  · simp only [if_neg hinside, if_true, and_true, hrest]
    rfl

lemma listFrom_spec (hlimit : options.limit = limit) (rest : List String) :
    ∀ (index : ℕ) (inner : String) (p : ℕ) (gathered : UnstructuredList α),
      S.Resumes tid index inner rest p → gathered.items.length < limit →
      ∃ list fresh,
        listFrom S.client options S.revision (S.tenantNames tid).length index rest gathered
          inner (limit - gathered.items.length : ℕ) = .ok list ∧
        list.items = gathered.items ++ fresh ∧ list.items.length ≤ limit ∧
        S.Ends tid limit ⟨rest, p, limit - gathered.items.length⟩ list fresh := by
  induction rest with
  | nil =>
    intro index inner p gathered hres hlt
    refine ⟨allRead S.revision gathered, [], rfl, ?_, hlt.le, .inl ⟨?_, .done _ rfl⟩⟩
    · rw [List.append_nil]
      rfl
    · rfl
  | cons ns rest ih =>
    intro index inner p gathered hres hlt
    generalize hc : (⟨ns :: rest, p, limit - gathered.items.length⟩ : Call String) = c
    obtain ⟨more, hitems, hturn⟩ := listFrom_cons hlimit hres hlt hc.symm
    have hrow : c.rest = ns :: rest := by rw [← hc]
    have hne : c.rest ≠ [] := by simp only [hrow, ne_eq, reduceCtorEq, not_false_eq_true]
    have hbudget : c.budget = limit - gathered.items.length := by rw [← hc]
    have hposition : p = c.position := by rw [← hc]
    have hmost := S.source.answer_le_budget c
    have hlen : more.items.length = gathered.items.length + S.source.answer c := by
      rw [hitems, List.length_append, S.source.length_page]
    have hle : more.items.length ≤ limit := by omega
    rw [hturn]
    by_cases hshort : S.source.answer c < c.budget
    · -- Budget is left: the loop goes to the next namespace and forgets the page's cursor.
      have hstep : S.source.step limit c = ⟨rest, 0, limit - more.items.length⟩ := by
        rw [Source.step_of_short hrow hshort, hlen, hbudget, Nat.sub_add_eq]
      obtain ⟨list, fresh, hok, hfresh, hle, hends⟩ := ih (index + 1) "" 0 more hres.next (by omega)
      rw [if_pos hshort]
      refine ⟨list, S.source.page c ++ fresh, hok, ?_, hle, hends.call hne hstep ?_⟩
      · rw [hfresh, hitems, List.append_assoc]
      · show (S.source.page c).length + (limit - more.items.length) = c.budget
        rw [S.source.length_page]
        omega
    have hfull : S.source.answer c = c.budget := by omega
    rw [if_neg hshort]
    rw [hposition]
    by_cases hinside : c.position + S.source.answer c < (S.objects ns).length
    · have hstep : S.source.step limit c = _ := Source.step_of_inside hrow hshort hinside
      rw [if_pos hinside]
      exact ⟨_, S.source.page c, rfl, hitems, hle,
        Ends.turn hne hstep hfull ⟨hres.drop, hres.le, .inr ⟨ns, rest, rfl, rfl⟩⟩ rfl⟩
    · have hstep : S.source.step limit c = _ := Source.step_of_end hrow hshort hinside
      rw [if_neg hinside]
      by_cases hrest : rest = []
      · rw [if_pos hrest]
        refine ⟨_, S.source.page c, rfl, hitems, hle, .inl ⟨rfl, ?_⟩⟩
        rw [← List.append_nil (S.source.page c)]
        refine .call c [] hne (.done _ ?_)
        rw [hstep, hrest]
      · rw [if_neg hrest]
        exact ⟨_, S.source.page c, rfl, hitems, hle, Ends.turn hne hstep hfull hres.next rfl⟩

lemma listFrom_unlimited (hlimit : options.limit ≤ 0) (rest : List String) :
    ∀ (index : ℕ) (gathered : UnstructuredList α) (remaining : Int), S.Resumes tid index "" rest 0 →
      ∃ list, listFrom S.client options S.revision (S.tenantNames tid).length index rest
          gathered "" remaining = .ok list ∧
        list.items = gathered.items ++ rest.flatMap S.objects ∧ list.getContinue = "" := by
  induction rest with
  | nil =>
    intro index gathered remaining hres
    refine ⟨allRead S.revision gathered, rfl, ?_, rfl⟩
    rw [List.flatMap_nil, List.append_nil]
    rfl
  | cons ns rest ih =>
    intro index gathered remaining hres
    have hlist := hres.list options remaining
    rw [if_neg (by omega)] at hlist
    have hitems : (S.page ns 0 options.limit).items = S.objects ns := by
      simp only [Snapshot.page, if_neg (show ¬ 0 < options.limit by omega), List.drop_zero]
    have hinner := S.getContinue_page ns 0 options.limit
    rw [hitems, Nat.zero_add, if_neg (lt_irrefl _)] at hinner
    simp only [listFrom, hlist, if_pos hlimit, hinner, hitems]
    obtain ⟨list, hok, hmore, hdone⟩ := ih (index + 1) _ remaining hres.next
    refine ⟨list, hok, ?_, hdone⟩
    rw [hmore, List.flatMap_cons, List.append_assoc]

/-- The request of the cursor at `index` and `inner`. -/
def Asks (S : Snapshot α) (options : ListOptions) (index : ℕ) (inner : String) : Prop :=
  options.continue = "" ∧ index = 0 ∧ inner = "" ∨ options.continue = encodeFanoutContinue
      { resourceVersion := S.revision, namespaceIndex := index, inner := inner }

lemma Asks.cursor (hask : S.Asks options index inner) (hindex : index ≤ maxFannedNamespaces) :
    ∃ cursor, requestCursor options = .ok cursor ∧ cursor.namespaceIndex = index ∧
      cursor.inner = inner ∧ (cursor.resourceVersion = "" ∨ cursor.resourceVersion = S.revision) := by
  unfold requestCursor
  rcases hask with ⟨hfirst, rfl, rfl⟩ | hcursor
  · rw [if_neg (not_not.mpr hfirst)]
    exact ⟨{}, rfl, rfl, rfl, .inl rfl⟩
  · rw [hcursor, if_pos (encodeFanoutContinue_ne _), decode_encodeFanoutContinue S.revision_ne
      (by simp only; omega) (by simp only [maxFannedNamespaces] at *; omega)]
    exact ⟨_, rfl, rfl, rfl, .inr rfl⟩

lemma listAcrossNamespaces_eq {client : DynamicClient α}
    (hclient : client.listNamespaces = S.client.listNamespaces)
    (hmax : (S.namespaces (tenantSelector tid)).length ≤ maxFannedNamespaces)
    (hask : S.Asks options index inner) (hres : S.Resumes tid index inner rest p) :
    listAcrossNamespaces client options tid =
      listFrom client options S.revision (S.tenantNames tid).length index rest {} inner
        options.limit := by
  have hle := hres.le
  have hcount : (S.tenantNames tid).length ≤ maxFannedNamespaces := by
    rw [tenantNames, (sortStrings_perm _).length_eq]
    exact hmax
  obtain ⟨cursor, hcursor, hindex, hinner, hrevision⟩ := hask.cursor (hle.trans hcount)
  have hnames : tenantNamespaces client tid cursor.resourceVersion =
      .ok (S.tenantNames tid, S.revision) := by
    rw [← tenantNamespaces_client hmax hrevision]
    simp only [tenantNamespaces, hclient]
  have hpast : ¬ (index : Int) > (S.tenantNames tid).length := by omega
  have hpinned : (if cursor.resourceVersion = "" then S.revision else cursor.resourceVersion) =
      S.revision := by
    split_ifs with h
    · rfl
    · exact hrevision.resolve_left h
  rw [listAcrossNamespaces_eq_bind, hcursor]
  simp only [Except.bind, hnames, hindex, hinner, if_neg hpast, hpinned, Int.toNat_natCast, hres.drop]

lemma follow_spec (hpos : 0 < limit)
    (hmax : (S.namespaces (tenantSelector tid)).length ≤ maxFannedNamespaces) (fuel : ℕ) :
    ∀ (options : ListOptions) (index : ℕ) (inner : String) (rest : List String) (p : ℕ),
      options.limit = limit → S.Asks options index inner →
      S.Resumes tid index inner rest p →
      (S.source.left ⟨rest, p, limit⟩).length < fuel →
      ∃ pages, follow S.client tid options fuel = .ok (some pages) ∧
        (∀ page ∈ pages, page.length ≤ limit) ∧
        S.source.Collects limit ⟨rest, p, limit⟩ pages.flatten := by
  induction fuel with
  | zero =>
    omega
  | succ fuel ih =>
    intro options index inner rest p hlimit hask hres hfuel
    obtain ⟨list, fresh, hok, hitems, hle, hends⟩ :=
      listFrom_spec hlimit rest index inner p {} hres hpos
    have hpage : listAcrossNamespaces S.client options tid = .ok list := by
      rw [listAcrossNamespaces_eq rfl hmax hask hres, hlimit]
      exact hok
    rcases hends with ⟨hdone, hcollects⟩ |
      ⟨index', inner', rest', p', hres', htoken, hlen, hleft, hcollects⟩
    · refine ⟨[list.items], ?_, ?_, ?_⟩
      · simp only [follow, hpage, bind, Except.bind, hdone, if_true, pure, Except.pure]
      · intro page hmem
        rw [List.mem_singleton.1 hmem]
        exact hle
      · rw [List.flatten_singleton, hitems]
        exact hcollects
    · -- The page is full, so fewer objects are left than before it.
      have hne : list.getContinue ≠ "" := htoken ▸ encodeFanoutContinue_ne _
      have hbudget : fresh.length = limit := hlen
      obtain ⟨pages, hpages, hshort, hrest⟩ :=
        ih { options with «continue» := list.getContinue } index' inner' rest' p' hlimit
          (.inr htoken) hres' (by simp only [List.length_nil, Nat.sub_zero] at hleft; omega)
      refine ⟨list.items :: pages, ?_, ?_, ?_⟩
      · simp only [follow, hpage, bind, Except.bind, if_neg hne, hpages, pure, Except.pure,
          Option.map_some]
      · intro page hmem
        rcases List.mem_cons.1 hmem with rfl | hmem
        · exact hle
        · exact hshort page hmem
      · rw [hitems]
        exact hcollects _ hrest

lemma resumes_start : S.Resumes tid 0 "" (S.tenantNames tid) 0 :=
  ⟨rfl, Nat.zero_le _, .inl ⟨rfl, rfl⟩⟩

def AnswersInFull (S : Snapshot α) (tid : String) (limit : ℕ) : Prop :=
  S.source.Full limit ⟨S.tenantNames tid, 0, limit⟩

lemma full_of_size (h : ∀ ns p limit, limit ≤ S.size ns p limit) (limit : ℕ) (c : Call String) :
    S.source.Full limit c := by
  intro k
  generalize (S.source.next limit)^[k] _ = c
  rcases c with ⟨_ | ⟨ns, rest⟩, p, r⟩
  · rfl
  · apply min_eq_right
    exact (min_le_left _ _).trans (h ns p r)

end Snapshot

/-- Following the cursors ends, and no page is longer than the limit. -/
theorem fanout_pages_are_everything_iff (S : Snapshot α) (tid : String) (options : ListOptions)
    (hfirst : options.continue = "")
    (hmax : (S.namespaces (tenantSelector tid)).length ≤ maxFannedNamespaces) :
    (S.tenantNames tid).Perm (S.namespaces (tenantSelector tid)) ∧
    (S.tenantNames tid).Pairwise (· < ·) ∧
    ∃ pages, follow S.client tid options ((S.everything tid).length + 1) = .ok (some pages) ∧
      (0 < options.limit → ∀ page ∈ pages, (page.length : Int) ≤ options.limit) ∧
      (pages.flatten = S.everything tid ↔
        (0 < options.limit → S.AnswersInFull tid options.limit.toNat)) := by
  refine ⟨sortStrings_perm _, sortStrings_pairwise (S.nodup _), ?_⟩
  have hask : S.Asks options 0 "" := .inl ⟨hfirst, rfl, rfl⟩
  by_cases hpos : 0 < options.limit
  · obtain ⟨limit, hlimit⟩ := Int.eq_ofNat_of_zero_le hpos.le
    have hleft : S.source.left ⟨S.tenantNames tid, 0, limit⟩ = S.everything tid :=
      Source.left_start _ _
    obtain ⟨pages, hpages, hshort, hcollects⟩ :=
      Snapshot.follow_spec (by omega) hmax ((S.everything tid).length + 1) options 0 "" _ 0
        hlimit hask S.resumes_start (by rw [hleft]; omega)
    refine ⟨pages, hpages, fun _ page hmem => ?_, ?_⟩
    · have := hshort page hmem
      omega
    · rw [← hleft, hcollects.eq_left_iff, hlimit]
      exact ⟨fun hfull _ => hfull, fun hfull => hfull (by omega)⟩
  · obtain ⟨list, hok, hitems, hdone⟩ :=
      Snapshot.listFrom_unlimited (show options.limit ≤ 0 by omega) (S.tenantNames tid) 0 {} options.limit
        S.resumes_start
    have hpage : listAcrossNamespaces S.client options tid = .ok list := by
      rw [Snapshot.listAcrossNamespaces_eq rfl hmax hask S.resumes_start]
      exact hok
    refine ⟨[list.items], ?_, fun h => absurd h hpos, ?_⟩
    · simp only [follow, hpage, bind, Except.bind, hdone, if_true, pure, Except.pure]
    · rw [List.flatten_singleton, hitems]
      exact iff_of_true rfl fun h => absurd h hpos

/-- Two namespaces, and an upstream that returns `size` of the objects it is asked for. -/
def twoNamespaces (size : ℕ → ℕ) : Snapshot ℕ where
  revision := "7"
  namespaces := fun _ => ["t-web", "t-db"]
  objects := fun ns => if ns = "t-web" then [1, 2, 3] else [4]
  size := fun _ _ limit => size limit
  token := fun _ p => String.ofList ('t' :: List.replicate p 'a')
  position := fun _ token => token.toList.length - 1
  revision_ne := by decide
  nodup := fun _ => by decide
  token_ne := fun _ p h => by
    have := congrArg String.toList h
    simp only [String.toList_ofList, String.toList_empty, reduceCtorEq] at this
  position_token := fun _ p => by
    simp only [String.toList_ofList, List.length_cons, List.length_replicate, Nat.add_sub_cancel]

theorem fanout_pages_twoNamespaces :
    ∃ pages, follow (twoNamespaces id).client "t" { limit := 2 } 5 = .ok (some pages) ∧
      (∀ page ∈ pages, (page.length : Int) ≤ 2) ∧ pages.flatten = [4, 1, 2, 3] := by
  have hall : (twoNamespaces id).everything "t" = [4, 1, 2, 3] := by decide +kernel
  obtain ⟨-, -, pages, hpages, hle, hiff⟩ :=
    fanout_pages_are_everything_iff (twoNamespaces id) "t" { limit := 2 } rfl (by decide)
  rw [hall] at hpages hiff
  exact ⟨pages, hpages, hle (by decide),
    hiff.2 fun _ => Snapshot.full_of_size (fun _ _ _ => le_rfl) _ _⟩

theorem short_page_drops_the_rest :
    follow (twoNamespaces fun _ => 1).client "t" { limit := 4 } 5 = .ok (some [[4, 1]]) ∧
      [[4, 1]].flatten ≠ (twoNamespaces fun _ => 1).everything "t" := by
  decide +kernel

end KubeZoo
