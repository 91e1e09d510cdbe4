import KubeZoo.Fanout.Pagination

/-! # The metadata of a fanned-out list -/

namespace KubeZoo

open Paging Snapshot

variable {α : Type}

namespace UnstructuredList

def getRemainingItemCount (list : UnstructuredList α) : Option Int :=
  list.object.bind (·.remainingItemCount)

def getResourceVersion (list : UnstructuredList α) : String :=
  match list.object with
  | none => ""
  | some object => object.resourceVersion

/-- `SetRemainingItemCount`, on a list with metadata. -/
def setRemainingItemCount (list : UnstructuredList α) (count : Option Int) : UnstructuredList α :=
  { list with object := list.object.map fun o => { o with remainingItemCount := count } }

def uncounted (list : UnstructuredList α) : UnstructuredList α := list.setRemainingItemCount none

@[simp] lemma items_uncounted (list : UnstructuredList α) : list.uncounted.items = list.items := rfl

@[simp] lemma getContinue_uncounted (list : UnstructuredList α) :
    list.uncounted.getContinue = list.getContinue := by
  cases h : list.object <;> simp [uncounted, setRemainingItemCount, getContinue, h]

lemma setContinue_uncounted (list : UnstructuredList α) (token : String) :
    list.uncounted.setContinue token = (list.setContinue token).uncounted := by
  cases h : list.object <;> simp [uncounted, setRemainingItemCount, setContinue, h]

lemma setResourceVersion_uncounted (list : UnstructuredList α) (revision : String) :
    list.uncounted.setResourceVersion revision = (list.setResourceVersion revision).uncounted := by
  cases h : list.object <;> simp [uncounted, setRemainingItemCount, setResourceVersion, h]

lemma getRemainingItemCount_setContinue (list : UnstructuredList α) (token : String) :
    (list.setContinue token).getRemainingItemCount = list.getRemainingItemCount := by
  cases h : list.object <;> simp [getRemainingItemCount, setContinue, h]

lemma getRemainingItemCount_setResourceVersion (list : UnstructuredList α) (revision : String) :
    (list.setResourceVersion revision).getRemainingItemCount = list.getRemainingItemCount := by
  cases h : list.object <;> simp [getRemainingItemCount, setResourceVersion, h]

end UnstructuredList

open UnstructuredList

def DynamicClient.uncounted (client : DynamicClient α) : DynamicClient α :=
  { client with list := fun ns options => (client.list ns options).map UnstructuredList.uncounted }

variable {client : DynamicClient α} {options : ListOptions} {revision tid : String}

lemma merge_uncounted (gathered page : UnstructuredList α) :
    gathered.uncounted.merge page.uncounted = (gathered.merge page).uncounted := by
  cases h : gathered.object <;>
    simp [merge, UnstructuredList.uncounted, setRemainingItemCount, h]

lemma listFrom_uncounted {count : ℕ} (rest : List String) :
    ∀ (index : ℕ) (gathered : UnstructuredList α) (inner : String) (remaining : Int),
      listFrom client.uncounted options revision count index rest gathered.uncounted inner remaining =
        (listFrom client options revision count index rest gathered inner remaining).map
          UnstructuredList.uncounted := by
  induction rest with
  | nil =>
    intro index gathered inner remaining
    simp only [listFrom, allRead, setContinue_uncounted, setResourceVersion_uncounted, Except.map]
  | cons ns rest ih =>
    intro index gathered inner remaining
    have hread : client.uncounted.list ns (perNamespace options revision inner remaining) =
        (client.list ns (perNamespace options revision inner remaining)).map UnstructuredList.uncounted := rfl
    cases hpage : client.list ns (perNamespace options revision inner remaining) with
    | error e =>
      simp only [listFrom, hread, hpage, Except.map]
    | ok page =>
      rw [hpage] at hread
      have hok : ∀ list : UnstructuredList α, Except.map UnstructuredList.uncounted
          (.ok list : Except GoError _) = .ok list.uncounted := fun _ => rfl
      rw [listFrom_turn hread, listFrom_turn hpage]
      simp only [items_uncounted, getContinue_uncounted, merge_uncounted, ih, allRead,
        setContinue_uncounted, setResourceVersion_uncounted,
        apply_ite (Except.map UnstructuredList.uncounted), hok]

lemma listAcrossNamespaces_uncounted :
    listAcrossNamespaces client.uncounted options tid =
      (listAcrossNamespaces client options tid).map UnstructuredList.uncounted := by
  have hnames : ∀ revision, tenantNamespaces client.uncounted tid revision =
      tenantNamespaces client tid revision := fun _ => rfl
  rw [listAcrossNamespaces_eq_bind, listAcrossNamespaces_eq_bind]
  cases requestCursor options with
  | error e => rfl
  | ok cursor =>
    simp only [Except.bind, hnames]
    cases tenantNamespaces client tid cursor.resourceVersion with
    | error e => rfl
    | ok listed =>
      by_cases hpast : cursor.namespaceIndex > listed.1.length
      · simp only [if_pos hpast]
        rfl
      · simp only [if_neg hpast]
        exact listFrom_uncounted _ _ {} _ _

lemma follow_uncounted (fuel : ℕ) : ∀ options,
    follow client.uncounted tid options fuel = follow client tid options fuel := by
  induction fuel with
  | zero => intro options; rfl
  | succ fuel ih =>
    intro options
    simp only [follow, listAcrossNamespaces_uncounted]
    cases listAcrossNamespaces client options tid with
    | error e => rfl
    | ok list => simp only [Except.map, bind, Except.bind, getContinue_uncounted, items_uncounted, ih]

lemma object_foldl_merge {o : ListObject} (pages : List (UnstructuredList α)) :
    ∀ gathered : UnstructuredList α, gathered.object = some o →
      (pages.foldl merge gathered).object = some o := by
  induction pages with
  | nil => exact fun _ h => h
  | cons page pages ih =>
    intro gathered h
    refine ih _ ?_
    rw [merge, h]
    rfl

variable {remaining : Int} {rest : List String} {inner : String} {list : UnstructuredList α}
  {index : ℕ}

lemma getResourceVersion_listFrom {count : ℕ} {gathered : UnstructuredList α}
    (h : listFrom client options revision count index rest gathered inner remaining = .ok list) :
    list.getResourceVersion = revision := by
  obtain ⟨pages, token, -, rfl⟩ := listFrom_ok rest _ _ _ _ _ h
  rfl

lemma getRemainingItemCount_listFrom {count : ℕ} {ns : String} {page : UnstructuredList α}
    (hpage : client.list ns (perNamespace options revision inner remaining) = .ok page)
    (hobject : page.object.isSome)
    (h : listFrom client options revision count index (ns :: rest) {} inner remaining = .ok list) :
    list.getRemainingItemCount = page.getRemainingItemCount := by
  obtain ⟨o, ho⟩ := Option.isSome_iff_exists.mp hobject
  obtain ⟨pages, token, hreads, rfl⟩ := listFrom_ok _ _ _ _ _ _ h
  obtain ⟨first, more, rfl, hread⟩ := hreads.first
  rw [hpage] at hread
  cases hread
  have hkept : ((page :: more).foldl merge {}).object = some o :=
    object_foldl_merge more _ (by simp [merge, ho])
  rw [getRemainingItemCount_setResourceVersion, getRemainingItemCount_setContinue,
    getRemainingItemCount, getRemainingItemCount, ho, hkept]

namespace Snapshot

variable (S : Snapshot α)

def start (ns : String) (options : ListOptions) : ℕ :=
  if options.continue = "" then 0 else S.position ns options.continue

def count (ns : String) (options : ListOptions) (page : UnstructuredList α) : Option Int :=
  let left := (S.objects ns).length - (S.start ns options + page.items.length)
  if left = 0 then none else some left

def counting : DynamicClient α :=
  { S.client with list := fun ns options =>
      (S.list ns options).map fun page => page.setRemainingItemCount (S.count ns options page) }

variable {S} {ns : String} {p : ℕ}

lemma list_ok {o : ListOptions} {page : UnstructuredList α} (h : S.list ns o = .ok page) :
    page = S.page ns (S.start ns o) o.limit := by
  unfold list at h
  unfold start
  split_ifs at h with hfirst
  · rw [if_pos hfirst]
    cases h
    rfl
  · rw [if_neg hfirst]
    cases h
    rfl

lemma uncounted_counting : S.counting.uncounted = S.client := by
  have hlist : ∀ ns o, S.counting.uncounted.list ns o = S.client.list ns o := by
    intro ns o
    show ((S.list ns o).map _).map _ = S.list ns o
    cases hpage : S.list ns o with
    | error e => rfl
    | ok page =>
      rw [list_ok hpage]
      rfl
  have hall : S.counting.uncounted.list = S.client.list := by
    funext ns o
    exact hlist ns o
  show ({ S.client with list := S.counting.uncounted.list } : DynamicClient α) = S.client
  rw [hall]

variable {token : String}

lemma listAcrossNamespaces_counting (h : listAcrossNamespaces S.counting options tid = .ok list) :
    listAcrossNamespaces S.client options tid = .ok list.uncounted := by
  rw [← uncounted_counting, listAcrossNamespaces_uncounted, h]
  rfl

lemma follow_counting (fuel : ℕ) :
    follow S.counting tid options fuel = follow S.client tid options fuel := by
  rw [← uncounted_counting, follow_uncounted]

variable (S) in
def place (tid token : String) : List String × ℕ :=
  match requestCursor { «continue» := token } with
  | .error _ => ([], 0)
  | .ok cursor =>
    let rest := (S.tenantNames tid).drop cursor.namespaceIndex.toNat
    (rest, match rest with
      | [] => 0
      | ns :: _ => S.start ns { «continue» := cursor.inner })

variable (S) in
/-- The first read of the request, and with it those that follow. -/
def walkFrom (tid : String) (options : ListOptions) (token : String) : Paging.Call String :=
  ⟨(S.place tid token).1, (S.place tid token).2, options.limit.toNat⟩

variable (S) in
/-- What the first read of the request leaves of its namespace. -/
def unread (tid : String) (options : ListOptions) (token : String) : ℕ :=
  match S.place tid token with
  | ([], _) => 0
  | (ns :: rest, p) =>
    if 0 < options.limit then
      (S.objects ns).length - (p + S.source.answer ⟨ns :: rest, p, options.limit.toNat⟩)
    else 0

lemma unread_of_nil (h : S.place tid token = ([], p)) :
    S.unread tid options token = 0 := by
  rw [unread, h]

lemma unread_of_cons (h : S.place tid token = (ns :: rest, p)) :
    S.unread tid options token =
      if 0 < options.limit then
        (S.objects ns).length - (p + S.source.answer ⟨ns :: rest, p, options.limit.toNat⟩)
      else 0 := by
  rw [unread, h]

lemma Resumes.start_eq {o : ListOptions} (h : S.Resumes tid index inner (ns :: rest) p)
    (ho : o.continue = inner) : S.start ns o = p := by
  unfold start
  rw [ho]
  rcases h.at_position with ⟨hinner, hp⟩ | ⟨ns', tail, hrest, hinner⟩
  · rw [if_pos hinner, hp]
  · cases hrest
    rw [if_neg (hinner ▸ S.token_ne _ _), hinner, S.position_token]

variable (hmax : (S.namespaces (tenantSelector tid)).length ≤ maxFannedNamespaces)
  (hask : S.Asks { options with «continue» := token } index inner)
  (hres : S.Resumes tid index inner rest p)

include hmax hask hres in
lemma place_eq : S.place tid token = (rest, p) := by
  have hcount : (S.tenantNames tid).length ≤ maxFannedNamespaces := by
    rw [tenantNames, (sortStrings_perm _).length_eq]
    exact hmax
  obtain ⟨cursor, hcursor, hindex, rfl, -⟩ := hask.cursor (hres.le.trans hcount)
  have hrequest : requestCursor { «continue» := token } = .ok cursor := hcursor
  simp only [place, hrequest, hindex, Int.toNat_natCast, hres.drop]
  cases rest with
  | nil =>
    rcases hres.at_position with ⟨-, hp⟩ | ⟨ns, tail, hrest, -⟩
    · rw [hp]
    · cases hrest
  | cons ns rest => exact congrArg _ (hres.start_eq rfl)

lemma left_of_page (ns : String) (rest : List String) (p : ℕ) (limit : Int) :
    (S.objects ns).length - (p + (S.page ns p limit).items.length) =
      if 0 < limit then
        (S.objects ns).length - (p + S.source.answer ⟨ns :: rest, p, limit.toNat⟩)
      else 0 := by
  by_cases hlimit : 0 < limit
  · have hitems : (S.page ns p limit).items = S.source.page ⟨ns :: rest, p, limit.toNat⟩ := by
      rw [← S.items_page ns rest p (show 0 < limit.toNat by omega), Int.toNat_of_nonneg hlimit.le]
    rw [if_pos hlimit, hitems, S.source.length_page]
  · have hitems : (S.page ns p limit).items = (S.objects ns).drop p := by
      simp only [page, if_neg hlimit]
    rw [if_neg hlimit, hitems, List.length_drop]
    omega

include hmax hask hres in
lemma getRemainingItemCount_eq
    (hlist : listAcrossNamespaces S.counting { options with «continue» := token } tid = .ok list) :
    list.getRemainingItemCount = if S.unread tid options token = 0 then none
      else some (S.unread tid options token : Int) := by
  have hnames : S.counting.listNamespaces = S.client.listNamespaces := rfl
  rw [listAcrossNamespaces_eq hnames hmax hask hres] at hlist
  have hplace := place_eq hmax hask hres
  cases rest with
  | nil =>
    rw [unread_of_nil hplace]
    cases hlist
    rfl
  | cons ns rest =>
    generalize ho : perNamespace { options with «continue» := token } S.revision inner
      options.limit = o at *
    have hread := hres.list { options with «continue» := token } options.limit
    rw [ho, ite_self] at hread
    have hpage : S.counting.list ns o = .ok ((S.page ns p options.limit).setRemainingItemCount
          (S.count ns o (S.page ns p options.limit))) := by
      show (S.list ns o).map _ = _
      rw [show S.list ns o = _ from hread]
      rfl
    have hstart : S.start ns o = p := by
      refine hres.start_eq ?_
      rw [← ho]
      simp only [perNamespace]
      split_ifs <;> rfl
    rw [← ho] at hpage
    rw [getRemainingItemCount_listFrom hpage rfl hlist, ho, unread_of_cons hplace, ← left_of_page,
      ← hstart]
    rfl

lemma length_namespaces_le (h : listAcrossNamespaces S.client options tid = .ok list) :
    (S.namespaces (tenantSelector tid)).length ≤ maxFannedNamespaces := by
  obtain ⟨cursor, namespaces, listed, -, hlisted, -, -⟩ := listAcrossNamespaces_ok h
  obtain ⟨o, names, ho, hnames, -, hle⟩ := tenantNamespaces_ok hlisted
  have hanswer : S.listNamespaces o = .ok (names, listed) := hnames
  unfold listNamespaces at hanswer
  split_ifs at hanswer
  cases hanswer
  rw [← ho]
  exact hle

lemma ends_of_page {limit : ℕ} (hpos : 0 < limit) (hlimit : options.limit = limit)
    (hmax : (S.namespaces (tenantSelector tid)).length ≤ maxFannedNamespaces)
    (hask : S.Asks options index inner) (hres : S.Resumes tid index inner rest p)
    (h : listAcrossNamespaces S.client options tid = .ok list) :
    list.items.length ≤ limit ∧ S.Ends tid limit ⟨rest, p, limit⟩ list list.items := by
  obtain ⟨list', fresh, hok, hitems, hle, hends⟩ :=
    listFrom_spec hlimit rest index inner p {} hres hpos
  rw [listAcrossNamespaces_eq rfl hmax hask hres, hlimit] at h
  obtain rfl : list = list' := Except.ok.inj (h.symm.trans hok)
  rw [hitems] at hle ⊢
  exact ⟨hle, hends⟩

lemma page_of_unlimited (hlimit : options.limit ≤ 0) (hfirst : options.continue = "")
    (h : listAcrossNamespaces S.client options tid = .ok list) : list.getContinue = "" := by
  have hstart : S.Resumes tid 0 "" (S.tenantNames tid) 0 := S.resumes_start
  obtain ⟨list', hok, -, hdone⟩ := listFrom_unlimited hlimit _ 0 {} options.limit hstart
  rw [listAcrossNamespaces_eq rfl (length_namespaces_le h) (.inl ⟨hfirst, rfl, rfl⟩) hstart] at h
  obtain rfl : list = list' := Except.ok.inj (h.symm.trans hok)
  exact hdone

end Snapshot

/-- The tokens a client meets that asks for one page after the other. -/
inductive Requested (client : DynamicClient α) (tid : String) (options : ListOptions) :
    String → Prop
  | first : Requested client tid options ""
  | next {token : String} {list : UnstructuredList α} (h : Requested client tid options token)
      (hlist : listAcrossNamespaces client { options with «continue» := token } tid = .ok list)
      (hmore : list.getContinue ≠ "") : Requested client tid options list.getContinue

/-- A count on the page is that of the objects on the later pages. -/
def Truthful (list : UnstructuredList α) (later : List (List α)) : Prop :=
  ∀ n ∈ list.getRemainingItemCount, n = later.flatten.length

lemma follow_cons {pages : List (List α)} {fuel : ℕ}
    (hlist : listAcrossNamespaces client options tid = .ok list)
    (h : follow client tid options (fuel + 1) = .ok (some pages)) :
    ∃ later, pages = list.items :: later := by
  simp only [follow, hlist, bind, Except.bind] at h
  split_ifs at h
  · cases h
    exact ⟨[], rfl⟩
  · cases hmore : follow client tid { options with «continue» := list.getContinue } fuel with
    | error e =>
      rw [hmore] at h
      cases h
    | ok more =>
      rw [hmore] at h
      obtain ⟨later, -, rfl⟩ := Option.map_eq_some_iff.mp (Except.ok.inj h)
      exact ⟨later, rfl⟩

namespace Snapshot

variable {S : Snapshot α} {token : String}

lemma stands_of_requested (hmax : (S.namespaces (tenantSelector tid)).length ≤ maxFannedNamespaces)
    (h : Requested S.counting tid options token) :
    (options.limit ≤ 0 → token = "") ∧ ∃ index inner rest p,
      S.Asks { options with «continue» := token } index inner ∧
      S.Resumes tid index inner rest p := by
  induction h with
  | first => exact ⟨fun _ => rfl, 0, "", _, 0, .inl ⟨rfl, rfl, rfl⟩, S.resumes_start⟩
  | @next token list _ hlist hmore ih =>
    obtain ⟨hfirst, index, inner, rest, p, hask, hres⟩ := ih
    have hlist' := listAcrossNamespaces_counting hlist
    by_cases hpos : 0 < options.limit
    · obtain ⟨limit, hlimit⟩ : ∃ limit : ℕ,
          ({ options with «continue» := token } : ListOptions).limit = limit :=
        Int.eq_ofNat_of_zero_le hpos.le
      have hends := (ends_of_page (by simp only at hlimit; omega) hlimit hmax hask hres hlist').2
      rw [Ends, getContinue_uncounted] at hends
      rcases hends with ⟨hdone, -⟩ | ⟨index', inner', rest', p', hres', htoken, -, -, -⟩
      · exact absurd hdone hmore
      · exact ⟨fun h => absurd h (by omega), index', inner', rest', p', .inr htoken, hres'⟩
    · have hdone := page_of_unlimited (by simpa using hpos) (hfirst (by omega)) hlist'
      rw [getContinue_uncounted] at hdone
      exact absurd hdone hmore

lemma length_later {limit p : ℕ}
    {later : List (List α)} (hsize : ∀ ns p n, n ≤ S.size ns p n) (hpos : 0 < limit)
    (hlimit : options.limit = limit) (hplace : S.place tid token = (rest, p))
    (hle : list.items.length ≤ limit)
    (hends : S.Ends tid limit ⟨rest, p, limit⟩ list list.items)
    (hcollects : S.source.Collects limit ⟨rest, p, limit⟩ (list.items :: later).flatten)
    (hunread : S.unread tid options token ≠ 0) :
    later.flatten.length = S.unread tid options token + (rest.tail.flatMap S.objects).length := by
  have hfull := full_of_size hsize limit ⟨rest, p, limit⟩
  have hall := congrArg List.length (hcollects.eq_left_iff.mpr hfull)
  rw [List.flatten_cons, List.length_append] at hall
  cases rest with
  | nil => exact absurd (unread_of_nil hplace) hunread
  | cons ns rest =>
    have hanswer : S.source.answer ⟨ns :: rest, p, limit⟩ =
        min limit ((S.objects ns).length - p) := hfull 0
    have hleft : (S.source.left ⟨ns :: rest, p, limit⟩).length =
        (S.objects ns).length - p + (rest.flatMap S.objects).length := by
      rw [Source.left, List.length_append]
      exact congrArg (· + _) (List.length_drop ..)
    rw [unread_of_cons hplace, if_pos (by omega), hlimit, Int.toNat_natCast] at hunread ⊢
    -- The first read is cut short by the limit, so the page ends with it.
    have hcut : list.items.length = limit := by
      rcases hends with ⟨-, hdone⟩ | ⟨_, _, _, _, -, -, hlen, -, -⟩
      · have hlen := congrArg List.length (hdone.eq_left_iff.mpr hfull)
        omega
      · exact hlen
    rw [List.tail_cons]
    omega

end Snapshot

lemma truthful_iff {later : List (List α)} {n : ℕ}
    (h : list.getRemainingItemCount = if n = 0 then none else some (n : Int)) :
    Truthful list later ↔ n = 0 ∨ n = later.flatten.length := by
  unfold Truthful
  rw [h]
  by_cases hn : n = 0
  · rw [if_pos hn]
    exact iff_of_true nofun (.inl hn)
  · rw [if_neg hn, or_iff_right hn]
    refine ⟨fun htrue => Int.ofNat.inj (htrue n rfl), ?_⟩
    intro hn m hm
    cases hm
    exact congrArg _ hn

/-- What a page of a fanned-out list says of the list: its revision is that of the pagination, and
its count is right exactly if the first read of the page leaves nothing of its namespace, or as much
as upstream's answers along the walk have beyond the page. -/
theorem fanout_metadata_truthful_iff (S : Snapshot α) (tid : String) (options : ListOptions)
    (token : String) (list : UnstructuredList α)
    (hrequested : Requested S.counting tid options token)
    (hlist : listAcrossNamespaces S.counting { options with «continue» := token } tid = .ok list) :
    list.getResourceVersion = S.revision ∧
    ∃ later fuel, follow S.counting tid { options with «continue» := token } fuel =
        .ok (some (list.items :: later)) ∧
      (Truthful list later ↔ S.unread tid options token = 0 ∨
        ∃ out, S.source.Collects options.limit.toNat (S.walkFrom tid options token) out ∧
          S.unread tid options token + list.items.length = out.length) ∧
      ((∀ ns p n, n ≤ S.size ns p n) → (Truthful list later ↔ S.unread tid options token = 0 ∨
          ∀ ns ∈ (S.place tid token).1.tail, S.objects ns = [])) := by
  have hclient := listAcrossNamespaces_counting hlist
  have hmax := length_namespaces_le hclient
  obtain ⟨hunlimited, index, inner, rest, p, hask, hres⟩ :=
    stands_of_requested hmax hrequested
  have hplace := place_eq hmax hask hres
  have hcount := getRemainingItemCount_eq hmax hask hres hlist
  refine ⟨?_, ?_⟩
  · have hnames : S.counting.listNamespaces = S.client.listNamespaces := rfl
    rw [listAcrossNamespaces_eq hnames hmax hask hres] at hlist
    exact getResourceVersion_listFrom hlist
  by_cases hpos : 0 < options.limit
  · obtain ⟨limit, hlimit⟩ := Int.eq_ofNat_of_zero_le hpos.le
    have hlimit' : ({ options with «continue» := token } : ListOptions).limit = limit := hlimit
    obtain ⟨pages, hpages, -, hcollects⟩ := follow_spec (show 0 < limit by omega) hmax
      ((S.source.left ⟨rest, p, limit⟩).length + 1) _ index inner rest p hlimit' hask hres (by omega)
    obtain ⟨later, rfl⟩ := follow_cons hclient hpages
    obtain ⟨hle, hends⟩ :=
      ends_of_page (show 0 < limit by omega) hlimit' hmax hask hres hclient
    refine ⟨later, _, (follow_counting _).trans hpages, ?_, fun hsize => ?_⟩
    · rw [truthful_iff hcount, walkFrom, hplace, hlimit, Int.toNat_natCast]
      refine or_congr_right ⟨fun h => ⟨_, hcollects, ?_⟩, ?_⟩
      · rw [List.flatten_cons, List.length_append, h, add_comm, UnstructuredList.items_uncounted]
      · rintro ⟨out, hout, h⟩
        rw [hout.unique hcollects, List.flatten_cons, List.length_append,
          UnstructuredList.items_uncounted] at h
        omega
    rw [truthful_iff hcount, hplace]
    refine or_congr_right' fun hunread => ?_
    rw [length_later hsize (by omega) hlimit hplace hle hends hcollects hunread,
      left_eq_add, List.length_eq_zero_iff, List.flatMap_eq_nil_iff]
  · have hunread : S.unread tid options token = 0 := by
      cases rest with
      | nil => exact unread_of_nil hplace
      | cons ns rest => rw [unread_of_cons hplace, if_neg hpos]
    have hdone := page_of_unlimited (by simpa using hpos) (hunlimited (by omega)) hclient
    rw [getContinue_uncounted] at hdone
    refine ⟨[], 1, ?_, ?_, fun _ => ?_⟩
    · simp only [follow, hlist, bind, Except.bind, hdone, if_true, pure, Except.pure]
    all_goals
      rw [truthful_iff hcount]
      exact iff_of_true (.inl hunread) (.inl hunread)

section

private def largeFirst : Snapshot ℕ :=
  { twoNamespaces id with objects := fun ns => if ns = "t-db" then [1, 2, 3] else [4] }

theorem fanout_count_of_one_namespace :
    (listAcrossNamespaces largeFirst.counting { limit := 2 } "t").map
        (·.getRemainingItemCount) = .ok (some 1) ∧
      follow largeFirst.counting "t" { limit := 2 } 5 = .ok (some [[1, 2], [3, 4]]) ∧
      ([[3, 4]] : List (List ℕ)).flatten.length ≠ 1 := by
  decide +kernel

theorem fanout_metadata_truthful_twoNamespaces :
    ∃ list later fuel, listAcrossNamespaces (twoNamespaces id).counting { limit := 2 } "t" =
        .ok list ∧
      follow (twoNamespaces id).counting "t" { limit := 2 } fuel = .ok (some (list.items :: later)) ∧
      Truthful list later := by
  obtain ⟨list, hlist⟩ : ∃ list, listAcrossNamespaces (twoNamespaces id).counting { limit := 2 } "t" =
      .ok list := by
    have hok : (listAcrossNamespaces (twoNamespaces id).counting
      { limit := 2 } "t").toOption.isSome := by decide +kernel
    obtain ⟨list, h⟩ := Option.isSome_iff_exists.mp hok
    exact ⟨list, Except.toOption_eq_some_iff.mp h⟩
  obtain ⟨-, later, fuel, hfollow, htruthful, -⟩ :=
    fanout_metadata_truthful_iff (twoNamespaces id) "t" { limit := 2 } "" list .first hlist
  have hunread : (twoNamespaces id).unread "t" { limit := 2 } "" = 0 := by decide +kernel
  exact ⟨list, later, fuel, hlist, hfollow, htruthful.mpr (.inl hunread)⟩

end

end KubeZoo
