import KubeZoo.Lib.Strip
import KubeZoo.Proxy.Groups

/-! # OpenAPI documents -/

namespace KubeZoo

open Strip

def tenantIDLength : ℕ := 6

/-- Six lower case letters and digits, as the ids of tenants are. -/
def isTenantID (name : List Char) : Bool :=
  name.length == tenantIDLength && name.all fun ch => ch.isLower || ch.isDigit

/-- The test `valid` is `util.ValidateTenantName`, which is not of this repository. -/
def tenantPrefixOf (valid : List Char → Bool) (segment : List Char) : Option String :=
  if segment.length ≤ tenantIDLength + 1 ∨ segment[tenantIDLength]? ≠ some '-' then none
  else
    let owner := segment.take tenantIDLength
    if !valid owner then none else some (String.ofList owner)

def stripTenantPrefix (document : List Char) (tid : String) : List Char :=
  stripAll (tenantPrefix tid).toList document

variable {tid u g v : String} {valid : List Char → Bool}

lemma toList_tenantPrefix (tid : String) :
    (tenantPrefix tid).toList = tid.toList ++ ['-'] := by
  simp [tenantPrefix]

lemma not_mem_of_isTenantID {name : List Char} (h : isTenantID name = true) {c : Char}
    (hc : (c.isLower || c.isDigit) = false) : c ∉ name := by
  intro hmem
  have := List.all_eq_true.mp (Bool.and_eq_true_iff.mp h).2 c hmem
  rw [hc] at this
  cases this

lemma tenantPrefixOf_eq_some_iff {segment : List Char} :
    tenantPrefixOf valid segment = some u ↔ u.toList.length = tenantIDLength ∧
      valid u.toList = true ∧ ∃ g, g ≠ [] ∧ segment = (tenantPrefix u).toList ++ g := by
  rw [toList_tenantPrefix]
  constructor
  · intro h
    simp only [tenantPrefixOf] at h
    split_ifs at h with hshape hvalid
    rw [not_or, not_not] at hshape
    obtain ⟨hlt, hdash⟩ := List.getElem?_eq_some_iff.mp hshape.2
    obtain rfl := Option.some.inj h
    rw [String.toList_ofList]
    refine ⟨by simpa using hlt.le, by simpa using hvalid,
      segment.drop (tenantIDLength + 1), by simpa using hshape.1, ?_⟩
    rw [List.append_assoc, List.singleton_append, ← hdash, List.cons_getElem_drop_succ,
      List.take_append_drop]
  · rintro ⟨hlength, hvalid, g, hg, rfl⟩
    have hpos := List.length_pos_iff.mpr hg
    unfold tenantPrefixOf
    rw [if_neg]
    · simp only [List.append_assoc, List.take_left' hlength, hvalid, String.ofList_toList,
        Bool.not_true, Bool.false_eq_true, if_false]
    · rw [not_or, List.append_assoc, List.getElem?_append_right hlength.le]
      simp only [List.length_append, List.length_singleton, hlength]
      exact ⟨by omega, by simp⟩

/-- The ids of tenants are valid names. -/
def AcceptsIDs (valid : List Char → Bool) : Prop := ∀ name, isTenantID name = true → valid name = true

lemma tenantPrefixOf_append (hvalid : AcceptsIDs valid) (hu : isTenantID u.toList = true)
    {g : List Char} (hg : g ≠ []) : tenantPrefixOf valid ((tenantPrefix u).toList ++ g) = some u :=
  tenantPrefixOf_eq_some_iff.mpr
    ⟨by simpa using (Bool.and_eq_true_iff.mp hu).1, hvalid _ hu, g, hg, rfl⟩

def ownsGroupVersion (valid : List Char → Bool) (key tid : String) : Bool :=
  (key.toList.splitOn '/').findSome? (tenantPrefixOf valid) == some tid

def stripEntry (tid : String) (entry : Json.Value) : Option Json.Value :=
  (Json.parse (stripTenantPrefix (Json.marshal entry) tid)).filter Json.inRange

def stripKey (tid key : String) : String :=
  String.ofList (stripTenantPrefix key.toList tid)

/-- `mergeOpenAPIV3Index`, of the paths of the two indices; those of upstream in the order in which they
are gone through. -/
def mergeOpenAPIV3Index (valid : List Char → Bool) (own : String → Option Json.Value)
    (upstream : List (String × Json.Value)) (tid : String) : Option (String → Option Json.Value) :=
  upstream.foldlM (fun paths e =>
    if !ownsGroupVersion valid e.1 tid then some paths
    else (stripEntry tid e.2).map fun stripped =>
      Function.update paths (stripKey tid e.1) (some stripped)) own

/-- The key is the path of a version of tenant `u`'s group `g`. -/
def IsGroupVersion (u key g v : String) : Prop :=
  key = groupVersionPath (tenantPrefix u ++ g) v ∧ g ≠ "" ∧ '/' ∉ g.toList ∧ '/' ∉ v.toList

structure MergesExactly (own : String → Option Json.Value) (upstream : List (String × Json.Value))
    (tid : String) (merged : String → Option Json.Value) : Prop where
  native : ∀ k entry, own k = some entry → merged k = some entry
  tenant : ∀ e ∈ upstream, ∀ g v, IsGroupVersion tid e.1 g v →
    own (groupVersionPath g v) = none ∧ merged (groupVersionPath g v) ≠ none ∧
      merged (groupVersionPath g v) = stripEntry tid e.2
  only : ∀ k, merged k ≠ none → own k ≠ none ∨
    ∃ e ∈ upstream, ∃ g v, IsGroupVersion tid e.1 g v ∧ k = groupVersionPath g v

section

variable {own merged : String → Option Json.Value} {upstream : List (String × Json.Value)}

lemma exists_merge_iff : (∃ merged, mergeOpenAPIV3Index valid own upstream tid = some merged) ↔
    ∀ e ∈ upstream, ownsGroupVersion valid e.1 tid = true → (stripEntry tid e.2).isSome := by
  induction upstream generalizing own with
  | nil => simp [mergeOpenAPIV3Index]
  | cons e upstream ih =>
    unfold mergeOpenAPIV3Index at ih ⊢
    rw [List.foldlM_cons, List.forall_mem_cons]
    cases howns : ownsGroupVersion valid e.1 tid with
    | false => simpa [howns] using ih
    | true =>
      cases hstrip : stripEntry tid e.2 with
      | none => simp
      | some stripped => simpa [howns, hstrip] using ih

lemma merge_lookup (h : mergeOpenAPIV3Index valid own upstream tid = some merged) (k : String) :
    (merged k = own k ∧ ∀ e ∈ upstream, ownsGroupVersion valid e.1 tid = true →
      stripKey tid e.1 ≠ k) ∨
    ∃ e ∈ upstream, ownsGroupVersion valid e.1 tid = true ∧ stripKey tid e.1 = k ∧
      merged k ≠ none ∧ merged k = stripEntry tid e.2 := by
  induction upstream generalizing own with
  | nil =>
    rw [← Option.some.inj h]
    exact Or.inl ⟨rfl, List.forall_mem_nil _⟩
  | cons e upstream ih =>
    unfold mergeOpenAPIV3Index at ih h
    obtain ⟨paths, hpaths, hrest⟩ := Option.bind_eq_some_iff.mp h
    rcases ih hrest with ⟨hkept, hnot⟩ | ⟨e', he', hwritten⟩
    · cases howns : ownsGroupVersion valid e.1 tid with
      | false =>
        simp only [howns, Bool.not_false, if_true, Option.some.injEq] at hpaths
        refine Or.inl ⟨by rw [hkept, hpaths], List.forall_mem_cons.mpr ⟨?_, hnot⟩⟩
        simp [howns]
      | true =>
        simp only [howns, Bool.not_true, Bool.false_eq_true, if_false, Option.map_eq_some_iff] at hpaths
        obtain ⟨stripped, hstrip, rfl⟩ := hpaths
        by_cases hk : stripKey tid e.1 = k
        · rw [← hk, Function.update_self] at hkept
          exact Or.inr ⟨e, List.mem_cons_self, howns, hk, by rw [← hk, hkept]; simp,
            by rw [← hk, hkept, hstrip]⟩
        · rw [Function.update_of_ne (Ne.symm hk)] at hkept
          exact Or.inl ⟨hkept, List.forall_mem_cons.mpr ⟨fun _ => hk, hnot⟩⟩
    · exact Or.inr ⟨e', List.mem_cons_of_mem e he', hwritten⟩

lemma groupVersionPath_inj {g' v' : String} (hg : '/' ∉ g.toList) (hv : '/' ∉ v.toList)
    (hg' : '/' ∉ g'.toList) (hv' : '/' ∉ v'.toList)
    (h : groupVersionPath g v = groupVersionPath g' v') : g = g' ∧ v = v' := by
  have hsplit := splitOn_groupVersionPath hg hv
  rw [h, splitOn_groupVersionPath hg' hv'] at hsplit
  simp only [List.cons.injEq, and_true, true_and] at hsplit
  exact ⟨String.toList_injective hsplit.1.symm, String.toList_injective hsplit.2.symm⟩

namespace IsGroupVersion

variable {key : String}

variable (hu : isTenantID u.toList = true) (h : IsGroupVersion u key g v)

include hu h in
lemma slash : '/' ∉ (tenantPrefix u ++ g).toList := by
  rw [String.toList_append, toList_tenantPrefix]
  have := not_mem_of_isTenantID hu (c := '/') (by decide)
  simp [this, h.2.2.1]

include hu h in
lemma owns_iff (hvalid : AcceptsIDs valid) : ownsGroupVersion valid key tid = true ↔ u = tid := by
  have hfirst : tenantPrefixOf valid "apis".toList = none := by simp [tenantPrefixOf, tenantIDLength]
  rw [ownsGroupVersion, h.1, splitOn_groupVersionPath (h.slash hu) h.2.2.2, List.findSome?_cons,
    hfirst]
  have hg : g.toList ≠ [] := by simpa using h.2.1
  simp only [List.findSome?_cons, String.toList_append, tenantPrefixOf_append hvalid hu hg]
  rw [beq_iff_eq, Option.some.injEq]

include hu h in
lemma stripKey_eq : stripKey u key = stripKey u (groupVersionPath g v) := by
  have htag : (tenantPrefix u).toList ≠ [] := by simp [toList_tenantPrefix]
  have hslash : '/' ∉ (tenantPrefix u).toList := by
    rw [toList_tenantPrefix]
    have := not_mem_of_isTenantID hu (c := '/') (by decide)
    simp [this]
  simp only [stripKey, stripTenantPrefix, h.1, toList_groupVersionPath,
    stripAll_append_cons htag hslash, String.toList_append, stripAll_tag_append htag]

lemma key_inj {key' g' v' : String} (h : IsGroupVersion u key g v) (h' : IsGroupVersion u key' g' v')
    (heq : groupVersionPath g v = groupVersionPath g' v') : key = key' := by
  obtain ⟨rfl, rfl⟩ := groupVersionPath_inj h.2.2.1 h.2.2.2 h'.2.2.1 h'.2.2.2 heq
  rw [h.1, h'.1]

end IsGroupVersion

end

/-- The index is merged exactly if the entries of the tenant are documents without the prefix, none of its
groups and versions is one of the native entries, and none has the prefix in it once more. -/
theorem openapi_index_merge_iff (hvalid : AcceptsIDs valid) (own : String → Option Json.Value)
    (upstream : List (String × Json.Value)) (ht : isTenantID tid.toList = true)
    (hnodup : (upstream.map Prod.fst).Nodup)
    (hkeys : ∀ e ∈ upstream, (e.1.toList.splitOn '/').findSome? (tenantPrefixOf valid) = none ∨
      ∃ u g v, isTenantID u.toList = true ∧ IsGroupVersion u e.1 g v) :
    (∃ merged, mergeOpenAPIV3Index valid own upstream tid = some merged ∧
      MergesExactly own upstream tid merged) ↔
    ∀ e ∈ upstream, ∀ g v, IsGroupVersion tid e.1 g v →
      (stripEntry tid e.2).isSome ∧ own (groupVersionPath g v) = none ∧
        ¬ (tenantPrefix tid).toList <:+: (groupVersionPath g v).toList := by
  have htag : (tenantPrefix tid).toList ≠ [] := by simp [toList_tenantPrefix]
  have howned : ∀ e ∈ upstream, ownsGroupVersion valid e.1 tid = true →
      ∃ g v, IsGroupVersion tid e.1 g v := by
    intro e he howns
    rcases hkeys e he with hnone | ⟨u, g, v, hu, hgv⟩
    · rw [ownsGroupVersion, hnone] at howns
      cases howns
    · exact ⟨g, v, (hgv.owns_iff hu hvalid).mp howns ▸ hgv⟩
  have hkey : ∀ g v, stripKey tid (groupVersionPath g v) = groupVersionPath g v ↔
      ¬ (tenantPrefix tid).toList <:+: (groupVersionPath g v).toList := by
    intro g v
    rw [← stripAll_eq_self_iff htag, ← String.toList_inj, stripKey, String.toList_ofList]
    rfl
  constructor
  · rintro ⟨merged, hmerge, hexact⟩
    have hstrips := exists_merge_iff.mp ⟨merged, hmerge⟩
    by_contra hnot
    push Not at hnot
    -- Of the entries whose key has the prefix once more, take one with a longest key.
    let bad : Set (String × Json.Value) := { e | e ∈ upstream ∧ ∃ g v,
      IsGroupVersion tid e.1 g v ∧
        (tenantPrefix tid).toList <:+: (groupVersionPath g v).toList }
    obtain ⟨e₀, he₀, g₀, v₀, hgv₀, hbad₀⟩ := hnot
    have hfinite : bad.Finite := (List.finite_toSet upstream).subset fun e he => he.1
    have hsome : bad.Nonempty := ⟨e₀, he₀, g₀, v₀, hgv₀,
      hbad₀ (hstrips e₀ he₀ ((hgv₀.owns_iff ht hvalid).mpr rfl)) (hexact.tenant e₀ he₀ g₀ v₀ hgv₀).1⟩
    obtain ⟨e, ⟨he, g, v, hgv, hinfix⟩, hmax⟩ :=
      Set.exists_max_image bad (fun e => e.1.length) hfinite hsome
    obtain ⟨hown, hmerged, -⟩ := hexact.tenant e he g v hgv
    rcases merge_lookup hmerge (groupVersionPath g v) with ⟨hkept, -⟩ | ⟨e', he', howns, hwritten, -⟩
    · rw [hkept] at hmerged
      exact hmerged hown
    · obtain ⟨g', v', hgv'⟩ := howned e' he' howns
      rw [hgv'.stripKey_eq ht] at hwritten
      by_cases hinfix' : (tenantPrefix tid).toList <:+: (groupVersionPath g' v').toList
      · -- It was written for a key that is longer still.
        have hlonger := (length_stripAll_le htag _).2 hinfix'
        have hle := hmax e' ⟨he', g', v', hgv', hinfix'⟩
        have hlength := congrArg String.length hwritten
        rw [stripKey, String.length_ofList, stripTenantPrefix] at hlength
        rw [hlength, String.length_toList] at hlonger
        simp only [hgv.1, hgv'.1, groupVersionPath, String.length_append] at hle hlonger
        omega
      · rw [(hkey g' v').mpr hinfix'] at hwritten
        rw [hwritten] at hinfix'
        exact hinfix' hinfix
  · intro hall
    have hwrites : ∀ e ∈ upstream, ∀ g v, IsGroupVersion tid e.1 g v →
        stripKey tid e.1 = groupVersionPath g v := by
      intro e he g v hgv
      rw [hgv.stripKey_eq ht, (hkey g v).mpr (hall e he g v hgv).2.2]
    obtain ⟨merged, hmerge⟩ := exists_merge_iff.mpr fun e he howns => by
      obtain ⟨g, v, hgv⟩ := howned e he howns
      exact (hall e he g v hgv).1
    refine ⟨merged, hmerge, ?_, ?_, ?_⟩
    · intro k entry hk
      rcases merge_lookup hmerge k with ⟨hkept, -⟩ | ⟨e, he, howns, hwritten, -⟩
      · rw [hkept, hk]
      · obtain ⟨g, v, hgv⟩ := howned e he howns
        rw [← hwritten, hwrites e he g v hgv, (hall e he g v hgv).2.1] at hk
        cases hk
    · intro e he g v hgv
      refine ⟨(hall e he g v hgv).2.1, ?_⟩
      rcases merge_lookup hmerge (groupVersionPath g v) with ⟨-, hnot⟩ | ⟨e', he', howns, hwritten, hlook⟩
      · exact absurd (hwrites e he g v hgv) (hnot e he ((hgv.owns_iff ht hvalid).mpr rfl))
      · obtain ⟨g', v', hgv'⟩ := howned e' he' howns
        rw [hwrites e' he' g' v' hgv'] at hwritten
        rwa [List.inj_on_of_nodup_map hnodup he' he (hgv'.key_inj hgv hwritten)] at hlook
    · intro k hk
      rcases merge_lookup hmerge k with ⟨hkept, -⟩ | ⟨e, he, howns, hwritten, -⟩
      · exact Or.inl (hkept ▸ hk)
      · obtain ⟨g, v, hgv⟩ := howned e he howns
        exact Or.inr ⟨e, he, g, v, hgv, by rw [← hwritten, hwrites e he g v hgv]⟩

private def nativeIndex : String → Option Json.Value :=
  Function.update (fun _ => none) "apis/networking.k8s.io/v1" (some (.string "native"))

theorem openapi_index_merge_acme : ∃ merged, mergeOpenAPIV3Index isTenantID nativeIndex
      [("apis/111111-acme.io/v1", .string "111111-acme.io")] "111111" = some merged ∧
    MergesExactly nativeIndex [("apis/111111-acme.io/v1", .string "111111-acme.io")] "111111"
      merged := by
  have hacme : IsGroupVersion "111111" "apis/111111-acme.io/v1" "acme.io" "v1" := by
    refine ⟨by decide +kernel, ?_, ?_, ?_⟩ <;> decide +kernel
  refine (openapi_index_merge_iff (fun _ h => h) nativeIndex _ (by decide +kernel) (by simp) ?_).mpr ?_
  · intro e he
    rw [List.mem_singleton.mp he]
    exact Or.inr ⟨"111111", "acme.io", "v1", by decide +kernel, hacme⟩
  · intro e he g v hgv
    rw [List.mem_singleton.mp he] at hgv ⊢
    obtain ⟨hg, rfl⟩ := groupVersionPath_inj (hgv.slash (by decide +kernel)) hgv.2.2.2
      (hacme.slash (by decide +kernel)) hacme.2.2.2 (hgv.1.symm.trans hacme.1)
    rw [(String.append_right_inj _).mp hg]
    exact ⟨by decide +kernel, by decide +kernel, by
      decide +kernel⟩

theorem openapi_index_native_replaced :
    (mergeOpenAPIV3Index isTenantID nativeIndex
      [("apis/111111-networking.k8s.io/v1", .string "custom")] "111111").map
        (fun merged => (merged "apis/networking.k8s.io/v1").map Json.marshal) =
      some (some "\"custom\"".toList) := by
  decide +kernel

section

variable (valid : List Char → Bool)

def keyBelongsToTenant (key : String) (separator : Char) (tid : String) : Bool :=
  (key.toList.splitOn separator).all fun segment =>
    match tenantPrefixOf valid segment with
    | some owner => owner == tid
    | none => true

def dropOtherTenants (document : List (String × Json.Value)) (field : String) (separator : Char)
    (tid : String) : List (String × Json.Value) :=
  match Json.field document field with
  | some (.object entries) => Json.setField document field
      (.object (entries.filter fun e => keyBelongsToTenant valid e.1 separator tid))
  | _ => document

/-- The two drops of `filterOpenAPIV2`. -/
def dropFromFields (document : List (String × Json.Value)) (tid : String) :
    List (String × Json.Value) :=
  dropOtherTenants valid (dropOtherTenants valid document "paths" '/' tid) "definitions" '.' tid

/-- What `filterOpenAPIV2` makes of a document that it has read. -/
def filterDocument (document : List (String × Json.Value)) (tid : String) : List Char :=
  stripTenantPrefix (Json.marshal (.object (dropFromFields valid document tid))) tid

def filterOpenAPIV2 (raw : List Char) (tid : String) : Option (List Char) :=
  match Json.parse raw with
  | some .null => some (stripTenantPrefix "null".toList tid)
  | some (.object document) =>
    if !Json.fieldsInRange document then none else some (filterDocument valid document tid)
  | _ => none

end

/-- A text in which the prefix of a tenant stands between the pieces, each time before its group. -/
def MarksGroup (owner group : String) (text : List Char) (pieces : List (List Char)) : Prop :=
  text = (tenantPrefix owner).toList.intercalate pieces ∧
    ∀ piece ∈ pieces.tail, group.toList <+: piece

/-- An entry of upstream's document: a native one, or one of a tenant's definition, with the first
label of its group. The group stands once in the key, as a segment of it, and may stand in the
value; the pieces are what is left of the two texts without its prefix, and are all of the text for
a native entry. -/
structure OpenAPIEntry (separator : Char) where
  key : String
  value : Json.Value
  owner : Option (String × String) := none
  keyPieces : List (List Char) := [Json.quote key.toList]
  valuePieces : List (List Char) := [Json.marshal value]
  native : owner = none → keyPieces = [Json.quote key.toList] ∧ valuePieces = [Json.marshal value]
  custom : ∀ u g, owner = some (u, g) → isTenantID u.toList = true ∧ g ≠ "" ∧
    (∃ segment ∈ key.toList.splitOn separator, (tenantPrefix u ++ g).toList <+: segment) ∧
    keyPieces.length = 2 ∧ MarksGroup u g (Json.quote key.toList) keyPieces ∧
    MarksGroup u g (Json.marshal value) valuePieces

namespace OpenAPIEntry

variable {separator : Char}

def field (e : OpenAPIEntry separator) : String × Json.Value := (e.key, e.value)

/-- Whether an entry is for a tenant to see: a native one, or one of its own. -/
def isFor (tid : String) (e : OpenAPIEntry separator) : Bool := e.owner.all fun o => o.1 == tid

/-- The texts of the key and of the value that a tenant is to be shown. -/
def exact (e : OpenAPIEntry separator) : List Char × List Char :=
  (e.keyPieces.flatten, e.valuePieces.flatten)

end OpenAPIEntry

/-- The texts of the name and the value of a field, with the prefix taken out. -/
def shownField (tid : String) (f : String × Json.Value) : List Char × List Char :=
  (stripTenantPrefix (Json.quote f.1.toList) tid, stripTenantPrefix (Json.marshal f.2) tid)

structure OpenAPIDocument where
  rest : List (String × Json.Value) := []
  paths : List (OpenAPIEntry '/')
  definitions : List (OpenAPIEntry '.')
  rest_names : ∀ f ∈ rest, f.1 ≠ "paths" ∧ f.1 ≠ "definitions"
  rest_nodup : (rest.map Prod.fst).Nodup
  paths_nodup : (paths.map fun e => e.key).Nodup
  definitions_nodup : (definitions.map fun e => e.key).Nodup

namespace OpenAPIDocument

def keep (d : OpenAPIDocument) (path : OpenAPIEntry '/' → Bool)
    (definition : OpenAPIEntry '.' → Bool) : OpenAPIDocument :=
  { d with
    paths := d.paths.filter path
    definitions := d.definitions.filter definition
    paths_nodup := d.paths_nodup.sublist (List.filter_sublist.map _)
    definitions_nodup := d.definitions_nodup.sublist (List.filter_sublist.map _) }

def fields (d : OpenAPIDocument) : List (String × Json.Value) :=
  d.rest ++ [("paths", .object (d.paths.map OpenAPIEntry.field)),
    ("definitions", .object (d.definitions.map OpenAPIEntry.field))]

/-- `dropOtherTenantsFromDocument`, which goes through the entries of the protobuf form. -/
def dropOtherTenantsFromDocument (valid : List Char → Bool) (d : OpenAPIDocument) (tid : String) :
    OpenAPIDocument :=
  d.keep (fun e => keyBelongsToTenant valid e.key '/' tid)
    fun e => keyBelongsToTenant valid e.key '.' tid

def rightful (d : OpenAPIDocument) (tid : String) : OpenAPIDocument :=
  d.keep (OpenAPIEntry.isFor tid) (OpenAPIEntry.isFor tid)

/-- The text is that of a document with these members, in some order. -/
def Renders (text : List Char) (rest paths definitions : List (List Char × List Char)) : Prop :=
  ∃ top paths' definitions', text = Json.objectText top ∧ paths'.Perm paths ∧
    definitions'.Perm definitions ∧
    top.Perm (rest ++ [(Json.quote "paths".toList, Json.objectText paths'),
      (Json.quote "definitions".toList, Json.objectText definitions')])

end OpenAPIDocument

section

variable (valid : List Char → Bool) (tid : String) {separator : Char}

/-- Whether a segment looks like a name with the prefix of another tenant. -/
def LooksOfOther (segment : List Char) : Prop :=
  ∃ other g, other ≠ tid ∧ other.toList.length = tenantIDLength ∧ valid other.toList = true ∧
    g ≠ [] ∧ segment = (tenantPrefix other).toList ++ g

/-- The entries that are kept are those for the tenant, each with the texts it is to be shown, and
with different keys. -/
def ShownExactly (entries : List (OpenAPIEntry separator)) : Prop :=
  (entries.filter fun e => keyBelongsToTenant valid e.key separator tid).map
      (fun e => shownField tid e.field) =
    (entries.filter (OpenAPIEntry.isFor tid)).map OpenAPIEntry.exact ∧
  ((entries.filter (OpenAPIEntry.isFor tid)).map fun e => e.exact.1).Nodup

/-- No segment of a key that is for the tenant looks like another tenant's, the prefix stands
nowhere but before the groups of the tenant's entries, and no key without it is that of another
entry. -/
def FitsPrefix (entries : List (OpenAPIEntry separator)) : Prop :=
  (∀ e ∈ entries, e.isFor tid = true →
    (∀ segment ∈ e.key.toList.splitOn separator, ¬ LooksOfOther valid tid segment) ∧
    ∀ piece ∈ e.keyPieces ++ e.valuePieces, ¬ (tenantPrefix tid).toList <:+: piece) ∧
  ((entries.filter (OpenAPIEntry.isFor tid)).map fun e => e.exact.1).Nodup

end

lemma keyBelongsToTenant_iff {key : String} {separator : Char} :
    keyBelongsToTenant valid key separator tid = true ↔
      ∀ segment ∈ key.toList.splitOn separator, ¬ LooksOfOther valid tid segment := by
  refine List.all_eq_true.trans (forall₂_congr fun segment _ => ?_)
  constructor
  · rintro h ⟨other, g, hne, hlength, hvalid, hg, heq⟩
    rw [tenantPrefixOf_eq_some_iff.mpr ⟨hlength, hvalid, g, hg, heq⟩] at h
    exact hne (by simpa using h)
  · intro h
    cases hprefix : tenantPrefixOf valid segment with
    | none => rfl
    | some other =>
      obtain ⟨hlength, hvalid, g, hg, heq⟩ := tenantPrefixOf_eq_some_iff.mp hprefix
      by_contra hne
      exact h ⟨other, g, by simpa using hne, hlength, hvalid, hg, heq⟩

section

variable (ht : isTenantID tid.toList = true) {separator : Char} {e : OpenAPIEntry separator}

lemma isFor_of_keyBelongsToTenant (hvalid : AcceptsIDs valid)
    (h : keyBelongsToTenant valid e.key separator tid = true) : e.isFor tid = true := by
  unfold OpenAPIEntry.isFor
  cases howner : e.owner with
  | none => rfl
  | some o =>
    obtain ⟨hu, hg, ⟨segment, hsegment, rest, hrest⟩, -⟩ := e.custom o.1 o.2 howner
    rw [String.toList_append, List.append_assoc] at hrest
    have hbelongs := List.all_eq_true.mp h segment hsegment
    rw [← hrest, tenantPrefixOf_append hvalid hu (by simp [hg])] at hbelongs
    exact hbelongs

include ht in
lemma shownField_eq_exact_iff (he : e.isFor tid = true) :
    shownField tid e.field = e.exact ↔
      ∀ piece ∈ e.keyPieces ++ e.valuePieces, ¬ (tenantPrefix tid).toList <:+: piece := by
  have htexts : Json.quote e.key.toList = (tenantPrefix tid).toList.intercalate e.keyPieces ∧
      Json.marshal e.value = (tenantPrefix tid).toList.intercalate e.valuePieces := by
    cases howner : e.owner with
    | none =>
      obtain ⟨hkey, hvalue⟩ := e.native howner
      simp [hkey, hvalue]
    | some o =>
      obtain rfl : o.1 = tid := by simpa [OpenAPIEntry.isFor, howner] using he
      obtain ⟨-, -, -, -, hkey, hvalue⟩ := e.custom o.1 o.2 howner
      exact ⟨hkey.1, hvalue.1⟩
  have hdash : '-' ∉ tid.toList := not_mem_of_isTenantID ht (by decide)
  rw [OpenAPIEntry.exact, shownField, Prod.mk.injEq, OpenAPIEntry.field, htexts.1, htexts.2,
    stripTenantPrefix, stripTenantPrefix, toList_tenantPrefix, stripAll_intercalate_iff hdash,
    stripAll_intercalate_iff hdash, List.forall_mem_append]

lemma filter_belongs_of_fits (hvalid : AcceptsIDs valid) {entries : List (OpenAPIEntry separator)}
    (h : FitsPrefix valid tid entries) :
    entries.filter (fun e => keyBelongsToTenant valid e.key separator tid) =
      entries.filter (OpenAPIEntry.isFor tid) := by
  refine List.filter_congr fun e he => Bool.eq_iff_iff.mpr
    ⟨isFor_of_keyBelongsToTenant hvalid, fun hfor => ?_⟩
  exact keyBelongsToTenant_iff.mpr (h.1 e he hfor).1

include ht in
lemma shownExactly_iff (hvalid : AcceptsIDs valid) (entries : List (OpenAPIEntry separator)) :
    ShownExactly valid tid entries ↔ FitsPrefix valid tid entries := by
  refine and_congr_left fun hdistinct => ⟨fun h e he hfor => ?_, fun h => ?_⟩
  · -- As many entries are kept as are for the tenant, so that these are kept.
    have hkept : entries.filter (fun e => keyBelongsToTenant valid e.key separator tid) =
        entries.filter (OpenAPIEntry.isFor tid) := by
      refine List.Sublist.eq_of_length ?_ (by simpa using congrArg List.length h)
      exact List.monotone_filter_right entries fun e => isFor_of_keyBelongsToTenant hvalid
    have hmem := List.mem_filter.mpr ⟨he, hfor⟩
    rw [hkept] at h
    have hshown := List.map_inj_left.mp h e hmem
    rw [← hkept] at hmem
    exact ⟨keyBelongsToTenant_iff.mp (List.mem_filter.mp hmem).2,
      (shownField_eq_exact_iff ht hfor).mp hshown⟩
  · rw [filter_belongs_of_fits hvalid ⟨h, hdistinct⟩]
    refine List.map_congr_left fun e he => ?_
    obtain ⟨he, hfor⟩ := List.mem_filter.mp he
    exact (shownField_eq_exact_iff ht hfor).mpr (h e he hfor).2

include ht in
lemma strip_objectText (members : List (List Char × List Char)) :
    stripTenantPrefix (Json.objectText members) tid =
      Json.objectText (members.map fun m => (stripTenantPrefix m.1 tid, stripTenantPrefix m.2 tid)) := by
  have htag : (tenantPrefix tid).toList ≠ [] := by simp [toList_tenantPrefix]
  have hnot : ∀ c : Char, (c.isLower || c.isDigit) = false → c ≠ '-' →
      c ∉ (tenantPrefix tid).toList := by
    intro c hc hdash
    rw [toList_tenantPrefix]
    simp [not_mem_of_isTenantID ht hc, hdash]
  have hcomma : ∀ texts : List (List Char), stripTenantPrefix (Json.commaSeparated texts) tid =
      Json.commaSeparated (texts.map fun text => stripTenantPrefix text tid) := by
    intro texts
    induction texts using Json.commaSeparated.induct with
    | case1 => rfl
    | case2 text => rfl
    | case3 text texts hne ih =>
      obtain ⟨next, texts, rfl⟩ := List.exists_cons_of_ne_nil hne
      simp only [Json.commaSeparated, List.map_cons, stripTenantPrefix] at ih ⊢
      rw [stripAll_append_cons htag (hnot ',' (by decide) (by decide)), ih]
  have hopen : ∀ text, stripTenantPrefix ('\x7b' :: text) tid = '\x7b' :: stripTenantPrefix text tid :=
    fun _ => stripAll_append_cons (p := []) htag (hnot _ (by decide) (by decide))
  have hclose : ∀ text, stripTenantPrefix (text ++ ['\x7d']) tid =
      stripTenantPrefix text tid ++ ['\x7d'] :=
    fun _ => stripAll_append_cons htag (hnot _ (by decide) (by decide))
  have hcolon : ∀ name text, stripTenantPrefix (name ++ ':' :: text) tid =
      stripTenantPrefix name tid ++ ':' :: stripTenantPrefix text tid :=
    fun _ _ => stripAll_append_cons htag (hnot _ (by decide) (by decide))
  simp only [Json.objectText, hopen, hclose, hcomma, List.map_map, Function.comp_def, hcolon]

include ht in
lemma strip_marshal_object {fields : List (String × Json.Value)}
    (hnodup : (fields.map Prod.fst).Nodup) :
    ∃ members, stripTenantPrefix (Json.marshal (.object fields)) tid = Json.objectText members ∧
      members.Perm (fields.map (shownField tid)) := by
  refine ⟨_, strip_objectText ht _, ?_⟩
  have hperm := Json.inOrder_perm (Json.marshalFields fields) (by
    simpa [Json.marshalFields_eq, Function.comp_def] using hnodup)
  rw [List.map_map]
  refine (hperm.map _).trans (List.Perm.of_eq ?_)
  rw [Json.marshalFields_eq, List.map_map]
  rfl

lemma strip_quote (tid name : String) (hname : '-' ∉ Json.quote name.toList) :
    stripTenantPrefix (Json.quote name.toList) tid = Json.quote name.toList := by
  rw [stripTenantPrefix, stripAll_eq_self_iff (by simp [toList_tenantPrefix])]
  intro hpart
  exact hname (hpart.subset (by simp [toList_tenantPrefix]))

end

namespace OpenAPIDocument

variable (d : OpenAPIDocument)

lemma dropFromFields_fields :
    dropFromFields valid d.fields tid = (d.dropOtherTenantsFromDocument valid tid).fields := by
  have hrest : ∀ name, name = "paths" ∨ name = "definitions" →
      d.rest.filter (fun f => f.1 != name) = d.rest := by
    intro name hname
    refine List.filter_eq_self.mpr fun f hf => ?_
    rw [bne_iff_ne]
    rcases hname with rfl | rfl
    · exact (d.rest_names f hf).1
    · exact (d.rest_names f hf).2
  simp [dropFromFields, dropOtherTenants, fields, Json.field, Json.setField, hrest,
    dropOtherTenantsFromDocument, keep, List.filter_map, Function.comp_def, OpenAPIEntry.field]

/-- The text of a filtered document has the entries that are kept, with the prefix taken out of
each. -/
lemma renders_filterDocument (ht : isTenantID tid.toList = true) :
    Renders (filterDocument valid d.fields tid) (d.rest.map (shownField tid))
      ((d.dropOtherTenantsFromDocument valid tid).paths.map fun e => shownField tid e.field)
      ((d.dropOtherTenantsFromDocument valid tid).definitions.map fun e => shownField tid e.field) := by
  rw [filterDocument, d.dropFromFields_fields]
  set kept := d.dropOtherTenantsFromDocument valid tid
  have hkeys : ∀ {separator : Char} {entries : List (OpenAPIEntry separator)},
      (entries.map fun e => e.key).Nodup →
        ((entries.map OpenAPIEntry.field).map Prod.fst).Nodup := by
    intro separator entries h
    simpa [OpenAPIEntry.field, Function.comp_def] using h
  have hnames : (kept.fields.map Prod.fst).Nodup := by
    have hrest : ∀ name, name = "paths" ∨ name = "definitions" → name ∉ kept.rest.map Prod.fst := by
      intro name hname hmem
      obtain ⟨f, hf, rfl⟩ := List.mem_map.mp hmem
      obtain hname | hname := hname
      · exact (kept.rest_names f hf).1 hname
      · exact (kept.rest_names f hf).2 hname
    rw [fields, List.map_append, List.nodup_append]
    refine ⟨kept.rest_nodup, by simp, ?_⟩
    rintro name hname name' hname' rfl
    exact hrest name (by simpa using hname') hname
  obtain ⟨top, htop, hperm⟩ := strip_marshal_object ht hnames
  obtain ⟨paths, hpaths, hpathsPerm⟩ := strip_marshal_object ht (hkeys kept.paths_nodup)
  obtain ⟨definitions, hdefinitions, hdefinitionsPerm⟩ :=
    strip_marshal_object ht (hkeys kept.definitions_nodup)
  rw [List.map_map] at hpathsPerm hdefinitionsPerm
  refine ⟨top, paths, definitions, htop, hpathsPerm, hdefinitionsPerm, ?_⟩
  rw [← hpaths, ← hdefinitions, ← strip_quote tid "paths" (by decide),
    ← strip_quote tid "definitions" (by decide)]
  rw [fields, List.map_append] at hperm
  exact hperm

/-- What a filtered document says is exact: the fields around the entries are as they were, the
entries are shown exactly, and the protobuf form keeps the same ones. -/
structure FilteredExactly (valid : List Char → Bool) (d : OpenAPIDocument) (tid : String) : Prop where
  rest : ∀ f ∈ d.rest, shownField tid f = (Json.quote f.1.toList, Json.marshal f.2)
  paths : ShownExactly valid tid d.paths
  definitions : ShownExactly valid tid d.definitions
  protobuf : d.dropOtherTenantsFromDocument valid tid = d.rightful tid

/-- The names in a document and its texts keep clear of prefixes. -/
structure Fits (valid : List Char → Bool) (d : OpenAPIDocument) (tid : String) : Prop where
  rest : ∀ f ∈ d.rest, ¬ (tenantPrefix tid).toList <:+: Json.quote f.1.toList ∧
    ¬ (tenantPrefix tid).toList <:+: Json.marshal f.2
  paths : FitsPrefix valid tid d.paths
  definitions : FitsPrefix valid tid d.definitions

end OpenAPIDocument

private def widgetsDocument : OpenAPIDocument where
  paths := [{
    key := "/apis/111111-acme.io/v1/widgets"
    value := .string "111111-acme.io"
    owner := some ("111111", "acme")
    keyPieces := ["\"/apis/".toList, "acme.io/v1/widgets\"".toList]
    valuePieces := ["\"".toList, "acme.io\"".toList]
    native := fun h => by cases h
    custom := by
      rintro _ _ ⟨⟩
      exact ⟨by decide +kernel, by decide, ⟨"111111-acme.io".toList, by decide +kernel, by decide +kernel⟩,
        rfl, ⟨by decide +kernel, by decide +kernel⟩, by decide +kernel, by decide +kernel⟩ }]
  definitions := []
  rest_names := List.forall_mem_nil _
  rest_nodup := List.nodup_nil
  paths_nodup := List.nodup_singleton _
  definitions_nodup := List.nodup_nil

end KubeZoo
