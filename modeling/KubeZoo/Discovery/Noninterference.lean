import KubeZoo.Discovery.Agreement

/-! # What a tenant learns of others' groups -/

namespace KubeZoo

open Tag DiscoveryProxy

/-- A group that starts with the six characters of another tenant and a dash. -/
def ofOtherTenant (tid group : String) : Bool :=
  group.toList[6]? == some '-' && group.toList.take 6 != tid.toList

lemma ofOtherTenant_own {tid : String} (hid : tid.length = 6) (group : String) :
    ofOtherTenant tid (tenantPrefix tid ++ group) = false := by
  have hlen : tid.toList.length = 6 := by rw [String.length_toList, hid]
  simp [ofOtherTenant, tenantPrefix, ← hlen]

/-- One segment of `path.Clean`, after the segments that are kept so far. -/
def cleanStep (kept : List String) (segment : String) : List String :=
  if segment = "" ∨ segment = "." then kept
  else if segment = ".." then kept.dropLast
  else kept ++ [segment]

/-- The path that `AbsPath` of client-go asks at: it is cleaned, but for a slash at its end. -/
def absPath (path : String) : List String :=
  let segments := (path.toList.splitOn '/').map String.ofList
  segments.foldl cleanStep [] ++ if segments.getLast? = some "" then [""] else []

/-- Whether a path is that of another tenant's group or below it. -/
def underOther (tid : String) (path : List String) : Bool :=
  path[0]? == some "apis" && path[1]?.any (ofOtherTenant tid)

lemma absPath_join {path : String} (segments : List String) (hne : segments ≠ [])
    (hslash : ∀ s ∈ segments, '/' ∉ s.toList)
    (hpath : path.toList = ['/'].intercalate (segments.map String.toList)) :
    absPath path =
      segments.foldl cleanStep [] ++ if segments.getLast? = some "" then [""] else [] := by
  have hparts : ∀ l ∈ segments.map String.toList, '/' ∉ l := by
    intro l hl
    obtain ⟨s, hs, rfl⟩ := List.mem_map.mp hl
    exact hslash s hs
  have hmap : (segments.map String.toList).map String.ofList = segments := by
    simp [Function.comp_def]
  simp only [absPath, hpath, List.splitOn_intercalate _ hparts (by simpa using hne), hmap]

lemma absPath_group {group : String} (hgroup : '/' ∉ group.toList) :
    absPath ("/apis/" ++ group) = cleanStep ["apis"] group ++ if group = "" then [""] else [] := by
  rw [absPath_join ["", "apis", group] (by simp) (by simpa using hgroup)
    (by simp [List.intercalate])]
  simp [cleanStep]

lemma absPath_groupVersion {group version : String} (hgroup : '/' ∉ group.toList)
    (hversion : '/' ∉ version.toList) :
    absPath ("/apis/" ++ (group ++ "/" ++ version)) =
      cleanStep (cleanStep ["apis"] group) version ++ if version = "" then [""] else [] := by
  rw [absPath_join ["", "apis", group, version] (by simp)
    (by simpa using ⟨hgroup, hversion⟩) (by simp [List.intercalate])]
  simp [cleanStep]

@[simp] lemma ofOtherTenant_empty (tid : String) : ofOtherTenant tid "" = false := rfl

/-- The path of a group is under no group but itself. -/
lemma underOther_group {tid group : String} (hgroup : '/' ∉ group.toList)
    (h : underOther tid (absPath ("/apis/" ++ group)) = true) : ofOtherTenant tid group = true := by
  rw [absPath_group hgroup] at h
  unfold cleanStep at h
  split_ifs at h <;> simp_all [underOther]

/-- The path of a version is under the group, or under the version where the group is cleaned away.
-/
lemma underOther_groupVersion {tid group version : String} (hgroup : '/' ∉ group.toList)
    (hversion : '/' ∉ version.toList)
    (h : underOther tid (absPath ("/apis/" ++ (group ++ "/" ++ version))) = true) :
    ofOtherTenant tid group = true ∨
      (group = "" ∨ group = ".") ∧ ofOtherTenant tid version = true := by
  rw [absPath_groupVersion hgroup hversion] at h
  unfold cleanStep at h
  split_ifs at h <;> simp_all [underOther]

/-- A group that is cleaned away leaves the version in its place. -/
lemma absPath_cleaned {tid group version : String} (hgroup : group = "" ∨ group = ".")
    (hversion : '/' ∉ version.toList) (hother : ofOtherTenant tid version = true) :
    absPath ("/apis/" ++ (group ++ "/" ++ version)) = ["apis", version] := by
  have hslash : '/' ∉ group.toList := by
    obtain rfl | rfl := hgroup
    all_goals decide
  have hne : ∀ s : String, s.toList.length ≤ 6 → version ≠ s := by
    rintro s hs rfl
    simp [ofOtherTenant, List.getElem?_eq_none hs] at hother
  rw [absPath_groupVersion hslash hversion]
  simp [cleanStep, hgroup, hne "" (by decide), hne "." (by decide), hne ".." (by decide)]

/-- What upstream answers at a path. `Into` leaves its object as it was where the document is of
another kind, such as the list of all groups at `/apis`. -/
inductive DiscoveryDocument
  | group (g : APIGroup)
  | resources (l : APIResourceList)
  | other

structure DiscoveryCluster where
  serverGroups : Except GoError (Option APIGroupList)
  get : List String → Except GoError DiscoveryDocument
  crds : Except GoError (List CustomResourceDefinition)

def DiscoveryCluster.client (cluster : DiscoveryCluster) : DiscoveryClient where
  serverGroups := cluster.serverGroups
  getGroup group := (cluster.get (absPath ("/apis/" ++ group))).map fun
    | .group g => g
    | _ => { name := "" }
  serverResourcesForGroupVersion groupVersion :=
    (cluster.get (absPath ("/apis/" ++ groupVersion))).map fun
      | .resources l => l
      | _ => { groupVersion := groupVersion }

def DiscoveryProxy.inFrontOf (dp : DiscoveryProxy) (cluster : DiscoveryCluster) : DiscoveryProxy :=
  { dp with discoveryClient := cluster.client, crdLister := cluster.crds }

/-- Two clusters that differ in definitions of others only: in the groups that are listed, and in
what is answered under the paths of their groups. -/
structure DiscoveryCluster.AlikeFor (tid : String) (a b : DiscoveryCluster) : Prop where
  crds : a.crds.map (fun crds => crds.filter fun crd => !ofOtherTenant tid crd.group) =
    b.crds.map fun crds => crds.filter fun crd => !ofOtherTenant tid crd.group
  groups : a.serverGroups.map (Option.map fun l =>
      l.groups.filter fun g => !ofOtherTenant tid g.name) =
    b.serverGroups.map (Option.map fun l => l.groups.filter fun g => !ofOtherTenant tid g.name)
  get : ∀ path, underOther tid path = false → a.get path = b.get path

structure DiscoveryProxy.KeepsApart (dp : DiscoveryProxy) (tid : String) : Prop where
  belongs : ∀ crd, dp.upstreamObjectBelongsToTenant tid crd = true →
    ofOtherTenant tid crd.group = false
  provides : ∀ group, dp.provides group = true → ofOtherTenant tid group = false

namespace DiscoveryProxy

variable {dp : DiscoveryProxy} {tid : String} {a b : DiscoveryCluster} (hc : dp.contract.Dashes)
  (hid : tid.length = 6) (hapart : dp.KeepsApart tid)

include hapart

lemma listCRDsForTenant_eq (cluster : DiscoveryCluster) :
    (dp.inFrontOf cluster).listCRDsForTenant tid =
      (cluster.crds.map fun crds => crds.filter fun crd => !ofOtherTenant tid crd.group).map
        fun crds => crds.filter (dp.upstreamObjectBelongsToTenant tid) := by
  show cluster.crds.map _ = _
  cases cluster.crds with
  | error e => rfl
  | ok crds =>
    show Except.ok (crds.filter (dp.upstreamObjectBelongsToTenant tid)) =
      Except.ok ((crds.filter _).filter (dp.upstreamObjectBelongsToTenant tid))
    rw [Except.ok.injEq, List.filter_filter]
    refine List.filter_congr fun crd _ => ?_
    cases hbelongs : dp.upstreamObjectBelongsToTenant tid crd with
    | false => rfl
    | true => simp [hapart.belongs crd hbelongs]

lemma listCRDsForTenant_alike (h : a.AlikeFor tid b) :
    (dp.inFrontOf a).listCRDsForTenant tid = (dp.inFrontOf b).listCRDsForTenant tid := by
  rw [listCRDsForTenant_eq hapart, listCRDsForTenant_eq hapart, h.crds]

variable {crds : List CustomResourceDefinition}

lemma shows_ofOtherTenant (hcrds : ∀ crd ∈ crds, ofOtherTenant tid crd.group = false)
    {up : APIGroup} (hother : ofOtherTenant tid up.name = true) : dp.shows crds tid up = none := by
  cases hshows : dp.shows crds tid up with
  | none => rfl
  | some entry =>
    have hnot : ofOtherTenant tid up.name = false := by
      obtain ⟨-, ⟨hprovides, -⟩ | ⟨-, hhas, -⟩⟩ := shows_eq_some_iff.mp hshows
      · exact hapart.provides up.name hprovides
      · obtain ⟨crd, hcrd, hgroup⟩ := hasGroup_iff.mp hhas
        rw [← hgroup]
        exact hcrds crd hcrd
    rw [hother] at hnot
    cases hnot

lemma filterAPIGroupList_eq (hcrds : ∀ crd ∈ crds, ofOtherTenant tid crd.group = false)
    (l : Option APIGroupList) :
    dp.filterAPIGroupList l crds tid =
      (l.map fun l => l.groups.filter fun g => !ofOtherTenant tid g.name).map fun groups =>
        { kind := "APIGroupList", apiVersion := "v1",
          groups := groups.filterMap (dp.shows crds tid) } := by
  cases l with
  | none => rfl
  | some l =>
    show some _ = some _
    rw [Option.some.injEq, APIGroupList.mk.injEq, List.filterMap_filter]
    refine ⟨rfl, rfl, List.filterMap_congr fun up _ => ?_⟩
    cases hother : ofOtherTenant tid up.name with
    | false => simp
    | true => simp [shows_ofOtherTenant hapart hcrds hother]

lemma not_other_of_listCRDsForTenant (h : dp.listCRDsForTenant tid = .ok crds) :
    ∀ crd ∈ crds, ofOtherTenant tid crd.group = false := by
  obtain ⟨all, -, rfl⟩ := Except.map_eq_ok_iff.mp h
  intro crd hcrd
  exact hapart.belongs crd (List.mem_filter.mp hcrd).2

include hc in
omit hapart in
lemma upstreamGroupFor_cases {own : Bool} {group up : String}
    (h : dp.upstreamGroupFor own tid group = .ok up) :
    up = tenantPrefix tid ++ group ∨ dp.provides group = true ∧ up = group := by
  rw [upstreamGroupFor_eq] at h
  split_ifs at h with hown hprovides
  · rw [← Except.ok.inj h, hc.add]
    exact .inl rfl
  · exact .inr ⟨hprovides, (Except.ok.inj h).symm⟩

include hc hid in
lemma upstreamGroupFor_not_other {own : Bool} {group up : String}
    (h : dp.upstreamGroupFor own tid group = .ok up) : ofOtherTenant tid up = false := by
  obtain rfl | ⟨hprovides, rfl⟩ := upstreamGroupFor_cases hc h
  · exact ofOtherTenant_own hid group
  · exact hapart.provides up hprovides

omit hapart in
lemma answer_alike {α : Type} {own : List CustomResourceDefinition → Bool} {group : String}
    {answer answer' : String → Except GoError α}
    (hcrds : (dp.inFrontOf a).listCRDsForTenant tid = (dp.inFrontOf b).listCRDsForTenant tid)
    (hanswer : ∀ own up, dp.upstreamGroupFor own tid group = .ok up → answer up = answer' up) :
    (((dp.inFrontOf a).listCRDsForTenant tid >>= fun crds =>
      dp.upstreamGroupFor (own crds) tid group) >>= answer) =
    (((dp.inFrontOf b).listCRDsForTenant tid >>= fun crds =>
      dp.upstreamGroupFor (own crds) tid group) >>= answer') := by
  rw [hcrds]
  cases hlist : (dp.inFrontOf b).listCRDsForTenant tid with
  | error e => rfl
  | ok crds =>
    show (dp.upstreamGroupFor (own crds) tid group >>= answer) =
      (dp.upstreamGroupFor (own crds) tid group >>= answer')
    cases hup : dp.upstreamGroupFor (own crds) tid group with
    | error e => rfl
    | ok up => exact hanswer _ up hup

lemma serverGroups_alike (h : a.AlikeFor tid b) :
    (dp.inFrontOf a).serverGroups tid = (dp.inFrontOf b).serverGroups tid := by
  simp only [serverGroups, listCRDsForTenant_alike hapart h]
  cases hlist : (dp.inFrontOf b).listCRDsForTenant tid with
  | error e => rfl
  | ok crds =>
    have hapart' : (dp.inFrontOf b).KeepsApart tid := ⟨hapart.belongs, hapart.provides⟩
    have hown := not_other_of_listCRDsForTenant hapart' hlist
    -- Only the groups that are not of others count, and these are the same.
    have hfiltered : ∀ cluster : DiscoveryCluster, (cluster.serverGroups >>= fun l =>
          pure ((dp.inFrontOf cluster).filterAPIGroupList l crds tid)) =
        (cluster.serverGroups.map (Option.map fun l =>
          l.groups.filter fun g => !ofOtherTenant tid g.name)).map fun l =>
            l.map fun groups => { kind := "APIGroupList", apiVersion := "v1",
                                  groups := groups.filterMap (dp.shows crds tid) } := by
      intro cluster
      cases cluster.serverGroups with
      | error e => rfl
      | ok l => exact congrArg Except.ok (filterAPIGroupList_eq hapart hown l)
    show (a.serverGroups >>= _) = (b.serverGroups >>= _)
    rw [hfiltered a, hfiltered b, h.groups]

variable {group version : String} (htid : '/' ∉ tid.toList) (hgroup : '/' ∉ group.toList)

include hc htid hgroup in
omit hapart in
lemma upstreamGroupFor_slash {own : Bool} {up : String}
    (h : dp.upstreamGroupFor own tid group = .ok up) : '/' ∉ up.toList := by
  obtain rfl | ⟨-, rfl⟩ := upstreamGroupFor_cases hc h
  · simp [tenantPrefix, htid, hgroup]
  · exact hgroup

include hc hid htid hgroup

lemma serverVersionsForGroup_alike (h : a.AlikeFor tid b) :
    (dp.inFrontOf a).serverVersionsForGroup tid group =
      (dp.inFrontOf b).serverVersionsForGroup tid group := by
  refine answer_alike (listCRDsForTenant_alike hapart h) fun own up hup => ?_
  have hnot : underOther tid (absPath ("/apis/" ++ up)) = false := by
    rw [← Bool.not_eq_true]
    intro hother
    have := underOther_group (upstreamGroupFor_slash hc htid hgroup hup) hother
    rw [upstreamGroupFor_not_other hc hid hapart hup] at this
    cases this
  show (Except.map _ (a.get _) >>= _) = (Except.map _ (b.get _) >>= _)
  rw [h.get _ hnot]
  rfl

lemma serverResourcesForGroupVersion_alike (hversion : '/' ∉ version.toList)
    (hcond : ¬ (dp.provides group = true ∧ (group = "" ∨ group = ".") ∧
      ofOtherTenant tid version = true)) (h : a.AlikeFor tid b) :
    (dp.inFrontOf a).serverResourcesForGroupVersion tid group version =
      (dp.inFrontOf b).serverResourcesForGroupVersion tid group version := by
  refine answer_alike (listCRDsForTenant_alike hapart h) fun own up hup => ?_
  have hnot : underOther tid (absPath ("/apis/" ++ (up ++ "/" ++ version))) = false := by
    rw [← Bool.not_eq_true]
    intro hother
    obtain hother | ⟨hempty, hother⟩ :=
      underOther_groupVersion (upstreamGroupFor_slash hc htid hgroup hup) hversion hother
    · rw [upstreamGroupFor_not_other hc hid hapart hup] at hother
      cases hother
    · -- A group with the tenant's prefix is not cleaned away.
      obtain rfl | ⟨hprovides, rfl⟩ := upstreamGroupFor_cases hc hup
      · have hlength : (tenantPrefix tid ++ group).length ≤ 1 := by
          obtain hempty | hempty := hempty
          all_goals rw [hempty]; decide
        simp only [tenantPrefix, String.length_append] at hlength
        omega
      · exact hcond ⟨hprovides, hempty, hother⟩
  show (Except.map _ (a.get _) >>= _) = (Except.map _ (b.get _) >>= _)
  rw [h.get _ hnot]
  rfl

end DiscoveryProxy

/-- A cluster without definitions in which the one path is answered, if it is. -/
def clusterAt (path : List String) (answered : Bool) : DiscoveryCluster where
  serverGroups := .ok none
  get asked := if answered ∧ asked = path then .ok .other
    else .error (.status (newNotFound "" "" ""))
  crds := .ok []

/-- What a tenant asks for is answered alike in front of any two clusters that differ in definitions
of others only, exactly if it does not ask a group that is provided and cleaned away for a version
that reads as another tenant's group. -/
theorem discovery_noninterference_iff (dp : DiscoveryProxy) (hc : dp.contract.Dashes)
    (tid : String) (hid : tid.length = 6) (htid : '/' ∉ tid.toList) (hapart : dp.KeepsApart tid)
    (group version : String) (hgroup : '/' ∉ group.toList) (hversion : '/' ∉ version.toList) :
    (∀ a b : DiscoveryCluster, a.AlikeFor tid b →
      (dp.inFrontOf a).serverGroups tid = (dp.inFrontOf b).serverGroups tid ∧
      (dp.inFrontOf a).serverVersionsForGroup tid group =
        (dp.inFrontOf b).serverVersionsForGroup tid group ∧
      (dp.inFrontOf a).serverResourcesForGroupVersion tid group version =
        (dp.inFrontOf b).serverResourcesForGroupVersion tid group version) ↔
    ¬ (dp.provides group = true ∧ (group = "" ∨ group = ".") ∧
      ofOtherTenant tid version = true) := by
  constructor
  · rintro h ⟨hprovides, hempty, hother⟩
    have hpath := absPath_cleaned hempty hversion hother
    have halike : (clusterAt ["apis", version] true).AlikeFor tid
        (clusterAt ["apis", version] false) := by
      refine ⟨rfl, rfl, fun path hnot => ?_⟩
      have hne : path ≠ ["apis", version] := by
        rintro rfl
        simp [underOther, hother] at hnot
      simp [clusterAt, hne]
    have hanswer : ∀ answered, ((dp.inFrontOf (clusterAt ["apis", version]
        answered)).serverResourcesForGroupVersion tid group version).isOk = answered := by
      intro answered
      have hup : (dp.inFrontOf (clusterAt ["apis", version] answered)).resourcesGroup tid group
          version = .ok group := by
        rw [resourcesGroup_eq (show _ = Except.ok [] from rfl), upstreamGroupFor_eq]
        exact if_pos hprovides
      rw [serverResourcesForGroupVersion, hup]
      show Except.isOk (Except.map _ (DiscoveryCluster.get _ (absPath _)) >>= _) = _
      rw [hpath]
      cases answered with
      | false => rfl
      | true => simp [clusterAt, Except.map, bind, Except.bind, pure, Except.pure, Except.toBool]
    have heq := congrArg Except.isOk (h _ _ halike).2.2
    rw [hanswer true, hanswer false] at heq
    cases heq
  · intro hcond a b h
    exact ⟨serverGroups_alike hapart h,
      serverVersionsForGroup_alike hc hid hapart htid hgroup h,
      serverResourcesForGroupVersion_alike hc hid hapart htid hgroup hversion hcond h⟩

def acmeCluster (installed : Bool) : DiscoveryCluster where
  serverGroups := .ok (some { groups := if installed then [{ name := "222222-acme.io" }] else [] })
  get path :=
    if installed ∧ path = ["apis", "222222-acme.io"] then .ok (.group { name := "222222-acme.io" })
    else if installed ∧ path = ["apis", "222222-acme.io", "v1"] then
      .ok (.resources { groupVersion := "222222-acme.io/v1", apiResources := [{ name := "rockets" }] })
    else .error (.status (newNotFound "" "" ""))
  crds := .ok (if installed then
    [{ name := "rockets.222222-acme.io", group := "222222-acme.io", plural := "rockets",
       versions := ["v1"] }] else [])

lemma alikeFor_acmeCluster : (acmeCluster true).AlikeFor "111111" (acmeCluster false) where
  crds := by rfl
  groups := by rfl
  get path hpath := by
    have hne : ∀ rest, path ≠ "apis" :: "222222-acme.io" :: rest := by
      rintro rest rfl
      exact absurd hpath (by
        simp [underOther, show ofOtherTenant "111111" "222222-acme.io" = true by decide])
    simp [acmeCluster, hne]

/-- A gateway that serves the core group, as `ServedAPIGroups` has it, and `storage.k8s.io`. -/
def coreDiscovery : DiscoveryProxy :=
  { storageDiscovery "acme.io" with servedGroups := ["", "storage.k8s.io"] }

lemma keepsApart_coreDiscovery : coreDiscovery.KeepsApart "111111" where
  belongs crd h := by
    obtain ⟨rest, hrest⟩ := startsWith_iff.mp h
    rw [hrest]
    exact ofOtherTenant_own (by decide) rest
  provides group h := by
    obtain rfl | rfl | rfl :
        group = "" ∨ group = "storage.k8s.io" ∨ group = "snapshot.storage.k8s.io" := by
      by_contra hnone
      simp only [not_or] at hnone
      have hbeq : (group == "snapshot.storage.k8s.io") = false := by simp [hnone.2.2]
      simp [provides, coreDiscovery, storageDiscovery, resourcesOf,
        sharedCRDResources, List.lookup_cons, List.lookup_nil, hbeq, hnone.1, hnone.2.1] at h
    · decide
    · decide
    · decide

theorem discovery_noninterference_acme :
    ((acmeCluster true).client.serverResourcesForGroupVersion "222222-acme.io/v1").isOk = true ∧
    (coreDiscovery.inFrontOf (acmeCluster true)).serverResourcesForGroupVersion "111111"
        "222222-acme.io" "v1" =
      (coreDiscovery.inFrontOf (acmeCluster false)).serverResourcesForGroupVersion "111111"
        "222222-acme.io" "v1" :=
  ⟨by decide +kernel, (((discovery_noninterference_iff coreDiscovery dashes_dashContract "111111"
    (by decide) (by decide) keepsApart_coreDiscovery "222222-acme.io" "v1" (by decide) (by decide)).mpr
    (by decide +kernel)) _ _ alikeFor_acmeCluster).2.2⟩

/-- `/apis//222222-acme.io` tells tenant 111111 whether another has a definition in
`222222-acme.io`. -/
theorem core_group_tells_definitions :
    (acmeCluster true).AlikeFor "111111" (acmeCluster false) ∧
    ((coreDiscovery.inFrontOf (acmeCluster true)).serverResourcesForGroupVersion "111111" ""
      "222222-acme.io").isOk = true ∧
    ((coreDiscovery.inFrontOf (acmeCluster false)).serverResourcesForGroupVersion "111111" ""
      "222222-acme.io").isOk = false :=
  ⟨alikeFor_acmeCluster, by decide +kernel, by decide +kernel⟩

end KubeZoo
