import KubeZoo.Convert.AccessReview

/-! # Whom a review is about -/

namespace KubeZoo

open Tag

/-- The part of `authentication.TokenReview` that is read or written: the user of its status. -/
structure TokenReview where
  username : String := ""
  groups : List String := []
deriving DecidableEq

def tokenReviewTransformer (c : Contract) : ObjectTransformer (Owned TokenReview) where
  forward o _ := .ok o
  backward o tid :=
    match splitUsername o.body.spec.username with
    | none => .ok o
    | some (prefixedNamespace, name) =>
      let ns := c.trimTenantIDPrefix tid prefixedNamespace
      .ok (o.withSpec
        { username := makeUsername ns name
          groups := o.body.spec.groups.map fun group =>
            if group = makeNamespaceGroupName prefixedNamespace then makeNamespaceGroupName ns
            else group })

lemma not_mem_of_matchesDNSLabel {s : List Char} (h : matchesDNSLabel s = true) : ':' ∉ s := by
  intro hmem
  unfold matchesDNSLabel at h
  rw [Bool.and_eq_true, Bool.and_eq_true, List.all_eq_true] at h
  exact absurd (h.1.1 _ hmem) (by decide)

lemma splitUsername_eq_some {username ns name : String}
    (h : splitUsername username = some (ns, name)) :
    username = makeUsername ns name ∧ ':' ∉ ns.toList ∧ ns ≠ "" := by
  unfold splitUsername at h
  split_ifs at h with hstart
  rw [Bool.not_eq_true', Bool.not_eq_false, startsWith_iff] at hstart
  split at h
  · next a b hparts =>
    simp only at h
    split_ifs at h with hvalid
    obtain ⟨rfl, rfl⟩ := Prod.mk.inj (Option.some.inj h)
    have hlabel := (Bool.and_eq_true_iff.mp (Bool.and_eq_true_iff.mp hvalid).1).2
    have hjoin : [':'].intercalate ((trim serviceAccountUsernamePrefix username).toList.splitOn ':') =
        (trim serviceAccountUsernamePrefix username).toList := List.intercalate_splitOn ':'
    rw [hparts] at hjoin
    refine ⟨?_, not_mem_of_matchesDNSLabel hlabel, ?_⟩
    · rw [← append_trim hstart, makeUsername, String.append_assoc, String.append_assoc]
      congr 1
      apply String.toList_injective
      rw [← hjoin]
      simp [List.intercalate]
    · intro hempty
      rw [hempty] at hlabel
      exact absurd hlabel (by decide)
  · cases h

def beforeColon (s : String) : List Char := s.toList.takeWhile (· != ':')

lemma beforeColon_append {ns rest : String} (hns : ':' ∉ ns.toList) :
    beforeColon (ns ++ (":" ++ rest)) = ns.toList := by
  have hall : ∀ ch ∈ ns.toList, (ch != ':') = true := fun ch hch =>
    bne_iff_ne.mpr fun h => hns (h ▸ hch)
  rw [beforeColon, String.toList_append, List.takeWhile_append_of_pos hall]
  simp

lemma makeUsername_inj {ns ns' name name' : String} (hns : ':' ∉ ns.toList) (hns' : ':' ∉ ns'.toList) :
    makeUsername ns name = makeUsername ns' name' ↔ ns = ns' ∧ name = name' := by
  constructor
  · intro h
    simp only [makeUsername, String.append_assoc, String.append_right_inj] at h
    have hbefore := congrArg beforeColon h
    rw [beforeColon_append hns, beforeColon_append hns'] at hbefore
    obtain rfl := String.toList_injective hbefore
    rw [String.append_right_inj, String.append_right_inj] at h
    exact ⟨rfl, h⟩
  · rintro ⟨rfl, rfl⟩
    rfl

/-- The account `u` is the tenant's, and `v`, which is not, has the name that the tenant calls `u`. -/
def Shadows (tid : String) (u v : String × String) : Prop :=
  u.2 = v.2 ∧ u.1 = tenantPrefix tid ++ v.1 ∧ ¬ Marked (tenantPrefix tid) v.1

section

variable {c : Contract} {tid ns ns' : String} {name : String}

lemma not_mem_trim (hns : ':' ∉ ns.toList) : ':' ∉ (trim (tenantPrefix tid) ns).toList := by
  by_cases hmarked : Marked (tenantPrefix tid) ns
  · obtain ⟨rest, rfl⟩ := hmarked
    rw [trim_append]
    rw [String.toList_append, List.mem_append, not_or] at hns
    exact hns.2
  · rwa [trim_of_not hmarked]

lemma trim_eq_trim_iff {tag : String} :
    trim tag ns = trim tag ns' ↔
      ns = ns' ∨ ns = tag ++ ns' ∧ ¬ Marked tag ns' ∨ ns' = tag ++ ns ∧ ¬ Marked tag ns := by
  by_cases h : Marked tag ns
  · obtain ⟨rest, rfl⟩ := h
    by_cases h' : Marked tag ns'
    · obtain ⟨rest', rfl⟩ := h'
      simp [marked_append]
    · rw [trim_of_not h']
      have hne : tag ++ rest ≠ ns' := fun he => h' ⟨rest, he.symm⟩
      simp [hne, h', marked_append]
  · rw [trim_of_not h]
    by_cases h' : Marked tag ns'
    · obtain ⟨rest', rfl⟩ := h'
      have hne : ns ≠ tag ++ rest' := fun he => h ⟨rest', he⟩
      simp [hne, h, marked_append, eq_comm]
    · have hne : ns ≠ tag ++ ns' := fun he => h ⟨ns', he⟩
      have hne' : ns' ≠ tag ++ ns := fun he => h' ⟨ns, he⟩
      simp [trim_of_not h', hne, hne']

lemma backward_tokenReview (hc : c.Dashes) (tid : String) {o : Object (Owned TokenReview)}
    (h : splitUsername o.body.spec.username = some (ns, name)) :
    ∃ shown, (tokenReviewTransformer c).backward o tid = .ok shown ∧
      shown.body.spec.username = makeUsername (trim (tenantPrefix tid) ns) name := by
  rw [← hc.trim]
  simp only [tokenReviewTransformer, h]
  exact ⟨_, rfl, rfl⟩

lemma stored_serviceAccount (hc : c.Dashes) :
    transformSubjectToUpstream c tid { kind := "ServiceAccount", name := name, «namespace» := ns } =
      .ok { kind := "ServiceAccount", name := name,
            «namespace» := if ns = "" then "" else tenantPrefix tid ++ ns } := by
  rw [transformSubjectToUpstream_eq hc]
  by_cases hns : ns = ""
  · simp [SubjectKind.ofString, rewrite, hns]
  · simp [SubjectKind.ofString, rewrite, hns]

end

/-- The names under which a tenant sees two service accounts differ exactly if neither has the name
that the tenant calls the other. -/
theorem token_review_tells_apart_iff (c : Contract) (hc : c.Dashes) (tid : String)
    (o o' : Object (Owned TokenReview)) (u v : String × String)
    (hu : splitUsername o.body.spec.username = some u)
    (hv : splitUsername o'.body.spec.username = some v)
    (hne : o.body.spec.username ≠ o'.body.spec.username) :
    ∃ shown shown', (tokenReviewTransformer c).backward o tid = .ok shown ∧
      (tokenReviewTransformer c).backward o' tid = .ok shown' ∧
      (shown.body.spec.username ≠ shown'.body.spec.username ↔
        ¬ Shadows tid u v ∧ ¬ Shadows tid v u) ∧
      ∃ ns, shown'.body.spec.username = makeUsername ns v.2 ∧ ∀ subject,
        Marked (tenantPrefix tid) u.1 → transformSubjectToUpstream c tid
          { kind := "ServiceAccount", name := v.2, «namespace» := ns } = .ok subject →
        ((subject.namespace, subject.name) = u ↔ Shadows tid u v) := by
  obtain ⟨ns, name⟩ := u
  obtain ⟨ns', name'⟩ := v
  obtain ⟨huser, hcolon, -⟩ := splitUsername_eq_some hu
  obtain ⟨huser', hcolon', hempty⟩ := splitUsername_eq_some hv
  obtain ⟨shown, hshown, hname⟩ := backward_tokenReview hc tid hu
  obtain ⟨shown', hshown', hname'⟩ := backward_tokenReview hc tid hv
  have hpair : ¬ (ns = ns' ∧ name = name') := by
    rintro ⟨rfl, rfl⟩
    exact hne (huser.trans huser'.symm)
  refine ⟨shown, shown', hshown, hshown', ?_, _, hname', ?_⟩
  · rw [hname, hname', ne_eq, makeUsername_inj (not_mem_trim hcolon) (not_mem_trim hcolon'),
      trim_eq_trim_iff, ← not_or, not_iff_not]
    constructor
    · rintro ⟨rfl | h | h, rfl⟩
      · exact absurd ⟨rfl, rfl⟩ hpair
      · exact .inl ⟨rfl, h⟩
      · exact .inr ⟨rfl, h⟩
    · rintro (⟨hname, h⟩ | ⟨hname, h⟩)
      · exact ⟨.inr (.inl h), hname⟩
      · exact ⟨.inr (.inr h), hname.symm⟩
  · rintro subject ⟨rest, hrest⟩ hsubject
    have hpair' : name = name' → ns' ≠ tenantPrefix tid ++ rest :=
      fun hname h => hpair ⟨hrest.trans h.symm, hname⟩
    subst hrest
    rw [stored_serviceAccount hc, Except.ok.injEq] at hsubject
    subst hsubject
    simp only [Prod.mk.injEq]
    by_cases hmarked : Marked (tenantPrefix tid) ns'
    · obtain ⟨rest', rfl⟩ := hmarked
      rw [trim_append]
      refine iff_of_false ?_ fun h => h.2.2 (marked_append _ _)
      rintro ⟨hns, rfl⟩
      split_ifs at hns
      · exact append_ne_empty (tenantPrefix_ne _) _ hns.symm
      · exact hpair' rfl hns
    · rw [trim_of_not hmarked, if_neg hempty]
      constructor
      · rintro ⟨hns, rfl⟩
        exact ⟨rfl, hns.symm, hmarked⟩
      · rintro ⟨rfl, hns, -⟩
        exact ⟨hns.symm, rfl⟩

def reviewOf (ns : String) : Object (Owned TokenReview) :=
  { body := { spec := { username := makeUsername ns "build" } } }

theorem token_review_tells_apart_own :
    ∃ shown shown', (tokenReviewTransformer dashContract).backward (reviewOf "111111-ci") "111111" =
        .ok shown ∧
      (tokenReviewTransformer dashContract).backward (reviewOf "222222-ci") "111111" = .ok shown' ∧
      shown.body.spec.username ≠ shown'.body.spec.username := by
  obtain ⟨shown, shown', hshown, hshown', hiff, -⟩ := token_review_tells_apart_iff dashContract
    dashes_dashContract "111111" (reviewOf "111111-ci") (reviewOf "222222-ci")
    ("111111-ci", "build") ("222222-ci", "build") (by decide +kernel) (by decide +kernel) (by decide)
  refine ⟨shown, shown', hshown, hshown', hiff.mpr ⟨fun h => ?_, fun h => ?_⟩⟩
  · exact absurd h.2.1 (by decide)
  · exact absurd h.2.1 (by decide)

theorem token_review_confuses_platform :
    (reviewOf "111111-ci").body.spec.username ≠ (reviewOf "ci").body.spec.username ∧
    ((tokenReviewTransformer dashContract).backward (reviewOf "111111-ci") "111111").map
        (·.body.spec.username) = .ok "system:serviceaccount:ci:build" ∧
    ((tokenReviewTransformer dashContract).backward (reviewOf "ci") "111111").map
        (·.body.spec.username) = .ok "system:serviceaccount:ci:build" := by
  decide +kernel

def Subject.requester (s : Subject) : String :=
  match SubjectKind.ofString s.kind with
  | .serviceAccount => makeUsername s.namespace s.name
  | _ => s.name

section

variable {c : Contract} {tid s asked ns : String}

lemma tenantPrefix_append_ne (tid : String) :
    tenantPrefix tid ++ serviceAccountUsernamePrefix ≠
      serviceAccountUsernamePrefix ++ tenantPrefix tid := by
  intro h
  have hlast := congrArg (fun t : String => t.toList.getLast?) h
  simp only [tenantPrefix, String.toList_append, List.getLast?_append] at hlast
  exact absurd (show some ':' = some '-' from hlast) (by decide)

lemma makeUsername_ensure_ne {name : String} :
    tenantPrefix tid ++ makeUsername ns name ≠
      makeUsername (ensure (tenantPrefix tid) ns) name := by
  intro h
  by_cases hmarked : Marked (tenantPrefix tid) ns
  · rw [ensure_of_marked hmarked] at h
    exact append_ne (tenantPrefix_ne _) _ h
  · rw [ensure_of_not hmarked] at h
    simp only [makeUsername, ← String.append_assoc, String.append_left_inj] at h
    exact tenantPrefix_append_ne tid h

lemma forwardUsername_ok (hc : c.Dashes) (h : forwardUsername c s tid = .ok asked) :
    splitUsername s = none ∧ asked = tenantPrefix tid ++ s ∨
      ∃ ns name, splitUsername s = some (ns, name) ∧
        asked = makeUsername (ensure (tenantPrefix tid) ns) name := by
  unfold forwardUsername at h
  cases hsplit : splitUsername s with
  | none =>
    simp only [hsplit] at h
    split_ifs at h
    exact .inl ⟨rfl, by rw [← Except.ok.inj h, hc.add]⟩
  | some u =>
    simp only [hsplit] at h
    obtain ⟨-, -, hns⟩ := splitUsername_eq_some hsplit
    exact .inr ⟨u.1, u.2, rfl, by rw [← Except.ok.inj h, hc.upstream _ _ hns]⟩

lemma serviceAccountsGroupNamespace_eq_some_iff :
    serviceAccountsGroupNamespace s = some ns ↔ ns ≠ "" ∧ s = makeNamespaceGroupName ns := by
  unfold serviceAccountsGroupNamespace
  simp only
  constructor
  · intro h
    split_ifs at h with hstart hempty
    rw [Bool.not_eq_true', Bool.not_eq_false, startsWith_iff] at hstart
    obtain rfl := Option.some.inj h
    exact ⟨hempty, (append_trim hstart).symm⟩
  · rintro ⟨hns, rfl⟩
    have hstart : startsWith (serviceAccountGroupPrefix ++ ns) serviceAccountGroupPrefix = true :=
      startsWith_iff.mpr (marked_append _ _)
    simp [makeNamespaceGroupName, hstart, hns]

lemma forwardGroup_ok (hc : c.Dashes) (hs : s ≠ "system:authenticated")
    (hs' : s ≠ "system:unauthenticated") (hs'' : s ≠ "system:serviceaccounts")
    (h : forwardGroup c s tid = .ok asked) :
    (∃ ns, serviceAccountsGroupNamespace s = some ns ∧
      asked = makeNamespaceGroupName (ensure (tenantPrefix tid) ns) ∧
      forwardGroupName c tid s = makeNamespaceGroupName (tenantPrefix tid ++ ns)) ∨
    serviceAccountsGroupNamespace s = none ∧ asked = tenantPrefix tid ++ s ∧
      forwardGroupName c tid s = if s = "" then "" else tenantPrefix tid ++ s := by
  unfold forwardGroup at h
  rw [if_neg (by simp [hs, hs', hs''])] at h
  cases hgroup : serviceAccountsGroupNamespace s with
  | some ns =>
    simp only [hgroup] at h
    obtain ⟨hns, rfl⟩ := serviceAccountsGroupNamespace_eq_some_iff.mp hgroup
    exact .inl ⟨ns, rfl, by rw [← Except.ok.inj h, hc.upstream _ _ hns],
      forwardGroupName_namespace hc hns⟩
  | none =>
    simp only [hgroup] at h
    split_ifs at h
    refine .inr ⟨rfl, by rw [← Except.ok.inj h, hc.add], ?_⟩
    split_ifs with hempty
    · rw [hempty, forwardGroupName_empty]
    · refine forwardGroupName_other hc hempty fun ⟨ns, hns⟩ => ?_
      rw [serviceAccountsGroupNamespace_eq_some_iff.mpr hns] at hgroup
      cases hgroup

lemma ite_append_eq_iff {tag : String} (htag : tag ≠ "") :
    (if s = "" then "" else tag ++ s) = tag ++ s ↔ s ≠ "" := by
  split_ifs with hs
  · exact iff_of_false (append_ne_empty htag s).symm (not_not.mpr hs)
  · exact iff_of_true rfl hs

end

/-- A review asks about the user that a subject of that name is stored with exactly if the name is none
of a service account, and not empty; about the service account that a subject is stored with exactly if
the namespace is not in upstream's spelling; and about the group, if it is not the empty one or that of
such a namespace. -/
theorem review_asks_bound_identity_iff (c : Contract) (hc : c.Dashes) (tid s : String) :
    (∀ asked, forwardUsername c s tid = .ok asked →
      ((∀ stored, transformSubjectToUpstream c tid { kind := "User", name := s } = .ok stored →
          stored.requester = asked) ↔ s ≠ "" ∧ splitUsername s = none) ∧
      ∀ ns name, splitUsername s = some (ns, name) → ((∀ stored, transformSubjectToUpstream c tid
            { kind := "ServiceAccount", name := name, «namespace» := ns } = .ok stored →
          stored.requester = asked) ↔ ¬ Marked (tenantPrefix tid) ns)) ∧
    ∀ asked, s ≠ "system:authenticated" → s ≠ "system:unauthenticated" →
      s ≠ "system:serviceaccounts" → forwardGroup c s tid = .ok asked →
      ((∀ stored, transformSubjectToUpstream c tid { kind := "Group", name := s } = .ok stored →
          stored.requester = asked) ↔
        s ≠ "" ∧ ∀ ns, serviceAccountsGroupNamespace s = some ns →
          ¬ Marked (tenantPrefix tid) ns) := by
  have huser : ∀ asked, (∀ stored, transformSubjectToUpstream c tid
      { kind := "User", name := s } = .ok stored → stored.requester = asked) ↔
        (if s = "" then "" else tenantPrefix tid ++ s) = asked := by
    rw [transformSubjectToUpstream_eq hc]
    by_cases hs : s = "" <;> simp [Subject.requester, SubjectKind.ofString, rewrite, hs]
  have hgroup : ∀ asked, (∀ stored, transformSubjectToUpstream c tid
      { kind := "Group", name := s } = .ok stored → stored.requester = asked) ↔
        forwardGroupName c tid s = asked := by
    intro asked
    simp [transformSubjectToUpstream_eq hc, Subject.requester, SubjectKind.ofString]
  constructor
  · intro asked hasked
    rw [huser]
    obtain ⟨hnone, rfl⟩ | ⟨ns, name, hsome, rfl⟩ := forwardUsername_ok hc hasked
    · rw [ite_append_eq_iff (tenantPrefix_ne _), hnone]
      refine ⟨by simp, ?_⟩
      intro ns name h
      cases h
    · obtain ⟨rfl, hcolon, hns⟩ := splitUsername_eq_some hsome
      rw [hsome]
      refine ⟨iff_of_false makeUsername_ensure_ne (by simp), ?_⟩
      intro ns' name' h
      obtain ⟨rfl, rfl⟩ := Prod.mk.inj (Option.some.inj h)
      simp only [stored_serviceAccount hc, Except.ok.injEq, forall_eq', if_neg hns]
      show makeUsername _ _ = _ ↔ _
      rw [makeUsername, makeUsername, String.append_left_inj, String.append_left_inj,
        String.append_right_inj, append_eq_ensure_iff (tenantPrefix_ne _)]
  · intro asked hs hs' hs'' hasked
    rw [hgroup]
    obtain ⟨ns, hsome, rfl, hforward⟩ | ⟨hnone, rfl, hforward⟩ := forwardGroup_ok hc hs hs' hs'' hasked
    · obtain ⟨hns, rfl⟩ := serviceAccountsGroupNamespace_eq_some_iff.mp hsome
      rw [hforward, hsome, makeNamespaceGroupName, makeNamespaceGroupName, String.append_right_inj,
        append_eq_ensure_iff (tenantPrefix_ne _)]
      have hne : makeNamespaceGroupName ns ≠ "" := append_ne_empty (by decide) ns
      simp [hne]
    · rw [hforward, ite_append_eq_iff (tenantPrefix_ne _), hnone]
      simp

theorem review_asks_bound_identity_own :
    (∀ stored, transformSubjectToUpstream dashContract "111111" { kind := "User", name := "ann" } =
      .ok stored → stored.requester = "111111-ann") ∧
    ∀ stored, transformSubjectToUpstream dashContract "111111"
      { kind := "ServiceAccount", name := "build", «namespace» := "ci" } = .ok stored →
        stored.requester = "system:serviceaccount:111111-ci:build" :=
  ⟨((review_asks_bound_identity_iff dashContract dashes_dashContract "111111" "ann").1 _ rfl).1.mpr
      (by decide +kernel),
    (((review_asks_bound_identity_iff dashContract dashes_dashContract "111111"
      "system:serviceaccount:ci:build").1 _ (by decide +kernel)).2 "ci" "build"
        (by decide +kernel)).mpr (by decide)⟩

theorem review_asks_other_identity :
    forwardUsername dashContract "system:serviceaccount:111111-ci:build" "111111" =
      .ok "system:serviceaccount:111111-ci:build" ∧
    (transformSubjectToUpstream dashContract "111111"
      { kind := "ServiceAccount", name := "build", «namespace» := "111111-ci" }).map
        Subject.requester = .ok "system:serviceaccount:111111-111111-ci:build" ∧
    (transformSubjectToUpstream dashContract "111111"
      { kind := "User", name := "system:serviceaccount:111111-ci:build" }).map Subject.requester =
        .ok "111111-system:serviceaccount:111111-ci:build" := by
  decide +kernel

end KubeZoo
