import KubeZoo.Convert.RoleBinding

/-! # Access reviews -/

namespace KubeZoo

open Tag

def isLowerAlphanumeric (ch : Char) : Bool :=
  ('a' ≤ ch && ch ≤ 'z') || ('0' ≤ ch && ch ≤ '9')

def matchesDNSLabel (s : List Char) : Bool :=
  s.all (fun ch => isLowerAlphanumeric ch || ch == '-') &&
    s.head?.any isLowerAlphanumeric && s.getLast?.any isLowerAlphanumeric

/-- `ValidateNamespaceName` finds nothing. -/
def isNamespaceName (s : String) : Bool := s.length ≤ 63 && matchesDNSLabel s.toList

/-- `ValidateServiceAccountName` finds nothing. -/
def isServiceAccountName (s : String) : Bool :=
  s.length ≤ 253 && (s.toList.splitOn '.').all matchesDNSLabel

/-- `serviceaccount.SplitUsername`, of the Kubernetes libraries. -/
def splitUsername (username : String) : Option (String × String) :=
  if !startsWith username serviceAccountUsernamePrefix then none
  else
    match (Tag.trim serviceAccountUsernamePrefix username).toList.splitOn ':' with
    | [ns, name] =>
      let ns := String.ofList ns
      let name := String.ofList name
      if isNamespaceName ns && isServiceAccountName name then some (ns, name) else none
    | _ => none

def serviceAccountsGroupNamespace (group : String) : Option String :=
  if !startsWith group serviceAccountGroupPrefix then none
  else
    let ns := Tag.trim serviceAccountGroupPrefix group
    if ns = "" then none else some ns

structure ResourceAttributes where
  «namespace» : String := ""
  group : String := ""
deriving DecidableEq

structure SubjectAccessReviewSpec where
  resourceAttributes : Option ResourceAttributes := none
  user : String := ""
  groups : List String := []
deriving DecidableEq

inductive AccessReview
  | selfSubjectAccessReview (resourceAttributes : Option ResourceAttributes)
  | localSubjectAccessReview (spec : SubjectAccessReviewSpec)
  | subjectAccessReview (spec : SubjectAccessReviewSpec)
  | selfSubjectRulesReview (ns : String)
deriving DecidableEq

section

variable (c : Contract) (isNativeAPIGroup : String → Bool)

def forwardResourceAttributes (attributes : ResourceAttributes) (tid : String) :
    ResourceAttributes where
  «namespace» :=
    if attributes.namespace ≠ "" then c.upstreamNamespace tid attributes.namespace
    else attributes.namespace
  group :=
    if attributes.group ≠ "" ∧ !isNativeAPIGroup attributes.group then
      c.addTenantIDPrefix tid attributes.group
    else attributes.group

def forwardUsername (username tid : String) : Except GoError String :=
  match splitUsername username with
  | some (ns, name) => .ok (makeUsername (c.upstreamNamespace tid ns) name)
  | none =>
    if startsWith username "system:" then
      .error (.plain ("user " ++ quoted username ++ " belongs to the cluster itself, not to tenant " ++ tid ++ "; an access review may only ask about the tenant's own users and service accounts"))
    else .ok (c.addTenantIDPrefix tid username)

def forwardGroup (group tid : String) : Except GoError String :=
  if group = "system:authenticated" ∨ group = "system:unauthenticated" ∨
      group = "system:serviceaccounts" then .ok group
  else
    match serviceAccountsGroupNamespace group with
    | some ns => .ok (makeNamespaceGroupName (c.upstreamNamespace tid ns))
    | none =>
      if startsWith group "system:" then
        .error (.plain ("group " ++ quoted group ++ " belongs to the cluster itself, not to tenant " ++ tid ++ "; an access review may only ask about the tenant's own groups"))
      else .ok (c.addTenantIDPrefix tid group)

def forwardSubject (spec : SubjectAccessReviewSpec) (tid : String) :
    Except GoError SubjectAccessReviewSpec := do
  let user ← (if spec.user ≠ "" then forwardUsername c spec.user tid else .ok spec.user)
  let groups ← spec.groups.mapM (forwardGroup c · tid)
  return { spec with user := user, groups := groups }

def forwardReviewSpec (spec : SubjectAccessReviewSpec) (tid : String) :
    Except GoError SubjectAccessReviewSpec :=
  forwardSubject c { spec with
    resourceAttributes := spec.resourceAttributes.map
      (forwardResourceAttributes c isNativeAPIGroup · tid) } tid

/-- `AccessReviewTransformer.Forward`. -/
def forwardAccessReview (tid : String) : AccessReview → Except GoError AccessReview
  | .selfSubjectAccessReview attributes =>
    .ok (.selfSubjectAccessReview
      (attributes.map (forwardResourceAttributes c isNativeAPIGroup · tid)))
  | .localSubjectAccessReview spec =>
    (forwardReviewSpec c isNativeAPIGroup spec tid).map .localSubjectAccessReview
  | .subjectAccessReview spec =>
    (forwardReviewSpec c isNativeAPIGroup spec tid).map .subjectAccessReview
  | .selfSubjectRulesReview ns =>
    .ok (.selfSubjectRulesReview (if ns ≠ "" then c.upstreamNamespace tid ns else ns))

end

def AccessReview.resourceAttributes : AccessReview → Option ResourceAttributes
  | .selfSubjectAccessReview attributes => attributes
  | .localSubjectAccessReview spec | .subjectAccessReview spec => spec.resourceAttributes
  | .selfSubjectRulesReview _ => none

def AccessReview.namespace : AccessReview → Option String
  | .selfSubjectRulesReview ns => some ns
  | review => review.resourceAttributes.map (·.namespace)

section

variable {c : Contract} {isNativeAPIGroup : String → Bool} {tid : String}
  {review review' : AccessReview}

lemma resourceAttributes_forwardAccessReview
    (h : forwardAccessReview c isNativeAPIGroup tid review = .ok review') :
    review'.resourceAttributes = review.resourceAttributes.map
      (forwardResourceAttributes c isNativeAPIGroup · tid) := by
  have hspec : ∀ spec spec', forwardReviewSpec c isNativeAPIGroup spec tid = .ok spec' →
      spec'.resourceAttributes = spec.resourceAttributes.map
        (forwardResourceAttributes c isNativeAPIGroup · tid) := by
    intro spec spec' hspec
    obtain ⟨_, _, hspec⟩ := Except.bind_eq_ok_iff.mp hspec
    obtain ⟨_, _, hspec⟩ := Except.bind_eq_ok_iff.mp hspec
    rw [← Except.ok.inj hspec]
  cases review with
  | selfSubjectAccessReview attributes | selfSubjectRulesReview ns =>
    rw [← Except.ok.inj h]
    rfl
  | localSubjectAccessReview spec | subjectAccessReview spec =>
    obtain ⟨spec', hspec', rfl⟩ := Except.map_eq_ok_iff.mp h
    exact hspec spec spec' hspec'

lemma namespace_forwardAccessReview {ns : String} (hns : ns ≠ "") (hreview : review.namespace = some ns)
    (h : forwardAccessReview c isNativeAPIGroup tid review = .ok review') :
    review'.namespace = some (c.upstreamNamespace tid ns) := by
  have hattributes := resourceAttributes_forwardAccessReview h
  have hmap : ∀ attributes : Option ResourceAttributes, attributes.map (·.namespace) = some ns →
      (attributes.map (forwardResourceAttributes c isNativeAPIGroup · tid)).map
        (·.namespace) = some (c.upstreamNamespace tid ns) := by
    intro attributes hattributes
    obtain ⟨a, rfl, rfl⟩ := Option.map_eq_some_iff.mp hattributes
    simp [forwardResourceAttributes, hns]
  cases review with
  | selfSubjectAccessReview attributes =>
    obtain rfl := Except.ok.inj h
    exact hmap _ hreview
  | localSubjectAccessReview spec | subjectAccessReview spec =>
    obtain ⟨spec', hspec', rfl⟩ := Except.map_eq_ok_iff.mp h
    rw [AccessReview.namespace, hattributes]
    · exact hmap _ hreview
    · nofun
  | selfSubjectRulesReview ns' =>
    obtain rfl := Option.some.inj hreview
    obtain rfl := Except.ok.inj h
    simp [AccessReview.namespace, hns]

end

end KubeZoo
