import KubeZoo.Proxy.Requests

/-! # The cap on a tenant's namespaces -/

namespace KubeZoo

structure TenantCapacity where
  maxNamespaces : Option ℤ := none

/-- `tenantlister.TenantLister`, of the capacities. -/
abbrev TenantLister := String → Except GoError (Option TenantCapacity)

def capacityOf (tenants : Option TenantLister) (tid : String) (fallback : ℤ)
    (pick : TenantCapacity → Option ℤ) : ℤ :=
  match tenants with
  | none => fallback
  | some get =>
    if tid = "" then fallback
    else
      match get tid with
      | .error _ => fallback
      | .ok none => fallback
      | .ok (some capacity) =>
        match pick capacity with
        | none => fallback
        | some value => if value < 0 then fallback else value

def maxNamespacesFor (tenants : Option TenantLister) (tid : String) (fallback : ℤ) : ℤ :=
  capacityOf tenants tid fallback fun c => c.maxNamespaces

def refuseTooManyNamespaces {α β : Type} (client : DynamicClient α) (tenants : Option TenantLister)
    (maxNamespaces : ℤ) (isNamespace : β → Bool) (_ctx : RequestContext) (obj : Object β)
    (tid : String) : Except GoError Unit :=
  let limit := maxNamespacesFor tenants tid maxNamespaces
  if limit ≤ 0 then .ok ()
  else if !isNamespace obj.body then .ok ()
  else
    match tenantNamespaces client tid "" with
    | .error _ => .ok ()
    | .ok (owned, _) =>
      if owned.length < limit then .ok ()
      else .error (.status (newForbidden "" "namespaces" "" ("this tenant already owns " ++
        toString owned.length ++ " namespaces and the limit is " ++ toString limit ++
        "; delete one you no longer need, or ask the platform to raise the limit")))

/-- The guards of namespaces; the others are `g`'s. -/
def namespaceGuards {α β : Type} (client : DynamicClient α) (tenants : Option TenantLister)
    (maxNamespaces : ℤ) (isNamespace : β → Bool) (g : Guards β) : Guards β :=
  { g with
    refuseTooManyNamespaces := refuseTooManyNamespaces client tenants maxNamespaces isNamespace }

section

variable {α β : Type} {client : DynamicClient α} {tenants : Option TenantLister} {maxNamespaces : ℤ}
  {isNamespace : β → Bool} {tid revision : String} {names : List String}

lemma tenantNamespaces_of_listed
    (hlist : client.listNamespaces { labelSelector := tenantSelector tid } =
      .ok (names, revision)) :
    tenantNamespaces client tid "" =
      if names.length > maxFannedNamespaces then .error (tooManyNamespaces names.length)
      else .ok (sortStrings names, revision) := by
  unfold tenantNamespaces
  simp only [ne_eq, not_true_eq_false, if_false, hlist]
  rfl

lemma refuseTooManyNamespaces_eq_error_iff {ctx : RequestContext} {obj : Object β}
    (hlimit : 0 < maxNamespacesFor tenants tid maxNamespaces)
    (hobj : isNamespace obj.body = true)
    (hlist : client.listNamespaces { labelSelector := tenantSelector tid } = .ok (names, revision))
    (hmany : maxNamespacesFor tenants tid maxNamespaces ≤ names.length) :
    (∃ status, refuseTooManyNamespaces client tenants maxNamespaces isNamespace ctx obj tid =
      .error (.status status) ∧ status.reason = "Forbidden") ↔
      names.length ≤ maxFannedNamespaces := by
  unfold refuseTooManyNamespaces
  rw [tenantNamespaces_of_listed hlist]
  simp only [not_le.mpr hlimit, hobj]
  by_cases hfew : names.length ≤ maxFannedNamespaces
  · have hlength : (sortStrings names).length = names.length := (sortStrings_perm names).length_eq
    rw [if_neg (not_lt.mpr hfew)]
    simp only [hlength, not_lt.mpr hmany]
    exact iff_of_true ⟨_, rfl, rfl⟩ hfew
  · rw [if_pos (not_le.mp hfew)]
    simp [hfew]

end

/-- A tenant that is at its limit of namespaces, or over it, is refused another one exactly if it has no
more than `maxFannedNamespaces`; and a create that is refused so, by POST or by an apply of what is not
there, sends nothing. -/
theorem namespace_cap_enforced_iff {α β : Type} (client : DynamicClient α)
    (tenants : Option TenantLister) (maxNamespaces : ℤ) (isNamespace : β → Bool)
    (hkind : ∀ b, isNamespace b = true) (tid revision : String) (names : List String)
    (hlist : client.listNamespaces { labelSelector := tenantSelector tid } = .ok (names, revision))
    (hlimit : 0 < maxNamespacesFor tenants tid maxNamespaces)
    (hmany : maxNamespacesFor tenants tid maxNamespaces ≤ names.length) :
    (∀ ctx obj, (∃ status, refuseTooManyNamespaces client tenants maxNamespaces isNamespace ctx obj
      tid = .error (.status status) ∧ status.reason = "Forbidden") ↔
        names.length ≤ maxFannedNamespaces) ∧
    (names.length ≤ maxFannedNamespaces →
      ∀ (tp : TenantProxy β) (g : Guards β) (pods : PodSteps β) (new : Object β)
        (upstream : Upstream β) (ctx : RequestContext) (r : TenantRequest β) (s),
        ctx.tenantID = some tid → tp.creating upstream ctx r = true →
        tp.ship (namespaceGuards client tenants maxNamespaces isNamespace g) pods new upstream ctx r ≠
          .ok s) := by
  refine ⟨fun ctx obj => refuseTooManyNamespaces_eq_error_iff hlimit (hkind _) hlist hmany, ?_⟩
  intro hfew tp g pods new upstream ctx r s hctx hcreating hship
  obtain ⟨obj, -, ⟨-, hnew⟩ | ⟨hfound, -⟩⟩ := TenantProxy.ship_eq_ok_iff.mp hship
  · obtain ⟨-, -, hprep⟩ := TenantProxy.shipNew_eq_ok_iff.mp hnew
    obtain ⟨-, htenant, -, up, u, guarded, -, -, hguard, -⟩ :=
      TenantProxy.prepareCreate_eq_ok_iff.mp hprep
    rw [hctx, Option.some.injEq] at htenant
    subst htenant
    simp only [TenantProxy.guardCreate, namespaceGuards, Except.bind_eq_ok_iff] at hguard
    obtain ⟨-, -, -, -, -, -, -, -, -, -, -, -, -, -, -, -, -, -, -, -, _, hpass, -⟩ := hguard
    obtain ⟨status, hrefused, -⟩ :=
      (refuseTooManyNamespaces_eq_error_iff hlimit (hkind _) hlist hmany).mpr hfew
    rw [hrefused] at hpass
    cases hpass
  · rw [hcreating] at hfound
    cases hfound

def owning (n : ℕ) : DynamicClient Unit where
  listNamespaces _ := .ok (List.replicate n "111111-web", "7")
  list _ _ := .ok {}

theorem namespace_cap_enforced_two :
    ∃ status, refuseTooManyNamespaces (owning 2) none 2 (fun _ : Unit => true) (webVerb "create")
      ⟨{}, .absent, ()⟩ "111111" = .error (.status status) ∧ status.reason = "Forbidden" :=
  ((namespace_cap_enforced_iff (owning 2) none 2 (fun _ : Unit => true) (fun _ => rfl) "111111" "7"
    ["111111-web", "111111-web"] rfl (by decide) (by decide)).1 (webVerb "create")
    ⟨{}, .absent, ()⟩).mpr (by decide)

theorem namespace_cap_passed_by_many :
    0 < maxNamespacesFor none "111111" 2 ∧ maxNamespacesFor none "111111" 2 ≤ (501 : ℕ) ∧
      refuseTooManyNamespaces (owning 501) none 2 (fun _ : Unit => true) (webVerb "create")
        ⟨{}, .absent, ()⟩ "111111" = .ok () := by
  have hcount : tenantNamespaces (owning 501) "111111" "" = .error (tooManyNamespaces 501) := by
    refine (tenantNamespaces_of_listed rfl).trans ?_
    rw [List.length_replicate, if_pos (by decide)]
  refine ⟨by decide, by decide, ?_⟩
  unfold refuseTooManyNamespaces
  rw [hcount]
  rfl

end KubeZoo
