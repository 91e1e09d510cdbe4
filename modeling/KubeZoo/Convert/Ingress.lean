import KubeZoo.Convert.Default
import KubeZoo.Lib.Rename
import KubeZoo.PublishedClass

/-! # Ingress classes -/

namespace KubeZoo

open Tag Rename

structure Ingress where
  ingressClassName : Option String := none
deriving DecidableEq

def deprecatedIngressClassAnnotation : String := "kubernetes.io/ingress.class"

/-- `toUpstream`. -/
def ingressClassToUpstream (c : Contract) (published : PublishedClasses) (tid cls : String) :
    String :=
  if published.visible cls then cls else c.addTenantIDPrefix tid cls

/-- `toTenant`. -/
def ingressClassToTenant (c : Contract) (published : PublishedClasses) (tid cls : String) :
    String :=
  if published.visible cls then cls else c.trimTenantIDPrefix tid cls

def Object.renameIngressClass (rename : String → String) (o : Object (Owned Ingress)) :
    Object (Owned Ingress) :=
  { o with
    metadata := { o.metadata with
      annotations := entry deprecatedIngressClassAnnotation rename o.metadata.annotations }
    body := { o.body with
      spec := { ingressClassName := value rename o.body.spec.ingressClassName } } }

def ingressTransformer (c : Contract) (published : PublishedClasses) :
    ObjectTransformer (Owned Ingress) where
  forward o tid := .ok (o.renameIngressClass (ingressClassToUpstream c published tid))
  backward o tid := .ok (o.renameIngressClass (ingressClassToTenant c published tid))

def Object.NamesIngressClass (o : Object (Owned Ingress)) (cls : String) : Prop :=
  cls ≠ "" ∧ (o.body.spec.ingressClassName = some cls ∨
    o.metadata.annotations[ deprecatedIngressClassAnnotation]? = some cls)

section

variable {f g : String → String} {o : Object (Owned Ingress)}

lemma renameIngressClass_renameIngressClass :
    (o.renameIngressClass f).renameIngressClass g = o.renameIngressClass (andThen f g) := by
  simp only [Object.renameIngressClass, value_value, entry_entry]

lemma renameIngressClass_eq_iff :
    o.renameIngressClass f = o.renameIngressClass g ↔
      ∀ cls, o.NamesIngressClass cls → f cls = g cls := by
  have hparts : o.renameIngressClass f = o.renameIngressClass g ↔
      value f o.body.spec.ingressClassName = value g o.body.spec.ingressClassName ∧
      entry deprecatedIngressClassAnnotation f o.metadata.annotations =
        entry deprecatedIngressClassAnnotation g o.metadata.annotations := by
    constructor
    · intro h
      exact ⟨congrArg (fun o : Object (Owned Ingress) => o.body.spec.ingressClassName) h,
        congrArg (fun o : Object (Owned Ingress) => o.metadata.annotations) h⟩
    · intro h
      rw [Object.renameIngressClass, Object.renameIngressClass, h.1, h.2]
  rw [hparts, entry_eq_iff, value_eq_iff, value_eq_iff]
  constructor
  · intro h cls hcls
    obtain ⟨hne, hspec | hannotation⟩ := hcls
    · exact h.1 cls hne hspec
    · exact h.2 cls hne hannotation
  · intro h
    exact ⟨fun cls hne hcls => h cls ⟨hne, .inl hcls⟩, fun cls hne hcls => h cls ⟨hne, .inr hcls⟩⟩

lemma renameIngressClass_eq_self_iff :
    o.renameIngressClass f = o ↔ ∀ cls, o.NamesIngressClass cls → f cls = cls := by
  have hself : o.renameIngressClass (fun name => name) = o := by
    rw [Object.renameIngressClass, value_id, entry_id]
  rw [← renameIngressClass_eq_iff, hself]

end

section

variable {c : Contract} {tid cls : String} {P P₁ P₂ : PublishedClasses}

def IngressClassKept (tid : String) (P₁ P₂ : PublishedClasses) (cls : String) : Prop :=
  if P₁.visible cls then
    P₂.visible cls = true ∨ ∃ own, own ≠ "" ∧ cls = tenantPrefix tid ++ own ∧ P₂.visible own = false
  else P₂.visible (tenantPrefix tid ++ cls) = true ∨ P₂.visible cls = false

/-- A stored class is shown under the name a tenant has for it. -/
def IngressClassRead (tid : String) (P : PublishedClasses) (cls : String) : Prop :=
  P.visible cls = true ∨ P.visible (tenantPrefix tid ++ cls) = false

def ingressClassAgain (c : Contract) (P : PublishedClasses) (tid : String) : String → String :=
  andThen (ingressClassToTenant c P tid) (ingressClassToUpstream c P tid)

lemma ingressClassToUpstream_ne (hc : c.Dashes) (hcls : cls ≠ "") :
    ingressClassToUpstream c P tid cls ≠ "" := by
  unfold ingressClassToUpstream
  split_ifs
  · exact hcls
  · rw [hc.add]
    exact append_ne_empty (tenantPrefix_ne _) _

lemma exists_own_iff (hcls : cls ≠ "") :
    (∃ own, own ≠ "" ∧ tenantPrefix tid ++ cls = tenantPrefix tid ++ own ∧
      P.visible own = false) ↔ P.visible cls = false := by
  constructor
  · rintro ⟨own, -, h, hown⟩
    rw [(String.append_right_inj _).mp h]
    exact hown
  · intro h
    exact ⟨cls, hcls, rfl, h⟩

lemma ingressClassAgain_eq_iff (hc : c.Dashes) (hcls : cls ≠ "") :
    ingressClassAgain c P tid cls = cls ↔ P.visible cls = true ∨
      ∃ own, own ≠ "" ∧ cls = tenantPrefix tid ++ own ∧ P.visible own = false := by
  unfold ingressClassAgain andThen ingressClassToTenant ingressClassToUpstream
  by_cases hvisible : P.visible cls = true
  · simp [hvisible]
  · simp only [hvisible, Bool.false_eq_true, if_false, false_or, hc.trim, hc.add]
    by_cases hmarked : Marked (tenantPrefix tid) cls
    · obtain ⟨own, rfl⟩ := hmarked
      rw [trim_append]
      by_cases hown : own = ""
      · rw [hown]
        refine iff_of_false (append_ne_empty (tenantPrefix_ne _) _).symm ?_
        rintro ⟨own', hown', h, -⟩
        exact hown' ((String.append_right_inj _).mp h).symm
      · rw [if_pos hown, exists_own_iff hown]
        cases P.visible own with
        | true => exact iff_of_false (append_ne (tenantPrefix_ne _) _).symm Bool.true_eq_false.mp
        | false => exact iff_of_true rfl rfl
    · rw [trim_of_not hmarked, if_pos hcls, if_neg hvisible]
      refine iff_of_false (append_ne (tenantPrefix_ne _) _) ?_
      rintro ⟨own, -, rfl, -⟩
      exact hmarked (marked_append _ _)

lemma ingressClassAgain_toUpstream_iff (hc : c.Dashes) (hcls : cls ≠ "") :
    ingressClassAgain c P₂ tid (ingressClassToUpstream c P₁ tid cls) =
        ingressClassToUpstream c P₁ tid cls ↔
      IngressClassKept tid P₁ P₂ cls := by
  rw [ingressClassAgain_eq_iff hc (ingressClassToUpstream_ne hc hcls)]
  unfold ingressClassToUpstream IngressClassKept
  split_ifs
  · rfl
  · rw [hc.add, exists_own_iff hcls]

lemma ingressClassToTenant_toUpstream_iff (hc : c.Dashes) :
    ingressClassToTenant c P tid (ingressClassToUpstream c P tid cls) = cls ↔
      IngressClassRead tid P cls := by
  unfold ingressClassToTenant ingressClassToUpstream IngressClassRead
  by_cases hvisible : P.visible cls = true
  · simp [hvisible]
  · rw [if_neg hvisible, hc.add, hc.trim, trim_append, or_iff_right hvisible]
    cases P.visible (tenantPrefix tid ++ cls) with
    | true => exact iff_of_false (append_ne (tenantPrefix_ne _) _) Bool.true_eq_false.mp
    | false => exact iff_of_true rfl rfl

end

/-- When a read and a write that does not touch the class leave a stored Ingress as it is, though
other classes are published than when it was written: exactly if each class it was written with is
kept. -/
theorem ingress_class_stable_iff (c : Contract) (hc : c.Dashes) (tid : String)
    (P₁ P₂ : PublishedClasses) (i : Object (Owned Ingress)) :
    (∃ stored shown again, (ingressTransformer c P₁).forward i tid = .ok stored ∧
      (ingressTransformer c P₂).backward stored tid = .ok shown ∧
      (ingressTransformer c P₂).forward shown tid = .ok again ∧
      (again = stored ↔ ∀ cls, i.NamesIngressClass cls → IngressClassKept tid P₁ P₂ cls)) ∧
    ∃ stored shown, (ingressTransformer c P₁).forward i tid = .ok stored ∧
      (ingressTransformer c P₁).backward stored tid = .ok shown ∧
      (shown = i ↔ ∀ cls, i.NamesIngressClass cls → IngressClassRead tid P₁ cls) := by
  refine ⟨⟨_, _, _, rfl, rfl, rfl, ?_⟩, _, _, rfl, rfl, ?_⟩
  · rw [renameIngressClass_renameIngressClass, renameIngressClass_renameIngressClass,
      renameIngressClass_eq_iff]
    refine forall₂_congr fun cls hcls => ?_
    rw [andThen, if_pos (ingressClassToUpstream_ne hc hcls.1)]
    exact ingressClassAgain_toUpstream_iff hc hcls.1
  · rw [renameIngressClass_renameIngressClass, renameIngressClass_eq_self_iff]
    refine forall₂_congr fun cls hcls => ?_
    rw [andThen, if_pos (ingressClassToUpstream_ne hc hcls.1)]
    exact ingressClassToTenant_toUpstream_iff hc

section

private def asking (cls : String) : Object (Owned Ingress) :=
  { metadata := { name := "app" }, body := ⟨[], { ingressClassName := some cls }⟩ }

private def offering (names : List String) : PublishedClasses := (LabelledSet.ofStatic names).toClasses

theorem ingress_class_stable_internal :
    ∃ stored shown again,
      (ingressTransformer dashContract (offering [])).forward (asking "internal") "111111" =
        .ok stored ∧
      (ingressTransformer dashContract (offering ["octavia"])).backward stored "111111" =
        .ok shown ∧
      (ingressTransformer dashContract (offering ["octavia"])).forward shown "111111" =
        .ok again ∧ again = stored := by
  obtain ⟨stored, shown, again, hstored, hshown, hagain, h⟩ := (ingress_class_stable_iff dashContract
    dashes_dashContract "111111" (offering []) (offering ["octavia"]) (asking "internal")).1
  refine ⟨stored, shown, again, hstored, hshown, hagain, h.mpr fun cls hcls => ?_⟩
  obtain ⟨-, hspec | hannotation⟩ := hcls
  · rw [← Option.some.inj hspec]
    exact .inr (by decide)
  · cases hannotation

theorem unpublished_ingress_class_changes :
    ∃ stored shown again,
      (ingressTransformer dashContract (offering ["octavia"])).forward (asking "octavia") "111111" =
        .ok stored ∧
      (ingressTransformer dashContract (offering [])).backward stored "111111" = .ok shown ∧
      (ingressTransformer dashContract (offering [])).forward shown "111111" = .ok again ∧
      stored.body.spec.ingressClassName = some "octavia" ∧
      again.body.spec.ingressClassName = some "111111-octavia" :=
  ⟨_, _, _, rfl, rfl, rfl, by decide, by decide⟩

end

end KubeZoo
