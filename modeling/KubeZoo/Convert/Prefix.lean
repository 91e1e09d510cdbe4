import KubeZoo.Lib.Tag
import KubeZoo.Proxy.Model

/-! # The prefix of a tenant -/

namespace KubeZoo

open Tag

/-- `tenantID+util.TenantIDSeparator`. -/
def tenantPrefix (tid : String) : String := tid ++ "-"

lemma tenantPrefix_ne (tid : String) : tenantPrefix tid ≠ "" := by
  rw [tenantPrefix, Ne, String.append_eq_empty_iff]
  exact fun h => absurd h.2 (by decide)

lemma startsWith_iff {s start : String} : startsWith s start = true ↔ Marked start s :=
  marked_iff_isPrefixOf.symm

lemma startsWith_of_marked {s tid : String} (h : Marked (tenantPrefix tid) s) :
    startsWith s tid = true := by
  obtain ⟨rest, rfl⟩ := h
  rw [startsWith_iff, tenantPrefix, String.append_assoc]
  exact marked_append _ _

structure Contract.Dashes (c : Contract) : Prop where
  add : ∀ tid name, c.addTenantIDPrefix tid name = tenantPrefix tid ++ name
  trim : ∀ tid name, c.trimTenantIDPrefix tid name = Tag.trim (tenantPrefix tid) name
  upstream : ∀ tid ns, ns ≠ "" → c.upstreamNamespace tid ns = ensure (tenantPrefix tid) ns

lemma dashes_dashContract : dashContract.Dashes where
  add _ _ := rfl
  trim tid name := by
    have hlength : (tenantPrefix tid).length = tid.length + 1 := by
      rw [tenantPrefix, String.length_append]
      rfl
    simp only [dashContract, Tag.trim, marked_iff_isPrefixOf, tenantPrefix] at hlength ⊢
    rw [hlength]
  upstream tid ns hns := by
    simp only [dashContract, ensure, marked_iff_isPrefixOf, tenantPrefix, hns, false_or]

def trimIfAttributable (c : Contract) (value tid : String) : String :=
  if !startsWith value (tenantPrefix tid) then value
  else c.trimTenantIDPrefix tid value

lemma Contract.Dashes.trimIfAttributable {c : Contract} (hc : c.Dashes) (value tid : String) :
    KubeZoo.trimIfAttributable c value tid = Tag.trim (tenantPrefix tid) value := by
  unfold KubeZoo.trimIfAttributable
  by_cases h : startsWith value (tenantPrefix tid) = true
  · rw [h]
    exact hc.trim tid value
  · have hnot : ¬ Marked (tenantPrefix tid) value := by rwa [startsWith_iff] at h
    rw [Bool.not_eq_true] at h
    rw [h, trim_of_not hnot]
    rfl

lemma Contract.Dashes.trim_of_startsWith {c : Contract} (hc : c.Dashes) (value tid : String) :
    (if startsWith value tid then c.trimTenantIDPrefix tid value else value) =
      Tag.trim (tenantPrefix tid) value := by
  by_cases h : startsWith value tid = true
  · rw [if_pos h, hc.trim]
  · rw [if_neg h, trim_of_not fun hmarked => h (startsWith_of_marked hmarked)]

end KubeZoo
