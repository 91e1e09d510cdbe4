import Mathlib.Data.Set.Basic
import Mathlib.Logic.Function.Basic

/-! # Leaves and their owners -/

namespace Ownership

structure Managed (P V M : Type*) where
  value : P → Option V
  owns : M → Set P

def forwarded {P V : Type*} [DecidableEq V] (patch snapshot out : P → Option V) (p : P) : Option V :=
  if (patch p).isSome ∨ snapshot p ≠ out p then out p else none

lemma forwarded_of_patch {P V : Type*} [DecidableEq V] {patch snapshot out : P → Option V} {p : P}
    {v : V} (hsnapshot : snapshot p = patch p) (hout : out p = some v) :
    forwarded patch snapshot out p = some v := by
  have hsent : (patch p).isSome ∨ snapshot p ≠ out p := by
    rw [hsnapshot, hout]
    cases patch p <;> simp
  rw [forwarded, if_pos hsent, hout]

namespace Managed

variable {P V M : Type*} [DecidableEq M] (s : Managed P V M) (m : M) (patch : P → Option V) {p : P} {v : V}

omit [DecidableEq M] in
def Sole (p : P) : Prop := p ∈ s.owns m ∧ ∀ m' ≠ m, p ∉ s.owns m'

open Classical in
noncomputable def apply : Managed P V M where
  value p := (patch p).or (if s.Sole m p then none else s.value p)
  owns := Function.update s.owns m {p | (patch p).isSome}

variable {s m patch}

lemma value_apply_of_mem (h : patch p = some v) : (s.apply m patch).value p = some v := by
  simp only [apply, h, Option.some_or]

lemma value_apply_sole (hsole : s.Sole m p) : (s.apply m patch).value p = patch p := by
  simp only [apply, if_pos hsole, Option.or_none]

lemma value_apply_shared (hsole : ¬ s.Sole m p) :
    (s.apply m patch).value p = (patch p).or (s.value p) := by
  simp only [apply, if_neg hsole]

lemma value_apply_of_sole (h : patch p = none) (hsole : s.Sole m p) :
    (s.apply m patch).value p = none :=
  (value_apply_sole hsole).trans h

lemma value_apply_of_not_sole (h : patch p = none) (hsole : ¬ s.Sole m p) :
    (s.apply m patch).value p = s.value p := by
  rw [value_apply_shared hsole, h, Option.none_or]

lemma value_apply_eq_some_iff (h : patch p = none) (hv : s.value p = some v) :
    (s.apply m patch).value p = some v ↔ ¬ s.Sole m p := by
  by_cases hsole : s.Sole m p
  · simp [value_apply_of_sole h hsole, hsole]
  · simp [value_apply_of_not_sole h hsole, hsole, hv]

section

variable [DecidableEq V] {snapshot out : P → Option V}

lemma value_apply_forwarded (hsnapshot : snapshot p = (s.apply m patch).value p)
    (hout : out p = some v) :
    (s.apply m (forwarded patch snapshot out)).value p = some v := by
  by_cases hsent : (patch p).isSome ∨ snapshot p ≠ out p
  · apply value_apply_of_mem
    rw [forwarded, if_pos hsent, hout]
  · have hnone : forwarded patch snapshot out p = none := by rw [forwarded, if_neg hsent]
    rw [not_or, not_not, Option.not_isSome_iff_eq_none] at hsent
    -- The leaf survived the relay's own resolution, so its manager does not own it alone.
    have hkept : (s.apply m patch).value p = some v := by rw [← hsnapshot, hsent.2, hout]
    have hsole : ¬ s.Sole m p := by
      intro hsole
      rw [value_apply_of_sole hsent.1 hsole] at hkept
      cases hkept
    rw [value_apply_of_not_sole hnone hsole, ← value_apply_of_not_sole hsent.1 hsole, hkept]

variable {s' : Managed P V M}

lemma value_apply_forwarded_eq (hvalue : s'.value p = s.value p) (hsole : s'.Sole m p ↔ s.Sole m p)
    (hsnapshot : snapshot p = (s'.apply m patch).value p)
    (hdrop : out p = none → snapshot p = none ∨ s.value p = none) :
    (s.apply m (forwarded patch snapshot out)).value p = out p := by
  have hsame : snapshot p = (s.apply m patch).value p := by
    by_cases hown : s.Sole m p
    · rw [hsnapshot, value_apply_sole hown, value_apply_sole (hsole.mpr hown)]
    · rw [hsnapshot, value_apply_shared hown, value_apply_shared (mt hsole.mp hown), hvalue]
  cases hout : out p with
  | some v => exact value_apply_forwarded hsame hout
  | none =>
    have hnone : forwarded patch snapshot out p = none := by rw [forwarded, hout, ite_self]
    by_cases hown : s.Sole m p
    · exact value_apply_of_sole hnone hown
    · rw [value_apply_of_not_sole hnone hown]
      obtain hdropped | hmissing := hdrop hout
      · rw [hsame, value_apply_shared hown, Option.or_eq_none_iff] at hdropped
        exact hdropped.2
      · exact hmissing

lemma isSome_value_apply_forwarded (hvalue : (s'.value p).isSome = (s.value p).isSome)
    (hsole : s'.Sole m p ↔ s.Sole m p) (hsnapshot : snapshot p = (s'.apply m patch).value p)
    (hout : (out p).isSome = (snapshot p).isSome) :
    ((s.apply m (forwarded patch snapshot out)).value p).isSome = (out p).isSome := by
  by_cases hown : s.Sole m p
  · rw [value_apply_sole (hsole.mpr hown)] at hsnapshot
    rw [value_apply_sole hown, forwarded]
    split_ifs with hsent
    · rfl
    · rw [not_or, Option.not_isSome_iff_eq_none] at hsent
      rw [hout, hsnapshot, hsent.1]
  · rw [value_apply_shared (mt hsole.mp hown)] at hsnapshot
    rw [value_apply_shared hown, forwarded, Option.isSome_or]
    rw [hsnapshot, Option.isSome_or, hvalue] at hout
    split_ifs with hsent
    · rw [hout, Bool.or_assoc, Bool.or_self]
    · rw [not_or, Option.not_isSome_iff_eq_none] at hsent
      rw [hout, hsent.1]

lemma value_apply_forwarded_restored_iff (hpatch : patch p = none) (hsnapshot : snapshot p = some v)
    (hout : out p = some v) (hv : s.value p = some v) :
    (s.apply m (forwarded patch snapshot out)).value p = some v ↔ ¬ s.Sole m p := by
  apply value_apply_eq_some_iff _ hv
  rw [forwarded]
  simp [hpatch, hsnapshot, hout]

end

end Managed

end Ownership
