import KubeZoo.Lib.Json

/-! # Selectors of labels -/

namespace Selector

variable {κ ν : Type}

inductive Operator
  | isIn
  | notIn
  | present
  | absent
  | greaterThan
  | lessThan
deriving DecidableEq

structure Requirement (κ ν : Type) where
  key : κ
  operator : Operator
  values : List ν := []
deriving DecidableEq

abbrev Labels (κ ν : Type) := κ → Option ν

/-- What a value is as a number, for the operators that compare. -/
class Numeric (ν : Type) where
  number : ν → Option ℤ

instance : Numeric String := ⟨fun s => Json.parseInt s.toList⟩

variable [DecidableEq ν] [Numeric ν]

/-- The value and the only one of the requirement are numbers that compare as asked for. -/
def Requirement.compares (r : Requirement κ ν) (value : Option ν) (test : ℤ → ℤ → Bool) : Bool :=
  match value.bind Numeric.number, r.values.map Numeric.number with
  | some n, [some bound] => test n bound
  | _, _ => false

/-- `Requirement.Matches`, of the value that the labels have at the key. -/
def Requirement.holds (r : Requirement κ ν) (value : Option ν) : Bool :=
  match r.operator with
  | .isIn => value.any (· ∈ r.values)
  | .notIn => !value.any (· ∈ r.values)
  | .present => value.isSome
  | .absent => value.isNone
  | .greaterThan => r.compares value fun n bound => bound < n
  | .lessThan => r.compares value fun n bound => n < bound

def Requirement.equals (key : κ) (value : ν) : Requirement κ ν :=
  { key := key, operator := .isIn, values := [value] }

lemma Requirement.holds_equals {key : κ} {v : ν} {value : Option ν} :
    (Requirement.equals key v).holds value = true ↔ value = some v := by
  cases value with
  | none => simp [Requirement.holds, Requirement.equals]
  | some w => simp [Requirement.holds, Requirement.equals]

def Matches (rs : List (Requirement κ ν)) (labels : Labels κ ν) : Prop :=
  ∀ r ∈ rs, r.holds (labels r.key) = true

instance (rs : List (Requirement κ ν)) (labels : Labels κ ν) : Decidable (Matches rs labels) :=
  inferInstanceAs (Decidable (∀ r ∈ rs, r.holds (labels r.key) = true))

def About (rs : List (Requirement κ ν)) (key : κ) (value : Option ν) : Prop :=
  ∀ r ∈ rs, r.key = key → r.holds value = true

/-- No requirement is about the key. -/
def Silent (rs : List (Requirement κ ν)) (key : κ) : Prop := ∀ r ∈ rs, r.key ≠ key

variable {rs rs' : List (Requirement κ ν)} {labels : Labels κ ν} {key : κ} {value : Option ν}

lemma matches_iff_about : Matches rs labels ↔ ∀ key, About rs key (labels key) := by
  constructor
  · rintro h _ r hr rfl
    exact h r hr
  · intro h r hr
    exact h r.key r hr rfl

lemma about_append :
    About (rs ++ rs') key value ↔ About rs key value ∧ About rs' key value := by
  unfold About
  simp only [List.mem_append, or_imp, forall_and]

lemma about_of_silent (h : Silent rs key) : About rs key value :=
  fun r hr hkey => absurd hkey (h r hr)

end Selector
