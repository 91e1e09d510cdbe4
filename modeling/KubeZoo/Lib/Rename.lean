import Mathlib.Tactic

/-! # Rewriting a value of a map -/

lemma getElem?_insert_string (m : Std.ExtTreeMap String String compare) (k a v : String) :
    (m.insert k v)[a]? = if k = a then some v else m[a]? := by
  rw [Std.ExtTreeMap.getElem?_insert]
  simp only [Std.compare_eq_iff_eq]

namespace Rename

def value (rename : String → String) (v : Option String) : Option String :=
  v.map fun s => if s ≠ "" then rename s else s

def entry (key : String) (rename : String → String) (m : Std.ExtTreeMap String String compare) :
    Std.ExtTreeMap String String compare :=
  match m[key]? with
  | some s => if s ≠ "" then m.insert key (rename s) else m
  | none => m

def andThen (f g : String → String) (s : String) : String := if f s ≠ "" then g (f s) else f s

variable {f g : String → String} {v : Option String} {key : String}
  {m : Std.ExtTreeMap String String compare}

lemma value_value : value g (value f v) = value (andThen f g) v := by
  unfold value andThen
  cases v with
  | none => rfl
  | some s =>
    by_cases hempty : s = ""
    · simp [hempty]
    · simp [hempty]

lemma value_eq_iff : value f v = value g v ↔ ∀ s, s ≠ "" → v = some s → f s = g s := by
  unfold value
  cases v with
  | none => simp
  | some s =>
    by_cases hempty : s = ""
    · refine iff_of_true (by simp [hempty]) fun s' hne h => ?_
      exact absurd (Option.some.inj h ▸ hempty) hne
    · simp only [Option.map_some, ne_eq, hempty, Option.some.injEq]
      constructor
      · rintro h _ - rfl
        exact h
      · intro h
        exact h s hempty rfl

lemma value_id : value (fun s => s) v = v := by
  unfold value
  simp

lemma getElem?_entry (k : String) :
    (entry key f m)[k]? = if k = key then value f m[k]? else m[k]? := by
  unfold entry value
  cases hkey : m[key]? with
  | none =>
    split_ifs with hk
    · rw [hk, hkey]
      rfl
    · rfl
  | some s =>
    by_cases hempty : s = ""
    · simp only [hempty, ne_eq, not_true_eq_false, if_false]
      split_ifs with hk
      · rw [hk, hkey, hempty]
        rfl
      · rfl
    · simp only [ne_eq, hempty, not_false_eq_true, if_true, getElem?_insert_string]
      split_ifs with hk hk' hk'
      · rw [← hk, hkey]
        simp [hempty]
      · exact absurd hk.symm hk'
      · exact absurd hk'.symm hk
      · rfl

lemma entry_entry : entry key g (entry key f m) = entry key (andThen f g) m := by
  refine Std.ExtTreeMap.ext_getElem? fun k => ?_
  rw [getElem?_entry, getElem?_entry, getElem?_entry]
  split_ifs
  · exact value_value
  · rfl

lemma entry_eq_iff : entry key f m = entry key g m ↔ value f m[key]? = value g m[key]? := by
  constructor
  · intro h
    have hkey := congrArg (·[key]?) h
    simpa only [getElem?_entry, if_true] using hkey
  · intro h
    refine Std.ExtTreeMap.ext_getElem? fun k => ?_
    rw [getElem?_entry, getElem?_entry]
    split_ifs with hk
    · rw [hk]
      exact h
    · rfl

lemma entry_id : entry key (fun s => s) m = m := by
  refine Std.ExtTreeMap.ext_getElem? fun k => ?_
  rw [getElem?_entry, value_id, ite_self]

end Rename
