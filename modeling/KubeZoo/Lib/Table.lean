import Mathlib.Tactic

/-! # Tables -/

structure Table {α κ : Type} (key : α → κ) where
  rows : List α
  nodup : (rows.map key).Nodup

namespace Table

variable {α κ : Type} {key : α → κ} {t : Table key} {a b : α} {k : κ}

instance : Membership α (Table key) := ⟨fun t a => a ∈ t.rows⟩

lemma mem_rows : a ∈ t.rows ↔ a ∈ t := Iff.rfl

lemma eq_of_key (ha : a ∈ t) (hb : b ∈ t) (h : key a = key b) : a = b :=
  List.inj_on_of_nodup_map t.nodup ha hb h

def empty : Table key := ⟨[], List.nodup_nil⟩

variable [DecidableEq κ]

def find? (t : Table key) (k : κ) : Option α := t.rows.find? fun a => key a = k

lemma find?_eq_some_iff : t.find? k = some a ↔ a ∈ t ∧ key a = k := by
  constructor
  · intro h
    exact ⟨List.mem_of_find?_eq_some h, by simpa using List.find?_some h⟩
  · rintro ⟨ha, rfl⟩
    have hsome : (t.find? (key a)).isSome := by
      simp only [find?, List.find?_isSome, decide_eq_true_eq]
      exact ⟨a, ha, rfl⟩
    obtain ⟨b, hb⟩ := Option.isSome_iff_exists.mp hsome
    have hkey : key b = key a := by simpa using List.find?_some hb
    rw [hb, eq_of_key (List.mem_of_find?_eq_some hb) ha hkey]

lemma find?_eq_none_iff : t.find? k = none ↔ ∀ a ∈ t, key a ≠ k := by
  simp only [find?, List.find?_eq_none, decide_eq_true_eq]
  rfl

def erase (t : Table key) (k : κ) : Table key :=
  ⟨t.rows.filter fun a => key a ≠ k, t.nodup.sublist (List.filter_sublist.map key)⟩

@[simp] lemma mem_erase : a ∈ t.erase k ↔ a ∈ t ∧ key a ≠ k := by
  show a ∈ t.rows.filter _ ↔ _
  rw [List.mem_filter, decide_eq_true_eq]
  rfl

def replace (t : Table key) (a : α) : Table key :=
  ⟨t.rows.map fun b => if key b = key a then a else b, by
    rw [List.map_map, List.map_congr_left (g := key)]
    · exact t.nodup
    · intro b _
      by_cases h : key b = key a
      · simp [h]
      · simp [h]⟩

lemma mem_replace (hb : b ∈ t) (hkey : key b = key a) {c : α} :
    c ∈ t.replace a ↔ c = a ∨ c ∈ t ∧ key c ≠ key a := by
  show c ∈ t.rows.map _ ↔ _
  rw [List.mem_map]
  constructor
  · rintro ⟨d, hd, rfl⟩
    by_cases h : key d = key a
    · exact Or.inl (if_pos h)
    · rw [if_neg h]
      exact Or.inr ⟨hd, h⟩
  · rintro (rfl | ⟨hc, hne⟩)
    · exact ⟨b, hb, if_pos hkey⟩
    · exact ⟨c, hc, if_neg hne⟩

lemma find?_replace (hb : b ∈ t) (hkey : key b = key a) : (t.replace a).find? (key a) = some a :=
  find?_eq_some_iff.mpr ⟨(mem_replace hb hkey).mpr (.inl rfl), rfl⟩

def insert (t : Table key) (a : α) : Table key :=
  if h : key a ∈ t.rows.map key then t
  else ⟨t.rows ++ [a], by
    rw [List.map_append, List.map_singleton]
    exact t.nodup.append (List.nodup_singleton _) (by simpa [List.Disjoint] using h)⟩

lemma mem_insert (h : t.find? (key a) = none) : b ∈ t.insert a ↔ b ∈ t ∨ b = a := by
  have hfresh : key a ∉ t.rows.map key := by
    rw [List.mem_map]
    rintro ⟨c, hc, hkey⟩
    exact find?_eq_none_iff.mp h c hc hkey
  unfold insert
  rw [dif_neg hfresh, ← mem_rows, List.mem_append, List.mem_singleton]
  rfl

def ofList (l : List α) : Table key := l.foldl insert empty

end Table
