import Mathlib.Tactic

/-! # Texts with a tag in front -/

namespace Tag

variable {tag tag' s rest : String}

/-- The text starts with the tag. -/
def Marked (tag s : String) : Prop := ∃ rest, s = tag ++ rest

lemma marked_iff_isPrefixOf : Marked tag s ↔ tag.toList.isPrefixOf s.toList = true := by
  rw [List.isPrefixOf_iff_prefix]
  constructor
  · intro ⟨rest, h⟩
    exact ⟨rest.toList, by rw [h, String.toList_append]⟩
  · intro ⟨rest, h⟩
    refine ⟨String.ofList rest, String.toList_injective ?_⟩
    rw [String.toList_append, String.toList_ofList, h]

instance : Decidable (Marked tag s) := decidable_of_iff _ marked_iff_isPrefixOf.symm

def trim (tag s : String) : String :=
  if Marked tag s then String.ofList (s.toList.drop tag.length) else s

def ensure (tag s : String) : String := if Marked tag s then s else tag ++ s

lemma marked_append (tag rest : String) : Marked tag (tag ++ rest) := ⟨rest, rfl⟩

@[simp] lemma trim_append (tag rest : String) : trim tag (tag ++ rest) = rest := by
  rw [trim, if_pos (marked_append tag rest), String.toList_append, ← String.length_toList,
    List.drop_left, String.ofList_toList]

lemma trim_of_not (h : ¬ Marked tag s) : trim tag s = s := if_neg h

lemma append_trim (h : Marked tag s) : tag ++ trim tag s = s := by
  obtain ⟨rest, rfl⟩ := h
  rw [trim_append]

lemma trim_eq_empty_iff : trim tag s = "" ↔ s = "" ∨ s = tag := by
  by_cases h : Marked tag s
  · obtain ⟨rest, rfl⟩ := h
    rw [trim_append]
    constructor
    · intro h
      exact Or.inr (by rw [h, String.append_empty])
    · rintro (h | h)
      · exact (String.append_eq_empty_iff.mp h).2
      · exact (String.append_right_inj tag).mp (h.trans String.append_empty.symm)
  · rw [trim_of_not h]
    refine (or_iff_left ?_).symm
    rintro rfl
    exact h ⟨"", String.append_empty.symm⟩

lemma ensure_of_marked (h : Marked tag s) : ensure tag s = s := if_pos h

lemma ensure_of_not (h : ¬ Marked tag s) : ensure tag s = tag ++ s := if_neg h

lemma append_ne (htag : tag ≠ "") (s : String) : tag ++ s ≠ s := by
  intro h
  have hlength := congrArg String.length h
  rw [String.length_append] at hlength
  apply htag
  rw [← String.length_eq_zero_iff]
  omega

lemma append_ne_empty (htag : tag ≠ "") (s : String) : tag ++ s ≠ "" := by
  rw [Ne, String.append_eq_empty_iff]
  exact fun h => htag h.1

lemma not_marked_empty (htag : tag ≠ "") : ¬ Marked tag "" := by
  intro ⟨rest, h⟩
  exact append_ne_empty htag rest h.symm

lemma append_eq_ensure_iff (htag : tag ≠ "") : tag ++ s = ensure tag s ↔ ¬ Marked tag s := by
  constructor
  · intro h hmarked
    rw [ensure_of_marked hmarked] at h
    exact append_ne htag s h
  · intro h
    rw [ensure_of_not h]

lemma marked_append_iff_of_not_mem {last : Char} (htag : tag.toList.getLast? = some last)
    (hrest : last ∉ rest.toList) : Marked tag (s ++ rest) ↔ Marked tag s := by
  constructor
  · intro ⟨more, h⟩
    have hlist := congrArg String.toList h
    rw [String.toList_append, String.toList_append] at hlist
    rcases List.append_eq_append_iff.mp hlist with ⟨c, hc, hrest'⟩ | ⟨a, ha, -⟩
    · -- The tag ends in what was put after the text, unless it ends with the text.
      rcases List.eq_nil_or_concat c with rfl | ⟨init, x, rfl⟩
      · rw [List.append_nil] at hc
        exact ⟨"", by rw [String.append_empty]; exact String.toList_injective hc.symm⟩
      · rw [hc, List.concat_eq_append, ← List.append_assoc, List.getLast?_concat] at htag
        cases htag
        refine absurd ?_ hrest
        rw [hrest']
        simp
    · refine ⟨String.ofList a, String.toList_injective ?_⟩
      rw [String.toList_append, String.toList_ofList, ha]
  · rintro ⟨more, rfl⟩
    exact ⟨more ++ rest, String.append_assoc⟩

lemma Marked.unique (h : Marked tag s) (h' : Marked tag' s) (hlen : tag.length = tag'.length) :
    tag = tag' := by
  obtain ⟨rest, rfl⟩ := h
  obtain ⟨rest', heq⟩ := h'
  apply String.toList_injective
  have hlist := congrArg String.toList heq
  rw [String.toList_append, String.toList_append] at hlist
  apply (List.append_inj hlist ?_).1
  rw [String.length_toList, String.length_toList, hlen]

/-- Tags of one size in bytes on one text are the same. -/
lemma Marked.unique_of_size (h : Marked tag s) (h' : Marked tag' s)
    (hsize : tag.utf8ByteSize = tag'.utf8ByteSize) : tag = tag' := by
  obtain ⟨rest, rfl⟩ := h
  obtain ⟨rest', heq⟩ := h'
  have hbytes := congrArg String.toByteArray heq
  exact String.toByteArray_inj.mp (ByteArray.append_inj_left hbytes hsize)

def rewrite (tag : String) (trims adds : Bool) (s : String) : String :=
  let shown := if trims then trim tag s else s
  if adds && shown != "" then tag ++ shown else shown

def Kept (tag : String) (trims adds : Bool) (s : String) : Prop :=
  match trims, adds with
  | true, true => s = "" ∨ ∃ rest, rest ≠ "" ∧ s = tag ++ rest
  | true, false => ¬ Marked tag s
  | false, true => s = ""
  | false, false => True

lemma rewrite_both_eq_iff (htag : tag ≠ "") :
    rewrite tag true true s = s ↔ Kept tag true true s := by
  by_cases hmarked : Marked tag s
  · obtain ⟨rest, rfl⟩ := hmarked
    have hkept : Kept tag true true (tag ++ rest) ↔ rest ≠ "" := by
      simp [Kept, htag]
    rw [hkept, rewrite, trim_append]
    by_cases hrest : rest = ""
    · simp [hrest, htag.symm]
    · simp [hrest]
  · rw [rewrite, trim_of_not hmarked]
    by_cases hs : s = ""
    · simp [hs, Kept]
    · have hnone : ¬ ∃ rest, rest ≠ "" ∧ s = tag ++ rest := fun ⟨rest, _, h⟩ => hmarked ⟨rest, h⟩
      simp [Kept, append_ne htag, hnone]

lemma rewrite_eq_iff (htag : tag ≠ "") (trims adds : Bool) :
    rewrite tag trims adds s = s ↔ Kept tag trims adds s := by
  cases trims with
  | true =>
    cases adds with
    | true => exact rewrite_both_eq_iff htag
    | false =>
      show trim tag s = s ↔ ¬ Marked tag s
      constructor
      · intro h hmarked
        have := append_trim hmarked
        rw [h] at this
        exact append_ne htag s this
      · exact trim_of_not
  | false =>
    cases adds with
    | true =>
      by_cases hs : s = "" <;> simp [rewrite, Kept, append_ne htag]
    | false => simp [rewrite, Kept]

lemma ensure_trim_eq_iff (htag : tag ≠ "") (hs : trim tag s ≠ "") :
    ensure tag (trim tag s) = s ↔ ∃ rest, ¬ Marked tag rest ∧ s = tag ++ rest := by
  by_cases hmarked : Marked tag s
  · obtain ⟨rest, rfl⟩ := hmarked
    rw [trim_append]
    by_cases hrest : Marked tag rest
    · rw [ensure_of_marked hrest]
      simp [(append_ne htag rest).symm, hrest]
    · rw [ensure_of_not hrest]
      simp [hrest]
  · rw [trim_of_not hmarked, ensure_of_not hmarked]
    have hnone : ¬ ∃ rest, ¬ Marked tag rest ∧ s = tag ++ rest := fun ⟨rest, _, h⟩ => hmarked ⟨rest, h⟩
    simp [append_ne htag, hnone]

end Tag
