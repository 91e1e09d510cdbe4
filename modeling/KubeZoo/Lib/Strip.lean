import Mathlib.Data.List.Infix
import Mathlib.Tactic.Common

/-! # Taking a tag out of a text -/

variable {α : Type*} [DecidableEq α] {tag p q s : List α} {c : α}

namespace Strip

def stripFrom (tag : List α) : ℕ → List α → List α
  | _, [] => []
  | n + 1, _ :: s => stripFrom tag n s
  | 0, c :: s =>
    if tag.isPrefixOf (c :: s) then stripFrom tag (tag.length - 1) s else c :: stripFrom tag 0 s

def stripAll (tag s : List α) : List α := stripFrom tag 0 s

lemma stripFrom_eq (n : ℕ) (s : List α) : stripFrom tag n s = stripAll tag (s.drop n) := by
  induction s generalizing n with
  | nil => cases n <;> rfl
  | cons c s ih =>
    cases n with
    | zero => rfl
    | succ n => exact ih n

@[simp] lemma stripAll_nil : stripAll tag [] = [] := rfl

lemma stripAll_cons_of_not (h : ¬ tag <+: c :: s) : stripAll tag (c :: s) = c :: stripAll tag s := by
  rw [← List.isPrefixOf_iff_prefix] at h
  exact if_neg h

lemma stripAll_tag_append (htag : tag ≠ []) (s : List α) :
    stripAll tag (tag ++ s) = stripAll tag s := by
  obtain ⟨a, rest, rfl⟩ := List.exists_cons_of_ne_nil htag
  show (if (a :: rest).isPrefixOf (a :: (rest ++ s)) then _ else _) = _
  rw [stripFrom_eq]
  simp

lemma length_stripAll_le (htag : tag ≠ []) (s : List α) :
    (stripAll tag s).length ≤ s.length ∧ (tag <:+: s → (stripAll tag s).length < s.length) := by
  -- The text gets shorter by what is taken out in front, or by its first item.
  induction hn : s.length using Nat.strong_induction_on generalizing s with
  | _ n ih =>
    subst hn
    by_cases hprefix : tag <+: s
    · obtain ⟨rest, rfl⟩ := hprefix
      have hpos := List.length_pos_iff.mpr htag
      rw [stripAll_tag_append htag]
      have hrest := (ih rest.length (by rw [List.length_append]; omega) rest rfl).1
      rw [List.length_append]
      exact ⟨by omega, fun _ => by omega⟩
    · cases s with
      | nil => exact ⟨le_rfl, fun h => absurd (List.infix_nil.mp h) htag⟩
      | cons c s =>
        have htail := ih s.length (by simp) s rfl
        rw [stripAll_cons_of_not hprefix, List.length_cons, List.length_cons]
        refine ⟨by omega, fun h => ?_⟩
        have := htail.2 ((List.infix_cons_iff.mp h).resolve_left hprefix)
        omega

lemma stripAll_eq_self_iff (htag : tag ≠ []) : stripAll tag s = s ↔ ¬ tag <:+: s := by
  constructor
  · intro h hinfix
    have := (length_stripAll_le htag s).2 hinfix
    rw [h] at this
    exact lt_irrefl _ this
  · intro h
    induction s with
    | nil => rfl
    | cons c s ih =>
      rw [List.infix_cons_iff, not_or] at h
      rw [stripAll_cons_of_not h.1, ih h.2]

lemma stripAll_append (htag : tag ≠ [])
    (h : ∀ p', p' ≠ [] → p' <:+ p → tag <+: p' ++ q → tag <+: p') :
    stripAll tag (p ++ q) = stripAll tag p ++ stripAll tag q := by
  induction hn : p.length using Nat.strong_induction_on generalizing p with
  | _ n ih =>
    subst hn
    by_cases hprefix : tag <+: p
    · obtain ⟨rest, rfl⟩ := hprefix
      have hpos := List.length_pos_iff.mpr htag
      rw [List.append_assoc, stripAll_tag_append htag, stripAll_tag_append htag]
      refine ih rest.length (by rw [List.length_append]; omega) (fun p' hne hp' => ?_) rfl
      exact h p' hne (hp'.trans (List.suffix_append tag rest))
    · cases p with
      | nil => simp
      | cons c p =>
        have hnot : ¬ tag <+: c :: (p ++ q) := fun hq =>
          hprefix (h (c :: p) (List.cons_ne_nil c p) List.suffix_rfl hq)
        rw [List.cons_append, stripAll_cons_of_not hnot, stripAll_cons_of_not hprefix,
          List.cons_append, ih p.length (by simp) (fun p' hne hp' => ?_) rfl]
        exact h p' hne (hp'.trans (List.suffix_cons c p))

omit [DecidableEq α] in
lemma prefix_of_not_across (h : tag <+: p ++ q)
    (hnot : ∀ x, x ≠ [] → tag = p ++ x → ¬ x <+: q) : tag <+: p := by
  rcases List.prefix_or_prefix_of_prefix h (List.prefix_append p q) with htag | ⟨x, rfl⟩
  · exact htag
  · by_cases hx : x = []
    · rw [hx, List.append_nil]
    · exact absurd ((List.prefix_append_right_inj p).mp h) (hnot x hx rfl)

lemma stripAll_append_cons (htag : tag ≠ []) (hc : c ∉ tag) :
    stripAll tag (p ++ c :: s) = stripAll tag p ++ c :: stripAll tag s := by
  have hcons : stripAll tag (c :: s) = c :: stripAll tag s := by
    refine stripAll_cons_of_not fun h => ?_
    obtain ⟨a, rest, rfl⟩ := List.exists_cons_of_ne_nil htag
    rw [(List.cons_prefix_cons.mp h).1] at hc
    exact hc List.mem_cons_self
  rw [← hcons]
  refine stripAll_append htag fun p' _ _ hp' => prefix_of_not_across hp' ?_
  rintro x hx rfl hprefix
  obtain ⟨a, rest, rfl⟩ := List.exists_cons_of_ne_nil hx
  rw [(List.cons_prefix_cons.mp hprefix).1] at hc
  exact hc (List.mem_append_right _ List.mem_cons_self)

lemma stripAll_append_tag {w : List α} (hc : c ∉ w) :
    stripAll (w ++ [c]) (p ++ (w ++ [c] ++ s)) =
      stripAll (w ++ [c]) p ++ stripAll (w ++ [c]) s := by
  have htag : w ++ [c] ≠ [] := by simp
  rw [← stripAll_tag_append htag s]
  refine stripAll_append htag fun p' hne _ hp' => prefix_of_not_across hp' ?_
  intro x hx hsplit hprefix
  -- What would be left of the tag ends in its last item, and stands in front of the tag.
  have hlength : x.length ≤ w.length := by
    have := congrArg List.length hsplit
    have := List.length_pos_iff.mpr hne
    simp only [List.length_append, List.length_singleton] at *
    omega
  have hw : x <+: w := by
    rw [List.append_assoc] at hprefix
    exact List.prefix_of_prefix_length_le hprefix (List.prefix_append _ _) hlength
  have hlast : c ∈ x := by
    have h := congrArg List.getLast? hsplit
    rw [List.getLast?_append, List.getLast?_append, List.getLast?_singleton,
      List.getLast?_eq_some_getLast hx] at h
    rw [Option.some.inj h]
    exact List.getLast_mem hx
  exact hc (hw.subset hlast)

lemma stripAll_intercalate_iff {w : List α} (hc : c ∉ w) (pieces : List (List α)) :
    stripAll (w ++ [c]) ((w ++ [c]).intercalate pieces) = pieces.flatten ↔
      ∀ piece ∈ pieces, ¬ (w ++ [c]) <:+: piece := by
  have htag : w ++ [c] ≠ [] := by simp
  have hflatten : stripAll (w ++ [c]) ((w ++ [c]).intercalate pieces) =
      (pieces.map (stripAll (w ++ [c]))).flatten := by
    induction pieces with
    | nil => rfl
    | cons piece pieces ih =>
      cases pieces with
      | nil => simp
      | cons next pieces =>
        rw [List.intercalate_cons_cons, List.append_assoc, stripAll_append_tag hc, ih]
        rfl
  have hle : ∀ l : List (List α),
      (l.map (stripAll (w ++ [c]))).flatten.length ≤ l.flatten.length := by
    intro l
    induction l with
    | nil => exact le_rfl
    | cons piece l ih =>
      have := (length_stripAll_le htag piece).1
      simp only [List.map_cons, List.flatten_cons, List.length_append]
      omega
  rw [hflatten]
  clear hflatten
  induction pieces with
  | nil => simp
  | cons piece pieces ih =>
    rw [List.forall_mem_cons, List.map_cons, List.flatten_cons, List.flatten_cons,
      ← stripAll_eq_self_iff htag]
    constructor
    · intro h
      have hlen := congrArg List.length h
      have hpiece := (length_stripAll_le htag piece).1
      have hrest := hle pieces
      rw [List.length_append, List.length_append] at hlen
      obtain ⟨hfirst, hothers⟩ := List.append_inj h (by omega)
      exact ⟨hfirst, ih.mp hothers⟩
    · rintro ⟨hfirst, hothers⟩
      rw [hfirst, ih.mpr hothers]

end Strip
