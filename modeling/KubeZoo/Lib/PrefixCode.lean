import Mathlib.Tactic

/-! # Texts that end where they end -/

structure PrefixCode (α : Type) where
  encode : α → List Char
  free : ∀ {a b : α} {rest rest' : List Char},
    encode a ++ rest = encode b ++ rest' → a = b ∧ rest = rest'

namespace PrefixCode

variable {α γ : Type}

def text (C : PrefixCode α) (a : α) : String := String.ofList (C.encode a)

lemma text_injective (C : PrefixCode α) : C.text.Injective := by
  intro a b h
  have hlist : C.encode a ++ [] = C.encode b ++ [] := by
    rw [List.append_nil, List.append_nil]
    exact String.ofList_injective h
  exact (C.free hlist).1

def comap (C : PrefixCode γ) (f : α → γ) (hf : f.Injective) : PrefixCode α where
  encode a := C.encode (f a)
  free h := ⟨hf (C.free h).1, (C.free h).2⟩

def char : PrefixCode Char where
  encode c := [c]
  free h := by
    rw [List.singleton_append, List.singleton_append, List.cons.injEq] at h
    exact h

def prod (C : PrefixCode α) (D : PrefixCode γ) : PrefixCode (α × γ) where
  encode a := C.encode a.1 ++ D.encode a.2
  free {a b rest rest'} h := by
    rw [List.append_assoc, List.append_assoc] at h
    obtain ⟨hfst, h⟩ := C.free h
    obtain ⟨hsnd, h⟩ := D.free h
    exact ⟨Prod.ext hfst hsnd, h⟩

def encodeList (C : PrefixCode α) : List α → List Char
  | [] => ['.']
  | a :: l => '+' :: (C.encode a ++ encodeList C l)

lemma encodeList_free (C : PrefixCode α) {l l' : List α} {rest rest' : List Char}
    (h : C.encodeList l ++ rest = C.encodeList l' ++ rest') : l = l' ∧ rest = rest' := by
  induction l generalizing l' with
  | nil =>
    cases l' with
    | nil => exact ⟨rfl, (List.cons.inj h).2⟩
    | cons b l' => exact absurd (List.cons.inj h).1 (by decide)
  | cons a l ih =>
    cases l' with
    | nil => exact absurd (List.cons.inj h).1 (by decide)
    | cons b l' =>
      rw [encodeList, encodeList, List.cons_append, List.cons_append, List.cons.injEq,
        List.append_assoc, List.append_assoc] at h
      obtain ⟨rfl, htail⟩ := C.free h.2
      obtain ⟨rfl, hrest⟩ := ih htail
      exact ⟨rfl, hrest⟩

def list (C : PrefixCode α) : PrefixCode (List α) where
  encode := C.encodeList
  free := C.encodeList_free

def string : PrefixCode String := char.list.comap String.toList fun _ _ => String.toList_inj.mp

def option (C : PrefixCode α) : PrefixCode (Option α) :=
  C.list.comap Option.toList fun a b h => by
    cases a with
    | none => cases b with
      | none => rfl
      | some b => cases h
    | some a => cases b with
      | none => cases h
      | some b => rw [(List.cons.inj h).1]

def nat : PrefixCode ℕ :=
  char.list.comap (List.replicate · '1') fun m n h => by
    have hlength := congrArg List.length h
    rwa [List.length_replicate, List.length_replicate] at hlength

def int : PrefixCode ℤ :=
  (nat.prod nat).comap (fun z => (z.toNat, (-z).toNat)) fun y z h => by
    obtain ⟨hpos, hneg⟩ := Prod.ext_iff.mp h
    simp only at hpos hneg
    omega

end PrefixCode
