import Mathlib.Tactic

/-! # Base64 and UTF-8 -/

namespace Base64

def alphabet : List Char :=
  "ABCDEFGHIJKLMNOPQRSTUVWXYZabcdefghijklmnopqrstuvwxyz0123456789-_".toList

def digit (n : ℕ) : Char := alphabet.getD n 'A'

def value (c : Char) : Option ℕ := alphabet.idxOf? c

def encode : List UInt8 → List Char
  | [] => []
  | [a] => [digit (a.toNat / 4), digit (a.toNat % 4 * 16)]
  | [a, b] => [digit (a.toNat / 4), digit (a.toNat % 4 * 16 + b.toNat / 16),
      digit (b.toNat % 16 * 4)]
  | a :: b :: c :: rest =>
    digit (a.toNat / 4) :: digit (a.toNat % 4 * 16 + b.toNat / 16) ::
      digit (b.toNat % 16 * 4 + c.toNat / 64) :: digit (c.toNat % 64) :: encode rest

def join : List ℕ → Option (List UInt8)
  | [] => some []
  | [_] => none
  | [w, x] => some [UInt8.ofNat (w * 4 + x / 16)]
  | [w, x, y] => some [UInt8.ofNat (w * 4 + x / 16), UInt8.ofNat (x % 16 * 16 + y / 4)]
  | w :: x :: y :: z :: rest =>
    (join rest).map fun bs => UInt8.ofNat (w * 4 + x / 16) ::
      UInt8.ofNat (x % 16 * 16 + y / 4) :: UInt8.ofNat (y % 4 * 64 + z) :: bs

def isSkipped (c : Char) : Bool := c == '\n' || c == '\r'

/-- `none` is a `CorruptInputError`. -/
def decode (cs : List Char) : Option (List UInt8) :=
  ((cs.filter fun c => !isSkipped c).mapM value).bind join

section

lemma value_digit {n : ℕ} (h : n < 64) : value (digit n) = some n := by
  have key : ∀ n < 64, value (digit n) = some n := by decide +kernel
  exact key n h

lemma isSkipped_digit {n : ℕ} (h : n < 64) : isSkipped (digit n) = false := by
  have key : ∀ n < 64, isSkipped (digit n) = false := by decide +kernel
  exact key n h

/-- The six-bit numbers the characters of `encode` stand for. -/
def sextets : List UInt8 → List ℕ
  | [] => []
  | [a] => [a.toNat / 4, a.toNat % 4 * 16]
  | [a, b] => [a.toNat / 4, a.toNat % 4 * 16 + b.toNat / 16, b.toNat % 16 * 4]
  | a :: b :: c :: rest =>
    a.toNat / 4 :: (a.toNat % 4 * 16 + b.toNat / 16) :: (b.toNat % 16 * 4 + c.toNat / 64) ::
      c.toNat % 64 :: sextets rest

lemma encode_eq_map (bs : List UInt8) : encode bs = (sextets bs).map digit := by
  fun_induction encode bs with
  | case1 => rfl
  | case2 a => rfl
  | case3 a b => rfl
  | case4 a b c rest ih =>
    rw [ih]
    rfl

lemma sextets_lt (bs : List UInt8) : ∀ n ∈ sextets bs, n < 64 := by
  fun_induction sextets bs with
  | case1 => simp
  | case2 a =>
    have ha := a.toNat_lt
    simp only [List.mem_cons, List.not_mem_nil, or_false]
    omega
  | case3 a b =>
    have ha := a.toNat_lt
    have hb := b.toNat_lt
    simp only [List.mem_cons, List.not_mem_nil, or_false]
    omega
  | case4 a b c rest ih =>
    have ha := a.toNat_lt
    have hb := b.toNat_lt
    intro n hn
    simp only [List.mem_cons] at hn
    rcases hn with hn | hn | hn | hn | hn
    · omega
    · omega
    · have hc := c.toNat_lt
      omega
    · omega
    · exact ih n hn

lemma ofNat_eq {b : UInt8} {n : ℕ} (h : n = b.toNat) : UInt8.ofNat n = b := by
  rw [h, UInt8.ofNat_toNat]

lemma join_sextets (bs : List UInt8) : join (sextets bs) = some bs := by
  fun_induction sextets bs with
  | case1 => rfl
  | case2 a =>
    have ha : a.toNat / 4 * 4 + a.toNat % 4 * 16 / 16 = a.toNat := by omega
    rw [join, ofNat_eq ha]
  | case3 a b =>
    have hb := b.toNat_lt
    have h₁ : a.toNat / 4 * 4 + (a.toNat % 4 * 16 + b.toNat / 16) / 16 = a.toNat := by omega
    have h₂ : (a.toNat % 4 * 16 + b.toNat / 16) % 16 * 16 + b.toNat % 16 * 4 / 4 = b.toNat := by
      omega
    rw [join, ofNat_eq h₁, ofNat_eq h₂]
  | case4 a b c rest ih =>
    have hb := b.toNat_lt
    have hc := c.toNat_lt
    have h₁ : a.toNat / 4 * 4 + (a.toNat % 4 * 16 + b.toNat / 16) / 16 = a.toNat := by omega
    have h₂ : (a.toNat % 4 * 16 + b.toNat / 16) % 16 * 16 +
        (b.toNat % 16 * 4 + c.toNat / 64) / 4 = b.toNat := by
      omega
    have h₃ : (b.toNat % 16 * 4 + c.toNat / 64) % 4 * 64 + c.toNat % 64 = c.toNat := by omega
    rw [join, ih, ofNat_eq h₁, ofNat_eq h₂, ofNat_eq h₃]
    rfl

lemma mapM_value (ns : List ℕ) (h : ∀ n ∈ ns, n < 64) : (ns.map digit).mapM value = some ns := by
  induction ns with
  | nil => rfl
  | cons n ns ih =>
    have hn : value (digit n) = some n := value_digit (h n List.mem_cons_self)
    have hrest := ih fun m hm => h m (List.mem_cons_of_mem _ hm)
    simp only [List.map_cons, List.mapM_cons, hn, hrest]
    rfl

theorem decode_encode (bs : List UInt8) : decode (encode bs) = some bs := by
  have hkeep : (encode bs).filter (fun c => !isSkipped c) = encode bs := by
    rw [List.filter_eq_self, encode_eq_map]
    intro c hc
    obtain ⟨n, hn, rfl⟩ := List.mem_map.mp hc
    rw [isSkipped_digit (sextets_lt bs n hn)]
    rfl
  rw [decode, hkeep, encode_eq_map, mapM_value _ (sextets_lt bs), Option.bind_some, join_sextets]

end

def utf8 (cs : List Char) : List UInt8 := cs.flatMap String.utf8EncodeChar

def replacement : Char := '�'

/-- The characters of a list of bytes. -/
def runes : ℕ → List UInt8 → List Char
  | 0, _ => []
  | _ + 1, [] => []
  | fuel + 1, b :: bs =>
    match (b :: bs).toByteArray.utf8DecodeChar? 0 with
    | some c => c :: runes fuel ((b :: bs).drop c.utf8Size)
    | none => replacement :: runes fuel bs

def text (bs : List UInt8) : List Char := runes bs.length bs

lemma runes_utf8 (cs : List Char) : ∀ fuel, (utf8 cs).length ≤ fuel → runes fuel (utf8 cs) = cs := by
  induction cs with
  | nil =>
    intro fuel _
    cases fuel <;> rfl
  | cons c cs ih =>
    intro fuel hfuel
    have hlen : (String.utf8EncodeChar c).length = c.utf8Size := String.length_utf8EncodeChar c
    have hpos : 0 < c.utf8Size := c.utf8Size_pos
    have hcons : utf8 (c :: cs) = String.utf8EncodeChar c ++ utf8 cs := rfl
    have hdec : (utf8 (c :: cs)).toByteArray.utf8DecodeChar? 0 = some c := by
      rw [hcons, List.toByteArray_append, ByteArray.utf8DecodeChar?_utf8EncodeChar_append]
    have hdrop : (utf8 (c :: cs)).drop c.utf8Size = utf8 cs := by
      rw [hcons, ← hlen, List.drop_left]
    have hsize : (utf8 (c :: cs)).length = c.utf8Size + (utf8 cs).length := by
      rw [hcons, List.length_append, hlen]
    obtain ⟨b, bs, hb⟩ : ∃ b bs, utf8 (c :: cs) = b :: bs :=
      List.exists_cons_of_length_pos (by omega)
    cases fuel with
    | zero => omega
    | succ fuel =>
      rw [hb] at hdec hdrop ⊢
      rw [runes, hdec]
      simp only [hdrop]
      rw [ih fuel (by omega)]

theorem text_utf8 (cs : List Char) : text (utf8 cs) = cs := runes_utf8 cs _ le_rfl

end Base64
