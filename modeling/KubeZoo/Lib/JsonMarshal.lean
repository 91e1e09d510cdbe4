import KubeZoo.Lib.Float64
import KubeZoo.Lib.Json
import Std.Data.ExtTreeMap

/-! # JSON documents as Go's `interface{}` -/

namespace Json

def decimal (text : List Char) : ℕ × ℤ :=
  let (whole, rest) := (unsigned text).span Char.isDigit
  let (fraction, rest) := match rest with
    | '.' :: rest => rest.span Char.isDigit
    | rest => ([], rest)
  let exponent : ℤ := match rest with
    | _ :: e => (if e.head? = some '-' then -1 else 1) * Nat.ofDigitChars 10 (unsigned e) 0
    | [] => 0
  (Nat.ofDigitChars 10 (whole ++ fraction) 0, exponent - fraction.length)

/-- `strconv.ParseFloat(s, 64)` of a number of a document; none if it is out of range. -/
def asFloat (text : String) : Option Float64.Value :=
  let (digits, e) := decimal text.toList
  Float64.ofDecimal (text.toList.head? == some '-') digits e

mutual

def inRange : Value → Bool
  | .number text => (asFloat text).isSome
  | .array items => itemsInRange items
  | .object fields => fieldsInRange fields
  | _ => true

def itemsInRange : List Value → Bool
  | [] => true
  | v :: vs => inRange v && itemsInRange vs

def fieldsInRange : List (String × Value) → Bool
  | [] => true
  | (_, v) :: fs => inRange v && fieldsInRange fs

end

def field (fields : List (String × Value)) (name : String) : Option Value :=
  (fields.reverse.find? fun f => f.1 == name).map Prod.snd

def setField (fields : List (String × Value)) (name : String) (v : Value) :
    List (String × Value) :=
  (fields.filter fun f => f.1 != name) ++ [(name, v)]

def commaSeparated : List (List Char) → List Char
  | [] => []
  | [text] => text
  | text :: texts => text ++ ',' :: commaSeparated texts

def inOrder (fields : List (String × List Char)) : List (String × List Char) :=
  (fields.foldl (fun m f => m.insert f.1 f.2)
    (∅ : Std.ExtTreeMap String (List Char) compare)).toList

/-- The text of an object with these texts of names and values. -/
def objectText (members : List (List Char × List Char)) : List Char :=
  '\x7b' :: (commaSeparated (members.map fun m => m.1 ++ ':' :: m.2) ++ ['\x7d'])

mutual

/-- `json.Marshal` of a document read into an `interface{}`. -/
def marshal : Value → List Char
  | .null => "null".toList
  | .bool b => (toString b).toList
  | .number text => ((asFloat text).map Float64.format).getD []
  | .string s => quote s.toList
  | .array items => '[' :: (commaSeparated (marshalItems items) ++ [']'])
  | .object fields =>
    objectText ((inOrder (marshalFields fields)).map fun f => (quote f.1.toList, f.2))

def marshalItems : List Value → List (List Char)
  | [] => []
  | v :: vs => marshal v :: marshalItems vs

def marshalFields : List (String × Value) → List (String × List Char)
  | [] => []
  | (name, v) :: fs => (name, marshal v) :: marshalFields fs

end

example : (parse "\x7b\"b\": [1.50, true], \"a\": -2e3, \"b\": null\x7d".toList).map
    (fun v => String.ofList (marshal v)) = some "\x7b\"a\":-2000,\"b\":null\x7d" := by
  decide +kernel

lemma marshalFields_eq (fields : List (String × Value)) :
    marshalFields fields = fields.map fun f => (f.1, marshal f.2) := by
  induction fields with
  | nil => rfl
  | cons f fields ih => rw [marshalFields, ih, List.map_cons]

/-- Fields of different names are only put in order. -/
lemma inOrder_perm (fields : List (String × List Char)) (h : (fields.map Prod.fst).Nodup) :
    (inOrder fields).Perm fields := by
  have hget : ∀ (fields : List (String × List Char)) (m : Std.ExtTreeMap String (List Char) compare),
      (fields.map Prod.fst).Nodup → (∀ f ∈ fields, m[f.1]? = none) → ∀ k v,
      ((fields.foldl (fun m f => m.insert f.1 f.2) m)[k]? = some v ↔
        m[k]? = some v ∨ (k, v) ∈ fields) := by
    intro fields
    induction fields with
    | nil => simp
    | cons f fields ih =>
      intro m hnodup hm k v
      obtain ⟨hf, hnodup⟩ := List.nodup_cons.mp hnodup
      have hnew : ∀ f' ∈ fields, f.1 ≠ f'.1 := fun f' hf' heq =>
        hf (heq ▸ List.mem_map_of_mem hf')
      rw [List.foldl_cons, ih _ hnodup fun f' hf' => ?_]
      · rw [Std.ExtTreeMap.getElem?_insert, List.mem_cons, Prod.ext_iff]
        by_cases hk : f.1 = k
        · subst hk
          simp [hm f List.mem_cons_self, eq_comm]
        · simp [hk, Ne.symm hk]
      · rw [Std.ExtTreeMap.getElem?_insert, if_neg (by simpa using hnew f' hf')]
        exact hm f' (List.mem_cons_of_mem f hf')
  have hdistinct : (inOrder fields).Nodup := by
    refine Std.ExtTreeMap.distinct_keys_toList.imp fun hne heq => hne ?_
    simp [heq]
  rw [List.perm_ext_iff_of_nodup hdistinct h.of_map]
  rintro ⟨k, v⟩
  rw [inOrder, Std.ExtTreeMap.mem_toList_iff_getElem?_eq_some, hget fields ∅ h (by simp)]
  simp

end Json
