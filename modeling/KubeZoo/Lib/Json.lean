import KubeZoo.Lib.Base64

/-! # JSON as Go's `encoding/json` reads and writes it -/

namespace Json

inductive Value
  | null
  | bool (b : Bool)
  | number (text : String)
  | string (s : String)
  | array (items : List Value)
  | object (fields : List (String × Value))

/-- A part of a string literal: a character, or a code unit written `\uXXXX`. -/
inductive Piece
  | char (c : Char)
  | code (n : ℕ)

def hexValue (c : Char) : Option ℕ :=
  if '0' ≤ c ∧ c ≤ '9' then some (c.toNat - '0'.toNat)
  else if 'a' ≤ c ∧ c ≤ 'f' then some (c.toNat - 'a'.toNat + 10)
  else if 'A' ≤ c ∧ c ≤ 'F' then some (c.toNat - 'A'.toNat + 10)
  else none

def hex4 (a b c d : Char) : Option ℕ :=
  match hexValue a, hexValue b, hexValue c, hexValue d with
  | some a, some b, some c, some d => some (((a * 16 + b) * 16 + c) * 16 + d)
  | _, _, _, _ => none

def unescape : Char → Option Char
  | '"' => some '"'
  | '\\' => some '\\'
  | '/' => some '/'
  | 'b' => some '\x08'
  | 'f' => some '\x0c'
  | 'n' => some '\n'
  | 'r' => some '\r'
  | 't' => some '\t'
  | _ => none

def scanString : List Char → Option (List Piece × List Char)
  | [] => none
  | '"' :: rest => some ([], rest)
  | '\\' :: 'u' :: a :: b :: c :: d :: rest =>
    match hex4 a b c d, scanString rest with
    | some n, some r => some (.code n :: r.1, r.2)
    | _, _ => none
  | '\\' :: e :: rest =>
    match unescape e, scanString rest with
    | some c, some r => some (.char c :: r.1, r.2)
    | _, _ => none
  | c :: rest =>
    if c.toNat < 0x20 then none else (scanString rest).map fun r => (.char c :: r.1, r.2)

def isSurrogate (n : ℕ) : Bool := decide (0xD800 ≤ n) && decide (n < 0xE000)

def codeChar (n : ℕ) : Char := if isSurrogate n then Base64.replacement else Char.ofNat n

def decodePieces : List Piece → List Char
  | [] => []
  | .char c :: ps => c :: decodePieces ps
  | .code n :: .code m :: ps =>
    if 0xD800 ≤ n ∧ n < 0xDC00 ∧ 0xDC00 ≤ m ∧ m < 0xE000 then
      Char.ofNat (0x10000 + (n - 0xD800) * 0x400 + (m - 0xDC00)) :: decodePieces ps
    else codeChar n :: decodePieces (.code m :: ps)
  | .code n :: ps => codeChar n :: decodePieces ps

def hexDigit (n : ℕ) : Char := "0123456789abcdef".toList.getD n '0'

/-- The characters written as `\uXXXX`. -/
def isCoded (c : Char) : Bool :=
  decide (c.toNat < 0x20) || c == '<' || c == '>' || c == '&' || c.toNat == 0x2028 ||
    c.toNat == 0x2029

def escape (c : Char) : List Char :=
  match c with
  | '"' => ['\\', '"']
  | '\\' => ['\\', '\\']
  | '\x08' => ['\\', 'b']
  | '\x0c' => ['\\', 'f']
  | '\n' => ['\\', 'n']
  | '\r' => ['\\', 'r']
  | '\t' => ['\\', 't']
  | c =>
    if isCoded c then ['\\', 'u', hexDigit (c.toNat / 4096), hexDigit (c.toNat / 256 % 16),
      hexDigit (c.toNat / 16 % 16), hexDigit (c.toNat % 16)]
    else [c]

def quote (s : List Char) : List Char := '"' :: (s.flatMap escape ++ ['"'])

def scanDigits (cs : List Char) : Option (List Char × List Char) :=
  match cs.span Char.isDigit with
  | ([], _) => none
  | r => some r

def scanInt : List Char → Option (List Char × List Char)
  | '0' :: rest => some (['0'], rest)
  | cs => scanDigits cs

def scanFraction : List Char → Option (List Char × List Char)
  | '.' :: rest => (scanDigits rest).map fun r => ('.' :: r.1, r.2)
  | cs => some ([], cs)

def scanExponent : List Char → Option (List Char × List Char)
  | e :: rest =>
    if e = 'e' ∨ e = 'E' then
      match rest with
      | '+' :: rest => (scanDigits rest).map fun r => (e :: '+' :: r.1, r.2)
      | '-' :: rest => (scanDigits rest).map fun r => (e :: '-' :: r.1, r.2)
      | rest => (scanDigits rest).map fun r => (e :: r.1, r.2)
    else some ([], e :: rest)
  | [] => some ([], [])

def scanUnsigned (cs : List Char) : Option (List Char × List Char) := do
  let i ← scanInt cs
  let f ← scanFraction i.2
  let e ← scanExponent f.2
  some (i.1 ++ f.1 ++ e.1, e.2)

def scanNumber : List Char → Option (List Char × List Char)
  | '-' :: rest => (scanUnsigned rest).map fun r => ('-' :: r.1, r.2)
  | cs => scanUnsigned cs

def isSpace (c : Char) : Bool := c == ' ' || c == '\t' || c == '\n' || c == '\r'

def skipSpace (cs : List Char) : List Char := cs.dropWhile isSpace

mutual

/-- A value. `depth` is how many more values it may be inside of. -/
def parseValue : ℕ → ℕ → List Char → Option (Value × List Char)
  | 0, _, _ => none
  | fuel + 1, depth, cs =>
    match skipSpace cs with
    | '"' :: rest =>
      (scanString rest).map fun r => (.string (String.ofList (decodePieces r.1)), r.2)
    | '\x7b' :: rest =>
      match depth with
      | 0 => none
      | depth + 1 =>
        match skipSpace rest with
        | '\x7d' :: rest => some (.object [], rest)
        | rest => (parseFields fuel depth rest).map fun r => (.object r.1, r.2)
    | '[' :: rest =>
      match depth with
      | 0 => none
      | depth + 1 =>
        match skipSpace rest with
        | ']' :: rest => some (.array [], rest)
        | rest => (parseItems fuel depth rest).map fun r => (.array r.1, r.2)
    | 'n' :: 'u' :: 'l' :: 'l' :: rest => some (.null, rest)
    | 't' :: 'r' :: 'u' :: 'e' :: rest => some (.bool true, rest)
    | 'f' :: 'a' :: 'l' :: 's' :: 'e' :: rest => some (.bool false, rest)
    | rest => (scanNumber rest).map fun r => (.number (String.ofList r.1), r.2)

def parseItems : ℕ → ℕ → List Char → Option (List Value × List Char)
  | 0, _, _ => none
  | fuel + 1, depth, cs =>
    match parseValue fuel depth cs with
    | none => none
    | some (v, rest) =>
      match skipSpace rest with
      | ',' :: rest => (parseItems fuel depth rest).map fun r => (v :: r.1, r.2)
      | ']' :: rest => some ([v], rest)
      | _ => none

def parseFields : ℕ → ℕ → List Char → Option (List (String × Value) × List Char)
  | 0, _, _ => none
  | fuel + 1, depth, cs =>
    match skipSpace cs with
    | '"' :: rest =>
      match scanString rest with
      | none => none
      | some (key, rest) =>
        match skipSpace rest with
        | ':' :: rest =>
          match parseValue fuel depth rest with
          | none => none
          | some (v, rest) =>
            match skipSpace rest with
            | ',' :: rest =>
              (parseFields fuel depth rest).map fun r =>
                ((String.ofList (decodePieces key), v) :: r.1, r.2)
            | '\x7d' :: rest => some ([(String.ofList (decodePieces key), v)], rest)
            | _ => none
        | _ => none
    | _ => none

end

def maxNestingDepth : ℕ := 10000

def parse (cs : List Char) : Option Value :=
  match parseValue (cs.length + 1) maxNestingDepth cs with
  | some (v, rest) => if skipSpace rest = [] then some v else none
  | none => none

def renderFields : List (List Char × List Char) → List Char
  | [] => []
  | [(key, text)] => quote key ++ ':' :: text
  | (key, text) :: rest => quote key ++ ':' :: (text ++ ',' :: renderFields rest)

def renderObject (fields : List (List Char × List Char)) : List Char :=
  '\x7b' :: (renderFields fields ++ ['\x7d'])

section

def isShort (c : Char) : Bool :=
  c == '"' || c == '\\' || c == '\x08' || c == '\x0c' || c == '\n' || c == '\r' || c == '\t'

def piece (c : Char) : Piece := if !isShort c && isCoded c then .code c.toNat else .char c

lemma hexValue_hexDigit {n : ℕ} (h : n < 16) : hexValue (hexDigit n) = some n := by
  have key : ∀ n < 16, hexValue (hexDigit n) = some n := by decide +kernel
  exact key n h

lemma isCoded_lt {c : Char} (h : isCoded c = true) : c.toNat < 0x2030 := by
  simp only [isCoded, Bool.or_eq_true, decide_eq_true_eq, beq_iff_eq] at h
  rcases h with ((((h | rfl) | rfl) | rfl) | h) | h
  · omega
  · decide
  · decide
  · decide
  · omega
  · omega

lemma hex4_digits {n : ℕ} (h : n < 65536) :
    hex4 (hexDigit (n / 4096)) (hexDigit (n / 256 % 16)) (hexDigit (n / 16 % 16))
      (hexDigit (n % 16)) = some n := by
  rw [hex4, hexValue_hexDigit (by omega), hexValue_hexDigit (by omega),
    hexValue_hexDigit (by omega), hexValue_hexDigit (by omega)]
  simp only [Option.some.injEq]
  omega

lemma scanString_plain {c : Char} (hq : c ≠ '"') (hb : c ≠ '\\') (hc : ¬ c.toNat < 0x20)
    (rest : List Char) :
    scanString (c :: rest) = (scanString rest).map fun r => (.char c :: r.1, r.2) := by
  rw [scanString]
  · rw [if_neg hc]
  · exact hq
  · rintro a b c' d rest rfl rfl
    exact hb rfl
  · rintro e rest rfl rfl
    exact hb rfl

lemma scanString_short {e c : Char} (hu : e ≠ 'u') (he : unescape e = some c) (rest : List Char) :
    scanString ('\\' :: e :: rest) = (scanString rest).map fun r => (.char c :: r.1, r.2) := by
  rw [scanString]
  · rw [he]
    cases scanString rest <;> rfl
  · rintro a b c' d rest rfl
    exact absurd rfl hu

lemma scanString_coded {n : ℕ} (h : n < 65536) (rest : List Char) :
    scanString ('\\' :: 'u' :: hexDigit (n / 4096) :: hexDigit (n / 256 % 16) ::
      hexDigit (n / 16 % 16) :: hexDigit (n % 16) :: rest) =
        (scanString rest).map fun r => (.code n :: r.1, r.2) := by
  rw [scanString, hex4_digits h]
  cases scanString rest <;> rfl

lemma scanString_escape (c : Char) (rest : List Char) :
    scanString (escape c ++ rest) = (scanString rest).map fun r => (piece c :: r.1, r.2) := by
  by_cases hs : isShort c = true
  · have hp : piece c = .char c := by rw [piece, hs]; rfl
    simp only [isShort, Bool.or_eq_true, beq_iff_eq] at hs
    rcases hs with (((((rfl | rfl) | rfl) | rfl) | rfl) | rfl) | rfl
    all_goals exact scanString_short (by decide) rfl rest
  · rw [Bool.not_eq_true] at hs
    have hne := hs
    simp only [isShort, Bool.or_eq_false_iff, beq_eq_false_iff_ne] at hne
    obtain ⟨⟨⟨⟨⟨⟨h₁, h₂⟩, h₃⟩, h₄⟩, h₅⟩, h₆⟩, h₇⟩ := hne
    rw [escape.eq_8 c h₁ h₂ h₃ h₄ h₅ h₆ h₇, piece, hs]
    by_cases hc : isCoded c = true
    · have hlt := isCoded_lt hc
      rw [if_pos hc, if_pos (by simpa using hc)]
      exact scanString_coded (by omega) rest
    · rw [if_neg hc, if_neg (by simpa using hc)]
      refine scanString_plain h₁ h₂ ?_ rest
      intro hlt
      exact hc (by simp [isCoded, hlt])

lemma scanString_quote (s rest : List Char) :
    scanString (s.flatMap escape ++ '"' :: rest) = some (s.map piece, rest) := by
  induction s with
  | nil => rfl
  | cons c s ih =>
    rw [List.flatMap_cons, List.append_assoc, scanString_escape, ih]
    rfl

lemma codeChar_toNat (c : Char) : codeChar c.toNat = c := by
  have hno : isSurrogate c.toNat = false := by
    rw [isSurrogate, Bool.and_eq_false_iff, decide_eq_false_iff_not, decide_eq_false_iff_not]
    have hv : c.toNat < 0xd800 ∨ (0xdfff < c.toNat ∧ c.toNat < 0x110000) := c.valid
    omega
  rw [codeChar, hno]
  exact Char.ofNat_toNat c

lemma decodePieces_map (s : List Char) : decodePieces (s.map piece) = s := by
  induction s with
  | nil => rfl
  | cons c s ih =>
    rw [List.map_cons]
    by_cases hc : (!isShort c && isCoded c) = true
    · have hlt := isCoded_lt (Bool.and_eq_true _ _ ▸ hc : _ ∧ _).2
      rw [piece, if_pos hc]
      cases hps : s.map piece with
      | nil =>
        rw [hps] at ih
        rw [decodePieces, codeChar_toNat, ih]
        nofun
      | cons p ps =>
        rw [hps] at ih
        cases p with
        | char c' =>
          rw [decodePieces, codeChar_toNat, ih]
          nofun
        | code m => rw [decodePieces, if_neg (by omega), codeChar_toNat, ih]
    · rw [piece, if_neg hc, decodePieces, ih]

end

def Stops (rest : List Char) : Prop := ∀ c ∈ rest.head?, c = ',' ∨ c = '\x7d' ∨ c = ']'

/-- The reader makes `v` of `text`, wherever it stands. -/
def Reads (text : List Char) (v : Value) : Prop :=
  ∀ fuel depth rest, text.length < fuel → Stops rest →
    parseValue fuel depth (text ++ rest) = some (v, rest)

section

variable {rest : List Char}

lemma skipSpace_cons {c : Char} (h : isSpace c = false) (rest : List Char) :
    skipSpace (c :: rest) = c :: rest := by
  rw [skipSpace, List.dropWhile_cons_of_neg (by rw [h]; decide)]

theorem reads_string (s : String) : Reads (quote s.toList) (.string s) := by
  intro fuel depth rest hfuel _
  cases fuel with
  | zero => omega
  | succ fuel =>
    rw [quote, List.cons_append, List.append_assoc]
    show (scanString (s.toList.flatMap escape ++ '"' :: rest)).map _ = _
    rw [scanString_quote, Option.map_some, decodePieces_map, String.ofList_toList]

lemma head_toDigits {n : ℕ} (h : 0 < n) : ∃ d ds, Nat.toDigits 10 n = d :: ds ∧ d ≠ '0' := by
  induction n using Nat.strong_induction_on with
  | _ n ih =>
  by_cases hlt : n < 10
  · refine ⟨Nat.digitChar n, [], Nat.toDigits_of_lt_base hlt, ?_⟩
    have key : ∀ n < 10, 0 < n → Nat.digitChar n ≠ '0' := by decide
    exact key n hlt h
  · obtain ⟨d, ds, hd, hne⟩ := ih (n / 10) (by omega) (by omega)
    refine ⟨d, ds ++ [Nat.digitChar (n % 10)], ?_, hne⟩
    rw [Nat.toDigits_of_base_le (by norm_num) (by omega), hd]
    rfl

lemma isDigit_toDigits {n : ℕ} {c : Char} (h : c ∈ Nat.toDigits 10 n) : c.isDigit = true :=
  Nat.isDigit_of_mem_toDigits (by norm_num) (by norm_num) h

lemma span_digits {ds : List Char} (h : ∀ c ∈ ds, c.isDigit = true) (hrest : Stops rest) :
    (ds ++ rest).span Char.isDigit = (ds, rest) := by
  have htake : rest.takeWhile Char.isDigit = [] ∧ rest.dropWhile Char.isDigit = rest := by
    cases rest with
    | nil => exact ⟨rfl, rfl⟩
    | cons c rest =>
      have hc : c.isDigit = false := by
        rcases hrest c rfl with rfl | rfl | rfl <;> rfl
      exact ⟨List.takeWhile_cons_of_neg (by rw [hc]; decide),
        List.dropWhile_cons_of_neg (by rw [hc]; decide)⟩
  rw [List.span_eq_takeWhile_dropWhile, List.takeWhile_append_of_pos h,
    List.dropWhile_append_of_pos h, htake.1, htake.2, List.append_nil]

lemma scanInt_toDigits (n : ℕ) (hrest : Stops rest) :
    scanInt (Nat.toDigits 10 n ++ rest) = some (Nat.toDigits 10 n, rest) := by
  rcases Nat.eq_zero_or_pos n with rfl | hn
  · rfl
  · obtain ⟨d, ds, hd, hne⟩ := head_toDigits hn
    have hspan := span_digits (fun c hc => isDigit_toDigits (n := n) hc) hrest
    rw [hd] at hspan ⊢
    rw [List.cons_append, scanInt]
    · rw [List.cons_append] at hspan
      rw [scanDigits, hspan]
    · intro rest' heq
      exact hne (List.cons.inj heq).1

lemma scanFraction_of_stops (hrest : Stops rest) : scanFraction rest = some ([], rest) := by
  cases rest with
  | nil => rfl
  | cons c rest => rcases hrest c rfl with rfl | rfl | rfl <;> rfl

lemma scanExponent_of_stops (hrest : Stops rest) : scanExponent rest = some ([], rest) := by
  cases rest with
  | nil => rfl
  | cons c rest => rcases hrest c rfl with rfl | rfl | rfl <;> rfl

lemma scanUnsigned_toDigits (n : ℕ) (hrest : Stops rest) :
    scanUnsigned (Nat.toDigits 10 n ++ rest) = some (Nat.toDigits 10 n, rest) := by
  rw [scanUnsigned, scanInt_toDigits n hrest]
  simp only [Option.bind_eq_bind, Option.bind_some, scanFraction_of_stops hrest,
    scanExponent_of_stops hrest, List.append_nil]

lemma scanNumber_toDigits (n : ℕ) (hrest : Stops rest) :
    scanNumber (Nat.toDigits 10 n ++ rest) = some (Nat.toDigits 10 n, rest) := by
  rw [scanNumber]
  · exact scanUnsigned_toDigits n hrest
  · -- a digit is no sign
    intro rest' heq
    obtain ⟨d, ds, hd⟩ := List.exists_cons_of_ne_nil (Nat.toDigits_ne_nil (b := 10) (n := n))
    rw [hd] at heq
    have hdig : d.isDigit = true := isDigit_toDigits (n := n) (by rw [hd]; simp)
    rw [(List.cons.inj heq).1] at hdig
    cases hdig

def formatInt (i : ℤ) : List Char :=
  if 0 ≤ i then Nat.toDigits 10 i.toNat else '-' :: Nat.toDigits 10 (-i).toNat

lemma scanNumber_formatInt (i : ℤ) (hrest : Stops rest) :
    scanNumber (formatInt i ++ rest) = some (formatInt i, rest) := by
  by_cases hi : 0 ≤ i
  · rw [formatInt, if_pos hi]
    exact scanNumber_toDigits _ hrest
  · rw [formatInt, if_neg hi, List.cons_append, scanNumber, scanUnsigned_toDigits _ hrest]
    rfl

lemma head_formatInt (i : ℤ) : ∃ c cs, formatInt i = c :: cs ∧ (c = '-' ∨ c.isDigit = true) := by
  by_cases hi : 0 ≤ i
  · obtain ⟨d, ds, hd⟩ := List.exists_cons_of_ne_nil (Nat.toDigits_ne_nil (b := 10) (n := i.toNat))
    refine ⟨d, ds, by rw [formatInt, if_pos hi, hd], .inr ?_⟩
    exact isDigit_toDigits (n := i.toNat) (by rw [hd]; simp)
  · exact ⟨'-', _, by rw [formatInt, if_neg hi], .inl rfl⟩

theorem reads_int (i : ℤ) : Reads (formatInt i) (.number (String.ofList (formatInt i))) := by
  intro fuel depth rest hfuel hrest
  obtain ⟨c, cs, hc, hcase⟩ := head_formatInt i
  have hnum := scanNumber_formatInt i hrest
  have hspace : isSpace c = false := by
    rw [Bool.eq_false_iff]
    intro hs
    simp only [isSpace, Bool.or_eq_true, beq_iff_eq] at hs
    rcases hs with ((rfl | rfl) | rfl) | rfl <;> rcases hcase with h | h <;> cases h
  cases fuel with
  | zero => omega
  | succ fuel =>
    rw [parseValue]
    rw [hc] at hnum ⊢
    rw [List.cons_append, skipSpace_cons hspace] at *
    -- no other value starts with a sign or a digit
    split
    all_goals first
      | (next heq => obtain ⟨rfl, -⟩ := List.cons.inj heq; rcases hcase with h | h <;> cases h)
      | rw [hnum, Option.map_some]

structure Field where
  name : String
  text : List Char
  value : Value
  reads : Reads text value

def Field.ofString (name s : String) : Field := ⟨name, quote s.toList, .string s, reads_string s⟩

def Field.ofInt (name : String) (i : ℤ) : Field :=
  ⟨name, formatInt i, .number (String.ofList (formatInt i)), reads_int i⟩

def Field.written (f : Field) : List Char × List Char := (f.name.toList, f.text)

def Field.read (f : Field) : String × Value := (f.name, f.value)

lemma stops_cons {c : Char} (h : c = ',' ∨ c = '\x7d' ∨ c = ']') : Stops (c :: rest) := by
  intro c' hc
  cases hc
  exact h

lemma parseFields_field (f : Field) (fuel depth : ℕ) (c : Char) (rest : List Char)
    (hfuel : f.text.length < fuel) (hc : c = ',' ∨ c = '\x7d' ∨ c = ']') :
    parseFields (fuel + 1) depth (quote f.name.toList ++ ':' :: (f.text ++ c :: rest)) =
      match c :: rest with
      | ',' :: rest => (parseFields fuel depth rest).map fun r => (f.read :: r.1, r.2)
      | '\x7d' :: rest => some ([f.read], rest)
      | _ => none := by
  have hspace : skipSpace (c :: rest) = c :: rest := by
    rcases hc with rfl | rfl | rfl <;> exact skipSpace_cons rfl _
  have hval := f.reads fuel depth (c :: rest) hfuel (stops_cons hc)
  rw [parseFields, quote, List.cons_append, skipSpace_cons rfl, List.append_assoc]
  simp only [List.singleton_append, scanString_quote, decodePieces_map, String.ofList_toList,
    skipSpace_cons (show isSpace ':' = false from rfl), hval, hspace]
  rfl

theorem parseFields_render (fs : List Field) (hne : fs ≠ []) : ∀ fuel depth rest,
    (renderFields (fs.map Field.written)).length < fuel →
    parseFields fuel depth (renderFields (fs.map Field.written) ++ '\x7d' :: rest) =
      some (fs.map Field.read, rest) := by
  induction fs with
  | nil => exact absurd rfl hne
  | cons f fs ih =>
    intro fuel depth rest hfuel
    cases fuel with
    | zero => omega
    | succ fuel =>
      cases fs with
      | nil =>
        have hlen : f.text.length < fuel := by
          simp [renderFields, Field.written] at hfuel
          omega
        have h := parseFields_field f fuel depth '\x7d' rest hlen (by simp)
        simpa [renderFields, Field.written] using h
      | cons g fs =>
        have hrender : renderFields ((f :: g :: fs).map Field.written) =
            quote f.name.toList ++ ':' ::
              (f.text ++ ',' :: renderFields ((g :: fs).map Field.written)) := rfl
        rw [hrender] at hfuel ⊢
        simp only [List.length_append, List.length_cons] at hfuel
        have h := parseFields_field f fuel depth ','
          (renderFields ((g :: fs).map Field.written) ++ '\x7d' :: rest) (by omega) (by simp)
        have hrest := ih (by simp) fuel depth rest (by omega)
        simp only [hrest] at h
        simpa using h

lemma parseValue_object (fuel depth : ℕ) (rest : List Char) :
    parseValue (fuel + 1) (depth + 1) ('\x7b' :: '"' :: rest) =
      (parseFields fuel depth ('"' :: rest)).map fun r => (.object r.1, r.2) := by
  rfl

theorem parse_renderObject (fs : List Field) (hne : fs ≠ []) :
    parse (renderObject (fs.map Field.written)) = some (.object (fs.map Field.read)) := by
  obtain ⟨f, fs', rfl⟩ := List.exists_cons_of_ne_nil hne
  obtain ⟨tail, htail⟩ : ∃ tail, renderFields ((f :: fs').map Field.written) = '"' :: tail := by
    cases fs' <;> exact ⟨_, rfl⟩
  have hfields := parseFields_render (f :: fs') hne
    (renderObject ((f :: fs').map Field.written)).length 9999 [] (by
      simp only [renderObject, List.length_cons, List.length_append]
      omega)
  rw [renderObject, htail, List.cons_append] at hfields ⊢
  rw [parse, maxNestingDepth, parseValue_object, hfields]
  rfl

end

def foldChar (c : Char) : Char := if c = 'ſ' then 's' else if c = '\u212a' then 'k' else c.toLower

def foldName (s : String) : String := String.ofList (s.toList.map foldChar)

/-- Set the fields of a structure from an object, one after the other; `set` gets the name up to
case, leaves the structure alone if it has no such field, and fails on a value of the wrong kind. -/
def unmarshal {σ : Type*} (set : String → Value → σ → Option σ) (init : σ) : Value → Option σ
  | .null => some init
  | .object fields => fields.foldlM (fun s f => set (foldName f.1) f.2 s) init
  | _ => none

lemma unmarshal_view {σ τ : Type*} {set : String → Value → σ → Option σ}
    {set' : String → Value → τ → Option τ} (view : σ → τ)
    (hset : ∀ name v s s', set name v s = some s' → set' name v (view s) = some (view s'))
    {init s : σ} {document : Value} (h : unmarshal set init document = some s) :
    unmarshal set' (view init) document = some (view s) := by
  have hfields : ∀ (fields : List (String × Value)) (init : σ),
      fields.foldlM (fun s f => set (foldName f.1) f.2 s) init = some s →
      fields.foldlM (fun s f => set' (foldName f.1) f.2 s) (view init) = some (view s) := by
    intro fields
    induction fields with
    | nil =>
      intro init h
      cases h
      rfl
    | cons f fields ih =>
      intro init h
      obtain ⟨next, hnext, h⟩ := Option.bind_eq_some_iff.mp h
      exact Option.bind_eq_some_iff.mpr ⟨view next, hset _ _ _ _ hnext, ih next h⟩
  cases document with
  | null =>
    cases h
    rfl
  | object fields => exact hfields fields init h
  | bool _ | number _ | string _ | array _ => cases h

def asString (old : String) : Value → Option String
  | .string s => some s
  | .null => some old
  | _ => none

def unsigned : List Char → List Char
  | '-' :: ds => ds
  | '+' :: ds => ds
  | ds => ds

/-- `strconv.ParseInt(s, 10, 64)`. -/
def parseInt (cs : List Char) : Option ℤ :=
  if unsigned cs = [] ∨ ¬ (unsigned cs).all Char.isDigit then none
  else
    let n := Nat.ofDigitChars 10 (unsigned cs) 0
    if cs.head? = some '-' then if n ≤ 2 ^ 63 then some (-n) else none
    else if n < 2 ^ 63 then some n else none

/-- An `int` field, given what it holds. -/
def asInt (old : ℤ) : Value → Option ℤ
  | .number text => parseInt text.toList
  | .null => some old
  | _ => none

lemma parseInt_formatInt {i : ℤ} (h0 : 0 ≤ i) (h : i < 2 ^ 63) :
    parseInt (formatInt i) = some i := by
  obtain ⟨d, ds, hd⟩ := List.exists_cons_of_ne_nil (Nat.toDigits_ne_nil (b := 10) (n := i.toNat))
  have hdig : ∀ c ∈ d :: ds, c.isDigit = true := fun c hc => isDigit_toDigits (hd ▸ hc)
  have hval : Nat.ofDigitChars 10 (d :: ds) 0 = i.toNat := by
    rw [← hd, Nat.ofDigitChars_ten_toDigits]
  have hminus : d ≠ '-' := by
    rintro rfl
    cases hdig '-' List.mem_cons_self
  have hplus : d ≠ '+' := by
    rintro rfl
    cases hdig '+' List.mem_cons_self
  have hunsigned : unsigned (d :: ds) = d :: ds := by
    rw [unsigned]
    · intro ds' heq
      exact hminus (List.cons.inj heq).1
    · intro ds' heq
      exact hplus (List.cons.inj heq).1
  rw [formatInt, if_pos h0, hd, parseInt, hunsigned, if_neg (by simpa using hdig)]
  simp only [hval]
  rw [if_neg (by simpa using hminus), if_pos (by omega), Int.toNat_of_nonneg h0]

def token (fs : List Field) : String :=
  String.ofList (Base64.encode (Base64.utf8 (renderObject (fs.map Field.written))))

def ofToken (s : String) : Option Value :=
  (Base64.decode s.toList).bind fun bs => parse (Base64.text bs)

theorem ofToken_token (fs : List Field) (hne : fs ≠ []) :
    ofToken (token fs) = some (.object (fs.map Field.read)) := by
  rw [ofToken, token, String.toList_ofList, Base64.decode_encode, Option.bind_some,
    Base64.text_utf8, parse_renderObject fs hne]

lemma token_ne_empty (fs : List Field) : token fs ≠ "" := by
  intro h
  have hdec : Base64.decode (token fs).toList = some [] := by
    rw [h]
    rfl
  rw [token, String.toList_ofList, Base64.decode_encode] at hdec
  -- a record starts with its brace
  have htext := Base64.text_utf8 (renderObject (fs.map Field.written))
  rw [Option.some.inj hdec] at htext
  cases htext

end Json
