import Mathlib.Tactic
import Std.Data.ExtTreeMap

/-! # The parts of the Kubernetes API the gateway handles -/

namespace KubeZoo

/-- A `map[string]string`. A nil map and an empty one read the same. -/
abbrev StringMap := Std.ExtTreeMap String String compare

structure ObjectMeta where
  name : String := ""
  generateName : String := ""
  «namespace» : String := ""
  uid : String := ""
  resourceVersion : String := ""
  labels : StringMap := ∅
  annotations : StringMap := ∅
deriving DecidableEq

/-- The metadata `podTemplateOf` finds in an object: none, the object's own if it is a pod, or
that of the template it carries. -/
inductive PodTemplate
  | absent
  | own
  | nested (labels annotations : StringMap)
deriving DecidableEq

structure Object (β : Type) where
  metadata : ObjectMeta := {}
  template : PodTemplate := .absent
  body : β
deriving DecidableEq

structure ListOptions where
  labelSelector : String := ""
  fieldSelector : String := ""
  resourceVersion : String := ""
  resourceVersionMatch : String := ""
  limit : Int := 0
  «continue» : String := ""
  allowWatchBookmarks : Bool := false
  sendInitialEvents : Option Bool := none
  timeoutSeconds : Option Int := none
deriving DecidableEq

def resourceVersionMatchExact : String := "Exact"

structure Status where
  code : ℕ
  reason : String
  message : String
deriving DecidableEq

def newResourceExpired (message : String) : Status :=
  { code := 410, reason := "Expired", message := message }

def newBadRequest (message : String) : Status :=
  { code := 400, reason := "BadRequest", message := message }

/-- A `schema.GroupResource` as it is printed. -/
def groupResource (group resource : String) : String :=
  if group = "" then resource else resource ++ "." ++ group

def quoted (name : String) : String := "\"" ++ name ++ "\""

def newForbidden (group resource name message : String) : Status :=
  { code := 403, reason := "Forbidden",
    message :=
      if resource = "" then "forbidden: " ++ message
      else if name = "" then groupResource group resource ++ " is forbidden: " ++ message
      else groupResource group resource ++ " " ++ quoted name ++ " is forbidden: " ++ message }

def newNotFound (group resource name : String) : Status :=
  { code := 404, reason := "NotFound",
    message := groupResource group resource ++ " " ++ quoted name ++ " not found" }

/-- `field.Forbidden`, as it is printed. -/
def fieldForbidden (field detail : String) : String := field ++ ": Forbidden: " ++ detail

/-- `field.Required`, as it is printed. -/
def fieldRequired (field detail : String) : String := field ++ ": Required value: " ++ detail

/-- `field.Invalid` of a text, as it is printed. -/
def fieldInvalid (field value detail : String) : String :=
  field ++ ": Invalid value: " ++ quoted value ++ ": " ++ detail

/-- `apierrors.NewInvalid`, for one field. -/
def newInvalid (group kind name fieldError : String) : Status :=
  { code := 422, reason := "Invalid",
    message := groupResource group kind ++ " " ++ quoted name ++ " is invalid: " ++ fieldError }

def newAlreadyExists (group resource name : String) : Status :=
  { code := 409, reason := "AlreadyExists",
    message := groupResource group resource ++ " " ++ quoted name ++ " already exists" }

def newConflict (group resource name message : String) : Status :=
  { code := 409, reason := "Conflict",
    message := "Operation cannot be fulfilled on " ++ groupResource group resource ++ " " ++
      quoted name ++ ": " ++ message }

def newServiceUnavailable (reason : String) : Status :=
  { code := 503, reason := "ServiceUnavailable", message := reason }

def newInternalError (message : String) : Status :=
  { code := 500, reason := "InternalError", message := "Internal error occurred: " ++ message }

/-- An error: one with a `Status`, or one with a message only. -/
inductive GoError
  | status (s : Status)
  | plain (message : String)
deriving DecidableEq

namespace GoError

instance : Nontrivial GoError := ⟨⟨plain "", plain " ", by decide⟩⟩

def error : GoError → String
  | status s => s.message
  | plain message => message

/-- `knownReasons` of `apierrors`. -/
def knownReasons : List String :=
  ["Unauthorized", "Forbidden", "NotFound", "AlreadyExists", "Conflict", "Gone", "Invalid",
    "ServerTimeout", "StorageReadError", "Timeout", "TooManyRequests", "BadRequest",
    "MethodNotAllowed", "NotAcceptable", "RequestEntityTooLarge", "UnsupportedMediaType",
    "InternalError", "Expired", "ServiceUnavailable"]

def hasReason (reason : String) (code : ℕ) : GoError → Bool
  | status s => s.reason == reason || (!knownReasons.contains s.reason && s.code == code)
  | plain _ => false

def isNotFound (e : GoError) : Bool := e.hasReason "NotFound" 404

def isForbidden (e : GoError) : Bool := e.hasReason "Forbidden" 403

def isConflict (e : GoError) : Bool := e.hasReason "Conflict" 409

def isAlreadyExists : GoError → Bool
  | status s => s.reason == "AlreadyExists"
  | plain _ => false

end GoError

/-- `strings.Contains`. -/
def containsText (s sub : String) : Bool := decide (sub.toList <:+: s.toList)

/-- `strings.HasPrefix`. -/
def startsWith (s start : String) : Bool := start.toList.isPrefixOf s.toList

/-- `strings.Cut` at a character: what is before and after its first occurrence. -/
def cut (s : String) (sep : Char) : Option (String × String) :=
  match s.toList.span (· ≠ sep) with
  | (before, _ :: after) => some (String.ofList before, String.ofList after)
  | (_, []) => none

/-- What an `unstructured.UnstructuredList` carries beside its items. -/
structure ListObject where
  apiVersion : String := ""
  kind : String := ""
  resourceVersion : String := ""
  «continue» : String := ""
  remainingItemCount : Option Int := none
deriving DecidableEq

/-- `unstructured.UnstructuredList`. -/
structure UnstructuredList (α : Type) where
  object : Option ListObject := none
  items : List α := []
deriving DecidableEq

namespace UnstructuredList

variable {α : Type}

def getContinue (list : UnstructuredList α) : String :=
  match list.object with
  | none => ""
  | some object => object.continue

def setContinue (list : UnstructuredList α) (token : String) : UnstructuredList α :=
  { list with object := some { list.object.getD {} with «continue» := token } }

def setResourceVersion (list : UnstructuredList α) (revision : String) : UnstructuredList α :=
  { list with object := some { list.object.getD {} with resourceVersion := revision } }

@[simp] lemma items_setContinue (list : UnstructuredList α) (token : String) :
    (list.setContinue token).items = list.items := rfl

@[simp] lemma items_setResourceVersion (list : UnstructuredList α) (revision : String) :
    (list.setResourceVersion revision).items = list.items := rfl

end UnstructuredList

inductive EventType
  | added
  | modified
  | deleted
  | bookmark
  | error
deriving DecidableEq

inductive RuntimeObject (β : Type)
  | object (metadata : ObjectMeta) (body : β)
  | status (s : Status)
deriving DecidableEq

structure Event (β : Type) where
  type : EventType
  object : RuntimeObject β
deriving DecidableEq

/-- `meta.Accessor`: a `Status` has no object metadata. -/
def RuntimeObject.accessor {β : Type} : RuntimeObject β → Option ObjectMeta
  | .object m _ => some m
  | .status _ => none

/-- `strconv.ParseUint(s, 10, 64)`: decimal digits only, and no overflow. -/
def parseUint (s : String) : Option ℕ :=
  if s.toList = [] ∨ ¬ s.toList.all Char.isDigit then none
  else
    let n := Nat.ofDigitChars 10 s.toList 0
    if n < 2 ^ 64 then some n else none

/-- `strconv.FormatUint(n, 10)`. -/
def formatUint (n : ℕ) : String := n.repr

/-- `parseRevision`: anything that is not a number reads as no progress. -/
def parseRevision (resourceVersion : String) : ℕ :=
  (parseUint resourceVersion).getD 0

def initialEventsEndAnnotation : String := "k8s.io/initial-events-end"

def eventRevision {β : Type} (event : Event β) : ℕ :=
  match event.object.accessor with
  | none => 0
  | some m => parseRevision m.resourceVersion

def hasInitialEventsEnd {β : Type} (event : Event β) : Bool :=
  match event.object.accessor with
  | none => false
  | some m => m.annotations[ initialEventsEndAnnotation]? == some "true"

/-- `bookmarkAt`: the bookmark restamped with the merged watermark. -/
def bookmarkAt {β : Type} (event : Event β) (revision : ℕ) (endOfReplay : Bool) :
    Option (Event β) :=
  match event.object with
  | .status _ => none
  | .object m body =>
    let annotations :=
      if endOfReplay then m.annotations.insert initialEventsEndAnnotation "true"
      else m.annotations.erase initialEventsEndAnnotation
    some ⟨.bookmark, .object { m with
      resourceVersion := formatUint revision, annotations := annotations } body⟩

lemma parseUint_lt {s : String} {n : ℕ} (h : parseUint s = some n) : n < 2 ^ 64 := by
  unfold parseUint at h
  split at h
  · cases h
  · simp only at h
    split at h
    · next hlt => cases h; exact hlt
    · cases h

lemma parseRevision_lt (s : String) : parseRevision s < 2 ^ 64 := by
  unfold parseRevision
  cases h : parseUint s with
  | none => norm_num
  | some n => exact parseUint_lt h

lemma ofDigitChars_formatUint (n : ℕ) : Nat.ofDigitChars 10 (formatUint n).toList 0 = n := by
  rw [formatUint, Nat.toList_repr, Nat.ofDigitChars_ten_toDigits]

lemma formatUint_injective : Function.Injective formatUint := by
  intro m n h
  rw [← ofDigitChars_formatUint m, h, ofDigitChars_formatUint]

lemma parseUint_formatUint {n : ℕ} (h : n < 2 ^ 64) : parseUint (formatUint n) = some n := by
  have hne : (formatUint n).toList ≠ [] := by
    rw [formatUint, Nat.toList_repr]; exact Nat.toDigits_ne_nil
  have hdig : (formatUint n).toList.all Char.isDigit = true := by
    rw [formatUint, Nat.toList_repr, List.all_eq_true]
    intro c hc
    exact Nat.isDigit_of_mem_toDigits (by norm_num) (by norm_num) hc
  have hval := ofDigitChars_formatUint n
  unfold parseUint
  rw [if_neg (by simp [hne, hdig])]
  simp only [hval]
  rw [if_pos h]

lemma parseRevision_formatUint {n : ℕ} (h : n < 2 ^ 64) : parseRevision (formatUint n) = n := by
  rw [parseRevision, parseUint_formatUint h]; rfl

lemma eventRevision_lt {β : Type} (e : Event β) : eventRevision e < 2 ^ 64 := by
  unfold eventRevision
  split
  · norm_num
  · exact parseRevision_lt _

section

variable {β : Type} {e b : Event β} {w : ℕ} {fin : Bool}

lemma bookmarkAt_type (h : bookmarkAt e w fin = some b) : b.type = .bookmark := by
  unfold bookmarkAt at h
  split at h
  · cases h
  · cases h; rfl

lemma eventRevision_bookmarkAt (hw : w < 2 ^ 64) (h : bookmarkAt e w fin = some b) :
    eventRevision b = w := by
  unfold bookmarkAt at h
  split at h
  · cases h
  · cases h; exact parseRevision_formatUint hw

lemma hasInitialEventsEnd_bookmarkAt (h : bookmarkAt e w fin = some b) :
    hasInitialEventsEnd b = fin := by
  unfold bookmarkAt at h
  split at h
  · cases h
  · cases h
    cases fin <;> simp [hasInitialEventsEnd, RuntimeObject.accessor]

lemma bookmarkAt_isSome (h : e.object.accessor.isSome) : (bookmarkAt e w fin).isSome := by
  unfold bookmarkAt
  split
  · next hs => rw [hs] at h; simp [RuntimeObject.accessor] at h
  · rfl

end

end KubeZoo
