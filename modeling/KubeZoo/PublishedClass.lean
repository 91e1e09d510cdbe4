import KubeZoo.Api

/-! # Published classes -/

namespace KubeZoo

structure PublishedClasses where
  hasSynced : Bool
  visible : String → Bool
  retired : String → Bool

/-- `common.PublishedDeprecated`: the value of the label that retires a class. -/
def publishedDeprecated : String := "deprecated"

/-- `labelledSet`, at some time. `store` is `GetByKey` of the store, if there is one; an object in it
that has no labels to ask for is there as `none`. `synced` is what the function says, if there is
one. -/
structure LabelledSet where
  label : String := ""
  store : Option (String → Except GoError (Option (Option StringMap))) := none
  synced : Option Bool := none
  static : List String := []

namespace LabelledSet

/-- `New`: an empty name on the command line is none. -/
def new (label : String) (store : Option (String → Except GoError (Option (Option StringMap))))
    (synced : Option Bool) (static : List String) : LabelledSet where
  label := label
  store := store
  synced := synced
  static := static.filter (· ≠ "")

/-- `Static`. -/
def ofStatic (static : List String) : LabelledSet := new "" none (some true) static

def hasSynced (s : LabelledSet) : Bool := s.synced.getD true

/-- `value`: the label of the object of that name, if it can be told. -/
def value (s : LabelledSet) (name : String) : Option String :=
  match s.store with
  | none => none
  | some getByKey =>
    if !s.hasSynced then none
    else
      match getByKey name with
      | .error _ => none
      | .ok none => none
      | .ok (some none) => none
      | .ok (some (some labels)) => labels[s.label]?

/-- `Visible`: any value of the label counts, but the empty one. -/
def visible (s : LabelledSet) (name : String) : Bool :=
  s.static.contains name || (s.value name).any (· ≠ "")

def retired (s : LabelledSet) (name : String) : Bool :=
  !s.static.contains name && s.value name == some publishedDeprecated

/-- The set, as the `Set` that its users see. -/
def toClasses (s : LabelledSet) : PublishedClasses where
  hasSynced := s.hasSynced
  visible := s.visible
  retired := s.retired

end LabelledSet

end KubeZoo
