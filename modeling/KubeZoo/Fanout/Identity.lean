import KubeZoo.Fanout.List
import KubeZoo.Lib.Fallible

/-! # Who a fanned-out list reads as -/

namespace KubeZoo

open Calls

/-- `user.DefaultInfo`. -/
structure UserInfo where
  name : String := ""
  uid : String := ""
  groups : List String := []
  extra : Std.ExtTreeMap String (List String) compare := ∅
deriving DecidableEq

/-- Whom a context acts for: `request.UserFrom`. -/
abbrev Caller := Option UserInfo

/-- What `kubezoo-contract` says about the users of tenants. -/
structure TenantUsers where
  tenantAdminUser : String → String
  tenantIDKey : String

def asTenantAdmin (users : TenantUsers) (ctx : Caller) (tid : String) : Caller :=
  match ctx with
  | none => ctx
  | some caller => some
      { name := users.tenantAdminUser tid
        extra := caller.extra.insert users.tenantIDKey [tid] }

inductive FanoutCall
  | listNamespaces (ctx : Caller) (options : ListOptions)
  | list (ctx : Caller) (ns : String) (options : ListOptions)
deriving DecidableEq

variable {α : Type}

def FanoutCall.Result (α : Type) : FanoutCall → Type
  | listNamespaces _ _ => List String × String
  | list _ _ _ => UnstructuredList α

abbrev Reads (α γ : Type) := Fallible FanoutCall (FanoutCall.Result α) GoError γ

def readNamespaces (ctx : Caller) (options : ListOptions) : Reads α (List String × String) :=
  Fallible.send (FanoutCall.listNamespaces ctx options)

def readObjects (ctx : Caller) (ns : String) (options : ListOptions) : Reads α (UnstructuredList α) :=
  Fallible.send (FanoutCall.list ctx ns options)

variable (users : TenantUsers)

/-- `tenantNamespaces`. -/
def tenantNamespacesAs (ctx : Caller) (tid atRevision : String) :
    Reads α (List String × String) := do
  let ctx := asTenantAdmin users ctx tid
  let options : ListOptions := { labelSelector := tenantSelector tid }
  let options := if atRevision ≠ "" then
    { options with resourceVersion := atRevision, resourceVersionMatch := resourceVersionMatchExact }
    else options
  let (names, revision) ← readNamespaces ctx options
  if names.length > maxFannedNamespaces then
    throw (tooManyNamespaces names.length)
  return (sortStrings names, revision)

def listFromAs (ctx : Caller) (options : ListOptions) (revision : String) (count : ℕ) :
    ℕ → List String → UnstructuredList α → String → Int → Reads α (UnstructuredList α)
  | _, [], gathered, _, _ => return allRead revision gathered
  | index, ns :: rest, gathered, inner, remaining => do
    let page ← readObjects ctx ns (perNamespace options revision inner remaining)
    let gathered : UnstructuredList α :=
      { object := gathered.object.orElse fun _ => page.object,
        items := gathered.items ++ page.items }
    let inner := page.getContinue
    if options.limit ≤ 0 then
      listFromAs ctx options revision count (index + 1) rest gathered inner remaining
    else
      let remaining := options.limit - gathered.items.length
      if remaining > 0 then
        listFromAs ctx options revision count (index + 1) rest gathered "" remaining
      else
        let next := if inner = "" then index + 1 else index
        if next ≥ count ∧ inner = "" then return allRead revision gathered
        else
          let token := encodeFanoutContinue
            { resourceVersion := revision, namespaceIndex := next, inner := inner }
          return (gathered.setContinue token).setResourceVersion revision

/-- `listAcrossNamespaces`. -/
def listAcrossNamespacesAs (ctx : Caller) (options : ListOptions) (tid : String) :
    Reads α (UnstructuredList α) := do
  let cursor ← Fallible.ofExcept
    (if options.continue ≠ "" then decodeFanoutContinue options.continue else .ok {})
  let (namespaces, revision) ← tenantNamespacesAs users ctx tid cursor.resourceVersion
  let revision := if cursor.resourceVersion = "" then revision else cursor.resourceVersion
  if cursor.namespaceIndex > namespaces.length then
    throw pastTheEnd
  let index := cursor.namespaceIndex.toNat
  listFromAs ctx options revision namespaces.length index (namespaces.drop index) {} cursor.inner
    options.limit

def answering (client : Caller → DynamicClient α) :
    Calls.Server PUnit FanoutCall (Answer GoError (FanoutCall.Result α)) := fun s c =>
  match c with
  | .listNamespaces ctx options => (s, (client ctx).listNamespaces options)
  | .list ctx ns options => (s, (client ctx).list ns options)

def readFrom (client : Caller → DynamicClient α) {γ : Type} (p : Reads α γ) : Except GoError γ :=
  (Program.run (answering client) p.run ⟨⟩).2

section

variable {client : Caller → DynamicClient α} {γ δ : Type}

lemma readFrom_pure (a : γ) : readFrom client (pure a) = .ok a := rfl

lemma readFrom_readObjects (ctx : Caller) (ns : String) (options : ListOptions) :
    readFrom client (readObjects ctx ns options) = (client ctx).list ns options := rfl

lemma readFrom_bind (p : Reads α γ) (f : γ → Reads α δ) :
    readFrom client (p >>= f) = readFrom client p >>= fun a => readFrom client (f a) := by
  unfold readFrom
  rw [ExceptT.run_bind, Program.run_bind]
  cases (Program.run (answering client) p.run ⟨⟩).2 with
  | ok a => rfl
  | error e => rfl

lemma readFrom_ite (b : Prop) [Decidable b] (p q : Reads α γ) :
    readFrom client (if b then p else q) = if b then readFrom client p else readFrom client q :=
  apply_ite _ _ _ _

end

variable {users} {ctx : Caller} {tid : String}

lemma readFrom_listFromAs {client : Caller → DynamicClient α} {d : DynamicClient α}
    (hd : d.list = (client ctx).list) (options : ListOptions) (revision : String) (count : ℕ)
    (rest : List String) : ∀ (index : ℕ) (gathered : UnstructuredList α) (inner : String)
      (remaining : Int),
    readFrom client (listFromAs ctx options revision count index rest gathered inner remaining) =
      listFrom d options revision count index rest gathered inner remaining := by
  induction rest with
  | nil => intro index gathered inner remaining; rfl
  | cons ns rest ih =>
    intro index gathered inner remaining
    rw [listFromAs, listFrom, readFrom_bind, readFrom_readObjects, hd]
    cases (client ctx).list ns (perNamespace options revision inner remaining) with
    | error e => rfl
    | ok page => simp only [bind, Except.bind, readFrom_ite, readFrom_pure, ih]

/-- With the identities taken away, a list reads and answers as `listAcrossNamespaces` does on a
client that shows the namespaces as the tenant's administrator and the objects as whoever asked. -/
theorem list_as_caller_eq (users : TenantUsers) (client : Caller → DynamicClient α) (ctx : Caller)
    (options : ListOptions) (tid : String) :
    readFrom client (listAcrossNamespacesAs users ctx options tid) = listAcrossNamespaces
      ⟨(client (asTenantAdmin users ctx tid)).listNamespaces, (client ctx).list⟩ options tid := by
  simp only [listAcrossNamespacesAs, listAcrossNamespaces, tenantNamespacesAs, readFrom_bind,
    readFrom_ite, readFrom_listFromAs (d := ⟨(client (asTenantAdmin users ctx tid)).listNamespaces,
    (client ctx).list⟩) rfl]
  by_cases hfirst : options.continue ≠ ""
  · rw [if_pos hfirst, if_pos hfirst]
    rfl
  · rw [if_neg hfirst, if_neg hfirst]
    rfl

/-- The read is not one of objects, or it is made as `ctx`. -/
def FanoutCall.ReadsAs (ctx : Caller) : FanoutCall → Prop
  | listNamespaces _ _ => True
  | list ctx' _ _ => ctx' = ctx

section

variable {A : (c : FanoutCall) → c.Result α → Prop} {P : α → Prop} {options : ListOptions}
  (hA : ∀ ns options (page : UnstructuredList α), A (.list ctx ns options) page →
    ∀ o ∈ page.items, P o)

include hA

lemma relays_listFromAs {revision : String} {count : ℕ} (rest : List String) :
    ∀ (index : ℕ) (gathered : UnstructuredList α) (inner : String) (remaining : Int),
    (∀ o ∈ gathered.items, P o) →
    Fallible.Relays (FanoutCall.ReadsAs ctx) A (fun list => ∀ o ∈ list.items, P o)
      (listFromAs ctx options revision count index rest gathered inner remaining) := by
  induction rest with
  | nil =>
    intro index gathered inner remaining hgathered
    exact .pure hgathered
  | cons ns rest ih =>
    intro index gathered inner remaining hgathered
    refine .send rfl fun page hpage => ?_
    have hmore : ∀ o ∈ gathered.items ++ page.items, P o := by
      intro o ho
      rcases List.mem_append.mp ho with ho | ho
      · exact hgathered o ho
      · exact hA ns _ page hpage o ho
    refine .ite (ih _ _ _ _ hmore) (.ite (ih _ _ _ _ hmore) (.ite ?_ ?_))
    · exact .pure hmore
    · exact .pure hmore

lemma relays_listAcrossNamespacesAs :
    Fallible.Relays (FanoutCall.ReadsAs ctx) A (fun list => ∀ o ∈ list.items, P o)
      (listAcrossNamespacesAs users ctx options tid) := by
  refine (Fallible.relays_ofExcept (Q := fun _ => True) fun _ _ => trivial).bind fun cursor _ => ?_
  refine Fallible.Relays.bind (Q := fun _ => True) (.send trivial fun list _ => ?_) fun listed _ => ?_
  · exact .ite Fallible.relays_throw_bind (.pure trivial)
  · exact .ite Fallible.relays_throw_bind (relays_listFromAs hA _ _ _ _ _ nofun)

end

def FanoutCall.Honoured {β : Type} (may : Caller → String → Prop) :
    (c : FanoutCall) → c.Result (Object β) → Prop
  | listNamespaces _ _, _ => True
  | list ctx ns _, page => may ctx ns ∧ ∀ o ∈ page.items, o.metadata.namespace = ns

/-- Upstream answers a call only of a caller that may make it. -/
def Honours {β σ : Type} (may : Caller → String → Prop)
    (serve : Calls.Server σ FanoutCall (Answer GoError (FanoutCall.Result (Object β)))) : Prop :=
  ∀ s c r, (serve s c).2 = .ok r → c.Honoured may r

section

variable {β σ : Type} {may : Caller → String → Prop} {options : ListOptions} {s : σ}
  {serve : Calls.Server σ FanoutCall (Answer GoError (FanoutCall.Result (Object β)))}

variable {o : ListOptions} {ns : String} {list : UnstructuredList (Object β)}

lemma relays_as_caller :
    Fallible.Relays (FanoutCall.ReadsAs ctx) (fun _ _ => True)
      (fun list : UnstructuredList (Object β) => ∀ o ∈ list.items, True)
      (listAcrossNamespacesAs users ctx options tid) :=
  relays_listAcrossNamespacesAs fun _ _ _ _ _ _ => trivial

lemma reads_as_caller {ctx' : Caller} (hcall : .list ctx' ns o ∈
      Program.calls serve (listAcrossNamespacesAs users ctx options tid).run s) :
    ctx' = ctx := by
  exact (relays_as_caller (β := β)).only.of_mem_calls hcall

variable (hserve : Honours may serve)
  (hlist : (Program.run serve (listAcrossNamespacesAs users ctx options tid).run s).2 = .ok list)
include hserve hlist

lemma may_of_listAcrossNamespacesAs : ∀ o ∈ list.items, may ctx o.metadata.namespace := by
  have hrelays : Fallible.Relays (FanoutCall.ReadsAs ctx) (fun c r => FanoutCall.Honoured may c r)
      (fun list : UnstructuredList (Object β) => ∀ o ∈ list.items, may ctx o.metadata.namespace)
      (listAcrossNamespacesAs users ctx options tid) := by
    refine relays_listAcrossNamespacesAs fun ns options page hpage o ho => ?_
    rw [hpage.2 o ho]
    exact hpage.1
  exact hrelays.result hserve hlist

lemma may_of_mem_calls (hcall : .list ctx ns o ∈
      Program.calls serve (listAcrossNamespacesAs users ctx options tid).run s) :
    may ctx ns := by
  obtain ⟨s', page, hpage⟩ := (relays_as_caller.answered hlist).of_mem_calls hcall
  exact (hserve s' _ page hpage).1

end

end KubeZoo
