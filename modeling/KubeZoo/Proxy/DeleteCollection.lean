import KubeZoo.Proxy.ClusterScope

/-! # Deleting a collection -/

namespace KubeZoo

namespace TenantProxy

variable {β : Type} (tp : TenantProxy β)

/-- The loop that deletes: the names that it asks for, and the error that ends it. -/
def deleteItems (delete : String → Except GoError Unit) (tid : String) :
    List (Object β) → List String × Except GoError Unit
  | [] => ([], .ok ())
  | o :: rest =>
    match tp.refuseProjectedName o.metadata.name, tp.refuseReservedName tid o.metadata.name with
    | .error _, _ => deleteItems delete tid rest
    | .ok _, .error _ => deleteItems delete tid rest
    | .ok _, .ok _ =>
      match delete o.metadata.name with
      | .error e => ([o.metadata.name], .error (tp.contract.trimTenantIDFromError e tid))
      | .ok _ =>
        let (asked, ended) := deleteItems delete tid rest
        (o.metadata.name :: asked, ended)

def deletedList (ctx : RequestContext) (tid : String) (list : UnstructuredList (Object β)) :
    Except GoError (UnstructuredList (Object β)) := do
  let items ← list.items.mapM (tp.convertItem ctx tid)
  tp.convertUnstructuredListToOutput { list with items := items }

def visibleList (tid : String) (list : UnstructuredList (Object β)) :
    UnstructuredList (Object β) :=
  let list := tp.filterUnstructuredList list tid
  tp.hideProjections (if !tp.namespaceScoped then hideUpstreamListCursor list else list)

/-- `DeleteCollection`: the names that it asks upstream to delete, and its answer. -/
def deleteCollection (client : DynamicClient (Object β)) (delete : String → Except GoError Unit)
    (ctx : RequestContext) (options : ListOptions) :
    List String × Except GoError (UnstructuredList (Object β)) :=
  match tp.listOptions ctx options with
  | .error e => ([], .error e)
  | .ok (tid, proxyListOptions) =>
    match tp.getClient ctx with
    | .error e => ([], .error e)
    | .ok ns =>
      match client.list ns proxyListOptions with
      | .error e => ([], .error (tp.contract.trimTenantIDFromError e tid))
      | .ok utdList =>
        let utdList := tp.visibleList tid utdList
        match tp.deleteItems delete tid utdList.items with
        | (asked, .error e) => (asked, .error e)
        | (asked, .ok _) => (asked, tp.deletedList ctx tid utdList)

def deletable (tid : String) (list : UnstructuredList (Object β)) : List (Object β) :=
  list.items.filter fun o => tp.contract.keeps tid tp.namespaceScoped o.metadata &&
    !(tp.hideProjected && tp.contract.isManagedBindingName o.metadata.name) &&
    (tp.refuseReservedName tid o.metadata.name).isOk

variable {tp} {delete : String → Except GoError Unit} {tid : String}
  {list : UnstructuredList (Object β)} {ctx : RequestContext}

lemma deleteItems_spec (delete : String → Except GoError Unit) (tid : String)
    (items : List (Object β))
    (hmanaged : ∀ o ∈ items, tp.refuseProjectedName o.metadata.name = .ok ()) :
    (∀ o ∈ items, (tp.refuseReservedName tid o.metadata.name).isOk = true →
        delete o.metadata.name = .ok ()) ∧
      tp.deleteItems delete tid items = ((items.filter fun o =>
        (tp.refuseReservedName tid o.metadata.name).isOk).map (·.metadata.name), .ok ()) ∨
    (∃ o ∈ items, (tp.refuseReservedName tid o.metadata.name).isOk = true ∧
        delete o.metadata.name ≠ .ok ()) ∧
      ∃ e, (tp.deleteItems delete tid items).2 = .error e := by
  induction items with
  | nil => exact .inl ⟨nofun, rfl⟩
  | cons o rest ih =>
    have ih := ih fun o ho => hmanaged o (List.mem_cons_of_mem _ ho)
    rw [deleteItems, hmanaged o List.mem_cons_self]
    cases hreserved : tp.refuseReservedName tid o.metadata.name with
    | error e => simpa [hreserved, Except.isOk, Except.toBool] using ih
    | ok u =>
      cases hdelete : delete o.metadata.name with
      | error e => exact .inr ⟨⟨o, List.mem_cons_self, by rw [hreserved]; rfl, by simp [hdelete]⟩, _, rfl⟩
      | ok u' =>
        obtain ⟨hall, hrun⟩ | ⟨⟨o', ho', hfails⟩, e, hrun⟩ := ih
        · left
          simp only [hrun]
          simpa [hreserved, Except.isOk, Except.toBool, hdelete] using hall
        · exact .inr ⟨⟨o', List.mem_cons_of_mem _ ho', hfails⟩, e, hrun⟩

lemma items_visibleList :
    (tp.visibleList tid list).items = list.items.filter fun o =>
      tp.contract.keeps tid tp.namespaceScoped o.metadata &&
        !(tp.hideProjected && tp.contract.isManagedBindingName o.metadata.name) := by
  have hcursor : ∀ l : UnstructuredList (Object β), (hideUpstreamListCursor l).items = l.items := by
    intro l
    unfold hideUpstreamListCursor
    simp only
    split_ifs <;> rfl
  have hitems : (if !tp.namespaceScoped then
      hideUpstreamListCursor (tp.filterUnstructuredList list tid)
      else tp.filterUnstructuredList list tid).items =
        (tp.filterUnstructuredList list tid).items := by
    split_ifs
    · exact hcursor _
    · rfl
  unfold visibleList hideProjections
  cases tp.hideProjected
  · simpa [filterUnstructuredList] using hitems
  · simp only [Bool.not_true, Bool.false_eq_true, if_false, hitems, Bool.true_and]
    simp only [filterUnstructuredList, List.filter_filter, Bool.and_comm]

lemma deletable_eq_filter :
    tp.deletable tid list = (tp.visibleList tid list).items.filter fun o =>
      (tp.refuseReservedName tid o.metadata.name).isOk := by
  rw [items_visibleList, List.filter_filter]
  refine List.filter_congr fun o _ => ?_
  rw [Bool.and_comm]

lemma refuseProjectedName_visibleList {o : Object β} (ho : o ∈ (tp.visibleList tid list).items) :
    tp.refuseProjectedName o.metadata.name = .ok () := by
  rw [items_visibleList, List.mem_filter] at ho
  have hmanaged := (Bool.and_eq_true_iff.mp ho.2).2
  rw [Bool.not_and] at hmanaged
  rw [refuseProjectedName, if_pos hmanaged]

lemma length_deletedList {answer : UnstructuredList (Object β)}
    (hlists : ∀ l l', tp.convertUnstructuredListToOutput l = .ok l' →
      l'.items.length = l.items.length)
    (h : tp.deletedList ctx tid list = .ok answer) :
    answer.items.length = list.items.length := by
  obtain ⟨items, hitems, houtput⟩ := Except.bind_eq_ok_iff.mp h
  rw [hlists _ _ houtput]
  exact (Except.mapM_eq_ok_iff.mp hitems).length_eq.symm

end TenantProxy

open TenantProxy in
/-- A collection is deleted as reported, namely every object that is the tenant's and neither hidden nor
reserved is asked to be deleted, nothing else is, and the answer is the list of these objects, exactly
if upstream finds all of them and none that is listed has a reserved name. -/
theorem delete_collection_exact_iff {β : Type} (tp : TenantProxy β)
    (client : DynamicClient (Object β)) (delete : String → Except GoError Unit)
    (ctx : RequestContext) (options proxyOptions : ListOptions) (tid ns : String)
    (list : UnstructuredList (Object β))
    (hoptions : tp.listOptions ctx options = .ok (tid, proxyOptions))
    (hns : tp.getClient ctx = .ok ns) (hlist : client.list ns proxyOptions = .ok list)
    (hconvert : ∀ o ∈ (tp.visibleList tid list).items, ∃ shown,
      tp.convertItem ctx tid o = .ok shown)
    (hlists : ∀ l, ∃ l', tp.convertUnstructuredListToOutput l = .ok l' ∧
      l'.items.length = l.items.length) :
    (∃ answer, tp.deleteCollection client delete ctx options =
        ((tp.deletable tid list).map (·.metadata.name), .ok answer) ∧
      tp.deletedList ctx tid
        { tp.visibleList tid list with items := tp.deletable tid list } = .ok answer) ↔
    (∀ o ∈ tp.deletable tid list, delete o.metadata.name = .ok ()) ∧
      ∀ o ∈ (tp.visibleList tid list).items,
        (tp.refuseReservedName tid o.metadata.name).isOk = true := by
  have hlength : ∀ l l', tp.convertUnstructuredListToOutput l = .ok l' →
      l'.items.length = l.items.length := by
    intro l l' hl
    obtain ⟨l'', hl'', hlen⟩ := hlists l
    rw [hl, Except.ok.injEq] at hl''
    rw [hl'', hlen]
  have hrun : tp.deleteCollection client delete ctx options =
      match tp.deleteItems delete tid (tp.visibleList tid list).items with
      | (asked, .error e) => (asked, .error e)
      | (asked, .ok _) => (asked, tp.deletedList ctx tid (tp.visibleList tid list)) := by
    simp only [deleteCollection, hoptions, hns, hlist]
  rw [hrun, deletable_eq_filter]
  obtain ⟨hall, hitems⟩ | ⟨⟨o, ho, hok, hfails⟩, e, herror⟩ :=
    deleteItems_spec delete tid (tp.visibleList tid list).items
      fun o ho => refuseProjectedName_visibleList ho
  · rw [hitems]
    constructor
    · rintro ⟨answer, hanswer, hexact⟩
      refine ⟨fun o ho => hall o (List.mem_filter.mp ho).1 (List.mem_filter.mp ho).2, ?_⟩
      have hfew := length_deletedList hlength hexact
      rw [length_deletedList hlength (Prod.mk.inj hanswer).2] at hfew
      exact List.length_filter_eq_length_iff.mp hfew.symm
    · rintro ⟨-, hreserved⟩
      obtain ⟨items, hitems⟩ := Except.exists_mapM_eq_ok_iff.mpr hconvert
      obtain ⟨answer, hanswer, -⟩ := hlists { tp.visibleList tid list with items := items }
      have hdeleted : tp.deletedList ctx tid (tp.visibleList tid list) = .ok answer :=
        Except.bind_eq_ok_iff.mpr ⟨items, hitems, hanswer⟩
      rw [List.filter_eq_self.mpr hreserved]
      exact ⟨answer, by rw [hdeleted], hdeleted⟩
  · refine iff_of_false ?_ fun h => hfails (h.1 o (List.mem_filter.mpr ⟨ho, hok⟩))
    rintro ⟨answer, hanswer, -⟩
    revert hanswer herror
    rcases tp.deleteItems delete tid (tp.visibleList tid list).items with ⟨asked, _ | _⟩
    · rintro - hanswer
      cases (Prod.mk.inj hanswer).2
    · rintro herror
      cases herror

private def threeVolumes : UnstructuredList (Object Unit) where
  items := [{ metadata := { name := "111111-a" }, body := () },
    { metadata := { name := "222222-b" }, body := () },
    { metadata := { name := "111111-c" }, body := () }]

private def volumesClient : DynamicClient (Object Unit) where
  listNamespaces _ := .ok ([], "")
  list _ _ := .ok threeVolumes

private def deleteVolumes : RequestContext where
  tenantID := some "111111"
  requestInfo := some { verb := "deletecollection" }

theorem delete_collection_exact_volumes : ∃ answer,
    plainVolumes.deleteCollection volumesClient (fun _ => .ok ()) deleteVolumes {} =
      (["111111-a", "111111-c"], .ok answer) := by
  obtain ⟨answer, hanswer, -⟩ := (delete_collection_exact_iff plainVolumes volumesClient
    (fun _ => .ok ()) deleteVolumes {} {} "111111" "" threeVolumes (by decide +kernel)
    (by decide +kernel) rfl (fun o _ => ⟨o, rfl⟩) fun l => ⟨l, rfl, rfl⟩).mpr
    ⟨fun _ _ => rfl, fun _ _ => rfl⟩
  exact ⟨answer, hanswer⟩

theorem delete_collection_stops_at_missing :
    (plainVolumes.deletable "111111" threeVolumes).map (·.metadata.name) =
      ["111111-a", "111111-c"] ∧
    plainVolumes.deleteCollection volumesClient
      (fun name => if name = "111111-a" then .error (.status (newNotFound "" "persistentvolumes" name))
        else .ok ()) deleteVolumes {} =
      (["111111-a"], .error (.status (newNotFound "" "persistentvolumes" "111111-a"))) :=
  ⟨by decide +kernel, by decide +kernel⟩

end KubeZoo
