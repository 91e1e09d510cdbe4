import KubeZoo.Proxy.Addressable
import KubeZoo.Proxy.BindingList
import KubeZoo.Proxy.Requests
import KubeZoo.Proxy.Watch
import KubeZoo.Projection.Records

/-! # The names of managed bindings -/

namespace KubeZoo

open Except

open Transition (System)

variable {β : Type}

namespace Store

/-- Objects are stored under their names. -/
def Keyed (S : Store β) : Prop := ∀ ns name o, S ns name = some o → o.metadata.name = name

def AgreeOn (test : String → Bool) (S S' : Store β) : Prop :=
  ∀ ns name, test name = true → S' ns name = S ns name

variable {S S' : Store β} {test : String → Bool}

lemma Keyed.put (h : S.Keyed) (ns : String) (o : Object β) : (S.put ns o).Keyed := by
  intro ns' name o' ho'
  rw [Store.put] at ho'
  split_ifs at ho' with heq
  · rw [← Option.some.inj ho', heq.2]
  · exact h ns' name o' ho'

lemma Keyed.remove (h : S.Keyed) (ns name : String) : (S.remove ns name).Keyed := by
  intro ns' name' o ho
  rw [Store.remove] at ho
  split_ifs at ho
  exact h ns' name' o ho

lemma AgreeOn.refl (test : String → Bool) (S : Store β) : S.AgreeOn test S := fun _ _ _ => rfl

lemma AgreeOn.put (h : S.AgreeOn test S') (ns : String) {o : Object β}
    (ho : test o.metadata.name = false) : S.AgreeOn test (S'.put ns o) := by
  intro ns' name hname
  rw [Store.put, if_neg, h ns' name hname]
  rintro ⟨-, rfl⟩
  rw [ho] at hname
  cases hname

lemma AgreeOn.remove (h : S.AgreeOn test S') (ns : String) {name : String}
    (hname : test name = false) : S.AgreeOn test (S'.remove ns name) := by
  intro ns' name' hname'
  rw [Store.remove, if_neg, h ns' name' hname']
  rintro ⟨-, rfl⟩
  rw [hname] at hname'
  cases hname'

end Store

/-- Upstream keeps the names of what it is sent, and completes a `generateName` with one of these
suffixes. -/
structure Server.Names (srv : Server β) (suffixes : Set String) : Prop where
  create : ∀ S ns utd options o, (srv.upstream S).create ns utd options = .ok o →
    ∃ suffix ∈ suffixes, utd.metadata.resolvedName suffix = some o.metadata.name
  update : ∀ S ns utd options sub o created,
    (srv.upstream S).update ns utd options sub = .ok (o, created) →
      o.metadata.name = utd.metadata.name
  apply : ∀ S ctx utd form manager options o,
    (srv.upstream S).forwardApply ctx utd form manager options = .ok (some o) →
      o.metadata.name = utd.metadata.name
  delete : ∀ S ns name options left, srv.delete S ns name options = .ok (some left) →
    left.metadata.name = name
  get : ∀ S ns name sub o, S.Keyed → (srv.upstream S).get ns name sub = .ok o →
    o.metadata.name = name

namespace TenantProxy

def requestsFrom (tp : TenantProxy β) (g : Guards β) (pods : PodSteps β) (new : Object β)
    (srv : Server β) (S₀ : Store β) : System (Store β) (RequestContext × TenantRequest β) :=
  Transition.ofStep (fun S a => some (tp.after g pods new srv S a.1 a.2)) fun S => S = S₀

/-- The proxy of RoleBindings that hides the projected ones. -/
structure ServesOwnBindings (tp : TenantProxy (Owned RoleBinding))
    (checkGroupKind : CheckGroupKind) : Prop extends tp.ServesRoleBindings checkGroupKind where
  hides : tp.hideProjected = true
  resource : tp.subresource = ""
  view : ∀ o, tp.showTenantClusterIP o = o
  list : ∀ items output, tp.listFromVersioned items = .ok output →
    output.map (fun o => o.metadata) = items.map fun o => o.metadata

def managed {β : Type} (tp : TenantProxy β) (name : String) : Bool :=
  tp.contract.isManagedBindingName name

/-- An object that is to be created has a name, or a `generateName` that no suffix completes to the
name of a managed binding. -/
def NamesOwn (tp : TenantProxy β) (suffixes : Set String) (m : ObjectMeta) : Prop :=
  m.name ≠ "" ∨ ∀ suffix ∈ suffixes, tp.managed (m.generateName ++ suffix) = false

def CreatesOwn (tp : TenantProxy β) (new : Object β) (srv : Server β) (suffixes : Set String)
    (S : Store β) (a : RequestContext × TenantRequest β) : Prop :=
  ∀ obj, tp.submitted new (srv.upstream S) a.1 a.2 = .ok obj →
    tp.creating (srv.upstream S) a.1 a.2 = true → tp.NamesOwn suffixes obj.metadata

variable {tp : TenantProxy (Owned RoleBinding)} {checkGroupKind : CheckGroupKind}
  {g : Guards (Owned RoleBinding)} {pods : PodSteps (Owned RoleBinding)}
  {new obj utd : Object (Owned RoleBinding)} {ctx : RequestContext} {tid : String}
  {srv : Server (Owned RoleBinding)} {suffixes : Set String}

lemma refuseProjectedName_eq_ok_iff (hhides : tp.hideProjected = true) {name : String} :
    tp.refuseProjectedName name = .ok () ↔ tp.managed name = false := by
  unfold refuseProjectedName managed
  rw [hhides]
  cases tp.contract.isManagedBindingName name <;> simp

namespace ServesOwnBindings

variable (htp : tp.ServesOwnBindings checkGroupKind) (hpods : ∀ b, pods.isPod b = false)
  (hsrv : srv.Names suffixes)

include htp

lemma forward_name {up : Object (Owned RoleBinding)}
    (h : tp.convertTenantObjectToUpstreamObject obj tid = .ok up) :
    up.metadata.name = obj.metadata.name ∧ up.metadata.generateName = obj.metadata.generateName := by
  rw [convertTenantObjectToUpstreamObject, htp.convertor, htp.namespaced] at h
  obtain ⟨owners, -, spec, -, rfl⟩ := bindingTransformer_converts.forward_ok.mp h
  simp only [forwardMetadata, if_true]
  split_ifs
  · exact ⟨rfl, rfl⟩
  · exact ⟨rfl, rfl⟩

lemma backward_name {requestNamespace : String} {shown : Object (Owned RoleBinding)}
    (h : tp.convertUpstreamObjectToTenantObject obj tid requestNamespace = .ok shown) :
    shown.metadata.name = obj.metadata.name := by
  obtain ⟨o, ho, h⟩ := bind_eq_ok_iff.mp h
  rw [htp.convertor, htp.namespaced] at ho
  obtain ⟨owners, -, spec, -, hback⟩ := bindingTransformer_converts.backward_ok.mp ho
  obtain ⟨ns, hecho⟩ := tp.echoRequestNamespace_eq (tp.applyTenantViews o) tid requestNamespace
  rw [← Except.ok.inj h, hecho]
  have hname : o.metadata.name = obj.metadata.name := by
    rw [hback]
    rfl
  unfold applyTenantViews
  split_ifs
  · exact hname
  · rw [htp.view]
    exact (HiddenMetadata.name_strip _ o).trans hname

lemma output_name {output : Object (Owned RoleBinding)}
    (h : tp.convertUnstructuredToOutput obj = .ok output) :
    output.metadata.name = obj.metadata.name := by
  rw [convertUnstructuredToOutput, htp.typed] at h
  obtain ⟨body, -, rfl⟩ := map_eq_ok_iff.mp h
  rfl

include hpods in
lemma prepareCreate_name {form : Option (Object (Owned RoleBinding))}
    (h : tp.prepareCreate g pods ctx obj = .ok (tid, form, utd)) :
    utd.metadata.name = obj.metadata.name ∧ utd.metadata.generateName = obj.metadata.generateName ∧
      tp.managed utd.metadata.name = false := by
  obtain ⟨-, -, -, up, u, guarded, hup, hu, hguarded, rfl⟩ := prepareCreate_eq_ok_iff.mp h
  rw [toUtd, htp.typed] at hu
  obtain ⟨copy, hcopy, rfl⟩ := map_eq_ok_iff.mp hu
  rw [upstreamForm_of_notPod hpods] at hup
  obtain ⟨hname, hgenerate⟩ := htp.forward_name hup
  have hmeta := metadata_of_versioned hcopy
  simp only [guardCreate, bind_eq_ok_iff] at hguarded
  obtain ⟨-, -, ⟨⟩, hprojected, -⟩ := hguarded
  rw [← hmeta] at hname hgenerate
  exact ⟨hname, hgenerate, (refuseProjectedName_eq_ok_iff htp.hides).mp hprojected⟩

lemma prepareUpdate_name {out : Outgoing (Owned RoleBinding)}
    (h : tp.prepareUpdate g ctx obj = .ok out) : tp.managed out.utd.metadata.name = false := by
  unfold prepareUpdate at h
  split at h
  · cases h
  · simp only [bind_eq_ok_iff] at h
    obtain ⟨-, -, form, -, up, -, utd, -, ns, -, -, -, ⟨⟩, hprojected, -, -, h⟩ := h
    rw [← Except.ok.inj h]
    exact (refuseProjectedName_eq_ok_iff htp.hides).mp hprojected

variable {event : Event (PodTemplate × Owned RoleBinding)} {o : Object (Owned RoleBinding)}
  {w : ProxyWatch (Owned RoleBinding)} {s : Shipment (Owned RoleBinding)}
  {S : Store (Owned RoleBinding)} {name : String} {r : TenantRequest (Owned RoleBinding)}
  {list : UnstructuredList (Object (Owned RoleBinding))}

include hpods in
lemma created_managed_iff (h : tp.shipNew g pods ctx obj = .ok s) {suffix : String}
    (hname : s.utd.metadata.resolvedName suffix = some name) :
    tp.managed name = true ↔
      obj.metadata.name = "" ∧ tp.managed (obj.metadata.generateName ++ suffix) = true := by
  obtain ⟨-, -, hprep⟩ := shipNew_eq_ok_iff.mp h
  obtain ⟨hsame, hgenerate, hown⟩ := htp.prepareCreate_name hpods hprep
  rw [ObjectMeta.resolvedName, hsame, hgenerate] at hname
  by_cases hempty : obj.metadata.name = ""
  · rw [if_neg (not_not.mpr hempty)] at hname
    split_ifs at hname
    rw [← Option.some.inj hname, and_iff_right hempty]
  · rw [if_pos hempty] at hname
    rw [← Option.some.inj hname, ← hsame, hown]
    exact iff_of_false Bool.false_ne_true fun h => hempty (hsame ▸ h.1)

include hpods hsrv in
lemma stored_own (hown : tp.CreatesOwn new srv suffixes S (ctx, r))
    (hship : tp.ship g pods new (srv.upstream S) ctx r = .ok s)
    (hstored : tp.storedFor (srv.upstream S) ctx r.options s = .ok o) :
    tp.managed o.metadata.name = false := by
  obtain ⟨obj, hobj, hsends⟩ := ship_eq_ok_iff.mp hship
  have hutd : tp.managed s.utd.metadata.name = false := by
    obtain ⟨-, h⟩ | ⟨-, h⟩ := hsends
    · exact (htp.prepareCreate_name hpods (shipNew_eq_ok_iff.mp h).2.2).2.2
    · obtain ⟨-, guarded, -, hout⟩ := shipFound_eq_ok_iff.mp h
      exact htp.prepareUpdate_name hout
  obtain happly | ⟨hcreates, hcreate⟩ | ⟨-, created, hupdate⟩ := storedFor_ok htp.resource hstored
  · rw [hsrv.apply _ _ _ _ _ _ _ happly]
    exact hutd
  · obtain ⟨suffix, hsuffix, hname⟩ := hsrv.create _ _ _ _ _ hcreate
    obtain ⟨hcreating, h⟩ | ⟨-, h⟩ := hsends
    · rw [← Bool.not_eq_true, htp.created_managed_iff hpods h hname]
      rintro ⟨hempty, hmanaged⟩
      obtain hnamed | hgenerated := hown obj hobj hcreating
      · exact hnamed hempty
      · rw [hgenerated suffix hsuffix] at hmanaged
        cases hmanaged
    · rw [(shipFound_eq_ok_iff.mp h).1] at hcreates
      cases hcreates
  · rw [hsrv.update _ _ _ _ _ _ _ hupdate]
    exact hutd

include hpods hsrv in
lemma after_agree {S₀ : Store (Owned RoleBinding)} (hkeyed : S.Keyed)
    (hagree : S₀.AgreeOn tp.managed S) (hown : tp.CreatesOwn new srv suffixes S (ctx, r)) :
    (tp.after g pods new srv S ctx r).Keyed ∧
      S₀.AgreeOn tp.managed (tp.after g pods new srv S ctx r) := by
  refine after_preserves (P := fun S : Store (Owned RoleBinding) =>
    S.Keyed ∧ S₀.AgreeOn tp.managed S) ⟨hkeyed, hagree⟩ ?_ ?_
  · intro s o hship hstored
    exact ⟨hkeyed.put _ _, hagree.put _ (htp.stored_own hpods hsrv hown hship hstored)⟩
  · intro S S' ns name options _ hS hprojected hdelete
    have hname := (refuseProjectedName_eq_ok_iff htp.hides).mp hprojected
    obtain ⟨left, hleft, rfl⟩ := map_eq_ok_iff.mp hdelete
    split_ifs
    · exact hS
    · cases left with
      | none => exact ⟨hS.1.remove _ _, hS.2.remove _ hname⟩
      | some o =>
        refine ⟨hS.1.put _ _, hS.2.put _ ?_⟩
        rw [hsrv.delete _ _ _ _ _ hleft]
        exact hname

include hsrv in
lemma get_own (hkeyed : S.Keyed)
    (h : tp.get (srv.upstream S) ctx name = .ok o) : tp.managed o.metadata.name = false := by
  rw [get, htp.hides] at h
  split_ifs at h with hmanaged
  split at h
  · cases h
  · obtain ⟨ns, -, h⟩ := bind_eq_ok_iff.mp h
    obtain ⟨stored, hget, h⟩ := bind_eq_ok_iff.mp h
    obtain ⟨output, houtput, h⟩ := bind_eq_ok_iff.mp h
    have hname := hsrv.get _ _ _ _ _ hkeyed (mapError_eq_ok_iff.mp hget)
    rw [upstreamName, htp.namespaced] at hname
    rw [htp.backward_name h, htp.output_name houtput, hname]
    exact Bool.eq_false_iff.mpr hmanaged

lemma finishList_own {read : UnstructuredList (Object (Owned RoleBinding))}
    (h : tp.finishList ctx tid read = .ok list) :
    ∀ o ∈ list.items, tp.managed o.metadata.name = false := by
  obtain ⟨items, hitems, h⟩ := bind_eq_ok_iff.mp h
  rw [convertUnstructuredListToOutput, htp.typed] at h
  obtain ⟨output, houtput, rfl⟩ := map_eq_ok_iff.mp h
  intro o ho
  -- The item of the same metadata before the last conversion, and what was read for that.
  obtain ⟨shown, hshown, hsame⟩ : ∃ shown ∈ items, shown.metadata = o.metadata := by
    have hlist := htp.list _ _ houtput
    have hmem := List.mem_map_of_mem (f := fun o : Object (Owned RoleBinding) => o.metadata) ho
    rw [hlist, List.mem_map] at hmem
    obtain ⟨shown, hshown, hsame⟩ := hmem
    refine ⟨shown, ?_, hsame⟩
    unfold trimAPIVersion at hshown
    split_ifs at hshown
    · exact hshown
    · exact hshown
  obtain ⟨stored, hstored, hitem⟩ := exists_mem_of_mapM hitems hshown
  obtain ⟨converted, hconverted, hitem⟩ := bind_eq_ok_iff.mp hitem
  obtain ⟨tenant, htenant, hitem⟩ := bind_eq_ok_iff.mp hitem
  have hname : o.metadata.name = stored.metadata.name := by
    rw [← hsame, metadata_of_versioned hitem, htp.backward_name htenant, htp.output_name hconverted]
  rw [hname]
  rw [hideProjections, htp.hides] at hstored
  simpa [managed] using (List.mem_filter.mp hstored).2

lemma list_own {client : DynamicClient (Object (Owned RoleBinding))} {options : ListOptions}
    (h : tp.list client ctx options = .ok list) :
    ∀ o ∈ list.items, tp.managed o.metadata.name = false := by
  obtain ⟨⟨tid, proxyOptions⟩, -, h⟩ := bind_eq_ok_iff.mp h
  split_ifs at h
  · obtain ⟨read, -, h⟩ := bind_eq_ok_iff.mp h
    exact htp.finishList_own h
  · obtain ⟨_, -, h⟩ := bind_eq_ok_iff.mp h
    obtain ⟨read, -, h⟩ := bind_eq_ok_iff.mp h
    exact htp.finishList_own h
  · obtain ⟨_, -, h⟩ := bind_eq_ok_iff.mp h
    obtain ⟨read, -, h⟩ := bind_eq_ok_iff.mp h
    exact htp.finishList_own h

lemma convert_own (hw : w.tenantProxy = tp) {type : EventType}
    (hutd : tp.managed utd.metadata.name = false)
    (h : w.convert type utd = .send event ∨ w.convert type utd = .last event) :
    ∀ m ∈ event.object.accessor, tp.managed m.name = false := by
  unfold ProxyWatch.convert at h
  rw [hw] at h
  intro m hm
  split at h
  · obtain h | h := h
    · cases h
    · cases h
      cases hm
  · next output houtput =>
    split at h
    · obtain h | h := h
      · cases h
      · cases h
        cases hm
    · next shown hshown =>
      obtain h | h := h
      · cases h
        rw [← Option.some.inj hm, htp.backward_name hshown, htp.output_name houtput]
        exact hutd
      · cases h

lemma handle_own (hw : w.tenantProxy = tp) {e : Event (PodTemplate × Owned RoleBinding)}
    (h : w.handle e = .send event ∨ w.handle e = .last event) :
    event.type = .bookmark ∨ ∀ m ∈ event.object.accessor, tp.managed m.name = false := by
  unfold ProxyWatch.handle at h
  split at h
  · next hbookmark =>
    left
    obtain h | h := h
    · cases h
      exact hbookmark
    · cases h
  · obtain h | h := h
    · cases h
    · cases h
      exact .inr fun m hm => by cases hm
  · obtain h | h := h
    · cases h
    · cases h
  · obtain h | h := h
    · cases h
    · cases h
  · next m template body _ _ _ =>
    right
    rw [hw, htp.hides, Bool.true_and] at h
    by_cases hmanaged : tp.contract.isManagedBindingName m.name = true
    · rw [if_pos hmanaged, ite_self] at h
      obtain h | h := h
      · cases h
      · cases h
    · rw [if_neg hmanaged] at h
      split_ifs at h
      · obtain h | h := h
        · cases h
        · cases h
      · refine htp.convert_own hw ?_ h
        exact Bool.eq_false_iff.mpr hmanaged

end ServesOwnBindings

end TenantProxy

/-- No run of requests changes what is stored under a managed name, and no read returns such a
binding, if every binding that is created is named, or named by a `generateName` that makes no
managed name. -/
theorem managed_bindings_untouched (tp : TenantProxy (Owned RoleBinding))
    (checkGroupKind : CheckGroupKind) (htp : tp.ServesOwnBindings checkGroupKind)
    (g : Guards (Owned RoleBinding)) (pods : PodSteps (Owned RoleBinding))
    (hpods : ∀ b, pods.isPod b = false) (new : Object (Owned RoleBinding))
    (srv : Server (Owned RoleBinding)) (suffixes : Set String) (hsrv : srv.Names suffixes)
    (S₀ : Store (Owned RoleBinding)) (hS₀ : S₀.Keyed) :
    (∀ S, ((tp.requestsFrom g pods new srv S₀).restrict
        (tp.CreatesOwn new srv suffixes)).Reachable S →
      (∀ ns name, tp.contract.isManagedBindingName name = true → S ns name = S₀ ns name) ∧
      ∀ ctx name o, tp.get (srv.upstream S) ctx name = .ok o →
        tp.contract.isManagedBindingName o.metadata.name = false) ∧
    (∀ client ctx options list, tp.list client ctx options = .ok list →
      ∀ o ∈ list.items, tp.contract.isManagedBindingName o.metadata.name = false) ∧
    (∀ (w : ProxyWatch (Owned RoleBinding)) (W : Watcher (Event (PodTemplate × Owned RoleBinding)))
      s a event, w.tenantProxy = tp → (w.layer.atop W).system.Reachable s →
        (w.layer.atop W).gives s a = some event →
      event.type = .bookmark ∨
        ∀ m ∈ event.object.accessor, tp.contract.isManagedBindingName m.name = false) ∧
    ∀ ctx obj s suffix name, tp.shipNew g pods ctx obj = .ok s →
      s.utd.metadata.resolvedName suffix = some name →
      (tp.contract.isManagedBindingName name = true ↔ obj.metadata.name = "" ∧
        tp.contract.isManagedBindingName (obj.metadata.generateName ++ suffix) = true) := by
  refine ⟨?_, ?_, ?_, ?_⟩
  · intro S hS
    have hinv : S.Keyed ∧ S₀.AgreeOn tp.managed S := by
      refine hS.invariant (P := fun S : Store (Owned RoleBinding) =>
        S.Keyed ∧ S₀.AgreeOn tp.managed S) ?_ ?_
      · rintro S rfl
        exact ⟨hS₀, .refl _ _⟩
      · rintro S ⟨ctx, r⟩ S' - ⟨hkeyed, hagree⟩ ⟨hstep, hown⟩
        rw [← Option.some.inj hstep]
        exact htp.after_agree hpods hsrv hkeyed hagree hown
    exact ⟨hinv.2, fun ctx name o => htp.get_own hsrv hinv.1⟩
  · intro client ctx options list hlist
    exact htp.list_own hlist
  · intro w W s a event hw hs hgives
    obtain ⟨e, he⟩ := Watcher.Layer.handled_of_gives hs hgives
    exact htp.handle_own hw he
  · intro ctx obj s suffix name hship hname
    exact htp.created_managed_iff hpods hship hname

section

private def completingServer (suffix : String) : Server (Owned RoleBinding) :=
  { storingServer with
    upstream := fun S =>
      { storingServer.upstream S with
        create := fun ns utd options =>
          match utd.metadata.resolvedName suffix with
          | none => .error (.plain "name or generateName is required")
          | some name => (storingServer.upstream S).create ns
              { utd with metadata := { utd.metadata with name := name } } options } }

private lemma names_completingServer (suffix : String) :
    (completingServer suffix).Names {suffix} where
  create S ns utd options o h := by
    refine ⟨suffix, rfl, ?_⟩
    simp only [completingServer] at h
    split at h
    · cases h
    · next name hname =>
      simp only [storingServer, Upstream.ofStore] at h
      split at h
      · cases h
      · rw [hname, ← Except.ok.inj h]
  update S ns utd options sub o created h := by
    simp only [completingServer, storingServer, Upstream.ofStore] at h
    split_ifs at h
    rw [← (Prod.mk.inj (Except.ok.inj h)).1]
  apply S ctx utd form manager options o h := by cases h
  delete S ns name options left h := by
    have hdelete : storingServer.delete S ns name options = .ok (some left) := h
    cases delete_storingServer hdelete
  get S ns name sub o hkeyed h := by
    simp only [completingServer, storingServer, Upstream.ofStore] at h
    split at h
    · next o' ho' =>
      rw [← Except.ok.inj h]
      exact hkeyed ns name o' ho'
    · cases h

private def ownBindings : TenantProxy (Owned RoleBinding) :=
  { bindingStorage with
    contract := bindingContract
    convertor := BindingKind.roleBinding.convertor bindingContract namespacedKinds }

private lemma serves_ownBindings : ownBindings.ServesOwnBindings namespacedKinds where
  convertor := rfl
  namespaced := rfl
  typed := rfl
  fromVersioned _ := rfl
  toVersioned _ := rfl
  hides := rfl
  resource := rfl
  view _ := rfl
  list items output h := by rw [← Except.ok.inj h]

private def creatingBinding (m : ObjectMeta) : RequestContext × TenantRequest (Owned RoleBinding) :=
  (webVerb "create", .create { metadata := m, body := ⟨[], {}⟩ } {})

private def noBinding : Object (Owned RoleBinding) :=
  { metadata := {}, body := ⟨[], {}⟩ }

private def afterCreating (m : ObjectMeta) : Store (Owned RoleBinding) :=
  ownBindings.after .permissive noPod noBinding (completingServer "abcde") .empty (creatingBinding m).1
    (creatingBinding m).2

theorem managed_bindings_untouched_viewers :
    (afterCreating { generateName := "viewers-" } "111111-web" "viewers-abcde").isSome = true ∧
      ∀ ns name, bindingContract.isManagedBindingName name = true →
        afterCreating { generateName := "viewers-" } ns name = none := by
  have hreach : ((ownBindings.requestsFrom .permissive noPod noBinding (completingServer "abcde")
      .empty).restrict (ownBindings.CreatesOwn noBinding (completingServer "abcde")
        {"abcde"})).Reachable (afterCreating { generateName := "viewers-" }) := by
    refine .step (.init rfl) (a := creatingBinding { generateName := "viewers-" }) ⟨rfl, ?_⟩
    intro obj hobj _
    rw [← Except.ok.inj hobj]
    refine .inr fun suffix hsuffix => ?_
    rw [Set.mem_singleton_iff.mp hsuffix]
    decide +kernel
  have h := managed_bindings_untouched ownBindings namespacedKinds serves_ownBindings .permissive
    noPod (fun _ => rfl) noBinding (completingServer "abcde") {"abcde"}
    (names_completingServer "abcde") .empty (fun _ _ _ h => by cases h)
  exact ⟨by decide +kernel, (h.1 _ hreach).1⟩

theorem generated_binding_managed :
    bindingContract.isManagedBindingName "kubezoo:clusterrolebinding:abcde" = true ∧
      ∃ S, (ownBindings.requestsFrom .permissive noPod noBinding (completingServer "abcde")
          .empty).Reachable S ∧
        (S "111111-web" "kubezoo:clusterrolebinding:abcde").isSome = true := by
  refine ⟨by decide +kernel, afterCreating { generateName := "kubezoo:clusterrolebinding:" }, ?_,
    by decide +kernel⟩
  exact .step (.init rfl) (a := creatingBinding { generateName := "kubezoo:clusterrolebinding:" }) rfl

end

end KubeZoo
