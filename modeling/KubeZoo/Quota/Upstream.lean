import KubeZoo.Quota.Model

/-! # Calls of the quota controller -/

namespace KubeZoo.Quota

open Calls Fallible

def WritesSucceed (c : Call) (r : Answer GoError Call.Result c) : Prop :=
  c.isWrite = true → ∃ a, r = .ok a

instance (c : Call) : (r : Answer GoError Call.Result c) → Decidable (WritesSucceed c r)
  | .ok a => isTrue fun _ => ⟨a, rfl⟩
  | .error _ => decidable_of_iff (c.isWrite = false)
    ⟨fun h hwrite => (Bool.false_ne_true (h.symm.trans hwrite)).elim,
      fun h => Bool.eq_false_iff.mpr fun hwrite => nomatch h hwrite⟩

/-- Upstream denies no read. -/
def Apiserver.Reads (srv : Apiserver) : Prop := ∀ S c, c.isWrite = false → srv.deny S c = none

abbrev Client.Succeeds {α : Type} (p : Client α) (srv : Apiserver) (S S' : State) (a : α) : Prop :=
  Fallible.Succeeds (serve srv) WritesSucceed p S S' a

variable {srv : Apiserver} {S S' : State} {Q : ClusterResourceQuota} {q : ResourceQuota}

variable {c : Call} {a : c.Result}

lemma serve_read (hsrv : srv.Reads) (hc : c.isWrite = false) : serve srv S c = S.answer srv c := by
  unfold serve
  rw [hsrv S c hc]

lemma run_find (hsrv : srv.Reads) (hc : c.isWrite = false) {found : Option c.Result} {e : GoError}
    (he : e.isNotFound = true) (h : S.answer srv c = (S, found.elim (.error e) .ok)) :
    Program.run (serve srv) c.find.run S = (S, .ok found) := by
  show ((serve srv S c).1, orMissing GoError.isNotFound (serve srv S c).2) = _
  rw [serve_read hsrv hc, h]
  cases found with
  | none => exact congrArg (Prod.mk S) (if_pos he)
  | some a => rfl

lemma answer_of_serve (h : (serve srv S c).2 = .ok a) : serve srv S c = S.answer srv c := by
  unfold serve at h ⊢
  cases hdeny : srv.deny S c with
  | none => rfl
  | some e =>
    rw [hdeny] at h
    cases h

lemma update_eq_ok {a : ResourceQuota} (h : S.update q = (S', .ok a)) :
    ∃ old ∈ S.quotas, old.key = q.key ∧ a = q.updated old ∧
      S' = { S with quotas := S.quotas.replace (q.updated old) } := by
  unfold State.update at h
  cases hfind : S.quotas.find? q.key with
  | none =>
    rw [hfind] at h
    cases h
  | some old =>
    rw [hfind] at h
    obtain ⟨hold, hkey⟩ := Table.find?_eq_some_iff.mp hfind
    cases h
    exact ⟨old, hold, hkey, rfl, rfl⟩

lemma create_eq_ok {a : ResourceQuota} (h : S.create srv q = (S', .ok a)) :
    S.quotas.find? (S.created srv q).key = none ∧ a = S.created srv q ∧
      S' = { S with quotas := S.quotas.insert (S.created srv q) } := by
  unfold State.create at h
  cases hfind : S.quotas.find? (S.created srv q).key with
  | some old =>
    rw [hfind] at h
    cases h
  | none =>
    rw [hfind] at h
    cases h
    exact ⟨rfl, rfl, rfl⟩

lemma delete_eq_ok {key : String × String} {a : Unit} (h : S.delete key = (S', .ok a)) :
    S' = { S with quotas := S.quotas.erase key } := by
  unfold State.delete at h
  cases hfind : S.quotas.find? key with
  | none =>
    rw [hfind] at h
    cases h
  | some old =>
    rw [hfind] at h
    cases h
    rfl

lemma updateStatus_eq_ok {a : ClusterResourceQuota} (h : S.updateStatus Q = (S', .ok a)) :
    ∃ old ∈ S.clusterQuotas, old.name = Q.name ∧
      S' = { S with clusterQuotas := S.clusterQuotas.replace (Q.statusOf old) } := by
  unfold State.updateStatus at h
  cases hfind : S.clusterQuotas.find? Q.name with
  | none =>
    rw [hfind] at h
    cases h
  | some old =>
    rw [hfind] at h
    obtain ⟨hold, hname⟩ := Table.find?_eq_some_iff.mp hfind
    cases h
    exact ⟨old, hold, hname, rfl⟩

lemma Client.Succeeds.of_send (h : Client.Succeeds c.send srv S S' a) :
    S.answer srv c = (S', .ok a) := by
  obtain ⟨h, -⟩ := succeeds_send.mp h
  rw [← answer_of_serve (congrArg Prod.snd h), h]

lemma Client.Succeeds.of_attempt {u : Unit} (hc : c.isWrite = true)
    (h : Client.Succeeds c.attempt srv S S' u) : ∃ a, S.answer srv c = (S', .ok a) := by
  obtain ⟨h, hgood⟩ := succeeds_attempt.mp h
  obtain ⟨a, ha⟩ := hgood hc
  refine ⟨a, ?_⟩
  rw [← answer_of_serve ha, ← h, ← ha]

namespace Updater

variable {α : Type} {u : Updater α} {f : α → α} {obj a : α}

lemma tryUpdate_some (hkey : u.key (f obj) = u.key obj) :
    u.tryUpdate f (u.key obj) (some obj) =
      if u.equals obj (f obj) then pure (f obj) else u.update (f obj) := by
  have hmutate : u.mutate f (u.key obj) obj = .ok (f obj) := if_pos hkey
  show (ofExcept (u.mutate f (u.key obj) obj) >>= fun o =>
    if u.equals obj o then pure o else u.update o) = _
  rw [hmutate]
  rfl

lemma succeeds_updateOnConflict (hkey : u.key (f obj) = u.key obj)
    (hwrite : ∀ o S, Program.Answered (serve srv) WritesSucceed (u.update o).run S →
      ∃ S₁ a, Client.Succeeds (u.update o) srv S S₁ a)
    (h : Client.Succeeds (u.updateOnConflict f obj) srv S S' a) :
    u.equals obj (f obj) = true ∧ S = S' ∧ f obj = a ∨
      u.equals obj (f obj) = false ∧ Client.Succeeds (u.update (f obj)) srv S S' a := by
  have hfirst : Client.Succeeds (u.tryUpdate f (u.key obj) (some obj)) srv S S' a := by
    obtain h | ⟨S₁, e, hrun, hanswered, -⟩ := succeeds_tryCatch.mp h
    · exact h
    · rw [tryUpdate_some hkey] at hrun hanswered
      split_ifs at hrun hanswered with hequals
      · cases hrun
      · obtain ⟨S₂, b, hok, -⟩ := hwrite _ _ hanswered
        rw [hok] at hrun
        cases hrun
  rw [tryUpdate_some hkey] at hfirst
  split_ifs at hfirst with hequals
  · exact .inl ⟨hequals, succeeds_pure.mp hfirst⟩
  · exact .inr ⟨by simpa using hequals, hfirst⟩

lemma sound_updateOnConflict {I : State → Prop} {J : α → Prop} (hobj : J obj)
    (hget : (u.get (u.key obj)).Sound (serve srv) I J)
    (hupdate : ∀ o, J o → (u.update (f o)).Sound (serve srv) I fun _ => True) :
    (u.updateOnConflict f obj).Sound (serve srv) I fun _ => True := by
  have htry : ∀ o : Option α, (∀ x, o = some x → J x) →
      (u.tryUpdate f (u.key obj) o).Sound (serve srv) I fun _ => True := by
    intro o ho
    refine Fallible.Sound.bind (Q := J) ?_ fun existing hexisting => ?_
    · cases o with
      | none => exact hget
      | some x => exact sound_pure (ho x rfl)
    · refine Fallible.Sound.bind (Q := fun o => o = f existing) ?_ ?_
      · refine sound_ofExcept fun a ha => ?_
        unfold mutate at ha
        split_ifs at ha
        exact (Except.ok.inj ha).symm
      · rintro _ rfl
        split_ifs
        · exact sound_pure trivial
        · exact hupdate existing hexisting
  have hretry : ∀ steps (o : Option α), (∀ x, o = some x → J x) →
      (u.retryOnConflict f (u.key obj) steps o).Sound (serve srv) I fun _ => True := by
    intro steps
    induction steps with
    | zero => exact fun _ _ => sound_throw
    | succ steps ih =>
      refine fun o ho => (htry o ho).tryCatch fun e => ?_
      split_ifs
      · exact ih none fun x hx => by cases hx
      · exact sound_throw
  exact hretry 5 (some obj) fun x hx => Option.some.inj hx ▸ hobj

end Updater

lemma succeeds_send_of_answered (hc : c.isWrite = true)
    (h : Program.Answered (serve srv) WritesSucceed (Call.send c).run S) :
    ∃ S₁ a, Client.Succeeds c.send srv S S₁ a := by
  obtain ⟨a, ha⟩ := ((Program.answered_ask c S).mp h) hc
  exact ⟨(serve srv S c).1, a, succeeds_send.mpr ⟨by rw [← ha], fun _ => ⟨a, rfl⟩⟩⟩

end KubeZoo.Quota
