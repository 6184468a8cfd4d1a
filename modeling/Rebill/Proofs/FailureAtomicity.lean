import Rebill.Proofs.Operations

/-!
# A refused request changes nothing

Every request of the attempt registry, the ledger's status request and the refresh of expiry
dates is failure-atomic: a run that ends with a billing error leaves the store (payments,
methods, attempts, the audit log, and the counters behind identifiers and sequence numbers) and
what the recorder kept (events and messages) exactly as they were. Only the step's journal may
differ, where a refusal is counted.

The argument is the same for every request: each check comes before the first write, and a write
that follows the checks cannot fail. `Svc.Clean m e` says that a run of `m` from `e` that fails
leaves the data alone, and `Svc.Sure m e` that it does not fail at all. A sequence is clean when
its first step is, and the rest is clean after a step that wrote nothing, or sure after one that
wrote. The two writes that follow checks are the note on a reactivated attempt, which is stored
since it was just read, and the dates of the refresh, whose methods were just listed.
-/

namespace Rebill

/-- Two engines hold the same data: the same store, and the same events and messages recorded. -/
def Engine.SameData (e e' : Engine) : Prop := e'.store = e.store ∧ e'.recorded = e.recorded

namespace Engine.SameData

@[refl] theorem refl (e : Engine) : SameData e e := ⟨rfl, rfl⟩

theorem trans {e₁ e₂ e₃ : Engine} (h₁ : SameData e₁ e₂) (h₂ : SameData e₂ e₃) : SameData e₁ e₃ :=
  ⟨h₂.1.trans h₁.1, h₂.2.trans h₁.2⟩

instance : Std.Refl SameData := ⟨refl⟩
instance : IsTrans Engine SameData := ⟨fun _ _ _ => trans⟩

end Engine.SameData

namespace Svc

variable {α β : Type} {m : Svc α} {f : α → Svc β} {e : Engine}

/-- A run of `m` from `e` that fails with a billing error leaves the data as it was. -/
def Clean (m : Svc α) (e : Engine) : Prop :=
  ∀ err e', m.exec e = .ok (.error err, e') → e.SameData e'

/-- A run of `m` from `e` does not fail with a billing error. -/
def Sure (m : Svc α) (e : Engine) : Prop := ∀ err e', m.exec e ≠ .ok (.error err, e')

theorem Sure.clean (h : Sure m e) : Clean m e := fun err e' hx => absurd hx (h err e')

theorem sure_of_exec {a : α} {e' : Engine} (h : m.exec e = .ok (.ok a, e')) : Sure m e := by
  intro err e'' hx
  rw [h] at hx
  cases hx

theorem sure_pure (a : α) : Sure (pure a) e := sure_of_exec (exec_pure a e)

theorem sure_bind (hm : Sure m e) (hf : ∀ a e₁, m.exec e = .ok (.ok a, e₁) → Sure (f a) e₁) :
    Sure (m >>= f) e := by
  intro err e' hx
  rcases exec_bind_eq_ok hx with ⟨err₀, hm', -⟩ | ⟨a, e₁, hm', hf'⟩
  · exact hm _ _ hm'
  · exact hf a e₁ hm' _ _ hf'

theorem sure_bind_read {a : α} (hm : m.exec e = .ok (.ok a, e)) (hf : Sure (f a) e) :
    Sure (m >>= f) e :=
  fun _ _ hx => hf _ _ (exec_bind_read hm hx)

theorem clean_throw (err : BillingError) : Clean (throw err : Svc α) e := by
  intro err' e' hx
  cases hx
  exact .refl e

theorem Reads.clean {P : α → Prop} (h : Reads m P) : Clean m e :=
  fun _ _ hx => (h e _ _ hx).1 ▸ .refl e

theorem clean_bind (hm : Clean m e)
    (hf : ∀ a e₁, m.exec e = .ok (.ok a, e₁) → (e.SameData e₁ ∧ Clean (f a) e₁) ∨ Sure (f a) e₁) :
    Clean (m >>= f) e := by
  intro err e' hx
  rcases exec_bind_eq_ok hx with ⟨err₀, hm', -⟩ | ⟨a, e₁, hm', hf'⟩
  · exact hm _ _ hm'
  · rcases hf a e₁ hm' with ⟨hsame, hclean⟩ | hsure
    · exact hsame.trans (hclean _ _ hf')
    · exact absurd hf' (hsure _ _)

theorem clean_bind_read {a : α} (hm : m.exec e = .ok (.ok a, e)) (hf : Clean (f a) e) :
    Clean (m >>= f) e :=
  fun _ _ hx => hf _ _ (exec_bind_read hm hx)

theorem clean_bind_reads {P : α → Prop} (hm : Reads m P) (hf : ∀ a, P a → Clean (f a) e) :
    Clean (m >>= f) e := by
  refine clean_bind hm.clean fun a e₁ h => ?_
  obtain ⟨he, hP⟩ := hm e _ _ h
  subst he
  exact .inl ⟨.refl _, hf a (hP a rfl)⟩

theorem clean_drop (hm : Clean m e) : Clean (do let _ ← m; pure () : Svc Unit) e :=
  clean_bind hm fun _ _ _ => .inr (sure_pure _)

theorem clean_ite_throw {γ : Type} {c : Prop} [Decidable c] {err : BillingError} {k : Svc β}
    (hk : Clean k e) : Clean (if c then (throw err : Svc γ) >>= (fun _ => k) else k) e := by
  split
  · exact clean_bind (clean_throw err) fun _ _ h => by cases h
  · exact hk

theorem clean_stop_bind (o : Overflow) : Clean (stop o >>= f) e := by
  intro err e' hx
  rw [exec_bind, exec_stop] at hx
  cases hx

theorem clean_stored (r : Except Fault (α × Store)) : Clean (stored r) e := by
  intro err e' hx
  rw [exec_stored] at hx
  split at hx <;> cases hx
  exact .refl e

theorem clean_withLock {key : String} {body : Svc α}
    (h : Clean body { e with held := key :: e.held }) : Clean (withLock key body) e := by
  intro err e' hx
  rcases withLock_cases hx with ⟨-, rfl, -⟩ | ⟨-, e₁, hbody, rfl⟩
  · exact .refl _
  · obtain ⟨hs, hr⟩ := h _ _ hbody
    exact ⟨hs, hr⟩

end Svc

open Svc

namespace Attempts

variable {change : Charge → Svc Charge} {P : Charge → Charge → Prop}

theorem update_clean (hch : ∀ c, Reads (change c) (P c)) (id : Ident) (e : Engine) :
    Clean (update id change) e := by
  intro err e' hx
  rcases update_cases hch hx with rfl | ⟨_, _, _, _, _, _, _, hr, _⟩
  · exact .refl _
  · cases hr

theorem claim_clean (id : Ident) (e : Engine) : Clean (claim id) e := by
  intro err e' hx
  rcases claim_cases hx with ⟨rfl, -⟩ | ⟨_, _, _, _, _, _, _, hr, _⟩
  · exact .refl _
  · cases hr

theorem releaseClaim_clean (id : Ident) (e : Engine) : Clean (releaseClaim id) e := by
  intro err e' hx
  rcases releaseClaim_cases hx with rfl | ⟨_, _, _, _, _, hr, _⟩
  · exact .refl _
  · cases hr

theorem transition_clean (id : Ident) (t : ChargeState) (actor : Actor) (u : ChargeUpdate)
    (e : Engine) : Clean (transition id t actor u) e :=
  update_clean (transition_change t actor u) id e

theorem linkPayment_clean (id p : Ident) (e : Engine) : Clean (linkPayment id p) e :=
  clean_bind (update_clean (linkPayment_change p) id e) fun _ _ _ => .inr (sure_pure _)

theorem rearmFailed_clean (id : Ident) (e : Engine) : Clean (rearmFailed id) e :=
  clean_bind_read (exec_policy e) (update_clean (rearmFailed_change _) id e)

theorem stopByUser_clean (id : Ident) (e : Engine) : Clean (stopByUser id) e := by
  unfold stopByUser
  refine clean_bind_reads (reads_get id) fun c _ => ?_
  refine clean_bind_reads (reads_canBeStoppedByUser c) fun b _ => ?_
  exact clean_ite_throw (transition_clean _ _ _ _ e)

theorem stopByAdmin_clean (id : Ident) (reason : String) (e : Engine) :
    Clean (stopByAdmin id reason) e := by
  unfold stopByAdmin
  refine clean_bind_reads (reads_get id) fun c _ => ?_
  refine clean_bind_reads (reads_canBeStopped c) fun b _ => ?_
  exact clean_ite_throw (transition_clean _ _ _ _ e)

theorem reactivateByUser_clean (id : Ident) (e : Engine) : Clean (reactivateByUser id) e := by
  unfold reactivateByUser
  refine clean_bind_reads (reads_get id) fun c _ => ?_
  refine clean_bind_reads (reads_canBeStoppedByUser c) fun b _ => ?_
  exact clean_ite_throw (update_clean reactivateByUser_change id e)

theorem insertUnlessExists_clean (d : ChargeDraft) (e : Engine) :
    Clean (insertUnlessExists d) e := by
  unfold insertUnlessExists
  refine clean_bind_read (exec_store e) ?_
  split
  · exact (sure_pure _).clean
  · exact clean_bind_read (exec_store e) (clean_bind_read (exec_now e) (clean_stored _))

theorem createAttemptFrom_clean (d : ChargeDraft) (e : Engine) : Clean (createAttemptFrom d) e :=
  clean_withLock (insertUnlessExists_clean d _)

theorem createAttempt_clean (method parent : Ident) (chargeAt : Instant)
    (customAmount : Option Decimal) (retries : Option Int) (e : Engine) :
    Clean (createAttempt method parent chargeAt customAmount retries) e :=
  clean_bind_read (exec_policy e) (createAttemptFrom_clean _ e)

theorem scheduleNext_clean (charged : Charge) (sub : Option Subscription) (terms : Terms)
    (e : Engine) : Clean (scheduleNext charged sub terms) e := by
  unfold scheduleNext
  simp only
  refine clean_ite_throw ?_
  split
  · refine clean_bind_reads (reads_payment _) fun p _ => ?_
    refine clean_bind_read (exec_policy e) (clean_bind_read (exec_now e) ?_)
    split
    · exact clean_bind_read (exec_pure _ _) (createAttemptFrom_clean _ _)
    · exact clean_bind (clean_throw _) fun _ _ h => by cases h
    · exact clean_stop_bind _
  · exact clean_throw _

theorem registerMethod_clean (user : Ident) (gateway token : String) (e : Engine) :
    Clean (registerMethod user gateway token) e := by
  unfold registerMethod
  refine clean_bind_read (exec_store e) (clean_bind_read (exec_now e) ?_)
  exact (sure_bind (sure_of_exec (exec_setStore _ _)) fun _ _ _ => sure_pure _).clean

theorem updateMethodExpiry_clean (method : Ident) (d : Date) (e : Engine) :
    Clean (updateMethodExpiry method d) e := by
  unfold updateMethodExpiry
  refine clean_bind_read (exec_store e) ?_
  split
  · exact (sure_of_exec (exec_setStore _ _)).clean
  · exact clean_throw _

theorem reactivateLocked_clean (id : Ident) (e : Engine) : Clean (reactivateLocked id) e := by
  unfold reactivateLocked
  refine clean_bind_read (exec_now e) (clean_bind_read (exec_policy e) ?_)
  refine clean_bind (reads_get id).clean fun stopped e₁ hget => .inl ?_
  have he₁ : e₁ = e := ((reads_get id) e _ _ hget).1
  subst he₁
  have hc : e₁.store.charge? stopped.id = some stopped := by
    rw [exec_get] at hget
    split at hget
    · next c hc =>
      cases hget
      rw [Store.id_of_charge? e₁.store hc, hc]
    · cases hget
  refine ⟨.refl _, ?_⟩
  simp only
  refine clean_ite_throw (clean_ite_throw ?_)
  refine clean_bind_reads (reads_time _) fun windowStart _ => ?_
  refine clean_ite_throw ?_
  refine clean_bind_read (exec_store _) ?_
  -- both ways past the last guard make the fresh attempt, then note it on the stopped one
  split
  on_goal 1 => refine clean_ite_throw ?_
  all_goals
    refine clean_bind_reads (reads_time _) fun due _ => ?_
    refine clean_bind_read (exec_store _) ?_
    refine clean_bind (clean_stored _) fun fresh e₄ hfresh => .inr ?_
    rw [exec_stored] at hfresh
    split at hfresh
    · next hs =>
      cases hfresh
      have hc₄ := Store.charge?_createCharge e₁.store hs hc
      obtain ⟨v, s', hsave⟩ := Store.saveCharge_of_charge? _ hc₄
        (stopped.pushNote_id ("Reactivated as " ++ fresh.id.text)) e₁.now
      refine sure_bind_read (exec_store _) (sure_bind ?_ fun _ _ _ => sure_pure _)
      apply sure_of_exec
      rw [exec_stored, hsave]
    · cases hfresh

theorem reactivateAfterSystemStop_clean (id : Ident) (e : Engine) :
    Clean (reactivateAfterSystemStop id) e := by
  unfold reactivateAfterSystemStop
  refine clean_bind_reads (reads_get id) fun c _ => ?_
  refine clean_bind_reads (reads_canBeStopped c) fun b _ => ?_
  exact clean_ite_throw (clean_withLock (reactivateLocked_clean id _))

end Attempts

namespace RegistryOp

open Attempts in
theorem clean_act (op : RegistryOp) (e : Engine) : Clean op.act e := by
  cases op with
  | registerMethod user gateway token => exact clean_drop (registerMethod_clean _ _ _ e)
  | updateMethodExpiry method d => exact updateMethodExpiry_clean _ _ e
  | createAttempt method parent chargeAt customAmount retries =>
    exact clean_drop (createAttempt_clean _ _ _ _ _ e)
  | createAttemptFrom d => exact clean_drop (createAttemptFrom_clean _ e)
  | scheduleNext id sub terms =>
    exact clean_bind_reads (reads_get id) fun c _ => clean_drop (scheduleNext_clean c sub terms e)
  | transition id t actor u => exact clean_drop (transition_clean _ _ _ _ e)
  | claim id => exact clean_drop (claim_clean _ e)
  | linkPayment id payment => exact clean_drop (linkPayment_clean _ _ e)
  | rearmFailed id => exact clean_drop (rearmFailed_clean _ e)
  | stopByUser id => exact clean_drop (stopByUser_clean _ e)
  | stopByAdmin id reason => exact clean_drop (stopByAdmin_clean _ _ e)
  | reactivateAfterSystemStop id => exact clean_drop (reactivateAfterSystemStop_clean _ e)
  | reactivateByUser id => exact clean_drop (reactivateByUser_clean _ e)

end RegistryOp

namespace Ledger

theorem updateStatus_clean (id : Ident) (u : StatusRequest) (e : Engine) :
    Clean (updateStatus id u) e := by
  intro err e' hx
  rcases updateStatus_cases hx with ⟨rfl, -, -⟩ | ⟨_, -, hr⟩ | ⟨_, _, _, _, _, _, _, hr, -⟩
  · exact .refl _
  · cases hr
  · cases hr

end Ledger

namespace Store

theorem setMethodExpiry_of_mem (s : Store) {id : Ident} (hid : id ∈ s.methods.map (·.id))
    (d : Date) : ∃ s', s.setMethodExpiry id d = .ok s' ∧ s'.methods.map (·.id) = s.methods.map (·.id) := by
  have hfound : (s.method? id).isSome := by
    obtain ⟨m, hm, rfl⟩ := List.mem_map.mp hid
    exact List.find?_isSome.mpr ⟨m, hm, by simp⟩
  obtain ⟨m, hm⟩ := Option.isSome_iff_exists.mp hfound
  simp only [setMethodExpiry, hm]
  exact ⟨_, rfl, map_modifyFirst Method.id id (fun m => { m with expiresOn := some d })
    (fun _ hy => hy) s.methods⟩

end Store

namespace Expiry

theorem writeChanged_sure (answers : List (String × Date)) :
    ∀ (ms : List Method) (n : Nat) (e : Engine), (∀ m ∈ ms, m.id ∈ e.store.methods.map (·.id)) →
      Sure (writeChanged answers ms n) e
  | [], n, e, _ => sure_pure _
  | m :: rest, n, e, hms => by
    have hrest : ∀ m' ∈ rest, m'.id ∈ e.store.methods.map (·.id) :=
      fun m' hm' => hms m' (List.mem_cons_of_mem _ hm')
    unfold writeChanged
    split
    · exact writeChanged_sure answers rest n e hrest
    · split
      · exact writeChanged_sure answers rest n e hrest
      · refine sure_bind_read (exec_store e) ?_
        obtain ⟨s', hs', hids⟩ := e.store.setMethodExpiry_of_mem (hms m List.mem_cons_self) ‹_›
        simp only [hs']
        refine sure_bind (sure_of_exec (exec_setStore _ _)) fun _ e₁ h₁ => ?_
        rw [exec_setStore] at h₁
        cases h₁
        exact writeChanged_sure answers rest (n + 1) _ fun m' hm' => hids ▸ hrest m' hm'

theorem reads_requireGateway (id : String) : Reads (requireGateway id) fun _ => True := by
  intro e r e' hx
  rw [exec_requireGateway] at hx
  split at hx <;> cases hx <;> exact ⟨rfl, fun _ _ => trivial⟩

theorem refresh_clean (gateway : String) (e : Engine) : Clean (refresh gateway) e := by
  unfold refresh
  refine clean_bind_reads (reads_requireGateway gateway) fun g _ => ?_
  split
  · exact (sure_pure _).clean
  refine clean_bind_read (exec_store e) ?_
  simp only
  split
  · exact (sure_pure _).clean
  split
  · exact clean_bind (sure_of_exec (exec_count e _)).clean fun _ _ h => by
      rw [exec_count] at h
      cases h
      exact .inl ⟨⟨rfl, rfl⟩, clean_throw _⟩
  · refine (writeChanged_sure _ _ 0 e fun m hm => ?_).clean
    have hmem : m ∈ e.store.methods := (List.mem_filter.mp (List.mem_mergeSort.mp hm)).1
    exact List.mem_map_of_mem hmem

end Expiry

/-- The requests of the service's billing core: the registry's operations and queries, the
ledger's status request and the refresh of expiry dates. -/
inductive Request where
  | registry (op : RegistryOp)
  | scheduleNext (charged : Charge) (sub : Option Subscription) (terms : Terms)
  | releaseClaim (id : Ident)
  | get (id : Ident)
  | chargeable (ids : Option (List Ident))
  | previousCharged (c : Charge)
  | canBeStopped (c : Charge)
  | canBeStoppedByUser (c : Charge)
  | isEffectivelyStopped (c : Charge)
  | updateStatus (id : Ident) (u : Ledger.StatusRequest)
  | refreshExpiry (gateway : String)

namespace Request

def act : Request → Svc Unit
  | .registry op => op.act
  | .scheduleNext charged sub terms => do let _ ← Attempts.scheduleNext charged sub terms
  | .releaseClaim id => do let _ ← Attempts.releaseClaim id
  | .get id => do let _ ← Attempts.get id
  | .chargeable ids => do let _ ← Attempts.chargeable ids
  | .previousCharged c => do let _ ← Attempts.previousCharged c
  | .canBeStopped c => do let _ ← Attempts.canBeStopped c
  | .canBeStoppedByUser c => do let _ ← Attempts.canBeStoppedByUser c
  | .isEffectivelyStopped c => do let _ ← Attempts.isEffectivelyStopped c
  | .updateStatus id u => do let _ ← Ledger.updateStatus id u
  | .refreshExpiry gateway => do let _ ← Expiry.refresh gateway

end Request

open Attempts in
/-- A request of the registry, the ledger or the expiry refresher that ends with a billing error
leaves the store and the recorded events and messages exactly as they were. -/
theorem refused_requests_change_nothing (q : Request) {e e' : Engine} {err : BillingError}
    (h : q.act.exec e = .ok (.error err, e')) :
    e'.store = e.store ∧ e'.recorded = e.recorded := by
  have hclean : Clean q.act e := by
    cases q with
    | registry op => exact op.clean_act e
    | scheduleNext charged sub terms => exact clean_drop (scheduleNext_clean charged sub terms e)
    | releaseClaim id => exact clean_drop (releaseClaim_clean id e)
    | get id => exact clean_drop (reads_get id).clean
    | chargeable ids => exact clean_drop (reads_chargeable ids).clean
    | previousCharged c => exact clean_drop (reads_previousCharged c).clean
    | canBeStopped c => exact clean_drop (reads_canBeStopped c).clean
    | canBeStoppedByUser c => exact clean_drop (reads_canBeStoppedByUser c).clean
    | isEffectivelyStopped c => exact clean_drop (reads_isEffectivelyStopped c).clean
    | updateStatus id u => exact clean_drop (Ledger.updateStatus_clean id u e)
    | refreshExpiry gateway => exact clean_drop (Expiry.refresh_clean gateway e)
  exact hclean err e' h

/-- A user cannot stop an attempt that has already been charged; the refusal, made under the
attempt's lock, leaves the engine as it was. -/
theorem refused_user_stop_keeps_store :
    let p₀ : Payment :=
      { id := Ident.ofSerial 1, user := ⟨0⟩, gateway := "test", status := .paid,
        amount := ⟨1999, 2, false⟩, paidAt := none, subscription := none, catalogItem := none,
        address := none, isRecurrent := false, parent := none, note := none,
        errorMessage := none, created := Instant.epoch, updated := Instant.epoch }
    let c₀ : Charge :=
      { Charge.ofDraft (Ident.ofSerial 3)
          { method := Ident.ofSerial 2, parent := p₀.id, chargeAt := Instant.epoch,
            retries := 2, customAmount := none, renewalItem := none, note := none }
          "tok" Instant.epoch with state := .charged }
    let e₀ : Engine :=
      { now := Instant.epoch, store := { payments := [p₀], rows := [⟨c₀, 1⟩], seq := 1, serial := 3 } }
    let q : Request := .registry (.stopByUser c₀.id)
    q.act.exec e₀ = .ok (.error (.illegalTransition .charged .userStop), e₀) ∧
      e₀.store = e₀.store ∧ e₀.recorded = e₀.recorded := by
  intro p₀ c₀ e₀ q
  have h : q.act.exec e₀ = .ok (.error (.illegalTransition .charged .userStop), e₀) := by
    simp only [q, e₀, c₀, p₀, Request.act]
    rfl
  exact ⟨h, refused_requests_change_nothing q h⟩

end Rebill
