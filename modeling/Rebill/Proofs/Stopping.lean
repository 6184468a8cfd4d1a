import Rebill.Proofs.ReactivationContract

/-!
# Who may stop an attempt, and taking a user stop back

A stop is asked of an attempt in two layers. Outside the attempt's lock the registry reads the
attempt and its parent payment and asks whether the attempt may be stopped at all
(`Attempts.canBeStopped`: the parent is not prepaid and its gateway, when registered, is not
unstoppable) and, for a user, whether the gateway lets users stop it
(`Attempts.canBeStoppedByUser`). Inside the lock, the move itself is checked against the table of
states (`ChargeState.allows`). A user's reactivation checks the same permission outside the lock,
then inside it that the attempt is a user stop still due in the future.

`Engine.Stoppable` and `Engine.UserStoppable` name the first layer; the second is the table. Main
statement, `stop_and_reactivation_permissions`: each of `stopByUser`, `stopByAdmin` and
`reactivateByUser` goes through exactly when both layers let it and the attempt's lock is free,
and a user stop of an active attempt due in the future, taken back at once, is one save of the
attempt with its note two lines longer and its instant of update moved to now, with the two
changes of state announced in order.
-/

namespace Rebill

/-- The parent of an attempt lets it be stopped: the parent is stored, is not prepaid, and its
gateway, when registered, does not forbid stops. -/
structure Engine.Stoppable (e : Engine) (c : Charge) : Prop where
  parent : ∃ p, e.store.payment? c.parent = some p ∧ p.status ≠ .prepaid ∧
    ∀ g, e.gateways.get? p.gateway = some g → g.unstoppable = false

/-- A user may stop the attempt: it may be stopped, and the parent's gateway, when registered,
does not forbid stops to users. -/
structure Engine.UserStoppable (e : Engine) (c : Charge) : Prop extends Engine.Stoppable e c where
  user : ∀ p, e.store.payment? c.parent = some p →
    ∀ g, e.gateways.get? p.gateway = some g → g.userUnstoppable = false

theorem Engine.UserStoppable.congr {e e' : Engine} {c c' : Charge} (h : e.UserStoppable c)
    (hpay : e'.store.payments = e.store.payments) (hgw : e'.gateways = e.gateways)
    (hpar : c'.parent = c.parent) : e'.UserStoppable c' := by
  have hp : e'.store.payment? c'.parent = e.store.payment? c.parent := by
    simp only [Store.payment?, hpay, hpar]
  exact ⟨⟨by rw [hp, hgw]; exact h.parent⟩, by rw [hp, hgw]; exact h.user⟩

theorem Engine.announce_setStore (e : Engine) (ev : BillingEvent) (op : String) (s : Store) :
    { e.announce ev op with store := s } = { e with store := s }.announce ev op := by
  unfold Engine.announce
  cases e.outlets.sink
  · simp only
    split <;> rfl
  all_goals rfl

@[simp] theorem Engine.afterUpdate_gateways (e : Engine) (id : Ident) (old : ChargeState) (v : Charge)
    (s : Store) : (e.afterUpdate id old v s).gateways = e.gateways := by
  unfold Engine.afterUpdate; split <;> simp

section Keyed

variable {α : Type} (key : α → Ident)

theorem modifyFirst_modifyFirst {k : Ident} {f g : α → α} (hf : ∀ y, key y = k → key (f y) = k) :
    ∀ l : List α, modifyFirst key k g (modifyFirst key k f l) = modifyFirst key k (g ∘ f) l
  | [] => rfl
  | y :: ys => by
    by_cases hy : key y = k
    · simp [modifyFirst, hy, hf y hy]
    · simp [modifyFirst, hy, modifyFirst_modifyFirst hf ys]

end Keyed

namespace Store

variable (s : Store)

theorem saveCharge_eq_savedOver (c : Charge) (t : Instant) :
    s.saveCharge c t = match s.row? c.id with
      | none => .error (.notFound ("Recurrent charge " ++ c.id.text ++ " not found"))
      | some r => .ok (s.withToken (r.charge.savedOver c t),
          { s with rows := modifyFirst (·.charge.id) c.id
                             (fun r' => { r' with charge := r.charge.savedOver c t }) s.rows }) := rfl

theorem saveCharge_congr {c c' : Charge} {t : Instant} (hid : c'.id = c.id)
    (h : ∀ r : Charge, r.savedOver c' t = r.savedOver c t) :
    s.saveCharge c' t = s.saveCharge c t := by
  rw [saveCharge_eq_savedOver, saveCharge_eq_savedOver, hid]
  split <;> simp only [h]

theorem saveCharge_saveCharge {c c' v : Charge} {t t' : Instant} {s₁ : Store}
    (h : s.saveCharge c t = .ok (v, s₁)) (hid : c'.id = c.id) :
    s₁.saveCharge c' t' = s.saveCharge c' t' := by
  obtain ⟨row, hrow, heq⟩ := (saveCharge_eq_ok s).mp h
  cases heq
  have hrow₁ := row?_modifyFirst s hrow (row.charge.savedOver c t) rfl c.id
  rw [if_pos rfl] at hrow₁
  rw [saveCharge_eq_savedOver, saveCharge_eq_savedOver, hid, hrow₁, hrow]
  simp only
  rw [modifyFirst_modifyFirst (fun r : ChargeRow => r.charge.id)
    (f := fun r => { r with charge := row.charge.savedOver c t }) fun _ _ => (id_of_row? s hrow :)]
  rfl

end Store

namespace Attempts

open Svc Engine

variable {β : Type} {id : Ident} {e : Engine}

/-! ## The permission checks -/

theorem exec_canBeStopped_of {c : Charge} (h : e.Stoppable c) :
    (canBeStopped c).exec e = .ok (.ok true, e) := by
  obtain ⟨p, hp, hpaid, hg⟩ := h.parent
  rw [exec_canBeStopped hp hg]
  simp [hpaid]

theorem stoppable_of_canBeStopped {c : Charge} {e' : Engine}
    (h : (canBeStopped c).exec e = .ok (.ok true, e')) : e.Stoppable c :=
  ⟨canBeStopped_eq_true h⟩

theorem exec_canBeStoppedByUser_of {c : Charge} (h : e.UserStoppable c) :
    (canBeStoppedByUser c).exec e = .ok (.ok true, e) := by
  obtain ⟨p, hp, -, -⟩ := h.parent
  unfold canBeStoppedByUser
  rw [exec_bind_ok (exec_canBeStopped_of h.toStoppable)]
  simp only [Bool.not_true, Bool.false_eq_true, if_false]
  rw [exec_bind_ok (by rw [exec_payment, hp]), exec_bind_ok (exec_gateways _)]
  cases hg : e.gateways.get? p.gateway with
  | none => rfl
  | some g => simp [h.user p hp g hg]

theorem userStoppable_of_canBeStoppedByUser {c : Charge} {e' : Engine}
    (h : (canBeStoppedByUser c).exec e = .ok (.ok true, e')) : e.UserStoppable c := by
  unfold canBeStoppedByUser at h
  rcases exec_bind_eq_ok h with ⟨err, -, hr⟩ | ⟨b, e₁, hb, h⟩
  · cases hr
  obtain ⟨he, -⟩ := reads_canBeStopped c e _ _ hb
  rw [he] at h
  cases b
  · cases h
  · have hstop : e.Stoppable c := stoppable_of_canBeStopped hb
    obtain ⟨p, hp, -, -⟩ := hstop.parent
    simp only [Bool.not_true, Bool.false_eq_true, if_false] at h
    rw [exec_bind_ok (by rw [exec_payment, hp]), exec_bind_ok (exec_gateways _)] at h
    refine ⟨hstop, fun p' hp' g hg => ?_⟩
    obtain rfl : p' = p := Option.some.inj (hp'.symm.trans hp)
    simp only [hg, Option.any_some, exec_pure] at h
    cases hu : g.userUnstoppable
    · rfl
    · simp [hu] at h

/-! ## Updates that go through -/

theorem update_succeeds {change : Charge → Svc Charge} {P : Charge → Charge → Prop}
    {e' : Engine} {v : Charge}
    (hch : ∀ c r₁ e₁, (change c).exec { e with held := chargeKey id :: e.held } = .ok (r₁, e₁) →
      e₁ = { e with held := chargeKey id :: e.held } ∧ ∀ c', r₁ = .ok c' → P c c')
    (h : (update id change).exec e = .ok (.ok v, e')) :
    chargeKey id ∉ e.held ∧ ∃ c c', e.store.charge? id = some c ∧ P c c' := by
  unfold update at h
  rcases exec_bind_eq_ok h with ⟨err, -, hr⟩ | ⟨a, e₁, hl, -⟩
  · cases hr
  rcases withLock_cases hl with ⟨-, -, hr⟩ | ⟨hkey, e₂, hbody, -⟩
  · cases hr
  rcases updateLocked_cases_at hch hbody with ⟨-, err, hr⟩ | ⟨c, c', -, -, hc, hP, -⟩
  · cases hr
  exact ⟨hkey, c, c', hc, hP⟩

theorem transition_succeeds_iff {t : ChargeState} {actor : Actor} {u : ChargeUpdate} :
    (∃ v e', (transition id t actor u).exec e = .ok (.ok v, e')) ↔
      ∃ c, e.store.charge? id = some c ∧ c.state.allows t actor = true ∧ chargeKey id ∉ e.held := by
  constructor
  · rintro ⟨v, e', h⟩
    have hch : ∀ c : Charge, Reads (if c.state.allows t actor then pure (c.moveTo t u)
        else throw (.illegalTransition c.state t) : Svc Charge) fun _ => c.state.allows t actor = true :=
      fun c => reads_ite (fun ha => reads_pure ha) fun _ => reads_throw _
    obtain ⟨hkey, c, -, hc, ha⟩ := update_succeeds (fun c => hch c _) h
    exact ⟨c, hc, ha, hkey⟩
  · rintro ⟨c, hc, ha, hkey⟩
    obtain ⟨v, s', -, h⟩ := transition_ok (u := u) hkey hc ha
    exact ⟨v, _, h⟩

/-! ## Operations guarded by a check of the attempt -/

section Guarded

variable (check : Charge → Svc Bool) (err : Charge → BillingError) (k : Svc β)

theorem exec_guarded {c : Charge} (hc : e.store.charge? id = some c)
    (hcheck : (check c).exec e = .ok (.ok true, e)) :
    (get id >>= fun c => check c >>= fun b =>
      if (!b) = true then (throw (err c) : Svc Unit) >>= (fun _ => k) else k).exec e = k.exec e := by
  rw [exec_bind_ok (by rw [exec_get, hc]), exec_bind_ok hcheck]
  rfl

theorem guarded_succeeds_iff (hread : ∀ c, Reads (check c) fun _ => True) :
    (∃ v e', (get id >>= fun c => check c >>= fun b =>
        if (!b) = true then (throw (err c) : Svc Unit) >>= (fun _ => k) else k).exec e =
          .ok (.ok v, e')) ↔
      ∃ c, e.store.charge? id = some c ∧ (check c).exec e = .ok (.ok true, e) ∧
        ∃ v e', k.exec e = .ok (.ok v, e') := by
  constructor
  · rintro ⟨v, e', h⟩
    rcases exec_bind_eq_ok h with ⟨_, -, hr⟩ | ⟨c, e₁, hget, h⟩
    · cases hr
    have hc : e.store.charge? id = some c ∧ e₁ = e := by
      rw [exec_get] at hget
      split at hget <;> cases hget
      exact ⟨‹_›, rfl⟩
    rw [hc.2] at h
    rcases exec_bind_eq_ok h with ⟨_, -, hr⟩ | ⟨b, e₂, hb, h⟩
    · cases hr
    obtain ⟨he, -⟩ := hread c e _ _ hb
    rw [he] at h hb
    cases b
    · rw [if_pos (show (!false) = true from rfl), exec_bind, exec_throw] at h
      cases h
    · exact ⟨c, hc.1, hb, v, e', h⟩
  · rintro ⟨c, hc, hcheck, v, e', h⟩
    exact ⟨v, e', (exec_guarded check err k hc hcheck).trans h⟩

end Guarded

/-! ## The table of states -/

theorem allows_userStop_user {s : ChargeState} :
    s.allows .userStop .user = true ↔ s = .active ∨ s = .chargeFailed ∨ s = .userStop := by
  cases s <;> decide

theorem allows_adminStop_admin {s : ChargeState} :
    s.allows .adminStop .admin = true ↔ s = .active ∨ s = .chargeFailed ∨ s = .adminStop := by
  cases s <;> decide

/-! ## Stops -/

theorem guarded_stop_succeeds_iff {check : Charge → Svc Bool} (hread : ∀ c, Reads (check c) fun _ => True)
    {err : Charge → BillingError} {t : ChargeState} {actor : Actor} {u : ChargeUpdate} :
    (∃ v e', (get id >>= fun c => check c >>= fun b =>
        if (!b) = true then (throw (err c) : Svc Unit) >>= (fun _ => transition id t actor u)
        else transition id t actor u).exec e = .ok (.ok v, e')) ↔
      ∃ c, e.store.charge? id = some c ∧ (check c).exec e = .ok (.ok true, e) ∧
        c.state.allows t actor = true ∧ chargeKey id ∉ e.held := by
  rw [guarded_succeeds_iff check err _ hread]
  constructor
  · rintro ⟨c, hc, hcheck, hmove⟩
    obtain ⟨c', hc', ha, hkey⟩ := transition_succeeds_iff.mp hmove
    obtain rfl : c = c' := Option.some.inj (hc.symm.trans hc')
    exact ⟨c, hc, hcheck, ha, hkey⟩
  · rintro ⟨c, hc, hcheck, ha, hkey⟩
    exact ⟨c, hc, hcheck, transition_succeeds_iff.mpr ⟨c, hc, ha, hkey⟩⟩

theorem stopByUser_succeeds_iff :
    (∃ v e', (stopByUser id).exec e = .ok (.ok v, e')) ↔
      ∃ c, e.store.charge? id = some c ∧ e.UserStoppable c ∧
        (c.state = .active ∨ c.state = .chargeFailed ∨ c.state = .userStop) ∧
        chargeKey id ∉ e.held := by
  unfold stopByUser
  rw [guarded_stop_succeeds_iff reads_canBeStoppedByUser]
  constructor
  · rintro ⟨c, hc, hcheck, ha, hkey⟩
    exact ⟨c, hc, userStoppable_of_canBeStoppedByUser hcheck, allows_userStop_user.mp ha, hkey⟩
  · rintro ⟨c, hc, hus, ha, hkey⟩
    exact ⟨c, hc, exec_canBeStoppedByUser_of hus, allows_userStop_user.mpr ha, hkey⟩

theorem stopByAdmin_succeeds_iff (reason : String) :
    (∃ v e', (stopByAdmin id reason).exec e = .ok (.ok v, e')) ↔
      ∃ c, e.store.charge? id = some c ∧ e.Stoppable c ∧
        (c.state = .active ∨ c.state = .chargeFailed ∨ c.state = .adminStop) ∧
        chargeKey id ∉ e.held := by
  unfold stopByAdmin
  rw [guarded_stop_succeeds_iff reads_canBeStopped]
  constructor
  · rintro ⟨c, hc, hcheck, ha, hkey⟩
    exact ⟨c, hc, stoppable_of_canBeStopped hcheck, allows_adminStop_admin.mp ha, hkey⟩
  · rintro ⟨c, hc, hs, ha, hkey⟩
    exact ⟨c, hc, exec_canBeStopped_of hs, allows_adminStop_admin.mpr ha, hkey⟩

theorem exec_stopByUser_of {c v : Charge} {s' : Store} (hc : e.store.charge? id = some c)
    (hus : e.UserStoppable c) (ha : c.state.allows .userStop .user = true)
    (hkey : chargeKey id ∉ e.held)
    (hs : e.store.saveCharge (c.moveTo .userStop { note := some "Stopped by user" }) e.now =
      .ok (v, s')) :
    (stopByUser id).exec e = .ok (.ok v, e.afterUpdate id c.state v s') := by
  unfold stopByUser
  rw [exec_guarded _ _ _ hc (exec_canBeStoppedByUser_of hus)]
  exact exec_transition hkey hc ha hs

/-! ## A user's reactivation -/

/-- The change a user's reactivation makes under the attempt's lock. -/
def userReactivation (c : Charge) : Svc Charge := do
  if c.state != .userStop then
    throw (.reactivationUnavailable
      ("attempt " ++ c.id.text ++ " is " ++ c.state.name ++ ", not user_stop"))
  if c.chargeAt ≤ (← now) then
    throw (.reactivationUnavailable ("attempt " ++ c.id.text ++ " was due at " ++ c.chargeAt.display))
  pure ({ c with state := .active }.pushNote "Reactivated by user")

theorem reactivateByUser_eq (id : Ident) : reactivateByUser id = (get id >>= fun c =>
    canBeStoppedByUser c >>= fun b =>
      if (!b) = true then
        (throw (.reactivationUnavailable ("attempt " ++ id.text ++ " is not user-controllable")) :
          Svc Unit) >>= (fun _ => update id userReactivation)
      else update id userReactivation) := rfl

theorem exec_userReactivation {c : Charge} (hstate : c.state = .userStop) (hdue : e.now < c.chargeAt) :
    (userReactivation c).exec e = .ok (.ok ({ c with state := .active }.pushNote "Reactivated by user"), e) := by
  unfold userReactivation
  have hlate : ¬c.chargeAt ≤ e.now := Int.not_le.mpr hdue
  rw [if_neg (by simp [hstate]), exec_bind_ok (exec_now e), if_neg hlate]
  rfl

theorem userReactivation_reads {c : Charge} {r : Except BillingError Charge} {e' : Engine}
    (h : (userReactivation c).exec e = .ok (r, e')) :
    e' = e ∧ ∀ c', r = .ok c' → c.state = .userStop ∧ e.now < c.chargeAt := by
  unfold userReactivation at h
  by_cases hstate : c.state = .userStop
  · rw [if_neg (by simp [hstate]), exec_bind_ok (exec_now e)] at h
    by_cases hlate : c.chargeAt ≤ e.now
    · rw [if_pos hlate, exec_bind, exec_throw] at h
      cases h
      exact ⟨rfl, fun _ hr => by cases hr⟩
    · rw [if_neg hlate, exec_pure] at h
      cases h
      exact ⟨rfl, fun _ _ => ⟨hstate, Int.not_le.mp hlate⟩⟩
  · rw [if_pos (by simpa using hstate), exec_bind, exec_throw] at h
    cases h
    exact ⟨rfl, fun _ hr => by cases hr⟩

theorem exec_reactivateByUser_of {c v : Charge} {s' : Store} (hc : e.store.charge? id = some c)
    (hus : e.UserStoppable c) (hstate : c.state = .userStop) (hdue : e.now < c.chargeAt)
    (hkey : chargeKey id ∉ e.held)
    (hs : e.store.saveCharge ({ c with state := .active }.pushNote "Reactivated by user") e.now =
      .ok (v, s')) :
    (reactivateByUser id).exec e = .ok (.ok v, e.afterUpdate id .userStop v s') := by
  rw [reactivateByUser_eq, exec_guarded _ _ _ hc (exec_canBeStoppedByUser_of hus), ← hstate]
  exact update_ok hkey hc (exec_userReactivation hstate hdue) hs

theorem reactivateByUser_succeeds_iff :
    (∃ v e', (reactivateByUser id).exec e = .ok (.ok v, e')) ↔
      ∃ c, e.store.charge? id = some c ∧ e.UserStoppable c ∧ c.state = .userStop ∧
        e.now < c.chargeAt ∧ chargeKey id ∉ e.held := by
  constructor
  · intro h
    rw [reactivateByUser_eq, guarded_succeeds_iff _ _ _ reads_canBeStoppedByUser] at h
    obtain ⟨c, hc, hcheck, v, e', h⟩ := h
    obtain ⟨hkey, c', -, hc', hstate, hdue⟩ := update_succeeds (P := fun c _ =>
      c.state = .userStop ∧ e.now < c.chargeAt) (fun c _ _ hx => userReactivation_reads hx) h
    obtain rfl : c = c' := Option.some.inj (hc.symm.trans hc')
    exact ⟨c, hc, userStoppable_of_canBeStoppedByUser hcheck, hstate, hdue, hkey⟩
  · rintro ⟨c, hc, hus, hstate, hdue, hkey⟩
    have hid : ({ c with state := .active }.pushNote "Reactivated by user").id = id :=
      (Store.id_of_charge? e.store hc :)
    obtain ⟨v, s', hs⟩ := Store.saveCharge_of_charge? e.store hc hid e.now
    exact ⟨v, _, exec_reactivateByUser_of hc hus hstate hdue hkey hs⟩

/-! ## A user stop taken back -/

theorem stop_then_reactivate {c : Charge} (hc : e.store.charge? id = some c)
    (hus : e.UserStoppable c) (hactive : c.state = .active) (hdue : e.now < c.chargeAt)
    (hkey : chargeKey id ∉ e.held) :
    ∃ s', e.store.saveCharge { c with note := some (Charge.addLine
          (some (Charge.addLine c.note "Stopped by user")) "Reactivated by user") } e.now =
        .ok ({ c with note := some (Charge.addLine (some (Charge.addLine c.note "Stopped by user"))
          "Reactivated by user"), updated := e.now }, s') ∧
      (stopByUser id >>= fun _ => reactivateByUser id).exec e =
        .ok (.ok { c with note := some (Charge.addLine (some (Charge.addLine c.note "Stopped by user"))
            "Reactivated by user"), updated := e.now },
          ({ e with store := s' }.announce (.chargeStateChanged id .active .userStop) "transition").announce
            (.chargeStateChanged id .userStop .active) "transition") := by
  have hcid : c.id = id := Store.id_of_charge? e.store hc
  -- the stop saves the attempt moved to a user stop, with its line of note
  let stopped := c.moveTo .userStop { note := some "Stopped by user" }
  have hc₀ : e.store.charge? stopped.id = some c := hcid ▸ hc
  obtain ⟨s₁, hs₁, hread₁⟩ := Store.saveCharge_over hc₀ e.now
  let e₁ := e.afterUpdate id c.state (c.savedOver stopped e.now) s₁
  have hstop : (stopByUser id).exec e = .ok (.ok (c.savedOver stopped e.now), e₁) :=
    exec_stopByUser_of hc hus (allows_userStop_user.mpr (Or.inl hactive)) hkey hs₁
  -- the reactivation finds the user stop as saved, under a free lock, with the same parent
  have hc₁ : e₁.store.charge? id = some (c.savedOver stopped e.now) := by
    simpa [e₁, stopped, hcid] using hread₁
  have hus₁ : e₁.UserStoppable (c.savedOver stopped e.now) :=
    hus.congr (by simp [e₁, Store.payments_of_saveCharge e.store hs₁]) (by simp [e₁]) rfl
  have hkey₁ : chargeKey id ∉ e₁.held := by simpa [e₁] using hkey
  -- its save over the stop is the one save of the attempt with both lines
  let back := ({ c.savedOver stopped e.now with state := .active }.pushNote "Reactivated by user")
  let final : Charge := { c with note := some (Charge.addLine
    (some (Charge.addLine c.note "Stopped by user")) "Reactivated by user") }
  have hc₂ : e.store.charge? final.id = some c := hcid ▸ hc
  obtain ⟨s', hs', -⟩ := Store.saveCharge_over hc₂ e.now
  have hagain : s₁.saveCharge back e.now = e.store.saveCharge back e.now :=
    Store.saveCharge_saveCharge e.store hs₁ rfl
  have hsame : e.store.saveCharge back e.now = e.store.saveCharge final e.now :=
    Store.saveCharge_congr e.store rfl fun r => by
      simp [Charge.savedOver, back, final, stopped, Charge.moveTo, Charge.pushNote, hactive]
  have hs₂ : e₁.store.saveCharge back e₁.now = .ok (c.savedOver final e.now, s') := by
    rw [afterUpdate_store, afterUpdate_now, hagain, hsame, hs']
  have hdue₁ : e₁.now < (c.savedOver stopped e.now).chargeAt := by
    rw [afterUpdate_now]
    exact hdue
  have hback := exec_reactivateByUser_of hc₁ hus₁ rfl hdue₁ hkey₁ hs₂
  refine ⟨s', hs', ?_⟩
  rw [exec_bind_ok hstop, hback]
  -- both saves change the state, so both are announced
  have he₁ : e₁ = { e with store := s₁ }.announce (.chargeStateChanged id .active .userStop) "transition" := by
    have hv₁ : (c.savedOver stopped e.now).state = .userStop := rfl
    show (if c.state != (c.savedOver stopped e.now).state then _ else _) = _
    rw [hactive, hv₁, if_pos (by decide)]
  have hvF : (c.savedOver final e.now).state = .active := hactive
  have hend : e₁.afterUpdate id .userStop (c.savedOver final e.now) s' =
      ({ e with store := s' }.announce (.chargeStateChanged id .active .userStop) "transition").announce
        (.chargeStateChanged id .userStop .active) "transition" := by
    unfold Engine.afterUpdate
    rw [hvF, if_pos (by decide), he₁, Engine.announce_setStore]
  rw [hend]
  rfl

theorem update_of_held {change : Charge → Svc Charge} (hkey : chargeKey id ∈ e.held) :
    (update id change).exec e = .ok (.error (.lockTimeout (chargeKey id) e.policy.lockTimeoutMs), e) := by
  unfold update
  rw [exec_bind, exec_withLock, if_pos hkey]

/-! ## The permissions, together -/

/-- `stopByUser`, `stopByAdmin` and `reactivateByUser` go through exactly when the parent lets the
attempt be stopped (by a user, for the user's operations), the table of states lets the move, and
the attempt's lock is free; a user stop of an active attempt due in the future, taken back at
once, leaves the attempt as it was but for two lines of note and the instant of update. -/
theorem stop_and_reactivation_permissions (id : Ident) (e : Engine) :
    ((∃ v e', (stopByUser id).exec e = .ok (.ok v, e')) ↔
      ∃ c, e.store.charge? id = some c ∧ e.UserStoppable c ∧
        (c.state = .active ∨ c.state = .chargeFailed ∨ c.state = .userStop) ∧
        chargeKey id ∉ e.held) ∧
    (∀ reason, (∃ v e', (stopByAdmin id reason).exec e = .ok (.ok v, e')) ↔
      ∃ c, e.store.charge? id = some c ∧ e.Stoppable c ∧
        (c.state = .active ∨ c.state = .chargeFailed ∨ c.state = .adminStop) ∧
        chargeKey id ∉ e.held) ∧
    ((∃ v e', (reactivateByUser id).exec e = .ok (.ok v, e')) ↔
      ∃ c, e.store.charge? id = some c ∧ e.UserStoppable c ∧ c.state = .userStop ∧
        e.now < c.chargeAt ∧ chargeKey id ∉ e.held) ∧
    (∀ c, e.store.charge? id = some c → e.UserStoppable c → c.state = .active →
      e.now < c.chargeAt → chargeKey id ∉ e.held →
      ∃ s', e.store.saveCharge { c with note := some (Charge.addLine
            (some (Charge.addLine c.note "Stopped by user")) "Reactivated by user") } e.now =
          .ok ({ c with note := some (Charge.addLine (some (Charge.addLine c.note "Stopped by user"))
            "Reactivated by user"), updated := e.now }, s') ∧
        (stopByUser id >>= fun _ => reactivateByUser id).exec e =
          .ok (.ok { c with note := some (Charge.addLine (some (Charge.addLine c.note "Stopped by user"))
              "Reactivated by user"), updated := e.now },
            ({ e with store := s' }.announce (.chargeStateChanged id .active .userStop) "transition").announce
              (.chargeStateChanged id .userStop .active) "transition")) :=
  ⟨stopByUser_succeeds_iff, stopByAdmin_succeeds_iff, reactivateByUser_succeeds_iff,
    fun _ hc hus hactive hdue hkey => stop_then_reactivate hc hus hactive hdue hkey⟩

/-- An active attempt of a paid parent on an unregistered gateway, due a day later: stopped by its
user and taken back at once, it keeps everything but two lines of note. -/
theorem stop_and_reactivation_of_a_future_attempt :
    let t₀ : Instant := ⟨1709251200, 0⟩
    let p₁ : Payment :=
      { id := Ident.ofSerial 1, user := ⟨0⟩, gateway := "test", status := .paid,
        amount := ⟨1999, 2, false⟩, paidAt := none, subscription := none, catalogItem := none,
        address := none, isRecurrent := false, parent := none, note := none,
        errorMessage := none, created := t₀, updated := t₀ }
    let m₀ : Method :=
      { id := Ident.ofSerial 2, user := ⟨0⟩, gateway := "test", token := "tok", expiresOn := none,
        created := t₀ }
    let a₀ : Charge := Charge.ofDraft (Ident.ofSerial 3)
      { method := m₀.id, parent := p₁.id, chargeAt := ⟨1709337600, 0⟩, retries := 3,
        customAmount := none, renewalItem := none, note := none } "tok" t₀
    let e₀ : Engine :=
      { now := t₀, store := { payments := [p₁], methods := [m₀], rows := [⟨a₀, 1⟩], seq := 1,
                              serial := 3 } }
    e₀.UserStoppable a₀ ∧
      ∃ s', e₀.store.saveCharge { a₀ with note := some "Stopped by user\nReactivated by user" } t₀ =
          .ok ({ a₀ with note := some "Stopped by user\nReactivated by user" }, s') ∧
        (stopByUser a₀.id >>= fun _ => reactivateByUser a₀.id).exec e₀ =
          .ok (.ok { a₀ with note := some "Stopped by user\nReactivated by user" },
            ({ e₀ with store := s' }.announce (.chargeStateChanged a₀.id .active .userStop)
              "transition").announce (.chargeStateChanged a₀.id .userStop .active) "transition") := by
  intro t₀ p₁ m₀ a₀ e₀
  have hus : e₀.UserStoppable a₀ :=
    ⟨⟨⟨p₁, rfl, by decide, fun g hg => by cases hg⟩⟩, fun _ _ g hg => by cases hg⟩
  exact ⟨hus, (stop_and_reactivation_permissions a₀.id e₀).2.2.2 a₀ rfl hus rfl (by decide)
    List.not_mem_nil⟩

/-- The same attempt with its lock held elsewhere: a user may stop it and the table lets the stop,
but the stop times out on the lock and changes nothing. With the lock free and the clock an hour
on, the stop taken back moves the attempt's instant of update to then. -/
theorem user_stop_times_out_on_a_held_lock :
    let t₀ : Instant := ⟨1709251200, 0⟩
    let t₁ : Instant := ⟨1709254800, 0⟩
    let p₁ : Payment :=
      { id := Ident.ofSerial 1, user := ⟨0⟩, gateway := "test", status := .paid,
        amount := ⟨1999, 2, false⟩, paidAt := none, subscription := none, catalogItem := none,
        address := none, isRecurrent := false, parent := none, note := none,
        errorMessage := none, created := t₀, updated := t₀ }
    let m₀ : Method :=
      { id := Ident.ofSerial 2, user := ⟨0⟩, gateway := "test", token := "tok", expiresOn := none,
        created := t₀ }
    let a₀ : Charge := Charge.ofDraft (Ident.ofSerial 3)
      { method := m₀.id, parent := p₁.id, chargeAt := ⟨1709337600, 0⟩, retries := 3,
        customAmount := none, renewalItem := none, note := none } "tok" t₀
    let e₀ : Engine :=
      { now := t₀, store := { payments := [p₁], methods := [m₀], rows := [⟨a₀, 1⟩], seq := 1,
                              serial := 3 } }
    let e₁ : Engine := { e₀ with held := [chargeKey a₀.id] }
    e₁.UserStoppable a₀ ∧ a₀.state = .active ∧
      (stopByUser a₀.id).exec e₁ =
        .ok (.error (.lockTimeout (chargeKey a₀.id) e₁.policy.lockTimeoutMs), e₁) ∧
      ∃ v e₂, (stopByUser a₀.id >>= fun _ => reactivateByUser a₀.id).exec { e₀ with now := t₁ } =
          .ok (.ok v, e₂) ∧ v.updated = t₁ ∧ a₀.updated ≠ t₁ := by
  intro t₀ t₁ p₁ m₀ a₀ e₀ e₁
  have hus : e₁.UserStoppable a₀ :=
    ⟨⟨⟨p₁, rfl, by decide, fun g hg => by cases hg⟩⟩, fun _ _ g hg => by cases hg⟩
  have hheld : (stopByUser a₀.id).exec e₁ =
      .ok (.error (.lockTimeout (chargeKey a₀.id) e₁.policy.lockTimeoutMs), e₁) := by
    unfold stopByUser
    rw [exec_guarded _ _ _ rfl (exec_canBeStoppedByUser_of hus)]
    exact update_of_held List.mem_cons_self
  -- an hour on, with the lock free
  let e₂ : Engine := { e₀ with now := t₁ }
  have hus₂ : e₂.UserStoppable a₀ :=
    ⟨⟨⟨p₁, rfl, by decide, fun g hg => by cases hg⟩⟩, fun _ _ g hg => by cases hg⟩
  have hc₂ : e₂.store.charge? a₀.id = some a₀ := rfl
  obtain ⟨s', -, hround⟩ := stop_then_reactivate hc₂ hus₂ rfl (by decide) List.not_mem_nil
  exact ⟨hus, rfl, hheld, _, _, hround, rfl, by decide⟩

end Attempts

end Rebill
