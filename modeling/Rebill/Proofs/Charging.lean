import Rebill.Proofs.Guard

/-!
# The phases of a charge run

`Run.process` charges one due attempt in phases: the claim, the preparation (the fast-charge
guard, the payment, the gateway), the call of the gateway, the consequences of its answer, and the
audit line. This module says once what each phase can do to the engine, so that every property of
runs is read off the phases and no proof walks `process` again:

* `process_cases` splits a finished run of `process` at its phases, naming the engine after each;
* `keepsAt_process`, `keepsAt_processAll` and `keepsAt_run` lift a preorder that every phase
  keeps to a whole run;
* `processAll_invariant` carries an invariant of the engine, which may depend on the attempts
  still to be processed, through the loop of a run.

The gateway call is the only step of a run that asks for money. It appends exactly one charge,
for the claimed attempt, to the journal (`Engine.afterCharge`).
-/

namespace Rebill

/-- The engine after the gateway `g` was asked to charge the payment `p` for the attempt `c`:
the gateway's script moved on, and the call and the charge with its reply are journalled. -/
def Engine.afterCharge (e : Engine) (g : Gateway) (p : Payment) (c : Charge) : Engine :=
  { e with
    gateways := e.gateways.register (g.charge p c.token).2.1,
    journal := { e.journal with
      calls := e.journal.calls ++ (g.charge p c.token).2.2.toList,
      charges := e.journal.charges ++ [⟨p.id, c.id, (g.charge p c.token).1⟩] } }

namespace Engine

variable (e : Engine) (g : Gateway) (p : Payment) (c : Charge)

@[simp] theorem afterCharge_store : (e.afterCharge g p c).store = e.store := rfl
@[simp] theorem afterCharge_held : (e.afterCharge g p c).held = e.held := rfl
@[simp] theorem afterCharge_now : (e.afterCharge g p c).now = e.now := rfl
@[simp] theorem afterCharge_policy : (e.afterCharge g p c).policy = e.policy := rfl
@[simp] theorem afterCharge_outlets : (e.afterCharge g p c).outlets = e.outlets := rfl
@[simp] theorem afterCharge_recorded : (e.afterCharge g p c).recorded = e.recorded := rfl
@[simp] theorem afterCharge_charges :
    (e.afterCharge g p c).journal.charges = e.journal.charges ++ [⟨p.id, c.id, (g.charge p c.token).1⟩] :=
  rfl

end Engine

namespace Run

open Svc Attempts

/-- The audit line of a gateway answer on a payment for an attempt, written at `t`. -/
def logEntry (payment charge : Ident) (r : GatewayResponse) (t : Instant) : AuditEntry :=
  { payment := payment, charge := some charge, success := r.successful, code := r.code,
    message := r.message, data := r.data, created := t }

theorem exec_appendLog (payment charge : Ident) (r : GatewayResponse) (e : Engine) :
    (appendLog payment charge r).exec e =
      .ok (.ok (), { e with store := e.store.appendAudit (logEntry payment charge r e.now) }) := by
  unfold appendLog
  rw [exec_bind_ok (exec_now e), exec_bind_ok (exec_store e), exec_setStore]
  rfl

theorem exec_callGateway (g : Gateway) (p : Payment) (c : Charge) (e : Engine) :
    (callGateway g p c).exec e = .ok (.ok (g.charge p c.token).1, e.afterCharge g p c) := by
  unfold callGateway
  rw [exec_bind_ok (exec_modify _ _)]
  rfl

/-- What a finished run of `process` did, phase by phase: the claim failed and nothing changed; the
attempt was not claimable and the skip was counted; or the attempt was claimed as `c`, giving
`e₁`, and then

* the preparation failed, leaving `e₂`, and the claim was given back;
* the preparation settled the attempt without a call, and the outcome was counted;
* or the preparation chose the payment `p` and gateway `g`, the gateway was asked once, its
  answer was applied from `e₂.afterCharge g p c`, and when that went through the answer was
  logged and the outcome counted. -/
theorem process_cases {due : Charge} {e e' : Engine} {r : Except BillingError Outcome}
    (h : (process due).exec e = .ok (r, e')) :
    (e' = e ∧ ∃ err, r = .error err) ∨
      (e' = e.tally (.outcome Outcome.skipped.name) ∧ r = .ok .skipped) ∨
      ∃ c e₁, (claim due.id).exec e = .ok (.ok (some c), e₁) ∧
        ((∃ err e₂ x, (prepare c).exec e₁ = .ok (.error err, e₂) ∧
            (releaseClaim c.id).exec e₂ = .ok (x, e') ∧ r = .error err) ∨
          (∃ o e₂, (prepare c).exec e₁ = .ok (.ok (.done o), e₂) ∧
            e' = e₂.tally (.outcome o.name) ∧ r = .ok o) ∨
          ∃ p g e₂, (prepare c).exec e₁ = .ok (.ok (.call p g), e₂) ∧
            ∃ x e₃, (applyReply c p g (g.charge p c.token).1).exec (e₂.afterCharge g p c) =
              .ok (x, e₃) ∧
            ((∃ err, x = .error err ∧ e' = e₃ ∧ r = .error err) ∨
              ∃ o resp, x = .ok (o, resp) ∧ r = .ok o ∧
                e' = { e₃ with store := e₃.store.appendAudit (logEntry p.id c.id resp e₃.now) }.tally
                  (.outcome o.name))) := by
  unfold process at h
  rcases exec_bind_eq_ok h with ⟨err, hcl, rfl⟩ | ⟨oc, e₁, hcl, hrest⟩
  · rcases claim_cases hcl with ⟨rfl, -⟩ | ⟨_, _, _, _, _, _, _, hr, _⟩
    · exact .inl ⟨rfl, err, rfl⟩
    · cases hr
  cases oc with
  | none =>
    rcases claim_cases hcl with ⟨rfl, -⟩ | ⟨_, _, _, _, _, _, _, hr, _⟩
    · rw [exec_bind, exec_count] at hrest
      cases hrest
      exact .inr (.inl ⟨rfl, rfl⟩)
    · cases hr
  | some c =>
    refine .inr (.inr ⟨c, e₁, hcl, ?_⟩)
    rcases exec_bind_eq_ok hrest with ⟨err, hp, rfl⟩ | ⟨prepared, e₂, hp, hrest⟩
    · -- the preparation failed: the handler gives the claim back and fails again
      rcases exec_tryCatch_eq_ok hp with ⟨a, -, hr⟩ | ⟨err₀, e₂, hprep, hh⟩
      · cases hr
      rcases exec_bind_eq_ok hh with ⟨err₁, hrel, hr⟩ | ⟨x, e₃, hrel, hthrow⟩
      · rcases exec_tryCatch_eq_ok hrel with ⟨a, -, hr'⟩ | ⟨err₂, e₃, hrel', hpure⟩
        · cases hr'
        · cases hpure
      rw [exec_throw] at hthrow
      cases hthrow
      rcases exec_tryCatch_eq_ok hrel with ⟨a, hrel', -⟩ | ⟨err₂, e₄, hrel', hpure⟩
      · exact .inl ⟨_, _, .ok a, hprep, hrel', rfl⟩
      · cases hpure
        exact .inl ⟨_, _, .error err₂, hprep, hrel', rfl⟩
    rcases exec_tryCatch_eq_ok hp with ⟨a, hprep, ha⟩ | ⟨err₀, e₃, hprep, hh⟩
    · cases ha
      cases prepared with
      | done o =>
        rw [exec_bind, exec_count] at hrest
        cases hrest
        exact .inr (.inl ⟨o, e₂, hprep, rfl, rfl⟩)
      | call p g =>
        refine .inr (.inr ⟨p, g, e₂, hprep, ?_⟩)
        rw [exec_bind_ok (exec_callGateway g p c e₂)] at hrest
        rcases exec_bind_eq_ok hrest with ⟨err, happ, rfl⟩ | ⟨⟨o, resp⟩, e₃, happ, hlog⟩
        · exact ⟨_, _, happ, .inl ⟨err, rfl, rfl, rfl⟩⟩
        · rw [exec_bind_ok (exec_appendLog _ _ _ _), exec_bind, exec_count] at hlog
          cases hlog
          exact ⟨_, _, happ, .inr ⟨o, resp, rfl, rfl, rfl⟩⟩
    · -- a failed preparation never reaches the match
      rcases exec_bind_eq_ok hh with ⟨err₁, -, hr⟩ | ⟨x, e₄, -, hthrow⟩
      · cases hr
      · rw [exec_throw] at hthrow
        cases hthrow

theorem processAll_cons_cases {c : Charge} {rest : List Charge} {s : Summary} {e e' : Engine}
    {r : Except BillingError Summary} (h : (processAll (c :: rest) s).exec e = .ok (r, e')) :
    ∃ x e₁, (process c).exec e = .ok (x, e₁) ∧
      ((∃ err, x = .error err ∧ err.isSystemic ∧
          e' = e₁.tally (.error "systemic" "charge") ∧ r = .error err) ∨
        ∃ e₂, (e₂ = e₁ ∨ e₂ = e₁.tally (.error "attempt" "charge")) ∧
          (processAll rest (s.record c.id x)).exec e₂ = .ok (r, e')) := by
  unfold processAll at h
  rcases exec_bind_eq_ok h with ⟨err, hx, -⟩ | ⟨x, e₁, hx, hrest⟩
  · rcases exec_tryCatch_eq_ok hx with ⟨a, -, ha⟩ | ⟨err₀, e₁, -, hh⟩
    · cases ha
    · cases hh
  have hproc : (process c).exec e = .ok (x, e₁) := by
    rcases hpc : (process c).exec e with o | ⟨x₀, e₀⟩
    · simp only [exec_tryCatch, exec_map, hpc] at hx
      cases hx
    · cases x₀ <;> simp only [exec_tryCatch, exec_map, hpc, exec_pure] at hx <;> cases hx <;> rfl
  refine ⟨x, e₁, hproc, ?_⟩
  simp only at hrest
  cases x with
  | ok o => exact .inr ⟨e₁, .inl rfl, hrest⟩
  | error err =>
    by_cases hsys : err.isSystemic = true
    · simp only [hsys, if_true, exec_bind, exec_count, exec_throw] at hrest
      cases hrest
      exact .inl ⟨err, rfl, hsys, rfl, rfl⟩
    · simp only [hsys, Bool.false_eq_true, if_false, exec_bind, exec_count] at hrest
      exact .inr ⟨_, .inr rfl, hrest⟩

/-- An invariant of the engine and of the attempts still to be processed, kept by processing the
next attempt and by counting, holds when the loop ends, for what was then left. -/
theorem processAll_invariant {I : List Charge → Engine → Prop}
    (hproc : ∀ c rest e x e₁, I (c :: rest) e → (process c).exec e = .ok (x, e₁) → I rest e₁)
    (htally : ∀ l e k, I l e → I l (e.tally k)) :
    ∀ (l : List Charge) (s : Summary) {e e' : Engine} {r : Except BillingError Summary},
      I l e → (processAll l s).exec e = .ok (r, e') → ∃ l', I l' e'
  | [], s, e, e', r, hI, h => by
    unfold processAll at h
    cases h
    exact ⟨[], hI⟩
  | c :: rest, s, e, e', r, hI, h => by
    obtain ⟨x, e₁, hx, hcases⟩ := processAll_cons_cases h
    have hI₁ := hproc c rest e x e₁ hI hx
    rcases hcases with ⟨err, -, -, rfl, -⟩ | ⟨e₂, he₂, hrest⟩
    · exact ⟨rest, htally _ _ _ hI₁⟩
    · have hI₂ : I rest e₂ := by
        rcases he₂ with rfl | rfl
        · exact hI₁
        · exact htally _ _ _ hI₁
      exact processAll_invariant hproc htally rest _ hI₂ hrest

/-- The moves a run makes through the registry: moves on behalf of the system, the link to a
payment, and re-arming a failed attempt. A relation kept by these three is kept by every phase
that changes an attempt. -/
structure Updates (R : Engine → Engine → Prop) : Prop where
  transition : ∀ id t u e, KeepsAt R (Attempts.transition id t .system u) e
  linkPayment : ∀ id p e, KeepsAt R (Attempts.linkPayment id p) e
  rearmFailed : ∀ id e, KeepsAt R (Attempts.rearmFailed id) e

section Lift

variable {R : Engine → Engine → Prop} [Std.Refl R] [IsTrans Engine R]

theorem Updates.of_update (hupdate : ∀ id change e, Change change → KeepsAt R (update id change) e) :
    Updates R :=
  ⟨fun id t u e => keepsAt_transition hupdate id t .system u e, keepsAt_linkPayment hupdate,
    keepsAt_rearmFailed hupdate⟩

theorem keepsAt_resolvePending_of {id : Ident} {succeeded : Bool} {r : GatewayResponse}
    (htrans : ∀ u e, KeepsAt R
      (transition id (if succeeded = true then .charged else .chargeFailed) .system u) e)
    (hrearm : ∀ e, KeepsAt R (rearmFailed id) e)
    (hlog : ∀ e (a : AuditEntry), R e { e with store := e.store.appendAudit a })
    (hstatus : ∀ id u e, KeepsAt R (Ledger.updateStatus id u) e)
    (htally : ∀ e k, R e (e.tally k)) (e : Engine) : KeepsAt R (resolvePending id succeeded r) e := by
  unfold resolvePending
  obtain ⟨x, hget⟩ := (reads_get id).finishes (finishes_get id e)
  rcases x with err | c
  · exact keepsAt_of_exec (exec_bind_error hget) (refl_of R e)
  refine keepsAt_bind_read hget ?_
  dsimp only
  refine keepsAt_ite_throw ?_
  split
  swap
  · exact keepsAt_throw _
  refine keepsAt_bind_read (exec_store e) ?_
  split
  swap
  · exact keepsAt_throw _
  next p hp =>
  rcases hg : (requireGateway p.gateway).exec e with o | ⟨y, e₁⟩
  · intro r' e' h
    rw [exec_bind, hg] at h
    cases h
  have he₁ : e₁ = e := by
    rw [exec_requireGateway] at hg
    split at hg <;> cases hg <;> rfl
  subst he₁
  cases y with
  | error err => exact keepsAt_of_exec (exec_bind_error hg) (refl_of R _)
  | ok g =>
  refine keepsAt_bind_read hg ?_
  -- the callback settles or fails the payment; the rest is the same for both
  split
  all_goals
    rename_i hs
    simp only [hs, if_true, Bool.false_eq_true, if_false] at htrans
    refine keepsAt_bind (hstatus _ _ e₁) fun _ e₂ _ => ?_
    refine keepsAt_bind (htrans _ e₂) fun _ e₃ _ => ?_
    split
    · refine keepsAt_bind (hrearm e₃) fun _ e₄ _ => ?_
      exact keepsAt_bind (keepsAt_of_exec (exec_appendLog _ _ _ e₄) (hlog e₄ _)) fun _ e₅ _ =>
        keepsAt_bind (keepsAt_of_exec (exec_count e₅ _) (htally e₅ _)) fun _ _ _ => keepsAt_pure _
    · exact keepsAt_bind (keepsAt_of_exec (exec_appendLog _ _ _ e₃) (hlog e₃ _)) fun _ e₅ _ =>
        keepsAt_bind (keepsAt_of_exec (exec_count e₅ _) (htally e₅ _)) fun _ _ _ => keepsAt_pure _

/-! ### The phases, one move at a time -/

theorem reads_parentPayment (c : Charge) : Reads (parentPayment c) fun _ => True :=
  reads_bind reads_store fun s _ => by
    split
    · exact reads_pure trivial
    · exact reads_throw _

theorem reads_chargedPayment (pid : Ident) : Reads (chargedPayment pid) fun _ => True :=
  reads_bind reads_store fun s _ => by
    split
    · exact reads_pure trivial
    · exact reads_throw _

theorem keepsAt_createFor_of
    (hcreate : ∀ e d p s, e.store.createPayment d e.now = (p, s) → R e { e with store := s })
    (c : Charge) (parent : Payment) (e : Engine) : KeepsAt R (createFor c parent) e := by
  unfold createFor
  refine keepsAt_bind_read (exec_store e) (keepsAt_bind_read (exec_now e) ?_)
  split
  next p s hcp =>
    exact keepsAt_bind (keepsAt_of_exec (exec_setStore _ _) (hcreate e _ p s hcp))
      fun _ _ _ => keepsAt_pure _

theorem keepsAt_openPayment_of (hlink : ∀ id p e, KeepsAt R (linkPayment id p) e)
    (hcreate : ∀ e d p s, e.store.createPayment d e.now = (p, s) → R e { e with store := s })
    (c : Charge) (e : Engine) : KeepsAt R (openPayment c) e := by
  unfold openPayment
  exact keepsAt_bind (reads_parentPayment c).keepsAt fun parent e₁ _ =>
    keepsAt_bind (keepsAt_createFor_of hcreate c parent e₁) fun p e₂ _ => hlink _ _ e₂

theorem keepsAt_paymentFor_of (hlink : ∀ id p e, KeepsAt R (linkPayment id p) e)
    (hcreate : ∀ e d p s, e.store.createPayment d e.now = (p, s) → R e { e with store := s })
    (c : Charge) (e : Engine) : KeepsAt R (paymentFor c) e := by
  unfold paymentFor
  split
  · exact keepsAt_pure _
  · exact keepsAt_openPayment_of hlink hcreate c e

omit [Std.Refl R] in
theorem keepsAt_completeAlreadyPaid_of {c : Charge} {e : Engine}
    (htrans : ∀ u, KeepsAt R (transition c.id .charged .system u) e)
    (hlog : ∀ e (a : AuditEntry), R e { e with store := e.store.appendAudit a }) (p : Payment) :
    KeepsAt R (completeAlreadyPaid c p) e :=
  keepsAt_bind (htrans _) fun _ e₁ _ => keepsAt_of_exec (exec_appendLog _ _ _ e₁) (hlog e₁ _)

theorem keepsAt_completeOrCall_of {c : Charge} {e : Engine}
    (htrans : ∀ u, KeepsAt R (transition c.id .charged .system u) e)
    (hlog : ∀ e (a : AuditEntry), R e { e with store := e.store.appendAudit a }) (pid : Ident) :
    KeepsAt R (completeOrCall c pid) e := by
  unfold completeOrCall
  refine keepsAt_bind (reads_chargedPayment pid).keepsAt fun p e₁ hp => ?_
  have he₁ : e₁ = e := (reads_chargedPayment pid e _ _ hp).1
  subst he₁
  split
  · exact keepsAt_bind (keepsAt_completeAlreadyPaid_of htrans hlog p) fun _ _ _ => keepsAt_pure _
  · rcases hg : (requireGateway p.gateway).exec e₁ with o | ⟨r, e₂⟩
    · intro r' e' h
      rw [exec_bind, hg] at h
      cases h
    · have he₂ : e₂ = e₁ := by
        rw [exec_requireGateway] at hg
        split at hg <;> cases hg <;> rfl
      subst he₂
      exact keepsAt_bind (keepsAt_of_exec hg (refl_of R _)) fun _ _ _ => keepsAt_pure _

/-! ### The phases, for a preorder kept by the run's moves -/

section Phases

variable (hup : Updates R)
include hup

theorem keepsAt_openPayment
    (hcreate : ∀ e d p s, e.store.createPayment d e.now = (p, s) → R e { e with store := s })
    (c : Charge) (e : Engine) : KeepsAt R (openPayment c) e :=
  keepsAt_openPayment_of hup.linkPayment hcreate c e

variable (hlog : ∀ e (a : AuditEntry), R e { e with store := e.store.appendAudit a })
include hlog

omit hlog in
theorem keepsAt_stopFast (c : Charge) (e : Engine) : KeepsAt R (stopFast c) e :=
  keepsAt_bind (hup.transition _ _ _ e) fun _ _ _ => keepsAt_pure _

omit hlog in
theorem keepsAt_paymentFor
    (hcreate : ∀ e d p s, e.store.createPayment d e.now = (p, s) → R e { e with store := s })
    (c : Charge) (e : Engine) : KeepsAt R (paymentFor c) e :=
  keepsAt_paymentFor_of hup.linkPayment hcreate c e

theorem keepsAt_completeOrCall (c : Charge) (pid : Ident) (e : Engine) :
    KeepsAt R (completeOrCall c pid) e :=
  keepsAt_completeOrCall_of (fun u => hup.transition _ _ u e) hlog pid

theorem keepsAt_prepare
    (hcreate : ∀ e d p s, e.store.createPayment d e.now = (p, s) → R e { e with store := s })
    (c : Charge) (e : Engine) : KeepsAt R (prepare c) e := by
  unfold prepare
  obtain ⟨x, hx, -⟩ := fastChargeConflict_exec c e
  refine keepsAt_bind_read hx ?_
  split
  · exact keepsAt_stopFast hup c e
  · exact keepsAt_bind (keepsAt_paymentFor hup hcreate c e) fun pid e₁ _ =>
      keepsAt_completeOrCall hup hlog c pid e₁

variable (hstatus : ∀ id u e, KeepsAt R (Ledger.updateStatus id u) e)
  (htally : ∀ e k, R e (e.tally k))
include hstatus htally

omit hlog in
theorem keepsAt_applyReply (c : Charge) (p : Payment) (g : Gateway) (reply : ChargeReply)
    (e : Engine) : KeepsAt R (applyReply c p g reply) e := by
  have htrans := fun t u e₁ => hup.transition c.id t u e₁
  cases reply with
  | settled r =>
    exact keepsAt_bind (hstatus _ _ e) fun _ e₁ _ =>
      keepsAt_bind (htrans _ _ e₁) fun _ _ _ => keepsAt_pure _
  | pending r => exact keepsAt_bind (htrans _ _ e) fun _ _ _ => keepsAt_pure _
  | failed f =>
    obtain ⟨kind, r⟩ := f
    cases kind with
    | retryable =>
      exact keepsAt_bind (hstatus _ _ e) fun _ e₁ _ => keepsAt_bind (htrans _ _ e₁) fun _ e₂ _ =>
        keepsAt_bind (hup.rearmFailed _ e₂) fun _ _ _ => keepsAt_pure _
    | terminal =>
      exact keepsAt_bind (hstatus _ _ e) fun _ e₁ _ =>
        keepsAt_bind (htrans _ _ e₁) fun _ _ _ => keepsAt_pure _
    | hard =>
      exact keepsAt_bind (keepsAt_of_exec (exec_count e _) (htally e _)) fun _ e₁ _ =>
        keepsAt_bind (htrans _ _ e₁) fun _ _ _ => keepsAt_pure _

theorem keepsAt_resolvePending (id : Ident) (succeeded : Bool) (r : GatewayResponse)
    (e : Engine) : KeepsAt R (resolvePending id succeeded r) e :=
  keepsAt_resolvePending_of (fun _ e₁ => hup.transition _ _ _ e₁) (hup.rearmFailed id) hlog
    hstatus htally e

end Phases

/-- A preorder kept by every phase is kept by processing an attempt. -/
theorem keepsAt_process {due : Charge} (hclaim : ∀ e, KeepsAt R (claim due.id) e)
    (hprep : ∀ c e, KeepsAt R (prepare c) e)
    (hrel : ∀ (c : Charge) e, KeepsAt R (releaseClaim c.id) e)
    (hcall : ∀ e g p c, R e (e.afterCharge g p c))
    (hreply : ∀ c p g reply e, KeepsAt R (applyReply c p g reply) e)
    (hlog : ∀ e (a : AuditEntry), R e { e with store := e.store.appendAudit a })
    (htally : ∀ e k, R e (e.tally k)) (e : Engine) : KeepsAt R (process due) e := by
  intro r e' h
  rcases process_cases h with ⟨rfl, -⟩ | ⟨rfl, -⟩ | ⟨c, e₁, hcl, hphase⟩
  · exact refl_of R _
  · exact htally e _
  have h₁ := hclaim e _ _ hcl
  rcases hphase with ⟨err, e₂, x, hp, hr, -⟩ | ⟨o, e₂, hp, rfl, -⟩ |
    ⟨p, g, e₂, hp, x, e₃, ha, hend⟩
  · exact trans_of R h₁ (trans_of R (hprep c e₁ _ _ hp) (hrel c e₂ _ _ hr))
  · exact trans_of R h₁ (trans_of R (hprep c e₁ _ _ hp) (htally e₂ _))
  · have h₃ : R e e₃ := trans_of R h₁ (trans_of R (hprep c e₁ _ _ hp)
      (trans_of R (hcall e₂ g p c) (hreply c p g _ _ _ _ ha)))
    rcases hend with ⟨err, -, rfl, -⟩ | ⟨o, resp, -, -, rfl⟩
    · exact h₃
    · exact trans_of R h₃ (trans_of R (hlog e₃ _) (htally _ _))

/-- A preorder kept by processing each attempt and by counting is kept by the loop. -/
theorem keepsAt_processAll (hproc : ∀ c e, KeepsAt R (process c) e)
    (htally : ∀ e k, R e (e.tally k)) (l : List Charge) (s : Summary) (e : Engine) :
    KeepsAt R (processAll l s) e := by
  intro r e' h
  obtain ⟨-, hR⟩ := processAll_invariant (I := fun _ e₁ => R e e₁)
    (fun c _ e₀ _ e₁ h₀ hx => trans_of R h₀ (hproc c e₀ _ _ hx))
    (fun _ e₀ k h₀ => trans_of R h₀ (htally e₀ k)) l s (refl_of R e) h
  exact hR

/-- A preorder kept by processing each attempt and by counting is kept by a run. -/
theorem keepsAt_run (hproc : ∀ c e, KeepsAt R (process c) e) (htally : ∀ e k, R e (e.tally k))
    (ids : Option (List Ident)) (e : Engine) : KeepsAt R (run ids) e :=
  keepsAt_bind (reads_chargeable ids).keepsAt fun l e₁ _ =>
    keepsAt_processAll hproc htally l {} e₁

end Lift

end Run

end Rebill
