import Rebill.Proofs.Charging
import Rebill.Service.Expiry

/-!
# The operations of the service, and runs of them

`Op` lists the operations that change the engine, one for each command of the service that
writes: issuing an identifier, moving the clock, scripting a gateway, seeding and opening
payments, writing attempts directly, the registry, the ledger, charge runs, callbacks and the
refresh of expiry dates. The queries are left out: they only read (`Svc.Reads`), so a run with
queries among its operations changes the engine as the run without them.

`RegistryOp` gathers the operations of the attempt registry that are routine
(`Engine.Routine`): all of them but giving a claim back, which `Op.releaseClaim` keeps apart.

`Reach A e ops e'` says that the operations `ops`, each admissible by `A` in the engine it starts
from, take `e` to `e'`. An operation that fails with a billing error keeps what it changed before
the failure, as the service does; one that stops on an overflow has no next engine. A preorder or
an invariant kept by every admissible step is kept by every run (`Reach.keeps`,
`Reach.invariant`).
-/

namespace Rebill

open Svc

/-- The operations of the attempt registry that change at most attempts and methods. -/
inductive RegistryOp where
  | registerMethod (user : Ident) (gateway token : String)
  | updateMethodExpiry (method : Ident) (d : Date)
  | createAttempt (method parent : Ident) (chargeAt : Instant) (customAmount : Option Decimal)
      (retries : Option Int)
  | createAttemptFrom (d : ChargeDraft)
  | scheduleNext (id : Ident) (sub : Option Subscription) (terms : Terms)
  | transition (id : Ident) (t : ChargeState) (actor : Actor) (u : ChargeUpdate)
  | claim (id : Ident)
  | linkPayment (id payment : Ident)
  | rearmFailed (id : Ident)
  | stopByUser (id : Ident)
  | stopByAdmin (id : Ident) (reason : String)
  | reactivateAfterSystemStop (id : Ident)
  | reactivateByUser (id : Ident)

namespace RegistryOp

def act : RegistryOp → Svc Unit
  | .registerMethod user gateway token => do let _ ← Attempts.registerMethod user gateway token
  | .updateMethodExpiry method d => Attempts.updateMethodExpiry method d
  | .createAttempt method parent chargeAt customAmount retries => do
    let _ ← Attempts.createAttempt method parent chargeAt customAmount retries
  | .createAttemptFrom d => do let _ ← Attempts.createAttemptFrom d
  | .scheduleNext id sub terms => do let _ ← Attempts.scheduleNext (← Attempts.get id) sub terms
  | .transition id t actor u => do let _ ← Attempts.transition id t actor u
  | .claim id => do let _ ← Attempts.claim id
  | .linkPayment id payment => do let _ ← Attempts.linkPayment id payment
  | .rearmFailed id => do let _ ← Attempts.rearmFailed id
  | .stopByUser id => do let _ ← Attempts.stopByUser id
  | .stopByAdmin id reason => do let _ ← Attempts.stopByAdmin id reason
  | .reactivateAfterSystemStop id => do let _ ← Attempts.reactivateAfterSystemStop id
  | .reactivateByUser id => do let _ ← Attempts.reactivateByUser id

open Attempts in
theorem keepsAt_act (op : RegistryOp) (e : Engine) : KeepsAt Engine.Routine op.act e := by
  cases op with
  | registerMethod user gateway token => exact keepsAt_drop (registerMethod_routine _ _ _ e)
  | updateMethodExpiry method d => exact updateMethodExpiry_routine _ _ e
  | createAttempt method parent chargeAt customAmount retries =>
    exact keepsAt_drop (createAttempt_routine _ _ _ _ _ e)
  | createAttemptFrom d => exact keepsAt_drop (createAttemptFrom_routine _ e)
  | scheduleNext id sub terms =>
    exact keepsAt_bind (reads_get id).keepsAt fun c e₁ _ =>
      keepsAt_drop (scheduleNext_routine c sub terms e₁)
  | transition id t actor u => exact keepsAt_drop (transition_routine _ _ _ _ e)
  | claim id => exact keepsAt_drop (claim_routine _ e)
  | linkPayment id payment => exact keepsAt_drop (linkPayment_routine _ _ e)
  | rearmFailed id => exact keepsAt_drop (rearmFailed_routine _ e)
  | stopByUser id => exact keepsAt_drop (stopByUser_routine _ e)
  | stopByAdmin id reason => exact keepsAt_drop (stopByAdmin_routine _ _ e)
  | reactivateAfterSystemStop id => exact keepsAt_drop (reactivateAfterSystemStop_routine _ e)
  | reactivateByUser id => exact keepsAt_drop (reactivateByUser_routine _ e)

end RegistryOp

namespace Expiry

open Engine

section Refresh

/-! The refresh, for any preorder kept by writing a method's expiry date and by counting. -/

variable {R : Engine → Engine → Prop} [Std.Refl R] [IsTrans Engine R]
  (hset : ∀ e id d s', e.store.setMethodExpiry id d = .ok s' → R e { e with store := s' })
  (htally : ∀ e k, R e (e.tally k))

include hset in
theorem keepsAt_writeChanged (answers : List (String × Date)) :
    ∀ (ms : List Method) (n : Nat) (e : Engine), KeepsAt R (writeChanged answers ms n) e
  | [], n, e => keepsAt_pure _
  | m :: rest, n, e => by
    unfold writeChanged
    split
    · exact keepsAt_writeChanged answers rest n e
    · split
      · exact keepsAt_writeChanged answers rest n e
      · refine keepsAt_bind_read (exec_store e) ?_
        simp only
        split
        · next s hs =>
          exact keepsAt_bind (keepsAt_of_exec (exec_setStore _ _) (hset e _ _ s hs))
            fun _ e₁ _ => keepsAt_writeChanged answers rest (n + 1) e₁
        · exact keepsAt_throw_bind _

include hset htally in
theorem keepsAt_refresh (gateway : String) (e : Engine) : KeepsAt R (refresh gateway) e := by
  unfold refresh
  rcases hg : (requireGateway gateway).exec e with o | ⟨y, e₁⟩
  · intro r' e' h
    rw [exec_bind, hg] at h
    cases h
  have he₁ : e₁ = e := by
    rw [exec_requireGateway] at hg
    split at hg <;> cases hg <;> rfl
  subst he₁
  cases y with
  | error err => exact keepsAt_of_exec (exec_bind_error hg) (refl_of R _)
  | ok g =>
  refine keepsAt_bind_read hg ?_
  split
  · exact keepsAt_pure _
  refine keepsAt_bind_read (exec_store e₁) ?_
  simp only
  split
  · exact keepsAt_pure _
  split
  · exact keepsAt_bind (keepsAt_of_exec (exec_count e₁ _) (htally e₁ _)) fun _ _ _ =>
      keepsAt_throw _
  · exact keepsAt_writeChanged hset _ _ _ e₁

end Refresh

theorem writeChanged_routine (answers : List (String × Date)) (ms : List Method) (n : Nat)
    (e : Engine) : KeepsAt Routine (writeChanged answers ms n) e :=
  keepsAt_writeChanged (fun _ _ _ _ hs => Routine.setMethodExpiry hs) answers ms n e

theorem refresh_routine (gateway : String) (e : Engine) : KeepsAt Routine (refresh gateway) e :=
  keepsAt_refresh (fun _ _ _ _ hs => Routine.setMethodExpiry hs) Routine.tally gateway e

end Expiry

/-- The operations that change the engine. -/
inductive Op where
  /-- A new identifier, for a name the script has not used. -/
  | issueIdent
  | setClock (t : Instant)
  /-- A gateway registered or re-scripted. -/
  | setGateway (g : Gateway)
  /-- A payment written as given. -/
  | seedPayment (p : Payment)
  /-- A payment opened in status `form`. -/
  | createPayment (d : PaymentDraft)
  /-- An attempt written as given, over the one with its identifier. -/
  | putCharge (c : Charge)
  | registry (op : RegistryOp)
  | releaseClaim (id : Ident)
  | updateStatus (id : Ident) (u : Ledger.StatusRequest)
  | run (ids : Option (List Ident))
  | resolvePending (id : Ident) (succeeded : Bool) (r : GatewayResponse)
  | refreshExpiry (gateway : String)

namespace Op

def act : Op → Svc Unit
  | .issueIdent => modify fun e => { e with store := e.store.fresh.2 }
  | .setClock t => modify fun e => { e with now := t }
  | .setGateway g => modify fun e => { e with gateways := e.gateways.register g }
  | .seedPayment p => do setStore ((← store).insertPayment p)
  | .createPayment d => do setStore ((← store).createPayment d (← now)).2
  | .putCharge c => do setStore ((← store).putCharge c)
  | .registry op => op.act
  | .releaseClaim id => do let _ ← Attempts.releaseClaim id
  | .updateStatus id u => do let _ ← Ledger.updateStatus id u
  | .run ids => do let _ ← Run.run ids
  | .resolvePending id succeeded r => do let _ ← Run.resolvePending id succeeded r
  | .refreshExpiry gateway => do let _ ← Expiry.refresh gateway

/-- The operation takes `e` to `e'`, with a result or a billing error. -/
def Step (op : Op) (e e' : Engine) : Prop := ∃ r, op.act.exec e = .ok (r, e')

/-- The engine the operations leave, run one after another from `e`, unless one stops on an
overflow. -/
def runAll (e : Engine) : List Op → Option Engine
  | [] => some e
  | op :: ops =>
    match op.act.exec e with
    | .ok (_, e₁) => runAll e₁ ops
    | .error _ => none

end Op

/-- The operations `ops`, each admissible by `A` in the engine it starts from, take `e` to `e'`. -/
inductive Reach (A : Engine → Op → Prop) : Engine → List Op → Engine → Prop where
  | nil (e : Engine) : Reach A e [] e
  | cons {e e₁ e' : Engine} {op : Op} {ops : List Op} (hA : A e op) (hstep : op.Step e e₁)
      (hrest : Reach A e₁ ops e') : Reach A e (op :: ops) e'

namespace Reach

variable {A : Engine → Op → Prop}

theorem invariant {I : Engine → Prop} {e e' : Engine} {ops : List Op} (h : Reach A e ops e')
    (hstep : ∀ e op e', op ∈ ops → A e op → I e → op.Step e e' → I e') (hI : I e) : I e' := by
  induction h with
  | nil e => exact hI
  | cons hA hs _ ih =>
    exact ih (fun e op e' hm => hstep e op e' (List.mem_cons_of_mem _ hm))
      (hstep _ _ _ List.mem_cons_self hA hI hs)

theorem keeps {R : Engine → Engine → Prop} [Std.Refl R] [IsTrans Engine R] {e e' : Engine}
    {ops : List Op} (h : Reach A e ops e')
    (hstep : ∀ e op e', op ∈ ops → A e op → op.Step e e' → R e e') : R e e' := by
  induction h with
  | nil e => exact refl_of R e
  | cons hA hs _ ih =>
    exact trans_of R (hstep _ _ _ List.mem_cons_self hA hs)
      (ih fun e op e' hm => hstep e op e' (List.mem_cons_of_mem _ hm))

theorem runAll_cons_of {e e₁ : Engine} {op : Op} {r : Except BillingError Unit}
    (hx : op.act.exec e = .ok (r, e₁)) (ops : List Op) :
    Op.runAll e (op :: ops) = Op.runAll e₁ ops := by
  rw [Op.runAll, hx]

theorem of_runAll {e e' : Engine} {ops : List Op} (hA : ∀ e₁, ∀ op ∈ ops, A e₁ op)
    (h : Op.runAll e ops = some e') : Reach A e ops e' := by
  induction ops generalizing e with
  | nil =>
    cases h
    exact .nil _
  | cons op ops ih =>
    rw [Op.runAll] at h
    rcases hx : op.act.exec e with o | ⟨r, e₁⟩
    · simp [hx] at h
    · simp only [hx] at h
      exact .cons (hA e op List.mem_cons_self) ⟨r, hx⟩
        (ih (fun e₂ op' hop => hA e₂ op' (List.mem_cons_of_mem _ hop)) h)

theorem append {e e' : Engine} {ops₁ ops₂ : List Op} :
    Reach A e (ops₁ ++ ops₂) e' ↔ ∃ e₁, Reach A e ops₁ e₁ ∧ Reach A e₁ ops₂ e' := by
  induction ops₁ generalizing e with
  | nil => exact ⟨fun h => ⟨e, .nil e, h⟩, fun ⟨e₁, h₁, h₂⟩ => by cases h₁; exact h₂⟩
  | cons op ops ih =>
    constructor
    · intro h
      cases h with
      | cons hA hs hrest =>
        obtain ⟨e₁, h₁, h₂⟩ := ih.mp hrest
        exact ⟨e₁, .cons hA hs h₁, h₂⟩
    · rintro ⟨e₁, h₁, h₂⟩
      cases h₁ with
      | cons hA hs hrest => exact .cons hA hs (ih.mpr ⟨e₁, hrest, h₂⟩)

end Reach

end Rebill
