import Rebill.Proofs.Operations

/-!
# Every payment has a lawful history

The ledger is the only writer of a payment's status, and it announces each change it writes by
one event and one message. This module shows that over every run of operations in which
payments are only opened by the store or seeded once, with a sink that records every event and a
queue that takes every message:

* the announced changes of each payment form a chain from its first status to its current one,
  each changing the status and none failing a paid payment (`StatusHistory`);
* the messages are the announced changes, one each, in order;
* a paid instant once set never changes, and a paid payment that carries its paid instant keeps
  carrying one (`Payment.Follows`).

The relation `Engine.Ledgered` says all of this between two engines. It is a preorder, so it is
proved one operation and one phase of a charge run at a time.
-/

namespace Rebill

def StatusMessage.ofChange (c : Ident × PaymentStatus × PaymentStatus × Bool) : StatusMessage :=
  ⟨c.1, c.2.2.2⟩

/-- The changes of the status of the payment `x`, from old to new, among announced changes. -/
def changesOf (x : Ident) (l : List (Ident × PaymentStatus × PaymentStatus × Bool)) :
    List (PaymentStatus × PaymentStatus) :=
  l.filterMap fun c => if c.1 = x then some (c.2.1, c.2.2.1) else none

@[simp] theorem changesOf_nil (x : Ident) : changesOf x [] = [] := rfl

@[simp] theorem changesOf_append (x : Ident) (l₁ l₂ : List (Ident × PaymentStatus × PaymentStatus × Bool)) :
    changesOf x (l₁ ++ l₂) = changesOf x l₁ ++ changesOf x l₂ :=
  List.filterMap_append

@[simp] theorem changesOf_singleton (x y : Ident) (o n : PaymentStatus) (b : Bool) :
    changesOf x [(y, o, n, b)] = if y = x then [(o, n)] else [] := by
  by_cases h : y = x <;> simp [changesOf, h]

/-- A lawful history of a payment's status, from `s` to `t`: each change starts where the one
before it ended, changes the status, and never fails a paid payment. -/
inductive StatusHistory : PaymentStatus → List (PaymentStatus × PaymentStatus) → PaymentStatus →
    Prop where
  | nil (s : PaymentStatus) : StatusHistory s [] s
  | cons {s n t : PaymentStatus} {rest : List (PaymentStatus × PaymentStatus)} (hne : s ≠ n)
      (hpaid : ¬(s.isPaidLike = true ∧ n = .fail)) (h : StatusHistory n rest t) :
      StatusHistory s ((s, n) :: rest) t

theorem StatusHistory.append {s t u : PaymentStatus} {l₁ l₂ : List (PaymentStatus × PaymentStatus)}
    (h₁ : StatusHistory s l₁ t) (h₂ : StatusHistory t l₂ u) : StatusHistory s (l₁ ++ l₂) u := by
  induction h₁ with
  | nil s => exact h₂
  | cons hne hpaid _ ih => exact .cons hne hpaid (ih h₂)

namespace Payment

def Stamped (p : Payment) : Prop := p.status.isPaidLike = true → p.paidAt.isSome = true

/-- A payment as the store opens it: in status `form`, unpaid. -/
def Opened (p : Payment) : Prop := p.status = .form ∧ p.paidAt = none

/-- How a payment may become `p'` from `p` through the announced changes `l`: its status moves
along a lawful history, a paid instant once set stays, and a stamped payment stays stamped. -/
structure Follows (p : Payment) (l : List (PaymentStatus × PaymentStatus)) (p' : Payment) :
    Prop where
  history : StatusHistory p.status l p'.status
  paidAt : p.paidAt.isSome = true → p'.paidAt = p.paidAt
  stamped : p.Stamped → p'.Stamped

theorem Follows.refl (p : Payment) : p.Follows [] p :=
  ⟨.nil _, fun _ => rfl, fun h => h⟩

theorem Follows.trans {p₁ p₂ p₃ : Payment} {l₁ l₂ : List (PaymentStatus × PaymentStatus)}
    (h₁ : p₁.Follows l₁ p₂) (h₂ : p₂.Follows l₂ p₃) : p₁.Follows (l₁ ++ l₂) p₃ where
  history := h₁.history.append h₂.history
  paidAt := fun hs => (h₂.paidAt (h₁.paidAt hs ▸ hs)).trans (h₁.paidAt hs)
  stamped := h₂.stamped ∘ h₁.stamped

end Payment

/-- The sink records every event and the queue takes every message. -/
def Outlets.Faithful (o : Outlets) : Prop :=
  o.sink = .recording ∧ o.eventsFail = false ∧ o.queueFails = false

namespace Engine

/-- The changes of status announced from `e` to a later `e'`. -/
def newChanges (e e' : Engine) : List (Ident × PaymentStatus × PaymentStatus × Bool) :=
  e'.statusChanges.drop e.statusChanges.length

/-- What the service may do to payments from `e` to `e'`, when the outlets are faithful: the
changes announced before are kept and new ones are appended, each with its message; a payment
follows the new changes of its status; and a payment that did not exist either still does not,
with no change announced, or was born as `born` allows and follows its changes since. -/
structure Ledgered (born : Payment → Prop) (e e' : Engine) : Prop where
  outlets : e'.outlets = e.outlets
  changes : e.outlets.Faithful → e.statusChanges <+: e'.statusChanges
  messages : e.outlets.Faithful →
    e'.recorded.messages = e.recorded.messages ++ (e.newChanges e').map StatusMessage.ofChange
  payments : e.outlets.Faithful → ∀ x p, e.store.payment? x = some p →
    ∃ p', e'.store.payment? x = some p' ∧ p.Follows (changesOf x (e.newChanges e')) p'
  births : e.outlets.Faithful → ∀ x, e.store.payment? x = none →
    (e'.store.payment? x = none ∧ changesOf x (e.newChanges e') = []) ∨
      ∃ b p', born b ∧ b.id = x ∧ e'.store.payment? x = some p' ∧
        b.Follows (changesOf x (e.newChanges e')) p'

theorem newChanges_self (e : Engine) : e.newChanges e = [] := by
  simp [newChanges]

theorem newChanges_eq_nil {e e' : Engine} (h : e'.statusChanges = e.statusChanges) :
    e.newChanges e' = [] := by
  simp [newChanges, h]

theorem newChanges_trans {e₁ e₂ e₃ : Engine} (h₁₂ : e₁.statusChanges <+: e₂.statusChanges)
    (h₂₃ : e₂.statusChanges <+: e₃.statusChanges) :
    e₁.newChanges e₃ = e₁.newChanges e₂ ++ e₂.newChanges e₃ := by
  obtain ⟨a, ha⟩ := h₁₂
  obtain ⟨b, hb⟩ := h₂₃
  have h₃ : e₃.statusChanges = e₁.statusChanges ++ (a ++ b) := by
    rw [← hb, ← ha, List.append_assoc]
  unfold newChanges
  rw [h₃, ← ha, List.drop_left, List.drop_left, ← List.append_assoc, List.drop_left]

namespace Ledgered

variable {born : Payment → Prop}

@[refl] theorem refl (e : Engine) : Ledgered born e e where
  outlets := rfl
  changes := fun _ => List.prefix_refl _
  messages := fun _ => by simp [newChanges_self]
  payments := fun _ _ p hp => ⟨p, hp, by simpa [newChanges_self] using Payment.Follows.refl p⟩
  births := fun _ _ hx => .inl ⟨hx, by simp [newChanges_self]⟩

theorem trans {e₁ e₂ e₃ : Engine} (h₁ : Ledgered born e₁ e₂) (h₂ : Ledgered born e₂ e₃) :
    Ledgered born e₁ e₃ where
  outlets := h₂.outlets.trans h₁.outlets
  changes := fun hf => (h₁.changes hf).trans (h₂.changes (h₁.outlets ▸ hf))
  messages := fun hf => by
    have hf₂ : e₂.outlets.Faithful := h₁.outlets ▸ hf
    rw [newChanges_trans (h₁.changes hf) (h₂.changes hf₂), h₂.messages hf₂, h₁.messages hf]
    simp
  payments := fun hf x p hp => by
    have hf₂ : e₂.outlets.Faithful := h₁.outlets ▸ hf
    obtain ⟨p₂, hp₂, hf₁₂⟩ := h₁.payments hf x p hp
    obtain ⟨p₃, hp₃, hf₂₃⟩ := h₂.payments hf₂ x p₂ hp₂
    refine ⟨p₃, hp₃, ?_⟩
    rw [newChanges_trans (h₁.changes hf) (h₂.changes hf₂), changesOf_append]
    exact hf₁₂.trans hf₂₃
  births := fun hf x hx => by
    have hf₂ : e₂.outlets.Faithful := h₁.outlets ▸ hf
    rw [newChanges_trans (h₁.changes hf) (h₂.changes hf₂), changesOf_append]
    rcases h₁.births hf x hx with ⟨hx₂, hnil⟩ | ⟨b, p₂, hb, hid, hp₂, hfb⟩
    · rw [hnil, List.nil_append]
      exact h₂.births hf₂ x hx₂
    · obtain ⟨p₃, hp₃, hf₂₃⟩ := h₂.payments hf₂ x p₂ hp₂
      exact .inr ⟨b, p₃, hb, hid, hp₃, hfb.trans hf₂₃⟩

theorem of_same {e e' : Engine} (ho : e'.outlets = e.outlets)
    (hp : e'.store.payments = e.store.payments) (hc : e'.statusChanges = e.statusChanges)
    (hm : e'.recorded.messages = e.recorded.messages) : Ledgered born e e' := by
  have hpay : ∀ x, e'.store.payment? x = e.store.payment? x := fun x => by
    simp [Store.payment?, hp]
  have hnew : e.newChanges e' = [] := newChanges_eq_nil hc
  exact
    { outlets := ho
      changes := fun _ => hc ▸ List.prefix_refl _
      messages := fun _ => by simp [hnew, hm]
      payments := fun _ x p h => ⟨p, (hpay x).trans h, by simpa [hnew] using Payment.Follows.refl p⟩
      births := fun _ x h => .inl ⟨(hpay x).trans h, by simp [hnew]⟩ }

theorem of_routine {e e' : Engine} (h : Routine e e') : Ledgered born e e' :=
  of_same h.outlets h.payments h.statusChanges h.messages

instance : Std.Refl (Ledgered born) := ⟨refl⟩
instance : IsTrans Engine (Ledgered born) := ⟨fun _ _ _ => trans⟩

/-! ### The steps that touch payments -/

theorem createPayment {e : Engine} {d : PaymentDraft} {p : Payment} {s : Store}
    (hborn : ∀ b : Payment, b.Opened → born b) (h : e.store.createPayment d e.now = (p, s)) :
    Ledgered born e { e with store := s } := by
  have hps : ∀ x, s.payment? x = (e.store.payment? x).or (if p.id = x then some p else none) := by
    rw [Store.createPayment_eq] at h
    cases h
    exact Store.payment?_append e.store _
  have hopen : p.Opened := by
    rw [Store.createPayment_eq] at h
    cases h
    exact ⟨rfl, rfl⟩
  have hnew : e.newChanges { e with store := s } = [] := newChanges_eq_nil rfl
  refine { outlets := rfl, changes := fun _ => List.prefix_refl _,
           messages := fun _ => by simp [hnew], payments := ?_, births := ?_ }
  · intro _ x q hq
    refine ⟨q, ?_, by simpa [hnew] using Payment.Follows.refl q⟩
    rw [hps x, hq]
    rfl
  · intro _ x hx
    simp only [hnew, changesOf_nil]
    by_cases hid : p.id = x
    · exact .inr ⟨p, p, hborn p hopen, hid, by simp [hps x, hx, hid], Payment.Follows.refl p⟩
    · exact .inl ⟨by simp [hps x, hx, hid], trivial⟩

theorem insertPayment {e : Engine} {p : Payment} (hborn : born p)
    (hfree : e.store.payment? p.id = none) :
    Ledgered born e { e with store := e.store.insertPayment p } := by
  have hnew : e.newChanges { e with store := e.store.insertPayment p } = [] := newChanges_eq_nil rfl
  refine { outlets := rfl, changes := fun _ => List.prefix_refl _,
           messages := fun _ => by simp [hnew], payments := ?_, births := ?_ }
  · intro _ x q hq
    have hx : p.id ≠ x := fun hid => by rw [hid, hq] at hfree; cases hfree
    exact ⟨q, by simp [hx, hq], by simpa [hnew] using Payment.Follows.refl q⟩
  · intro _ x hx
    simp only [hnew, changesOf_nil]
    by_cases hid : p.id = x
    · exact .inr ⟨p, p, hborn, hid, by simp [hid], Payment.Follows.refl p⟩
    · exact .inl ⟨by simp [hid, hx], trivial⟩

theorem afterStatusWrite {e : Engine} {id : Ident} {u : Ledger.StatusRequest} {p p' : Payment}
    {s' : Store} (hp : e.store.payment? id = some p) (hne : p.status ≠ u.status)
    (hnf : ¬(p.status.isPaidLike = true ∧ u.status = .fail))
    (hs : e.store.savePaymentStatus id (u.writeOn p e.now) e.now = .ok (p', s')) :
    Ledgered born e (e.afterStatusWrite id p.status u s') := by
  obtain ⟨q, hq, heq⟩ := (Store.savePaymentStatus_eq_ok e.store).mp hs
  rw [hp] at hq
  cases hq
  obtain ⟨hp', hs'⟩ := Prod.mk.inj heq
  -- the written payment, and how the store reads it back
  have hpay : ∀ x, s'.payment? x = if id = x then some p' else e.store.payment? x := by
    rw [hs', hp']
    exact Store.payment?_modifyFirst e.store hp _ rfl
  have hfollows : p.Follows [(p.status, u.status)] p' := by
    rw [hp']
    refine ⟨.cons hne hnf (.nil _), fun hset => ?_, fun _ hpaid => ?_⟩
    · cases hpa : p.paidAt <;> simp_all [Payment.write]
    · simp only [Payment.write, Ledger.StatusRequest.writeOn] at hpaid ⊢
      cases hpa : p.paidAt <;> simp_all
  refine { outlets := by simp, changes := fun hf => ?_, messages := fun hf => ?_,
           payments := fun hf => ?_, births := fun hf => ?_ }
  all_goals
    -- under faithful outlets the write is heard and posted
    have hheard : e.heard = true := by
      simp [Engine.heard, hf.1, hf.2.1]
    have hchanges : (e.afterStatusWrite id p.status u s').statusChanges =
        e.statusChanges ++ [(id, p.status, u.status, u.notify)] := by
      simp [Engine.statusChanges, afterStatusWrite_events, hheard, BillingEvent.statusChange?]
    have hnew : e.newChanges (e.afterStatusWrite id p.status u s') =
        [(id, p.status, u.status, u.notify)] := by
      simp [newChanges, hchanges]
  · rw [hchanges]
    exact List.prefix_append _ _
  · rw [afterStatusWrite_messages, hnew]
    simp [hf.1, hf.2.2, StatusMessage.ofChange]
  · intro x q hq
    rw [hnew, changesOf_singleton]
    by_cases hx : id = x
    · subst hx
      rw [hp] at hq
      cases hq
      exact ⟨p', by simp [hpay], by simpa using hfollows⟩
    · exact ⟨q, by simp [hpay, hx, hq], by simpa [hx] using Payment.Follows.refl q⟩
  · intro x hx
    have hne' : id ≠ x := fun h => by rw [h, hx] at hp; cases hp
    rw [hnew, changesOf_singleton]
    exact .inl ⟨by simp [hpay, hne', hx], by simp [hne']⟩

theorem afterUpdate {e : Engine} {id : Ident} {old : ChargeState} {c v : Charge} {s' : Store}
    {t : Instant} (hs : e.store.saveCharge c t = .ok (v, s')) :
    Ledgered born e (e.afterUpdate id old v s') := by
  have h₁ : Ledgered born e { e with store := s' } :=
    of_same rfl (Store.payments_of_saveCharge e.store hs) rfl rfl
  unfold Engine.afterUpdate
  split
  · exact h₁.trans (of_routine (Routine.announce _ _ _ _ _))
  · exact h₁

open Svc

theorem keepsAt_update (id : Ident) (change : Charge → Svc Charge) (e : Engine)
    (hch : Attempts.Change change) : KeepsAt (Ledgered born) (Attempts.update id change) e :=
  (Attempts.update_routine hch id e).mono fun _ _ => of_routine

theorem keepsAt_releaseClaim (id : Ident) (e : Engine) :
    KeepsAt (Ledgered born) (Attempts.releaseClaim id) e := by
  intro r e' h
  rcases Attempts.releaseClaim_cases h with rfl | ⟨c, v, s', -, hs, -, rfl⟩
  · exact refl _
  · exact afterUpdate hs

theorem keepsAt_updateStatus (id : Ident) (u : Ledger.StatusRequest) (e : Engine) :
    KeepsAt (Ledgered born) (Ledger.updateStatus id u) e := by
  intro r e' h
  rcases Ledger.updateStatus_cases h with ⟨rfl, -, -⟩ | ⟨c, rfl, -⟩ |
    ⟨p, p', s', hp, hne, hnf, hs, -, rfl⟩
  · exact refl _
  · exact of_routine (Routine.tally e c)
  · exact afterStatusWrite hp hne hnf hs

theorem appendAudit (e : Engine) (a : AuditEntry) :
    Ledgered born e { e with store := e.store.appendAudit a } :=
  of_same rfl rfl rfl rfl

variable (hborn : ∀ b : Payment, b.Opened → born b)
include hborn

theorem keepsAt_run (ids : Option (List Ident)) (e : Engine) :
    KeepsAt (Ledgered born) (Run.run ids) e := by
  have htally : ∀ e k, Ledgered born e (e.tally k) := fun e k => of_routine (Routine.tally e k)
  have hcreate : ∀ e d p s, e.store.createPayment d e.now = (p, s) →
      Ledgered born e { e with store := s } := fun _ _ _ _ h => createPayment hborn h
  refine Run.keepsAt_run (fun c e => Run.keepsAt_process (fun e => ?_)
    (Run.keepsAt_prepare (.of_update keepsAt_update) appendAudit hcreate)
    (fun c e => keepsAt_releaseClaim c.id e) (fun e g p c => of_same rfl rfl rfl rfl)
    (Run.keepsAt_applyReply (.of_update keepsAt_update) keepsAt_updateStatus htally) appendAudit
    htally e) htally ids e
  exact (Attempts.claim_routine _ e).mono fun _ _ => of_routine

end Ledgered

/-- Operations under which a payment is seeded only where no payment has its identifier. -/
def SeedsFresh (e : Engine) (op : Op) : Prop :=
  ∀ p, op = .seedPayment p → e.store.payment? p.id = none

namespace Ledgered

open Svc

variable {born : Payment → Prop}

theorem step (hborn : ∀ b : Payment, b.Opened → born b) {e e' : Engine} {op : Op}
    (hseed : ∀ p, op = .seedPayment p → born p) (hA : SeedsFresh e op) (h : op.Step e e') :
    Ledgered born e e' := by
  obtain ⟨r, hx⟩ := h
  have htally : ∀ e k, Ledgered born e (e.tally k) := fun e k => of_routine (Routine.tally e k)
  cases op with
  | issueIdent =>
    cases hx
    exact of_same rfl rfl rfl rfl
  | setClock t =>
    cases hx
    exact of_same rfl rfl rfl rfl
  | setGateway g =>
    cases hx
    exact of_same rfl rfl rfl rfl
  | seedPayment p =>
    cases hx
    exact insertPayment (hseed p rfl) (hA p rfl)
  | createPayment d =>
    cases hx
    exact createPayment hborn (p := (e.store.createPayment d e.now).1) rfl
  | putCharge c =>
    cases hx
    exact of_same rfl rfl rfl rfl
  | registry op => exact of_routine (RegistryOp.keepsAt_act op e r e' hx)
  | releaseClaim id => exact keepsAt_drop (keepsAt_releaseClaim id e) r e' hx
  | updateStatus id u => exact keepsAt_drop (keepsAt_updateStatus id u e) r e' hx
  | run ids => exact keepsAt_drop (keepsAt_run hborn ids e) r e' hx
  | resolvePending id succeeded resp =>
    exact keepsAt_drop (Run.keepsAt_resolvePending (.of_update keepsAt_update) appendAudit
      keepsAt_updateStatus htally id succeeded resp e) r e' hx
  | refreshExpiry g =>
    exact keepsAt_drop ((Expiry.refresh_routine g e).mono fun _ _ => of_routine) r e' hx

end Ledgered

end Engine

open Engine in
/-- Over every run of operations that seeds a payment only under a free identifier, from an engine
whose sink records every event and whose queue takes every message: the changes of status
announced before are kept and new ones appended, one message each, in order; every payment that
existed follows its new changes; and every payment born in the run was seeded in it or opened by
the store, and follows its changes since. -/
theorem payment_histories_lawful {e e' : Engine} {ops : List Op} (hrun : Reach SeedsFresh e ops e')
    (hout : e.outlets.Faithful) :
    e.statusChanges <+: e'.statusChanges ∧
      e'.recorded.messages = e.recorded.messages ++ (e.newChanges e').map StatusMessage.ofChange ∧
      (∀ x p, e.store.payment? x = some p →
        ∃ p', e'.store.payment? x = some p' ∧ p.Follows (changesOf x (e.newChanges e')) p') ∧
      (∀ x, e.store.payment? x = none →
        (e'.store.payment? x = none ∧ changesOf x (e.newChanges e') = []) ∨
          ∃ b p', (Op.seedPayment b ∈ ops ∨ b.Opened) ∧ b.id = x ∧ e'.store.payment? x = some p' ∧
            b.Follows (changesOf x (e.newChanges e')) p') := by
  have h : Ledgered (fun b => Op.seedPayment b ∈ ops ∨ b.Opened) e e' :=
    hrun.keeps fun _ _ _ hmem hA hs =>
      Ledgered.step (fun _ hb => .inr hb) (fun _ hp => .inl (hp ▸ hmem)) hA hs
  exact ⟨h.changes hout, h.messages hout, h.payments hout, h.births hout⟩

open Engine in
/-- A payment seeded open, then paid, refused a failure, and refunded: the law over that run, with
the two changes it announces. -/
theorem payment_histories_lawful_over_a_refund :
    let q : Payment :=
      { id := ⟨1⟩, user := ⟨2⟩, gateway := "test", status := .form, amount := ⟨1999, 2, false⟩,
        paidAt := none, subscription := none, catalogItem := none, address := none,
        isRecurrent := false, parent := none, note := none, errorMessage := none,
        created := Instant.epoch, updated := Instant.epoch }
    let e₀ : Engine := { now := Instant.epoch }
    let ops : List Op :=
      [.seedPayment q, .updateStatus q.id { status := .paid, notify := true },
        .updateStatus q.id { status := .fail, notify := true },
        .updateStatus q.id { status := .refund, notify := true }]
    ∃ e₁, Reach SeedsFresh e₀ ops e₁ ∧ e₀.outlets.Faithful ∧
      changesOf q.id (e₀.newChanges e₁) = [(.form, .paid), (.paid, .refund)] ∧
      e₀.statusChanges <+: e₁.statusChanges ∧
      e₁.recorded.messages = e₀.recorded.messages ++ (e₀.newChanges e₁).map StatusMessage.ofChange ∧
      (∀ x p, e₀.store.payment? x = some p →
        ∃ p', e₁.store.payment? x = some p' ∧ p.Follows (changesOf x (e₀.newChanges e₁)) p') ∧
      (∀ x, e₀.store.payment? x = none →
        (e₁.store.payment? x = none ∧ changesOf x (e₀.newChanges e₁) = []) ∨
          ∃ b p', (Op.seedPayment b ∈ ops ∨ b.Opened) ∧ b.id = x ∧
            e₁.store.payment? x = some p' ∧ b.Follows (changesOf x (e₀.newChanges e₁)) p') := by
  intro q e₀ ops
  -- the kernel runs the operations once; the rest is read off the engine they leave
  have hchanges : (Op.runAll e₀ ops).map (fun e₁ => changesOf q.id (e₀.newChanges e₁)) =
      some [(.form, .paid), (.paid, .refund)] := by
    decide +kernel
  cases hrun : Op.runAll e₀ ops with
  | none =>
    rw [hrun] at hchanges
    cases hchanges
  | some e₁ =>
    rw [hrun] at hchanges
    -- the seed is the first operation, into an engine with no payment
    have hseed : e₀.store.payment? q.id = none := rfl
    have hseeded : (Op.seedPayment q).act.exec e₀ =
        .ok (.ok (), { e₀ with store := e₀.store.insertPayment q }) := rfl
    have hrest : Op.runAll { e₀ with store := e₀.store.insertPayment q } ops.tail = some e₁ := by
      rw [← Reach.runAll_cons_of hseeded]
      exact hrun
    have hreach : Reach SeedsFresh e₀ ops e₁ :=
      .cons (fun p hp => by cases hp; exact hseed) ⟨.ok (), rfl⟩
        (Reach.of_runAll (fun _ op hop => by
          simp only [List.mem_cons, List.not_mem_nil, or_false] at hop
          rcases hop with rfl | rfl | rfl <;> exact fun _ h => by cases h) hrest)
    have hout : e₀.outlets.Faithful := ⟨rfl, rfl, rfl⟩
    exact ⟨e₁, hreach, hout, Option.some.inj hchanges, payment_histories_lawful hreach hout⟩

end Rebill
