import Rebill.Proofs.Renaming
import Rebill.Proofs.ChargeSpacing

/-!
# Attempts that touch nothing in common

A run processes its attempts one after the other, each on the engine the ones before it left. Two
attempts are independent when processing one cannot change what the other reads or writes: they
are different attempts, they are not linked to one payment, and, when the fast-charge guard is on,
they are not charged on one stored method. This module proves what processing one attempt of a
run, `Observed.step`, does to everything else, on an engine that is `Ready`: it holds no lock,
stores no payment under a serial still to be handed out, stores each payment under its own
identifier, has a gateway of each name that answers by amount and token alone, and names only
identifiers that have been handed out (`Observed.Settled`).

* **A run keeps the engine ready** (`Observed.Ready.step`). Every write of a step stays within
  the attempt's footprint (`Plan.process_within`). Only the next serial is opened. And the writes
  name only identifiers that have been handed out, so a renaming of the others leaves the engine
  after the step alone (`Plan.process_rename`).
* **What another attempt reads does not change** (`Observed.view_step`). The view of an
  independent attempt after a step is the view before it, and independence of two attempts
  survives the step of a third.
* **The writes of independent attempts are apart** (`Observed.Ready.writes_apart`). Every write of one
  and every write of the other change nothing under a common identifier, so they commute
  (`Observed.writeAll_comm`).
* **Views and renamings** (`View.of_rename`). The view of a renamed engine is the renamed view.
  On a settled engine a renaming that leaves the handed-out identifiers alone leaves every view
  alone (`Observed.Ready.fixedBy`).
-/

namespace Rebill

/-- A gateway that a charge does not change and that answers a charge by the payment's amount and
the token alone. -/
structure Gateway.Steady (g : Gateway) : Prop where
  stays : ∀ p t, (g.charge p t).2.1 = g
  answers : ∀ p p' t, p.amount = p'.amount → (g.charge p t).1 = (g.charge p' t).1

theorem Gateway.steady_of_scripted_nil {g : Gateway} (h : g.answering = .scripted []) : g.Steady := by
  rcases g with ⟨_, _, _, _, _, _, _, _, answering⟩
  cases h
  exact ⟨fun _ _ => rfl, fun _ _ _ _ => rfl⟩

theorem Gateway.steady_of_answers {g : Gateway} {reply : Decimal → String → ChargeReply}
    (h : g.answering = .answers reply) : g.Steady := by
  rcases g with ⟨_, _, _, _, _, _, _, _, answering⟩
  cases h
  refine ⟨fun _ _ => rfl, fun p p' t hp => ?_⟩
  simp only [Gateway.charge, hp]

def PaymentDraft.rename (σ : Equiv.Perm Ident) (d : PaymentDraft) : PaymentDraft :=
  { d with parent := d.parent.map σ }

/-- The view with the attempt, the draft and the linked payment renamed. -/
def View.rename (σ : Equiv.Perm Ident) (v : View) : View :=
  { v with charge := v.charge.map (Charge.rename σ), draft := v.draft.map (PaymentDraft.rename σ),
           linked := v.linked.map (Payment.rename σ) }

namespace Observed

/-- An identifier that is not a serial still to be handed out. -/
def Issued (o : Observed) (i : Ident) : Prop := ∀ m, o.serial < m → i ≠ Ident.ofSerial m

def next (o : Observed) : Ident := Ident.ofSerial (o.serial + 1)

/-- An engine that names only identifiers handed out: a renaming that leaves those alone leaves the
engine alone. -/
def Settled (o : Observed) : Prop :=
  ∀ σ : Equiv.Perm Ident, (∀ i, o.Issued i → σ i = i) → o.rename σ = o

/-- What holds of the engine between the attempts of a run. -/
structure Ready (o : Observed) : Prop where
  held : o.held = []
  rows : (o.rows.map (·.charge.id)).Nodup
  fresh : ∀ m, o.serial < m → o.payment (Ident.ofSerial m) = none
  payments : ∀ i q, o.payment i = some q → q.id = i
  gateways : ∀ x g, o.gateway x = some g → g.id = x ∧ g.Steady
  settled : o.Settled

/-- What processing an attempt needs of the engine for its plan to be the plan of its view: no key
held, and no payment stored under a serial still to be handed out. -/
structure Clear (o : Observed) : Prop where
  held : o.held = []
  fresh : ∀ m, o.serial < m → o.payment (Ident.ofSerial m) = none

theorem Ready.clear {o : Observed} (ho : o.Ready) : o.Clear := ⟨ho.held, ho.fresh⟩

/-- Two attempts whose processing touches nothing in common: distinct, not linked to one payment,
and, when the fast-charge guard is on, not charged on one stored method. -/
structure Independent (o : Observed) (a b : Ident) : Prop where
  ne : a ≠ b
  payment : ∀ c ∈ o.attempts.charge? a, ∀ d ∈ o.attempts.charge? b, ∀ i ∈ c.payment,
    d.payment ≠ some i
  method : 0 < o.policy.fastChargeThreshold.nanos → ∀ c ∈ o.attempts.charge? a,
    ∀ d ∈ o.attempts.charge? b, c.method ≠ d.method

theorem Independent.symm {o : Observed} {a b : Ident} (h : o.Independent a b) : o.Independent b a :=
  ⟨h.ne.symm, fun d hd c hc i hi hci => h.payment c hc d hd i hci hi,
    fun hθ d hd c hc => (h.method hθ c hc d hd).symm⟩

/-! ## Identifiers handed out -/

variable {o o' : Observed}

theorem Issued.mono {i : Ident} (h : o.Issued i) (hle : o.serial ≤ o'.serial) : o'.Issued i :=
  fun m hm => h m (Nat.lt_of_le_of_lt hle hm)

theorem next_not_issued : ¬o.Issued o.next := fun h => h (o.serial + 1) (Nat.lt_succ_self _) rfl

theorem next_issued (h : o.serial + 1 ≤ o'.serial) : o'.Issued o.next :=
  fun _ hm heq => Nat.ne_of_lt (Nat.lt_of_le_of_lt h hm) (Ident.ofSerial_injective heq)

theorem swap_fixes_issued {m m' : Nat} (hm : o.serial < m) (hm' : o.serial < m') {i : Ident}
    (hi : o.Issued i) : Equiv.swap (Ident.ofSerial m) (Ident.ofSerial m') i = i :=
  Equiv.swap_apply_of_ne_of_ne (hi m hm) (hi m' hm')

theorem issued_of_fixed {i : Ident}
    (h : ∀ σ : Equiv.Perm Ident, (∀ j, o.Issued j → σ j = j) → σ i = i) : o.Issued i := by
  intro m hm hi
  subst hi
  have hσ := h (Equiv.swap (Ident.ofSerial m) (Ident.ofSerial (m + 1)))
    fun j hj => swap_fixes_issued hm (Nat.lt_succ_of_lt hm) hj
  rw [Equiv.swap_apply_left] at hσ
  exact Nat.succ_ne_self m (Ident.ofSerial_injective hσ)

/-! ## Writes on the observed engine -/

variable {w : Write} {ws : List Write}

@[simp] theorem write_held : (o.write w).held = o.held := rfl
@[simp] theorem write_policy : (o.write w).policy = o.policy := rfl
@[simp] theorem write_methods : (o.write w).methods = o.methods := rfl

@[simp] theorem writeAll_held : (o.writeAll ws).held = o.held := by
  induction ws generalizing o <;> simp_all
@[simp] theorem writeAll_now : (o.writeAll ws).now = o.now := by
  induction ws generalizing o <;> simp_all
@[simp] theorem writeAll_policy : (o.writeAll ws).policy = o.policy := by
  induction ws generalizing o <;> simp_all
@[simp] theorem writeAll_methods : (o.writeAll ws).methods = o.methods := by
  induction ws generalizing o <;> simp_all

theorem writeAll_serial : (o.writeAll ws).serial = o.serial + (ws.map Write.opened).sum := by
  induction ws generalizing o with
  | nil => rfl
  | cons w ws ih => rw [writeAll_cons, ih, write_serial, List.map_cons, List.sum_cons, Nat.add_assoc]

theorem writeAll_row_ids : (o.writeAll ws).rows.map (·.charge.id) = o.rows.map (·.charge.id) := by
  induction ws generalizing o with
  | nil => rfl
  | cons w ws ih =>
    rw [writeAll_cons, ih]
    cases w with
    | save c =>
      exact map_modifyFirst (fun r : ChargeRow => r.charge.id) c.id
        (fun r => { r with charge := r.charge.savedOver c o.now }) (fun _ h => h) o.rows
    | _ => rfl

theorem writeAll_payments (h : ∀ i q, o.payment i = some q → q.id = i) :
    ∀ i q, (o.writeAll ws).payment i = some q → q.id = i := by
  induction ws generalizing o with
  | nil => exact h
  | cons w ws ih =>
    refine ih fun i q hq => ?_
    cases w with
    | create p =>
      simp only [write, Write.onPayments] at hq
      rcases hi : o.payment i with _ | q'
      · rw [hi, Option.none_or] at hq
        split at hq
        · cases hq
          assumption
        · cases hq
      · rw [hi, Option.some_or] at hq
        cases hq
        exact h i _ hi
    | status id sw =>
      simp only [write, Write.onPayments] at hq
      split at hq
      · rename_i hid
        obtain ⟨q', hq', rfl⟩ := Option.map_eq_some_iff.mp hq
        exact (h id q' hq').trans hid
      · exact h i q hq
    | _ => exact h i q hq

theorem writeAll_fresh {n : Nat} (hn : n ≤ o.serial)
    (h : ∀ m, o.serial < m → o.payment (Ident.ofSerial m) = none)
    (hws : ∀ w ∈ ws, ∀ p, w = .create p → p.id = Ident.ofSerial (n + 1)) :
    ∀ m, (o.writeAll ws).serial < m → (o.writeAll ws).payment (Ident.ofSerial m) = none := by
  induction ws generalizing o with
  | nil => exact h
  | cons w ws ih =>
    have hw := hws w List.mem_cons_self
    refine ih (Nat.le_trans hn (Nat.le_add_right _ _)) (fun m hm => ?_)
      fun w' hw' => hws w' (List.mem_cons_of_mem _ hw')
    rw [write_serial] at hm
    cases w with
    | create p =>
      have hne : p.id ≠ Ident.ofSerial m := by
        rw [hw p rfl]
        intro heq
        have := Ident.ofSerial_injective heq
        simp only [Write.opened] at hm
        omega
      simp only [write, Write.onPayments, h m (by simp only [Write.opened] at hm; omega),
        Option.none_or, if_neg hne]
    | status id sw =>
      simp only [write, Write.onPayments]
      split
      · rename_i hid
        rw [hid, h m hm, Option.map_none]
      · exact h m hm
    | _ => exact h m (by simpa [Write.opened] using hm)

theorem writeAll_gateway (hg : ∀ x g, o.gateway x = some g → g.id = x ∧ g.Steady)
    (hws : ∀ w ∈ ws, ∀ g p c, w = .charge g p c → ∃ x, o.gateway x = some g) :
    (o.writeAll ws).gateway = o.gateway := by
  induction ws generalizing o with
  | nil => rfl
  | cons w ws ih =>
    have hw : (o.write w).gateway = o.gateway := by
      cases w with
      | charge g p c =>
        obtain ⟨x, hx⟩ := hws _ List.mem_cons_self g p c rfl
        obtain ⟨hid, hsteady⟩ := hg x g hx
        funext y
        simp only [write, Write.onGateway, hsteady.stays]
        split
        · rename_i hy
          rw [← hy, hid, hx]
        · rfl
      | _ => rfl
    rw [writeAll_cons, ih (hw ▸ hg) fun w' hw' => hw ▸ hws w' (List.mem_cons_of_mem _ hw'), hw]

end Observed

/-! ## Views of a renamed engine -/

section Rename

variable {σ : Equiv.Perm Ident}

theorem foldl_lastMaxStep_map {α : Type} (key : α → Int) {f : α → α} (hf : ∀ x, key (f x) = key x)
    (l : List α) (acc : Option α) :
    (l.map f).foldl (lastMaxStep key) (acc.map f) = (l.foldl (lastMaxStep key) acc).map f := by
  induction l generalizing acc with
  | nil => rfl
  | cons x l ih =>
    rw [List.map_cons, List.foldl_cons, List.foldl_cons, ← ih]
    congr 1
    cases acc with
    | none => rfl
    | some b =>
      simp only [Option.map_some, lastMaxStep, hf]
      split <;> rfl

theorem Store.withToken_rename (s : Store) (c : Charge) :
    s.withToken (c.rename σ) = (s.withToken c).rename σ := by
  rw [Store.withToken_eq, Store.withToken_eq]
  rfl

namespace Observed

variable (o : Observed) (x : Ident)

theorem attempts_charges_rename :
    (o.rename σ).attempts.charges = o.attempts.charges.map (Charge.rename σ) := by
  have htoken : (o.rename σ).attempts.withToken = o.attempts.withToken := Store.withToken_congr _ rfl
  unfold Store.charges
  rw [htoken]
  show (o.rows.map (ChargeRow.rename σ)).map _ = _
  rw [List.map_map, List.map_map]
  exact List.map_congr_left fun r _ => Store.withToken_rename _ r.charge

theorem attempts_charge?_rename :
    (o.rename σ).attempts.charge? x = (o.attempts.charge? x).map (Charge.rename σ) := by
  have htoken : (o.rename σ).attempts.withToken = o.attempts.withToken := Store.withToken_congr _ rfl
  unfold Store.charge? Store.row?
  rw [htoken]
  show ((o.rows.map (ChargeRow.rename σ)).find? fun r => r.charge.id == x).map _ = _
  rw [List.find?_map, Option.map_map, Option.map_map]
  exact congrArg₂ Option.map (funext fun r => Store.withToken_rename _ r.charge) rfl

theorem attempts_lastChargedForMethod_rename (m : Ident) :
    (o.rename σ).attempts.lastChargedForMethod m x =
      (o.attempts.lastChargedForMethod m x).map (Charge.rename σ) := by
  unfold Store.lastChargedForMethod
  rw [attempts_charges_rename, List.filter_map, lastMaxBy_eq_foldl, lastMaxBy_eq_foldl,
    ← foldl_lastMaxStep_map (f := Charge.rename σ) _ (fun _ => rfl) _ none]
  rfl

end Observed

/-- The view of a renamed engine is the renamed view. -/
theorem View.of_rename (o : Observed) (x : Ident) : View.of (o.rename σ) x = (View.of o x).rename σ := by
  unfold View.of View.rename
  rw [Observed.attempts_charge?_rename]
  rcases hc : o.attempts.charge? x with _ | c
  · rfl
  simp only [Option.map_some, Option.bind_some, Observed.attempts_lastChargedForMethod_rename,
    Option.map_map]
  congr 1
  · simp only [Observed.rename, Charge.rename, Equiv.symm_apply_apply, Option.map_map]
    rfl
  · simp only [Observed.rename, Charge.rename_payment]
    rcases c.payment with _ | i
    · rfl
    · simp only [Option.map_some, Option.bind_some, Equiv.symm_apply_apply]

theorem View.rename_eq_self {v : View} (h : v.FixedBy σ) : v.rename σ = v := by
  rcases v with ⟨id, now, policy, gateway, charge, previous, draft, linked⟩
  simp only [View.rename, View.mk.injEq, true_and]
  refine ⟨?_, ?_, ?_⟩
  · cases charge with
    | none => rfl
    | some c => rw [Option.map_some, h.charge c rfl]
  · cases draft with
    | none => rfl
    | some d => rw [Option.map_some, PaymentDraft.rename, h.draft d rfl]
  · cases linked with
    | none => rfl
    | some q => rw [Option.map_some, h.linked q rfl]

end Rename

namespace Observed

variable {o : Observed} {σ : Equiv.Perm Ident}

theorem Ready.fixedBy (ho : o.Ready) (hσ : ∀ i, o.Issued i → σ i = i) (x : Ident) :
    (View.of o x).FixedBy σ := by
  have hset := ho.settled σ hσ
  -- an attempt as read is stored in a row that the renaming leaves alone
  have hcharge : ∀ c ∈ o.attempts.charge? x, c.rename σ = c := by
    intro c hc
    obtain ⟨r, hr, rfl⟩ := (Store.charge?_eq_some _).mp hc
    have hrows : o.rows.map (ChargeRow.rename σ) = o.rows := congrArg Observed.rows hset
    have hmem : r ∈ o.rows := List.mem_of_find?_eq_some hr
    have hr' : r.rename σ = r := List.map_eq_map_iff.mp (hrows.trans (List.map_id _).symm) r hmem
    rw [← Store.withToken_rename, show r.charge.rename σ = r.charge from congrArg ChargeRow.charge hr']
  -- a stored payment under an identifier the renaming leaves alone is left alone
  have hpay : ∀ i q, σ i = i → o.payment i = some q → q.rename σ = q := by
    intro i q hi hq
    have hs : σ.symm i = i := by rw [Equiv.symm_apply_eq, hi]
    have h := congrFun (congrArg Observed.payment hset) i
    simp only [Observed.rename, hs, hq, Option.map_some] at h
    exact Option.some.inj h
  refine ⟨hcharge, fun d hd => ?_, fun q hq => ?_⟩
  · obtain ⟨c, hc, hd⟩ := Option.bind_eq_some_iff.mp hd
    obtain ⟨p, hp, rfl⟩ := Option.map_eq_some_iff.mp hd
    have hparent : σ c.parent = c.parent := congrArg Charge.parent (hcharge c hc)
    simp only [Run.draftFor, Option.map_some, ho.payments _ _ hp, hparent]
  · obtain ⟨c, hc, hq⟩ := Option.bind_eq_some_iff.mp hq
    obtain ⟨i, hi, hq⟩ := Option.bind_eq_some_iff.mp hq
    have hfix : σ i = i := by
      have h := congrArg Charge.payment (hcharge c hc)
      rw [Charge.rename_payment, hi, Option.map_some] at h
      exact Option.some.inj h
    exact hpay i q hfix hq

end Observed

/-! ## One attempt of a run -/

/-- The writes the loop of a run adds after an attempt: a failed attempt is counted. -/
def Run.afterAttempt : Except BillingError Run.Outcome → List Write
  | .error _ => [.tally (.error "attempt" "charge")]
  | .ok _ => []

theorem Run.afterAttempt_rename (σ : Equiv.Perm Ident) (r : Except BillingError Run.Outcome) :
    (Run.afterAttempt r).map (Write.rename σ) = Run.afterAttempt r := by
  cases r <;> rfl

theorem Run.opened_afterAttempt (r : Except BillingError Run.Outcome) :
    ((Run.afterAttempt r).map Write.opened).sum = 0 := by
  cases r <;> rfl

namespace Observed

/-- The plan of the attempt `a` on the observed engine: its view, and the next serial for the
payment it opens. -/
def plan (o : Observed) (a : Ident) : Plan Run.Outcome := Plan.process (View.of o a) o.next

/-- Processing the attempt `a` on the observed engine, as a run does: how the attempt ended, and
the engine after the writes of its plan, a failed attempt counted. -/
def step (o : Observed) (a : Ident) : Except Overflow (Except BillingError Run.Outcome × Observed) :=
  (o.plan a).run.map fun rw => (rw.1, o.writeAll (rw.2 ++ Run.afterAttempt rw.1))

variable {o o' : Observed} {a b : Ident} {r : Except BillingError Run.Outcome} {ws : List Write}
  {σ : Equiv.Perm Ident}

theorem step_eq_ok :
    o.step a = .ok (r, o') ↔ ∃ ws, (o.plan a).run = .ok (r, ws) ∧ o' = o.writeAll (ws ++ Run.afterAttempt r) := by
  unfold step
  rcases (o.plan a).run with ov | ⟨r', ws'⟩
  · simp [Except.map]
  · simp only [Except.map, Except.ok.injEq, Prod.mk.injEq]
    constructor
    · rintro ⟨rfl, rfl⟩
      exact ⟨ws', ⟨rfl, rfl⟩, rfl⟩
    · rintro ⟨ws, ⟨rfl, rfl⟩, rfl⟩
      exact ⟨rfl, rfl⟩

theorem step_eq_error {ov : Overflow} : o.step a = .error ov ↔ (o.plan a).run = .error ov := by
  unfold step
  rcases (o.plan a).run with ov' | ⟨r', ws'⟩ <;> simp [Except.map]

theorem view_charge_id (x : Ident) : ∀ cur ∈ (View.of o x).charge, cur.id = (View.of o x).id :=
  fun _ hc => Store.id_of_charge? _ hc

/-- The footprint of the attempt `a` on `o` when the payment it opens takes the identifier `k`. -/
abbrev Footprint (o : Observed) (a k : Ident) : Write → Prop :=
  Write.Confined a ((View.of o a).Pays k) o.gateway fun i => (View.of o a).opensPayment = true ∧ i = k

theorem writes_confined {k : Ident} (h : (Plan.process (View.of o a) k).run = .ok (r, ws)) :
    ∀ w ∈ ws ++ Run.afterAttempt r, o.Footprint a k w := by
  intro w hw
  rcases List.mem_append.mp hw with hw | hw
  · exact (Plan.process_within (view_charge_id a) k).writes _ _ h w hw
  · cases r with
    | error err =>
      rw [List.mem_singleton.mp hw]
      exact Write.Confined.tally _
    | ok _ => cases hw

theorem step_serial (h : (o.plan a).run = .ok (r, ws)) :
    (o.writeAll (ws ++ Run.afterAttempt r)).serial =
      o.serial + if (View.of o a).opensPayment then 1 else 0 := by
  rw [writeAll_serial, List.map_append, List.sum_append, Plan.process_opened (view_charge_id a) h,
    Run.opened_afterAttempt, Nat.add_zero]

theorem keepsReply_of_asks (hg : ∀ x g, o.gateway x = some g → g.id = x ∧ g.Steady) {w : Write}
    (hw : ∀ g p c, w = .charge g p c → ∃ x, o.gateway x = some g) : w.KeepsReply σ := by
  cases w with
  | charge g p c =>
    obtain ⟨x, hx⟩ := hw g p c rfl
    exact (hg x g hx).2.answers _ _ _ rfl
  | _ => trivial

theorem Ready.process_moved (ho : o.Ready) (hv : (View.of o a).FixedBy σ) {k k' : Ident}
    (hk : (View.of o a).opensPayment = true → σ k = k') :
    (Plan.process (View.of o a) k').run =
      (Plan.process (View.of o a) k).run.map fun rw => (rw.1, rw.2.map (Write.rename σ)) := by
  have hren := Plan.process_rename hv (fun x g hg _ t => (ho.gateways x g hg).2.answers _ _ t rfl) k
  -- under the moved identifier the plan is the same plan: it opens nothing, or it opens `k'`
  have hsame : (Plan.process (View.of o a) k').run = (Plan.process (View.of o a) (σ k)).run := by
    cases hopen : (View.of o a).opensPayment
    · exact Plan.process_of_not_opens hopen _ _
    · rw [hk hopen]
  unfold Plan.Renamed at hren
  rw [hsame, hren, Except.map_id]
  rfl

theorem Ready.writes_fixed (ho : o.Ready) (hv : (View.of o a).FixedBy σ)
    (hk : (View.of o a).opensPayment = true → σ o.next = o.next) (h : (o.plan a).run = .ok (r, ws)) :
    ws.map (Write.rename σ) = ws := by
  have hmoved := ho.process_moved hv hk
  rw [show Plan.process (View.of o a) o.next = o.plan a from rfl, h] at hmoved
  simp only [Except.map, Except.ok.injEq, Prod.mk.injEq] at hmoved
  exact hmoved.2.symm

theorem Ready.step_settled (ho : o.Ready) (h : (o.plan a).run = .ok (r, ws)) :
    (o.writeAll (ws ++ Run.afterAttempt r)).Settled := by
  intro σ hσ
  have hserial := step_serial h
  have hσ₀ : ∀ i, o.Issued i → σ i = i := fun i hi => hσ i (hi.mono (by rw [hserial]; omega))
  have hk : (View.of o a).opensPayment = true → σ o.next = o.next := fun hopen =>
    hσ _ (next_issued (by rw [hserial, if_pos hopen]))
  have hconf := writes_confined h
  rw [rename_writeAll (fun w hw => keepsReply_of_asks ho.gateways (hconf w hw).asks),
    ho.settled σ hσ₀, List.map_append, ho.writes_fixed (ho.fixedBy hσ₀ a) hk h, Run.afterAttempt_rename]

theorem Clear.step (ho : o.Clear) (h : o.step a = .ok (r, o')) : o'.Clear := by
  obtain ⟨ws, hrun, rfl⟩ := step_eq_ok.mp h
  have hconf := writes_confined hrun
  exact ⟨by rw [writeAll_held, ho.held],
    writeAll_fresh (Nat.le_refl _) ho.fresh fun w hw p hp => ((hconf w hw).creates p hp).2⟩

theorem Ready.step (ho : o.Ready) (h : o.step a = .ok (r, o')) : o'.Ready := by
  have hclear := ho.clear.step h
  obtain ⟨ws, hrun, rfl⟩ := step_eq_ok.mp h
  have hconf := writes_confined hrun
  have hgw := writeAll_gateway ho.gateways fun w hw => (hconf w hw).asks
  refine ⟨hclear.held, by rw [writeAll_row_ids]; exact ho.rows, hclear.fresh,
    writeAll_payments ho.payments, by rw [hgw]; exact ho.gateways, ho.step_settled hrun⟩

end Observed

/-! ## What another attempt reads -/

theorem filter_map_modifyFirst_of_mem {γ β : Type} (key : γ → Ident) {k : Ident} {f : γ → γ}
    {m : γ → β} {P : β → Bool} :
    ∀ l : List γ, (∀ y ∈ l, key y = k → P (m y) = false ∧ P (m (f y)) = false) →
      ((modifyFirst key k f l).map m).filter P = (l.map m).filter P
  | [], _ => rfl
  | y :: ys, h => by
    by_cases hy : key y = k
    · simp [modifyFirst, hy, (h y List.mem_cons_self hy).1, (h y List.mem_cons_self hy).2]
    · simp [modifyFirst, hy, List.filter_cons,
        filter_map_modifyFirst_of_mem key ys fun y' hy' => h y' (List.mem_cons_of_mem _ hy')]

theorem Run.draftFor_write (c : Charge) (p : Payment) (w : StatusWrite) (t : Instant) :
    Run.draftFor c (p.write w t) = Run.draftFor c p := rfl

namespace Observed

variable {o o' : Observed} {a b : Ident} {r : Except BillingError Run.Outcome} {w : Write}
  {ws : List Write}

theorem write_rows_mem {y : ChargeRow} (hy : y ∈ (o.write w).rows) :
    ∃ y₀ ∈ o.rows, y.charge.id = y₀.charge.id ∧ y.charge.method = y₀.charge.method := by
  cases w with
  | save c =>
    rcases mem_modifyFirst hy with hy | ⟨y₀, hy₀, rfl⟩
    · exact ⟨y, hy, rfl, rfl⟩
    · exact ⟨y₀, hy₀, rfl, rfl⟩
  | _ => exact ⟨y, hy, rfl, rfl⟩

theorem writeAll_charge? (hws : ∀ w ∈ ws, ∀ j ∈ w.attemptKeys, j ≠ b) :
    (o.writeAll ws).attempts.charge? b = o.attempts.charge? b := by
  induction ws generalizing o with
  | nil => rfl
  | cons w ws ih =>
    rw [writeAll_cons, ih fun w' hw' => hws w' (List.mem_cons_of_mem _ hw')]
    cases w with
    | save c =>
      have hne : c.id ≠ b := hws _ List.mem_cons_self c.id (by simp [Write.attemptKeys])
      have htoken : (o.write (.save c)).attempts.withToken = o.attempts.withToken :=
        Store.withToken_congr _ rfl
      unfold Store.charge? Store.row?
      rw [htoken]
      show ((modifyFirst (fun r : ChargeRow => r.charge.id) c.id _ o.rows).find? _).map _ = _
      rw [find?_modifyFirst (fun r : ChargeRow => r.charge.id) c.id b
        (fun r => { r with charge := r.charge.savedOver c o.now }) (fun _ h => h), if_neg hne]
      rfl
    | _ => rfl

theorem writeAll_lastChargedForMethod {m x : Ident}
    (hws : ∀ w ∈ ws, ∀ c, w = .save c → ∀ y ∈ o.rows, y.charge.id = c.id → y.charge.method ≠ m) :
    (o.writeAll ws).attempts.lastChargedForMethod m x = o.attempts.lastChargedForMethod m x := by
  induction ws generalizing o with
  | nil => rfl
  | cons w ws ih =>
    rw [writeAll_cons, ih fun w' hw' c hc y hy hid => by
      obtain ⟨y₀, hy₀, hid₀, hmethod⟩ := write_rows_mem hy
      rw [hmethod]
      exact hws w' (List.mem_cons_of_mem _ hw') c hc y₀ hy₀ (hid₀ ▸ hid)]
    cases w with
    | save c =>
      have htoken : (o.write (.save c)).attempts.withToken = o.attempts.withToken :=
        Store.withToken_congr _ rfl
      unfold Store.lastChargedForMethod Store.charges
      rw [htoken]
      congr 1
      refine filter_map_modifyFirst_of_mem _ _ fun y hy hid => ?_
      have hne := hws _ List.mem_cons_self c rfl y hy hid
      simp [Store.withToken_eq, Charge.savedOver, hne]
    | _ => rfl

theorem writeAll_payment {i : Ident} (hws : ∀ w ∈ ws, ∀ j ∈ w.paymentKeys, j ≠ i) :
    (o.writeAll ws).payment i = o.payment i := by
  induction ws generalizing o with
  | nil => rfl
  | cons w ws ih =>
    rw [writeAll_cons, ih fun w' hw' => hws w' (List.mem_cons_of_mem _ hw')]
    have hw := hws w List.mem_cons_self
    cases w with
    | create p =>
      have hne : p.id ≠ i := hw p.id (by simp [Write.paymentKeys])
      simp [write, Write.onPayments, hne]
    | status id sw =>
      have hne : id ≠ i := hw id (by simp [Write.paymentKeys])
      simp [write, Write.onPayments, hne]
    | _ => rfl

theorem writeAll_draft {i : Ident} (c : Charge) (hws : ∀ w ∈ ws, ∀ p, w = .create p → p.id ≠ i) :
    ((o.writeAll ws).payment i).map (Run.draftFor c) = (o.payment i).map (Run.draftFor c) := by
  induction ws generalizing o with
  | nil => rfl
  | cons w ws ih =>
    rw [writeAll_cons, ih fun w' hw' => hws w' (List.mem_cons_of_mem _ hw')]
    cases w with
    | create p => simp [write, Write.onPayments, hws _ List.mem_cons_self p rfl]
    | status id sw =>
      simp only [write, Write.onPayments]
      split
      · rename_i hid
        subst hid
        rw [Option.map_map]
        rfl
      · rfl
    | _ => rfl

end Observed

theorem View.of_congr {o o' : Observed} {b : Ident} (hnow : o'.now = o.now)
    (hpolicy : o'.policy = o.policy) (hgw : o'.gateway = o.gateway)
    (hc : o'.attempts.charge? b = o.attempts.charge? b)
    (hprev : 0 < o.policy.fastChargeThreshold.nanos → ∀ c ∈ o.attempts.charge? b,
      o'.attempts.lastChargedForMethod c.method c.id = o.attempts.lastChargedForMethod c.method c.id)
    (hdraft : ∀ c ∈ o.attempts.charge? b,
      (o'.payment c.parent).map (Run.draftFor c) = (o.payment c.parent).map (Run.draftFor c))
    (hlinked : ∀ c ∈ o.attempts.charge? b, ∀ i ∈ c.payment, o'.payment i = o.payment i) :
    View.of o' b = View.of o b := by
  unfold View.of
  rw [hnow, hpolicy, hgw, hc]
  rcases hcb : o.attempts.charge? b with _ | c
  · rfl
  simp only [Option.bind_some, hdraft c hcb]
  congr 1
  · split
    · rfl
    · rename_i hθ
      rw [hprev (by omega) c hcb]
  · rcases hp : c.payment with _ | i
    · rfl
    · rw [Option.bind_some, Option.bind_some, hlinked c hcb i hp]

namespace Observed

variable {o o' : Observed} {a b : Ident} {r : Except BillingError Run.Outcome} {ws : List Write}

theorem Ready.charge_issued (ho : o.Ready) {x : Ident} {c : Charge} (hc : o.attempts.charge? x = some c) :
    o.Issued c.parent ∧ ∀ i ∈ c.payment, o.Issued i := by
  have hfix : ∀ σ : Equiv.Perm Ident, (∀ j, o.Issued j → σ j = j) → c.rename σ = c :=
    fun σ hσ => (ho.fixedBy hσ x).charge c hc
  refine ⟨issued_of_fixed fun σ hσ => congrArg Charge.parent (hfix σ hσ), fun i hi =>
    issued_of_fixed fun σ hσ => ?_⟩
  have h := congrArg Charge.payment (hfix σ hσ)
  rw [Charge.rename_payment, hi, Option.map_some] at h
  exact Option.some.inj h

theorem Ready.linked_issued (ho : o.Ready) {x : Ident} {q : Payment} (hq : q ∈ (View.of o x).linked) :
    ∃ c ∈ o.attempts.charge? x, c.payment = some q.id ∧ o.Issued q.id := by
  obtain ⟨c, hc, hq⟩ := Option.bind_eq_some_iff.mp hq
  obtain ⟨i, hi, hq⟩ := Option.bind_eq_some_iff.mp hq
  rw [ho.payments i q hq]
  exact ⟨c, hc, hi, (ho.charge_issued hc).2 i hi⟩

theorem Ready.charge?_of_mem (ho : o.Ready) {y : ChargeRow} (hy : y ∈ o.rows) :
    o.attempts.charge? y.charge.id = some (o.attempts.withToken y.charge) := by
  unfold Store.charge? Store.row?
  rw [find?_of_nodup (l := o.attempts.rows) _ ho.rows hy]
  rfl

theorem Ready.view_step (ho : o.Ready) (hab : o.Independent a b) (h : o.step a = .ok (r, o')) :
    View.of o' b = View.of o b := by
  obtain ⟨ws, hrun, rfl⟩ := step_eq_ok.mp h
  have hconf := writes_confined hrun
  -- the payments the attempt `a` touches are not those `b` reads
  have hpays : ∀ d ∈ o.attempts.charge? b, ∀ i ∈ d.payment, ∀ j, (View.of o a).Pays o.next j →
      j ≠ i := by
    rintro d hd i hi j (rfl | ⟨q, hq, rfl⟩) rfl
    · exact next_not_issued ((ho.charge_issued hd).2 _ hi)
    · obtain ⟨c, hc, hcq, -⟩ := ho.linked_issued hq
      exact hab.payment c hc d hd q.id hcq hi
  refine View.of_congr writeAll_now writeAll_policy (writeAll_gateway ho.gateways fun w hw => (hconf w hw).asks)
    (writeAll_charge? fun w hw j hj => (hconf w hw).attempts j hj ▸ hab.ne) ?_ ?_ ?_
  · intro hθ d hd
    refine writeAll_lastChargedForMethod fun w hw c hc y hy hid => ?_
    have hca : c.id = a := (hconf w hw).attempts c.id (by simp [hc, Write.attemptKeys])
    have hy' := ho.charge?_of_mem hy
    rw [hid, hca] at hy'
    have hne := hab.method hθ _ hy' d hd
    rwa [Store.withToken_eq] at hne
  · intro d hd
    refine writeAll_draft d fun w hw p hp heq => ?_
    have hk := ((hconf w hw).creates p hp).2
    exact next_not_issued (hk ▸ heq ▸ (ho.charge_issued hd).1)
  · intro d hd i hi
    exact writeAll_payment fun w hw j hj => hpays d hd i hi j ((hconf w hw).payments j hj)

theorem Independent.step (h : o.Independent b b') (hb : a ≠ b) (hb' : a ≠ b')
    (hstep : o.step a = .ok (r, o')) : o'.Independent b b' := by
  obtain ⟨ws, hrun, rfl⟩ := step_eq_ok.mp hstep
  have hconf := writes_confined hrun
  have hc : ∀ x, a ≠ x → (o.writeAll (ws ++ Run.afterAttempt r)).attempts.charge? x =
      o.attempts.charge? x :=
    fun x hx => writeAll_charge? fun w hw j hj => (hconf w hw).attempts j hj ▸ hx
  refine ⟨h.ne, ?_, ?_⟩
  · rw [hc b hb, hc b' hb']
    exact h.payment
  · rw [hc b hb, hc b' hb', writeAll_policy]
    exact h.method

/-! ## The writes of independent attempts are apart -/

theorem registers_eq (hg : ∀ x g, o.gateway x = some g → g.id = x ∧ g.Steady) {w : Write}
    (hw : ∀ g p c, w = .charge g p c → ∃ x, o.gateway x = some g) {g : Gateway}
    (hr : g ∈ w.registers) : o.gateway g.id = some g := by
  cases w with
  | charge g₀ p c =>
    obtain ⟨x, hx⟩ := hw g₀ p c rfl
    obtain ⟨hid, hsteady⟩ := hg x g₀ hx
    simp only [Write.registers, hsteady.stays, Option.mem_def, Option.some.injEq] at hr
    rw [← hr, hid, hx]
  | _ => cases hr

theorem Ready.writes_apart (ho : o.Ready) (hab : o.Independent a b) {ka kb : Ident} (hk : ka ≠ kb)
    (hka : ¬o.Issued ka) (hkb : ¬o.Issued kb) {ra rb : Except BillingError Run.Outcome}
    {wsa wsb : List Write} (ha : (Plan.process (View.of o a) ka).run = .ok (ra, wsa))
    (hb : (Plan.process (View.of o b) kb).run = .ok (rb, wsb)) :
    ∀ x ∈ wsa ++ Run.afterAttempt ra, ∀ y ∈ wsb ++ Run.afterAttempt rb, x.Apart y := by
  intro x hx y hy
  have cx := writes_confined ha x hx
  have cy := writes_confined hb y hy
  refine ⟨fun i hix hiy => hab.ne ((cx.attempts i hix).symm.trans (cy.attempts i hiy)),
    fun i hix hiy => ?_, fun g hg g' hg' hid => ?_⟩
  · -- each touches its new payment and its linked one; all four are different
    rcases cx.payments i hix with h₁ | ⟨q, hq, h₁⟩ <;> rcases cy.payments i hiy with h₂ | ⟨q', hq', h₂⟩
    · exact hk (h₁.symm.trans h₂)
    · obtain ⟨-, -, -, hi⟩ := ho.linked_issued hq'
      exact hka (by rwa [← h₁, h₂])
    · obtain ⟨-, -, -, hi⟩ := ho.linked_issued hq
      exact hkb (by rwa [← h₂, h₁])
    · obtain ⟨c, hc, hcq, -⟩ := ho.linked_issued hq
      obtain ⟨d, hd, hdq, -⟩ := ho.linked_issued hq'
      exact hab.payment c hc d hd q.id hcq (by rw [hdq, ← h₂, h₁])
  · have h₁ := registers_eq ho.gateways cx.asks hg
    have h₂ := registers_eq ho.gateways cy.asks hg'
    rw [hid] at h₁
    exact Option.some.inj (h₁.symm.trans h₂)

end Observed

end Rebill
