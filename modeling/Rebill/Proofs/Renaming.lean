import Rebill.Proofs.Footprint

/-!
# Processing commutes with renaming the payment it opens

The only identifier that processing an attempt makes up is the one of the payment it opens: the
store's next serial. Run in another order, a run opens its payments under other serials. This
module shows that nothing else depends on which identifier that is: the plan of an attempt whose
view a renaming leaves alone, given the renamed identifier for the payment it opens, is the plan
given the identifier, with its writes renamed.

`Plan.Renamed σ f p q` says that `q` runs as `p` with the payments its writes name renamed by `σ`
and its value moved by `f`; billing errors and overflows are the same. It is built up through binds
and handlers as the plans are, and each plan of a run has its lemma. The plans that only move
attempts and payments commute with the renaming of all they are given. The plans that fail with a
text naming a payment (a missing parent, a missing payment) commute with it only when that payment
is left alone, which the view's being left alone provides.

Main statement: `Plan.process_rename`. It asks of the gateways the view reads that they answer a
renamed payment as they answer the payment, which every gateway that answers by the amount and
the token alone does.
-/

namespace Rebill

/-- The preparation's outcome with the payment it hands over renamed. -/
def Run.Prepared.rename (σ : Equiv.Perm Ident) : Run.Prepared → Run.Prepared
  | .done o => .done o
  | .call q g => .call (q.rename σ) g

/-- A view that a renaming leaves alone: the attempt it reads, the parent of the payment it would
open, and the payment it is linked to. -/
structure View.FixedBy (σ : Equiv.Perm Ident) (v : View) : Prop where
  charge : ∀ c ∈ v.charge, c.rename σ = c
  draft : ∀ d ∈ v.draft, d.parent.map σ = d.parent
  linked : ∀ q ∈ v.linked, q.rename σ = q

section Data

variable (σ : Equiv.Perm Ident)

/-! Renaming commutes with what the plans do to attempts and payments. -/

theorem Charge.rename_savedOver (r c : Charge) (t : Instant) :
    (r.savedOver c t).rename σ = (r.rename σ).savedOver (c.rename σ) t := rfl

theorem Charge.rename_moveTo (c : Charge) (t : ChargeState) {u : ChargeUpdate}
    (hu : u.payment = none) : (c.moveTo t u).rename σ = (c.rename σ).moveTo t u := by
  unfold Charge.moveTo
  rw [hu]
  split <;> rfl

@[simp] theorem Charge.rename_state (c : Charge) : (c.rename σ).state = c.state := rfl
@[simp] theorem Charge.rename_status (c : Charge) : (c.rename σ).status = c.status := rfl
@[simp] theorem Charge.rename_retries (c : Charge) : (c.rename σ).retries = c.retries := rfl
@[simp] theorem Charge.rename_payment (c : Charge) : (c.rename σ).payment = c.payment.map σ := rfl

theorem Charge.rename_eq_self {c : Charge} :
    c.rename σ = c ↔ σ c.parent = c.parent ∧ c.payment.map σ = c.payment := by
  constructor
  · intro h
    exact ⟨congrArg Charge.parent h, congrArg Charge.payment h⟩
  · rintro ⟨hparent, hpay⟩
    rw [Charge.rename, hparent, hpay]

theorem Payment.rename_ofDraft (k : Ident) {d : PaymentDraft} (hd : d.parent.map σ = d.parent)
    (t : Instant) : (Payment.ofDraft k d t).rename σ = Payment.ofDraft (σ k) d t := by
  simp only [Payment.rename, Payment.ofDraft, hd]

theorem Option.getD_map_perm (x : Option Ident) (pid : Ident) :
    (x.map σ).getD (σ pid) = σ (x.getD pid) := by
  cases x <;> rfl

end Data

namespace Plan

variable {α β γ δ : Type} {σ : Equiv.Perm Ident}

/-- The plan `q` runs as `p` with the payments its writes name renamed by `σ` and its value moved
by `f`. -/
def Renamed (σ : Equiv.Perm Ident) (f : α → β) (p : Plan α) (q : Plan β) : Prop :=
  q.run = p.run.map fun rw => (rw.1.map f, rw.2.map (Write.rename σ))

theorem found_run_ok {x : Option α} {err : BillingError} {a : α} {ws : List Write}
    (h : (found x err).run = .ok (.ok a, ws)) : x = some a := by
  cases x with
  | none => cases h
  | some a' =>
    cases h
    rfl

namespace Renamed

variable {f : α → β} {p : Plan α} {q : Plan β}

theorem pure (a : α) : Renamed σ f (Pure.pure a : Plan α) (Pure.pure (f a)) := rfl

theorem pure_of_eq {g : α → α} {a : α} (h : g a = a) :
    Renamed σ g (Pure.pure a : Plan α) (Pure.pure a) := by
  have hp := pure (σ := σ) (f := g) a
  rwa [h] at hp

theorem write (w : Write) : Renamed σ id (Plan.write w) (Plan.write (w.rename σ)) := rfl

theorem fail (err : BillingError) : Renamed σ f (Plan.fail err : Plan α) (Plan.fail err) := rfl

theorem found (x : Option α) (err : BillingError) :
    Renamed σ id (Plan.found x err) (Plan.found x err) := by
  cases x <;> rfl

theorem found_map (x : Option α) (err : BillingError) :
    Renamed σ f (Plan.found x err) (Plan.found (x.map f) err) := by
  cases x <;> rfl

theorem lift (r : Except Overflow (Except BillingError α)) :
    Renamed σ f (Plan.lift r) (Plan.lift (r.map (Except.map f))) := by
  rcases r with o | err | a <;> rfl

theorem bind {g : γ → δ} {k₁ : α → Plan γ} {k₂ : β → Plan δ} (hp : Renamed σ f p q)
    (hk : ∀ a ws, p.run = .ok (.ok a, ws) → Renamed σ g (k₁ a) (k₂ (f a))) :
    Renamed σ g (p >>= k₁) (q >>= k₂) := by
  unfold Renamed at hp ⊢
  rw [run_bind, run_bind, hp]
  rcases hpr : p.run with o | ⟨err | a, ws⟩
  · rfl
  · rfl
  · simp only [Except.map]
    rw [hk a ws hpr]
    rcases (k₁ a).run with o | ⟨r, ws'⟩
    · rfl
    · simp [Except.map, List.map_append]

theorem recover {h₁ : BillingError → Plan α} {h₂ : BillingError → Plan β} (hp : Renamed σ f p q)
    (hh : ∀ err ws, p.run = .ok (.error err, ws) → Renamed σ f (h₁ err) (h₂ err)) :
    Renamed σ f (p.recover h₁) (q.recover h₂) := by
  unfold Renamed at hp ⊢
  rw [run_recover, run_recover, hp]
  rcases hpr : p.run with o | ⟨err | a, ws⟩
  · rfl
  · simp only [Except.map]
    rw [hh err ws hpr]
    rcases (h₁ err).run with o | ⟨r, ws'⟩
    · rfl
    · simp [Except.map, List.map_append]
  · rfl

theorem ite {c c' : Prop} [Decidable c] [Decidable c'] (hc : c ↔ c') {p₁ p₂ : Plan α}
    {q₁ q₂ : Plan β} (h₁ : c → Renamed σ f p₁ q₁) (h₂ : ¬c → Renamed σ f p₂ q₂) :
    Renamed σ f (if c then p₁ else p₂) (if c' then q₁ else q₂) := by
  by_cases h : c
  · rw [if_pos h, if_pos (hc.mp h)]
    exact h₁ h
  · rw [if_neg h, if_neg (mt hc.mpr h)]
    exact h₂ h

theorem of_within {E : BillingError → Prop} {O : Overflow → Prop}
    (h : Within (fun w => w.rename σ = w) E O p) : Renamed σ id p p := by
  unfold Renamed
  rcases hp : p.run with o | ⟨r, ws⟩
  · rfl
  · have hws : ws.map (Write.rename σ) = ws := by
      rw [List.map_congr_left (h.writes r ws hp), List.map_id']
    simp only [Except.map, hws]
    cases r <;> rfl

end Renamed

/-! ## The plans that move attempts and payments -/

variable {now : Instant}

theorem update_rename (cur : Charge) (r : Except Overflow (Except BillingError Charge)) :
    Renamed σ (Charge.rename σ) (update cur r now)
      (update (cur.rename σ) (r.map (Except.map (Charge.rename σ))) now) := by
  unfold update updateLocked save
  refine .bind (f := Prod.map id (Charge.rename σ)) (.bind (.lift r) fun c _ _ =>
    .bind (f := Charge.rename σ) (.bind (.write _) fun _ _ _ => .pure _) fun _ _ _ => .pure _)
    fun ⟨old, c⟩ _ _ => ?_
  dsimp only [Prod.map]
  exact .ite Iff.rfl (fun _ => .bind (.write _) fun _ _ _ => .pure _) fun _ => .pure _

theorem moveChange_rename (c : Charge) (t : ChargeState) (actor : Actor) {u : ChargeUpdate}
    (hu : u.payment = none) :
    moveChange (c.rename σ) t actor u = (moveChange c t actor u).map (Except.map (Charge.rename σ)) := by
  unfold moveChange
  rw [Charge.rename_state]
  split
  · rw [← Charge.rename_moveTo σ c t hu]
    rfl
  · rfl

theorem transition_rename (cur : Charge) (t : ChargeState) (actor : Actor) {u : ChargeUpdate}
    (hu : u.payment = none) :
    Renamed σ (Charge.rename σ) (transition cur t actor u now) (transition (cur.rename σ) t actor u now) := by
  unfold transition
  rw [moveChange_rename cur t actor hu]
  exact update_rename cur _

theorem release_rename (cur : Charge) :
    Renamed σ (Charge.rename σ) (release cur now) (release (cur.rename σ) now) := by
  unfold release
  have h : (if cur.state == .active && cur.status == some inFlight then { cur with status := none }
      else cur).rename σ = if (cur.rename σ).state == .active && (cur.rename σ).status == some inFlight
      then { cur.rename σ with status := none } else cur.rename σ := by
    rw [apply_ite (Charge.rename σ)]
    exact if_congr Iff.rfl rfl rfl
  rw [← h]
  exact update_rename cur _

theorem link_rename (cur : Charge) (pid : Ident) :
    Renamed σ σ (link cur pid now) (link (cur.rename σ) (σ pid) now) := by
  unfold link
  have h : (if cur.payment.isNone then { cur with payment := some pid } else cur).rename σ =
      if (cur.rename σ).payment.isNone then { cur.rename σ with payment := some (σ pid) }
      else cur.rename σ := by
    rw [Charge.rename_payment, Option.isNone_map]
    split <;> rfl
  rw [← h]
  refine .bind (update_rename cur _) fun c _ _ => ?_
  rw [Charge.rename_payment, Option.getD_map_perm]
  exact .pure _

theorem rearmChange_rename (c : Charge) (delay : Span) :
    rearmChange (c.rename σ) delay now = (rearmChange c delay now).map (Except.map (Charge.rename σ)) := by
  unfold rearmChange
  rw [apply_ite (Except.map (Except.map (Charge.rename σ))),
    apply_ite (Except.map (Except.map (Charge.rename σ)))]
  refine if_congr Iff.rfl rfl (if_congr Iff.rfl rfl ?_)
  rcases shiftBy now delay with o | due <;> rfl

theorem rearm_rename (cur : Charge) (delay : Span) :
    Renamed σ (Charge.rename σ) (rearm cur delay now) (rearm (cur.rename σ) delay now) := by
  unfold rearm
  rw [rearmChange_rename]
  exact update_rename cur _

theorem ledger_rename (q : Payment) (u : Ledger.StatusRequest) :
    Renamed σ id (ledger q u now) (ledger (q.rename σ) u now) := by
  unfold ledger applyLocked
  refine .bind (f := id) ?_ fun x _ _ => ?_
  · exact .ite Iff.rfl (fun _ => .bind (.write _) fun _ _ _ => .pure _) fun _ =>
      .ite Iff.rfl (fun _ => .bind (.write _) fun _ _ _ => .pure _) fun _ =>
        .bind (.write _) fun _ _ _ => .bind (.write _) fun _ _ _ => .pure _
  · rcases x with _ | ⟨old, new⟩
    · exact .pure _
    · exact .bind (.write _) fun _ _ _ => .bind (.write _) fun _ _ _ => .pure _

theorem call_rename {g : Gateway} {q : Payment} {c : Charge}
    (hg : (g.charge (q.rename σ) c.token).1 = (g.charge q c.token).1) :
    Renamed σ id (call g q c) (call g (q.rename σ) (c.rename σ)) := by
  unfold call
  refine .bind (.write _) fun _ _ _ => ?_
  rw [Charge.rename_token, hg]
  exact .pure _

theorem reply_rename (delay : Span) (cur : Charge) (q : Payment) (g : Gateway) (answer : ChargeReply) :
    Renamed σ id (reply delay now cur q g answer) (reply delay now (cur.rename σ) (q.rename σ) g answer) := by
  rcases answer with r | r | ⟨_ | _ | _, r⟩
  · exact .bind (ledger_rename _ _) fun _ _ _ => .bind (transition_rename _ _ _ rfl) fun _ _ _ => .pure _
  · exact .bind (transition_rename _ _ _ rfl) fun _ _ _ => .pure _
  · exact .bind (ledger_rename _ _) fun _ _ _ => .bind (transition_rename _ _ _ rfl) fun moved _ _ =>
      .bind (rearm_rename moved delay) fun _ _ _ => .pure _
  · exact .bind (ledger_rename _ _) fun _ _ _ => .bind (transition_rename _ _ _ rfl) fun _ _ _ => .pure _
  · exact .bind (.write _) fun _ _ _ => .bind (transition_rename _ _ _ rfl) fun _ _ _ => .pure _

theorem stopFast_rename (cur : Charge) :
    Renamed σ (Run.Prepared.rename σ) (stopFast cur now) (stopFast (cur.rename σ) now) :=
  .bind (transition_rename _ _ _ rfl) fun _ _ _ => .pure _

theorem completeAlreadyPaid_rename (cur c : Charge) (q : Payment) :
    Renamed σ id (completeAlreadyPaid cur c q now) (completeAlreadyPaid (cur.rename σ) c (q.rename σ) now) :=
  .bind (transition_rename _ _ _ rfl) fun _ _ _ => .write _

/-! ## The plans whose errors name a payment -/

theorem create_rename (k : Ident) {d : PaymentDraft} (hd : d.parent.map σ = d.parent) :
    Renamed σ (Payment.rename σ) (create k d now) (create (σ k) d now) := by
  unfold create
  rw [← Payment.rename_ofDraft σ k hd now]
  exact .bind (.write _) fun _ _ _ => .pure _

theorem openPayment_rename {draft : Option PaymentDraft} {c : Charge} (k : Ident)
    (hd : ∀ d ∈ draft, d.parent.map σ = d.parent) (hc : c.rename σ = c) :
    Renamed σ σ (openPayment draft c k now) (openPayment draft c (σ k) now) := by
  unfold openPayment
  refine .bind (.found draft _) fun d _ hdraft => .bind (create_rename k (hd d (found_run_ok hdraft)))
    fun q _ _ => ?_
  have hlink : Renamed σ σ (link c q.id now) (link (c.rename σ) (σ q.id) now) := link_rename c q.id
  rwa [hc] at hlink

theorem paymentFor_rename {draft : Option PaymentDraft} {c : Charge} (k : Ident)
    (hd : ∀ d ∈ draft, d.parent.map σ = d.parent) (hc : c.rename σ = c) :
    Renamed σ σ (paymentFor draft c k now) (paymentFor draft c (σ k) now) := by
  unfold paymentFor
  rcases hpay : c.payment with _ | pid
  · exact openPayment_rename k hd hc
  · -- the attempt's own payment is left alone with the attempt
    have hpid : σ pid = pid := by
      have h := congrArg Charge.payment hc
      rw [Charge.rename_payment, hpay] at h
      exact Option.some.inj h
    exact .pure_of_eq hpid

theorem completeOrCall_rename (gw : String → Option Gateway) (c cur : Charge) (pid : Ident)
    {found? : Option Payment} (hnone : found? = none → σ pid = pid) :
    Renamed σ (Run.Prepared.rename σ) (completeOrCall gw c cur pid found? now)
      (completeOrCall gw c (cur.rename σ) (σ pid) (found?.map (Payment.rename σ)) now) := by
  unfold completeOrCall
  rcases found? with _ | q
  · rw [hnone rfl]
    exact .fail _
  simp only [Option.map_some, found_some, pure_bind]
  exact .ite Iff.rfl (fun _ => .bind (completeAlreadyPaid_rename cur c q) fun _ _ _ => .pure _)
    fun _ => .bind (.found _ _) fun _ _ _ => .pure _

end Plan

/-! ## The view's part -/

namespace View

variable {σ : Equiv.Perm Ident} {v : View} {c : Charge} {k : Ident}

theorem staged_rename (hc : c.rename σ = c) : v.staged c (σ k) = (v.staged c k).rename σ := by
  have hparent : σ c.parent = c.parent := congrArg Charge.parent hc
  unfold View.staged
  split
  · simp only [Charge.rename, Charge.savedOver, hparent, Option.map_some]
  · exact hc.symm

theorem payment_rename (hv : v.FixedBy σ) : v.payment c (σ k) = (v.payment c k).map (Payment.rename σ) := by
  unfold View.payment
  split
  · rcases hd : v.draft with _ | d
    · rfl
    · simp only [Option.map_some, Payment.rename_ofDraft σ k (hv.draft d hd)]
  · rcases hq : v.linked with _ | q
    · rfl
    · rw [Option.map_some, hv.linked q hq]

end View

namespace Plan

variable {σ : Equiv.Perm Ident} {v : View} {c : Charge} {k : Ident}

theorem prepare_rename (hv : v.FixedBy σ) (hc : c.rename σ = c) :
    Renamed σ (Run.Prepared.rename σ) (prepare v c k) (prepare v c (σ k)) := by
  unfold prepare
  split
  · have hstop : Renamed σ (Run.Prepared.rename σ) (stopFast c v.now) (stopFast (c.rename σ) v.now) :=
      stopFast_rename c
    rwa [hc] at hstop
  rename_i hs
  refine .bind (paymentFor_rename k hv.draft hc) fun pid _ hpid => ?_
  rw [View.staged_rename hc, View.payment_rename hv]
  refine completeOrCall_rename _ _ _ _ fun hnone => ?_
  -- the payment is missing only when none is opened: then it is the attempt's own, left alone
  rcases paymentFor_run hpid with ⟨hpay, -⟩ | ⟨hpay, -, d, hd, -⟩
  · have h := congrArg Charge.payment hc
    rw [Charge.rename_payment, hpay] at h
    exact Option.some.inj h
  · have ho : v.opens c = true := by simp [View.opens, hs, hpay, hd]
    simp [View.payment, ho, hd] at hnone

theorem prepareOrRelease_rename (hv : v.FixedBy σ) (hc : c.rename σ = c) :
    Renamed σ (Run.Prepared.rename σ) (prepareOrRelease v k c) (prepareOrRelease v (σ k) c) := by
  unfold prepareOrRelease
  rw [View.staged_rename hc]
  exact .recover (prepare_rename hv hc) fun err _ _ =>
    .bind (.recover (release_rename _) fun _ _ _ => .pure_of_eq hc) fun _ _ _ => .fail err

theorem finish_rename (hc : c.rename σ = c) {prepared : Run.Prepared}
    (hg : ∀ q g, prepared = .call q g → (g.charge (q.rename σ) c.token).1 = (g.charge q c.token).1) :
    Renamed σ id (finish v k c prepared) (finish v (σ k) c (prepared.rename σ)) := by
  rcases prepared with o | ⟨q, g⟩
  · exact .bind (.write _) fun _ _ _ => .pure _
  have hcall := call_rename (hg q g rfl)
  rw [hc] at hcall
  refine .bind hcall fun answer _ _ => ?_
  rw [View.staged_rename hc]
  exact .bind (reply_rename _ _ _ _ answer) fun _ _ _ =>
    .bind (.write _) fun _ _ _ => .bind (.write _) fun _ _ _ => .pure _

theorem claim_rename {cur? : Option Charge} {a : Ident} {now : Instant} {lookahead : Span}
    (hcur : ∀ cur ∈ cur?, cur.rename σ = cur) :
    Renamed σ id (claim cur? a now lookahead) (claim cur? a now lookahead) := by
  refine Renamed.of_within (E := fun _ => True) (O := fun _ => True) ?_
  unfold claim
  refine .bind (.found fun _ => trivial) fun cur _ hfound =>
    .bind (.time fun _ _ => trivial) fun due _ _ => ?_
  split
  · exact .pure _
  · -- the attempt saved in flight names the payments of the one read
    have hfix : (Write.save { cur with status := some inFlight }).rename σ =
        .save { cur with status := some inFlight } :=
      congrArg Write.save ((Charge.rename_eq_self σ).mpr
        ((Charge.rename_eq_self σ (c := cur)).mp (hcur cur (found_run_ok hfound))))
    exact .map _ (.bind (.write hfix) fun _ _ _ => .pure _)

theorem process_rename (hv : v.FixedBy σ)
    (hg : ∀ x g, v.gateway x = some g → ∀ q t, (g.charge (q.rename σ) t).1 = (g.charge q t).1)
    (k : Ident) : Renamed σ id (process v k) (process v (σ k)) := by
  rw [process_eq, process_eq]
  refine .bind (claim_rename hv.charge) fun x _ hx => ?_
  rcases x with _ | c
  · exact .bind (.write _) fun _ _ _ => .pure _
  -- the claimed attempt is the one the view reads, saved in flight: the renaming leaves it alone
  have hc : c.rename σ = c := by
    obtain ⟨cur, hcur, rfl, -⟩ := claim_run_some hx
    exact (Charge.rename_eq_self σ).mpr ((Charge.rename_eq_self σ (c := cur)).mp (hv.charge cur hcur))
  refine .bind (prepareOrRelease_rename hv hc) fun prepared _ hp => finish_rename hc fun q g hq => ?_
  subst hq
  exact hg _ g (prepareOrRelease_run_call hp).2 q c.token

end Plan

end Rebill
