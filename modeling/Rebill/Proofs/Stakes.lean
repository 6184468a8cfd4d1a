import Rebill.Proofs.RunSections
import Rebill.Proofs.SectionEffects

/-!
# What each worker holds

The invariants of an interleaving look at one attempt `x` and one payment `q` at a time. Seen
from them, a worker holds a `Stake`:

* whether a due list it loaded named `x`;
* the claims of `x` it made and has not yet spent, on a call of a gateway or by giving the claim
  back;
* the announcement of its change of `q` that it still owes: the event, then the message;
* how many changes of `q` it made, and whether it is a status request on `q`.

The protocol `stakes x q` lets a worker claim `x` only from a due list that names it, spend a
claim only when it holds one, ask for a change of `q` only when it owes nothing, and announce a
change of `q` only as it owes it. The stake after a section is read off the section's marks
(`Section.claimed`, `Section.gives`, `Section.lists`, `Section.applied`, the event and the
message it offers): the same functions through which `Section.Leaves` says what the section did
to the engine.

Every run and every status request keeps to this protocol from the stake it starts with
(`Party.follows`). The workers are proved one operation at a time, as their operations are
written: the moves of an attempt and the preparation of a call end with the stake they started
with (`Worker.Keeps`); a status request adds the change it made (`Stake.request`); processing an
attempt claims it, spends the claim on its call or gives it back, and ends owing nothing.
-/

namespace Rebill

/-- The announcement of a change of the payment `q` that a worker still owes. -/
inductive Owed where
  | nothing
  | event (o n : PaymentStatus) (notify : Bool)
  | message (notify : Bool)
deriving DecidableEq

/-- What a worker holds, seen from the attempt `x` and the payment `q`. -/
structure Stake where
  /-- A due list the worker loaded named `x`. -/
  listed : Bool
  /-- Claims of `x` the worker made and has not spent. -/
  unspent : Nat
  /-- The announcement of its change of `q` that the worker still owes. -/
  owed : Owed
  /-- The changes of `q` the worker made. -/
  changes : Nat
  /-- The worker is a status request on `q`. -/
  asking : Bool

namespace Stake

variable (x q : Ident)

/-- What is owed after a section, from what was owed before: a change of `q` is owed its event,
the event its message, and the message nothing. -/
def owing (w : Owed) {β : Type} (s : Section β) (r : Except BillingError β) : Owed :=
  match s.applied q r, s.event?.bind BillingEvent.statusChange?, s.message? with
  | some (o, n, b), _, _ => .event o n b
  | none, some (y, _, _, b), _ => if y = q then .message b else w
  | none, none, some m => if m.payment = q then .nothing else w
  | none, none, none => w

def allows (t : Stake) : {β : Type} → Section β → Prop
  | _, .claim y => y = x → t.listed = true
  | _, .release y => y = x → 0 < t.unspent
  | _, .call _ _ c => c.id = x → 0 < t.unspent
  | _, .apply y _ => y = q → t.owed = .nothing
  | _, .emit ev _ => ∀ o n b, ev.statusChange? = some (q, o, n, b) → t.owed = .event o n b
  | _, .publish m _ => m.payment = q → t.owed = .message m.notify
  | _, _ => True

def after (t : Stake) {β : Type} (s : Section β) (r : Except BillingError β) : Stake where
  listed := t.listed || s.lists x r
  unspent := t.unspent + (s.claimed x r).toNat - (s.gives x).toNat
  owed := owing q t.owed s r
  changes := t.changes + (s.applied q r).isSome.toNat
  asking := t.asking

end Stake

/-- The protocol of runs and status requests, seen from the attempt `x` and the payment `q`. -/
def stakes (x q : Ident) : Worker.Protocol Stake where
  allows := Stake.allows x q
  after := Stake.after x q

namespace Stake

variable {x q : Ident} {t : Stake} {β : Type} {s : Section β} {r : Except BillingError β}

/-! ## What the protocol asks of a section -/

theorem listed_of_claimed (ha : allows x q t s) (hc : s.claimed x r = true) : t.listed = true := by
  cases s with
  | claim id =>
    rcases r with _ | _ | c <;> simp [Section.claimed] at hc
    exact ha hc
  | _ => simp [Section.claimed] at hc

theorem unspent_of_gives (ha : allows x q t s) (hg : s.gives x = true) : 0 < t.unspent := by
  cases s with
  | release id => exact ha (by simpa [Section.gives] using hg)
  | call g p c => exact ha (by simpa [Section.gives] using hg)
  | _ => simp [Section.gives] at hg

theorem owed_of_applied (ha : allows x q t s) {c : PaymentStatus × PaymentStatus × Bool}
    (hap : s.applied q r = some c) : t.owed = .nothing := by
  cases s with
  | apply id u => exact ha (by simpa [Section.payment] using Section.payment_of_applied hap)
  | _ => simp [Section.applied] at hap

theorem owed_of_event (ha : allows x q t s) {o n : PaymentStatus} {b : Bool}
    (he : s.event?.bind BillingEvent.statusChange? = some (q, o, n, b)) : t.owed = .event o n b := by
  cases s with
  | emit ev op => exact ha o n b (by simpa [Section.event?] using he)
  | _ => simp [Section.event?] at he

theorem owed_of_message (ha : allows x q t s) {m : StatusMessage} (hm : s.message? = some m)
    (hq : m.payment = q) : t.owed = .message m.notify := by
  cases s with
  | publish m' op =>
    obtain rfl : m' = m := by simpa [Section.message?] using hm
    exact ha hq
  | _ => simp [Section.message?] at hm

/-! ## The stake after each kind of section -/

theorem after_eq_self (hl : s.lists x r = false) (hc : s.claimed x r = false)
    (hg : s.gives x = false) (ha : s.applied q r = none)
    (he : s.event?.bind BillingEvent.statusChange? = none) (hm : s.message? = none) :
    after x q t s r = t := by
  cases t
  simp [after, owing, hl, hc, hg, ha, he, hm]

theorem after_claim (id : Ident) (r : Except BillingError (Option Charge)) :
    after x q t (.claim id) r =
      { t with unspent := t.unspent + ((Section.claim id).claimed x r).toNat } := by
  cases t
  simp [after, owing, Section.lists, Section.gives, Section.applied, Section.event?,
    Section.message?]

theorem after_release (id : Ident) (r : Except BillingError (ChargeState × Charge)) :
    after x q t (.release id) r = { t with unspent := t.unspent - (id == x).toNat } := by
  cases t
  simp [after, owing, Section.lists, Section.claimed, Section.gives, Section.applied,
    Section.event?, Section.message?]

theorem after_call (g : Gateway) (p : Payment) (c : Charge) (r : Except BillingError ChargeReply) :
    after x q t (.call g p c) r = { t with unspent := t.unspent - (c.id == x).toNat } := by
  cases t
  simp [after, owing, Section.lists, Section.claimed, Section.gives, Section.applied,
    Section.event?, Section.message?]

theorem after_due (ids : Option (List Ident)) (l : List Charge) :
    after x q t (.due ids) (.ok l) = { t with listed := t.listed || l.any (·.id == x) } := by
  cases t
  simp [after, owing, Section.lists, Section.claimed, Section.gives, Section.applied,
    Section.event?, Section.message?]

theorem after_apply (id : Ident) (u : Ledger.StatusRequest)
    (r : Except BillingError (Option (PaymentStatus × PaymentStatus))) :
    after x q t (.apply id u) r =
      match (Section.apply id u).applied q r with
      | some (o, n, b) => { t with owed := .event o n b, changes := t.changes + 1 }
      | none => t := by
  cases t
  rcases ha : (Section.apply id u).applied q r with _ | ⟨o, n, b⟩ <;>
    simp [after, owing, ha, Section.lists, Section.claimed, Section.gives, Section.event?,
      Section.message?]

theorem after_emit_status (id : Ident) (o n : PaymentStatus) (b : Bool) (op : String)
    (r : Except BillingError Unit) :
    after x q t (.emit (.paymentStatusChanged id o n b) op) r =
      if id = q then { t with owed := .message b } else t := by
  cases t
  by_cases hid : id = q <;>
    simp [after, owing, hid, Section.lists, Section.claimed, Section.gives, Section.applied,
      Section.event?, BillingEvent.statusChange?]

theorem after_publish (m : StatusMessage) (op : String) (r : Except BillingError Unit) :
    after x q t (.publish m op) r = if m.payment = q then { t with owed := .nothing } else t := by
  cases t
  by_cases hm : m.payment = q <;>
    simp [after, owing, hm, Section.lists, Section.claimed, Section.gives, Section.applied,
      Section.event?, Section.message?]

/-! ## How operations leave a stake -/

/-- The stake after a status request on `id` that returned `r`: one change more when it
changed `q`. -/
def request (t : Stake) (q id : Ident) : Except BillingError Bool → Stake
  | .ok true => if id = q then { t with changes := t.changes + 1 } else t
  | _ => t

/-- What a status request or a move of an attempt leaves of a stake that owed nothing: the same
due lists, the same claims, nothing owed, the same role. -/
def Settled (t t' : Stake) : Prop :=
  t'.listed = t.listed ∧ t'.unspent = t.unspent ∧ t'.owed = .nothing ∧ t'.asking = t.asking

/-- What processing an attempt leaves of a stake: the same due lists, nothing owed, the same
role. -/
def Rests (t t' : Stake) : Prop := t'.listed = t.listed ∧ t'.owed = .nothing ∧ t'.asking = t.asking

/-- Where a step that may fail leaves a stake that stood at `t₁`: still at `t₁` when the step
succeeds, resting against `t` when it fails. -/
def RestsOnError (t t₁ t' : Stake) : Except BillingError β → Prop
  | .ok _ => t' = t₁
  | .error _ => t.Rests t'

theorem settled_request (ht : t.owed = .nothing) (id : Ident) (r : Except BillingError Bool) :
    t.Settled (t.request q id r) := by
  unfold request
  split
  · split <;> exact ⟨rfl, rfl, ht, rfl⟩
  · exact ⟨rfl, rfl, ht, rfl⟩

theorem Settled.rests {t₁ : Stake} (h₁ : t.Rests t₁) {t₂ : Stake} (h₂ : t₁.Settled t₂) :
    t.Rests t₂ :=
  ⟨h₂.1.trans h₁.1, h₂.2.2.1, h₂.2.2.2.trans h₁.2.2⟩

theorem Rests.trans {t₁ t₂ : Stake} (h₁ : t.Rests t₁) (h₂ : t₁.Rests t₂) : t.Rests t₂ :=
  ⟨h₂.1.trans h₁.1, h₂.2.1, h₂.2.2.trans h₁.2.2⟩

end Stake

namespace Worker

open Stake

variable {x q : Ident} {α β : Type}

/-- The worker keeps to the protocol and ends with the stake it started with. -/
def Keeps (x q : Ident) (t : Stake) (w : Worker α) : Prop :=
  Follows (stakes x q) (fun t' _ => t' = t) t w

theorem keeps_bind {t : Stake} {w : Worker α} {f : α → Worker β} (hw : Keeps x q t w)
    (hf : ∀ a, Keeps x q t (f a)) : Keeps x q t (w >>= f) :=
  Follows.bind_at hw hf fun _ => rfl

theorem keeps_lift {s : Section β} {t : Stake} (hs : (stakes x q).allows t s)
    (hr : ∀ r, (stakes x q).after t s r = t) : Keeps x q t (lift s) :=
  Follows.lift_at hs hr

theorem keeps_quiet {s : Section β} {t : Stake} (hs : (stakes x q).allows t s)
    (hl : ∀ r, s.lists x r = false) (hc : ∀ r, s.claimed x r = false) (hg : s.gives x = false)
    (ha : ∀ r, s.applied q r = none) (he : s.event?.bind BillingEvent.statusChange? = none)
    (hm : s.message? = none) : Keeps x q t (lift s) :=
  keeps_lift hs fun r => after_eq_self (hl r) (hc r) hg (ha r) he hm

theorem keeps_read {γ : Type} (m : Svc γ) (h : Svc.Reads m fun _ => True) (t : Stake) :
    Keeps x q t (lift (.read m h)) :=
  keeps_quiet trivial (fun _ => rfl) (fun _ => rfl) rfl (fun _ => rfl) rfl rfl

theorem keeps_count (k : Counter) (t : Stake) : Keeps x q t (lift (.count k)) :=
  keeps_quiet trivial (fun _ => rfl) (fun _ => rfl) rfl (fun _ => rfl) rfl rfl

theorem keeps_log (payment charge : Ident) (resp : GatewayResponse) (t : Stake) :
    Keeps x q t (lift (.log payment charge resp)) :=
  keeps_quiet trivial (fun _ => rfl) (fun _ => rfl) rfl (fun _ => rfl) rfl rfl

theorem keeps_createFor (c : Charge) (parent : Payment) (t : Stake) :
    Keeps x q t (lift (.createFor c parent)) :=
  keeps_quiet trivial (fun _ => rfl) (fun _ => rfl) rfl (fun _ => rfl) rfl rfl

/-! ## The moves of an attempt -/

theorem follows_announcing {id : Ident} {s : Section (ChargeState × Charge)} {t t₁ : Stake}
    (hs : (stakes x q).allows t s) (ha : ∀ r, (stakes x q).after t s r = t₁) :
    Follows (stakes x q) (fun t' _ => t' = t₁) t (announcing id s) := by
  unfold announcing
  refine Follows.bind_at (Follows.lift_at hs ha) (fun ⟨old, c⟩ => ?_) fun _ => rfl
  -- the announcement of a change of state is no change of a payment
  dsimp only
  split
  · exact keeps_bind (keeps_quiet (fun _ _ _ h => by simp [BillingEvent.statusChange?] at h)
      (fun _ => rfl) (fun _ => rfl) rfl (fun _ => rfl) rfl rfl) fun _ => Follows.pure rfl
  · exact Follows.pure rfl

theorem keeps_update (id : Ident) (change : Charge → Svc Charge) (h : Attempts.Change change)
    (t : Stake) : Keeps x q t (update id change h) :=
  follows_announcing trivial fun _ =>
    after_eq_self rfl rfl rfl rfl rfl rfl

theorem keeps_transition (id : Ident) (st : ChargeState) (actor : Actor) (u : ChargeUpdate)
    (t : Stake) : Keeps x q t (transition id st actor u) :=
  keeps_update id _ _ t

theorem keeps_linkPayment (id payment : Ident) (t : Stake) : Keeps x q t (linkPayment id payment) :=
  keeps_bind (keeps_update id _ _ t) fun _ => Follows.pure rfl

theorem keeps_rearmFailed (id : Ident) (t : Stake) : Keeps x q t (rearmFailed id) :=
  keeps_bind (keeps_read _ _ t) fun _ => keeps_update id _ _ t

theorem follows_releaseClaim (id : Ident) {t : Stake} (ht : id = x → 0 < t.unspent) :
    Follows (stakes x q) (fun t' _ => t' = { t with unspent := t.unspent - (id == x).toNat }) t
      (releaseClaim id) :=
  follows_announcing ht fun r => after_release id r

/-! ## A status request -/

theorem follows_updateStatus (id : Ident) (u : Ledger.StatusRequest) {t : Stake}
    (ht : t.owed = .nothing) :
    Follows (stakes x q) (fun t' r => t' = t.request q id r) t (updateStatus id u) := by
  unfold updateStatus
  refine Follows.lift_bind (fun _ => ht) (fun res _ => ?_) fun err _ => ?_
  · rcases res with _ | ⟨o, n⟩
    · refine Follows.pure ?_
      simp [stakes, after_apply, Section.applied, request]
    by_cases hid : id = q
    · subst hid
      have h₁ : (stakes x id).after t (.apply id u) (.ok (some (o, n))) =
          { t with owed := .event o n u.notify, changes := t.changes + 1 } := by
        simp [stakes, after_apply, Section.applied]
      rw [h₁]
      refine Follows.lift_bind (fun o' n' b' he => ?_) (fun _ _ => ?_) fun _ _ => ?_
      · simp only [BillingEvent.statusChange?, Option.some.injEq, Prod.mk.injEq] at he
        obtain ⟨-, rfl, rfl, rfl⟩ := he
        rfl
      · refine Follows.lift_bind (fun _ => ?_) (fun _ _ => Follows.pure ?_) fun _ hr => ?_
        · simp [stakes, after_emit_status]
        · simp [stakes, after_emit_status, after_publish, request, ht]
        · cases Section.returns_publish hr
      · cases Section.returns_emit ‹_›
    · -- a change of another payment leaves the stake
      have h₁ : (stakes x q).after t (.apply id u) (.ok (some (o, n))) = t := by
        simp [stakes, after_apply, Section.applied, hid]
      rw [h₁]
      refine Follows.lift_bind (fun o' n' b' he => ?_) (fun _ _ => ?_) fun _ _ => ?_
      · simp only [BillingEvent.statusChange?, Option.some.injEq, Prod.mk.injEq] at he
        exact absurd he.1 hid
      · refine Follows.lift_bind (fun hq => absurd hq hid) (fun _ _ => Follows.pure ?_)
          fun _ hr => ?_
        · simp [stakes, after_emit_status, after_publish, request, hid]
        · cases Section.returns_publish hr
      · cases Section.returns_emit ‹_›
  · simp [stakes, after_apply, Section.applied, request]

/-! ## Charging one attempt -/

theorem keeps_stopFast (c : Charge) (t : Stake) : Keeps x q t (stopFast c) :=
  keeps_bind (keeps_transition _ _ _ _ t) fun _ => Follows.pure rfl

theorem keeps_openPayment (c : Charge) (t : Stake) : Keeps x q t (openPayment c) :=
  keeps_bind (keeps_read _ _ t) fun _ =>
    keeps_bind (keeps_createFor _ _ t) fun _ => keeps_linkPayment _ _ t

theorem keeps_paymentFor (c : Charge) (t : Stake) : Keeps x q t (paymentFor c) := by
  unfold paymentFor
  cases c.payment with
  | some pid => exact Follows.pure rfl
  | none => exact keeps_openPayment c t

theorem keeps_completeAlreadyPaid (c : Charge) (p : Payment) (t : Stake) :
    Keeps x q t (completeAlreadyPaid c p) :=
  keeps_bind (keeps_transition _ _ _ _ t) fun _ => keeps_log _ _ _ t

theorem keeps_completeOrCall (c : Charge) (pid : Ident) (t : Stake) :
    Keeps x q t (completeOrCall c pid) := by
  unfold completeOrCall
  refine keeps_bind (keeps_read _ _ t) fun p => ?_
  split
  · exact keeps_bind (keeps_completeAlreadyPaid c p t) fun _ => Follows.pure rfl
  · exact keeps_bind (keeps_read _ _ t) fun _ => Follows.pure rfl

theorem keeps_prepare (c : Charge) (t : Stake) : Keeps x q t (prepare c) := by
  unfold prepare
  refine keeps_bind (keeps_read _ _ t) fun conflict => ?_
  split
  · exact keeps_stopFast c t
  · exact keeps_bind (keeps_paymentFor c t) fun pid => keeps_completeOrCall c pid t

theorem follows_request_then {id : Ident} {u : Ledger.StatusRequest} {t : Stake}
    (ht : t.owed = .nothing) {f : Bool → Worker (Run.Outcome × GatewayResponse)}
    (hf : ∀ t' b, Keeps x q t' (f b)) :
    Follows (stakes x q) (fun t' _ => t.Settled t') t (updateStatus id u >>= f) :=
  Follows.bind (follows_updateStatus id u ht)
    (fun t' b h => (hf t' b).mono fun _ _ ht'' => ht'' ▸ h ▸ settled_request ht id _)
    fun _ _ h => h ▸ settled_request ht id _

theorem follows_applyReply (c : Charge) (p : Payment) (g : Gateway) (reply : ChargeReply)
    {t : Stake} (ht : t.owed = .nothing) :
    Follows (stakes x q) (fun t' _ => t.Settled t') t (applyReply c p g reply) := by
  rcases reply with r | r | ⟨_ | _ | _, r⟩
  · exact follows_request_then ht fun t' _ =>
      keeps_bind (keeps_transition _ _ _ _ t') fun _ => Follows.pure rfl
  · refine (keeps_bind (keeps_transition _ _ _ _ t) fun _ => Follows.pure rfl).mono ?_
    intro t' _ h
    subst h
    exact ⟨rfl, rfl, ht, rfl⟩
  · exact follows_request_then ht fun t' _ =>
      keeps_bind (keeps_transition _ _ _ _ t') fun _ =>
        keeps_bind (keeps_rearmFailed _ t') fun _ => Follows.pure rfl
  · exact follows_request_then ht fun t' _ =>
      keeps_bind (keeps_transition _ _ _ _ t') fun _ => Follows.pure rfl
  · refine (keeps_bind (keeps_count _ t) fun _ =>
      keeps_bind (keeps_transition _ _ _ _ t) fun _ => Follows.pure rfl).mono ?_
    intro t' _ h
    subst h
    exact ⟨rfl, rfl, ht, rfl⟩

theorem follows_process (due : Charge) {t : Stake} (ht : t.owed = .nothing)
    (hl : due.id = x → t.listed = true) :
    Follows (stakes x q) (fun t' _ => t.Rests t') t (process due) := by
  unfold process
  refine Follows.lift_bind hl (fun claimed hret => ?_) fun err _ => ?_
  · rcases claimed with _ | c
    · -- not claimable: the skip is counted
      have h₀ : (stakes x q).after t (.claim due.id) (.ok none) = t := by
        simp [stakes, after_claim, Section.claimed]
      rw [h₀]
      exact Follows.bind_at (keeps_count _ t) (fun _ => Follows.pure ⟨rfl, ht, rfl⟩)
        fun _ => ⟨rfl, ht, rfl⟩
    have hid : c.id = due.id := Section.claimed_id hret
    -- the claim of `x` is held while the attempt is prepared
    have h₁ : (stakes x q).after t (.claim due.id) (.ok (some c)) =
        { t with unspent := t.unspent + (due.id == x).toNat } := by
      simp [stakes, after_claim, Section.claimed]
    rw [h₁]
    generalize ht₁ : { t with unspent := t.unspent + (due.id == x).toNat } = t₁
    have hheld : c.id = x → 0 < t₁.unspent := fun hx => by
      rw [← ht₁, hid] at *
      simp [hx]
    have hrest₁ : t.Rests t₁ := by
      subst ht₁
      exact ⟨rfl, ht, rfl⟩
    have hspent : t.Rests { t₁ with unspent := t₁.unspent - (c.id == x).toNat } :=
      ⟨hrest₁.1, hrest₁.2.1, hrest₁.2.2⟩
    refine Follows.bind (R := t.RestsOnError t₁) (Follows.tryCatch (keeps_prepare c t₁)
        (fun _ _ h => h) fun t' err h => ?_) (fun t' prepared h => ?_) fun t' err h => h
    · -- a failed preparation gives the claim back, then fails again
      subst h
      refine Follows.bind_at (Follows.tryCatch (follows_releaseClaim c.id hheld)
        (fun _ _ h => h) fun _ _ h => h ▸ Follows.pure rfl) (fun _ => Follows.throw hspent)
        fun _ => hspent
    · subst h
      rcases prepared with o | ⟨p, g⟩
      · exact Follows.bind_at (keeps_count _ t') (fun _ => Follows.pure hrest₁) fun _ => hrest₁
      · -- the call spends the claim
        refine Follows.lift_bind hheld (fun reply _ => ?_) fun _ _ => ?_
        · rw [show (stakes x q).after t' (.call g p c) (.ok reply) =
              { t' with unspent := t'.unspent - (c.id == x).toNat } from after_call g p c _]
          refine Follows.bind (follows_applyReply c p g reply hrest₁.2.1)
            (fun t₃ _ h₃ => ?_) fun t₃ err h₃ => Stake.Settled.rests hspent h₃
          exact (keeps_bind (keeps_log _ _ _ t₃) fun _ =>
            keeps_bind (keeps_count _ t₃) fun _ => Follows.pure rfl).mono
              fun _ _ h => h ▸ Stake.Settled.rests hspent h₃
        · rw [show (stakes x q).after t' (.call g p c) (.error _) =
              { t' with unspent := t'.unspent - (c.id == x).toNat } from after_call g p c _]
          exact hspent
  · simp only [stakes, after_claim, Section.claimed, Bool.toNat_false, Nat.add_zero]
    exact ⟨rfl, ht, rfl⟩

/-! ## A run -/

theorem follows_processAll (cs : List Charge) (s : Run.Summary) {t : Stake}
    (ht : t.owed = .nothing) (hl : ∀ c ∈ cs, c.id = x → t.listed = true) :
    Follows (stakes x q) (fun t' _ => t.Rests t') t (processAll cs s) := by
  induction cs generalizing s t with
  | nil => exact Follows.pure ⟨rfl, ht, rfl⟩
  | cons c rest ih =>
    have hhead := follows_process (q := q) c ht (hl c (List.mem_cons_self ..))
    refine Follows.bind (R := fun t' _ => t.Rests t')
      (Follows.tryCatch (R := fun t' _ => t.Rests t')
        (Follows.map (R := fun t' _ => t.Rests t') _ hhead (fun _ _ h => h) fun _ _ h => h)
        (fun _ _ h => h) fun _ _ h => Follows.pure h) (fun t₁ r h₁ => ?_) fun _ _ h => h
    -- the rest of the due list is processed from where this attempt left the stake
    have hrest : Follows (stakes x q) (fun t' _ => t.Rests t') t₁ (processAll rest (s.record c.id r)) :=
      (ih (s.record c.id r) h₁.2.1 fun c' hc' hx => h₁.1 ▸ hl c' (List.mem_cons_of_mem _ hc') hx).mono
        fun _ _ h => h₁.trans h
    rcases r with err | o
    · dsimp only
      split
      · exact Follows.bind_at (keeps_count _ t₁) (fun _ => Follows.throw h₁) fun _ => h₁
      · exact Follows.bind_at (keeps_count _ t₁) (fun _ => hrest) fun _ => h₁
    · exact hrest

theorem follows_run (ids : Option (List Ident)) {t : Stake} (ht : t.owed = .nothing) :
    Follows (stakes x q) (fun t' _ => t'.owed = .nothing ∧ t'.asking = t.asking) t (run ids) := by
  unfold run
  refine Follows.lift_bind trivial (fun l _ => ?_) fun err _ => ?_
  · rw [show (stakes x q).after t (.due ids) (.ok l) =
        { t with listed := t.listed || l.any (·.id == x) } from after_due ids l]
    refine (follows_processAll (q := q) (t := { t with listed := t.listed || l.any (·.id == x) })
      l {} ht fun c hc hx => ?_).mono fun _ _ h => ⟨h.2.1, h.2.2⟩
    simp only [Bool.or_eq_true, List.any_eq_true, beq_iff_eq]
    exact .inr ⟨c, hc, hx⟩
  · exact ⟨ht, rfl⟩

end Worker

/-! ## Parties -/

/-- A party of the billing core: a run over some attempts, or a status request on a payment. -/
inductive Party where
  | run (ids : Option (List Ident))
  | request (id : Ident) (u : Ledger.StatusRequest)

namespace Party

/-- The party as a worker: a run returns its summary, a request whether it changed the payment. -/
def worker : Party → Worker (Run.Summary ⊕ Bool)
  | .run ids => Sum.inl <$> Worker.run ids
  | .request id u => Sum.inr <$> Worker.updateStatus id u

def asks (q : Ident) : Party → Bool
  | .request id _ => id == q
  | .run _ => false

def stake (q : Ident) (pa : Party) : Stake := ⟨false, 0, .nothing, 0, pa.asks q⟩

/-- How a party ends: owing nothing, and, when it is a status request on `q`, having returned
`true` exactly when it changed `q`. -/
def Ends (t : Stake) (r : Except BillingError (Run.Summary ⊕ Bool)) : Prop :=
  t.owed = .nothing ∧ (t.asking = true → (r = .ok (.inr true) ↔ 0 < t.changes))

theorem follows {x q : Ident} (pa : Party) :
    Worker.Follows (stakes x q) Ends (pa.stake q) pa.worker := by
  cases pa with
  | run ids =>
    -- a run is no status request
    exact Worker.Follows.map _ (Worker.follows_run ids rfl)
      (fun t' _ h => ⟨h.1, fun hq => absurd (h.2.trans rfl ▸ hq) (by simp [stake, asks])⟩)
      fun t' _ h => ⟨h.1, fun hq => absurd (h.2.trans rfl ▸ hq) (by simp [stake, asks])⟩
  | request id u =>
    have hset := Stake.settled_request (q := q) (t := stake q (.request id u)) rfl id
    refine Worker.Follows.map _ (Worker.follows_updateStatus id u rfl) (fun t' b h => ?_)
      fun t' err h => ?_
    · subst h
      refine ⟨(hset _).2.2.1, fun hq => ?_⟩
      have hask : (stake q (.request id u)).asking = true := (hset _).2.2.2 ▸ hq
      obtain rfl : id = q := by simpa [stake, asks] using hask
      cases b <;> simp [Stake.request, stake]
    · subst h
      refine ⟨(hset _).2.2.1, fun _ => ?_⟩
      simp [Stake.request, stake]

end Party

end Rebill
