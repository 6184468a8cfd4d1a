import Rebill.Proofs.Lineage

/-!
# Charged attempts on one stored method stay apart

Before a run charges an attempt, the fast-charge guard reads the latest charged attempt on the
same stored method and stops the attempt when the two are due less than the threshold apart. This
module proves what the guard buys over whole runs of operations: charged attempts on one method
stay at least the threshold apart (`Engine.Apart`).

Three operations charge an attempt past the guard, and the law does not survive them: the direct
write of an attempt, a pending charge that its callback resolves as charged, and a move to
`charged` asked of the registry. The guard also measures with `since`, which parts ways with the
order of instants inside a leap second, so the law needs every attempt, and the clock, outside
leap seconds whenever an operation starts.

The argument has two halves. Every other step is `ChargesOnly S` for every `S`: an attempt
charged after it was charged before it, on the same method and due at the same instant. A run
processes its attempts one at a time, and processing one charges at most that one, on the method
and at the due instant the guard read, and only when the guard let it through. Outside leap
seconds that means no charged attempt on the method is due within the threshold of it.
-/

namespace Rebill

namespace Instant

theorem carrySecond_snd {s f : Int} (hlo : -(nanosPerSecond : Int) < f)
    (hhi : f < 2 * (nanosPerSecond : Int)) :
    0 ≤ (carrySecond s f).2 ∧ (carrySecond s f).2 < nanosPerSecond := by
  simp only [carrySecond]
  split
  · exact ⟨by omega, by omega⟩
  · split
    · exact ⟨by omega, by omega⟩
    · exact ⟨by omega, by omega⟩

theorem isLeap_shift? {t r : Instant} {d : Span} (ht : t.isLeap = false)
    (h : t.shift? d = some r) : r.isLeap = false := by
  have hfrac : (t.nano : Int) < nanosPerSecond := by
    have : t.nano < nanosPerSecond := by simpa [isLeap] using ht
    exact_mod_cast this
  -- outside a leap second the move starts at the instant itself
  have hstart : t.shiftStart (d.nanos.tdiv nanosPerSecond) (d.nanos.tmod nanosPerSecond) =
      some (t.second, (t.nano : Int)) := by
    simp [shiftStart, hfrac]
  have hlo := Int.lt_tmod_of_pos d.nanos (b := (nanosPerSecond : Int)) (by decide)
  have hhi := Int.tmod_lt_of_pos d.nanos (b := (nanosPerSecond : Int)) (by decide)
  unfold shift? at h
  rw [hstart, shiftFrom, Option.ite_none_right_eq_some] at h
  rw [← Option.some.inj h.2, isLeap, decide_eq_false_iff_not]
  dsimp only
  have hcarry := carrySecond_snd (s := t.second + d.nanos.tdiv nanosPerSecond)
    (f := (t.nano : Int) + d.nanos.tmod nanosPerSecond) (by omega) (by omega)
  omega

theorem isLeap_shiftBy {t r : Instant} {d : Span} (ht : t.isLeap = false)
    (h : shiftBy t d = .ok r) : r.isLeap = false := by
  cases hr : t.shift? d with
  | none =>
    rw [shiftBy, hr] at h
    cases h
  | some r' =>
    rw [shiftBy, hr] at h
    cases h
    exact isLeap_shift? ht hr

end Instant

theorem mem_modifyFirst {α : Type} {key : α → Ident} {k : Ident} {f : α → α} :
    ∀ {l : List α} {b : α}, b ∈ modifyFirst key k f l → b ∈ l ∨ ∃ a ∈ l, b = f a
  | [], b, h => by
    unfold modifyFirst at h
    cases h
  | y :: ys, b, h => by
    unfold modifyFirst at h
    by_cases hy : key y = k
    · rw [if_pos hy] at h
      rcases List.mem_cons.mp h with rfl | hb
      · exact .inr ⟨y, List.mem_cons_self, rfl⟩
      · exact .inl (List.mem_cons_of_mem _ hb)
    · rw [if_neg hy] at h
      rcases List.mem_cons.mp h with rfl | hb
      · exact .inl List.mem_cons_self
      · rcases mem_modifyFirst hb with hb | ⟨a, ha, rfl⟩
        · exact .inl (List.mem_cons_of_mem _ hb)
        · exact .inr ⟨a, List.mem_cons_of_mem _ ha, rfl⟩

/-! ## Steps that charge only what they are allowed to -/

/-- Which new charges a step may make: an attempt, by identifier, on a stored method, due at an
instant. -/
abbrev Allowance := Ident → Ident → Instant → Prop

namespace Charge

/-- A change of an attempt that charges it only as `S` allows: the changed attempt is charged
only if the attempt was charged already, due at the same instant, or if `S` allows the attempt on
its method at its new due instant. -/
def ChargesOnly (S : Allowance) (c c' : Charge) : Prop :=
  c'.id = c.id ∧
    (c'.state = .charged → (c.state = .charged ∧ c'.chargeAt = c.chargeAt) ∨ S c.id c.method c'.chargeAt)

variable {S : Allowance} {c c' : Charge}

theorem chargesOnly_of_state (hid : c'.id = c.id) (hs : c'.state = c.state)
    (ht : c'.chargeAt = c.chargeAt) : c.ChargesOnly S c' :=
  ⟨hid, fun h => .inl ⟨hs ▸ h, ht⟩⟩

theorem chargesOnly_of_ne (hid : c'.id = c.id) (hs : c'.state ≠ .charged) : c.ChargesOnly S c' :=
  ⟨hid, fun h => absurd h hs⟩

end Charge

namespace Store

variable (s : Store)

/-- Every attempt charged in `s'` is one charged in `s`, on the same method and due at the same
instant, or one that `S` allows. -/
def ChargesOnly (S : Allowance) (s' : Store) : Prop :=
  ∀ r' ∈ s'.rows, r'.charge.state = .charged →
    (∃ r ∈ s.rows, r.charge.state = .charged ∧ r.charge.id = r'.charge.id ∧
      r.charge.method = r'.charge.method ∧ r.charge.chargeAt = r'.charge.chargeAt) ∨
    S r'.charge.id r'.charge.method r'.charge.chargeAt

namespace ChargesOnly

variable {s} {S : Allowance}

theorem refl : s.ChargesOnly S s := fun r hr hc => .inl ⟨r, hr, hc, rfl, rfl, rfl⟩

theorem trans {s₂ s₃ : Store} (h₁ : s.ChargesOnly S s₂) (h₂ : s₂.ChargesOnly S s₃) :
    s.ChargesOnly S s₃ := by
  intro r₃ hr₃ hc₃
  rcases h₂ r₃ hr₃ hc₃ with ⟨r₂, hr₂, hc₂, hid₂, hm₂, ht₂⟩ | hS
  · rcases h₁ r₂ hr₂ hc₂ with ⟨r₁, hr₁, hc₁, hid₁, hm₁, ht₁⟩ | hS
    · exact .inl ⟨r₁, hr₁, hc₁, hid₁.trans hid₂, hm₁.trans hm₂, ht₁.trans ht₂⟩
    · rw [← hid₂, ← hm₂, ← ht₂]
      exact .inr hS
  · exact .inr hS

theorem mono {S' : Allowance} {s' : Store} (h : s.ChargesOnly S s')
    (hSS : ∀ x m t, S x m t → S' x m t) : s.ChargesOnly S' s' := by
  intro r' hr' hc'
  rcases h r' hr' hc' with hold | hS
  · exact .inl hold
  · exact .inr (hSS _ _ _ hS)

theorem of_rows {s' : Store} (hr : s'.rows = s.rows) : s.ChargesOnly S s' := by
  intro r' hr' hc'
  exact .inl ⟨r', hr ▸ hr', hc', rfl, rfl, rfl⟩

end ChargesOnly

theorem chargesOnly_saveCharge {S : Allowance} {c c' v : Charge} {t : Instant} {s' : Store}
    (hc : s.charge? c'.id = some c) (hch : c.ChargesOnly S c')
    (h : s.saveCharge c' t = .ok (v, s')) : s.ChargesOnly S s' := by
  obtain ⟨row, hrow, heq⟩ := (saveCharge_eq_ok s).mp h
  cases heq
  obtain ⟨row₀, hrow₀, rfl⟩ := (charge?_eq_some s).mp hc
  have hsame : row₀ = row := Option.some.inj (hrow₀.symm.trans hrow)
  subst hsame
  intro r' hr' hcharged
  rcases mem_modifyFirst hr' with hr' | ⟨a, -, rfl⟩
  · exact .inl ⟨r', hr', hcharged, rfl, rfl, rfl⟩
  -- the row written: the stored attempt with the change's state and due instant
  have hmem : row₀ ∈ s.rows := List.mem_of_find?_eq_some hrow₀
  simp only [Charge.savedOver] at hcharged ⊢
  rcases hch.2 hcharged with ⟨hold, hat⟩ | hS
  · refine .inl ⟨row₀, hmem, by simpa [withToken_eq] using hold, rfl, rfl, ?_⟩
    simpa [withToken_eq] using hat.symm
  · refine .inr ?_
    simpa [withToken_eq] using hS

theorem chargesOnly_createCharge {S : Allowance} {d : ChargeDraft} {t : Instant} {c : Charge}
    {s' : Store} (h : s.createCharge d t = .ok (c, s')) : s.ChargesOnly S s' := by
  obtain ⟨m, -, -, heq⟩ := (createCharge_eq_ok s).mp h
  cases heq
  intro r' hr' hcharged
  rcases List.mem_append.mp hr' with hr' | hr'
  · exact .inl ⟨r', hr', hcharged, rfl, rfl, rfl⟩
  · rw [List.mem_singleton.mp hr'] at hcharged
    cases hcharged

/-! ### The attempts as read -/

theorem mem_charges {d : Charge} : d ∈ s.charges ↔ ∃ r ∈ s.rows, d = s.withToken r.charge := by
  simp only [charges, List.mem_map]
  exact exists_congr fun _ => and_congr_right fun _ => eq_comm

@[simp] theorem withToken_method (c : Charge) : (s.withToken c).method = c.method := by
  rw [withToken_eq]

@[simp] theorem withToken_chargeAt (c : Charge) : (s.withToken c).chargeAt = c.chargeAt := by
  rw [withToken_eq]

theorem mem_charges_of_charge? {id : Ident} {c : Charge} (h : s.charge? id = some c) :
    c ∈ s.charges := by
  obtain ⟨r, hr, rfl⟩ := (charge?_eq_some s).mp h
  exact (mem_charges s).mpr ⟨r, List.mem_of_find?_eq_some hr, rfl⟩

/-- `ChargesOnly` read through the attempts as the store hands them out. -/
theorem ChargesOnly.charged {S : Allowance} {s' : Store} (h : s.ChargesOnly S s') {d' : Charge}
    (hd' : d' ∈ s'.charges) (hc : d'.state = .charged) :
    (∃ d ∈ s.charges, d.state = .charged ∧ d.id = d'.id ∧ d.method = d'.method ∧
      d.chargeAt = d'.chargeAt) ∨ S d'.id d'.method d'.chargeAt := by
  obtain ⟨r', hr', rfl⟩ := (mem_charges s').mp hd'
  simp only [withToken_state, withToken_id, withToken_method, withToken_chargeAt] at hc ⊢
  rcases h r' hr' hc with ⟨r, hr, hrc, hid, hm, ht⟩ | hS
  · refine .inl ⟨s.withToken r.charge, (mem_charges s).mpr ⟨r, hr, rfl⟩, ?_⟩
    simpa using ⟨hrc, hid, hm, ht⟩
  · exact .inr hS

end Store

namespace Engine

/-- A step that keeps the policy and charges only as `S` allows. -/
structure ChargesOnly (S : Allowance) (e e' : Engine) : Prop where
  policy : e'.policy = e.policy
  store : e.store.ChargesOnly S e'.store

namespace ChargesOnly

variable {S : Allowance}

theorem refl (e : Engine) : ChargesOnly S e e := ⟨rfl, .refl⟩

theorem trans {e₁ e₂ e₃ : Engine} (h₁ : ChargesOnly S e₁ e₂) (h₂ : ChargesOnly S e₂ e₃) :
    ChargesOnly S e₁ e₃ :=
  ⟨h₂.policy.trans h₁.policy, h₁.store.trans h₂.store⟩

instance : Std.Refl (ChargesOnly S) := ⟨refl⟩
instance : IsTrans Engine (ChargesOnly S) := ⟨fun _ _ _ => trans⟩

theorem mono {S' : Allowance} {e e' : Engine} (h : ChargesOnly S e e')
    (hSS : ∀ x m t, S x m t → S' x m t) : ChargesOnly S' e e' :=
  ⟨h.policy, h.store.mono hSS⟩

/-! ### The steps that write no attempt -/

theorem of_rows {e e' : Engine} (hp : e'.policy = e.policy) (hr : e'.store.rows = e.store.rows) :
    ChargesOnly S e e' :=
  ⟨hp, .of_rows hr⟩

theorem tally (e : Engine) (k : Counter) : ChargesOnly S e (e.tally k) := ⟨rfl, .refl⟩

theorem appendAudit (e : Engine) (x : AuditEntry) :
    ChargesOnly S e { e with store := e.store.appendAudit x } :=
  of_rows rfl rfl

theorem afterCharge (e : Engine) (g : Gateway) (p : Payment) (c : Charge) :
    ChargesOnly S e (e.afterCharge g p c) :=
  ⟨rfl, .refl⟩

theorem createPayment {e : Engine} {d : PaymentDraft} {t : Instant} {p : Payment} {s : Store}
    (h : e.store.createPayment d t = (p, s)) : ChargesOnly S e { e with store := s } := by
  have hs : s = (e.store.createPayment d t).2 := by rw [h]
  subst hs
  rw [Store.createPayment_eq]
  exact of_rows rfl rfl

theorem setMethodExpiry {e : Engine} {id : Ident} {d : Date} {s : Store}
    (h : e.store.setMethodExpiry id d = .ok s) : ChargesOnly S e { e with store := s } := by
  unfold Store.setMethodExpiry at h
  split at h <;> cases h
  exact of_rows rfl rfl

theorem findOrCreateMethod (e : Engine) (user : Ident) (gateway token : String) (t : Instant) :
    ChargesOnly S e { e with store := (e.store.findOrCreateMethod user gateway token t).2 } := by
  unfold Store.findOrCreateMethod
  split
  · exact refl e
  · exact of_rows rfl rfl

theorem afterStatusWrite {e : Engine} {id : Ident} {old : PaymentStatus}
    {u : Ledger.StatusRequest} {p' : Payment} {s' : Store} {w : StatusWrite} {t : Instant}
    (hs : e.store.savePaymentStatus id w t = .ok (p', s')) :
    ChargesOnly S e (e.afterStatusWrite id old u s') := by
  obtain ⟨q, -, heq⟩ := (Store.savePaymentStatus_eq_ok e.store).mp hs
  cases heq
  exact of_rows (by simp) (by simp)

open Svc

theorem keepsAt_updateStatus (id : Ident) (u : Ledger.StatusRequest) (e : Engine) :
    KeepsAt (ChargesOnly S) (Ledger.updateStatus id u) e := by
  intro r e' h
  rcases Ledger.updateStatus_cases h with ⟨rfl, -, -⟩ | ⟨c, rfl, -⟩ |
    ⟨p, p', s', -, -, -, hs, -, rfl⟩
  · exact refl _
  · exact tally e c
  · exact afterStatusWrite hs

theorem keepsAt_withLock {α : Type} {key : String} {body : Svc α} {e : Engine}
    (h : KeepsAt (ChargesOnly S) body { e with held := key :: e.held }) :
    KeepsAt (ChargesOnly S) (withLock key body) e :=
  keepsAt_withLock_of (fun _ h => ⟨h.policy, h.store⟩) h

/-! ### Writing attempts -/

theorem keepsAt_stored_saveCharge {e : Engine} {c c' : Charge} {t : Instant}
    (hc : e.store.charge? c'.id = some c) (hch : c.ChargesOnly S c') :
    KeepsAt (ChargesOnly S) (stored (e.store.saveCharge c' t)) e :=
  keepsAt_stored_of e fun _ _ h => ⟨rfl, e.store.chargesOnly_saveCharge hc hch h⟩

theorem keepsAt_stored_createCharge {e : Engine} {d : ChargeDraft} {t : Instant} :
    KeepsAt (ChargesOnly S) (stored (e.store.createCharge d t)) e :=
  keepsAt_stored_of e fun _ _ h => ⟨rfl, e.store.chargesOnly_createCharge h⟩

theorem keepsAt_update {change : Charge → Svc Charge}
    (hch : ∀ c, Reads (change c) (c.ChargesOnly S)) (id : Ident) (e : Engine) :
    KeepsAt (ChargesOnly S) (Attempts.update id change) e := by
  intro r e' h
  rcases Attempts.update_cases hch h with rfl | ⟨c, c', v, s', hc, hch', hs, -, rfl⟩
  · exact refl _
  · have hc' : e.store.charge? c'.id = some c := by
      rw [hch'.1, Store.id_of_charge? e.store hc, hc]
    exact ⟨by simp, by simpa using e.store.chargesOnly_saveCharge hc' hch' hs⟩

end ChargesOnly

end Engine

/-! ## The registry charges nothing but by a move to `charged` -/

namespace Attempts

open Svc Engine

variable {S : Allowance}

theorem chargesOnly_claim (id : Ident) (e : Engine) : KeepsAt (ChargesOnly S) (claim id) e := by
  intro r e' h
  rcases claim_cases h with ⟨rfl, -⟩ | ⟨c, v, s', hc, hactive, -, hs, -, rfl⟩
  · exact .refl _
  · have hc' : e.store.charge? ({ c with status := some inFlight } : Charge).id = some c := by
      show e.store.charge? c.id = some c
      rw [Store.id_of_charge? e.store hc, hc]
    have hne : ({ c with status := some inFlight } : Charge).state ≠ .charged := by
      show c.state ≠ .charged
      rw [hactive]
      decide
    exact ⟨rfl, e.store.chargesOnly_saveCharge hc' (Charge.chargesOnly_of_ne rfl hne) hs⟩

theorem chargesOnly_releaseClaim (id : Ident) (e : Engine) :
    KeepsAt (ChargesOnly S) (releaseClaim id) e :=
  ChargesOnly.keepsAt_update (fun c => reads_pure (by
    split <;> exact Charge.chargesOnly_of_state rfl rfl rfl)) id e

theorem chargesOnly_transition {t : ChargeState} (ht : t ≠ .charged) (id : Ident) (actor : Actor)
    (u : ChargeUpdate) (e : Engine) : KeepsAt (ChargesOnly S) (transition id t actor u) e :=
  ChargesOnly.keepsAt_update (fun c => reads_ite
    (fun _ => reads_pure (Charge.chargesOnly_of_ne (by simp) (by simpa using ht)))
    fun _ => reads_throw _) id e

theorem chargesOnly_linkPayment (id p : Ident) (e : Engine) :
    KeepsAt (ChargesOnly S) (linkPayment id p) e :=
  keepsAt_bind (ChargesOnly.keepsAt_update (fun c => reads_pure (by
    split <;> exact Charge.chargesOnly_of_state rfl rfl rfl)) id e) fun _ _ _ => keepsAt_pure _

theorem chargesOnly_rearmFailed (id : Ident) (e : Engine) :
    KeepsAt (ChargesOnly S) (rearmFailed id) e := by
  refine keepsAt_bind_read (exec_policy e) (ChargesOnly.keepsAt_update (fun c => ?_) id e)
  refine reads_ite (fun _ => reads_throw_bind _) fun _ =>
    reads_ite (fun _ => reads_pure (Charge.chargesOnly_of_state rfl rfl rfl)) fun _ => ?_
  exact reads_bind reads_now fun _ _ => reads_bind (reads_time _) fun _ _ =>
    reads_pure (Charge.chargesOnly_of_ne rfl (by simp))

theorem chargesOnly_registerMethod (user : Ident) (gateway token : String) (e : Engine) :
    KeepsAt (ChargesOnly S) (registerMethod user gateway token) e := by
  unfold registerMethod
  refine keepsAt_bind_read (exec_store e) (keepsAt_bind_read (exec_now e) ?_)
  exact keepsAt_bind (keepsAt_of_exec (exec_setStore _ _) (ChargesOnly.findOrCreateMethod _ _ _ _ _))
    fun _ _ _ => keepsAt_pure _

theorem chargesOnly_updateMethodExpiry (method : Ident) (d : Date) (e : Engine) :
    KeepsAt (ChargesOnly S) (updateMethodExpiry method d) e := by
  unfold updateMethodExpiry
  refine keepsAt_bind_read (exec_store e) ?_
  split
  · exact keepsAt_of_exec (exec_setStore _ _) (ChargesOnly.setMethodExpiry ‹_›)
  · exact keepsAt_throw _

theorem chargesOnly_stopByUser (id : Ident) (e : Engine) :
    KeepsAt (ChargesOnly S) (stopByUser id) e := by
  unfold stopByUser
  refine keepsAt_bind (reads_get id).keepsAt fun c e₁ _ => ?_
  refine keepsAt_bind (reads_canBeStoppedByUser c).keepsAt fun b e₂ _ => ?_
  exact keepsAt_ite_throw (chargesOnly_transition (by decide) _ _ _ e₂)

theorem chargesOnly_stopByAdmin (id : Ident) (reason : String) (e : Engine) :
    KeepsAt (ChargesOnly S) (stopByAdmin id reason) e := by
  unfold stopByAdmin
  refine keepsAt_bind (reads_get id).keepsAt fun c e₁ _ => ?_
  refine keepsAt_bind (reads_canBeStopped c).keepsAt fun b e₂ _ => ?_
  exact keepsAt_ite_throw (chargesOnly_transition (by decide) _ _ _ e₂)

theorem chargesOnly_reactivateByUser (id : Ident) (e : Engine) :
    KeepsAt (ChargesOnly S) (reactivateByUser id) e := by
  unfold reactivateByUser
  refine keepsAt_bind (reads_get id).keepsAt fun c e₁ _ => ?_
  refine keepsAt_bind (reads_canBeStoppedByUser c).keepsAt fun b e₂ _ => ?_
  refine keepsAt_ite_throw (ChargesOnly.keepsAt_update (fun c => ?_) id e₂)
  refine (reactivateByUser_change c).mono ?_
  rintro _ ⟨-, rfl⟩
  exact Charge.chargesOnly_of_ne rfl (by simp)

theorem chargesOnly_createAttemptFrom (d : ChargeDraft) (e : Engine) :
    KeepsAt (ChargesOnly S) (createAttemptFrom d) e := by
  refine ChargesOnly.keepsAt_withLock ?_
  unfold insertUnlessExists
  refine keepsAt_bind_read (exec_store _) ?_
  split
  · exact keepsAt_pure _
  · exact keepsAt_bind_read (exec_store _) (keepsAt_bind_read (exec_now _)
      ChargesOnly.keepsAt_stored_createCharge)

theorem chargesOnly_createAttempt (method parent : Ident) (chargeAt : Instant)
    (customAmount : Option Decimal) (retries : Option Int) (e : Engine) :
    KeepsAt (ChargesOnly S) (createAttempt method parent chargeAt customAmount retries) e :=
  keepsAt_bind_read (exec_policy e) (chargesOnly_createAttemptFrom _ e)

theorem chargesOnly_scheduleNext (charged : Charge) (sub : Option Subscription) (terms : Terms)
    (e : Engine) : KeepsAt (ChargesOnly S) (scheduleNext charged sub terms) e := by
  unfold scheduleNext
  simp only
  refine keepsAt_ite_throw ?_
  split
  · refine keepsAt_bind (reads_payment _).keepsAt fun p e₁ _ => ?_
    refine keepsAt_bind_read (exec_policy e₁) (keepsAt_bind_read (exec_now e₁) ?_)
    split
    · exact keepsAt_bind_read (exec_pure _ _) (chargesOnly_createAttemptFrom _ _)
    · exact keepsAt_throw_bind _
    · exact keepsAt_stop_bind _ _
  · exact keepsAt_throw _

theorem chargesOnly_reactivateLocked (id : Ident) (e : Engine) :
    KeepsAt (ChargesOnly S) (reactivateLocked id) e := by
  unfold reactivateLocked
  refine keepsAt_bind_read (exec_now e) (keepsAt_bind_read (exec_policy e) ?_)
  refine keepsAt_bind (reads_get id).keepsAt fun stopped e₁ hget => ?_
  have he₁ : e₁ = e := ((reads_get id) e _ _ hget).1
  subst he₁
  have hc : e₁.store.charge? stopped.id = some stopped := by
    rw [exec_get] at hget
    split at hget
    · next c hc =>
      cases hget
      rw [Store.id_of_charge? e₁.store hc, hc]
    · cases hget
  simp only
  refine keepsAt_ite_throw (keepsAt_ite_throw ?_)
  refine keepsAt_bind (reads_time _).keepsAt fun windowStart e₂ hwin => ?_
  have he₂ : e₂ = e₁ := ((reads_time _) e₁ _ _ hwin).1
  subst he₂
  refine keepsAt_ite_throw ?_
  refine keepsAt_bind_read (exec_store _) ?_
  -- whether or not the parent has a latest attempt, the rest is the same
  split
  on_goal 1 => refine keepsAt_ite_throw ?_
  all_goals
    refine keepsAt_bind (reads_time _).keepsAt fun due e₃ hdue => ?_
    have he₃ : e₃ = e₂ := ((reads_time _) e₂ _ _ hdue).1
    subst he₃
    refine keepsAt_bind_read (exec_store _) ?_
    refine keepsAt_bind ChargesOnly.keepsAt_stored_createCharge fun fresh e₄ hfresh => ?_
    rw [exec_stored] at hfresh
    split at hfresh
    · next hs =>
      cases hfresh
      have hc' := Store.charge?_createCharge e₃.store hs hc
      refine keepsAt_bind_read (exec_store _) ?_
      exact keepsAt_bind (ChargesOnly.keepsAt_stored_saveCharge hc'
        (Charge.chargesOnly_of_state rfl rfl rfl)) fun _ _ _ => keepsAt_pure _
    · cases hfresh

theorem chargesOnly_reactivateAfterSystemStop (id : Ident) (e : Engine) :
    KeepsAt (ChargesOnly S) (reactivateAfterSystemStop id) e := by
  unfold reactivateAfterSystemStop
  refine keepsAt_bind (reads_get id).keepsAt fun c e₁ _ => ?_
  refine keepsAt_bind (reads_canBeStopped c).keepsAt fun b e₂ _ => ?_
  exact keepsAt_ite_throw (ChargesOnly.keepsAt_withLock (chargesOnly_reactivateLocked id _))

end Attempts

/-! ## Processing one attempt charges at most that attempt -/

namespace Store

variable (s : Store)

theorem method_saveCharge {c' v cur : Charge} {t : Instant} {s' : Store}
    (hc : s.charge? c'.id = some cur) (h : s.saveCharge c' t = .ok (v, s')) :
    v.method = cur.method := by
  obtain ⟨row, hrow, heq⟩ := (saveCharge_eq_ok s).mp h
  cases heq
  obtain ⟨row₀, hrow₀, rfl⟩ := (charge?_eq_some s).mp hc
  have hsame : row₀ = row := Option.some.inj (hrow₀.symm.trans hrow)
  subst hsame
  simp [Charge.savedOver]

theorem leapFree_iff : (∀ d ∈ s.charges, d.chargeAt.isLeap = false) ↔
    ∀ r ∈ s.rows, r.charge.chargeAt.isLeap = false := by
  simp [charges]

theorem leapFree_saveCharge {c' v : Charge} {t : Instant} {s' : Store}
    (hs : ∀ d ∈ s.charges, d.chargeAt.isLeap = false) (hc' : c'.chargeAt.isLeap = false)
    (h : s.saveCharge c' t = .ok (v, s')) : ∀ d ∈ s'.charges, d.chargeAt.isLeap = false := by
  obtain ⟨row, -, heq⟩ := (saveCharge_eq_ok s).mp h
  cases heq
  rw [leapFree_iff] at hs ⊢
  intro r hr
  rcases mem_modifyFirst hr with hr | ⟨a, -, rfl⟩
  · exact hs r hr
  · simpa [Charge.savedOver] using hc'

end Store

namespace Engine

/-- The stored attempt with `c`'s identifier is on `c`'s method and due when `c` is. -/
def Pinned (e : Engine) (c : Charge) : Prop :=
  ∀ cur, e.store.charge? c.id = some cur → cur.method = c.method ∧ cur.chargeAt = c.chargeAt

theorem pinned_of_charge? {e : Engine} {c : Charge} (h : e.store.charge? c.id = some c) :
    e.Pinned c := fun cur hcur => by
  rw [h] at hcur
  cases hcur
  exact ⟨rfl, rfl⟩

/-- A step after which every attempt is still on its method and due when it was. -/
def KeepsDue (e e' : Engine) : Prop := ∀ c, e.Pinned c → e'.Pinned c

namespace KeepsDue

theorem refl (e : Engine) : KeepsDue e e := fun _ h => h

theorem trans {e₁ e₂ e₃ : Engine} (h₁ : KeepsDue e₁ e₂) (h₂ : KeepsDue e₂ e₃) :
    KeepsDue e₁ e₃ :=
  fun c h => h₂ c (h₁ c h)

instance : Std.Refl KeepsDue := ⟨refl⟩
instance : IsTrans Engine KeepsDue := ⟨fun _ _ _ => trans⟩

theorem of_rows {e e' : Engine} (hr : e'.store.rows = e.store.rows) : KeepsDue e e' := by
  intro c hpin cur hcur
  obtain ⟨r, hrow, rfl⟩ := (Store.charge?_eq_some _).mp hcur
  have hrow' : e.store.row? c.id = some r := by
    unfold Store.row? at hrow ⊢
    rw [← hr]
    exact hrow
  simpa using hpin _ ((Store.charge?_eq_some _).mpr ⟨r, hrow', rfl⟩)

theorem createPayment {e : Engine} {d : PaymentDraft} {t : Instant} {p : Payment} {s : Store}
    (h : e.store.createPayment d t = (p, s)) : KeepsDue e { e with store := s } := by
  have hs : s = (e.store.createPayment d t).2 := by rw [h]
  subst hs
  rw [Store.createPayment_eq]
  exact of_rows rfl

open Svc

theorem keepsAt_updateStatus (id : Ident) (u : Ledger.StatusRequest) (e : Engine) :
    KeepsAt KeepsDue (Ledger.updateStatus id u) e := by
  intro r e' h
  rcases Ledger.updateStatus_cases h with ⟨rfl, -, -⟩ | ⟨c, rfl, -⟩ |
    ⟨p, p', s', -, -, -, hs, -, rfl⟩
  · exact refl _
  · exact of_rows rfl
  · obtain ⟨q, -, heq⟩ := (Store.savePaymentStatus_eq_ok e.store).mp hs
    cases heq
    exact of_rows (by simp)

theorem keepsAt_update {change : Charge → Svc Charge}
    (hch : ∀ c, Reads (change c) fun c' => c'.id = c.id ∧ c'.chargeAt = c.chargeAt) (id : Ident)
    (e : Engine) : KeepsAt KeepsDue (Attempts.update id change) e := by
  intro r e' h
  rcases Attempts.update_cases hch h with rfl | ⟨cur, c', v, s', hcur, ⟨hid, hat⟩, hs, -, rfl⟩
  · exact refl _
  intro c hpin x hx
  have hcur' : e.store.charge? c'.id = some cur := by
    rw [hid, Store.id_of_charge? e.store hcur, hcur]
  rw [afterUpdate_store, Store.charge?_saveCharge e.store hs] at hx
  split at hx
  · next hsame =>
    cases hx
    obtain ⟨-, -, -, -, -, -, hv, -, -⟩ := Store.saveCharge_read e.store hs
    obtain ⟨hm, ht⟩ := hpin cur (by rw [← hsame]; exact hcur')
    exact ⟨(e.store.method_saveCharge hcur' hs).trans hm, (hv.trans hat).trans ht⟩
  · exact hpin x hx

theorem keepsAt_transition (id : Ident) (t : ChargeState) (actor : Actor) (u : ChargeUpdate)
    (e : Engine) : KeepsAt KeepsDue (Attempts.transition id t actor u) e :=
  keepsAt_update (fun _ => reads_ite (fun _ => reads_pure ⟨by simp, by simp⟩)
    fun _ => reads_throw _) id e

theorem keepsAt_linkPayment (id p : Ident) (e : Engine) :
    KeepsAt KeepsDue (Attempts.linkPayment id p) e :=
  keepsAt_bind (keepsAt_update (fun _ => reads_pure (by split <;> exact ⟨rfl, rfl⟩)) id e)
    fun _ _ _ => keepsAt_pure _

theorem keepsAt_paymentFor (c : Charge) (e : Engine) : KeepsAt KeepsDue (Run.paymentFor c) e :=
  Run.keepsAt_paymentFor_of keepsAt_linkPayment (fun _ _ _ _ h => createPayment h) c e

theorem keepsAt_completeOrCall (c : Charge) (pid : Ident) (e : Engine) :
    KeepsAt KeepsDue (Run.completeOrCall c pid) e :=
  Run.keepsAt_completeOrCall_of (fun u => keepsAt_transition _ _ _ u e) (fun _ _ => of_rows rfl) pid

end KeepsDue

/-- What processing the attempt `c`, claimed in `e`, may charge: `c` itself, on its method and
at its due instant, and only when no charged attempt of `e` is in fast conflict with it. -/
def Clears (e : Engine) (c : Charge) : Allowance :=
  fun x m t => x = c.id ∧ m = c.method ∧ t = c.chargeAt ∧ ¬e.FastConflict c

end Engine

namespace Attempts

open Svc Engine

variable {S : Allowance}

theorem chargesOnly_transition_pinned {c : Charge} {t : ChargeState} {actor : Actor}
    {u : ChargeUpdate} {e : Engine} (hpin : e.Pinned c) (hS : S c.id c.method c.chargeAt) :
    KeepsAt (ChargesOnly S) (transition c.id t actor u) e := by
  intro r e' h
  rcases update_cases (P := fun cur c' => c' = cur.moveTo t u)
    (fun _ => reads_ite (fun _ => reads_pure rfl) fun _ => reads_throw _) h with
    rfl | ⟨cur, c', v, s', hcur, rfl, hs, -, rfl⟩
  · exact .refl _
  have hid : cur.id = c.id := Store.id_of_charge? e.store hcur
  obtain ⟨hm, hat⟩ := hpin cur hcur
  have hcur' : e.store.charge? (cur.moveTo t u).id = some cur := by
    rw [Charge.moveTo_id, hid, hcur]
  have hch : cur.ChargesOnly S (cur.moveTo t u) := ⟨by simp, fun _ => .inr (by
    rw [hid, hm, Charge.moveTo_chargeAt, hat]
    exact hS)⟩
  exact ⟨by simp, by simpa using e.store.chargesOnly_saveCharge hcur' hch hs⟩

end Attempts

namespace Run

open Svc Engine Attempts

variable {S : Allowance}

theorem chargesOnly_paymentFor (c : Charge) (e : Engine) :
    KeepsAt (ChargesOnly S) (paymentFor c) e :=
  keepsAt_paymentFor_of chargesOnly_linkPayment (fun _ _ _ _ h => ChargesOnly.createPayment h) c e

theorem chargesOnly_prepare {c : Charge} {e e' : Engine} {r : Except BillingError Prepared}
    (hleap : e.LeapFree) (hc : c.chargeAt.isLeap = false) (hpin : e.Pinned c)
    (h : (prepare c).exec e = .ok (r, e')) :
    ChargesOnly (e.Clears c) e e' ∧ ∀ p g, r = .ok (.call p g) → ¬e.FastConflict c ∧ e'.Pinned c := by
  unfold prepare at h
  obtain ⟨x, hx, -⟩ := fastChargeConflict_exec c e
  have hiff := fastChargeConflict_isSome_iff hleap hc hx
  rw [exec_bind_ok hx] at h
  split at h
  · -- the guard caught the attempt: it is stopped, and nothing is handed over
    unfold stopFast at h
    refine ⟨keepsAt_bind (chargesOnly_transition (by decide) _ _ _ e)
      (fun _ _ _ => keepsAt_pure _) _ _ h, fun p g hr => ?_⟩
    rcases exec_bind_eq_ok h with ⟨err, -, rfl⟩ | ⟨_, e₁, -, hdone⟩
    · cases hr
    · rw [exec_pure] at hdone
      cases hdone
      cases hr
  · next hnone =>
    have hclear : ¬e.FastConflict c := fun hf => hnone (hiff.mpr hf)
    rcases exec_bind_eq_ok h with ⟨err, hpay, rfl⟩ | ⟨pid, e₁, hpay, hrest⟩
    · exact ⟨chargesOnly_paymentFor c e _ _ hpay, fun p g hr => by cases hr⟩
    have hpin₁ : e₁.Pinned c := KeepsDue.keepsAt_paymentFor c e _ _ hpay c hpin
    refine ⟨(chargesOnly_paymentFor c e _ _ hpay).trans (keepsAt_completeOrCall_of
      (fun _ => chargesOnly_transition_pinned hpin₁ ⟨rfl, rfl, rfl, hclear⟩)
      ChargesOnly.appendAudit pid _ _ hrest), fun p g _ => ⟨hclear, ?_⟩⟩
    exact KeepsDue.keepsAt_completeOrCall c pid e₁ _ _ hrest c hpin₁

theorem chargesOnly_applyReply {c : Charge} {p : Payment} {g : Gateway} {e : Engine}
    (hpin : e.Pinned c) (hS : S c.id c.method c.chargeAt) (reply : ChargeReply) :
    KeepsAt (ChargesOnly S) (applyReply c p g reply) e := by
  cases reply with
  | settled r =>
    refine keepsAt_bind (ChargesOnly.keepsAt_updateStatus _ _ e) fun _ e₁ h₁ => ?_
    have hpin₁ : e₁.Pinned c := KeepsDue.keepsAt_updateStatus _ _ e _ _ h₁ c hpin
    exact keepsAt_bind (chargesOnly_transition_pinned hpin₁ hS) fun _ _ _ => keepsAt_pure _
  | pending r =>
    exact keepsAt_bind (chargesOnly_transition (by decide) _ _ _ e) fun _ _ _ => keepsAt_pure _
  | failed f =>
    obtain ⟨kind, r⟩ := f
    cases kind with
    | retryable =>
      exact keepsAt_bind (ChargesOnly.keepsAt_updateStatus _ _ e) fun _ e₁ _ =>
        keepsAt_bind (chargesOnly_transition (by decide) _ _ _ e₁) fun _ e₂ _ =>
          keepsAt_bind (chargesOnly_rearmFailed _ e₂) fun _ _ _ => keepsAt_pure _
    | terminal =>
      exact keepsAt_bind (ChargesOnly.keepsAt_updateStatus _ _ e) fun _ e₁ _ =>
        keepsAt_bind (chargesOnly_transition (by decide) _ _ _ e₁) fun _ _ _ => keepsAt_pure _
    | hard =>
      exact keepsAt_bind (keepsAt_of_exec (exec_count e _) (ChargesOnly.tally e _)) fun _ e₁ _ =>
        keepsAt_bind (chargesOnly_transition (by decide) _ _ _ e₁) fun _ _ _ => keepsAt_pure _

theorem charge?_of_claim {id : Ident} {e e₁ : Engine} {c : Charge}
    (h : (claim id).exec e = .ok (.ok (some c), e₁)) : e₁.store.charge? c.id = some c := by
  rcases claim_cases h with ⟨-, hnone⟩ | ⟨c₀, v, s', -, -, -, hs, hr, rfl⟩
  · exact absurd rfl (hnone c)
  · cases hr
    obtain ⟨hread, hid, -⟩ := Store.saveCharge_read _ hs
    rw [hid]
    exact hread

end Run

namespace Svc.ReadsAt

variable {α β : Type} {e : Engine} {P : β → Prop}

theorem time_bind {r : Except Overflow α} {f : α → Svc β}
    (hf : ∀ a, r = .ok a → ReadsAt (f a) e P) : ReadsAt (time r >>= f) e P := by
  cases r with
  | ok a => exact bind_read (exec_time e (.ok a)) (hf a rfl)
  | error o => exact stop_bind o

end Svc.ReadsAt

/-! ## Attempts stay out of leap seconds -/

namespace Engine

/-- A step that keeps the clock, and after which no attempt is due inside a leap second when none
was before and the clock is outside one. -/
structure KeepsLeapFree (e e' : Engine) : Prop where
  now : e'.now = e.now
  leapFree : e.now.isLeap = false → e.LeapFree → e'.LeapFree

namespace KeepsLeapFree

theorem refl (e : Engine) : KeepsLeapFree e e := ⟨rfl, fun _ h => h⟩

theorem trans {e₁ e₂ e₃ : Engine} (h₁ : KeepsLeapFree e₁ e₂) (h₂ : KeepsLeapFree e₂ e₃) :
    KeepsLeapFree e₁ e₃ :=
  ⟨h₂.now.trans h₁.now, fun hn hl => h₂.leapFree (h₁.now ▸ hn) (h₁.leapFree hn hl)⟩

instance : Std.Refl KeepsLeapFree := ⟨refl⟩
instance : IsTrans Engine KeepsLeapFree := ⟨fun _ _ _ => trans⟩

theorem of_rows {e e' : Engine} (hn : e'.now = e.now) (hr : e'.store.rows = e.store.rows) :
    KeepsLeapFree e e' := by
  refine ⟨hn, fun _ hl => ?_⟩
  unfold LeapFree at hl ⊢
  rw [Store.leapFree_iff] at hl ⊢
  rw [hr]
  exact hl

theorem tally (e : Engine) (k : Counter) : KeepsLeapFree e (e.tally k) := of_rows rfl rfl

theorem appendAudit (e : Engine) (x : AuditEntry) :
    KeepsLeapFree e { e with store := e.store.appendAudit x } :=
  of_rows rfl rfl

theorem afterCharge (e : Engine) (g : Gateway) (p : Payment) (c : Charge) :
    KeepsLeapFree e (e.afterCharge g p c) :=
  of_rows rfl rfl

theorem createPayment {e : Engine} {d : PaymentDraft} {t : Instant} {p : Payment} {s : Store}
    (h : e.store.createPayment d t = (p, s)) : KeepsLeapFree e { e with store := s } := by
  have hs : s = (e.store.createPayment d t).2 := by rw [h]
  subst hs
  rw [Store.createPayment_eq]
  exact of_rows rfl rfl

open Svc

theorem keepsAt_updateStatus (id : Ident) (u : Ledger.StatusRequest) (e : Engine) :
    KeepsAt KeepsLeapFree (Ledger.updateStatus id u) e := by
  intro r e' h
  rcases Ledger.updateStatus_cases h with ⟨rfl, -, -⟩ | ⟨c, rfl, -⟩ |
    ⟨p, p', s', -, -, -, hs, -, rfl⟩
  · exact refl _
  · exact tally e c
  · obtain ⟨q, -, heq⟩ := (Store.savePaymentStatus_eq_ok e.store).mp hs
    cases heq
    exact of_rows (by simp) (by simp)

theorem keepsAt_update {change : Charge → Svc Charge} {id : Ident} {e : Engine}
    (hch : ∀ c, ReadsAt (change c) { e with held := Attempts.chargeKey id :: e.held }
      fun c' => e.now.isLeap = false → c.chargeAt.isLeap = false → c'.chargeAt.isLeap = false) :
    KeepsAt KeepsLeapFree (Attempts.update id change) e := by
  intro r e' h
  rcases Attempts.update_cases_at (P := fun c c' => e.now.isLeap = false →
      c.chargeAt.isLeap = false → c'.chargeAt.isLeap = false) hch h with
    rfl | ⟨c, c', v, s', hc, hP, hs, -, rfl⟩
  · exact refl _
  refine ⟨by simp, fun hn hl => ?_⟩
  have hc' : c.chargeAt.isLeap = false := hl c (e.store.mem_charges_of_charge? hc)
  unfold LeapFree
  rw [afterUpdate_store]
  exact e.store.leapFree_saveCharge hl (hP hn hc') hs

theorem keepsAt_claim (id : Ident) (e : Engine) : KeepsAt KeepsLeapFree (Attempts.claim id) e := by
  intro r e' h
  rcases Attempts.claim_cases h with ⟨rfl, -⟩ | ⟨c, v, s', hc, -, -, hs, -, rfl⟩
  · exact refl _
  refine ⟨rfl, fun _ hl => ?_⟩
  have hc' : ({ c with status := some inFlight } : Charge).chargeAt.isLeap = false :=
    hl c (e.store.mem_charges_of_charge? hc)
  exact e.store.leapFree_saveCharge hl hc' hs

theorem keepsAt_releaseClaim (id : Ident) (e : Engine) :
    KeepsAt KeepsLeapFree (Attempts.releaseClaim id) e :=
  keepsAt_update fun _ => reads_pure (by split <;> exact fun _ h => h) _

theorem keepsAt_transition (id : Ident) (t : ChargeState) (actor : Actor) (u : ChargeUpdate)
    (e : Engine) : KeepsAt KeepsLeapFree (Attempts.transition id t actor u) e :=
  keepsAt_update fun _ => reads_ite (fun _ => reads_pure fun _ h => by simpa using h)
    (fun _ => reads_throw _) _

theorem keepsAt_linkPayment (id p : Ident) (e : Engine) :
    KeepsAt KeepsLeapFree (Attempts.linkPayment id p) e :=
  keepsAt_bind (keepsAt_update fun _ => reads_pure (by split <;> exact fun _ h => h) _)
    fun _ _ _ => keepsAt_pure _

theorem keepsAt_rearmFailed (id : Ident) (e : Engine) :
    KeepsAt KeepsLeapFree (Attempts.rearmFailed id) e := by
  refine keepsAt_bind_read (exec_policy e) (keepsAt_update fun c => ?_)
  refine ReadsAt.ite_throw ?_
  split
  · exact reads_pure (fun _ h => by simpa using h) _
  refine ReadsAt.bind_read (exec_now _) (ReadsAt.time_bind fun due hdue => ?_)
  exact reads_pure (fun hn _ => by simpa using Instant.isLeap_shiftBy hn hdue) _

theorem updates : Run.Updates KeepsLeapFree :=
  ⟨fun id t u e => keepsAt_transition id t .system u e, keepsAt_linkPayment, keepsAt_rearmFailed⟩

theorem keepsAt_process (c : Charge) (e : Engine) : KeepsAt KeepsLeapFree (Run.process c) e :=
  Run.keepsAt_process (keepsAt_claim _) (Run.keepsAt_prepare updates appendAudit
      (fun _ _ _ _ h => createPayment h))
    (fun c => keepsAt_releaseClaim c.id) afterCharge
    (fun c p g reply => Run.keepsAt_applyReply updates keepsAt_updateStatus tally c p g reply)
    appendAudit tally e

end KeepsLeapFree

end Engine

/-! ## Charged attempts on one method stay apart -/

namespace Instant

def Distant (θ : Span) (a b : Instant) : Prop :=
  a.toNanos + θ.nanos ≤ b.toNanos ∨ b.toNanos + θ.nanos ≤ a.toNanos

theorem Distant.symm {θ : Span} {a b : Instant} (h : Distant θ a b) : Distant θ b a := Or.symm h

end Instant

namespace Engine

/-- Charged attempts on one stored method are due at least the fast-charge threshold apart. -/
def Apart (e : Engine) : Prop :=
  ∀ d₁ ∈ e.store.charges, ∀ d₂ ∈ e.store.charges, d₁.id ≠ d₂.id → d₁.method = d₂.method →
    d₁.state = .charged → d₂.state = .charged →
    Instant.Distant e.policy.fastChargeThreshold d₁.chargeAt d₂.chargeAt

theorem distant_of_not_fastConflict {e : Engine} {c d : Charge} (h : ¬e.FastConflict c)
    (hd : d ∈ e.store.charges) (hid : d.id ≠ c.id) (hm : d.method = c.method)
    (hs : d.state = .charged) :
    Instant.Distant e.policy.fastChargeThreshold d.chargeAt c.chargeAt := by
  unfold Instant.Distant
  by_cases hpos : 0 < e.policy.fastChargeThreshold.nanos
  · have hfar : ¬c.chargeAt.toNanos - e.policy.fastChargeThreshold.nanos < d.chargeAt.toNanos :=
      fun hlt => h ⟨hpos, d, hd, hid, hm, hs, hlt⟩
    omega
  · omega

theorem Apart.of_chargesOnly {S : Allowance} {e e' : Engine} (hA : e.Apart)
    (h : ChargesOnly S e e')
    (hfar : ∀ x m t, S x m t → ∀ d ∈ e.store.charges, d.id ≠ x → d.method = m →
      d.state = .charged → Instant.Distant e.policy.fastChargeThreshold d.chargeAt t)
    (hone : ∀ x m t x' m' t', S x m t → S x' m' t' → x = x') : e'.Apart := by
  intro d₁ hd₁ d₂ hd₂ hid hm hs₁ hs₂
  rw [h.policy]
  rcases h.store.charged _ hd₁ hs₁ with ⟨x₁, hx₁, hxs₁, hxid₁, hxm₁, hxt₁⟩ | hS₁ <;>
    rcases h.store.charged _ hd₂ hs₂ with ⟨x₂, hx₂, hxs₂, hxid₂, hxm₂, hxt₂⟩ | hS₂
  · -- both were charged before the step
    rw [← hxt₁, ← hxt₂]
    exact hA x₁ hx₁ x₂ hx₂ (by rw [hxid₁, hxid₂]; exact hid) (by rw [hxm₁, hxm₂]; exact hm) hxs₁ hxs₂
  · rw [← hxt₁]
    exact hfar _ _ _ hS₂ x₁ hx₁ (by rw [hxid₁]; exact hid) (by rw [hxm₁]; exact hm) hxs₁
  · rw [← hxt₂]
    exact (hfar _ _ _ hS₁ x₂ hx₂ (by rw [hxid₂]; exact hid.symm) (by rw [hxm₂]; exact hm.symm)
      hxs₂).symm
  · -- the step charged one attempt only
    exact absurd (hone _ _ _ _ _ _ hS₁ hS₂) hid

theorem Apart.of_clears {c : Charge} {e e' : Engine} (hA : e.Apart)
    (h : ChargesOnly (e.Clears c) e e') : e'.Apart := by
  refine hA.of_chargesOnly h ?_ fun _ _ _ _ _ _ h₁ h₂ => h₁.1.trans h₂.1.symm
  rintro x m t ⟨rfl, rfl, rfl, hclear⟩ d hd hid hm hs
  exact distant_of_not_fastConflict hclear hd hid hm hs

theorem Apart.of_chargesNothing {e e' : Engine} (hA : e.Apart)
    (h : ChargesOnly (fun _ _ _ => False) e e') : e'.Apart :=
  hA.of_chargesOnly h (fun _ _ _ h => h.elim) fun _ _ _ _ _ _ h => h.elim

/-- What the guard needs to hold over a run: charged attempts apart, no attempt due inside a leap
second, and the clock outside one. -/
structure Spaced (e : Engine) : Prop where
  apart : e.Apart
  leapFree : e.LeapFree
  now : e.now.isLeap = false

theorem Spaced.tally {e : Engine} (h : e.Spaced) (k : Counter) : (e.tally k).Spaced :=
  ⟨h.apart, h.leapFree, h.now⟩

open Svc Attempts in
theorem Spaced.process {c : Charge} {e e' : Engine} {r : Except BillingError Run.Outcome}
    (hS : e.Spaced) (h : (Run.process c).exec e = .ok (r, e')) : e'.Spaced := by
  have hkeep := KeepsLeapFree.keepsAt_process c e _ _ h
  refine ⟨?_, hkeep.leapFree hS.now hS.leapFree, hkeep.now ▸ hS.now⟩
  rcases Run.process_cases h with ⟨rfl, -⟩ | ⟨rfl, -⟩ | ⟨c₁, e₁, hcl, hphase⟩
  · exact hS.apart
  · exact (hS.tally _).apart
  -- the claim charges nothing; the attempt it hands over is stored, out of leap seconds
  have hA₁ : e₁.Apart := hS.apart.of_chargesNothing (chargesOnly_claim _ e _ _ hcl)
  have hleap₁ : e₁.LeapFree :=
    (KeepsLeapFree.keepsAt_claim _ e _ _ hcl).leapFree hS.now hS.leapFree
  have hstored := Run.charge?_of_claim hcl
  have hc₁ : c₁.chargeAt.isLeap = false := hleap₁ c₁ (e₁.store.mem_charges_of_charge? hstored)
  refine hA₁.of_clears (c := c₁) ?_
  have hprep := fun {x e₂} (hp : (Run.prepare c₁).exec e₁ = .ok (x, e₂)) =>
    Run.chargesOnly_prepare hleap₁ hc₁ (pinned_of_charge? hstored) hp
  rcases hphase with ⟨err, e₂, x, hp, hr, -⟩ | ⟨o, e₂, hp, rfl, -⟩ |
    ⟨p, g, e₂, hp, x, e₃, ha, hend⟩
  · exact (hprep hp).1.trans (chargesOnly_releaseClaim _ e₂ _ _ hr)
  · exact (hprep hp).1.trans (ChargesOnly.tally e₂ _)
  -- the call: the gateway's answer charges the attempt the guard let through
  obtain ⟨hclear, hpin₂⟩ := (hprep hp).2 p g rfl
  have hpin₃ : (e₂.afterCharge g p c₁).Pinned c₁ := hpin₂
  have h₃ : ChargesOnly (e₁.Clears c₁) e₁ e₃ := (hprep hp).1.trans
    ((ChargesOnly.afterCharge e₂ g p c₁).trans
      (Run.chargesOnly_applyReply hpin₃ ⟨rfl, rfl, rfl, hclear⟩ _ _ _ ha))
  rcases hend with ⟨err, -, rfl, -⟩ | ⟨o, resp, -, -, rfl⟩
  · exact h₃
  · exact h₃.trans ((ChargesOnly.appendAudit e₃ _).trans (ChargesOnly.tally _ _))

open Svc in
theorem Spaced.run {ids : Option (List Ident)} {e e' : Engine} {r : Except BillingError Run.Summary}
    (hS : e.Spaced) (h : (Run.run ids).exec e = .ok (r, e')) : e'.Spaced := by
  unfold Run.run at h
  rcases exec_bind_eq_ok h with ⟨err, hl, -⟩ | ⟨l, e₁, hl, hrest⟩
  · rw [(Attempts.reads_chargeable ids e _ _ hl).1]
    exact hS
  obtain ⟨rfl, -⟩ := Attempts.reads_chargeable ids e _ _ hl
  obtain ⟨-, hS'⟩ := Run.processAll_invariant (I := fun _ e₁ => e₁.Spaced)
    (fun _ _ _ _ _ h₀ hx => h₀.process hx) (fun _ _ k h₀ => h₀.tally k) l {} hS hrest
  exact hS'

end Engine

/-- Whether the operation may charge an attempt past the fast-charge guard: a move to `charged`
asked of the registry. -/
def RegistryOp.bypassesGuard : RegistryOp → Bool
  | .transition _ t _ _ => t == .charged
  | _ => false

/-- Whether the operation may charge an attempt past the fast-charge guard: the direct write of
an attempt, a move to `charged` asked of the registry, and a callback that resolves a pending
charge as charged. -/
def Op.bypassesGuard : Op → Bool
  | .putCharge _ => true
  | .registry op => op.bypassesGuard
  | .resolvePending _ succeeded _ => succeeded
  | _ => false

/-- The operations under which charged attempts stay apart: those that charge only past the
guard, started with no attempt due inside a leap second and the clock outside one. -/
def ThroughGuard (e : Engine) (op : Op) : Prop :=
  op.bypassesGuard = false ∧ e.LeapFree ∧ e.now.isLeap = false

namespace RegistryOp

open Svc Engine Attempts

theorem chargesOnly_act {S : Allowance} (op : RegistryOp) (hop : op.bypassesGuard = false)
    (e : Engine) : KeepsAt (ChargesOnly S) op.act e := by
  cases op with
  | registerMethod user gateway token => exact keepsAt_drop (chargesOnly_registerMethod _ _ _ e)
  | updateMethodExpiry method d => exact chargesOnly_updateMethodExpiry _ _ e
  | createAttempt method parent chargeAt customAmount retries =>
    exact keepsAt_drop (chargesOnly_createAttempt _ _ _ _ _ e)
  | createAttemptFrom d => exact keepsAt_drop (chargesOnly_createAttemptFrom _ e)
  | scheduleNext id sub terms =>
    exact keepsAt_bind (reads_get id).keepsAt fun c e₁ _ =>
      keepsAt_drop (chargesOnly_scheduleNext c sub terms e₁)
  | transition id t actor u =>
    have ht : t ≠ .charged := by simpa [bypassesGuard] using hop
    exact keepsAt_drop (chargesOnly_transition ht _ _ _ e)
  | claim id => exact keepsAt_drop (chargesOnly_claim _ e)
  | linkPayment id payment => exact keepsAt_drop (chargesOnly_linkPayment _ _ e)
  | rearmFailed id => exact keepsAt_drop (chargesOnly_rearmFailed _ e)
  | stopByUser id => exact keepsAt_drop (chargesOnly_stopByUser _ e)
  | stopByAdmin id reason => exact keepsAt_drop (chargesOnly_stopByAdmin _ _ e)
  | reactivateAfterSystemStop id => exact keepsAt_drop (chargesOnly_reactivateAfterSystemStop _ e)
  | reactivateByUser id => exact keepsAt_drop (chargesOnly_reactivateByUser _ e)

end RegistryOp

namespace Engine

open Svc

theorem ChargesOnly.step {S : Allowance} {e e' : Engine} {op : Op}
    (hop : op.bypassesGuard = false) (hrun : ∀ ids, op ≠ .run ids) (h : op.Step e e') :
    ChargesOnly S e e' := by
  obtain ⟨r, hx⟩ := h
  cases op with
  | issueIdent =>
    cases hx
    exact of_rows rfl rfl
  | setClock t =>
    cases hx
    exact of_rows rfl rfl
  | setGateway g =>
    cases hx
    exact of_rows rfl rfl
  | seedPayment p =>
    cases hx
    exact of_rows rfl rfl
  | createPayment d =>
    cases hx
    exact createPayment (p := (e.store.createPayment d e.now).1) rfl
  | putCharge c => cases hop
  | registry op => exact op.chargesOnly_act hop e r e' hx
  | releaseClaim id => exact keepsAt_drop (Attempts.chargesOnly_releaseClaim id e) r e' hx
  | updateStatus id u => exact keepsAt_drop (keepsAt_updateStatus id u e) r e' hx
  | run ids => exact absurd rfl (hrun ids)
  | resolvePending id succeeded resp =>
    -- a callback that fails the charge moves the attempt to `chargeFailed`
    have hfail : succeeded = false := hop
    subst hfail
    exact keepsAt_drop (Run.keepsAt_resolvePending_of
      (fun u e₁ => Attempts.chargesOnly_transition (by decide) _ _ u e₁)
      (Attempts.chargesOnly_rearmFailed id) appendAudit keepsAt_updateStatus tally e) r e' hx
  | refreshExpiry g =>
    exact keepsAt_drop (Expiry.keepsAt_refresh (fun _ _ _ _ hs => setMethodExpiry hs) tally g e)
      r e' hx

theorem Apart.step {e e' : Engine} {op : Op} (hG : ThroughGuard e op) (hA : e.Apart)
    (h : op.Step e e') : e'.Apart := by
  by_cases hrun : ∃ ids, op = .run ids
  · obtain ⟨ids, rfl⟩ := hrun
    obtain ⟨r, hx⟩ := h
    have hS : e.Spaced := ⟨hA, hG.2.1, hG.2.2⟩
    rcases exec_bind_eq_ok hx with ⟨err, hr, -⟩ | ⟨a, e₁, hr, hp⟩
    · exact (hS.run hr).apart
    · rw [exec_pure] at hp
      cases hp
      exact (hS.run hr).apart
  · exact hA.of_chargesNothing (ChargesOnly.step hG.1 (fun ids h => hrun ⟨ids, h⟩) h)

end Engine

/-- Over every run of operations that charge only past the fast-charge guard, each started with
no attempt due inside a leap second and the clock outside one, charged attempts on one stored
method stay at least the threshold apart. -/
theorem charged_attempts_stay_apart {e e' : Engine} {ops : List Op}
    (hrun : Reach ThroughGuard e ops e') (hA : e.Apart) : e'.Apart :=
  hrun.invariant (fun _ _ _ _ hG hA hs => Engine.Apart.step hG hA hs) hA

/-- Two attempts charged two days apart on one stored method, and two more due on it: one an hour
after the second charge, one two days after it. A run from the fourth day, through the guard,
stops the first and charges the second through the gateway, and the charged attempts stay a day
apart. -/
theorem charged_attempts_stay_apart_over_a_guarded_run :
    let p₀ : Payment :=
      { id := Ident.ofSerial 1, user := ⟨0⟩, gateway := "test", status := .paid,
        amount := ⟨1999, 2, false⟩, paidAt := none, subscription := none, catalogItem := none,
        address := none, isRecurrent := false, parent := none, note := none,
        errorMessage := none, created := Instant.epoch, updated := Instant.epoch }
    let m₀ : Method :=
      { id := Ident.ofSerial 2, user := ⟨0⟩, gateway := "test", token := "tok", expiresOn := none,
        created := Instant.epoch }
    let c₁ : Charge :=
      { id := Ident.ofSerial 3, method := m₀.id, parent := p₀.id, payment := none,
        chargeAt := Instant.epoch, retries := 2, customAmount := none, renewalItem := none,
        state := .charged, status := none, note := none, token := "tok", created := Instant.epoch,
        updated := Instant.epoch }
    let c₂ : Charge := { c₁ with id := Ident.ofSerial 4, chargeAt := ⟨2 * 86400, 0⟩ }
    let c₃ : Charge :=
      { c₁ with id := Ident.ofSerial 5, chargeAt := ⟨2 * 86400 + 3600, 0⟩, state := .active }
    let c₄ : Charge := { c₁ with id := Ident.ofSerial 6, chargeAt := ⟨4 * 86400, 0⟩, state := .active }
    let e₀ : Engine :=
      { now := ⟨4 * 86400, 0⟩, gateways := ⟨[{ id := "test", answering := .scripted [] }]⟩,
        store := { payments := [p₀], methods := [m₀], rows := [⟨c₁, 1⟩, ⟨c₂, 2⟩, ⟨c₃, 3⟩, ⟨c₄, 4⟩],
                   seq := 4, serial := 6 } }
    ∃ e₁, Reach ThroughGuard e₀ [.run none] e₁ ∧ e₀.Apart ∧ e₁.Apart ∧
      (e₁.store.charge? c₃.id).map (·.state) = some .systemStop ∧
      (e₁.store.charge? c₄.id).map (·.state) = some .charged := by
  intro p₀ m₀ c₁ c₂ c₃ c₄ e₀
  -- the kernel runs the operation once; the rest is read off its result
  have hends : ((Op.run none).act.exec e₀).toOption.map
      (fun x => ((x.2.store.charge? c₃.id).map (·.state), (x.2.store.charge? c₄.id).map (·.state))) =
      some (some .systemStop, some .charged) := by
    decide +kernel
  have hleap : e₀.LeapFree := by
    unfold Engine.LeapFree
    decide +kernel
  have hA : e₀.Apart := by
    unfold Engine.Apart Instant.Distant
    decide +kernel
  cases hx : (Op.run none).act.exec e₀ with
  | error o =>
    rw [hx] at hends
    cases hends
  | ok x =>
    obtain ⟨r, e₁⟩ := x
    rw [hx] at hends
    simp only [Except.toOption, Option.map_some, Option.some.injEq, Prod.mk.injEq] at hends
    have hrun : Reach ThroughGuard e₀ [.run none] e₁ := .cons ⟨rfl, hleap, rfl⟩ ⟨r, hx⟩ (.nil _)
    exact ⟨e₁, hrun, hA, charged_attempts_stay_apart hrun hA, hends.1, hends.2⟩

end Rebill
