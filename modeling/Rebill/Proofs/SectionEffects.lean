import Rebill.Proofs.Sections
import Rebill.Proofs.RetryBudget
import Rebill.Proofs.StatusRequests
import Rebill.Proofs.PaymentHistory

/-!
# What a section does to the engine

Interleavings are proved one section at a time, so what each kind of section can do is said once,
here. `Section.Leaves` gathers what a section leaves alone, and the one mark it may leave on each
record that the invariants of a pool read:

* the locks held stay the same, as do the outlets, and a well-formed store stays well formed;
* the gateway charges grow only by a call;
* the announced status changes grow only by an emitted event, and the messages only by a
  published one;
* an attempt changes only under its own lock, and no attempt is made;
* a stored payment stays as it is unless its own status request writes it.

The marks are functions of the section and of what it returned:

* `asks`: the attempt a gateway is asked to charge for;
* `row`: the attempt whose lock the section takes;
* `claimed`: a claim that handed the attempt over;
* `gives`: a release or a call, each of which spends a claim;
* `lists`: a due list that names an attempt;
* `applied`: a status request that changed its payment.

After `Leaves` come the lemmas on the sections under an attempt's lock: what they do to the
attempt's mark (`armed_of_claimed`), to its retries and to its potential. Then what a status
request does to its payment (`payment_after`).
-/

namespace Rebill

open Svc Attempts Engine

/-- The attempt `x` is stored with no status, so a claim may mark it. -/
def Engine.armed (e : Engine) (x : Ident) : Bool :=
  ((e.store.charge? x).map (·.status.isNone)).getD false

/-- The attempt `x`, when stored, has retries not below zero. -/
def Engine.RetriesNonneg (e : Engine) (x : Ident) : Prop :=
  ∀ c, e.store.charge? x = some c → 0 ≤ c.retries

/-- Whether a message offered to the queue reaches the recorder. -/
def Engine.posts (e : Engine) : Bool := e.outlets.sink == .recording && !e.outlets.queueFails

namespace Section

variable {β : Type}

/-- The attempt a section asks a gateway to charge for. -/
def asks : Section β → Option Ident
  | .call _ _ c => some c.id
  | _ => none

/-- The attempt whose lock a section takes. -/
def row : Section β → Option Ident
  | .claim id | .update id _ _ | .release id => some id
  | _ => none

def payment : Section β → Option Ident
  | .apply id _ => some id
  | _ => none

def event? : Section β → Option BillingEvent
  | .emit ev _ => some ev
  | _ => none

def message? : Section β → Option StatusMessage
  | .publish m _ => some m
  | _ => none

/-- The section is a claim of `x` that handed the attempt over. -/
def claimed (x : Ident) : Section β → Except BillingError β → Bool
  | .claim id, .ok (some _) => id == x
  | _, _ => false

/-- The section spends a claim of `x`: it gives the claim back, or asks a gateway to charge `x`. -/
def gives (x : Ident) : Section β → Bool
  | .release id => id == x
  | .call _ _ c => c.id == x
  | _ => false

/-- The section loaded a due list that names `x`. -/
def lists (x : Ident) : Section β → Except BillingError β → Bool
  | .due _, .ok l => l.any (·.id == x)
  | _, _ => false

/-- The change a status request on `q` made: the old status, the new one, and whether the change is
to be notified. -/
def applied (q : Ident) : Section β → Except BillingError β →
    Option (PaymentStatus × PaymentStatus × Bool)
  | .apply id u, .ok (some (o, n)) => if id = q then some (o, n, u.notify) else none
  | _, _ => none

theorem gives_of_asks {s : Section β} {x : Ident} (h : s.asks = some x) : s.gives x = true := by
  cases s <;> simp_all [asks, gives]

theorem row_of_claimed {s : Section β} {x : Ident} {r : Except BillingError β}
    (h : s.claimed x r = true) : s.row = some x := by
  cases s with
  | claim id => rcases r with _ | _ | _ <;> simp_all [claimed, row]
  | _ => simp [claimed] at h

theorem asks_of_row {s : Section β} {x : Ident} (h : s.row = some x) : s.asks = none := by
  cases s <;> simp_all [asks, row]

theorem gives_eq_false_of_claimed {s : Section β} {x : Ident} {r : Except BillingError β}
    (h : s.claimed x r = true) : s.gives x = false := by
  cases s with
  | claim id => rfl
  | _ => simp [claimed] at h

theorem payment_of_applied {s : Section β} {q : Ident} {r : Except BillingError β}
    {c : PaymentStatus × PaymentStatus × Bool} (h : s.applied q r = some c) : s.payment = some q := by
  cases s with
  | apply id u =>
    rcases r with _ | _ | ⟨o, n⟩ <;> simp only [applied, reduceCtorEq] at h
    split at h
    · next hid => rw [hid]; rfl
    · cases h
  | _ => simp [applied] at h

theorem claimed_eq_false_of_ne {s : Section β} {x : Ident} (h : s.row ≠ some x)
    (r : Except BillingError β) : s.claimed x r = false := by
  cases hc : s.claimed x r
  · rfl
  · exact absurd (row_of_claimed hc) h

/-! ## What every section leaves -/

/-- What a section that ran from `e` to `e'` leaves alone, and the one mark it may leave on each
record. -/
structure Leaves (s : Section β) (e e' : Engine) : Prop where
  held : e'.held = e.held
  outlets : e'.outlets = e.outlets
  wf : e.store.Wf → e'.store.Wf
  calls : ∀ x, callsFor x e'.journal.charges =
    callsFor x e.journal.charges + if s.asks = some x then 1 else 0
  changes : e'.statusChanges =
    e.statusChanges ++ if e.heard then (s.event?.bind BillingEvent.statusChange?).toList else []
  messages : e'.recorded.messages =
    e.recorded.messages ++ if e.posts then s.message?.toList else []
  rows : ∀ x, s.row ≠ some x → e'.store.charge? x = e.store.charge? x
  unborn : ∀ x, e.store.charge? x = none → e'.store.charge? x = none
  payments : ∀ q p, s.payment ≠ some q → e.store.payment? q = some p → e'.store.payment? q = some p

namespace Leaves

variable {s : Section β} {e : Engine}

theorem refl (hasks : s.asks = none) (hev : s.event? = none) (hmsg : s.message? = none) :
    Leaves s e e where
  held := rfl
  outlets := rfl
  wf h := h
  calls x := by simp [hasks]
  changes := by simp [hev]
  messages := by simp [hmsg]
  rows _ _ := rfl
  unborn _ h := h
  payments _ _ _ h := h

theorem store {st : Store} (hasks : s.asks = none) (hev : s.event? = none)
    (hmsg : s.message? = none) (hwf : e.store.Wf → st.Wf)
    (hrows : ∀ x, s.row ≠ some x → st.charge? x = e.store.charge? x)
    (hunborn : ∀ x, e.store.charge? x = none → st.charge? x = none)
    (hpay : ∀ q p, s.payment ≠ some q → e.store.payment? q = some p → st.payment? q = some p) :
    Leaves s e { e with store := st } where
  held := rfl
  outlets := rfl
  wf := hwf
  calls x := by simp [hasks]
  changes := by simp [hev, Engine.statusChanges]
  messages := by simp [hmsg]
  rows := hrows
  unborn := hunborn
  payments := hpay

theorem saveCharge {id : Ident} {c c' v : Charge} {st : Store} (hrow : s.row = some id)
    (hasks : s.asks = none) (hev : s.event? = none) (hmsg : s.message? = none)
    (hc : e.store.charge? id = some c) (hs : e.store.saveCharge c' e.now = .ok (v, st))
    (hid : c'.id = id) : Leaves s e { e with store := st } := by
  have hread := Store.charge?_saveCharge e.store hs
  obtain ⟨row₀, -, heq⟩ := (Store.saveCharge_eq_ok e.store).mp hs
  cases heq
  refine store hasks hev hmsg (fun hwf => hwf.saveCharge hs) (fun x hx => ?_) (fun x hx => ?_)
    fun _ _ _ hp => hp
  · have hne : c'.id ≠ x := fun h => hx (hrow.trans (by rw [← hid, h]))
    rw [hread, if_neg hne]
  · have hne : c'.id ≠ x := fun h => by rw [← h, hid, hc] at hx; cases hx
    rw [hread, if_neg hne, hx]

theorem tally (k : Counter) (hasks : s.asks = none) (hev : s.event? = none)
    (hmsg : s.message? = none) : Leaves s e (e.tally k) where
  held := rfl
  outlets := rfl
  wf h := h
  calls x := by simp [hasks]
  changes := by simp [hev, Engine.statusChanges]
  messages := by simp [hmsg]
  rows _ _ := rfl
  unborn _ h := h
  payments _ _ _ h := h

end Leaves

theorem update_cases {id : Ident} {change : Charge → Svc Charge} {hch : Attempts.Change change}
    {e e' : Engine} {r : Except BillingError (ChargeState × Charge)}
    (h : (Section.update id change hch).exec.exec e = .ok (r, e')) :
    (e' = e ∧ ∃ err, r = .error err) ∨
      ∃ c c' v st, e.store.charge? id = some c ∧ c.Evolves c' ∧
        e.store.saveCharge c' e.now = .ok (v, st) ∧ r = .ok (c.state, v) ∧
        e' = { e with store := st } := by
  rcases withLock_cases h with ⟨-, rfl, rfl⟩ | ⟨-, e₁, hbody, rfl⟩
  · exact .inl ⟨rfl, _, rfl⟩
  rcases updateLocked_cases hch hbody with ⟨rfl, err, rfl⟩ | ⟨c, c', v, st, hc, hev, hs, rfl, rfl⟩
  · exact .inl ⟨by simp, err, rfl⟩
  · exact .inr ⟨c, c', v, st, hc, hev, hs, rfl, by simp⟩

theorem release_cases {id : Ident} {e e' : Engine} {r : Except BillingError (ChargeState × Charge)}
    (h : (Section.release id).exec.exec e = .ok (r, e')) :
    (e' = e ∧ ∃ err, r = .error err) ∨
      ∃ c v st, e.store.charge? id = some c ∧
        e.store.saveCharge c.givenBack e.now = .ok (v, st) ∧ r = .ok (c.state, v) ∧
        e' = { e with store := st } := by
  rcases withLock_cases h with ⟨-, rfl, rfl⟩ | ⟨-, e₁, hbody, rfl⟩
  · exact .inl ⟨rfl, _, rfl⟩
  have hgive : ∀ c, Reads (giveBack c) (fun c' => c' = c.givenBack) :=
    fun c => reads_pure rfl
  rcases updateLocked_cases hgive hbody with ⟨rfl, err, rfl⟩ | ⟨c, c', v, st, hc, rfl, hs, rfl, rfl⟩
  · exact .inl ⟨by simp, err, rfl⟩
  · exact .inr ⟨c, v, st, hc, hs, rfl, by simp⟩

theorem apply_cases {id : Ident} {u : Ledger.StatusRequest} {e e' : Engine}
    {r : Except BillingError (Option (PaymentStatus × PaymentStatus))}
    (h : (Section.apply id u).exec.exec e = .ok (r, e')) :
    (e' = e ∧ (∃ err, r = .error err) ∧
        (Ledger.paymentKey id ∈ e.held ∨ e.store.payment? id = none)) ∨
      ∃ p, e.store.payment? id = some p ∧
        ((Ledger.declines p u = true ∧ r = .ok none ∧
            e' = e.tally (.statusTransition (Ledger.verdict p u) u.status)) ∨
          (Ledger.declines p u = false ∧ r = .ok (some (p.status, u.status)) ∧
            e' = { e with store := Ledger.written e.store id u p e.now }.tally
              (.statusTransition "applied" u.status))) := by
  rcases withLock_cases h with ⟨hheld, rfl, rfl⟩ | ⟨hfree, e₁, hbody, rfl⟩
  · exact .inl ⟨rfl, ⟨_, rfl⟩, .inl hheld⟩
  rw [Ledger.exec_applyLocked] at hbody
  cases hp : e.store.payment? id with
  | none =>
    simp only [hp] at hbody
    cases hbody
    exact .inl ⟨by simp, ⟨_, rfl⟩, .inr rfl⟩
  | some p =>
    simp only [hp] at hbody
    refine .inr ⟨p, rfl, ?_⟩
    by_cases hd : Ledger.declines p u = true
    · simp only [hd, if_true] at hbody
      cases hbody
      exact .inl ⟨hd, rfl, by simp [Engine.tally]⟩
    · simp only [hd, Bool.false_eq_true, if_false] at hbody
      cases hbody
      exact .inr ⟨by simpa using hd, rfl, by simp [Engine.tally]⟩

theorem exec_createFor (c : Charge) (parent : Payment) (e : Engine) :
    (Section.createFor c parent).exec.exec e =
      .ok (.ok (e.store.createPayment (Run.draftFor c parent) e.now).1,
        { e with store := (e.store.createPayment (Run.draftFor c parent) e.now).2 }) := by
  show (Run.createFor c parent).exec e = _
  unfold Run.createFor
  rw [exec_bind_ok (exec_store e), exec_bind_ok (exec_now e)]
  rfl

theorem savePaymentStatus_written {s : Store} {id : Ident} {p : Payment} (hp : s.payment? id = some p)
    (u : Ledger.StatusRequest) (t : Instant) :
    s.savePaymentStatus id (u.writeOn p t) t = .ok (u.applyTo p t, Ledger.written s id u p t) := by
  refine (Store.savePaymentStatus_eq_ok s).mpr ⟨p, hp, ?_⟩
  rw [Ledger.write_writeOn]
  rfl

theorem leaves {s : Section β} {e e' : Engine} {r : Except BillingError β}
    (h : s.exec.exec e = .ok (r, e')) : Leaves s e e' := by
  cases s with
  | claim id =>
    rcases claim_cases h with ⟨rfl, -⟩ | ⟨c, v, st, hc, -, -, hs, -, rfl⟩
    · exact .refl rfl rfl rfl
    · exact .saveCharge rfl rfl rfl rfl hc hs (show c.id = id from Store.id_of_charge? e.store hc)
  | update id change hch =>
    rcases update_cases h with ⟨rfl, -⟩ | ⟨c, c', v, st, hc, hev, hs, -, rfl⟩
    · exact .refl rfl rfl rfl
    · exact .saveCharge rfl rfl rfl rfl hc hs (hev.id.trans (Store.id_of_charge? e.store hc))
  | release id =>
    rcases release_cases h with ⟨rfl, -⟩ | ⟨c, v, st, hc, hs, -, rfl⟩
    · exact .refl rfl rfl rfl
    · have hid : c.givenBack.id = id := by
        rw [← Store.id_of_charge? e.store hc]
        unfold Charge.givenBack
        split <;> rfl
      exact .saveCharge rfl rfl rfl rfl hc hs hid
  | apply id u =>
    rcases apply_cases h with ⟨rfl, -⟩ | ⟨p, hp, ⟨-, -, rfl⟩ | ⟨-, -, rfl⟩⟩
    · exact .refl rfl rfl rfl
    · exact .tally _ rfl rfl rfl
    · have hs := savePaymentStatus_written hp u e.now
      have hl : Leaves (Section.apply id u) e { e with store := Ledger.written e.store id u p e.now } :=
        .store rfl rfl rfl (fun hwf => hwf.savePaymentStatus hs) (fun _ _ => rfl) (fun _ hx => hx)
          fun q p₀ hq hp₀ => by
            rw [Ledger.payment?_written hp, if_neg fun h => hq (by rw [h]; rfl)]
            exact hp₀
      -- the tally after the write moves only the counters, so every field of hl still holds
      exact { hl with calls := hl.calls, changes := hl.changes, messages := hl.messages }
  | call g p c =>
    rw [show (Section.call g p c).exec = Run.callGateway g p c from rfl,
      Run.exec_callGateway] at h
    cases h
    exact { held := rfl, outlets := rfl, wf := fun h => h,
            calls := fun x => by simp [asks, Engine.afterCharge],
            changes := by simp [event?, Engine.statusChanges, Engine.afterCharge],
            messages := by simp [message?, Engine.afterCharge],
            rows := fun _ _ => rfl, unborn := fun _ h => h, payments := fun _ _ _ h => h }
  | createFor c parent =>
    rw [exec_createFor] at h
    cases h
    refine .store rfl rfl rfl (fun hwf => hwf.createPayment _ _) (fun _ _ => ?_) (fun _ hx => ?_)
      fun q p₀ _ hp₀ => ?_
    · rw [Store.createPayment_eq]
      rfl
    · rw [Store.createPayment_eq]
      exact hx
    · rw [Store.createPayment_eq]
      exact (Store.payment?_append e.store _ q).trans (by rw [hp₀]; rfl)
  | log payment charge resp =>
    rw [show (Section.log payment charge resp).exec = Run.appendLog payment charge resp from rfl,
      Run.exec_appendLog] at h
    cases h
    exact .store rfl rfl rfl (fun hwf => hwf.appendAudit _) (fun _ _ => rfl) (fun _ hx => hx)
      fun _ _ _ hp => hp
  | emit ev op =>
    rw [show (Section.emit ev op).exec = Svc.emit ev op from rfl, exec_emit] at h
    cases h
    exact { held := by simp, outlets := by simp, wf := by simp,
            calls := fun x => by simp [asks],
            changes := by
              simp only [Engine.statusChanges, announce_events, List.filterMap_append, event?,
                Option.bind_some]
              split <;> cases ev <;> rfl,
            messages := by simp [message?],
            rows := fun _ _ => by simp, unborn := fun _ h => by simpa using h,
            payments := fun _ _ _ h => by simpa using h }
  | publish m op =>
    rw [show (Section.publish m op).exec = Svc.publish m op from rfl, exec_publish] at h
    cases h
    exact { held := by simp, outlets := by simp, wf := by simp,
            calls := fun x => by simp [asks],
            changes := by simp [event?, Engine.statusChanges],
            messages := by simp [post_messages, message?, Engine.posts],
            rows := fun _ _ => by simp, unborn := fun _ h => by simpa using h,
            payments := fun _ _ _ h => by simpa using h }
  | count k =>
    rw [show (Section.count k).exec = Svc.count k from rfl, exec_count] at h
    cases h
    exact .tally k rfl rfl rfl
  | due ids =>
    obtain ⟨rfl, -⟩ := chargeable_cases h
    exact .refl rfl rfl rfl
  | read m hm =>
    obtain ⟨rfl, -⟩ := hm e r e' h
    exact .refl rfl rfl rfl

theorem returns_emit {ev : BillingEvent} {op : String} {r : Except BillingError Unit}
    (h : (Section.emit ev op).Returns r) : r = .ok () := by
  obtain ⟨e, e', hx⟩ := h
  rw [show (Section.emit ev op).exec = Svc.emit ev op from rfl, exec_emit] at hx
  cases hx
  rfl

theorem returns_publish {m : StatusMessage} {op : String} {r : Except BillingError Unit}
    (h : (Section.publish m op).Returns r) : r = .ok () := by
  obtain ⟨e, e', hx⟩ := h
  rw [show (Section.publish m op).exec = Svc.publish m op from rfl, exec_publish] at hx
  cases hx
  rfl

/-! ## Under an attempt's lock -/

variable {s : Section β} {e e' : Engine} {r : Except BillingError β} {x : Ident}

/-- A claim that hands the attempt over found it stored with no status, and leaves it marked. -/
theorem armed_of_claimed (h : s.exec.exec e = .ok (r, e')) (hc : s.claimed x r = true) :
    e.armed x = true ∧ e'.armed x = false := by
  cases s with
  | claim id =>
    rcases claim_cases h with ⟨-, hne⟩ | ⟨c, v, st, hc₀, -, hnone, hs, rfl, rfl⟩
    · rcases r with err | _ | v
      · simp [claimed] at hc
      · simp [claimed] at hc
      · exact absurd rfl (hne v)
    · have hid : id = x := by simpa [claimed] using hc
      subst hid
      obtain ⟨hread, -, -, hstatus, -⟩ := Store.saveCharge_read e.store hs
      have hv : st.charge? id = some v := by
        rw [← Store.id_of_charge? e.store hc₀]
        exact hread
      exact ⟨by simp [Engine.armed, hc₀, hnone], by simp [Engine.armed, hv, hstatus]⟩
  | _ => simp [claimed] at hc

theorem claimed_id {y : Ident} {c : Charge} (h : (Section.claim y).Returns (.ok (some c))) :
    c.id = y := by
  obtain ⟨e, e', hx⟩ := h
  rcases claim_cases hx with ⟨-, hne⟩ | ⟨c₀, v, st, hc₀, -, -, hs, hr, -⟩
  · exact absurd rfl (hne c)
  · cases hr
    obtain ⟨-, hid, -⟩ := Store.saveCharge_read e.store hs
    exact hid.trans (show c₀.id = y from Store.id_of_charge? e.store hc₀)

theorem retriesNonneg_saveCharge {c' v : Charge} {st : Store}
    (hs : e.store.saveCharge c' e.now = .ok (v, st)) (hid : c'.id = x) (hr : 0 ≤ c'.retries) :
    ({ e with store := st } : Engine).RetriesNonneg x := by
  obtain ⟨hread, -, -, -, -, hret, -⟩ := Store.saveCharge_read e.store hs
  intro c₁ hc₁
  rw [show ({ e with store := st } : Engine).store = st from rfl, ← hid, hread] at hc₁
  cases hc₁
  rw [hret]
  exact hr

theorem retriesNonneg_after (h : s.exec.exec e = .ok (r, e')) (hn : e.RetriesNonneg x) :
    e'.RetriesNonneg x := by
  by_cases hrow : s.row = some x
  · cases s with
    | claim id =>
      obtain rfl : id = x := by simpa [row] using hrow
      rcases claim_cases h with ⟨rfl, -⟩ | ⟨c, v, st, hc, -, -, hs, -, rfl⟩
      · exact hn
      · exact retriesNonneg_saveCharge hs (show c.id = id from Store.id_of_charge? e.store hc)
          (hn c hc)
    | update id change hch =>
      obtain rfl : id = x := by simpa [row] using hrow
      rcases update_cases h with ⟨rfl, -⟩ | ⟨c, c', v, st, hc, hev, hs, -, rfl⟩
      · exact hn
      · exact retriesNonneg_saveCharge hs (hev.id.trans (Store.id_of_charge? e.store hc))
          (hev.nonneg (hn c hc))
    | release id =>
      obtain rfl : id = x := by simpa [row] using hrow
      rcases release_cases h with ⟨rfl, -⟩ | ⟨c, v, st, hc, hs, -, rfl⟩
      · exact hn
      · -- giving the claim back keeps the identifier and the retries
        have hgb : c.givenBack.id = c.id ∧ c.givenBack.retries = c.retries := by
          unfold Charge.givenBack
          split <;> exact ⟨rfl, rfl⟩
        exact retriesNonneg_saveCharge hs (hgb.1.trans (Store.id_of_charge? e.store hc))
          (hgb.2 ▸ hn c hc)
    | _ => simp [row] at hrow
  · intro c hc
    rw [(leaves h).rows x hrow] at hc
    exact hn c hc

theorem retriesNonneg_of_lists (h : s.exec.exec e = .ok (r, e')) (hl : s.lists x r = true)
    (hwf : e.store.Wf) : e.RetriesNonneg x := by
  cases s with
  | due ids =>
    obtain ⟨-, due, -, rfl⟩ := chargeable_cases h
    obtain ⟨c, hc, hcx⟩ : ∃ c ∈ e.store.findChargeable e.shuffle due ids, c.id = x := by
      simpa [lists] using hl
    obtain ⟨hmem, -, -, hnn, -⟩ := Store.of_mem_findChargeable hc
    intro c₁ hc₁
    rw [← hcx, hwf.charge?_of_mem hmem] at hc₁
    cases hc₁
    exact hnn
  | _ => simp [lists] at hl

theorem potential_of_row_ne (hl : Leaves s e e') (hrow : s.row ≠ some x) :
    e'.potential x = e.potential x + if s.asks = some x then 1 else 0 := by
  simp only [Engine.potential, Engine.budgetOf, hl.calls x, hl.rows x hrow]
  omega

theorem potential_after (h : s.exec.exec e = .ok (r, e'))
    (hnn : s.claimed x r = true → e.RetriesNonneg x) :
    e'.potential x + (s.claimed x r).toNat ≤ e.potential x + (s.gives x).toNat := by
  by_cases hrow : s.row = some x
  · cases s with
    | claim id =>
      obtain rfl : id = x := by simpa [row] using hrow
      rcases claim_cases h with ⟨rfl, hne⟩ | ⟨c, v, st, -, -, -, -, rfl, rfl⟩
      · have hc : claimed id (Section.claim id) r = false := by
          rcases r with err | _ | v
          · rfl
          · rfl
          · exact absurd rfl (hne v)
        simp [hc]
      · have hc : claimed id (Section.claim id) (.ok (some v)) = true := by simp [claimed]
        obtain ⟨-, hdrop, -⟩ := Engine.Spends.claim h (hnn hc)
        simp only [hc, gives, Bool.toNat_true, Bool.toNat_false]
        omega
    | update id change hch =>
      obtain rfl : id = x := by simpa [row] using hrow
      rcases update_cases h with ⟨rfl, -⟩ | ⟨c, c', v, st, hc, hev, hs, -, rfl⟩
      · simp [claimed, gives]
      · have hc' : e.store.charge? c'.id = some c := by
          rw [hev.id, Store.id_of_charge? e.store hc, hc]
        have hsp := Engine.Spends.of_routine (Routine.saveCharge hc' hev hs)
        simpa [claimed, gives] using hsp.potential id c hc
    | release id =>
      obtain rfl : id = x := by simpa [row] using hrow
      rcases release_cases h with ⟨rfl, -⟩ | ⟨c, v, st, hc, hs, -, rfl⟩
      · simp [claimed, gives]
      · -- the claim given back may restore the one charge the claim took, and no more
        obtain ⟨hread, -, -, -, -, hret, -⟩ := Store.saveCharge_read e.store hs
        have hgb : c.givenBack.id = c.id ∧ c.givenBack.retries = c.retries := by
          unfold Charge.givenBack
          split <;> exact ⟨rfl, rfl⟩
        have hv : ({ e with store := st } : Engine).store.charge? id = some v := by
          rw [← Store.id_of_charge? e.store hc, ← hgb.1]
          exact hread
        rw [Engine.potential_of_charge? hv, Engine.potential_of_charge? hc]
        have h₁ := v.budget_le_succ
        have h₂ := c.toNat_le_budget
        rw [hret, hgb.2] at h₁
        simp only [claimed, gives, beq_self_eq_true, Bool.toNat_true, Bool.toNat_false]
        show callsFor id e.journal.charges + v.budget + 0 ≤ callsFor id e.journal.charges + c.budget + 1
        omega
    | _ => simp [row] at hrow
  · have hasks : (if s.asks = some x then 1 else 0) ≤ (s.gives x).toNat := by
      split
      · next ha => rw [gives_of_asks ha]; rfl
      · exact Nat.zero_le _
    rw [potential_of_row_ne (leaves h) hrow, claimed_eq_false_of_ne hrow r]
    simp only [Bool.toNat_false, Nat.add_zero]
    omega

/-! ## Under a payment's lock -/

/-- What a section does to a stored payment: a status request on it that went through moves its
status from the old one it reports to the new one; every other section leaves it as it is. -/
theorem payment_after (h : s.exec.exec e = .ok (r, e')) {q : Ident} {p : Payment}
    (hp : e.store.payment? q = some p) :
    ∃ p', e'.store.payment? q = some p' ∧ (s.applied q r = none → p' = p) ∧
      ∀ o n b, s.applied q r = some (o, n, b) → o = p.status ∧ n = p'.status ∧ o ≠ n := by
  by_cases hpay : s.payment = some q
  · cases s with
    | apply id u =>
      obtain rfl : id = q := by simpa [payment] using hpay
      rcases apply_cases h with ⟨rfl, ⟨err, rfl⟩, -⟩ | ⟨p₀, hp₀, ⟨-, rfl, rfl⟩ | ⟨hd, rfl, rfl⟩⟩
      · exact ⟨p, hp, fun _ => rfl, fun o n b hab => by simp [applied] at hab⟩
      · rw [hp] at hp₀
        cases hp₀
        exact ⟨p, by simpa using hp, fun _ => rfl, fun o n b hab => by simp [applied] at hab⟩
      · rw [hp] at hp₀
        cases hp₀
        -- a request that was not declined asks for a status the payment does not have
        have hne : p.status ≠ u.status := fun heq => by
          have hdec := (Ledger.declines_eq_true_iff p u).mpr (.inl heq)
          rw [hd] at hdec
          cases hdec
        refine ⟨u.applyTo p e.now, by simp [Ledger.payment?_written hp],
          fun hab => by simp [applied] at hab, fun o n b hab => ?_⟩
        simp only [applied, if_true, Option.some.injEq, Prod.mk.injEq] at hab
        obtain ⟨rfl, rfl, -⟩ := hab
        exact ⟨rfl, rfl, hne⟩
    | _ => simp [payment] at hpay
  · refine ⟨p, (leaves h).payments q p hpay hp, fun _ => rfl, fun o n b hab => ?_⟩
    exact absurd (payment_of_applied hab) hpay

theorem applied_of_missing (h : s.exec.exec e = .ok (r, e')) {q : Ident}
    (hp : e.store.payment? q = none) : s.applied q r = none := by
  cases s with
  | apply id u =>
    rcases apply_cases h with ⟨-, ⟨err, rfl⟩, -⟩ | ⟨p₀, hp₀, ⟨-, rfl, -⟩ | ⟨-, rfl, -⟩⟩
    · rfl
    · rfl
    · by_cases hid : id = q
      · subst hid
        rw [hp] at hp₀
        cases hp₀
      · simp [applied, hid]
  | _ => rfl

end Section

end Rebill
