import Rebill.Proofs.MoveAnnouncements

/-!
# The order of the events of a payment and of an attempt

A status request decides under the payment's lock and announces the change it made once the lock
is given back; a change of an attempt through the registry does the same under the attempt's
lock. The changes themselves are serialised by the locks, but their events are not: between a
request's decision and its event, another request may change the same payment and announce its
change first.

The callers that overlap here are runs, status requests and changes of attempts through the
registry (`Caller`). Over every interleaving of their sections:

* the changes made of a payment form a lawful history from its first status to its last
  (`StatusCourse`, `Pool.Runs.status_course`), and the moves made of an attempt chain from its
  first state to its last (`Pool.Runs.state_course`);
* a payment is an `Outlet` (`Outlet.status`), and every caller settles with it and with every
  attempt: the stakes of the payments give the first (`Party.settles_status`), and the workers'
  own lemmas the second;
* so once every caller has ended, a sink that records every event holds each payment's and each
  attempt's events as the changes made, up to order, and in their order when each change waited
  until the sink had recorded every change of the same entity made before it
  (`events_follow_the_changes_up_to_order`).

The events need not be in the order of the changes: `events_can_miss_the_order_of_the_changes`
runs two requests on one payment so that the later change is announced first, and shows a sink
that refuses events record nothing of a change that was made.
-/

namespace Rebill

open Svc Attempts

/-! ## A payment, as the sink hears it -/

namespace Section

variable {β : Type} {s : Section β} {q : Ident}

theorem announces_of_payment (h : s.payment = some q) : s.announces q = none := by
  cases s <;> simp_all [payment, announces, event?]

theorem statusChange_of_announces {d : PaymentStatus × PaymentStatus × Bool}
    (h : s.announces q = some d) : s.event?.bind BillingEvent.statusChange? = some (q, d) := by
  unfold announces at h
  rcases hev : s.event?.bind BillingEvent.statusChange? with _ | ⟨y, c⟩
  · simp [hev] at h
  · by_cases hy : y = q
    · subst hy
      simp_all
    · simp [hev, hy] at h

end Section

/-- The payment `q`, seen by the sink: the changes its status requests make and announce, and
the changes of `q` the recorder kept. -/
def Outlet.status (q : Ident) : Outlet (PaymentStatus × PaymentStatus × Bool) where
  locks s := s.payment = some q
  made s r := s.applied q r
  told s := s.announces q
  record e := e.announced q
  locks_of_made h := Section.payment_of_applied h
  told_of_locks h := Section.announces_of_payment h
  record_step h := (Section.leaves h).announced q

theorem Outlet.changes_status (q : Ident) (bs : List Beat) :
    (Outlet.status q).changes bs = changesMade q bs := rfl

namespace Stake

variable {x q : Ident} {t : Stake} {β : Type} {s : Section β} {r : Except BillingError β}

theorem allows_status (ha : allows x q t s) : (Outlet.status q).owing.allows t.owed.event? s := by
  refine ⟨fun hp => ?_, fun d hd => ?_⟩
  · cases s with
    | apply id u =>
      obtain rfl : id = q := by simpa [Outlet.status, Section.payment] using hp
      simp [ha rfl, Owed.event?]
    | _ => simp [Outlet.status, Section.payment] at hp
  · obtain ⟨o, n, b⟩ := d
    simp [owed_of_event ha (Section.statusChange_of_announces hd), Owed.event?]

theorem after_status (ha : allows x q t s) :
    (owing q t.owed s r).event? = (Outlet.status q).owing.after t.owed.event? s r := by
  have hstake := owing_event (r := r) ha
  have hout := Outlet.owing_step (O := Outlet.status q) (r := r) (allows_status ha)
  have hlist := List.append_cancel_left (hstake.trans hout.symm)
  simpa using congrArg List.head? hlist

theorem settles_status {α : Type} {Q : Stake → Except BillingError α → Prop} {w : Worker α}
    (h : Worker.Follows (stakes x q) Q t w) (ht : t.owed = .nothing)
    (hQ : ∀ t r, Q t r → t.owed = .nothing) : (Outlet.status q).Settles w := by
  have hs : Worker.Follows (Outlet.status q).owing (fun d _ => d = none) t.owed.event? w :=
    h.simulate (fun t : Stake => t.owed.event?) (fun _ _ _ ha => allows_status ha)
      (fun _ _ _ _ ha => after_status ha) fun t r hq => by simp [hQ t r hq, Owed.event?]
  rw [ht] at hs
  exact hs

end Stake

/-- A run or a status request announces each change of `q` it makes before it makes another. -/
theorem Party.settles_status (q : Ident) (pa : Party) : (Outlet.status q).Settles pa.worker :=
  Stake.settles_status (Party.follows (x := q) pa) rfl fun _ _ h => h.1

theorem Worker.settles_update_status (q id : Ident) (change : Charge → Svc Charge)
    (h : Attempts.Change change) : (Outlet.status q).Settles (Worker.update id change h) :=
  Stake.settles_status (Worker.keeps_update (x := q) id change h ⟨false, 0, .nothing, 0, false⟩)
    rfl fun _ _ h => h ▸ rfl

theorem Party.settles_state (x : Ident) (pa : Party) : (Outlet.state x).Settles pa.worker := by
  cases pa with
  | run ids => exact (Worker.settles_run ids).map _
  | request id u => exact (Worker.settles_updateStatus id u).map _

/-! ## The status of a payment along an interleaving -/

/-- The status of the payment `q` as the engine stores it. -/
def Engine.statusOf (e : Engine) (q : Ident) : Option PaymentStatus :=
  (e.store.payment? q).map (·.status)

/-- What an interleaving may do to the status of one payment through the changes `l`: leave it
unstored, open it in `form` and move it along a lawful history, or move the stored payment along
a lawful history. -/
inductive StatusCourse :
    Option PaymentStatus → List (PaymentStatus × PaymentStatus) → Option PaymentStatus → Prop where
  | absent : StatusCourse none [] none
  | opened {l : List (PaymentStatus × PaymentStatus)} {t : PaymentStatus}
      (h : StatusHistory .form l t) : StatusCourse none l (some t)
  | stored {s t : PaymentStatus} {l : List (PaymentStatus × PaymentStatus)}
      (h : StatusHistory s l t) : StatusCourse (some s) l (some t)

namespace StatusCourse

theorem refl (s : Option PaymentStatus) : StatusCourse s [] s := by
  cases s with
  | none => exact absent
  | some s => exact stored (.nil s)

theorem trans {s t u : Option PaymentStatus} {l₁ l₂ : List (PaymentStatus × PaymentStatus)}
    (h₁ : StatusCourse s l₁ t) (h₂ : StatusCourse t l₂ u) : StatusCourse s (l₁ ++ l₂) u := by
  cases h₁ with
  | absent => exact h₂
  | opened h =>
    cases h₂ with
    | stored h' => exact opened (h.append h')
  | stored h =>
    cases h₂ with
    | stored h' => exact stored (h.append h')

end StatusCourse

/-- The status change of a beat's change, without its flag. -/
def statusPair (c : PaymentStatus × PaymentStatus × Bool) : PaymentStatus × PaymentStatus :=
  (c.1, c.2.1)

namespace Section

variable {β : Type} {s : Section β} {e e' : Engine} {r : Except BillingError β} {q : Ident}

theorem applied_lawful (h : s.exec.exec e = .ok (r, e')) {o n : PaymentStatus} {b : Bool}
    (ha : s.applied q r = some (o, n, b)) : ¬(o.isPaidLike = true ∧ n = .fail) := by
  cases s with
  | apply id u =>
    rcases apply_cases h with ⟨-, ⟨err, rfl⟩, -⟩ | ⟨p, -, ⟨-, rfl, -⟩ | ⟨hd, rfl, -⟩⟩
    · simp [applied] at ha
    · simp [applied] at ha
    · have hq : id = q := by simpa [payment] using payment_of_applied ha
      simp only [applied, hq, if_true, Option.some.injEq, Prod.mk.injEq] at ha
      obtain ⟨rfl, rfl, -⟩ := ha
      intro hpaid
      have hdec := (Ledger.declines_eq_true_iff p u).mpr (.inr hpaid)
      rw [hd] at hdec
      cases hdec
  | _ => simp [applied] at ha

theorem statusOf_of_missing (h : s.exec.exec e = .ok (r, e')) (hp : e.store.payment? q = none) :
    e'.statusOf q = none ∨ e'.statusOf q = some .form := by
  have hsave : ∀ {c v : Charge} {st : Store}, e.store.saveCharge c e.now = .ok (v, st) →
      ({ e with store := st } : Engine).statusOf q = none := by
    intro c v st hs
    have hst : st.payment? q = e.store.payment? q := by
      unfold Store.payment?
      rw [Store.payments_of_saveCharge e.store hs]
    simp [Engine.statusOf, hst, hp]
  cases s with
  | claim id =>
    rcases claim_cases h with ⟨rfl, -⟩ | ⟨c, v, st, -, -, -, hs, -, rfl⟩
    · simp [Engine.statusOf, hp]
    · exact .inl (hsave hs)
  | update id change hch =>
    rcases update_cases h with ⟨rfl, -⟩ | ⟨c, c', v, st, -, -, hs, -, rfl⟩
    · simp [Engine.statusOf, hp]
    · exact .inl (hsave hs)
  | release id =>
    rcases release_cases h with ⟨rfl, -⟩ | ⟨c, v, st, -, hs, -, rfl⟩
    · simp [Engine.statusOf, hp]
    · exact .inl (hsave hs)
  | apply id u =>
    rcases apply_cases h with ⟨rfl, -⟩ | ⟨p, hp₀, ⟨-, -, rfl⟩ | ⟨-, -, rfl⟩⟩
    · simp [Engine.statusOf, hp]
    · simp [Engine.statusOf, hp]
    · -- the request wrote its own payment, which is stored, so not `q`
      have hne : id ≠ q := fun hid => by rw [hid, hp] at hp₀; cases hp₀
      simp [Engine.statusOf, Ledger.payment?_written hp₀, hne, hp]
  | call g p c =>
    rw [show (Section.call g p c).exec = Run.callGateway g p c from rfl,
      Run.exec_callGateway] at h
    cases h
    simp [Engine.statusOf, hp]
  | createFor c parent =>
    rw [exec_createFor] at h
    cases h
    -- the payment opened is the only new one, and it is opened in `form`
    rcases hcp : e.store.createPayment (Run.draftFor c parent) e.now with ⟨p, st⟩
    have hps : st.payment? q = if p.id = q then some p else none := by
      rw [Store.createPayment_eq] at hcp
      cases hcp
      exact (Store.payment?_append e.store _ q).trans (by rw [hp, Option.none_or])
    have hform : p.status = .form := by
      rw [Store.createPayment_eq] at hcp
      cases hcp
      rfl
    by_cases hid : p.id = q <;> simp [Engine.statusOf, hps, hid, hform]
  | log payment charge resp =>
    rw [show (Section.log payment charge resp).exec = Run.appendLog payment charge resp from rfl,
      Run.exec_appendLog] at h
    cases h
    simp [Engine.statusOf, hp]
  | emit ev op =>
    rw [show (Section.emit ev op).exec = Svc.emit ev op from rfl, exec_emit] at h
    cases h
    simp [Engine.statusOf, hp]
  | publish m op =>
    rw [show (Section.publish m op).exec = Svc.publish m op from rfl, exec_publish] at h
    cases h
    simp [Engine.statusOf, hp]
  | count k =>
    rw [show (Section.count k).exec = Svc.count k from rfl, exec_count] at h
    cases h
    simp [Engine.statusOf, hp]
  | due ids =>
    obtain ⟨rfl, -⟩ := chargeable_cases h
    simp [Engine.statusOf, hp]
  | read m hm =>
    obtain ⟨rfl, -⟩ := hm e r e' h
    simp [Engine.statusOf, hp]

theorem status_course (h : s.exec.exec e = .ok (r, e')) (q : Ident) :
    StatusCourse (e.statusOf q) ((s.applied q r).toList.map statusPair) (e'.statusOf q) := by
  cases hp : e.store.payment? q with
  | none =>
    rw [applied_of_missing h hp]
    have hnone : e.statusOf q = none := by simp [Engine.statusOf, hp]
    rw [hnone]
    rcases statusOf_of_missing h hp with h' | h'
    · rw [h']
      exact .absent
    · rw [h']
      exact .opened (.nil _)
  | some p =>
    obtain ⟨p', hp', hsame, hmoved⟩ := payment_after h hp
    have hst : e.statusOf q = some p.status := by simp [Engine.statusOf, hp]
    have hst' : e'.statusOf q = some p'.status := by simp [Engine.statusOf, hp']
    rw [hst, hst']
    rcases ha : s.applied q r with _ | ⟨o, n, b⟩
    · rw [hsame ha]
      exact .stored (.nil _)
    · obtain ⟨rfl, rfl, hne⟩ := hmoved o n b ha
      exact .stored (.cons hne (applied_lawful h ha) (.nil _))

end Section

/-- Over an interleaving, the changes made of the payment `q` form a lawful history from its
status at the start, or from `form` when it is opened during the interleaving, to its status at
the end. -/
theorem Pool.Runs.status_course {α : Type} {p p' : Pool α} {bs : List Beat}
    (h : Pool.Runs p bs p') (q : Ident) :
    StatusCourse (p.engine.statusOf q) ((changesMade q bs).map statusPair)
      (p'.engine.statusOf q) := by
  induction h with
  | nil => exact StatusCourse.refl _
  | snoc _ hs ih =>
    obtain ⟨hb, ha⟩ := hs.engines
    rw [changesMade_append_singleton, List.map_append]
    exact ih.trans (ha ▸ hb ▸ Section.status_course hs.ran q)

/-! ## Callers -/

/-- A caller of the billing core: a run or a status request, or a change of an attempt through
the registry, such as a transition. -/
inductive Caller where
  | party (pa : Party)
  | registry (id : Ident) (change : Charge → Svc Charge) (h : Attempts.Change change)

namespace Caller

def worker : Caller → Worker ((Run.Summary ⊕ Bool) ⊕ Charge)
  | .party pa => Sum.inl <$> pa.worker
  | .registry id change h => Sum.inr <$> Worker.update id change h

/-- Callers sharing the engine `e`, each as its worker. -/
def pool (cs : List Caller) (e : Engine) : Pool ((Run.Summary ⊕ Bool) ⊕ Charge) :=
  ⟨cs.map worker, e⟩

theorem settles_status (q : Ident) (c : Caller) : (Outlet.status q).Settles c.worker := by
  cases c with
  | party pa => exact (Party.settles_status q pa).map _
  | registry id change h => exact (Worker.settles_update_status q id change h).map _

theorem settles_state (x : Ident) (c : Caller) : (Outlet.state x).Settles c.worker := by
  cases c with
  | party pa => exact (Party.settles_state x pa).map _
  | registry id change h => exact (Worker.settles_update id change h).map _

end Caller

/-! ## Deciding that every caller ended, and that each change waited -/

def Worker.ended {α : Type} : Worker α → Bool
  | .done _ => true
  | .next _ _ => false

theorem Pool.quiet_of_ended {α : Type} {p : Pool α} (h : p.workers.all Worker.ended = true) :
    p.Quiet := by
  intro w hw
  cases w with
  | done r => exact ⟨r, rfl⟩
  | next s k => cases List.all_eq_true.mp h _ hw

theorem Pool.play_check {α : Type} {p : Pool α} {is : List Nat} {f : List Beat × Pool α → Bool}
    (h : (p.play is).toOption.any f = true) : ∃ bs p', Pool.Runs p bs p' ∧ f (bs, p') = true := by
  cases hx : p.play is with
  | error o => simp [hx, Except.toOption] at h
  | ok x =>
    obtain ⟨bs, p'⟩ := x
    simp only [hx, Except.toOption, Option.any_some] at h
    exact ⟨bs, p', Pool.play_runs hx, h⟩

namespace Outlet

variable {δ : Type} (O : Outlet δ)

/-- `Waits`, decided beat by beat: `n` counts the changes made before the beats. -/
def waitsAfter (e₀ : Engine) : Nat → List Beat → Bool
  | _, [] => true
  | n, b :: bs =>
    (!(O.made b.part b.result).isSome ||
        (O.record b.before).length == (O.record e₀).length + n) &&
      waitsAfter e₀ (n + (O.made b.part b.result).toList.length) bs

variable {O} {e₀ : Engine}

theorem waits_of_waitsAfter {bs₀ bs : List Beat}
    (h : O.waitsAfter e₀ (O.changes bs₀).length bs = true) (bs₁ : List Beat) (b : Beat)
    (bs₂ : List Beat) (hs : bs = bs₁ ++ b :: bs₂) (hm : (O.made b.part b.result).isSome) :
    (O.record b.before).length = (O.record e₀).length + (O.changes (bs₀ ++ bs₁)).length := by
  -- the beats are checked from the first, so the induction runs down the list, moving each
  -- checked beat to the changes before
  induction bs generalizing bs₀ bs₁ with
  | nil => simp at hs
  | cons c cs ih =>
    simp only [waitsAfter, Bool.and_eq_true, Bool.or_eq_true, Bool.not_eq_true',
      Option.isSome_eq_false_iff, beq_iff_eq] at h
    obtain ⟨hc, hrest⟩ := h
    cases bs₁ with
    | nil =>
      obtain ⟨rfl, rfl⟩ := List.cons.inj hs
      rcases hc with hnone | hlen
      · rw [Option.isNone_iff_eq_none] at hnone
        rw [hnone] at hm
        cases hm
      · simpa using hlen
    | cons c' bs₁ =>
      obtain ⟨rfl, hs'⟩ := List.cons.inj hs
      have hlen : (O.changes (bs₀ ++ [c])).length =
          (O.changes bs₀).length + (O.made c.part c.result).toList.length := by
        rw [changes_append_singleton, List.length_append]
      rw [← hlen] at hrest
      simpa using ih hrest bs₁ hs'

theorem waits_of_check {bs : List Beat} (h : O.waitsAfter e₀ 0 bs = true) : O.Waits e₀ bs := by
  have h₀ : O.waitsAfter e₀ (O.changes []).length bs = true := h
  intro bs₁ b bs₂ hs hm
  simpa using waits_of_waitsAfter h₀ bs₁ b bs₂ hs hm

end Outlet

/-! ## Every interleaving -/

/-- Runs, status requests and changes of attempts in any interleaving, each lock's body and each
call of the store running atomically: the changes made of a payment form a lawful history from its
first status to its last, and the moves made of an attempt chain from its first state to its last,
none out of a closed state. Once every caller has ended, while the sink records every event, its
events of a payment and of an attempt are those changes up to order; and in their order when each
change was made only once the sink had recorded every change of the same entity made before it. -/
theorem events_follow_the_changes_up_to_order {cs : List Caller} {e₀ : Engine} {bs : List Beat}
    {p' : Pool ((Run.Summary ⊕ Bool) ⊕ Charge)} (h : Pool.Runs (Caller.pool cs e₀) bs p') :
    (∀ q, StatusCourse (e₀.statusOf q) ((changesMade q bs).map statusPair)
      (p'.engine.statusOf q)) ∧
    (∀ x, Course (fun a _ => a.isClosed = false) (e₀.store.stateOf x)
      ((Outlet.state x).changes bs) (p'.engine.store.stateOf x)) ∧
    (p'.Quiet → e₀.heard = true →
      (∀ q, (p'.engine.announced q).Perm (e₀.announced q ++ changesMade q bs) ∧
        ((Outlet.status q).Waits e₀ bs →
          p'.engine.announced q = e₀.announced q ++ changesMade q bs)) ∧
      ∀ x, (movesOf x p'.engine.moves).Perm (movesOf x e₀.moves ++ (Outlet.state x).changes bs) ∧
        ((Outlet.state x).Waits e₀ bs →
          movesOf x p'.engine.moves = movesOf x e₀.moves ++ (Outlet.state x).changes bs)) := by
  have hpay : ∀ q, ∀ w ∈ cs.map Caller.worker, (Outlet.status q).Settles w := by
    intro q w hw
    obtain ⟨c, -, rfl⟩ := List.mem_map.mp hw
    exact c.settles_status q
  have hatt : ∀ x, ∀ w ∈ cs.map Caller.worker, (Outlet.state x).Settles w := by
    intro x w hw
    obtain ⟨c, -, rfl⟩ := List.mem_map.mp hw
    exact c.settles_state x
  refine ⟨h.status_course, h.state_course, fun hq hh => ⟨fun q => ⟨?_, fun hw => ?_⟩,
    fun x => ⟨?_, fun hw => ?_⟩⟩⟩
  · exact (Outlet.status q).record_perm (hpay q) h hq hh
  · exact (Outlet.status q).record_eq (hpay q) h hq hh hw
  · exact (Outlet.state x).record_perm (hatt x) h hq hh
  · exact (Outlet.state x).record_eq (hatt x) h hq hh hw

/-- Two requests on a form payment, the second started once the first has ended: the payment
goes from form to paid to refund, and the sink hears the two changes in that order. -/
theorem requests_in_turn_reach_the_sink_in_turn :
    let p₀ : Payment :=
      { id := Ident.ofSerial 1, user := ⟨0⟩, gateway := "test", status := .form,
        amount := ⟨1999, 2, false⟩, paidAt := none, subscription := none, catalogItem := none,
        address := none, isRecurrent := false, parent := none, note := none,
        errorMessage := none, created := Instant.epoch, updated := Instant.epoch }
    let e₀ : Engine := { now := Instant.epoch, store := { payments := [p₀], serial := 1 } }
    let cs : List Caller :=
      [.party (.request p₀.id { status := .paid }), .party (.request p₀.id { status := .refund })]
    ∃ bs p', Pool.Runs (Caller.pool cs e₀) bs p' ∧ p'.Quiet ∧ e₀.heard = true ∧
      (Outlet.status p₀.id).Waits e₀ bs ∧
      p'.engine.announced p₀.id = [(.form, .paid, false), (.paid, .refund, false)] := by
  intro p₀ e₀ cs
  -- the first request runs its three sections, then the second; the kernel plays the schedule
  have hplay : (((Caller.pool cs e₀).play [0, 0, 0, 1, 1, 1]).toOption.any fun x =>
      x.2.workers.all Worker.ended && (Outlet.status p₀.id).waitsAfter e₀ 0 x.1 &&
        decide (changesMade p₀.id x.1 = [(.form, .paid, false), (.paid, .refund, false)])) =
      true := by
    decide +kernel
  obtain ⟨bs, p', h, hcheck⟩ := Pool.play_check hplay
  simp only [Bool.and_eq_true, decide_eq_true_eq] at hcheck
  obtain ⟨⟨hend, hwait⟩, hmade⟩ := hcheck
  have hq := Pool.quiet_of_ended hend
  have hw := Outlet.waits_of_check hwait
  have hh : e₀.heard = true := rfl
  have hrec := ((events_follow_the_changes_up_to_order h).2.2 hq hh).1 p₀.id |>.2 hw
  refine ⟨bs, p', h, hq, hh, hw, ?_⟩
  rw [hrec, hmade]
  rfl

/-- Two requests on a form payment, the second deciding between the first's decision and the
first's event: the payment goes from form to paid to refund, but the sink hears the refund first.
And a sink that refuses events hears nothing of a change that was made. -/
theorem events_can_miss_the_order_of_the_changes :
    let p₀ : Payment :=
      { id := Ident.ofSerial 1, user := ⟨0⟩, gateway := "test", status := .form,
        amount := ⟨1999, 2, false⟩, paidAt := none, subscription := none, catalogItem := none,
        address := none, isRecurrent := false, parent := none, note := none,
        errorMessage := none, created := Instant.epoch, updated := Instant.epoch }
    let e₀ : Engine := { now := Instant.epoch, store := { payments := [p₀], serial := 1 } }
    let paid : Caller := .party (.request p₀.id { status := .paid })
    let refund : Caller := .party (.request p₀.id { status := .refund })
    (∃ bs p', Pool.Runs (Caller.pool [paid, refund] e₀) bs p' ∧ p'.Quiet ∧ e₀.heard = true ∧
      changesMade p₀.id bs = [(.form, .paid, false), (.paid, .refund, false)] ∧
      p'.engine.announced p₀.id = [(.paid, .refund, false), (.form, .paid, false)]) ∧
    (∃ bs p', Pool.Runs (Caller.pool [paid] { e₀ with outlets := { eventsFail := true } }) bs p' ∧
      p'.Quiet ∧ changesMade p₀.id bs = [(.form, .paid, false)] ∧ p'.engine.announced p₀.id = []) := by
  intro p₀ e₀ paid refund
  -- the first request decides, the second runs whole, then the first announces
  have hswap : (((Caller.pool [paid, refund] e₀).play [0, 1, 1, 1, 0, 0]).toOption.any fun x =>
      x.2.workers.all Worker.ended &&
        decide (changesMade p₀.id x.1 = [(.form, .paid, false), (.paid, .refund, false)]) &&
        decide (x.2.engine.announced p₀.id = [(.paid, .refund, false), (.form, .paid, false)])) =
      true := by
    decide +kernel
  have hfail : (((Caller.pool [paid] { e₀ with outlets := { eventsFail := true } }).play
      [0, 0, 0]).toOption.any fun x =>
      x.2.workers.all Worker.ended && decide (changesMade p₀.id x.1 = [(.form, .paid, false)]) &&
        decide (x.2.engine.announced p₀.id = [])) = true := by
    decide +kernel
  constructor
  · obtain ⟨bs, p', h, hcheck⟩ := Pool.play_check hswap
    simp only [Bool.and_eq_true, decide_eq_true_eq] at hcheck
    obtain ⟨⟨hend, hmade⟩, hheard⟩ := hcheck
    exact ⟨bs, p', h, Pool.quiet_of_ended hend, rfl, hmade, hheard⟩
  · obtain ⟨bs, p', h, hcheck⟩ := Pool.play_check hfail
    simp only [Bool.and_eq_true, decide_eq_true_eq] at hcheck
    obtain ⟨⟨hend, hmade⟩, hheard⟩ := hcheck
    exact ⟨bs, p', h, Pool.quiet_of_ended hend, hmade, hheard⟩

end Rebill
