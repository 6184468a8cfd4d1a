import Rebill.Proofs.AnnouncementOrder
import Rebill.Proofs.AttemptHistory

/-!
# The moves of an attempt, as the sink hears them

Every move of an attempt goes through the registry's `update`: under the attempt's lock the
attempt is read, changed and saved, and once the lock is given back the move is announced, when
the state changed. This module makes the attempt `x` an `Outlet`: a section under its lock that
saved it in another state made the move (`Section.moved`), an announcement of a move of `x` tells
it (`Section.announcesMove`), and the sink's record is the list of announced moves of `x`.

* `Section.events_after`: only an announcement reaches the recorder, so the record grows by what
  a section announces;
* every worker of the core settles with the moves of `x`: each move it makes, it announces before
  any other section of its own (`Worker.settles_run` and the lemmas before it, one per worker, as
  the workers are written);
* `Section.state_course`: a section moves `x` only by the move it made, never out of a closed
  state, and makes no attempt; so over an interleaving the moves made chain from the state of `x`
  at the start to its state at the end (`Pool.Runs.state_course`).
-/

namespace Rebill

open Svc Attempts

namespace Section

/-- The move of the attempt `x` that a section made: a change of `x` under its lock that left it
in another state, as the state it found and the state it saved. -/
def moved {β : Type} (x : Ident) :
    Section β → Except BillingError β → Option (ChargeState × ChargeState)
  | .update id _ _, .ok (o, c) | .release id, .ok (o, c) =>
    if id = x ∧ o ≠ c.state then some (o, c.state) else none
  | _, _ => none

/-- The move of the attempt `x` that a section announces. -/
def announcesMove {β : Type} (x : Ident) (s : Section β) : Option (ChargeState × ChargeState) :=
  (s.event?.bind BillingEvent.stateChange?).bind fun m => if m.1 = x then some m.2 else none

variable {β : Type} {s : Section β} {e e' : Engine} {r : Except BillingError β} {x : Ident}

theorem events_after (h : s.exec.exec e = .ok (r, e')) :
    e'.recorded.events = e.recorded.events ++ if e.heard then s.event?.toList else [] := by
  cases s with
  | claim id =>
    rcases claim_cases h with ⟨rfl, -⟩ | ⟨c, v, st, -, -, -, -, -, rfl⟩ <;> simp [event?]
  | update id change hch =>
    rcases update_cases h with ⟨rfl, -⟩ | ⟨c, c', v, st, -, -, -, -, rfl⟩ <;> simp [event?]
  | release id =>
    rcases release_cases h with ⟨rfl, -⟩ | ⟨c, v, st, -, -, -, rfl⟩ <;> simp [event?]
  | apply id u =>
    rcases apply_cases h with ⟨rfl, -⟩ | ⟨p, -, ⟨-, -, rfl⟩ | ⟨-, -, rfl⟩⟩ <;> simp [event?]
  | call g p c =>
    rw [show (Section.call g p c).exec = Run.callGateway g p c from rfl,
      Run.exec_callGateway] at h
    cases h
    simp [event?]
  | createFor c parent =>
    rw [exec_createFor] at h
    cases h
    simp [event?]
  | log payment charge resp =>
    rw [show (Section.log payment charge resp).exec = Run.appendLog payment charge resp from rfl,
      Run.exec_appendLog] at h
    cases h
    simp [event?]
  | emit ev op =>
    rw [show (Section.emit ev op).exec = Svc.emit ev op from rfl, exec_emit] at h
    cases h
    simp [event?]
  | publish m op =>
    rw [show (Section.publish m op).exec = Svc.publish m op from rfl, exec_publish] at h
    cases h
    simp [event?]
  | count k =>
    rw [show (Section.count k).exec = Svc.count k from rfl, exec_count] at h
    cases h
    simp [event?]
  | due ids =>
    obtain ⟨rfl, -⟩ := chargeable_cases h
    simp [event?]
  | read m hm =>
    obtain ⟨rfl, -⟩ := hm e r e' h
    simp [event?]

theorem row_of_moved {d : ChargeState × ChargeState} (h : s.moved x r = some d) :
    s.row = some x := by
  cases s with
  | update id change hch =>
    rcases r with _ | ⟨o, c⟩
    · simp [moved] at h
    · obtain ⟨⟨rfl, -⟩, -⟩ : (id = x ∧ o ≠ c.state) ∧ _ := by simpa [moved] using h
      rfl
  | release id =>
    rcases r with _ | ⟨o, c⟩
    · simp [moved] at h
    · obtain ⟨⟨rfl, -⟩, -⟩ : (id = x ∧ o ≠ c.state) ∧ _ := by simpa [moved] using h
      rfl
  | _ => cases r <;> simp [moved] at h

theorem announcesMove_of_row (h : s.row = some x) : s.announcesMove x = none := by
  cases s <;> simp_all [row, announcesMove, event?]

theorem moves_after (h : s.exec.exec e = .ok (r, e')) :
    movesOf x e'.moves = movesOf x e.moves ++ if e.heard then (s.announcesMove x).toList else [] := by
  simp only [Engine.moves, events_after h, List.filterMap_append, movesOf_append]
  congr 1
  cases e.heard
  · rfl
  · unfold announcesMove
    rcases s.event? with _ | ev
    · rfl
    · rcases hev : ev.stateChange? with _ | ⟨y, o, n⟩
      · simp [hev]
      · by_cases hy : y = x <;> simp [hev, hy, movesOf]

end Section

/-- The attempt `x`, seen by the sink: the moves the sections make and announce, and the moves of
`x` the recorder kept. -/
def Outlet.state (x : Ident) : Outlet (ChargeState × ChargeState) where
  locks s := s.row = some x
  made s r := s.moved x r
  told s := s.announcesMove x
  record e := movesOf x e.moves
  locks_of_made h := Section.row_of_moved h
  told_of_locks h := Section.announcesMove_of_row h
  record_step h := Section.moves_after h

/-! ## Every worker announces the moves it makes -/

namespace Worker

variable {x : Ident} {α : Type}

theorem settles_quiet {β : Type} {s : Section β} (hrow : s.row = none)
    (ht : s.event?.bind BillingEvent.stateChange? = none) : (Outlet.state x).Settles (lift s) := by
  refine Outlet.settles_lift (by simp [Outlet.state, Section.announcesMove, ht]) fun r => ?_
  cases s <;> first | (cases r <;> rfl) | (simp [Section.row] at hrow)

theorem settles_read {γ : Type} (m : Svc γ) (h : Svc.Reads m fun _ => True) :
    (Outlet.state x).Settles (lift (.read m h)) :=
  settles_quiet rfl rfl

theorem settles_count (k : Counter) : (Outlet.state x).Settles (lift (.count k)) :=
  settles_quiet rfl rfl

theorem settles_log (payment charge : Ident) (resp : GatewayResponse) :
    (Outlet.state x).Settles (lift (.log payment charge resp)) :=
  settles_quiet rfl rfl

theorem settles_announcing {id : Ident} {s : Section (ChargeState × Charge)}
    (hmade : ∀ o c, s.moved x (.ok (o, c)) = if id = x ∧ o ≠ c.state then some (o, c.state) else none)
    (herr : ∀ err, s.moved x (.error err) = none) (htold : s.announcesMove x = none) :
    (Outlet.state x).Settles (announcing id s) := by
  unfold announcing
  refine Follows.lift_bind ⟨fun _ => rfl, fun d hd => by simp [Outlet.state, htold] at hd⟩
    (fun ⟨o, c⟩ _ => ?_) fun err _ => by simp [Outlet.owing, Outlet.state, herr, htold]
  dsimp only
  by_cases hmv : id = x ∧ o ≠ c.state
  · -- the move is owed, and the announcement that follows tells it
    have hafter : (Outlet.state x).owing.after none s (.ok (o, c)) = some (o, c.state) := by
      simp [Outlet.owing, Outlet.state, hmade, hmv]
    have htell : (Section.emit (.chargeStateChanged id o c.state) "transition").announcesMove x =
        some (o, c.state) := by
      simp [Section.announcesMove, Section.event?, BillingEvent.stateChange?, hmv.1]
    rw [hafter, if_pos (by simpa using hmv.2)]
    refine Follows.lift_bind ⟨fun h => by simp [Outlet.state, Section.row] at h,
      fun d hd => by simp_all [Outlet.state]⟩ (fun _ _ => Follows.pure ?_) fun _ _ => ?_
    · simp [Outlet.owing, Outlet.state, Section.moved, htell]
    · simp [Outlet.owing, Outlet.state, Section.moved, htell]
  · -- no move of `x`: an announcement, if any, is of another attempt or none
    have hafter : (Outlet.state x).owing.after none s (.ok (o, c)) = none := by
      simp [Outlet.owing, Outlet.state, hmade, hmv, htold]
    rw [hafter]
    split
    · next hne =>
      have hid : id ≠ x := fun h => hmv ⟨h, by simpa using hne⟩
      refine Outlet.Settles.bind (Outlet.settles_lift ?_ fun r => rfl) fun _ => Outlet.settles_pure c
      simp [Outlet.state, Section.announcesMove, Section.event?, BillingEvent.stateChange?, hid]
    · exact Outlet.settles_pure c

theorem settles_update (id : Ident) (change : Charge → Svc Charge) (h : Attempts.Change change) :
    (Outlet.state x).Settles (update id change h) :=
  settles_announcing (fun _ _ => rfl) (fun _ => rfl) rfl

theorem settles_transition (id : Ident) (t : ChargeState) (actor : Actor) (u : ChargeUpdate) :
    (Outlet.state x).Settles (transition id t actor u) :=
  settles_update id _ _

theorem settles_releaseClaim (id : Ident) : (Outlet.state x).Settles (releaseClaim id) :=
  settles_announcing (fun _ _ => rfl) (fun _ => rfl) rfl

theorem settles_linkPayment (id payment : Ident) :
    (Outlet.state x).Settles (linkPayment id payment) :=
  (settles_update id _ _).bind fun _ => Outlet.settles_pure _

theorem settles_rearmFailed (id : Ident) : (Outlet.state x).Settles (rearmFailed id) :=
  (settles_read _ _).bind fun _ => settles_update id _ _

theorem settles_claim (id : Ident) : (Outlet.state x).Settles (lift (.claim id)) :=
  Outlet.settles_lift rfl fun r => by cases r <;> rfl

theorem settles_updateStatus (id : Ident) (u : Ledger.StatusRequest) :
    (Outlet.state x).Settles (updateStatus id u) := by
  unfold updateStatus
  refine (settles_quiet rfl rfl).bind fun res => ?_
  rcases res with _ | ⟨o, n⟩
  · exact Outlet.settles_pure false
  · exact (settles_quiet rfl rfl).bind fun _ =>
      (settles_quiet rfl rfl).bind fun _ => Outlet.settles_pure true

theorem settles_stopFast (c : Charge) : (Outlet.state x).Settles (stopFast c) :=
  (settles_transition _ _ _ _).bind fun _ => Outlet.settles_pure _

theorem settles_openPayment (c : Charge) : (Outlet.state x).Settles (openPayment c) :=
  (settles_read _ _).bind fun _ => (settles_quiet rfl rfl).bind fun _ =>
    settles_linkPayment _ _

theorem settles_paymentFor (c : Charge) : (Outlet.state x).Settles (paymentFor c) := by
  unfold paymentFor
  cases c.payment with
  | some pid => exact Outlet.settles_pure pid
  | none => exact settles_openPayment c

theorem settles_completeAlreadyPaid (c : Charge) (p : Payment) :
    (Outlet.state x).Settles (completeAlreadyPaid c p) :=
  (settles_transition _ _ _ _).bind fun _ => settles_log _ _ _

theorem settles_completeOrCall (c : Charge) (pid : Ident) :
    (Outlet.state x).Settles (completeOrCall c pid) := by
  unfold completeOrCall
  refine (settles_read _ _).bind fun p => ?_
  split
  · exact (settles_completeAlreadyPaid c p).bind fun _ => Outlet.settles_pure _
  · exact (settles_read _ _).bind fun _ => Outlet.settles_pure _

theorem settles_prepare (c : Charge) : (Outlet.state x).Settles (prepare c) := by
  unfold prepare
  refine (settles_read _ _).bind fun conflict => ?_
  split
  · exact settles_stopFast c
  · exact (settles_paymentFor c).bind fun pid => settles_completeOrCall c pid

theorem settles_applyReply (c : Charge) (p : Payment) (g : Gateway) (reply : ChargeReply) :
    (Outlet.state x).Settles (applyReply c p g reply) := by
  rcases reply with r | r | ⟨_ | _ | _, r⟩
  · exact (settles_updateStatus _ _).bind fun _ =>
      (settles_transition _ _ _ _).bind fun _ => Outlet.settles_pure _
  · exact (settles_transition _ _ _ _).bind fun _ => Outlet.settles_pure _
  · exact (settles_updateStatus _ _).bind fun _ => (settles_transition _ _ _ _).bind fun _ =>
      (settles_rearmFailed _).bind fun _ => Outlet.settles_pure _
  · exact (settles_updateStatus _ _).bind fun _ =>
      (settles_transition _ _ _ _).bind fun _ => Outlet.settles_pure _
  · exact (settles_count _).bind fun _ =>
      (settles_transition _ _ _ _).bind fun _ => Outlet.settles_pure _

theorem settles_process (due : Charge) : (Outlet.state x).Settles (process due) := by
  unfold process
  refine (settles_claim due.id).bind fun claimed => ?_
  rcases claimed with _ | c
  · exact (settles_count _).bind fun _ => Outlet.settles_pure _
  refine Outlet.Settles.bind (Outlet.Settles.tryCatch (settles_prepare c) fun err =>
    (Outlet.Settles.tryCatch (settles_releaseClaim c.id) fun _ => Outlet.settles_pure c).bind
      fun _ => Outlet.settles_throw err) fun prepared => ?_
  rcases prepared with o | ⟨p, g⟩
  · exact (settles_count _).bind fun _ => Outlet.settles_pure o
  · exact (settles_quiet rfl rfl).bind fun reply =>
      (settles_applyReply c p g reply).bind fun _ => (settles_log _ _ _).bind fun _ =>
        (settles_count _).bind fun _ => Outlet.settles_pure _

theorem settles_processAll (cs : List Charge) (s : Run.Summary) :
    (Outlet.state x).Settles (processAll cs s) := by
  induction cs generalizing s with
  | nil => exact Outlet.settles_pure s
  | cons c rest ih =>
    refine Outlet.Settles.bind (Outlet.Settles.tryCatch ((settles_process c).map _)
      fun _ => Outlet.settles_pure _) fun r => ?_
    rcases r with err | o
    · dsimp only
      split
      · exact (settles_count _).bind fun _ => Outlet.settles_throw _
      · exact (settles_count _).bind fun _ => ih _
    · exact ih _

theorem settles_run (ids : Option (List Ident)) : (Outlet.state x).Settles (run ids) :=
  (settles_quiet rfl rfl).bind fun due => settles_processAll due {}

end Worker

/-! ## The moves made chain -/

namespace Section

variable {β : Type} {s : Section β} {e e' : Engine} {r : Except BillingError β}

theorem moved_of_missing (h : s.exec.exec e = .ok (r, e')) {x : Ident}
    (hc : e.store.charge? x = none) : s.moved x r = none := by
  rcases hm : s.moved x r with _ | d
  · rfl
  · cases s with
    | update id change hch =>
      obtain rfl : id = x := by simpa [row] using row_of_moved hm
      rcases update_cases h with ⟨-, err, rfl⟩ | ⟨c, -, -, -, hc', -⟩
      · simp [moved] at hm
      · rw [hc] at hc'
        cases hc'
    | release id =>
      obtain rfl : id = x := by simpa [row] using row_of_moved hm
      rcases release_cases h with ⟨-, err, rfl⟩ | ⟨c, -, -, hc', -⟩
      · simp [moved] at hm
      · rw [hc] at hc'
        cases hc'
    | _ => cases r <;> simp [moved] at hm

theorem state_course (h : s.exec.exec e = .ok (r, e')) (x : Ident) :
    Course (fun a _ => a.isClosed = false) (e.store.stateOf x) (s.moved x r).toList
      (e'.store.stateOf x) := by
  rw [Store.stateOf_eq_charge?, Store.stateOf_eq_charge?]
  cases hc : e.store.charge? x with
  | none =>
    rw [(leaves h).unborn x hc, moved_of_missing h hc]
    exact .absent
  | some c =>
    by_cases hrow : s.row = some x
    · cases s with
      | claim id =>
        obtain rfl : id = x := by simpa [row] using hrow
        rcases claim_cases h with ⟨rfl, -⟩ | ⟨c₀, v, st, hc₀, -, -, hs, rfl, rfl⟩
        · rw [hc]
          exact .stored (.nil _)
        · -- the claim marks the attempt and keeps its state
          rw [hc] at hc₀
          cases hc₀
          obtain ⟨hread, hid, hstate, -⟩ := Store.saveCharge_read e.store hs
          rw [show id = ({ c with status := some inFlight } : Charge).id from
            (Store.id_of_charge? e.store hc).symm, hread]
          refine .stored ?_
          show Moves _ c.state [] v.state
          rw [hstate]
          exact .nil _
      | update id change hch =>
        obtain rfl : id = x := by simpa [row] using hrow
        rcases update_cases h with ⟨rfl, err, rfl⟩ | ⟨c₀, c', v, st, hc₀, hev, hs, rfl, rfl⟩
        · rw [hc]
          exact .stored (.nil _)
        · rw [hc] at hc₀
          cases hc₀
          obtain ⟨hread, -, hstate, -⟩ := Store.saveCharge_read e.store hs
          rw [show id = c'.id from (hev.id.trans (Store.id_of_charge? e.store hc)).symm, hread]
          refine .stored ?_
          -- a move of the table never leaves a closed state
          have hmv : Moves (fun a _ => a.isClosed = false) c.state
              (if c.state = v.state then [] else [(c.state, v.state)]) v.state :=
            Moves.single fun hne => by
              cases hcl : c.state.isClosed
              · rfl
              · exact absurd (hstate.trans (hev.closed hcl).1).symm hne
          by_cases hne : c.state = v.state
          · simpa [moved, hne] using hmv
          · simpa [moved, hne] using hmv
      | release id =>
        obtain rfl : id = x := by simpa [row] using hrow
        rcases release_cases h with ⟨rfl, err, rfl⟩ | ⟨c₀, v, st, hc₀, hs, rfl, rfl⟩
        · rw [hc]
          exact .stored (.nil _)
        · -- giving a claim back keeps the state
          rw [hc] at hc₀
          cases hc₀
          obtain ⟨hread, -, hstate, -⟩ := Store.saveCharge_read e.store hs
          have hgb : c.givenBack.id = c.id ∧ c.givenBack.state = c.state := by
            unfold Charge.givenBack
            split <;> exact ⟨rfl, rfl⟩
          rw [show id = c.givenBack.id from (hgb.1.trans (Store.id_of_charge? e.store hc)).symm,
            hread]
          have hv : v.state = c.state := hstate.trans hgb.2
          have hstay : Course (fun a _ => a.isClosed = false) (some c.state) [] (some c.state) :=
            .stored (.nil c.state)
          simpa [moved, hv] using hstay
      | _ => simp [row] at hrow
    · rw [(leaves h).rows x hrow, hc]
      have hnone : s.moved x r = none := by
        rcases hm : s.moved x r with _ | d
        · rfl
        · exact absurd (row_of_moved hm) hrow
      rw [hnone]
      exact .stored (.nil _)

end Section

/-- Over an interleaving, the moves made of the attempt `x` chain from its state at the start to
its state at the end, none out of a closed state, and no attempt is made. -/
theorem Pool.Runs.state_course {α : Type} {p p' : Pool α} {bs : List Beat}
    (h : Pool.Runs p bs p') (x : Ident) :
    Course (fun a _ => a.isClosed = false) (p.engine.store.stateOf x)
      ((Outlet.state x).changes bs) (p'.engine.store.stateOf x) := by
  induction h with
  | nil => exact Course.refl _
  | snoc _ hs ih =>
    obtain ⟨hb, ha⟩ := hs.engines
    rw [Outlet.changes_append_singleton]
    exact ih.trans (ha ▸ hb ▸ Section.state_course hs.ran x)

end Rebill
