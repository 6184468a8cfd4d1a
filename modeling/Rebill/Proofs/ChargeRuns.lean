import Rebill.Proofs.AttemptEnds
import Rebill.Proofs.RunOrder

/-!
# A run processes each due attempt once

A run loads its queue, the attempts due by the end of the lookahead, among the requested ones, in
the order they were made, and processes them one after another. This module follows the loop
along the queue. From an engine where no key is held, the store is well formed and the clock's
moves stay on the time line, the run returns its summary; and each attempt of the queue is read
as the queue lists it, since the attempts before it wrote only to themselves, so that it is
claimed and ends by the rule for a claimed attempt (`View.EndsClaimed`) on the engine they left
(`Observed.Trail`). The summary reports every attempt once, in the queue's order, with its end,
and counts each once.

Main statement: `Run.run_processes_each_due_attempt_once`, built on `Observed.runAll_trail`, the
same walk over the loop as it runs on the observed engine.

The fast-charge guard of a rule is the program's own (`View.stops`): it compares instants through
`Instant.since`, which counts a leap second that the order of instants does not. Outside leap
seconds it trips exactly on the rule stated over the stored attempts (`View.stops_claimed_iff`),
and a step keeps the attempts there while the clock is (`Observed.LeapFree.step`).
-/

namespace Rebill

open Svc

/-! ## The summary of a run -/

namespace Run.Summary

/-- The summary `s` with the attempts `ids` counted in order, with the ends `rs`. -/
def recordAll (s : Summary) : List Ident → List (Except BillingError Outcome) → Summary
  | a :: ids, r :: rs => (s.record a r).recordAll ids rs
  | _, _ => s

/-- The attempts a summary counts by their ends, failures included. -/
def counted (s : Summary) : Nat :=
  s.charged + s.pending + s.failed + s.stopped + s.fastChargeStopped + s.unhandled + s.skipped + s.errors

variable (s : Summary) (a : Ident) (r : Except BillingError Outcome)

@[simp] theorem processed_record : (s.record a r).processed = s.processed + 1 := by
  unfold record
  rcases r with _ | (_ | _ | _ | _ | _ | _ | _) <;> rfl

@[simp] theorem counted_record : (s.record a r).counted = s.counted + 1 := by
  unfold record counted
  rcases r with _ | (_ | _ | _ | _ | _ | _ | _) <;> simp only <;> omega

theorem recordAll_attempts : ∀ (s : Summary) (ids : List Ident) (rs : List (Except BillingError Outcome)),
    (s.recordAll ids rs).attempts =
      s.attempts ++ List.zipWith (fun a r => (⟨a, r.mapError BillingError.text⟩ : Report)) ids rs
  | s, [], _ => by simp [recordAll]
  | s, _ :: _, [] => by simp [recordAll]
  | s, a :: ids, r :: rs => by
    rw [recordAll, recordAll_attempts, record_attempts, List.zipWith_cons_cons, List.append_assoc]
    rfl

theorem recordAll_processed : ∀ (s : Summary) (ids : List Ident) (rs : List (Except BillingError Outcome)),
    ids.length = rs.length → (s.recordAll ids rs).processed = s.processed + ids.length
  | s, [], _, _ => rfl
  | s, _ :: _, [], h => by simp at h
  | s, a :: ids, r :: rs, h => by
    rw [recordAll, recordAll_processed _ ids rs (by simpa using h), processed_record, List.length_cons]
    omega

theorem recordAll_counted : ∀ (s : Summary) (ids : List Ident) (rs : List (Except BillingError Outcome)),
    ids.length = rs.length → (s.recordAll ids rs).counted = s.counted + ids.length
  | s, [], _, _ => rfl
  | s, _ :: _, [], h => by simp at h
  | s, a :: ids, r :: rs, h => by
    rw [recordAll, recordAll_counted _ ids rs (by simpa using h), counted_record, List.length_cons]
    omega

end Run.Summary

/-! ## The queue and the engine it starts from -/

theorem Store.Wf.payment?_unissued {s : Store} (h : s.Wf) {m : Nat} (hm : s.serial < m) :
    s.payment? (Ident.ofSerial m) = none := by
  rw [Store.payment?, List.find?_eq_none]
  intro p hp heq
  have hid : p.id = Ident.ofSerial m := by simpa using heq
  exact h.issued _ (by simp only [Store.ids, List.mem_append, List.mem_map]; exact .inl (.inl ⟨p, hp, hid⟩))
    m hm rfl

@[simp] theorem Engine.observed_now (e : Engine) : e.observed.now = e.now := rfl
@[simp] theorem Engine.observed_policy (e : Engine) : e.observed.policy = e.policy := rfl

theorem Engine.observed_clear {e : Engine} (hheld : e.held = []) (hwf : e.store.Wf) : e.observed.Clear :=
  ⟨hheld, fun _ hm => hwf.payment?_unissued hm⟩

/-- The two moves of the clock a run makes: to the end of the lookahead, to load its queue, and by
the retry delay, to re-arm a failed attempt. -/
structure Engine.RunClock (e : Engine) : Prop where
  lookahead : ∃ due, shiftBy e.now e.policy.lookahead = .ok due
  retry : ∃ due, shiftBy e.now e.policy.retryDelay = .ok due

/-! ## The guard, outside leap seconds -/

namespace Plan

theorem save_mem_moveWrites {cur x : Charge} {t : ChargeState} {u : ChargeUpdate}
    (hx : Write.save x ∈ moveWrites cur t u) : x.chargeAt = cur.chargeAt := by
  obtain rfl : x = cur.moveTo t u := by simpa [moveWrites] using hx
  unfold Charge.moveTo
  split <;> rfl

theorem save_mem_openWrites {v : View} {c x : Charge} {k : Ident}
    (hx : Write.save x ∈ openWrites v c k) : x.chargeAt = c.chargeAt := by
  unfold openWrites at hx
  split at hx
  · cases hd : v.draft with
    | none => simp [hd] at hx
    | some d =>
      obtain rfl : x = { c with payment := some k } := by simpa [hd] using hx
      rfl
  · cases hx

theorem save_not_mem_ledgerWrites {p : Payment} {u : Ledger.StatusRequest} {t : Instant}
    {x : Charge} : Write.save x ∉ ledgerWrites p u t := by
  unfold ledgerWrites
  split
  · simp
  · split <;> simp

end Plan

/-- No attempt the engine stores is due inside a leap second. -/
def Observed.LeapFree (o : Observed) : Prop := ∀ y ∈ o.rows, y.charge.chargeAt.isLeap = false

theorem Observed.LeapFree.charges {o : Observed} (h : o.LeapFree) :
    ∀ d ∈ o.attempts.charges, d.chargeAt.isLeap = false := fun d hd => by
  obtain ⟨y, hy, rfl⟩ := (Store.mem_charges _).mp hd
  rw [Store.withToken_chargeAt]
  exact h y hy

namespace View

theorem stops_claimed_iff {o : Observed} {c : Charge} (hc : o.attempts.charge? c.id = some c)
    (hleap : o.LeapFree) :
    (View.of o c.id).stops ((View.of o c.id).claimed c) = true ↔
      o.attempts.FastConflict o.policy.fastChargeThreshold c := by
  have hcleap := hleap.charges c (Store.mem_charges_of_charge? _ hc)
  unfold View.stops
  simp only [View.of, hc, Option.bind_some]
  by_cases hθ : o.policy.fastChargeThreshold.nanos ≤ 0
  · rw [if_pos hθ]
    simp only [Bool.false_eq_true, false_iff]
    exact fun h => absurd h.1 (by omega)
  · rw [if_neg hθ, ← o.attempts.latest_close_iff (by omega) hleap.charges hcleap]
    cases o.attempts.lastChargedForMethod c.method c.id with
    | none => simp
    | some prev =>
      simp only [Option.map_some, Bool.or_eq_true, beq_iff_eq, decide_eq_true_eq,
        Option.some.injEq, exists_eq_left']
      rfl

theorem EndsClaimed.saves_due {v : View} {k : Ident} {c : Charge}
    {r : Except BillingError Run.Outcome} {ws : List Write} (h : v.EndsClaimed k c r ws) {x : Charge}
    (hx : Write.save x ∈ ws) :
    x.chargeAt = c.chargeAt ∨ ∃ due, shiftBy v.now v.policy.retryDelay = .ok due ∧ x.chargeAt = due := by
  have hstaged : (v.staged c k).chargeAt = c.chargeAt := by
    unfold View.staged
    split <;> rfl
  have hfailed : ∀ cur r, (v.failed cur r).chargeAt = cur.chargeAt := fun _ _ => rfl
  -- the saves of the reply's writes, read against the attempt as staged
  have hanswer : ∀ {p g reply o resp ws'}, v.Answered (v.staged c k) p g reply o resp ws' →
      Write.save x ∈ ws' → x.chargeAt = c.chargeAt ∨
        ∃ due, shiftBy v.now v.policy.retryDelay = .ok due ∧ x.chargeAt = due := by
    intro p g reply o resp ws' ha hx
    cases ha with
    | settled =>
      simp only [List.mem_append, Plan.save_not_mem_ledgerWrites, false_or] at hx
      exact .inl ((Plan.save_mem_moveWrites hx).trans hstaged)
    | pending => exact .inl ((Plan.save_mem_moveWrites hx).trans hstaged)
    | exhausted =>
      simp only [List.mem_append, Plan.save_not_mem_ledgerWrites, false_or, List.mem_singleton,
        Write.save.injEq] at hx
      rcases hx with hx | rfl
      · exact .inl ((Plan.save_mem_moveWrites hx).trans hstaged)
      · exact .inl hstaged
    | retried _ _ hdue =>
      simp only [List.mem_append, Plan.save_not_mem_ledgerWrites, false_or, List.mem_cons,
        Write.save.injEq, reduceCtorEq, List.not_mem_nil, or_false] at hx
      rcases hx with hx | rfl
      · exact .inl ((Plan.save_mem_moveWrites hx).trans hstaged)
      · exact .inr ⟨_, hdue, rfl⟩
    | stopped =>
      simp only [List.mem_append, Plan.save_not_mem_ledgerWrites, false_or] at hx
      exact .inl ((Plan.save_mem_moveWrites hx).trans hstaged)
    | unhandled =>
      simp only [List.mem_cons, reduceCtorEq, false_or] at hx
      exact .inl ((Plan.save_mem_moveWrites hx).trans hstaged)
  cases h with
  | fastCharge =>
    simp only [List.mem_append, List.mem_singleton, reduceCtorEq, or_false] at hx
    exact .inl (Plan.save_mem_moveWrites hx)
  | noParent | noPayment =>
    simp only [List.mem_singleton, Write.save.injEq] at hx
    exact .inl (by rw [hx])
  | alreadyPaid =>
    simp only [List.mem_append, List.mem_cons, reduceCtorEq, List.not_mem_nil, or_false] at hx
    rcases hx with hx | hx
    · exact .inl (Plan.save_mem_openWrites hx)
    · exact .inl ((Plan.save_mem_moveWrites hx).trans hstaged)
  | noGateway =>
    simp only [List.mem_append, List.mem_singleton, Write.save.injEq] at hx
    rcases hx with hx | rfl
    · exact .inl (Plan.save_mem_openWrites hx)
    · exact .inl hstaged
  | called _ _ _ _ ha =>
    simp only [List.mem_append, List.mem_cons, reduceCtorEq, List.not_mem_nil, or_false,
      false_or] at hx
    rcases hx with hx | hx
    · exact .inl (Plan.save_mem_openWrites hx)
    · exact hanswer ha hx

end View

namespace Observed

theorem LeapFree.writeAll {o : Observed} {ws : List Write} (h : o.LeapFree)
    (hws : ∀ x, Write.save x ∈ ws → x.chargeAt.isLeap = false) : (o.writeAll ws).LeapFree := by
  induction ws generalizing o with
  | nil => exact h
  | cons w ws ih =>
    refine ih ?_ fun x hx => hws x (List.mem_cons_of_mem _ hx)
    intro y hy
    cases w with
    | save x =>
      rcases mem_modifyFirst hy with hy | ⟨y₀, -, rfl⟩
      · exact h y hy
      · exact hws x List.mem_cons_self
    | _ => exact h y hy

theorem LeapFree.step {o : Observed} {c : Charge} {r : Except BillingError Run.Outcome}
    {ws : List Write} (h : o.LeapFree) (hnow : o.now.isLeap = false)
    (hc : o.attempts.charge? c.id = some c)
    (hend : (View.of o c.id).EndsClaimed o.next ((View.of o c.id).claimed c) r ws) :
    (o.writeAll (.save { c with status := some inFlight } :: ws ++ Run.afterAttempt r)).LeapFree := by
  have hcleap := h.charges c (Store.mem_charges_of_charge? _ hc)
  refine h.writeAll fun x hx => ?_
  rcases List.mem_cons.mp hx with hx | hx
  · cases hx
    exact hcleap
  rcases List.mem_append.mp hx with hx | hx
  · rcases hend.saves_due hx with hat | ⟨due, hdue, hat⟩
    · rw [hat]
      exact hcleap
    · rw [hat]
      exact Instant.isLeap_shiftBy hnow hdue
  · cases r <;> simp [Run.afterAttempt] at hx

end Observed

/-! ## The loop, attempt by attempt -/

namespace Observed

/-- The attempts `cs`, as the queue lists them, processed one after another from `o` to `o'`
with the ends `rs`: each is read as listed, claimed, and ends by the rule for a claimed attempt on
the engine the attempts before it left, a payment it opens taking the next serial. When no
attempt of that engine is due inside a leap second, the guard of the rule stops the attempt
exactly when another charged attempt on its stored method is due less than the threshold before
it, or later (`Store.FastConflict`); and while the clock is outside a leap second, the step keeps
every attempt out of one. -/
inductive Trail : Observed → List Charge → List (Except BillingError Run.Outcome) → Observed → Prop
  | nil (o : Observed) : Trail o [] [] o
  | cons {o o' : Observed} {c : Charge} {cs : List Charge} {r : Except BillingError Run.Outcome}
      {rs : List (Except BillingError Run.Outcome)} {ws : List Write}
      (hc : o.attempts.charge? c.id = some c)
      (hend : (View.of o c.id).EndsClaimed o.next ((View.of o c.id).claimed c) r ws)
      (hguard : o.LeapFree → ((View.of o c.id).stops ((View.of o c.id).claimed c) = true ↔
        o.attempts.FastConflict o.policy.fastChargeThreshold c))
      (hleap : o.LeapFree → o.now.isLeap = false →
        (o.writeAll (.save { c with status := some inFlight } :: ws ++ Run.afterAttempt r)).LeapFree)
      (hrest : Trail (o.writeAll (.save { c with status := some inFlight } :: ws ++ Run.afterAttempt r))
        cs rs o') :
      Trail o (c :: cs) (r :: rs) o'

theorem Trail.length_eq {o o' : Observed} {cs : List Charge} {rs : List (Except BillingError Run.Outcome)}
    (h : o.Trail cs rs o') : rs.length = cs.length := by
  induction h with
  | nil => rfl
  | cons _ _ _ _ _ ih => simp [ih]

variable {o : Observed} {c : Charge} {due : Instant}

theorem plan_of_claimable (hc : o.attempts.charge? c.id = some c)
    (hdue : shiftBy o.now o.policy.lookahead = .ok due) (hcl : c.Claimable due)
    (hre : ∃ t, shiftBy o.now o.policy.retryDelay = .ok t) :
    ∃ r ws, (View.of o c.id).EndsClaimed o.next ((View.of o c.id).claimed c) r ws ∧
      (o.plan c.id).run = .ok (r, .save { c with status := some inFlight } :: ws) := by
  -- the view reads the clock and the policy of the engine
  have hdue' : shiftBy (View.of o c.id).now (View.of o c.id).policy.lookahead = .ok due := by
    rw [View.of_now, View.of_policy]
    exact hdue
  have hre' : ∃ t, shiftBy (View.of o c.id).now (View.of o c.id).policy.retryDelay = .ok t := by
    rw [View.of_now, View.of_policy]
    exact hre
  obtain ⟨r, ws, hend⟩ := View.endsClaimed_exists o.next hre' ((View.of o c.id).claimed c)
  exact ⟨r, ws, hend, (View.Ends.taken hc hdue' hcl hend).run⟩

theorem runAll_trail (cs : List Charge) : ∀ {o : Observed} (s : Run.Summary), o.Clear →
    shiftBy o.now o.policy.lookahead = .ok due → (∃ t, shiftBy o.now o.policy.retryDelay = .ok t) →
    (cs.map (·.id)).Nodup → (∀ c ∈ cs, o.attempts.charge? c.id = some c ∧ c.Claimable due) →
    ∃ rs o', o.runAll (cs.map (·.id)) s = .ok (.ok (s.recordAll (cs.map (·.id)) rs), o') ∧
      o.Trail cs rs o' := by
  induction cs with
  | nil => exact fun s _ _ _ _ _ => ⟨[], _, rfl, .nil _⟩
  | cons c cs ih =>
    intro o s hclear hdue hre hnodup hcs
    obtain ⟨hc, hcl⟩ := hcs c List.mem_cons_self
    obtain ⟨r, ws, hend, hrun⟩ := plan_of_claimable hc hdue hcl hre
    have hstep : o.step c.id = .ok (r, o.writeAll ((.save { c with status := some inFlight } :: ws) ++
        Run.afterAttempt r)) := step_eq_ok.mpr ⟨_, hrun, rfl⟩
    obtain ⟨hfresh, hnodup'⟩ := List.nodup_cons.mp hnodup
    -- the step writes to its own attempt alone, so the rest of the queue reads as listed
    have hrest : ∀ c' ∈ cs, (o.writeAll ((.save { c with status := some inFlight } :: ws) ++
        Run.afterAttempt r)).attempts.charge? c'.id = some c' ∧ c'.Claimable due := by
      intro c' hc'
      have hne : c.id ≠ c'.id := fun h => hfresh (List.mem_map.mpr ⟨c', hc', h.symm⟩)
      refine ⟨?_, (hcs c' (List.mem_cons_of_mem _ hc')).2⟩
      rw [writeAll_charge? fun w hw j hj => (writes_confined hrun w hw).attempts j hj ▸ hne]
      exact (hcs c' (List.mem_cons_of_mem _ hc')).1
    obtain ⟨rs, o', hrun', htrail⟩ := ih (s.record c.id r) (hclear.step hstep)
      (by simpa using hdue) (by simpa using hre) hnodup' hrest
    refine ⟨r :: rs, o', ?_, .cons hc hend (fun hl => View.stops_claimed_iff hc hl)
      (fun hl hn => hl.step hn hc hend) htrail⟩
    rw [List.map_cons, runAll_cons_of_ok hstep, hrun']
    rfl

end Observed

/-! ## A run -/

namespace Run

/-- What a run from `e` does with its queue, the attempts due by `due` among `ids`: the queue
names each attempt once; the attempts end along a trail from the engine `e` to the engine `e'` the
run leaves, the summary `s` reporting each, in the queue's order, with its end; and the summary
counts every attempt of the queue once. -/
structure ChargesEachOnce (e : Engine) (ids : Option (List Ident)) (due : Instant) (s : Summary)
    (e' : Engine) : Prop where
  nodup : ((e.store.findChargeable e.shuffle due ids).map (·.id)).Nodup
  trail : ∃ rs, e.observed.Trail (e.store.findChargeable e.shuffle due ids) rs e'.observed ∧
    s.attempts = List.zipWith (fun c r => (⟨c.id, r.mapError BillingError.text⟩ : Report))
      (e.store.findChargeable e.shuffle due ids) rs
  processed : s.processed = (e.store.findChargeable e.shuffle due ids).length
  counted : s.counted = s.processed

/-- A run from an engine with no key held, a well-formed store and a clock whose two moves stay on
the time line returns its summary, and processes every attempt of its queue exactly once: each is
read as the queue lists it, claimed, and ends by the rule for a claimed attempt, on the engine the
attempts before it left, the fast-charge guard tripping by the rule outside leap seconds. -/
theorem run_processes_each_due_attempt_once (e : Engine) (ids : Option (List Ident))
    (hheld : e.held = []) (hwf : e.store.Wf) (hclock : e.RunClock) :
    ∃ due s e', shiftBy e.now e.policy.lookahead = .ok due ∧ (run ids).exec e = .ok (.ok s, e') ∧
      ChargesEachOnce e ids due s e' := by
  obtain ⟨due, hdue⟩ := hclock.lookahead
  have hclear := Engine.observed_clear hheld hwf
  have hnodup := hwf.nodup_findChargeable e.shuffle due ids
  have hqueue : ∀ c ∈ e.store.findChargeable e.shuffle due ids,
      e.observed.attempts.charge? c.id = some c ∧ c.Claimable due := fun c hc => by
    obtain ⟨hmem, hst, hstatus, -, hle⟩ := Store.of_mem_findChargeable hc
    exact ⟨by simpa using hwf.charge?_of_mem hmem, hst, hstatus, hle⟩
  have hdue' : shiftBy e.observed.now e.observed.policy.lookahead = .ok due := by
    rw [Engine.observed_now, Engine.observed_policy]
    exact hdue
  have hre : ∃ t, shiftBy e.observed.now e.observed.policy.retryDelay = .ok t := by
    rw [Engine.observed_now, Engine.observed_policy]
    exact hclock.retry
  obtain ⟨rs, o', hloop, htrail⟩ := Observed.runAll_trail _ {} hclear hdue' hre hnodup hqueue
  -- the loop, seen on the observed engine, is the walk along the queue
  have hobs := processAll_observed_of_clear hclear (e.store.findChargeable e.shuffle due ids) {}
  rw [hloop] at hobs
  rcases hx : (processAll (e.store.findChargeable e.shuffle due ids) {}).exec e with ov | ⟨res, e'⟩
  · rw [hx] at hobs
    cases hobs
  rw [hx] at hobs
  obtain ⟨rfl, rfl⟩ := Prod.mk.inj (Except.ok.inj hobs)
  have hlen : ((e.store.findChargeable e.shuffle due ids).map (·.id)).length = rs.length := by
    rw [List.length_map, htrail.length_eq]
  refine ⟨due, _, e', hdue, by rw [run, exec_bind_ok (Attempts.exec_chargeable_of hdue ids), hx],
    ⟨hnodup, ⟨rs, htrail, ?_⟩, ?_, ?_⟩⟩
  · rw [Summary.recordAll_attempts, List.zipWith_map_left]
    rfl
  · rw [Summary.recordAll_processed _ _ _ hlen, List.length_map]
    exact Nat.zero_add _
  · rw [Summary.recordAll_counted _ _ _ hlen, Summary.recordAll_processed _ _ _ hlen]
    rfl

/-- One attempt due at the epoch, with its parent payment and its stored method, each under a
serial handed out, and the default policy at the epoch: the run processes it once. -/
theorem run_processes_the_attempt_due_at_the_epoch :
    let p₀ : Payment :=
      { id := Ident.ofSerial 1, user := ⟨0⟩, gateway := "test", status := .paid,
        amount := ⟨1999, 2, false⟩, paidAt := none, subscription := none, catalogItem := none,
        address := none, isRecurrent := false, parent := none, note := none,
        errorMessage := none, created := Instant.epoch, updated := Instant.epoch }
    let m₀ : Method :=
      { id := Ident.ofSerial 2, user := ⟨0⟩, gateway := "test", token := "tok", expiresOn := none,
        created := Instant.epoch }
    let c₀ : Charge :=
      { id := Ident.ofSerial 3, method := m₀.id, parent := p₀.id, payment := none,
        chargeAt := Instant.epoch, retries := 2, customAmount := none, renewalItem := none,
        state := .active, status := none, note := none, token := "tok", created := Instant.epoch,
        updated := Instant.epoch }
    let e₀ : Engine :=
      { now := Instant.epoch,
        store := { payments := [p₀], methods := [m₀], rows := [⟨c₀, 1⟩], seq := 1, serial := 3 } }
    e₀.held = [] ∧ e₀.store.Wf ∧ e₀.RunClock ∧
      ∃ due s e', shiftBy e₀.now e₀.policy.lookahead = .ok due ∧ (run none).exec e₀ = .ok (.ok s, e') ∧
        ChargesEachOnce e₀ none due s e' := by
  intro p₀ m₀ c₀ e₀
  have hwf : e₀.store.Wf := by
    refine ⟨by simp [e₀], fun i hi k hk heq => ?_⟩
    simp only [e₀, m₀, p₀, c₀, Store.ids, List.map_cons, List.map_nil, List.nil_append,
      List.cons_append, List.mem_cons, List.not_mem_nil, or_false] at hi hk
    -- the identifiers held were made from the serials 1 to 3, below every later serial
    rcases hi with rfl | rfl | rfl <;> have := Ident.ofSerial_injective heq <;> omega
  have hclock : e₀.RunClock := ⟨⟨⟨900, 0⟩, by decide +kernel⟩, ⟨⟨86400, 0⟩, by decide +kernel⟩⟩
  exact ⟨rfl, hwf, hclock, run_processes_each_due_attempt_once e₀ none rfl hwf hclock⟩

end Run

end Rebill
