import Rebill.Proofs.Independence
import Rebill.Proofs.Locks

/-!
# The order of a run does not matter

The store lists the chargeable attempts in an order of its own, shuffled, and a run processes them
in that order. This module proves that the order does not change how the run ends when the
attempts are independent (`Observed.Independent`: distinct, no two linked to one payment, and,
with the fast-charge guard on, no two on one stored method) and every gateway answers by amount
and token alone (`Gateway.Steady`). Processing them in any two orders ends with the same overflow,
or with summaries that count alike and report the same lines, and with engines that are the same
up to a renaming of the payments opened during the run (`Run.processAll_order_irrelevant`). The
renamed engine (`Observed.rename`) has the same rows of attempts, payments, audit lines, events of
each attempt and of each payment, messages, gateway calls and counters, each payment under its
new name.

The argument is the one for any sequence of commuting steps, on the observed engine:

* `Observed.runAll` processes a list of attempts one `Observed.step` after the other, as the loop
  of a run does (`Run.processAll_observed`).
* **Two adjacent independent attempts swap** (`Observed.Ready.steps_swap`). The second reads what
  it read before the first (`Observed.Ready.view_step`), and its writes are apart from those of
  the first (`Observed.Ready.writes_apart`), so they commute. What differs is which of the next
  two serials each payment opened takes: the engines after the two orders differ by the renaming
  that swaps them, when both open one (`Observed.pairSwap`).
* **A renaming commutes with the rest of the run** (`Observed.Ready.runAll_rename`), as long as it
  leaves the views of the attempts still to come alone and the serials still to be handed out.
* **Induction on the permutation** (`Observed.Ready.runAll_perm`), with `Observed.EndsAlike` as
  the relation between two ends of a run.
-/

namespace Rebill

/-! ## Summaries alike -/

namespace Run

/-- Two summaries with the same counts that report the same lines, maybe in another order. -/
structure Summary.Alike (s t : Summary) : Prop where
  counts : { s with attempts := [] } = { t with attempts := [] }
  reports : s.attempts.Perm t.attempts

namespace Summary

variable {s t u : Summary}

theorem Alike.refl (s : Summary) : s.Alike s := ⟨rfl, List.Perm.refl _⟩

theorem Alike.trans (h : s.Alike t) (h' : t.Alike u) : s.Alike u :=
  ⟨h.counts.trans h'.counts, h.reports.trans h'.reports⟩

theorem record_counts (s : Summary) (a : Ident) (r : Except BillingError Outcome) :
    { s.record a r with attempts := [] } =
      { ({ s with attempts := [] } : Summary).record a r with attempts := [] } := by
  cases r with
  | error => rfl
  | ok o => cases o <;> rfl

theorem Alike.record (h : s.Alike t) (a : Ident) (r : Except BillingError Outcome) :
    (s.record a r).Alike (t.record a r) := by
  refine ⟨by rw [record_counts s, record_counts t, h.counts], ?_⟩
  rw [record_attempts, record_attempts]
  exact h.reports.append_right _

theorem record_comm (s : Summary) (a b : Ident) (ra rb : Except BillingError Outcome) :
    ((s.record a ra).record b rb).Alike ((s.record b rb).record a ra) := by
  refine ⟨?_, ?_⟩
  · -- the counters are raised by one each, in either order
    rcases ra with _ | ra <;> rcases rb with _ | rb <;> (try cases ra) <;> (try cases rb) <;> rfl
  · rw [record_attempts, record_attempts, record_attempts, record_attempts, List.append_assoc,
      List.append_assoc]
    exact List.Perm.append_left _ List.perm_append_comm

end Summary

/-! ## The loop of a run, one attempt at a time -/

open Svc

theorem exec_processAll_cons {c : Charge} {rest : List Charge} {s : Summary} {e e₁ : Engine}
    {r : Except BillingError Outcome} (h : (process c).exec e = .ok (r, e₁))
    (hr : ∀ err, r = .error err → err.isSystemic = false) :
    (processAll (c :: rest) s).exec e =
      (processAll rest (s.record c.id r)).exec (e₁.writeAll (afterAttempt r)) := by
  rw [processAll, exec_bind, exec_tryCatch, exec_map, h]
  cases r with
  | ok o => rfl
  | error err =>
    simp only [exec_pure, hr err rfl, Bool.false_eq_true, if_false, exec_bind, exec_count]
    rfl

theorem exec_processAll_cons_of_overflow {c : Charge} {rest : List Charge} {s : Summary}
    {e : Engine} {ov : Overflow} (h : (process c).exec e = .error ov) :
    (processAll (c :: rest) s).exec e = .error ov := by
  rw [processAll, exec_bind, exec_tryCatch, exec_map, h]

end Run

namespace Observed

/-! ## Runs on the observed engine -/

/-- Processing the attempts in order on the observed engine, as the loop of a run does, each
counted in the summary. -/
def runAll : List Ident → Run.Summary → Observed →
    Except Overflow (Except BillingError Run.Summary × Observed)
  | [], s, o => .ok (.ok s, o)
  | a :: l, s, o =>
    match o.step a with
    | .error ov => .error ov
    | .ok (r, o') => runAll l (s.record a r) o'

/-- Two ends of runs alike, seen from the engine `o₀` they started from: the same overflow; or
summaries alike, and engines the same up to a renaming that leaves the identifiers handed out
before the runs alone. -/
inductive EndsAlike (o₀ : Observed) :
    Except Overflow (Except BillingError Run.Summary × Observed) →
      Except Overflow (Except BillingError Run.Summary × Observed) → Prop
  | overflow (ov : Overflow) : EndsAlike o₀ (.error ov) (.error ov)
  | ended {s t : Run.Summary} {o : Observed} (σ : Equiv.Perm Ident) (hs : s.Alike t)
      (hσ : ∀ i, o₀.Issued i → σ i = i) : EndsAlike o₀ (.ok (.ok s, o)) (.ok (.ok t, o.rename σ))

variable {o o' o₀ : Observed} {a b x y : Ident} {l : List Ident} {s : Run.Summary}
  {r : Except BillingError Run.Outcome} {ov : Overflow} {σ : Equiv.Perm Ident}

theorem runAll_cons_of_ok (h : o.step a = .ok (r, o')) :
    runAll (a :: l) s o = runAll l (s.record a r) o' := by
  rw [runAll, h]

theorem runAll_cons_of_error (h : o.step a = .error ov) : runAll (a :: l) s o = .error ov := by
  rw [runAll, h]

namespace EndsAlike

variable {A B C : Except Overflow (Except BillingError Run.Summary × Observed)}

theorem of_alike {t : Run.Summary} (h : s.Alike t) (o : Observed) :
    EndsAlike o₀ (.ok (.ok s, o)) (.ok (.ok t, o)) := by
  have h' : EndsAlike o₀ (.ok (.ok s, o)) (.ok (.ok t, o.rename (Equiv.refl _))) :=
    .ended (Equiv.refl _) h fun _ _ => rfl
  rwa [rename_refl] at h'

theorem trans (h : EndsAlike o₀ A B) (h' : EndsAlike o₀ B C) : EndsAlike o₀ A C := by
  cases h with
  | overflow ov =>
    cases h'
    exact .overflow ov
  | ended σ hs hσ =>
    cases h' with
    | ended τ ht hτ =>
      rw [rename_rename]
      exact .ended (σ.trans τ) (hs.trans ht) fun i hi => by simp [hσ i hi, hτ i hi]

theorem mono (h : EndsAlike o' A B) (hle : o₀.serial ≤ o'.serial) : EndsAlike o₀ A B := by
  cases h with
  | overflow ov => exact .overflow ov
  | ended σ hs hσ => exact .ended σ hs fun i hi => hσ i (hi.mono hle)

theorem rename (h : EndsAlike o₀ A B) (hσ : ∀ i, o₀.Issued i → σ i = i) :
    EndsAlike o₀ A (B.map fun ro => (ro.1, ro.2.rename σ)) := by
  cases h with
  | overflow ov => exact .overflow ov
  | ended τ hs hτ =>
    simp only [Except.map]
    rw [rename_rename]
    exact .ended (τ.trans σ) hs fun i hi => by simp [hτ i hi, hσ i hi]

end EndsAlike

theorem runAll_alike {t : Run.Summary} (h : s.Alike t) (l : List Ident) (o : Observed) :
    EndsAlike o₀ (runAll l s o) (runAll l t o) := by
  induction l generalizing s t o with
  | nil => exact .of_alike h o
  | cons a l ih =>
    rcases hstep : o.step a with ov | ⟨r, o'⟩
    · rw [runAll_cons_of_error hstep, runAll_cons_of_error hstep]
      exact .overflow ov
    · rw [runAll_cons_of_ok hstep, runAll_cons_of_ok hstep]
      exact ih (h.record a r) o'

/-! ## What a step leaves for the attempts after it -/

theorem serial_le_step (h : o.step a = .ok (r, o')) : o.serial ≤ o'.serial := by
  obtain ⟨ws, hrun, rfl⟩ := step_eq_ok.mp h
  rw [step_serial hrun]
  exact Nat.le_add_right _ _

theorem next_step (h : o.step a = .ok (r, o')) :
    o'.next = if (View.of o a).opensPayment then Ident.ofSerial (o.serial + 2) else o.next := by
  obtain ⟨ws, hrun, rfl⟩ := step_eq_ok.mp h
  unfold next
  rw [step_serial hrun]
  split <;> rfl

theorem pairwise_step (hl : l.Pairwise o.Independent) (ha : ∀ b ∈ l, o.Independent a b)
    (h : o.step a = .ok (r, o')) : l.Pairwise o'.Independent :=
  hl.imp_of_mem fun hb hb' hbb' => hbb'.step (ha _ hb).ne (ha _ hb').ne h

theorem Ready.plan_after (ho : o.Ready) (hab : o.Independent a b) (h : o.step a = .ok (r, o')) :
    o'.plan b = Plan.process (View.of o b) o'.next := by
  unfold plan
  rw [ho.view_step hab h]

theorem Ready.process_swap (ho : o.Ready) {m m' : Nat} (hm : o.serial < m) (hm' : o.serial < m')
    (a : Ident) :
    (Plan.process (View.of o a) (Ident.ofSerial m')).run =
      (Plan.process (View.of o a) (Ident.ofSerial m)).run.map fun rw =>
        (rw.1, rw.2.map (Write.rename (Equiv.swap (Ident.ofSerial m) (Ident.ofSerial m')))) :=
  ho.process_moved (ho.fixedBy (fun _ hi => swap_fixes_issued hm hm' hi) a)
    fun _ => Equiv.swap_apply_left _ _

theorem step_overflow_eq {ov' : Overflow} (h : o.step a = .error ov) (h' : o'.step b = .error ov')
    (hnow : o'.now = o.now) (hpolicy : o'.policy = o.policy) : ov = ov' :=
  View.Overflows.eq ((Plan.process_within (view_charge_id a) o.next).overflows ov (step_eq_error.mp h))
    ((Plan.process_within (view_charge_id b) o'.next).overflows ov' (step_eq_error.mp h'))
    hnow hpolicy

/-! ## A renaming commutes with the rest of a run -/

theorem Ready.step_rename (ho : o.Ready) (hv : (View.of o a).FixedBy σ) (hk : σ o.next = o.next) :
    (o.rename σ).step a = (o.step a).map fun ro => (ro.1, ro.2.rename σ) := by
  have hplan : (o.rename σ).plan a = o.plan a := by
    unfold plan
    rw [View.of_rename, View.rename_eq_self hv]
    rfl
  unfold Observed.step
  rw [hplan]
  rcases hrun : (o.plan a).run with ov | ⟨r, ws⟩
  · rfl
  · have hconf := writes_confined hrun
    have hfixed : (ws ++ Run.afterAttempt r).map (Write.rename σ) = ws ++ Run.afterAttempt r := by
      rw [List.map_append, ho.writes_fixed hv (fun _ => hk) hrun, Run.afterAttempt_rename]
    simp only [Except.map]
    rw [rename_writeAll (fun w hw => keepsReply_of_asks ho.gateways (hconf w hw).asks), hfixed]

theorem Ready.runAll_rename (ho : o.Ready) (hl : l.Pairwise o.Independent)
    (hv : ∀ z ∈ l, (View.of o z).FixedBy σ)
    (hσ : ∀ m, o.serial < m → σ (Ident.ofSerial m) = Ident.ofSerial m) (s : Run.Summary) :
    runAll l s (o.rename σ) = (runAll l s o).map fun ro => (ro.1, ro.2.rename σ) := by
  induction l generalizing o s with
  | nil => rfl
  | cons a l ih =>
    obtain ⟨ha, hl⟩ := List.pairwise_cons.mp hl
    have hstep := ho.step_rename (hv a List.mem_cons_self) (hσ _ (Nat.lt_succ_self _))
    rcases hs : o.step a with ov | ⟨r, o'⟩
    · rw [hs] at hstep
      rw [runAll_cons_of_error hstep, runAll_cons_of_error hs]
      rfl
    · have hstep' : (o.rename σ).step a = .ok (r, o'.rename σ) := by
        rw [hstep, hs]
        rfl
      rw [runAll_cons_of_ok hstep', runAll_cons_of_ok hs]
      -- the attempts still to come read after the step what they read before it
      refine ih (ho.step hs) (pairwise_step hl ha hs) (fun z hz => ?_)
        (fun m hm => hσ m (Nat.lt_of_le_of_lt (serial_le_step hs) hm)) _
      rw [ho.view_step (ha z hz) hs]
      exact hv z (List.mem_cons_of_mem _ hz)

/-! ## Two independent attempts swap -/

/-- The renaming between the two orders of the steps of `x` and `y`: it swaps the next two serials
when both attempts open a payment, one taking each, and leaves everything alone otherwise. -/
def pairSwap (o : Observed) (x y : Ident) : Equiv.Perm Ident :=
  if (View.of o x).opensPayment && (View.of o y).opensPayment then
    Equiv.swap (Ident.ofSerial (o.serial + 1)) (Ident.ofSerial (o.serial + 2))
  else Equiv.refl _

theorem pairSwap_fixes_issued {i : Ident} (hi : o.Issued i) : o.pairSwap x y i = i := by
  unfold pairSwap
  split
  · exact swap_fixes_issued (by omega) (by omega) hi
  · rfl

theorem pairSwap_next (h : o.step x = .ok (r, o')) (hy : (View.of o y).opensPayment = true) :
    o.pairSwap x y o'.next = o.next := by
  rw [next_step h]
  unfold pairSwap next
  cases hx : (View.of o x).opensPayment <;> simp [hy]

theorem next_pairSwap (h : o.step y = .ok (r, o')) (hx : (View.of o x).opensPayment = true) :
    o.pairSwap x y o.next = o'.next := by
  rw [next_step h]
  unfold pairSwap next
  cases hy : (View.of o y).opensPayment <;> simp [hx]

theorem pairSwap_fixes_later {rx ry : Except BillingError Run.Outcome} {ox oxy : Observed}
    (hx : o.step x = .ok (rx, ox)) (hy : ox.step y = .ok (ry, oxy)) (hview : View.of ox y = View.of o y)
    {m : Nat} (hm : oxy.serial < m) : o.pairSwap x y (Ident.ofSerial m) = Ident.ofSerial m := by
  obtain ⟨wx, hwx, rfl⟩ := step_eq_ok.mp hx
  obtain ⟨wy, hwy, rfl⟩ := step_eq_ok.mp hy
  rw [step_serial hwy, step_serial hwx, hview] at hm
  unfold pairSwap
  split
  · rename_i hboth
    simp only [Bool.and_eq_true] at hboth
    rw [if_pos hboth.1, if_pos hboth.2] at hm
    refine Equiv.swap_apply_of_ne_of_ne ?_ ?_ <;> intro heq <;>
      have := Ident.ofSerial_injective heq <;> omega
  · rfl

theorem Ready.writeAll_swap (ho : o.Ready) (hσ : ∀ i, o.Issued i → σ i = i) {us vs : List Write}
    (hapart : ∀ u ∈ us, ∀ v ∈ vs, u.Apart v) (hkeeps : ∀ w ∈ vs ++ us, w.KeepsReply σ) :
    (o.writeAll (vs.map (Write.rename σ))).writeAll (us.map (Write.rename σ)) =
      ((o.writeAll us).writeAll vs).rename σ := by
  calc (o.writeAll (vs.map (Write.rename σ))).writeAll (us.map (Write.rename σ))
      = (o.rename σ).writeAll ((vs ++ us).map (Write.rename σ)) := by
        rw [ho.settled σ hσ, List.map_append, writeAll_append]
    _ = (o.writeAll (vs ++ us)).rename σ := (rename_writeAll hkeeps o).symm
    _ = ((o.writeAll us).writeAll vs).rename σ := by
        rw [writeAll_append, writeAll_comm fun v hv u hu => (hapart u hu v hv).symm]

theorem Ready.steps_apart (ho : o.Ready) (hxy : o.Independent x y)
    {rx ry : Except BillingError Run.Outcome} {wx wy : List Write} (hwx : (o.plan x).run = .ok (rx, wx))
    {k : Ident} (hk : k = if (View.of o x).opensPayment then Ident.ofSerial (o.serial + 2) else o.next)
    (hwy : (Plan.process (View.of o y) k).run = .ok (ry, wy)) :
    ∀ u ∈ wx ++ Run.afterAttempt rx, ∀ v ∈ wy ++ Run.afterAttempt ry, u.Apart v := by
  have hfresh : ∀ m, o.serial < m → ¬o.Issued (Ident.ofSerial m) := fun m hm hi => hi m hm rfl
  have hne : Ident.ofSerial (o.serial + 1) ≠ Ident.ofSerial (o.serial + 2) := fun h =>
    absurd (Ident.ofSerial_injective h) (by omega)
  -- when `x` opens nothing its plan is the same under the serial after the next
  cases hopen : (View.of o x).opensPayment
  · simp only [hopen, Bool.false_eq_true, if_false] at hk
    have hwx' : (Plan.process (View.of o x) (Ident.ofSerial (o.serial + 2))).run = .ok (rx, wx) :=
      (Plan.process_of_not_opens hopen _ _).trans hwx
    exact ho.writes_apart hxy (by rw [hk]; exact hne.symm) (hfresh _ (by omega))
      (by rw [hk]; exact hfresh _ (by omega)) hwx' hwy
  · simp only [hopen, if_true] at hk
    exact ho.writes_apart hxy (by rw [hk]; exact hne) (hfresh _ (by omega))
      (by rw [hk]; exact hfresh _ (by omega)) hwx hwy

theorem Ready.steps_swap (ho : o.Ready) (hxy : o.Independent x y)
    {rx ry : Except BillingError Run.Outcome} {ox oxy : Observed}
    (hx : o.step x = .ok (rx, ox)) (hy : ox.step y = .ok (ry, oxy)) :
    ∃ oy, o.step y = .ok (ry, oy) ∧ oy.step x = .ok (rx, oxy.rename (o.pairSwap x y)) := by
  have hσ : ∀ i, o.Issued i → o.pairSwap x y i = i := fun _ hi => pairSwap_fixes_issued hi
  obtain ⟨wx, hwx, hox⟩ := step_eq_ok.mp hx
  obtain ⟨wy, hwy, hoxy⟩ := step_eq_ok.mp hy
  rw [ho.plan_after hxy hx] at hwy
  -- `y` first: its plan under the first serial makes its writes renamed
  have hwy' : (o.plan y).run = .ok (ry, wy.map (Write.rename (o.pairSwap x y))) := by
    rw [show o.plan y = Plan.process (View.of o y) o.next from rfl,
      ho.process_moved (ho.fixedBy hσ y) (pairSwap_next hx), hwy]
    rfl
  have hy₁ : o.step y = .ok (ry, o.writeAll (wy.map (Write.rename (o.pairSwap x y)) ++
      Run.afterAttempt ry)) := step_eq_ok.mpr ⟨_, hwy', rfl⟩
  -- then `x`: its plan under the identifier left to it makes its writes renamed
  have hwx' : ((o.writeAll (wy.map (Write.rename (o.pairSwap x y)) ++ Run.afterAttempt ry)).plan x).run =
      .ok (rx, wx.map (Write.rename (o.pairSwap x y))) := by
    rw [ho.plan_after hxy.symm hy₁, ho.process_moved (ho.fixedBy hσ x) (next_pairSwap hy₁),
      show Plan.process (View.of o x) o.next = o.plan x from rfl, hwx]
    rfl
  refine ⟨_, hy₁, step_eq_ok.mpr ⟨_, hwx', ?_⟩⟩
  -- the two engines: the writes commute, and the renaming passes over the ready engine
  have hapart := ho.steps_apart hxy hwx (next_step hx) hwy
  have hconf : ∀ w ∈ (wy ++ Run.afterAttempt ry) ++ (wx ++ Run.afterAttempt rx),
      w.KeepsReply (o.pairSwap x y) := by
    intro w hw
    rcases List.mem_append.mp hw with hw | hw
    · exact keepsReply_of_asks ho.gateways (writes_confined hwy w hw).asks
    · exact keepsReply_of_asks ho.gateways (writes_confined hwx w hw).asks
  rw [hoxy, hox, ← ho.writeAll_swap hσ hapart hconf, List.map_append, List.map_append,
    Run.afterAttempt_rename, Run.afterAttempt_rename]

theorem Ready.runAll_swap (ho : o.Ready) (hl : (x :: y :: l).Pairwise o.Independent)
    (s : Run.Summary) : EndsAlike o (runAll (x :: y :: l) s o) (runAll (y :: x :: l) s o) := by
  obtain ⟨hx, hl'⟩ := List.pairwise_cons.mp hl
  obtain ⟨hy, hl⟩ := List.pairwise_cons.mp hl'
  have hxy : o.Independent x y := hx y List.mem_cons_self
  have hxl : ∀ z ∈ l, o.Independent x z := fun z hz => hx z (List.mem_cons_of_mem _ hz)
  rcases hsx : o.step x with ov | ⟨rx, ox⟩
  · -- `x` overflows first; in the other order it overflows alike, after `y` or in `y`
    rw [runAll_cons_of_error hsx]
    rcases hsy : o.step y with ov' | ⟨ry, oy⟩
    · rw [runAll_cons_of_error hsy, step_overflow_eq hsx hsy rfl rfl]
      exact .overflow ov'
    · have hsyx : oy.step x = .error ov := by
        have hle := serial_le_step hsy
        rw [step_eq_error, ho.plan_after hxy.symm hsy, next,
          ho.process_swap (Nat.lt_succ_self o.serial) (Nat.lt_succ_of_le hle) x]
        rw [show Plan.process (View.of o x) (Ident.ofSerial (o.serial + 1)) = o.plan x from rfl,
          step_eq_error.mp hsx]
        rfl
      rw [runAll_cons_of_ok hsy, runAll_cons_of_error hsyx]
      exact .overflow ov
  rw [runAll_cons_of_ok hsx]
  rcases hsxy : ox.step y with ov | ⟨ry, oxy⟩
  · -- `y` overflows after `x`; first, it overflows alike
    have hsy : o.step y = .error ov := by
      have hle := serial_le_step hsx
      have h := step_eq_error.mp hsxy
      rw [ho.plan_after hxy hsx, next] at h
      rw [step_eq_error, show o.plan y = Plan.process (View.of o y) (Ident.ofSerial (o.serial + 1))
        from rfl, ho.process_swap (Nat.lt_succ_of_le hle) (Nat.lt_succ_self o.serial) y, h]
      rfl
    rw [runAll_cons_of_error hsxy, runAll_cons_of_error hsy]
    exact .overflow ov
  obtain ⟨oy, hsy, hsyx⟩ := ho.steps_swap hxy hsx hsxy
  rw [runAll_cons_of_ok hsxy, runAll_cons_of_ok hsy, runAll_cons_of_ok hsyx]
  -- the attempts after the two read what they read before them, and stay independent
  have hox := ho.step hsx
  have hyl : ∀ z ∈ l, ox.Independent y z := fun z hz => (hy z hz).step hxy.ne (hxl z hz).ne hsx
  have hview : ∀ z ∈ l, View.of oxy z = View.of o z := fun z hz => by
    rw [hox.view_step (hyl z hz) hsxy, ho.view_step (hxl z hz) hsx]
  have hl₂ : l.Pairwise oxy.Independent :=
    pairwise_step (pairwise_step hl hxl hsx) hyl hsxy
  have hσ : ∀ i, o.Issued i → o.pairSwap x y i = i := fun _ hi => pairSwap_fixes_issued hi
  rw [(hox.step hsxy).runAll_rename hl₂ (fun z hz => hview z hz ▸ ho.fixedBy hσ z)
    (fun _ hm => pairSwap_fixes_later hsx hsxy (ho.view_step hxy hsx) hm)]
  exact (runAll_alike (Run.Summary.record_comm s x y rx ry) l oxy).rename hσ

theorem Ready.runAll_perm {l₁ l₂ : List Ident} (ho : o.Ready) (hl : l₁.Pairwise o.Independent)
    (hp : l₁.Perm l₂) (s : Run.Summary) : EndsAlike o (runAll l₁ s o) (runAll l₂ s o) := by
  induction hp generalizing o s with
  | nil => exact .of_alike (.refl s) o
  | cons a _ ih =>
    obtain ⟨ha, hl⟩ := List.pairwise_cons.mp hl
    rcases hs : o.step a with ov | ⟨r, o'⟩
    · rw [runAll_cons_of_error hs, runAll_cons_of_error hs]
      exact .overflow ov
    · rw [runAll_cons_of_ok hs, runAll_cons_of_ok hs]
      exact (ih (ho.step hs) (pairwise_step hl ha hs) _).mono (serial_le_step hs)
  | swap x y l => exact ho.runAll_swap hl s
  | trans hp₁ _ ih₁ ih₂ =>
    exact (ih₁ ho hl s).trans (ih₂ ho ((hp₁.pairwise_iff fun h => h.symm).mp hl) s)

end Observed

namespace Run

theorem processAll_observed_of_clear {e : Engine} (he : e.observed.Clear) (cs : List Charge)
    (s : Summary) :
    ((processAll cs s).exec e).map (fun re => (re.1, re.2.observed)) =
      e.observed.runAll (cs.map (·.id)) s := by
  induction cs generalizing e s with
  | nil => rfl
  | cons c cs ih =>
    have hsim : (process c).exec e =
        (e.observed.plan c.id).run.map fun rw => (rw.1, e.writeAll rw.2) :=
      Sim.process he.held (he.fresh _ (Nat.lt_succ_self _)) c
    rcases hrun : (e.observed.plan c.id).run with ov | ⟨r, ws⟩
    · rw [hrun] at hsim
      rw [exec_processAll_cons_of_overflow hsim, List.map_cons,
        Observed.runAll_cons_of_error (Observed.step_eq_error.mpr hrun)]
      rfl
    · have hx : (process c).exec e = .ok (r, e.writeAll ws) := by
        rw [hsim, hrun]
        rfl
      have hstep : e.observed.step c.id = .ok (r, e.observed.writeAll (ws ++ afterAttempt r)) :=
        Observed.step_eq_ok.mpr ⟨ws, hrun, rfl⟩
      -- processing never ends with a systemic error, so the loop goes on
      have hr : ∀ err, r = .error err → err.isSystemic = false := by
        rintro err rfl
        exact (Plan.process_within (Observed.view_charge_id c.id) _).errors err ws hrun
      have hobs : ((e.writeAll ws).writeAll (afterAttempt r)).observed =
          e.observed.writeAll (ws ++ afterAttempt r) := by
        rw [← Engine.writeAll_append, Engine.observed_writeAll]
      rw [exec_processAll_cons hx hr, List.map_cons, Observed.runAll_cons_of_ok hstep, ← hobs]
      exact ih (by rw [hobs]; exact he.step hstep) _

theorem processAll_observed {e : Engine} (he : e.observed.Ready) (cs : List Charge) (s : Summary) :
    ((processAll cs s).exec e).map (fun re => (re.1, re.2.observed)) =
      e.observed.runAll (cs.map (·.id)) s :=
  processAll_observed_of_clear he.clear cs s

/-- Processing attempts that are pairwise independent, from an engine that is ready, in any two
orders: both runs overflow alike, or both end with summaries that count alike and report the same
lines, and with engines the same up to a renaming of the payments opened during the runs. -/
theorem processAll_order_irrelevant {e : Engine} (he : e.observed.Ready) {l₁ l₂ : List Charge}
    (hl : (l₁.map (·.id)).Pairwise e.observed.Independent) (hp : l₁.Perm l₂) (s : Summary) :
    e.observed.EndsAlike (((processAll l₁ s).exec e).map fun re => (re.1, re.2.observed))
      (((processAll l₂ s).exec e).map fun re => (re.1, re.2.observed)) := by
  rw [processAll_observed he, processAll_observed he]
  exact he.runAll_perm hl (hp.map _) s

/-- Two renewals on different stored methods, each of its own paid parent, through a gateway that
leaves the charge of one token pending and declines every other, processed in both orders: the
hypotheses hold, and the two runs end alike. -/
theorem processAll_order_irrelevant_two_renewals :
    let p₁ : Payment :=
      { id := Ident.ofSerial 1, user := ⟨7⟩, gateway := "test", status := .paid,
        amount := ⟨1999, 2, false⟩, paidAt := none, subscription := none, catalogItem := none,
        address := none, isRecurrent := true, parent := none, note := none, errorMessage := none,
        created := Instant.epoch, updated := Instant.epoch }
    let p₂ : Payment := { p₁ with id := Ident.ofSerial 2 }
    let c₁ : Charge :=
      { id := ⟨11⟩, method := ⟨21⟩, parent := Ident.ofSerial 1, payment := none,
        chargeAt := Instant.epoch, retries := 3, customAmount := none, renewalItem := none,
        state := .active, status := none, note := none, token := "tok", created := Instant.epoch,
        updated := Instant.epoch }
    let c₂ : Charge :=
      { c₁ with id := ⟨12⟩, method := ⟨22⟩, parent := Ident.ofSerial 2, token := "tok2" }
    let reply : Decimal → String → ChargeReply := fun _ token =>
      if token = "tok" then
        .pending { code := "PENDING", message := "Awaiting settlement", successful := true,
                   data := .object [] }
      else
        .failed ⟨.retryable, { code := "DECLINED", message := "Card declined", successful := false,
                               data := .object [] }⟩
    let e : Engine :=
      { now := Instant.epoch,
        store := { payments := [p₁, p₂], rows := [⟨c₁, 1⟩, ⟨c₂, 2⟩], serial := 2 },
        gateways := ⟨[{ id := "test", answering := .answers reply }]⟩ }
    e.observed.Ready ∧ ([c₁, c₂].map (·.id)).Pairwise e.observed.Independent ∧
      [c₁, c₂].Perm [c₂, c₁] ∧
      e.observed.EndsAlike (((processAll [c₁, c₂] {}).exec e).map fun re => (re.1, re.2.observed))
        (((processAll [c₂, c₁] {}).exec e).map fun re => (re.1, re.2.observed)) := by
  intro p₁ p₂ c₁ c₂ reply e
  have hne : ∀ {m n : Nat}, m ≠ n → Ident.ofSerial m ≠ Ident.ofSerial n :=
    fun h h' => h (Ident.ofSerial_injective h')
  have hset : e.observed.Settled := by
    intro σ hσ
    have h₁ : σ (Ident.ofSerial 1) = Ident.ofSerial 1 := hσ _ fun m (hm : 2 < m) => hne (by omega)
    have h₂ : σ (Ident.ofSerial 2) = Ident.ofSerial 2 := hσ _ fun m (hm : 2 < m) => hne (by omega)
    ext1
    all_goals try rfl
    · simp [Observed.rename, Engine.observed, e, ChargeRow.rename, Charge.rename, h₁, h₂, c₁, c₂]
    · funext i
      show (List.find? (fun p => p.id == σ.symm i) [p₁, p₂]).map (Payment.rename σ) =
        List.find? (fun p => p.id == i) [p₁, p₂]
      have hr₁ : p₁.rename σ = p₁ := by simp [Payment.rename, p₁, h₁]
      have hr₂ : p₂.rename σ = p₂ := by simp [Payment.rename, p₂, p₁, h₂]
      have hj : ∀ j, σ j = j → ((j == σ.symm i) = (j == i)) := fun j hj => by
        rw [Bool.eq_iff_iff, beq_iff_eq, beq_iff_eq, Equiv.eq_symm_apply, hj]
      simp only [List.find?_cons, List.find?_nil]
      rw [show p₁.id = Ident.ofSerial 1 from rfl, show p₂.id = Ident.ofSerial 2 from rfl, hj _ h₁,
        hj _ h₂]
      cases Ident.ofSerial 1 == i <;> cases Ident.ofSerial 2 == i <;> simp [hr₁, hr₂]
  have he : e.observed.Ready := by
    refine ⟨rfl, by decide, fun m (hm : 2 < m) => ?_, fun i q hq => Store.id_of_payment? e.store hq,
      fun x g hg => ?_, hset⟩
    · show List.find? (fun p => p.id == Ident.ofSerial m) [p₁, p₂] = none
      simp [p₁, p₂, hne (show 1 ≠ m by omega), hne (show 2 ≠ m by omega)]
    · simp [Engine.observed, e, GatewayRegistry.get?] at hg
      obtain ⟨rfl, rfl⟩ := hg
      exact ⟨rfl, Gateway.steady_of_answers rfl⟩
  have hind : e.observed.Independent c₁.id c₂.id := by
    have hc₁ : e.observed.attempts.charge? c₁.id = some c₁ := rfl
    have hc₂ : e.observed.attempts.charge? c₂.id = some c₂ := rfl
    refine ⟨by decide, ?_, fun _ => ?_⟩
    · rw [hc₁, hc₂]
      intro c hc d hd i hi
      simp only [Option.mem_def, Option.some.injEq] at hc
      subst hc
      cases hi
    · rw [hc₁, hc₂]
      intro c hc d hd
      simp only [Option.mem_def, Option.some.injEq] at hc hd
      subst hc hd
      decide
  have hl : ([c₁, c₂].map (·.id)).Pairwise e.observed.Independent := List.pairwise_pair.mpr hind
  have hp : [c₁, c₂].Perm [c₂, c₁] := .swap c₂ c₁ []
  exact ⟨he, hl, hp, processAll_order_irrelevant he hl hp {}⟩

end Run

end Rebill
