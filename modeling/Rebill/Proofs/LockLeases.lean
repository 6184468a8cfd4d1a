import Rebill.Proofs.LockSlots

/-!
# Leases of the lock table, and the slot a timed-out wait leaves behind

From the invariant of `LockSlots`: at most one call holds the lease on a key (`Wf.exclusive`); a
call's first poll takes the lease when no other call holds or waits for its key
(`Wf.lockOwned_holds`); a listed slot counts the table's reference alone exactly when no call
refers to it (`Wf.refs_eq_one_iff`), and `release`'s check forgets a key exactly then
(`Wf.forget_table`). So a slot is never dropped while a call uses it, and two holders of one key
never hold different mutexes (`leases_exclusive_and_slots_kept_in_use`). All of this holds for
every mutex that keeps the laws of `Mutex`.

Only `release` checks the table. A call whose timer fired keeps its reference and its place in
line until it drops its wait, and when calls run on several threads a `release` can come in
between: it hands the mutex to that call, sees the call's reference and keeps the slot. The call
then drops its reference and returns, and nothing forgets the key: the table lists it with no
lease held and no call left (`timed_out_wait_leaves_its_slot_listed`, run with `Mutex.fifo`).
While the mutex is granted to that call, a call that begins with no wait finds it taken and
fails, though no call holds the key.
-/

namespace Rebill

namespace LockTable

variable {M : Mutex} {σ : LockTable M} {c d : Nat} {key : String} {ms s : Nat}

/-- At most one call holds the lease on a key: both refer to the slot listed for the key, and its
mutex is granted to each. -/
theorem Wf.exclusive (h : σ.Wf) (hc : σ.Holds c key) (hd : σ.Holds d key) : c = d := by
  obtain ⟨s, hs⟩ := hc
  obtain ⟨s', hs'⟩ := hd
  have h₁ := h.counted.listed c key s (by simp [Refers, hs, Call.clone?])
  have h₂ := h.counted.listed d key s' (by simp [Refers, hs', Call.clone?])
  rw [h₁] at h₂
  cases h₂
  have hown := h.granted.holder c key s hs
  rw [h.granted.holder d key s hs'] at hown
  exact (Option.some.inj hown).symm

theorem users_eq_zero_iff : σ.users s = 0 ↔ ∀ c key, ¬ σ.Refers c key s := by
  constructor
  · intro h0 c key hr
    have := users_pos_of_refers hr
    omega
  · intro hfree
    simp only [users, List.countP_eq_zero, beq_iff_eq]
    intro x hx hslot
    obtain ⟨c, hc⟩ := List.getElem?_of_mem hx
    cases hclone : x.clone? with
    | none => simp [Call.slot?, hclone] at hslot
    | some p =>
      simp only [Call.slot?, hclone, Option.map_some, Option.some.injEq] at hslot
      exact hfree c p.1 (by simp [Refers, call?, hc, hclone, ← hslot])

/-- A listed slot counts the table's reference alone exactly when no call refers to it. -/
theorem Wf.refs_eq_one_iff (h : σ.Wf) (hs : σ.table key = some s) :
    (σ.slot s).refs = 1 ↔ ∀ c k, ¬ σ.Refers c k s := by
  rw [h.counted.counted key s hs, ← users_eq_zero_iff]
  omega

/-- `release`'s check forgets a key exactly when no call refers to the key's slot. -/
theorem Wf.forget_table (h : σ.Wf) (c : Nat) (key : String) :
    (σ.forget c key).table key = none ↔ ∀ d s, ¬ σ.Refers d key s := by
  simp only [forget, table_setCall]
  unfold forgetKey
  split
  · next s hs =>
    have hother : (∀ d k, ¬ σ.Refers d k s) ↔ ∀ d t, ¬ σ.Refers d key t := by
      constructor
      · intro hfree d t hr
        have ht := h.counted.listed d key t hr
        rw [hs] at ht
        cases ht
        exact hfree d key hr
      · intro hfree d k hr
        have hk := h.counted.distinct k key s (h.counted.listed d k s hr) hs
        subst hk
        exact hfree d s hr
    rw [← hother, ← h.refs_eq_one_iff hs]
    split
    · simp [*]
    · simp [*]
  · next hs =>
    simp only [hs, true_iff]
    intro d t hr
    have := h.counted.listed d key t hr
    rw [hs] at this
    cases this

/-- A call's first poll takes the lease when no other call holds or waits for its key: the mutex
could only be granted to such a call. -/
theorem Wf.lockOwned_holds (h : σ.Wf) (hc : σ.call? c = some (.cloned key ms s))
    (hfree : ∀ d, d ≠ c → ¬ σ.Holds d key ∧ ¬ σ.Waits d key) :
    (σ.lockOwned c key ms s).Holds c key := by
  have hlisted := h.counted.listed c key s (by simp [Refers, hc, Call.clone?])
  have hown : (σ.slot s).owner = none := by
    cases ho : (σ.slot s).owner with
    | none => rfl
    | some o =>
      obtain ⟨z, hz, hmay⟩ := h.granted.owned s o ho
      have hoc : o ≠ c := fun hoc => by
        rw [hoc, hc] at hz
        cases hz
        simp [Call.MayOwn] at hmay
      -- the call the mutex is granted to refers to the slot, so to the key it is listed under
      obtain ⟨k, hk⟩ : ∃ k, z.clone? = some (k, s) := by
        cases z <;> simp_all [Call.MayOwn, Call.clone?]
      have hkey : k = key :=
        h.counted.distinct k key s (h.counted.listed o k s (by simp [Refers, hz, hk])) hlisted
      subst hkey
      cases z with
      | holding k' t =>
        simp only [Call.clone?, Option.some.injEq, Prod.mk.injEq] at hk
        obtain ⟨rfl, rfl⟩ := hk
        exact absurd ⟨_, hz⟩ (hfree o hoc).1
      | expired k' ms' t =>
        simp only [Call.clone?, Option.some.injEq, Prod.mk.injEq] at hk
        obtain ⟨rfl, rfl⟩ := hk
        exact absurd ⟨ms', _, .inr hz⟩ (hfree o hoc).2
      | _ => simp [Call.MayOwn] at hmay
  -- by the mutex's laws, the poll takes the free mutex
  obtain ⟨hpoll, -⟩ := M.poll_free (σ.slot s).mutex c hown
  have hget : ((σ.setMutex s (M.poll (σ.slot s).mutex c)).slot s).owner = some c := by
    rw [owner_setMutex, if_pos rfl, hpoll]
  have hc' : (σ.setMutex s (M.poll (σ.slot s).mutex c)).call? c = some (.cloned key ms s) := hc
  refine ⟨s, ?_⟩
  dsimp only [lockOwned]
  rw [if_pos hget, call?_setCall_of hc', if_pos rfl]

theorem timerFires_then_dropFuture (hc : σ.call? c = some (.waiting key ms s)) :
    ∃ τ, σ.run [.timerFires c, .dropFuture c] = some τ ∧
      τ.call? c = some (.failed (.lockTimeout key ms)) := by
  have hc' : (σ.setCall c (.expired key ms s)).call? c = some (.expired key ms s) := by
    rw [call?_setCall_of hc, if_pos rfl]
  refine ⟨(σ.setCall c (.expired key ms s)).dropFuture c key ms s, ?_, ?_⟩
  · simp [run, step, hc, hc']
  · dsimp only [LockTable.dropFuture]
    apply call?_setCall_self
    split <;> simp [lt_of_call? hc]


theorem run_append (ls ls' : List LockStep) :
    σ.run (ls ++ ls') = (σ.run ls).bind fun τ => τ.run ls' := by
  induction ls generalizing σ with
  | nil => rfl
  | cons l ls ih =>
    simp only [List.cons_append, run]
    cases σ.step l with
    | none => rfl
    | some τ => exact ih

/-- What the lock table guarantees in every state that an interleaving of `acquire` and `release`
calls reaches, timed-out calls included, whatever mutex keeps the laws the runtime documents. At most one call holds the lease on a key. Every call
that holds, waits for or has looked up a key refers to the slot the table lists for that key: a
slot is never dropped while a holder or a waiter uses it, and two holders never hold different
mutexes for one key. A listed slot counts the table's reference alone exactly when no call refers
to it, and `release`'s check forgets a key exactly then. A first poll takes the lease when no
other call holds or waits for the key, and a call still in line when its timer fires fails with
`lockTimeout` for its key and its wait. -/
theorem leases_exclusive_and_slots_kept_in_use (h : σ.Reachable) :
    (∀ c d key, σ.Holds c key → σ.Holds d key → c = d) ∧
    (∀ c key s, σ.Refers c key s → σ.table key = some s) ∧
    (∀ key s, σ.table key = some s → ((σ.slot s).refs = 1 ↔ ∀ c k, ¬ σ.Refers c k s)) ∧
    (∀ c key, σ.call? c = some (.releasing key) →
      ((σ.forget c key).table key = none ↔ ∀ d s, ¬ σ.Refers d key s)) ∧
    (∀ c key ms s, σ.call? c = some (.cloned key ms s) →
      (∀ d, d ≠ c → ¬ σ.Holds d key ∧ ¬ σ.Waits d key) →
      ∃ τ, σ.step (.lockOwned c) = some τ ∧ τ.Holds c key) ∧
    (∀ c key ms s, σ.call? c = some (.waiting key ms s) →
      ∃ τ, σ.run [.timerFires c, .dropFuture c] = some τ ∧
        τ.call? c = some (.failed (.lockTimeout key ms))) := by
  have hw := h.wf
  refine ⟨fun c d key => hw.exclusive, hw.counted.listed, fun key s => hw.refs_eq_one_iff,
    fun c key _ => hw.forget_table c key, fun c key ms s hc hfree => ?_,
    fun c key ms s => timerFires_then_dropFuture⟩
  exact ⟨_, by simp [step, hc], hw.lockOwned_holds hc hfree⟩

/-- Two calls on one key, and a third. Call 0 holds the lease; call 1 waits for it, and its timer
fires. Call 0 then releases: the mutex is handed to call 1, still in line, and `release`'s check
sees call 1's reference and keeps the slot. A call 2 with no wait begins while no call holds the
key, finds the mutex granted and fails. Call 1 then drops its wait: every call has returned, and
the table still lists the key, with a slot no call refers to. -/
theorem timed_out_wait_leaves_its_slot_listed :
    let k := "payment:1"
    let first : List LockStep := [.acquire k 1000, .lockOwned 0, .acquire k 50, .lockOwned 1,
      .timerFires 1, .dropGuard 0, .forget 0]
    let second : List LockStep := [.acquire k 0, .lockOwned 2, .timerFires 2, .dropFuture 2,
      .dropFuture 1]
    ∃ σ₁ σ₂ : LockTable Mutex.fifo, run {} first = some σ₁ ∧ (∀ c, ¬ σ₁.Holds c k) ∧
      σ₁.run second = some σ₂ ∧
      σ₂.calls = [.released k, .failed (.lockTimeout k 50), .failed (.lockTimeout k 0)] ∧
      σ₂.table k = some 0 ∧ ∀ c s, ¬ σ₂.Refers c k s := by
  intro k first second
  have h₁ : (run ({} : LockTable Mutex.fifo) first).map (·.calls) =
      some [.released k, .expired k 50 0] := by
    decide
  have h₂ : (run ({} : LockTable Mutex.fifo) (first ++ second)).map
      (fun σ => (σ.calls, σ.table k, (σ.slot 0).refs)) =
      some ([.released k, .failed (.lockTimeout k 50), .failed (.lockTimeout k 0)], some 0, 1) := by
    decide
  obtain ⟨σ₁, hr₁, hcalls₁⟩ := Option.map_eq_some_iff.1 h₁
  obtain ⟨σ₂, hr₂, hfacts⟩ := Option.map_eq_some_iff.1 h₂
  simp only [Prod.mk.injEq] at hfacts
  obtain ⟨hcalls₂, htable, hrefs⟩ := hfacts
  have hg := leases_exclusive_and_slots_kept_in_use ⟨_, hr₂⟩
  refine ⟨σ₁, σ₂, hr₁, fun c ⟨s, hs⟩ => ?_, ?_, hcalls₂, htable, fun c s hr => ?_⟩
  · have hmem := List.mem_of_getElem? hs
    rw [hcalls₁] at hmem
    simp at hmem
  · rw [run_append, hr₁] at hr₂
    exact hr₂
  · -- the reference would be to the slot listed, which counts the table's reference alone
    have hs := hg.2.1 c k s hr
    rw [htable] at hs
    cases hs
    exact (hg.2.2.1 k 0 htable).1 hrefs c k hr

end LockTable

end Rebill
