import Rebill.Proofs.Reactivation
import Rebill.Proofs.Lineage

/-!
# When a reactivation goes through, and what it writes

A reactivation replaces the system-stopped attempt `c` under `id` by a fresh attempt. It goes
through exactly when `Attempts.Reactivable` holds: `c` is stored, an exhausted system stop, due no
earlier than the start of the reactivation window, and the latest attempt of its parent; the
parent is stored, not prepaid, and on a gateway that lets attempts be stopped; the parent's lock
is free; `c`'s method is stored; and both instants the reactivation computes lie on the time line.

When it goes through it makes one attempt from `c` (`reactivationDraft`), due the reactivation
delay after now, under the next identifier and sequence number, and writes the row of `c` back
with a note of the fresh attempt and the instant of the write (`Store.reactivated`). Nothing else
changes.

Afterwards `c` is superseded: a row of another attempt of its parent has a higher sequence number
than every row of `c` (`Store.Superseded`). No operation but the direct write of an attempt takes
a row away, renumbers it or gives a row an identifier handed out before (`Store.Grows`), so `c`
stays superseded over every later run of operations, and every later reactivation of `c` fails.
-/

namespace Rebill

/-! ## Rows only grow -/

namespace ChargeRow

/-- A row as a later store holds it: the same attempt of the same parent under the same sequence
number. -/
def Same (r r' : ChargeRow) : Prop :=
  r'.seq = r.seq ∧ r'.charge.id = r.charge.id ∧ r'.charge.parent = r.charge.parent

theorem Same.refl (r : ChargeRow) : Same r r := ⟨rfl, rfl, rfl⟩

theorem Same.trans {r₁ r₂ r₃ : ChargeRow} (h₁ : Same r₁ r₂) (h₂ : Same r₂ r₃) : Same r₁ r₃ :=
  ⟨h₂.1.trans h₁.1, h₂.2.1.trans h₁.2.1, h₂.2.2.trans h₁.2.2⟩

theorem Kept.same {r r' : ChargeRow} (h : Kept r r') : Same r r' := ⟨h.seq, h.id, h.parent⟩

end ChargeRow

namespace Store

/-- What a step that writes no attempt directly does to the rows: every row stays, as the same
attempt of the same parent under the same sequence number, and a row of an attempt whose
identifier was handed out before the step is one of those. -/
structure Grows (s s' : Store) : Prop where
  kept : ∀ r ∈ s.rows, ∃ r' ∈ s'.rows, r.Same r'
  old : ∀ r' ∈ s'.rows, s.Issued r'.charge.id → ∃ r ∈ s.rows, r.Same r'
  serial : s.serial ≤ s'.serial

namespace Grows

variable {s s' : Store}

theorem refl (s : Store) : Grows s s :=
  ⟨fun r hr => ⟨r, hr, .refl r⟩, fun r hr _ => ⟨r, hr, .refl r⟩, Nat.le_refl _⟩

theorem trans {s₂ s₃ : Store} (h₁ : Grows s s₂) (h₂ : Grows s₂ s₃) : Grows s s₃ := by
  refine ⟨fun r hr => ?_, fun r₃ hr₃ hi => ?_, Nat.le_trans h₁.serial h₂.serial⟩
  · obtain ⟨r₂, hr₂, h₁₂⟩ := h₁.kept r hr
    obtain ⟨r₃, hr₃, h₂₃⟩ := h₂.kept r₂ hr₂
    exact ⟨r₃, hr₃, h₁₂.trans h₂₃⟩
  · -- an identifier handed out before the first step was handed out before the second
    obtain ⟨r₂, hr₂, h₂₃⟩ := h₂.old r₃ hr₃ (hi.mono h₁.serial)
    have hi₂ : s.Issued r₂.charge.id := h₂₃.2.1 ▸ hi
    obtain ⟨r, hr, h₁₂⟩ := h₁.old r₂ hr₂ hi₂
    exact ⟨r, hr, h₁₂.trans h₂₃⟩

theorem of_forall₂ (h : List.Forall₂ ChargeRow.Same s.rows s'.rows) (hser : s.serial ≤ s'.serial) :
    Grows s s' := by
  refine ⟨fun r hr => ?_, fun r' hr' _ => exists_of_mem_forall₂ h hr', hser⟩
  obtain ⟨r', hr', hsame⟩ := exists_of_mem_forall₂ h.flip hr
  exact ⟨r', hr', hsame⟩

theorem of_keepsRows (h : KeepsRows s s') : Grows s s' :=
  of_forall₂ (h.rows.imp fun _ _ hk => hk.same) h.serial

theorem createCharge {d : ChargeDraft} {t : Instant} {c : Charge}
    (h : s.createCharge d t = .ok (c, s')) : Grows s s' := by
  obtain ⟨m, -, -, heq⟩ := (createCharge_eq_ok s).mp h
  cases heq
  refine ⟨fun r hr => ⟨r, List.mem_append_left _ hr, .refl r⟩, fun r' hr' hi => ?_,
    Nat.le_succ _⟩
  rcases List.mem_append.mp hr' with hr' | hnew
  · exact ⟨r', hr', .refl r'⟩
  · rw [List.mem_singleton] at hnew
    subst hnew
    exact absurd rfl (hi (s.serial + 1) (Nat.lt_succ_self _))

theorem saveCharge {c v : Charge} {t : Instant} (h : s.saveCharge c t = .ok (v, s')) :
    Grows s s' := by
  obtain ⟨row, hrow, heq⟩ := (saveCharge_eq_ok s).mp h
  cases heq
  refine of_forall₂ (forall₂_modifyFirst _ _ _ ChargeRow.Same.refl fun y hy => ?_) (Nat.le_refl _)
  -- the row changed is the one the save found
  have hy' : y = row := Option.some.inj (hy.symm.trans hrow)
  subst hy'
  exact ⟨rfl, rfl, rfl⟩

end Grows

/-- The attempt `x` is superseded: its identifier was handed out, and a row of its parent has a
higher sequence number than every row of `x`. -/
def Superseded (s : Store) (x : Ident) : Prop :=
  s.Issued x ∧ ∃ y ∈ s.rows, ∀ r ∈ s.rows, r.charge.id = x →
    r.charge.parent = y.charge.parent ∧ r.seq < y.seq

theorem Superseded.grows {s s' : Store} {x : Ident} (h : s.Superseded x) (hg : s.Grows s') :
    s'.Superseded x := by
  obtain ⟨hx, y, hy, hlow⟩ := h
  obtain ⟨y', hy', hyy⟩ := hg.kept y hy
  refine ⟨hx.mono hg.serial, y', hy', fun r' hr' hid => ?_⟩
  -- a row of `x` now was a row of `x` before, as `x` was handed out
  obtain ⟨r, hr, hrr⟩ := hg.old r' hr' (hid ▸ hx)
  obtain ⟨hp, hlt⟩ := hlow r hr (hrr.2.1 ▸ hid)
  exact ⟨by rw [hrr.2.2, hp, hyy.2.2], by rw [hrr.1, hyy.1]; exact hlt⟩

theorem Superseded.latest_ne {s : Store} {x : Ident} (h : s.Superseded x) {c l : Charge}
    (hc : s.charge? x = some c) (hl : s.latestForParent c.parent = some l) : l.id ≠ x := by
  obtain ⟨-, y, hy, hlow⟩ := h
  obtain ⟨r, hr, rfl⟩ := (charge?_eq_some s).mp hc
  have hrx : r.charge.id = x := s.id_of_row? hr
  have hrmem : r ∈ s.rows := List.mem_of_find?_eq_some hr
  rw [latestForParent_eq, Option.map_eq_some_iff] at hl
  obtain ⟨m, hm, rfl⟩ := hl
  obtain ⟨hmmem, hmax⟩ := lastMaxBy_spec _ hm
  obtain ⟨hmrow, hmparent⟩ := (mem_rowsOf s).mp hmmem
  have hpy : r.charge.parent = y.charge.parent := (hlow r hrmem hrx).1
  -- the row of the parent with the highest number is at least as high as `y`
  have hym : (y.seq : Int) ≤ m.seq :=
    hmax y ((mem_rowsOf s).mpr ⟨hy, by rw [← hpy]; simp [withToken_eq]⟩)
  intro hmx
  have hlt := (hlow m hmrow (by simpa using hmx)).2
  omega

end Store

namespace Engine

/-- A step after which the rows of the store have grown. -/
def Grows (e e' : Engine) : Prop := e.store.Grows e'.store

namespace Grows

theorem refl (e : Engine) : Grows e e := Store.Grows.refl e.store

theorem trans {e₁ e₂ e₃ : Engine} (h₁ : Grows e₁ e₂) (h₂ : Grows e₂ e₃) : Grows e₁ e₃ :=
  Store.Grows.trans h₁ h₂

instance : Std.Refl Grows := ⟨refl⟩
instance : IsTrans Engine Grows := ⟨fun _ _ _ => trans⟩

theorem of_lineal {e e' : Engine} (h : Lineal e e') : Grows e e' := Store.Grows.of_keepsRows h

open Svc

theorem keepsAt_withLock {α : Type} {key : String} {body : Svc α} {e : Engine}
    (h : KeepsAt Grows body { e with held := key :: e.held }) : KeepsAt Grows (withLock key body) e :=
  keepsAt_withLock_of (fun _ h => h) h

theorem keepsAt_stored_createCharge {e : Engine} {d : ChargeDraft} {t : Instant} :
    KeepsAt Grows (stored (e.store.createCharge d t)) e :=
  keepsAt_stored_of e fun _ _ h => Store.Grows.createCharge h

theorem keepsAt_stored_saveCharge {e : Engine} {c : Charge} {t : Instant} :
    KeepsAt Grows (stored (e.store.saveCharge c t)) e :=
  keepsAt_stored_of e fun _ _ h => Store.Grows.saveCharge h

end Grows

end Engine

namespace Attempts

open Svc Engine

/-! ### The registry's steps that make attempts -/

theorem grows_createAttemptFrom (d : ChargeDraft) (e : Engine) :
    KeepsAt Grows (createAttemptFrom d) e := by
  refine Grows.keepsAt_withLock ?_
  unfold insertUnlessExists
  refine keepsAt_bind_read (exec_store _) ?_
  split
  · exact keepsAt_pure _
  · exact keepsAt_bind_read (exec_store _)
      (keepsAt_bind_read (exec_now _) Grows.keepsAt_stored_createCharge)

theorem grows_createAttempt (method parent : Ident) (chargeAt : Instant)
    (customAmount : Option Decimal) (retries : Option Int) (e : Engine) :
    KeepsAt Grows (createAttempt method parent chargeAt customAmount retries) e :=
  keepsAt_bind_read (exec_policy e) (grows_createAttemptFrom _ e)

theorem grows_scheduleNext (charged : Charge) (sub : Option Subscription) (terms : Terms)
    (e : Engine) : KeepsAt Grows (scheduleNext charged sub terms) e := by
  unfold scheduleNext
  simp only
  refine keepsAt_ite_throw ?_
  split
  · refine keepsAt_bind (reads_payment _).keepsAt fun p e₁ _ => ?_
    refine keepsAt_bind_read (exec_policy e₁) (keepsAt_bind_read (exec_now e₁) ?_)
    split
    · exact keepsAt_bind_read (exec_pure _ _) (grows_createAttemptFrom _ _)
    · exact keepsAt_throw_bind _
    · exact keepsAt_stop_bind _ _
  · exact keepsAt_throw _

theorem grows_reactivateLocked (id : Ident) (e : Engine) :
    KeepsAt Grows (reactivateLocked id) e := by
  unfold reactivateLocked
  refine keepsAt_bind_read (exec_now e) (keepsAt_bind_read (exec_policy e) ?_)
  refine keepsAt_bind (reads_get id).keepsAt fun stopped e₁ _ => ?_
  simp only
  refine keepsAt_ite_throw (keepsAt_ite_throw ?_)
  refine keepsAt_bind (reads_time _).keepsAt fun _ e₂ _ => ?_
  refine keepsAt_ite_throw ?_
  refine keepsAt_bind_read (exec_store _) ?_
  -- past the guard on the latest attempt of the parent both ways go on alike
  split
  on_goal 1 => refine keepsAt_ite_throw ?_
  all_goals
    refine keepsAt_bind (reads_time _).keepsAt fun _ e₃ _ => ?_
    refine keepsAt_bind_read (exec_store _) ?_
    refine keepsAt_bind Grows.keepsAt_stored_createCharge fun _ e₄ _ => ?_
    refine keepsAt_bind_read (exec_store _) ?_
    exact keepsAt_bind Grows.keepsAt_stored_saveCharge fun _ _ _ => keepsAt_pure _

theorem grows_reactivateAfterSystemStop (id : Ident) (e : Engine) :
    KeepsAt Grows (reactivateAfterSystemStop id) e := by
  unfold reactivateAfterSystemStop
  refine keepsAt_bind (reads_get id).keepsAt fun c e₁ _ => ?_
  refine keepsAt_bind (reads_canBeStopped c).keepsAt fun b e₂ _ => ?_
  simp only
  exact keepsAt_ite_throw (Grows.keepsAt_withLock (grows_reactivateLocked id _))

end Attempts

namespace RegistryOp

open Svc Engine Attempts

theorem grows_act (op : RegistryOp) (e : Engine) : KeepsAt Grows op.act e := by
  have lineal : ∀ {α : Type} {m : Svc α}, KeepsAt Lineal m e →
      KeepsAt Grows (do let _ ← m; pure () : Svc Unit) e :=
    fun h => keepsAt_drop (h.mono fun _ _ h => Grows.of_lineal h)
  cases op with
  | registerMethod user gateway token => exact lineal (lineal_registerMethod _ _ _ e)
  | updateMethodExpiry method d =>
    exact (lineal_updateMethodExpiry _ _ e).mono fun _ _ h => Grows.of_lineal h
  | createAttempt method parent chargeAt customAmount retries =>
    exact keepsAt_drop (grows_createAttempt _ _ _ _ _ e)
  | createAttemptFrom d => exact keepsAt_drop (grows_createAttemptFrom _ e)
  | scheduleNext id sub terms =>
    exact keepsAt_bind (reads_get id).keepsAt fun c e₁ _ =>
      keepsAt_drop (grows_scheduleNext c sub terms e₁)
  | transition id t actor u => exact lineal (lineal_transition _ _ _ _ e)
  | claim id => exact lineal (lineal_claim _ e)
  | linkPayment id payment => exact lineal (lineal_linkPayment _ _ e)
  | rearmFailed id => exact lineal (lineal_rearmFailed _ e)
  | stopByUser id => exact lineal (lineal_stopByUser _ e)
  | stopByAdmin id reason => exact lineal (lineal_stopByAdmin _ _ e)
  | reactivateAfterSystemStop id => exact keepsAt_drop (grows_reactivateAfterSystemStop id e)
  | reactivateByUser id => exact lineal (lineal_reactivateByUser _ e)

end RegistryOp

namespace Engine

theorem Grows.step {e e' : Engine} {op : Op} (hA : WritesNoAttempt e op) (h : op.Step e e') :
    Grows e e' := by
  by_cases hreg : ∃ op', op = .registry op'
  · obtain ⟨op', rfl⟩ := hreg
    obtain ⟨r, hx⟩ := h
    exact op'.grows_act e r e' hx
  · exact of_lineal (Lineal.step hA (fun op' h => hreg ⟨op', h⟩) h)

theorem Grows.reach {e e' : Engine} {ops : List Op} (h : Reach WritesNoAttempt e ops e') :
    Grows e e' :=
  h.keeps fun _ _ _ _ hA hs => step hA hs

end Engine

/-! ## What a reactivation writes -/

namespace Store

/-- The store after a reactivation of `id` made `fresh` at `t`: `fresh` last, under the next
identifier and sequence number, and the row of `id` with a note of `fresh` and the instant of the
write. Nothing else changes. -/
def reactivated (s : Store) (id : Ident) (fresh : Charge) (t : Instant) : Store :=
  { s with
    serial := s.serial + 1
    seq := s.seq + 1
    rows := modifyFirst (·.charge.id) id
      (fun r => { r with
        charge := { r.charge.pushNote ("Reactivated as " ++ fresh.id.text) with updated := t } })
      (s.rows ++ [⟨fresh, s.seq + 1⟩]) }

theorem savedOver_pushNote (s : Store) (r : Charge) (line : String) (t : Instant) :
    r.savedOver ((s.withToken r).pushNote line) t = { r.pushNote line with updated := t } := by
  simp [Charge.savedOver, Charge.pushNote, withToken_eq]

theorem saveCharge_reactivation {s : Store} {id : Ident} {c : Charge} (hc : s.charge? id = some c)
    (fresh : Charge) (t : Instant) :
    ∃ v, ({ s with serial := s.serial + 1, seq := s.seq + 1,
                   rows := s.rows ++ [⟨fresh, s.seq + 1⟩] } : Store).saveCharge
        (c.pushNote ("Reactivated as " ++ fresh.id.text)) t = .ok (v, s.reactivated id fresh t) := by
  obtain ⟨row, hrow, rfl⟩ := (charge?_eq_some s).mp hc
  have hid : row.charge.id = id := s.id_of_row? hrow
  have hrow₁ : ({ s with serial := s.serial + 1, seq := s.seq + 1,
                         rows := s.rows ++ [⟨fresh, s.seq + 1⟩] } : Store).row? id = some row := by
    rw [row?_append s rfl, hrow, Option.some_or]
  refine ⟨_, (saveCharge_eq_ok _).mpr ⟨row, by simpa [Charge.pushNote, hid] using hrow₁, Prod.ext rfl ?_⟩⟩
  -- the save changes the row it found, by the copy read from it
  have hid' : ((s.withToken row.charge).pushNote ("Reactivated as " ++ fresh.id.text)).id = id := by
    simp [Charge.pushNote, hid]
  simp only [reactivated, hid']
  congr 1
  exact modifyFirst_eq_of_find? _ hrow₁ (by rw [savedOver_pushNote])

theorem Superseded.of_lineage {s s' : Store} (hL : s.Lineage) {x : Ident} {c : Charge}
    (hc : s.charge? x = some c) (hg : s.Grows s') {y : ChargeRow} (hy : y ∈ s'.rows)
    (hp : y.charge.parent = c.parent) (hseq : s.seq < y.seq) : s'.Superseded x := by
  obtain ⟨row, hrow, rfl⟩ := (charge?_eq_some s).mp hc
  have hrx : row.charge.id = x := s.id_of_row? hrow
  have hmem : row ∈ s.rows := List.mem_of_find?_eq_some hrow
  have hx : s.Issued x := hrx ▸ hL.issued row hmem
  refine ⟨hx.mono hg.serial, y, hy, fun r' hr' hid => ?_⟩
  obtain ⟨r, hr, hseq', hid', hpar⟩ := hg.old r' hr' (hid ▸ hx)
  -- the store has one row of `x`, and every row is numbered at most the store's number
  have hsame : r = row := List.inj_on_of_nodup_map hL.ids_nodup hr hmem (hid'.symm.trans (hid.trans hrx.symm))
  subst hsame
  have hle := hL.seq_le r hr
  refine ⟨by rw [hpar, hp]; simp [withToken_eq], by omega⟩

theorem Grows.stored {s s' : Store} (hg : s.Grows s') {x : Ident} {c : Charge}
    (hc : s.charge? x = some c) : ∃ c', s'.charge? x = some c' := by
  obtain ⟨row, hrow, -⟩ := (charge?_eq_some s).mp hc
  obtain ⟨r', hr', -, hid, -⟩ := hg.kept row (List.mem_of_find?_eq_some hrow)
  have hsome : (s'.row? x).isSome :=
    List.find?_isSome.mpr ⟨r', hr', by simpa [s.id_of_row? hrow] using hid⟩
  obtain ⟨r'', hr''⟩ := Option.isSome_iff_exists.mp hsome
  exact ⟨_, (charge?_eq_some s').mpr ⟨r'', hr'', rfl⟩⟩

theorem Superseded.latest_other {s : Store} {x : Ident} {c : Charge} (h : s.Superseded x)
    (hc : s.charge? x = some c) : ∃ l, s.latestForParent c.parent = some l ∧ l.id ≠ x := by
  cases hl : s.latestForParent c.parent with
  | none =>
    -- the parent has a row, that of `x`
    obtain ⟨row, hrow, rfl⟩ := (charge?_eq_some s).mp hc
    have hmem : row ∈ s.rowsOf (s.withToken row.charge).parent :=
      (mem_rowsOf s).mpr ⟨List.mem_of_find?_eq_some hrow, by simp [withToken_eq]⟩
    rw [(latestForParent_eq_none s).mp hl] at hmem
    cases hmem
  | some l => exact ⟨l, rfl, h.latest_ne hc hl⟩

end Store

namespace Attempts

open Svc Engine

theorem canBeStopped_eq_true {c : Charge} {e e' : Engine}
    (h : (canBeStopped c).exec e = .ok (.ok true, e')) :
    ∃ p, e.store.payment? c.parent = some p ∧ p.status ≠ .prepaid ∧
      ∀ g, e.gateways.get? p.gateway = some g → g.unstoppable = false := by
  unfold canBeStopped at h
  rw [exec_bind, Attempts.exec_payment] at h
  cases hp : e.store.payment? c.parent with
  | none =>
    simp only [hp] at h
    cases h
  | some p =>
    simp only [hp] at h
    rw [exec_bind_ok (exec_gateways e)] at h
    cases hgw : e.gateways.get? p.gateway with
    | none =>
      simp [hgw] at h
      exact ⟨p, rfl, h.1, fun g hg => by rw [hgw] at hg; cases hg⟩
    | some g =>
      cases hu : g.unstoppable <;> simp [hgw, hu] at h
      exact ⟨p, rfl, h.1, fun g' hg' => by rw [hgw] at hg'; cases hg'; exact hu⟩

theorem reactivable_of_exec {id : Ident} {e e' : Engine} {fresh : Charge}
    (h : (reactivateAfterSystemStop id).exec e = .ok (.ok fresh, e')) : ∃ c, Reactivable e id c := by
  unfold reactivateAfterSystemStop at h
  rcases exec_bind_eq_ok h with ⟨err, -, hr⟩ | ⟨c, e₀, hg, h⟩
  · cases hr
  have hc : e.store.charge? id = some c := by
    rw [Attempts.exec_get] at hg
    split at hg <;> cases hg
    assumption
  rw [((reads_get id) e _ _ hg).1] at h
  rcases exec_bind_eq_ok h with ⟨err, -, hr⟩ | ⟨b, e₁, hs, h⟩
  · cases hr
  rw [((reads_canBeStopped c) e _ _ hs).1] at h
  rcases exec_guard_eq_ok h with ⟨-, hr⟩ | ⟨hb, h⟩
  · cases hr
  obtain rfl : b = true := by simpa using hb
  have hparent := canBeStopped_eq_true hs
  rcases withLock_cases h with ⟨-, -, hr⟩ | ⟨hfree, e₂, hbody, -⟩
  · cases hr
  rw [reactivateLocked_eq] at hbody
  rcases reactivateThen_inv hbody with ⟨-, err, hr⟩ |
    ⟨stopped, due, f, s₁, hc', hstate, hretries, hwin, hlatest, hdue, hs₁, -⟩
  · cases hr
  obtain ⟨m, hm, -, -⟩ := (Store.createCharge_eq_ok _).mp hs₁
  -- the attempt read under the lock is the one read before it
  obtain rfl : stopped = c := Option.some.inj (hc'.symm.trans hc)
  exact ⟨stopped,
    { stored := hc, state := hstate, retries := hretries, parent := hparent, free := hfree
      window := hwin, latest := hlatest, due := ⟨due, hdue⟩, method := ⟨m, hm⟩ }⟩

/-- The attempt a reactivation of `c` under `id` makes: from `reactivationDraft` with the default
retries, due at `due`, with the token of `c`'s method `m`, under the store's next identifier. -/
def reactivationOf (e : Engine) (c : Charge) (id : Ident) (due : Instant) (m : Method) : Charge :=
  Charge.ofDraft (Ident.ofSerial (e.store.serial + 1))
    (reactivationDraft c id due e.policy.defaultRetries) m.token e.now

theorem Reactivable.createCharge {id : Ident} {e : Engine} {c : Charge} (hr : Reactivable e id c)
    {due : Instant} {m : Method} (hm : e.store.method? c.method = some m) :
    e.store.createCharge (reactivationDraft c id due e.policy.defaultRetries) e.now =
      .ok (reactivationOf e c id due m,
        { e.store with serial := e.store.serial + 1, seq := e.store.seq + 1,
                       rows := e.store.rows ++ [⟨reactivationOf e c id due m, e.store.seq + 1⟩] }) := by
  obtain ⟨p, hp, -, -⟩ := hr.parent
  exact (Store.createCharge_eq_ok e.store).mpr ⟨m, hm, by simp [reactivationDraft, hp], rfl⟩

theorem exec_reactivateAfterSystemStop {id : Ident} {e : Engine} {c : Charge} {due : Instant}
    {m : Method} (hr : Reactivable e id c)
    (hdue : shiftBy e.now e.policy.reactivationDelay = .ok due)
    (hm : e.store.method? c.method = some m) :
    (reactivateAfterSystemStop id).exec e =
      .ok (.ok (reactivationOf e c id due m),
        { e with store := e.store.reactivated id (reactivationOf e c id due m) e.now }) := by
  obtain ⟨p, hp, hpre, hg⟩ := hr.parent
  obtain ⟨ws, hws, hwin⟩ := hr.window
  obtain ⟨v, hsave⟩ := Store.saveCharge_reactivation hr.stored (reactivationOf e c id due m) e.now
  have hget : (get id).exec e = .ok (.ok c, e) := by rw [Attempts.exec_get, hr.stored]
  have hstop : ¬((!(p.status != PaymentStatus.prepaid)) = true) := by simp [hpre]
  unfold reactivateAfterSystemStop
  rw [exec_bind_ok hget, exec_bind_ok (exec_canBeStopped hp hg)]
  dsimp only
  rw [if_neg hstop, exec_withLock, if_neg hr.free, reactivateLocked_eq,
    exec_reactivateThen (e := { e with held := parentKey c.parent :: e.held }) hr.stored hr.state
      hr.retries hws hwin hr.latest hdue (hr.createCharge hm)]
  unfold writeBack
  rw [exec_bind_ok (exec_store _), exec_bind, exec_stored, hsave]
  simp

/-! ## Once reactivated, superseded -/

theorem superseded_of_exec {id : Ident} {e e' : Engine} {fresh : Charge} (hL : e.store.Lineage)
    (h : (reactivateAfterSystemStop id).exec e = .ok (.ok fresh, e')) : e'.store.Superseded id := by
  obtain ⟨c, hr⟩ := reactivable_of_exec h
  obtain ⟨due, hdue⟩ := hr.due
  obtain ⟨m, hm⟩ := hr.method
  rw [exec_reactivateAfterSystemStop hr hdue hm] at h
  cases h
  obtain ⟨v, hsave⟩ := Store.saveCharge_reactivation hr.stored (reactivationOf e c id due m) e.now
  have hsaved := Store.Grows.saveCharge hsave
  -- the row of the fresh attempt, numbered past every row before, is kept by the write-back
  obtain ⟨y, hy, hseq, -, hpar⟩ :=
    hsaved.kept _ (List.mem_append_right _ (List.mem_singleton_self _))
  exact Store.Superseded.of_lineage hL hr.stored
    ((Store.Grows.createCharge (hr.createCharge hm)).trans hsaved) hy (by rw [hpar]; rfl)
    (by rw [hseq]; exact Nat.lt_succ_self _)

theorem not_reactivable_of_superseded {id : Ident} {e : Engine} {c : Charge}
    (hs : e.store.Superseded id) : ¬Reactivable e id c := fun hr => by
  obtain ⟨l, hl, hne⟩ := hs.latest_other hr.stored
  exact hne (hr.latest l hl)

theorem stays_superseded {id : Ident} {e e' e'' : Engine} {fresh : Charge} {ops : List Op}
    (hL : e.store.Lineage) (h : (reactivateAfterSystemStop id).exec e = .ok (.ok fresh, e'))
    (hreach : Reach WritesNoAttempt e' ops e'') :
    (∃ c l, e''.store.charge? id = some c ∧ e''.store.latestForParent c.parent = some l ∧
      l.id ≠ id) ∧
    ¬∃ fresh' e₃, (reactivateAfterSystemStop id).exec e'' = .ok (.ok fresh', e₃) := by
  have hs : e''.store.Superseded id := (superseded_of_exec hL h).grows (Grows.reach hreach)
  obtain ⟨c₀, hr₀⟩ := reactivable_of_exec h
  have hgrow : Grows e e'' := (grows_reactivateAfterSystemStop id e _ _ h).trans (Grows.reach hreach)
  obtain ⟨c, hc⟩ := Store.Grows.stored hgrow hr₀.stored
  obtain ⟨l, hl, hne⟩ := hs.latest_other hc
  refine ⟨⟨c, l, hc, hl, hne⟩, fun ⟨_, _, h'⟩ => ?_⟩
  obtain ⟨c', hr'⟩ := reactivable_of_exec h'
  exact not_reactivable_of_superseded hs hr'

/-- A reactivation goes through exactly when the attempt is reactivable (`Reactivable`: the
attempt is an exhausted system stop, due no earlier than the start of the window, the latest
attempt of its parent; the parent may be stopped; the parent's lock is free, the method stored and
both instants on the time line). It then returns the attempt made from the one it replaces, due the
reactivation delay after now, and writes exactly `Store.reactivated`: the fresh attempt, and the
replaced attempt's note and instant of update. In a store with its lineage, after any operations but
the direct write of an attempt, the replaced attempt is no longer the latest of its parent and is
never reactivated again. -/
theorem reactivation_goes_through_exactly_when_reactivable (id : Ident) (e : Engine) :
    ((∃ fresh e', (reactivateAfterSystemStop id).exec e = .ok (.ok fresh, e')) ↔
      ∃ c, Reactivable e id c) ∧
    (∀ c, Reactivable e id c → ∀ due m, shiftBy e.now e.policy.reactivationDelay = .ok due →
      e.store.method? c.method = some m →
      (reactivateAfterSystemStop id).exec e =
        .ok (.ok (reactivationOf e c id due m),
          { e with store := e.store.reactivated id (reactivationOf e c id due m) e.now })) ∧
    (e.store.Lineage → ∀ fresh e', (reactivateAfterSystemStop id).exec e = .ok (.ok fresh, e') →
      ∀ ops e'', Reach WritesNoAttempt e' ops e'' →
        (∃ c l, e''.store.charge? id = some c ∧ e''.store.latestForParent c.parent = some l ∧
          l.id ≠ id) ∧
        ¬∃ fresh' e₃, (reactivateAfterSystemStop id).exec e'' = .ok (.ok fresh', e₃)) := by
  refine ⟨⟨fun ⟨_, _, h⟩ => reactivable_of_exec h, fun ⟨c, hr⟩ => ?_⟩,
    fun _ hr _ _ hdue hm => exec_reactivateAfterSystemStop hr hdue hm,
    fun hL _ _ h _ _ hreach => stays_superseded hL h hreach⟩
  obtain ⟨due, hdue⟩ := hr.due
  obtain ⟨m, hm⟩ := hr.method
  exact ⟨_, _, exec_reactivateAfterSystemStop hr hdue hm⟩

/-- An exhausted system stop due exactly at the start of the reactivation window, the only attempt
of a paid parent: it is reactivated into the attempt due a day later, and never again. -/
theorem reactivates_a_stop_due_at_the_window_start :
    let t₀ : Instant := ⟨1709251200, 0⟩
    let p₁ : Payment :=
      { id := Ident.ofSerial 1, user := ⟨0⟩, gateway := "test", status := .paid,
        amount := ⟨1999, 2, false⟩, paidAt := none, subscription := none, catalogItem := none,
        address := none, isRecurrent := false, parent := none, note := none,
        errorMessage := none, created := t₀, updated := t₀ }
    let m₀ : Method :=
      { id := Ident.ofSerial 2, user := ⟨0⟩, gateway := "test", token := "tok", expiresOn := none,
        created := t₀ }
    let a₀ : Charge :=
      { Charge.ofDraft (Ident.ofSerial 3)
          { method := m₀.id, parent := p₁.id, chargeAt := ⟨1708041600, 0⟩, retries := 0,
            customAmount := none, renewalItem := none, note := none } "tok" t₀ with
        state := .systemStop }
    let e₀ : Engine :=
      { now := t₀, store := { payments := [p₁], methods := [m₀], rows := [⟨a₀, 1⟩], seq := 1,
                              serial := 3 } }
    e₀.store.Lineage ∧ Reactivable e₀ a₀.id a₀ ∧
      ∃ e₁, (reactivateAfterSystemStop a₀.id).exec e₀ =
          .ok (.ok (reactivationOf e₀ a₀ a₀.id ⟨1709337600, 0⟩ m₀), e₁) ∧
        ¬∃ fresh e₂, (reactivateAfterSystemStop a₀.id).exec e₁ = .ok (.ok fresh, e₂) := by
  intro t₀ p₁ m₀ a₀ e₀
  -- one row, under the last identifier handed out
  have hL : e₀.store.Lineage :=
    { ids_nodup := List.nodup_singleton _
      issued := fun r hr k hk heq => by
        obtain rfl : r = ⟨a₀, 1⟩ := List.mem_singleton.mp hr
        have := Ident.ofSerial_injective heq
        simp only [e₀] at hk
        omega
      seq_le := fun r hr => by
        obtain rfl : r = ⟨a₀, 1⟩ := List.mem_singleton.mp hr
        exact Nat.le_refl _
      seq_nodup := List.nodup_singleton _
      superseded := fun r hr r' hr' _ hlt => by
        obtain rfl : r = ⟨a₀, 1⟩ := List.mem_singleton.mp hr
        obtain rfl : r' = ⟨a₀, 1⟩ := List.mem_singleton.mp hr'
        exact absurd hlt (Nat.lt_irrefl _) }
  have hr : Reactivable e₀ a₀.id a₀ :=
    { stored := rfl
      state := rfl
      retries := rfl
      parent := ⟨p₁, rfl, by decide, fun g hg => by cases hg⟩
      free := by simp [e₀]
      window := ⟨⟨1708041600, 0⟩, by decide +kernel, by decide⟩
      latest := fun c hc => by cases hc; rfl
      due := ⟨⟨1709337600, 0⟩, by decide +kernel⟩
      method := ⟨m₀, rfl⟩ }
  have hdue : shiftBy e₀.now e₀.policy.reactivationDelay = .ok ⟨1709337600, 0⟩ := by decide +kernel
  obtain ⟨-, hexact, hlater⟩ := reactivation_goes_through_exactly_when_reactivable a₀.id e₀
  have hrun := hexact a₀ hr _ m₀ hdue rfl
  exact ⟨hL, hr, _, hrun, (hlater hL _ _ hrun [] _ (.nil _)).2⟩

/-- An exhausted system stop due at the start of the reactivation window, written then, the latest
attempt of a paid parent that may be stopped. While the parent's lock is held elsewhere the
reactivation times out on it and changes nothing; with the lock free it goes through and writes
the instant of the write-back over the attempt's instant of update. -/
theorem reactivation_times_out_on_a_held_parent_lock :
    let t₀ : Instant := ⟨1709251200, 0⟩
    let p₁ : Payment :=
      { id := Ident.ofSerial 1, user := ⟨0⟩, gateway := "test", status := .paid,
        amount := ⟨1999, 2, false⟩, paidAt := none, subscription := none, catalogItem := none,
        address := none, isRecurrent := false, parent := none, note := none,
        errorMessage := none, created := t₀, updated := t₀ }
    let m₀ : Method :=
      { id := Ident.ofSerial 2, user := ⟨0⟩, gateway := "test", token := "tok", expiresOn := none,
        created := t₀ }
    let a₀ : Charge :=
      { Charge.ofDraft (Ident.ofSerial 3)
          { method := m₀.id, parent := p₁.id, chargeAt := ⟨1708041600, 0⟩, retries := 0,
            customAmount := none, renewalItem := none, note := none } "tok" ⟨1708041600, 0⟩ with
        state := .systemStop }
    let e₀ : Engine :=
      { now := t₀, store := { payments := [p₁], methods := [m₀], rows := [⟨a₀, 1⟩], seq := 1,
                              serial := 3 } }
    let e₁ : Engine := { e₀ with held := [parentKey p₁.id] }
    (canBeStopped a₀).exec e₁ = .ok (.ok true, e₁) ∧ a₀.state = .systemStop ∧ a₀.retries = 0 ∧
      shiftBack e₁.now e₁.policy.reactivationWindow = .ok a₀.chargeAt ∧
      e₁.store.latestForParent a₀.parent = some a₀ ∧
      (reactivateAfterSystemStop a₀.id).exec e₁ =
        .ok (.error (.lockTimeout (parentKey p₁.id) e₁.policy.lockTimeoutMs), e₁) ∧
      ∃ fresh e₂, (reactivateAfterSystemStop a₀.id).exec e₀ = .ok (.ok fresh, e₂) ∧
        (e₂.store.charge? a₀.id).map (·.updated) = some t₀ ∧ a₀.updated ≠ t₀ := by
  intro t₀ p₁ m₀ a₀ e₀ e₁
  have hp : e₁.store.payment? a₀.parent = some p₁ := rfl
  have hg : ∀ g, e₁.gateways.get? p₁.gateway = some g → g.unstoppable = false :=
    fun g hg => by cases hg
  have hws : shiftBack e₁.now e₁.policy.reactivationWindow = .ok a₀.chargeAt := by decide +kernel
  have hr : Reactivable e₀ a₀.id a₀ :=
    { stored := rfl
      state := rfl
      retries := rfl
      parent := ⟨p₁, rfl, by decide, hg⟩
      free := by simp [e₀]
      window := ⟨a₀.chargeAt, hws, by decide⟩
      latest := fun c hc => by cases hc; rfl
      due := ⟨⟨1709337600, 0⟩, by decide +kernel⟩
      method := ⟨m₀, rfl⟩ }
  have hdue : shiftBy e₀.now e₀.policy.reactivationDelay = .ok ⟨1709337600, 0⟩ := by decide +kernel
  have hstop : ¬((!(p₁.status != PaymentStatus.prepaid)) = true) := by decide
  have htimeout : (reactivateAfterSystemStop a₀.id).exec e₁ =
      .ok (.error (.lockTimeout (parentKey p₁.id) e₁.policy.lockTimeoutMs), e₁) := by
    have hget : (get a₀.id).exec e₁ = .ok (.ok a₀, e₁) := by rw [Attempts.exec_get]; rfl
    unfold reactivateAfterSystemStop
    rw [exec_bind_ok hget, exec_bind_ok (exec_canBeStopped hp hg)]
    dsimp only
    rw [if_neg hstop, exec_withLock,
      if_pos (show parentKey a₀.parent ∈ e₁.held from List.mem_singleton_self _)]
    rfl
  refine ⟨exec_canBeStopped hp hg, rfl, rfl, hws, rfl, htimeout, _, _,
    exec_reactivateAfterSystemStop hr hdue rfl, rfl, by decide⟩

end Attempts

end Rebill
