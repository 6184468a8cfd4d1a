import Rebill.Proofs.Ledger

/-!
# The fast-charge guard

Before a run charges an attempt, the guard `Run.fastChargeConflict` looks for a charge on the same
stored method that is too close to it. It reads one attempt only: the charged attempt on the
method, other than this one, that is due last (`Store.lastChargedForMethod`), and compares the two
due instants with `Instant.since`, which treats a leap second as chrono does.

Outside leap seconds the time line is linear: `Instant.toNanos` counts nanoseconds from the epoch,
`since` is the difference of two counts, and `Instant.key` orders instants as their counts. There
the guard trips exactly when some other charged attempt on the method is due less than the
threshold before the attempt, or at any time after it (`fastChargeConflict_isSome_iff`): the
latest charge stands for all the others.
-/

namespace Rebill

namespace Instant

/-- Nanoseconds since 1970-01-01T00:00:00Z, leap seconds not counted. -/
def toNanos (t : Instant) : Int := t.second * (nanosPerSecond : Int) + t.nano

theorem since_of_not_leap {a b : Instant} (ha : a.isLeap = false) (hb : b.isLeap = false) :
    (a.since b).nanos = a.toNanos - b.toNanos := by
  have ha' : a.nano < 1000000000 := by simpa [isLeap, nanosPerSecond] using ha
  have hb' : b.nano < 1000000000 := by simpa [isLeap, nanosPerSecond] using hb
  simp only [since, toNanos, ha, hb, Bool.false_eq_true, and_false, if_false, dayNumber,
    secondOfDay, secondsPerDay, nanosPerSecond]
  omega

theorem key_le_key_iff {a b : Instant} (ha : a.isLeap = false) (hb : b.isLeap = false) :
    a.key ≤ b.key ↔ a.toNanos ≤ b.toNanos := by
  have ha' : a.nano < 1000000000 := by simpa [isLeap, nanosPerSecond] using ha
  have hb' : b.nano < 1000000000 := by simpa [isLeap, nanosPerSecond] using hb
  simp only [key, toNanos, nanosPerSecond]
  omega

end Instant

section LastMax

variable {α : Type} (f : α → Int)

/-- One step of `lastMaxBy`: keep the accumulator only when it is strictly greater. -/
def lastMaxStep (best : Option α) (x : α) : Option α :=
  match best with
  | none => some x
  | some b => if f x ≥ f b then some x else some b

theorem lastMaxBy_eq_foldl (l : List α) : lastMaxBy f l = l.foldl (lastMaxStep f) none := rfl

theorem foldl_lastMaxStep_spec (l : List α) (acc : Option α) {m : α}
    (h : l.foldl (lastMaxStep f) acc = some m) :
    (m ∈ l ∨ acc = some m) ∧ (∀ x ∈ l, f x ≤ f m) ∧ ∀ b, acc = some b → f b ≤ f m := by
  induction l generalizing acc with
  | nil =>
    simp only [List.foldl_nil] at h
    subst h
    refine ⟨.inr rfl, fun _ hx => (by cases hx), fun b hb => ?_⟩
    cases hb
    exact le_refl _
  | cons y ys ih =>
    rw [List.foldl_cons] at h
    obtain ⟨hmem, hle, hacc⟩ := ih _ h
    -- the new accumulator is `y`, or the old one when it is strictly greater
    have hstep : ∃ b, lastMaxStep f acc y = some b ∧ f y ≤ f b ∧
        ∀ a, acc = some a → f a ≤ f b ∧ (b = y ∨ b = a) := by
      cases acc with
      | none => exact ⟨y, rfl, le_refl _, fun a ha => by cases ha⟩
      | some a =>
        by_cases hya : f y ≥ f a
        · refine ⟨y, by simp [lastMaxStep, hya], le_refl _, fun a' ha' => ?_⟩
          cases ha'
          exact ⟨hya, .inl rfl⟩
        · refine ⟨a, by simp [lastMaxStep, hya], by omega, fun a' ha' => ?_⟩
          cases ha'
          exact ⟨le_refl _, .inr rfl⟩
    obtain ⟨b, hb, hyb, hab⟩ := hstep
    have hbm := hacc b hb
    refine ⟨?_, ?_, fun a ha => le_trans (hab a ha).1 hbm⟩
    · rcases hmem with hm | hm
      · exact .inl (List.mem_cons_of_mem y hm)
      · rw [hb] at hm
        cases hm
        cases acc with
        | none =>
          cases hb
          exact .inl List.mem_cons_self
        | some a =>
          rcases (hab a rfl).2 with rfl | rfl
          · exact .inl List.mem_cons_self
          · exact .inr rfl
    · intro x hx
      rcases List.mem_cons.mp hx with rfl | hx
      · exact le_trans hyb hbm
      · exact hle x hx

theorem lastMaxBy_spec {l : List α} {m : α} (h : lastMaxBy f l = some m) :
    m ∈ l ∧ ∀ x ∈ l, f x ≤ f m := by
  rw [lastMaxBy_eq_foldl] at h
  obtain ⟨hmem, hle, -⟩ := foldl_lastMaxStep_spec f l none h
  exact ⟨hmem.resolve_right (by simp), hle⟩

theorem foldl_lastMaxStep_some (l : List α) (b : α) :
    ∃ m, l.foldl (lastMaxStep f) (some b) = some m := by
  induction l generalizing b with
  | nil => exact ⟨b, rfl⟩
  | cons z zs ih =>
    rw [List.foldl_cons]
    by_cases hz : f z ≥ f b
    · simpa [lastMaxStep, hz] using ih z
    · simpa [lastMaxStep, hz] using ih b

theorem lastMaxBy_eq_none {l : List α} : lastMaxBy f l = none ↔ l = [] := by
  cases l with
  | nil => exact ⟨fun _ => rfl, fun _ => rfl⟩
  | cons y ys =>
    refine ⟨fun h => ?_, fun h => by cases h⟩
    rw [lastMaxBy_eq_foldl, List.foldl_cons] at h
    obtain ⟨m, hm⟩ := foldl_lastMaxStep_some f ys y
    rw [show lastMaxStep f none y = some y from rfl, hm] at h
    cases h

end LastMax

/-- No attempt of the store is due inside a leap second. -/
def Engine.LeapFree (e : Engine) : Prop := ∀ d ∈ e.store.charges, d.chargeAt.isLeap = false

/-- The condition under which an attempt must not be charged: a positive threshold, and another
charged attempt on the same stored method due less than the threshold before it, or later. -/
def Engine.FastConflict (e : Engine) (c : Charge) : Prop :=
  0 < e.policy.fastChargeThreshold.nanos ∧
    ∃ d ∈ e.store.charges, d.id ≠ c.id ∧ d.method = c.method ∧ d.state = .charged ∧
      c.chargeAt.toNanos - e.policy.fastChargeThreshold.nanos < d.chargeAt.toNanos

namespace Store

variable (s : Store)

theorem mem_of_lastChargedForMethod {method exclude : Ident} {d : Charge}
    (h : s.lastChargedForMethod method exclude = some d) :
    d ∈ s.charges ∧ d.method = method ∧ d.state = .charged ∧ d.id ≠ exclude := by
  obtain ⟨hmem, -⟩ := lastMaxBy_spec _ h
  simp only [List.mem_filter, Bool.and_eq_true, beq_iff_eq, bne_iff_ne, ne_eq] at hmem
  exact ⟨hmem.1, hmem.2.1.1, hmem.2.1.2, hmem.2.2⟩

theorem key_le_of_lastChargedForMethod {method exclude : Ident} {d x : Charge}
    (h : s.lastChargedForMethod method exclude = some d) (hx : x ∈ s.charges)
    (hm : x.method = method) (hs : x.state = .charged) (hid : x.id ≠ exclude) :
    x.chargeAt.key ≤ d.chargeAt.key :=
  (lastMaxBy_spec _ h).2 x (by simp [hx, hm, hs, hid])

theorem lastChargedForMethod_eq_none {method exclude : Ident}
    (h : s.lastChargedForMethod method exclude = none) {x : Charge} (hx : x ∈ s.charges)
    (hm : x.method = method) (hs : x.state = .charged) : x.id = exclude := by
  have := (lastMaxBy_eq_none _).mp h
  by_contra hid
  have hmem : x ∈ s.charges.filter
      (fun c => c.method == method && c.state == .charged && c.id != exclude) := by
    simp [hx, hm, hs, hid]
  rw [this] at hmem
  cases hmem

/-- The rule of the guard on the attempts of a store, with the threshold `θ`: `θ` is positive, and
another charged attempt on the same stored method is due less than `θ` before `c`, or later. -/
def FastConflict (θ : Span) (c : Charge) : Prop :=
  0 < θ.nanos ∧ ∃ d ∈ s.charges, d.id ≠ c.id ∧ d.method = c.method ∧ d.state = .charged ∧
    c.chargeAt.toNanos - θ.nanos < d.chargeAt.toNanos

theorem latest_close_iff {c : Charge} {θ : Span} (hθ : 0 < θ.nanos)
    (hleap : ∀ d ∈ s.charges, d.chargeAt.isLeap = false) (hc : c.chargeAt.isLeap = false) :
    (∃ prev, s.lastChargedForMethod c.method c.id = some prev ∧
        (prev.chargeAt = c.chargeAt ∨ (c.chargeAt.since prev.chargeAt).nanos < θ.nanos)) ↔
      s.FastConflict θ c := by
  constructor
  · rintro ⟨prev, hprev, hclose⟩
    obtain ⟨hmem, hm, hs, hid⟩ := s.mem_of_lastChargedForMethod hprev
    refine ⟨hθ, prev, hmem, hid, hm, hs, ?_⟩
    have hsince := Instant.since_of_not_leap hc (hleap prev hmem)
    rcases hclose with heq | hlt
    · rw [heq]
      omega
    · omega
  · rintro ⟨-, d, hd, hid, hm, hs, hlt⟩
    cases hprev : s.lastChargedForMethod c.method c.id with
    | none => exact absurd (s.lastChargedForMethod_eq_none hprev hd hm hs) hid
    | some prev =>
      -- the latest charge is due no earlier than `d`, and the order of keys is that of counts
      refine ⟨prev, rfl, .inr ?_⟩
      obtain ⟨hmem, -, -, -⟩ := s.mem_of_lastChargedForMethod hprev
      have hkey := s.key_le_of_lastChargedForMethod hprev hd hm hs hid
      rw [Instant.key_le_key_iff (hleap d hd) (hleap prev hmem)] at hkey
      have hsince := Instant.since_of_not_leap hc (hleap prev hmem)
      omega

end Store

namespace Run

open Svc

theorem fastChargeConflict_exec (c : Charge) (e : Engine) :
    ∃ r, (fastChargeConflict c).exec e = .ok (.ok r, e) ∧
      (r.isSome ↔ 0 < e.policy.fastChargeThreshold.nanos ∧
        ∃ prev, e.store.lastChargedForMethod c.method c.id = some prev ∧
          (prev.chargeAt = c.chargeAt ∨
            (c.chargeAt.since prev.chargeAt).nanos < e.policy.fastChargeThreshold.nanos)) := by
  unfold fastChargeConflict
  rw [exec_bind_ok (exec_policy e)]
  simp only
  split
  · rename_i hθ
    exact ⟨none, rfl, by simp only [Option.isSome_none, Bool.false_eq_true, false_iff, not_and]; omega⟩
  rename_i hθ
  have hprev : (Attempts.previousCharged c).exec e =
      .ok (.ok (e.store.lastChargedForMethod c.method c.id), e) := rfl
  rw [exec_bind_ok hprev]
  cases hl : e.store.lastChargedForMethod c.method c.id with
  | none => exact ⟨none, rfl, by simp⟩
  | some prev =>
    refine ⟨_, rfl, ?_⟩
    by_cases hclose : (prev.chargeAt == c.chargeAt || decide (c.chargeAt.since prev.chargeAt <
        e.policy.fastChargeThreshold)) = true
    · simp only [hclose, if_true, Option.isSome_some, true_iff]
      simp only [Bool.or_eq_true, beq_iff_eq, decide_eq_true_eq] at hclose
      exact ⟨by omega, prev, rfl, hclose⟩
    · simp only [Bool.not_eq_true] at hclose
      simp only [hclose, Bool.false_eq_true, if_false, Option.isSome_none, false_iff, not_and,
        not_exists]
      simp only [Bool.or_eq_false_iff, beq_eq_false_iff_ne, ne_eq, decide_eq_false_iff_not] at hclose
      rintro - prev' hprev' (heq | hlt)
      · cases hprev'
        exact hclose.1 heq
      · cases hprev'
        exact hclose.2 hlt

/-- Outside leap seconds the guard trips exactly on a fast conflict. -/
theorem fastChargeConflict_isSome_iff {c : Charge} {e : Engine} {r : Option Charge}
    (hleap : e.LeapFree) (hc : c.chargeAt.isLeap = false)
    (hr : (fastChargeConflict c).exec e = .ok (.ok r, e)) :
    r.isSome ↔ e.FastConflict c := by
  obtain ⟨r', hr', hiff⟩ := fastChargeConflict_exec c e
  rw [hr'] at hr
  cases hr
  rw [hiff]
  -- the engine's rule is the store's, at the engine's threshold
  constructor
  · rintro ⟨hθ, hprev⟩
    exact (e.store.latest_close_iff hθ hleap hc).mp hprev
  · intro hconf
    exact ⟨hconf.1, (e.store.latest_close_iff hconf.1 hleap hc).mpr hconf⟩

end Run

end Rebill
