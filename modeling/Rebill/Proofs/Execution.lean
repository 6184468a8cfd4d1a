import Mathlib.Order.Defs.Unbundled
import Rebill.Service.Run

/-!
# Running an operation, and what a run keeps

An operation of the billing core is a `Svc` computation: it acts on an `Engine`, and ends with a
result, with a `BillingError` that keeps every change made before it, or with an `Overflow` that
ends everything. `Svc.exec` runs it from an engine; the equations below take a run apart at each
`bind`, `throw` and `tryCatch` of the definitions, so that a proof walks an operation the way the
operation walks the engine.

Most properties of the core compare the engine before an operation with the engine after it: a
payment's history only grows by lawful changes, an attempt's retry budget only shrinks. Such a
property is a preorder `R` on engines, and `Keeps R m` says that every run of `m` that ends (well
or with a billing error) ends in an engine `R`-related to its start. Because `R` is transitive, a
sequence keeps `R` when each of its steps does from the engine it actually starts in: that is
`KeepsAt`, which knows the engine and so the values read from it.
-/

namespace Rebill

/-- Runs an operation from an engine: its result or billing error, and the engine after it, or
the overflow that stopped it. -/
def Svc.exec {α : Type} (m : Svc α) (e : Engine) :
    Except Overflow (Except BillingError α × Engine) :=
  m.run.run e

namespace Svc

variable {α β : Type}

@[simp] theorem exec_pure (a : α) (e : Engine) : (pure a : Svc α).exec e = .ok (.ok a, e) := rfl

theorem exec_bind (m : Svc α) (f : α → Svc β) (e : Engine) :
    (m >>= f).exec e = match m.exec e with
      | .ok (.ok a, e₁) => (f a).exec e₁
      | .ok (.error err, e₁) => .ok (.error err, e₁)
      | .error o => .error o := by
  conv => lhs; simp only [exec, ExceptT.run_bind, StateT.run_bind]
  rw [show (ExceptT.run m).run e = m.exec e from rfl]
  cases m.exec e with
  | error o => rfl
  | ok p =>
    obtain ⟨r, e₁⟩ := p
    cases r <;> rfl

@[simp] theorem exec_throw (err : BillingError) (e : Engine) :
    (throw err : Svc α).exec e = .ok (.error err, e) := rfl

theorem exec_tryCatch (m : Svc α) (h : BillingError → Svc α) (e : Engine) :
    (tryCatch m h).exec e = match m.exec e with
      | .ok (.error err, e₁) => (h err).exec e₁
      | r => r := by
  conv => lhs; simp only [exec, tryCatch, tryCatchThe, MonadExceptOf.tryCatch, ExceptT.tryCatch,
      ExceptT.run_mk, StateT.run_bind]
  rw [show StateT.run m e = m.exec e from rfl]
  cases m.exec e with
  | error o => rfl
  | ok p =>
    obtain ⟨r, e₁⟩ := p
    cases r <;> rfl

@[simp] theorem exec_get (e : Engine) : (get : Svc Engine).exec e = .ok (.ok e, e) := rfl

@[simp] theorem exec_set (e e' : Engine) : (set e' : Svc PUnit).exec e = .ok (.ok ⟨⟩, e') := rfl

@[simp] theorem exec_modify (f : Engine → Engine) (e : Engine) :
    (modify f : Svc PUnit).exec e = .ok (.ok ⟨⟩, f e) := rfl

theorem exec_bind_ok {m : Svc α} {f : α → Svc β} {e e₁ : Engine} {a : α}
    (h : m.exec e = .ok (.ok a, e₁)) : (m >>= f).exec e = (f a).exec e₁ := by
  rw [exec_bind, h]

theorem exec_bind_error {m : Svc α} {f : α → Svc β} {e e₁ : Engine} {err : BillingError}
    (h : m.exec e = .ok (.error err, e₁)) : (m >>= f).exec e = .ok (.error err, e₁) := by
  rw [exec_bind, h]

theorem exec_bind_eq_ok {m : Svc α} {f : α → Svc β} {e e' : Engine} {r : Except BillingError β}
    (h : (m >>= f).exec e = .ok (r, e')) :
    (∃ err, m.exec e = .ok (.error err, e') ∧ r = .error err) ∨
      ∃ a e₁, m.exec e = .ok (.ok a, e₁) ∧ (f a).exec e₁ = .ok (r, e') := by
  rw [exec_bind] at h
  split at h
  · next a e₁ hm => exact .inr ⟨a, e₁, hm, h⟩
  · next err e₁ hm =>
    cases h
    exact .inl ⟨err, hm, rfl⟩
  · cases h

theorem exec_bind_read {m : Svc α} {f : α → Svc β} {e e' : Engine} {a : α}
    {r : Except BillingError β} (hm : m.exec e = .ok (.ok a, e))
    (h : (m >>= f).exec e = .ok (r, e')) : (f a).exec e = .ok (r, e') :=
  (exec_bind_ok hm).symm.trans h

theorem exec_tryCatch_eq_ok {m : Svc α} {h : BillingError → Svc α} {e e' : Engine}
    {r : Except BillingError α} (hx : (tryCatch m h).exec e = .ok (r, e')) :
    (∃ a, m.exec e = .ok (.ok a, e') ∧ r = .ok a) ∨
      ∃ err e₁, m.exec e = .ok (.error err, e₁) ∧ (h err).exec e₁ = .ok (r, e') := by
  rw [exec_tryCatch] at hx
  split at hx
  · next err e₁ hm => exact .inr ⟨err, e₁, hm, hx⟩
  · next hnot =>
    rcases hm : m.exec e with o | ⟨r₁, e₁⟩
    · rw [hm] at hx
      cases hx
    · rw [hm] at hx
      cases hx
      cases r with
      | ok a => exact .inl ⟨a, rfl, rfl⟩
      | error err => exact absurd hm (hnot err e')

theorem exec_map (f : α → β) (m : Svc α) (e : Engine) :
    (f <$> m).exec e = match m.exec e with
      | .ok (.ok a, e₁) => .ok (.ok (f a), e₁)
      | .ok (.error err, e₁) => .ok (.error err, e₁)
      | .error o => .error o := by
  rw [← bind_pure_comp, exec_bind]
  rfl

/-! ## What a run keeps -/

/-- Every run of `m` from `e` that ends, well or with a billing error, ends `R`-related to `e`. -/
def KeepsAt (R : Engine → Engine → Prop) (m : Svc α) (e : Engine) : Prop :=
  ∀ r e', m.exec e = .ok (r, e') → R e e'

def Keeps (R : Engine → Engine → Prop) (m : Svc α) : Prop := ∀ e, KeepsAt R m e

variable {R : Engine → Engine → Prop} {m : Svc α} {f : α → Svc β} {e : Engine}

theorem keepsAt_of_exec {r : Except BillingError α} {e' : Engine} (h : m.exec e = .ok (r, e'))
    (hR : R e e') : KeepsAt R m e := by
  intro r' e'' h'
  rw [h] at h'
  cases h'
  exact hR

theorem keepsAt_pure [Std.Refl R] (a : α) : KeepsAt R (pure a) e :=
  keepsAt_of_exec (exec_pure a e) (refl_of R e)

theorem keepsAt_throw [Std.Refl R] (err : BillingError) : KeepsAt R (throw err : Svc α) e :=
  keepsAt_of_exec (exec_throw err e) (refl_of R e)

theorem keepsAt_bind [IsTrans Engine R] (hm : KeepsAt R m e)
    (hf : ∀ a e₁, m.exec e = .ok (.ok a, e₁) → KeepsAt R (f a) e₁) :
    KeepsAt R (m >>= f) e := by
  intro r e' h
  rw [exec_bind] at h
  split at h
  · next a e₁ hm' => exact trans_of R (hm _ _ hm') (hf a e₁ hm' r e' h)
  · next err e₁ hm' =>
    cases h
    exact hm _ _ hm'
  · cases h

theorem keepsAt_throw_bind [Std.Refl R] [IsTrans Engine R] (err : BillingError) :
    KeepsAt R (throw err >>= f) e :=
  keepsAt_bind (keepsAt_throw err) fun _ _ h => by rw [exec_throw] at h; cases h

theorem keepsAt_bind_read {a : α} (hm : m.exec e = .ok (.ok a, e)) (hf : KeepsAt R (f a) e) :
    KeepsAt R (m >>= f) e := by
  intro r e' h
  rw [exec_bind_ok hm] at h
  exact hf r e' h

theorem keepsAt_drop [Std.Refl R] [IsTrans Engine R] (hm : KeepsAt R m e) :
    KeepsAt R (do let _ ← m; pure () : Svc Unit) e :=
  keepsAt_bind hm fun _ _ _ => keepsAt_pure _

theorem keepsAt_ite_throw [Std.Refl R] [IsTrans Engine R] {γ : Type} {c : Prop} [Decidable c]
    {err : BillingError} {k : Svc β} (hk : KeepsAt R k e) :
    KeepsAt R (if c then (throw err : Svc γ) >>= (fun _ => k) else k) e := by
  split
  · exact keepsAt_throw_bind err
  · exact hk

theorem keepsAt_tryCatch [IsTrans Engine R] {h : BillingError → Svc α} (hm : KeepsAt R m e)
    (hh : ∀ err e₁, m.exec e = .ok (.error err, e₁) → KeepsAt R (h err) e₁) :
    KeepsAt R (tryCatch m h) e := by
  intro r e' hx
  rw [exec_tryCatch] at hx
  split at hx
  · next err e₁ hm' => exact trans_of R (hm _ _ hm') (hh err e₁ hm' r e' hx)
  · exact hm r e' hx

theorem keepsAt_map (g : α → β) (hm : KeepsAt R m e) : KeepsAt R (g <$> m) e := by
  intro r e' h
  rw [exec_map] at h
  split at h
  · next a e₁ hm' => cases h; exact hm _ _ hm'
  · next err e₁ hm' => cases h; exact hm _ _ hm'
  · cases h

theorem keeps_bind [IsTrans Engine R] (hm : Keeps R m) (hf : ∀ a, Keeps R (f a)) :
    Keeps R (m >>= f) :=
  fun e => keepsAt_bind (hm e) (fun a e₁ _ => hf a e₁)

/-! ## Operations that only read -/

/-- `m` only reads the engine, and every value it returns satisfies `P`. -/
def Reads (m : Svc α) (P : α → Prop) : Prop :=
  ∀ e r e', m.exec e = .ok (r, e') → e' = e ∧ ∀ a, r = .ok a → P a

theorem reads_pure {P : α → Prop} {a : α} (h : P a) : Reads (pure a) P :=
  fun _ _ _ hx => by cases hx; exact ⟨rfl, fun _ ha => by cases ha; exact h⟩

theorem reads_throw {P : α → Prop} (err : BillingError) : Reads (throw err : Svc α) P :=
  fun _ _ _ hx => by cases hx; exact ⟨rfl, fun _ ha => by cases ha⟩

theorem reads_bind {Q : α → Prop} {P : β → Prop} (hm : Reads m Q) (hf : ∀ a, Q a → Reads (f a) P) :
    Reads (m >>= f) P := by
  intro e r e' hx
  rw [exec_bind] at hx
  split at hx
  · next a e₁ hm' =>
    obtain ⟨he, ha⟩ := hm e _ e₁ hm'
    subst e₁
    exact hf a (ha a rfl) e r e' hx
  · next err e₁ hm' =>
    cases hx
    exact ⟨(hm e _ _ hm').1, fun _ ha => by cases ha⟩
  · cases hx

theorem reads_throw_bind {P : β → Prop} (err : BillingError) : Reads (throw err >>= f) P := by
  intro e r e' hx
  rw [exec_bind, exec_throw] at hx
  cases hx
  exact ⟨rfl, fun _ ha => by cases ha⟩

theorem reads_ite_throw {P : β → Prop} {γ : Type} {c : Prop} [Decidable c] {err : BillingError}
    {k : Svc β} (hk : Reads k P) :
    Reads (if c then (throw err : Svc γ) >>= (fun _ => k) else k) P := by
  split
  · exact reads_throw_bind err
  · exact hk

theorem reads_ite {P : α → Prop} {c : Prop} [Decidable c] {x y : Svc α} (hx : c → Reads x P)
    (hy : ¬c → Reads y P) : Reads (if c then x else y) P := by
  split
  · exact hx ‹_›
  · exact hy ‹_›

theorem reads_map {P : β → Prop} (g : α → β) (hm : Reads m (fun a => P (g a))) :
    Reads (g <$> m) P := by
  rw [← bind_pure_comp]
  exact reads_bind hm fun a ha => reads_pure ha

theorem Reads.mono {P Q : α → Prop} (h : Reads m P) (hPQ : ∀ a, P a → Q a) : Reads m Q :=
  fun e r e' hx => ⟨(h e r e' hx).1, fun a ha => hPQ a ((h e r e' hx).2 a ha)⟩

theorem Reads.keepsAt [Std.Refl R] {P : α → Prop} (h : Reads m P) : KeepsAt R m e :=
  fun r e' hx => (h e r e' hx).1 ▸ refl_of R e

theorem KeepsAt.mono {S : Engine → Engine → Prop} (h : KeepsAt R m e)
    (hRS : ∀ e₁ e₂, R e₁ e₂ → S e₁ e₂) : KeepsAt S m e :=
  fun r e' hx => hRS _ _ (h r e' hx)

theorem Keeps.mono {S : Engine → Engine → Prop} (h : Keeps R m)
    (hRS : ∀ e₁ e₂, R e₁ e₂ → S e₁ e₂) : Keeps S m :=
  fun e => (h e).mono hRS

/-! ## Operations that finish -/

/-- A run of `m` from `e` finishes, with a result or a billing error: it does not stop on an
overflow. -/
def Finishes (m : Svc α) (e : Engine) : Prop := ∃ r e', m.exec e = .ok (r, e')

theorem finishes_of_exec {r : Except BillingError α} {e' : Engine} (h : m.exec e = .ok (r, e')) :
    Finishes m e :=
  ⟨r, e', h⟩

theorem finishes_pure (a : α) : Finishes (pure a) e := finishes_of_exec (exec_pure a e)

theorem finishes_throw (err : BillingError) : Finishes (throw err : Svc α) e :=
  finishes_of_exec (exec_throw err e)

theorem finishes_bind (hm : Finishes m e)
    (hf : ∀ a e₁, m.exec e = .ok (.ok a, e₁) → Finishes (f a) e₁) : Finishes (m >>= f) e := by
  obtain ⟨r, e₁, hm'⟩ := hm
  cases r with
  | ok a =>
    obtain ⟨r', e', hf'⟩ := hf a e₁ hm'
    exact ⟨r', e', by rw [exec_bind_ok hm', hf']⟩
  | error err => exact ⟨.error err, e₁, exec_bind_error hm'⟩

theorem finishes_tryCatch {h : BillingError → Svc α} (hm : Finishes m e)
    (hh : ∀ err e₁, m.exec e = .ok (.error err, e₁) → Finishes (h err) e₁) :
    Finishes (tryCatch m h) e := by
  obtain ⟨r, e₁, hm'⟩ := hm
  cases r with
  | ok a => exact ⟨.ok a, e₁, by rw [exec_tryCatch, hm']⟩
  | error err =>
    obtain ⟨r', e', hh'⟩ := hh err e₁ hm'
    exact ⟨r', e', by rw [exec_tryCatch, hm']; exact hh'⟩

theorem finishes_map (g : α → β) (hm : Finishes m e) : Finishes (g <$> m) e := by
  rw [← bind_pure_comp]
  exact finishes_bind hm fun _ _ _ => finishes_pure _

theorem Reads.finishes {P : α → Prop} (h : Reads m P) (hm : Finishes m e) :
    ∃ r, m.exec e = .ok (r, e) := by
  obtain ⟨r, e', hx⟩ := hm
  exact ⟨r, (h e r e' hx).1 ▸ hx⟩

end Svc

end Rebill
