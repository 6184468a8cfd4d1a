import Mathlib.Data.List.Forall2
import Rebill.Proofs.Registry

/-!
# Operations cut into atomic sections

Several runs and ledger requests may be in progress at once. What runs atomically is a lock's
body, together with the taking and the giving back of its lock, and each single call of the
store, of a gateway or of an outlet: between two such sections of one operation, sections of the
others may run. A lock's body reads and writes only the row its key names, besides the clock and
the policy that no section writes, so running it at once is one of the orders its inner calls
could take. A `Section` is one of these atomic steps, named by what it is; `Section.exec` is the
operation of the core that it runs.

A `Worker` is an operation cut at its sections: it has ended with a result or an error, or it
runs a section next and continues with what that section returned. Workers form a monad, so an
operation's worker is written as the operation is, section for primitive. Run alone, section
after section, a worker is `Worker.exec`; `Worker.Cuts m w` says that this gives what `m` gives
from every engine, so that a worker is the operation it cuts.

A `Pool` is a list of workers sharing one engine. `Pool.Step` runs the next section of any one
worker, and `Pool.Runs` is a sequence of steps, that is any interleaving of the workers'
sections, recording each `Beat`: the worker, the section, what it returned, and the engine before
and after it. A section that stops on an overflow stops everything, so it makes no step.

What a worker does to the shared engine is described by a `Protocol`: the sections it allows in
each local state, and the local state after each. `Worker.Follows` says that a worker keeps to a
protocol whatever its sections return, and `Pool.Runs.follow` turns a property of one step into
one of every interleaving: the step lemma and the run lemma of each invariant of the pool.
-/

namespace Rebill

open Svc

/-- The attempt with its claim given back: an active attempt in flight loses its mark. -/
def Charge.givenBack (c : Charge) : Charge :=
  if c.state == .active && c.status == some inFlight then { c with status := none } else c

def giveBack (c : Charge) : Svc Charge := pure c.givenBack

theorem releaseClaim_eq (id : Ident) : Attempts.releaseClaim id = Attempts.update id giveBack := rfl

/-- An atomic section of the billing core. -/
inductive Section : Type → Type 1 where
  /-- The claim of an attempt, under the attempt's lock. -/
  | claim (id : Ident) : Section (Option Charge)
  /-- The locked part of a change of an attempt: read, change, write. The change only reads the
  engine and lets the attempt evolve. -/
  | update (id : Ident) (change : Charge → Svc Charge) (h : Attempts.Change change) :
      Section (ChargeState × Charge)
  /-- The locked part of giving a claim back. -/
  | release (id : Ident) : Section (ChargeState × Charge)
  /-- The locked part of a status request of the ledger. -/
  | apply (id : Ident) (u : Ledger.StatusRequest) : Section (Option (PaymentStatus × PaymentStatus))
  /-- The call of a gateway to charge a payment for an attempt. -/
  | call (g : Gateway) (p : Payment) (c : Charge) : Section ChargeReply
  /-- A new payment for an attempt's cycle. -/
  | createFor (c : Charge) (parent : Payment) : Section Payment
  /-- A line of the audit log. -/
  | log (payment charge : Ident) (r : GatewayResponse) : Section Unit
  | emit (ev : BillingEvent) (operation : String) : Section Unit
  | publish (m : StatusMessage) (operation : String) : Section Unit
  | count (c : Counter) : Section Unit
  /-- The due attempts a run loads. -/
  | due (ids : Option (List Ident)) : Section (List Charge)
  /-- Any other read of the engine. -/
  | read {β : Type} (m : Svc β) (h : Reads m fun _ => True) : Section β

namespace Section

variable {β : Type}

def exec : Section β → Svc β
  | .claim id => Attempts.claim id
  | .update id change _ => withLock (Attempts.chargeKey id) (Attempts.updateLocked id change)
  | .release id => withLock (Attempts.chargeKey id) (Attempts.updateLocked id giveBack)
  | .apply id u => withLock (Ledger.paymentKey id) (Ledger.applyLocked id u)
  | .call g p c => Run.callGateway g p c
  | .createFor c parent => Run.createFor c parent
  | .log payment charge r => Run.appendLog payment charge r
  | .emit ev operation => Svc.emit ev operation
  | .publish m operation => Svc.publish m operation
  | .count c => Svc.count c
  | .due ids => Attempts.chargeable ids
  | .read m _ => m

def Returns (s : Section β) (r : Except BillingError β) : Prop :=
  ∃ e e', s.exec.exec e = .ok (r, e')

theorem returns_of_exec {s : Section β} {r : Except BillingError β} {e e' : Engine}
    (h : s.exec.exec e = .ok (r, e')) : s.Returns r :=
  ⟨e, e', h⟩

end Section

/-- An operation cut at its atomic sections: ended, or running a section next and continuing with
what it returned. -/
inductive Worker (α : Type) : Type 1 where
  | done (r : Except BillingError α)
  | next {β : Type} (s : Section β) (k : Except BillingError β → Worker α)

namespace Worker

variable {α β γ : Type}

def lift (s : Section β) : Worker β := next s done

/-- The worker, then `f` on its result; an error ends both. -/
protected def bind : Worker α → (α → Worker β) → Worker β
  | done (.ok a), f => f a
  | done (.error err), _ => done (.error err)
  | next s k, f => next s fun r => (k r).bind f

protected def handle : Worker α → (BillingError → Worker α) → Worker α
  | done (.ok a), _ => done (.ok a)
  | done (.error err), h => h err
  | next s k, h => next s fun r => (k r).handle h

instance : Monad Worker where
  pure a := done (.ok a)
  bind := Worker.bind

instance : MonadExceptOf BillingError Worker where
  throw err := done (.error err)
  tryCatch := Worker.handle

@[simp] theorem pure_eq (a : α) : (pure a : Worker α) = done (.ok a) := rfl
@[simp] theorem throw_eq (err : BillingError) : (throw err : Worker α) = done (.error err) := rfl
theorem bind_eq (w : Worker α) (f : α → Worker β) : w >>= f = w.bind f := rfl
theorem tryCatch_eq (w : Worker α) (h : BillingError → Worker α) : tryCatch w h = w.handle h := rfl

/-- A worker run alone: its sections one after another, until it ends or an overflow stops it. -/
def exec : Worker α → Engine → Except Overflow (Except BillingError α × Engine)
  | done r, e => .ok (r, e)
  | next s k, e =>
    match s.exec.exec e with
    | .ok (r, e₁) => (k r).exec e₁
    | .error o => .error o

@[simp] theorem exec_done (r : Except BillingError α) (e : Engine) : (done r).exec e = .ok (r, e) :=
  rfl

theorem exec_lift (s : Section β) (e : Engine) : (lift s).exec e = s.exec.exec e := by
  unfold lift exec
  rcases s.exec.exec e with o | ⟨r, e₁⟩ <;> rfl

theorem exec_bind (w : Worker α) (f : α → Worker β) (e : Engine) :
    (w >>= f).exec e = match w.exec e with
      | .ok (.ok a, e₁) => (f a).exec e₁
      | .ok (.error err, e₁) => .ok (.error err, e₁)
      | .error o => .error o := by
  rw [bind_eq]
  induction w generalizing e with
  | done r => cases r <;> rfl
  | next s k ih =>
    simp only [Worker.bind, exec]
    rcases s.exec.exec e with o | ⟨r, e₁⟩
    · rfl
    · exact ih r e₁

theorem exec_tryCatch (w : Worker α) (h : BillingError → Worker α) (e : Engine) :
    (tryCatch w h).exec e = match w.exec e with
      | .ok (.error err, e₁) => (h err).exec e₁
      | r => r := by
  rw [tryCatch_eq]
  induction w generalizing e with
  | done r => cases r <;> rfl
  | next s k ih =>
    simp only [Worker.handle, exec]
    rcases s.exec.exec e with o | ⟨r, e₁⟩
    · rfl
    · exact ih r e₁

theorem exec_map (f : α → β) (w : Worker α) (e : Engine) :
    (f <$> w).exec e = match w.exec e with
      | .ok (.ok a, e₁) => .ok (.ok (f a), e₁)
      | .ok (.error err, e₁) => .ok (.error err, e₁)
      | .error o => .error o := by
  show (w >>= fun a => pure (f a)).exec e = _
  rw [exec_bind]
  rcases w.exec e with o | ⟨r | a, e₁⟩ <;> rfl

/-! ## A worker cuts an operation -/

/-- Run alone, the worker `w` gives what the operation `m` gives, from every engine. -/
def Cuts (m : Svc α) (w : Worker α) : Prop := ∀ e, w.exec e = m.exec e

namespace Cuts

variable {m : Svc α} {w : Worker α}

theorem lift (s : Section β) : Cuts s.exec (Worker.lift s) := exec_lift s

protected theorem pure (a : α) : Cuts (pure a) (pure a) := fun _ => rfl

protected theorem throw (err : BillingError) : Cuts (throw err : Svc α) (throw err) := fun _ => rfl

protected theorem bind {f : α → Svc β} {g : α → Worker β} (hm : Cuts m w)
    (hf : ∀ a, Cuts (f a) (g a)) : Cuts (m >>= f) (w >>= g) := by
  intro e
  rw [exec_bind, Svc.exec_bind, hm e]
  rcases m.exec e with o | ⟨r | a, e₁⟩
  · rfl
  · rfl
  · exact hf a e₁

protected theorem tryCatch {h : BillingError → Svc α} {h' : BillingError → Worker α}
    (hm : Cuts m w) (hh : ∀ err, Cuts (h err) (h' err)) : Cuts (tryCatch m h) (tryCatch w h') := by
  intro e
  rw [exec_tryCatch, Svc.exec_tryCatch, hm e]
  rcases m.exec e with o | ⟨err | a, e₁⟩
  · rfl
  · exact hh err e₁
  · rfl

protected theorem ite {c : Prop} [Decidable c] {m' : Svc α} {w' : Worker α} (h : c → Cuts m w)
    (h' : ¬c → Cuts m' w') : Cuts (if c then m else m') (if c then w else w') := by
  by_cases hc : c
  · rw [if_pos hc, if_pos hc]
    exact h hc
  · rw [if_neg hc, if_neg hc]
    exact h' hc

protected theorem map (f : α → β) (hm : Cuts m w) : Cuts (f <$> m) (f <$> w) := by
  intro e
  have hbind := Cuts.bind hm (fun a => Cuts.pure (f a)) e
  rw [← map_eq_pure_bind f m] at hbind
  exact hbind

end Cuts

/-! ## Keeping to a protocol -/

/-- A protocol of workers: the sections allowed in each local state, and the local state after a
section returned. -/
structure Protocol (σ : Type) where
  allows : σ → {β : Type} → Section β → Prop
  after : σ → {β : Type} → Section β → Except BillingError β → σ

variable {σ : Type}

/-- The worker keeps to the protocol `P` from the local state `t`, whatever its sections return,
and ends where `Q` holds of its local state and result. -/
inductive Follows (P : Protocol σ) (Q : σ → Except BillingError α → Prop) : σ → Worker α → Prop
  | done {t : σ} {r : Except BillingError α} : Q t r → Follows P Q t (done r)
  | next {t : σ} {β : Type} {s : Section β} {k : Except BillingError β → Worker α} :
      P.allows t s → (∀ r, s.Returns r → Follows P Q (P.after t s r) (k r)) →
      Follows P Q t (next s k)

namespace Follows

variable {P : Protocol σ} {Q R : σ → Except BillingError α → Prop} {t : σ}

theorem lift {Q : σ → Except BillingError β → Prop} {s : Section β} (hs : P.allows t s)
    (hQ : ∀ r, s.Returns r → Q (P.after t s r) r) : Follows P Q t (Worker.lift s) :=
  .next hs fun r hr => .done (hQ r hr)

protected theorem pure {a : α} (h : Q t (.ok a)) : Follows P Q t (pure a) := .done h

protected theorem throw {err : BillingError} (h : Q t (.error err)) : Follows P Q t (throw err) :=
  .done h

theorem mono {Q' : σ → Except BillingError α → Prop} {w : Worker α} (h : Follows P Q t w)
    (hQ : ∀ t r, Q t r → Q' t r) : Follows P Q' t w := by
  induction h with
  | done hq => exact .done (hQ _ _ hq)
  | next hs _ ih => exact .next hs ih

protected theorem bind {Q : σ → Except BillingError β → Prop} {w : Worker α} {f : α → Worker β}
    (hw : Follows P R t w) (hf : ∀ t' a, R t' (.ok a) → Follows P Q t' (f a))
    (herr : ∀ t' err, R t' (.error err) → Q t' (.error err)) : Follows P Q t (w >>= f) := by
  rw [bind_eq]
  induction hw with
  | @done t r hr =>
    cases r with
    | ok a => exact hf t a hr
    | error err => exact .done (herr t err hr)
  | next hs _ ih => exact .next hs ih

protected theorem tryCatch {w : Worker α} {h : BillingError → Worker α}
    (hw : Follows P R t w) (hok : ∀ t' a, R t' (.ok a) → Q t' (.ok a))
    (herr : ∀ t' err, R t' (.error err) → Follows P Q t' (h err)) :
    Follows P Q t (tryCatch w h) := by
  rw [tryCatch_eq]
  induction hw with
  | @done t r hr =>
    cases r with
    | ok a => exact .done (hok t a hr)
    | error err => exact herr t err hr
  | next hs _ ih => exact .next hs ih

protected theorem map {Q : σ → Except BillingError β → Prop} {w : Worker α} (f : α → β)
    (hw : Follows P R t w) (hok : ∀ t' a, R t' (.ok a) → Q t' (.ok (f a)))
    (herr : ∀ t' err, R t' (.error err) → Q t' (.error err)) : Follows P Q t (f <$> w) :=
  Follows.bind hw (fun t' a h => .done (hok t' a h)) herr

theorem lift_bind {Q : σ → Except BillingError β → Prop} {s : Section α} {f : α → Worker β}
    (hs : P.allows t s) (hf : ∀ a, s.Returns (.ok a) → Follows P Q (P.after t s (.ok a)) (f a))
    (herr : ∀ err, s.Returns (.error err) → Q (P.after t s (.error err)) (.error err)) :
    Follows P Q t (Worker.lift s >>= f) := by
  refine .next hs fun r hr => ?_
  cases r with
  | ok a => exact hf a hr
  | error err => exact .done (herr err hr)

theorem lift_at {s : Section β} {t₁ : σ} (hs : P.allows t s) (hr : ∀ r, P.after t s r = t₁) :
    Follows P (fun t' _ => t' = t₁) t (Worker.lift s) :=
  lift hs fun r _ => hr r

theorem bind_at {Q : σ → Except BillingError β → Prop} {t₁ : σ} {w : Worker α}
    {f : α → Worker β} (hw : Follows P (fun t' _ => t' = t₁) t w)
    (hf : ∀ a, Follows P Q t₁ (f a)) (herr : ∀ err, Q t₁ (.error err)) :
    Follows P Q t (w >>= f) :=
  Follows.bind hw (fun _ a ht => ht ▸ hf a) fun _ err ht => ht ▸ herr err

theorem of_done {r : Except BillingError α} (h : Follows P Q t (Worker.done r)) : Q t r := by
  cases h
  assumption

end Follows

end Worker

/-! ## Workers sharing an engine -/

/-- Workers sharing one engine. -/
structure Pool (α : Type) where
  workers : List (Worker α)
  engine : Engine

/-- One section run by one worker: the worker's place, the section, what it returned, and the
engine before and after it. -/
structure Beat where
  worker : Nat
  β : Type
  part : Section β
  result : Except BillingError β
  before : Engine
  after : Engine

theorem set_of_getElem?_eq_some {γ : Type _} {l : List γ} {i : Nat} {a : γ} (h : l[i]? = some a) :
    l.set i a = l := by
  obtain ⟨hlt, rfl⟩ := List.getElem?_eq_some_iff.mp h
  exact List.set_getElem_self hlt

namespace Pool

variable {α : Type}

/-- The next section of one worker runs on the shared engine. -/
inductive Step : Pool α → Beat → Pool α → Prop
  | mk {ws : List (Worker α)} {e e' : Engine} {i : Nat} {β : Type} {s : Section β}
      {k : Except BillingError β → Worker α} {r : Except BillingError β}
      (hw : ws[i]? = some (.next s k)) (hx : s.exec.exec e = .ok (r, e')) :
      Step ⟨ws, e⟩ ⟨i, β, s, r, e, e'⟩ ⟨ws.set i (k r), e'⟩

/-- Steps one after another, any worker at each: an interleaving, with its beats in order. -/
inductive Runs : Pool α → List Beat → Pool α → Prop
  | nil (p : Pool α) : Runs p [] p
  | snoc {p p₁ p' : Pool α} {bs : List Beat} {b : Beat} :
      Runs p bs p₁ → Step p₁ b p' → Runs p (bs ++ [b]) p'

theorem Step.engines {p p' : Pool α} {b : Beat} (h : Step p b p') :
    b.before = p.engine ∧ b.after = p'.engine := by
  cases h
  exact ⟨rfl, rfl⟩

theorem Step.length {p p' : Pool α} {b : Beat} (h : Step p b p') :
    p'.workers.length = p.workers.length := by
  cases h
  exact List.length_set ..

theorem Runs.length {p p' : Pool α} {bs : List Beat} (h : Runs p bs p') :
    p'.workers.length = p.workers.length := by
  induction h with
  | nil => rfl
  | snoc _ hs ih => exact hs.length.trans ih

theorem Runs.cons {p p₁ p' : Pool α} {b : Beat} {bs : List Beat} (hs : Step p b p₁)
    (h : Runs p₁ bs p') : Runs p (b :: bs) p' := by
  induction h with
  | nil => simpa using Runs.snoc (Runs.nil p) hs
  | snoc _ hs' ih => simpa using Runs.snoc ih hs'

theorem Runs.append {p p₁ p' : Pool α} {bs₁ bs₂ : List Beat} (h₁ : Runs p bs₁ p₁)
    (h₂ : Runs p₁ bs₂ p') : Runs p (bs₁ ++ bs₂) p' := by
  induction h₂ with
  | nil => simpa using h₁
  | snoc _ hs ih =>
    rw [← List.append_assoc]
    exact .snoc ih hs

theorem runs_alone_at {ws : List (Worker α)} {i : Nat} {w : Worker α} {e e' : Engine}
    {r : Except BillingError α} (hw : ws[i]? = some w) (h : w.exec e = .ok (r, e')) :
    ∃ bs, Runs ⟨ws, e⟩ bs ⟨ws.set i (.done r), e'⟩ := by
  induction w generalizing ws e with
  | done r₀ =>
    cases h
    rw [set_of_getElem?_eq_some hw]
    exact ⟨[], .nil _⟩
  | next s k ih =>
    simp only [Worker.exec] at h
    rcases hx : s.exec.exec e with o | ⟨r₁, e₁⟩ <;> rw [hx] at h
    · cases h
    · have hlt : i < ws.length := (List.getElem?_eq_some_iff.mp hw).1
      obtain ⟨bs, hbs⟩ := ih r₁ (List.getElem?_set_self hlt) h
      rw [List.set_set] at hbs
      exact ⟨_, Runs.cons (Step.mk hw hx) hbs⟩

/-! ## Keeping every worker to a protocol -/

variable {σ : Type}

theorem forall₂_set {γ : Type} {δ : Type 1} {R : γ → δ → Prop} :
    ∀ {l₁ : List γ} {l₂ : List δ} (i : Nat) {a : γ} {b : δ},
      List.Forall₂ R l₁ l₂ → R a b → List.Forall₂ R (l₁.set i a) (l₂.set i b)
  | _, _, _, _, _, .nil, _ => .nil
  | _, _, 0, _, _, .cons _ h, hab => .cons hab h
  | _, _, i + 1, _, _, .cons h₁ h, hab => .cons h₁ (forall₂_set i h hab)

theorem forall₂_getElem? {γ δ : Type _} {R : γ → δ → Prop} {l₁ : List γ} {l₂ : List δ}
    (h : List.Forall₂ R l₁ l₂) {i : Nat} {a : γ} (ha : l₁[i]? = some a) :
    ∃ b, l₂[i]? = some b ∧ R a b := by
  induction h generalizing i with
  | nil => cases ha
  | cons hab _ ih =>
    cases i with
    | zero =>
      obtain rfl := Option.some.inj ha
      exact ⟨_, rfl, hab⟩
    | succ i => exact ih ha

theorem forall₂_getElem?_right {γ δ : Type _} {R : γ → δ → Prop} {l₁ : List γ} {l₂ : List δ}
    (h : List.Forall₂ R l₁ l₂) {i : Nat} {b : δ} (hb : l₂[i]? = some b) :
    ∃ a, l₁[i]? = some a ∧ R a b :=
  forall₂_getElem? (List.Forall₂.flip h : List.Forall₂ (flip R) l₂ l₁) hb

/-- Every worker of the pool keeps to the protocol from its own local state. -/
def Follow (P : Worker.Protocol σ) (Q : σ → Except BillingError α → Prop) (ts : List σ)
    (p : Pool α) : Prop :=
  List.Forall₂ (Worker.Follows P Q) ts p.workers

theorem Step.follow {P : Worker.Protocol σ} {Q : σ → Except BillingError α → Prop} {ts : List σ}
    {p p' : Pool α} {b : Beat} (h : Step p b p') (hf : Follow P Q ts p) :
    ∃ t : σ, ts[b.worker]? = some t ∧ P.allows t b.part ∧
      Follow P Q (ts.set b.worker (P.after t b.part b.result)) p' := by
  unfold Follow at hf ⊢
  cases h with
  | @mk ws e e' i β s k r hw hx =>
    obtain ⟨t, ht, hft⟩ := forall₂_getElem?_right hf hw
    cases hft with
    | next hs hk =>
      refine ⟨t, ht, hs, ?_⟩
      exact forall₂_set i hf (hk r (Section.returns_of_exec hx))

theorem Runs.follow {P : Worker.Protocol σ} {Q : σ → Except BillingError α → Prop}
    (I : Engine → List σ → List Beat → Prop)
    (hstep : ∀ (ts : List σ) (bs : List Beat) (t : σ) (b : Beat), ts[b.worker]? = some t →
      P.allows t b.part → b.part.exec.exec b.before = .ok (b.result, b.after) →
      I b.before ts bs → I b.after (ts.set b.worker (P.after t b.part b.result)) (bs ++ [b]))
    {p p' : Pool α} {bs : List Beat} (h : Runs p bs p') {ts : List σ} (hf : Follow P Q ts p)
    (hI : I p.engine ts []) : ∃ ts', Follow P Q ts' p' ∧ I p'.engine ts' bs := by
  induction h with
  | nil => exact ⟨ts, hf, hI⟩
  | @snoc p₁ p' bs b _ hs ih =>
    obtain ⟨ts₁, hf₁, hI₁⟩ := ih
    obtain ⟨t, ht, hallows, hf'⟩ := hs.follow hf₁
    obtain ⟨hbefore, hafter⟩ := hs.engines
    have hx : b.part.exec.exec b.before = .ok (b.result, b.after) := by
      cases hs
      assumption
    refine ⟨_, hf', ?_⟩
    rw [← hafter]
    exact hstep ts₁ bs t b ht hallows hx (hbefore ▸ hI₁)

/-! ## Playing a schedule -/

/-- The turn of the worker at `i`: its next section, or nothing when it has ended or there is no
such worker. -/
def turn (p : Pool α) (i : Nat) : Except Overflow (Option (Beat × Pool α)) :=
  match p.workers[i]? with
  | some (.next s k) =>
    match s.exec.exec p.engine with
    | .ok (r, e') => .ok (some (⟨i, _, s, r, p.engine, e'⟩, ⟨p.workers.set i (k r), e'⟩))
    | .error o => .error o
  | _ => .ok none

def play : Pool α → List Nat → Except Overflow (List Beat × Pool α)
  | p, [] => .ok ([], p)
  | p, i :: is =>
    match p.turn i with
    | .ok (some (b, p₁)) =>
      match p₁.play is with
      | .ok (bs, p') => .ok (b :: bs, p')
      | .error o => .error o
    | .ok none => p.play is
    | .error o => .error o

theorem turn_step {p p₁ : Pool α} {i : Nat} {b : Beat} (h : p.turn i = .ok (some (b, p₁))) :
    Step p b p₁ := by
  unfold turn at h
  split at h
  · next s k hw =>
    rcases hx : s.exec.exec p.engine with o | ⟨r, e'⟩ <;> rw [hx] at h
    · cases h
    · cases h
      exact Step.mk hw hx
  · cases h

theorem play_runs : ∀ {p p' : Pool α} {is : List Nat} {bs : List Beat},
    p.play is = .ok (bs, p') → Runs p bs p'
  | p, p', [], bs, h => by
    cases h
    exact .nil p
  | p, p', i :: is, bs, h => by
    unfold play at h
    rcases ht : p.turn i with o | _ | ⟨b, p₁⟩ <;> simp only [ht] at h
    · cases h
    · exact play_runs h
    · rcases hp : p₁.play is with o | ⟨bs₁, p₂⟩ <;> simp only [hp] at h
      · cases h
      · cases h
        exact Runs.cons (turn_step ht) (play_runs hp)

end Pool

end Rebill
