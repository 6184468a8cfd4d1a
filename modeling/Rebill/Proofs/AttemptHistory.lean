import Rebill.Proofs.Operations

/-!
# Every attempt moves along the table

An attempt's state changes only by the moves of the table `ChargeState.allows`, each on behalf of
the actor of the operation that makes it, and each change is announced by one event. This module
shows it over every run of operations but the direct write of an attempt, with a sink that records
every event:

* the moves that an operation announces for an attempt chain from the attempt's state before the
  operation to its state after it, and each is a move of the table for the operation's actor
  (`Course`, `Trail`). The actor is the one a transition names; the system for charge runs,
  callbacks and re-arming; the user for a user's stop and reactivation; the administrator for an
  administrator's stop. The other operations have no actor and move nothing;
* an attempt is born active, so the moves announced for it chain from `active` to its current
  state;
* nothing leaves `charged`, `systemStop` or `adminStop`.

`Engine.Moved a` says what an operation with actor `a` may do to the states and the events. It is
a preorder, so it is proved one step of an operation at a time, as the other laws are.
-/

namespace Rebill

/-- The move of an attempt that an event announces, with its attempt; `none` for a change of a
payment's status. -/
def BillingEvent.stateChange? : BillingEvent → Option (Ident × ChargeState × ChargeState)
  | .chargeStateChanged x o n => some (x, o, n)
  | .paymentStatusChanged _ _ _ _ => none

/-- The moves of the attempt `x` among announced moves. -/
def movesOf (x : Ident) (l : List (Ident × ChargeState × ChargeState)) :
    List (ChargeState × ChargeState) :=
  l.filterMap fun m => if m.1 = x then some m.2 else none

@[simp] theorem movesOf_nil (x : Ident) : movesOf x [] = [] := rfl

@[simp] theorem movesOf_append (x : Ident) (l₁ l₂ : List (Ident × ChargeState × ChargeState)) :
    movesOf x (l₁ ++ l₂) = movesOf x l₁ ++ movesOf x l₂ :=
  List.filterMap_append

@[simp] theorem movesOf_singleton (x y : Ident) (o n : ChargeState) :
    movesOf x [(y, o, n)] = if y = x then [(o, n)] else [] := by
  by_cases h : y = x <;> simp [movesOf, h]

namespace Store

variable (s : Store)

/-- The state of the attempt stored under `x`, if there is one. -/
def stateOf (x : Ident) : Option ChargeState := (s.row? x).map (·.charge.state)

@[simp] theorem withToken_state (c : Charge) : (s.withToken c).state = c.state := by
  rw [withToken_eq]

theorem stateOf_eq_charge? (x : Ident) : s.stateOf x = (s.charge? x).map (·.state) := by
  simp [stateOf, charge?, Option.map_map, Function.comp_def]

theorem stateOf_of_rows {s' : Store} (h : s'.rows = s.rows) : s'.stateOf = s.stateOf := by
  funext x
  simp [stateOf, row?, h]

theorem stateOf_saveCharge {c v : Charge} {t : Instant} {s' : Store}
    (h : s.saveCharge c t = .ok (v, s')) (x : Ident) :
    s'.stateOf x = if c.id = x then some c.state else s.stateOf x := by
  rw [stateOf_eq_charge?, charge?_saveCharge s h x]
  split
  · simp [(saveCharge_read s h).2.2.1]
  · rw [stateOf_eq_charge?]

theorem stateOf_createCharge {d : ChargeDraft} {t : Instant} {c : Charge} {s' : Store}
    (h : s.createCharge d t = .ok (c, s')) (x : Ident) :
    s'.stateOf x = (s.stateOf x).or (if c.id = x then some .active else none) := by
  obtain ⟨m, -, -, heq⟩ := (createCharge_eq_ok s).mp h
  cases heq
  unfold stateOf
  rw [row?_append s rfl]
  cases s.row? x <;> split <;> simp_all [Charge.ofDraft]

theorem rows_findOrCreateMethod (user : Ident) (gateway token : String) (t : Instant) :
    (s.findOrCreateMethod user gateway token t).2.rows = s.rows := by
  unfold findOrCreateMethod
  split <;> rfl

theorem rows_of_setMethodExpiry {id : Ident} {d : Date} {s' : Store}
    (h : s.setMethodExpiry id d = .ok s') : s'.rows = s.rows := by
  unfold setMethodExpiry at h
  split at h <;> cases h
  rfl

theorem rows_of_savePaymentStatus {id : Ident} {w : StatusWrite} {t : Instant} {p : Payment}
    {s' : Store} (h : s.savePaymentStatus id w t = .ok (p, s')) : s'.rows = s.rows := by
  obtain ⟨q, -, heq⟩ := (savePaymentStatus_eq_ok s).mp h
  cases heq
  rfl

theorem rows_createPayment (d : PaymentDraft) (t : Instant) : (s.createPayment d t).2.rows = s.rows := by
  rw [createPayment_eq]

end Store

namespace ChargeState

/-- The moves that the actor `a`, when there is one, may make: those of the table. -/
def Permits (a : Option Actor) (s t : ChargeState) : Prop := ∃ b ∈ a, s.allows t b = true

def Allowed (s t : ChargeState) : Prop := ∃ b, s.allows t b = true

theorem Permits.allowed {a : Option Actor} {s t : ChargeState} (h : Permits a s t) : Allowed s t :=
  let ⟨b, _, hb⟩ := h
  ⟨b, hb⟩

end ChargeState

open ChargeState

/-- A chain of moves from `s` to `t`, each changing the state and each one that `ok` allows. -/
inductive Moves (ok : ChargeState → ChargeState → Prop) :
    ChargeState → List (ChargeState × ChargeState) → ChargeState → Prop where
  | nil (s : ChargeState) : Moves ok s [] s
  | cons {s n t : ChargeState} {rest : List (ChargeState × ChargeState)} (hne : s ≠ n)
      (hok : ok s n) (h : Moves ok n rest t) : Moves ok s ((s, n) :: rest) t

namespace Moves

variable {ok ok' : ChargeState → ChargeState → Prop}

theorem append {s t u : ChargeState} {l₁ l₂ : List (ChargeState × ChargeState)}
    (h₁ : Moves ok s l₁ t) (h₂ : Moves ok t l₂ u) : Moves ok s (l₁ ++ l₂) u := by
  induction h₁ with
  | nil s => exact h₂
  | cons hne hok _ ih => exact .cons hne hok (ih h₂)

theorem mono (hle : ∀ s t, ok s t → ok' s t) {s t : ChargeState}
    {l : List (ChargeState × ChargeState)} (h : Moves ok s l t) : Moves ok' s l t := by
  induction h with
  | nil s => exact .nil s
  | cons hne hok _ ih => exact .cons hne (hle _ _ hok) ih

theorem single {s t : ChargeState} (h : s ≠ t → ok s t) :
    Moves ok s (if s = t then [] else [(s, t)]) t := by
  by_cases hst : s = t
  · subst hst
    simpa using nil s
  · simpa [hst] using cons hst (h hst) (nil t)

theorem of_isClosed {s t : ChargeState} {l : List (ChargeState × ChargeState)} (hs : s.isClosed)
    (h : Moves Allowed s l t) : l = [] ∧ t = s := by
  cases h with
  | nil => exact ⟨rfl, rfl⟩
  | cons hne hok _ =>
    obtain ⟨b, hb⟩ := hok
    exact absurd (eq_of_allows_of_isClosed hs hb).symm hne

end Moves

/-- What one operation may do to one attempt, with the moves `ok` allows: leave it unstored, give
it birth as an active attempt that then moves, or move a stored attempt. -/
inductive Course (ok : ChargeState → ChargeState → Prop) :
    Option ChargeState → List (ChargeState × ChargeState) → Option ChargeState → Prop where
  | absent : Course ok none [] none
  | born {l : List (ChargeState × ChargeState)} {t : ChargeState} (h : Moves ok .active l t) :
      Course ok none l (some t)
  | stored {s t : ChargeState} {l : List (ChargeState × ChargeState)} (h : Moves ok s l t) :
      Course ok (some s) l (some t)

namespace Course

variable {ok ok' : ChargeState → ChargeState → Prop}

theorem refl (s : Option ChargeState) : Course ok s [] s := by
  cases s with
  | none => exact absent
  | some s => exact stored (.nil s)

theorem trans {s t u : Option ChargeState} {l₁ l₂ : List (ChargeState × ChargeState)}
    (h₁ : Course ok s l₁ t) (h₂ : Course ok t l₂ u) : Course ok s (l₁ ++ l₂) u := by
  cases h₁ with
  | absent => exact h₂
  | born h =>
    cases h₂ with
    | stored h' => exact born (h.append h')
  | stored h =>
    cases h₂ with
    | stored h' => exact stored (h.append h')

theorem mono (hle : ∀ s t, ok s t → ok' s t) {s t : Option ChargeState}
    {l : List (ChargeState × ChargeState)} (h : Course ok s l t) : Course ok' s l t := by
  cases h with
  | absent => exact absent
  | born h => exact born (h.mono hle)
  | stored h => exact stored (h.mono hle)

end Course

namespace Charge

/-- A change of an attempt that the actor `a` may make: the identifier stays, and the state stays
or makes a move of the table for `a`. -/
def MoveBy (a : Option Actor) (c c' : Charge) : Prop :=
  c'.id = c.id ∧ (c.state ≠ c'.state → Permits a c.state c'.state)

theorem moveBy_of_state {a : Option Actor} {c c' : Charge} (hid : c'.id = c.id)
    (hs : c'.state = c.state) : c.MoveBy a c' :=
  ⟨hid, fun hne => absurd hs.symm hne⟩

end Charge

namespace Engine

/-- The moves of attempts that the recorder kept, in order. -/
def moves (e : Engine) : List (Ident × ChargeState × ChargeState) :=
  e.recorded.events.filterMap BillingEvent.stateChange?

def newMoves (e e' : Engine) : List (Ident × ChargeState × ChargeState) :=
  e'.moves.drop e.moves.length

theorem newMoves_of_append {e e' : Engine} {l : List (Ident × ChargeState × ChargeState)}
    (h : e'.moves = e.moves ++ l) : e.newMoves e' = l := by
  simp [newMoves, h]

theorem newMoves_trans {e₁ e₂ e₃ : Engine} (h₁₂ : e₁.moves <+: e₂.moves)
    (h₂₃ : e₂.moves <+: e₃.moves) :
    e₁.newMoves e₃ = e₁.newMoves e₂ ++ e₂.newMoves e₃ := by
  obtain ⟨a, ha⟩ := h₁₂
  obtain ⟨b, hb⟩ := h₂₃
  rw [newMoves_of_append ha.symm, newMoves_of_append hb.symm,
    newMoves_of_append (show e₃.moves = e₁.moves ++ (a ++ b) by rw [← hb, ← ha, List.append_assoc])]

@[simp] theorem moves_setStore (e : Engine) (s : Store) : { e with store := s }.moves = e.moves := rfl

@[simp] theorem heard_setStore (e : Engine) (s : Store) : { e with store := s }.heard = e.heard := rfl

theorem heard_of_outlets {e e' : Engine} (h : e'.outlets = e.outlets) : e'.heard = e.heard := by
  simp [heard, h]

theorem moves_announce (e : Engine) (ev : BillingEvent) (op : String) :
    (e.announce ev op).moves = e.moves ++ (if e.heard then ev.stateChange?.toList else []) := by
  unfold moves
  rw [announce_events, List.filterMap_append]
  split <;> cases ev <;> simp [BillingEvent.stateChange?]

/-- What an operation with actor `a` may do to the attempts, when the sink hears every event: the
moves announced before are kept, and each attempt takes the course that `a` permits, announcing
its moves. -/
structure Moved (a : Option Actor) (e e' : Engine) : Prop where
  outlets : e'.outlets = e.outlets
  moves : e.heard = true → e.moves <+: e'.moves
  attempts : e.heard = true → ∀ x,
    Course (Permits a) (e.store.stateOf x) (movesOf x (e.newMoves e')) (e'.store.stateOf x)

namespace Moved

variable {a : Option Actor}

theorem of_moves {e e' : Engine} {l : List (Ident × ChargeState × ChargeState)}
    (ho : e'.outlets = e.outlets) (hm : e.heard = true → e'.moves = e.moves ++ l)
    (hx : e.heard = true → ∀ x,
      Course (Permits a) (e.store.stateOf x) (movesOf x l) (e'.store.stateOf x)) :
    Moved a e e' where
  outlets := ho
  moves := fun hh => ⟨l, (hm hh).symm⟩
  attempts := fun hh x => newMoves_of_append (hm hh) ▸ hx hh x

theorem of_same {e e' : Engine} (ho : e'.outlets = e.outlets)
    (hs : ∀ x, e'.store.stateOf x = e.store.stateOf x) (hm : e'.moves = e.moves) :
    Moved a e e' :=
  of_moves (l := []) ho (fun _ => by rw [hm, List.append_nil]) fun _ x => by
    rw [hs x]
    exact .refl _

theorem of_rows {e e' : Engine} (ho : e'.outlets = e.outlets) (hr : e'.store.rows = e.store.rows)
    (hm : e'.moves = e.moves) : Moved a e e' :=
  of_same ho (fun x => by rw [Store.stateOf_of_rows e.store hr]) hm

@[refl] theorem refl (e : Engine) : Moved a e e := of_same rfl (fun _ => rfl) rfl

theorem trans {e₁ e₂ e₃ : Engine} (h₁ : Moved a e₁ e₂) (h₂ : Moved a e₂ e₃) : Moved a e₁ e₃ where
  outlets := h₂.outlets.trans h₁.outlets
  moves := fun hh => (h₁.moves hh).trans (h₂.moves ((heard_of_outlets h₁.outlets).trans hh))
  attempts := fun hh x => by
    have hh₂ : e₂.heard = true := (heard_of_outlets h₁.outlets).trans hh
    rw [newMoves_trans (h₁.moves hh) (h₂.moves hh₂), movesOf_append]
    exact (h₁.attempts hh x).trans (h₂.attempts hh₂ x)

instance : Std.Refl (Moved a) := ⟨refl⟩
instance : IsTrans Engine (Moved a) := ⟨fun _ _ _ => trans⟩

/-! ### The steps that write no attempt -/

theorem tally (e : Engine) (k : Counter) : Moved a e (e.tally k) := of_rows rfl rfl rfl

theorem appendAudit (e : Engine) (x : AuditEntry) :
    Moved a e { e with store := e.store.appendAudit x } :=
  of_rows rfl rfl rfl

theorem afterCharge (e : Engine) (g : Gateway) (p : Payment) (c : Charge) :
    Moved a e (e.afterCharge g p c) :=
  of_rows rfl rfl rfl

theorem createPayment {e : Engine} {d : PaymentDraft} {p : Payment} {s : Store}
    (h : e.store.createPayment d e.now = (p, s)) : Moved a e { e with store := s } :=
  of_rows rfl (by rw [← e.store.rows_createPayment d e.now, h]) rfl

theorem setMethodExpiry {e : Engine} {id : Ident} {d : Date} {s : Store}
    (h : e.store.setMethodExpiry id d = .ok s) : Moved a e { e with store := s } :=
  of_rows rfl (e.store.rows_of_setMethodExpiry h) rfl

theorem afterStatusWrite {e : Engine} {id : Ident} {old : PaymentStatus}
    {u : Ledger.StatusRequest} {p' : Payment} {s' : Store} {w : StatusWrite} {t : Instant}
    (hs : e.store.savePaymentStatus id w t = .ok (p', s')) :
    Moved a e (e.afterStatusWrite id old u s') := by
  refine of_rows (by simp) (by simpa using e.store.rows_of_savePaymentStatus hs) ?_
  unfold Engine.afterStatusWrite
  rw [Engine.moves, post_events, ← Engine.moves, moves_announce]
  simp [BillingEvent.stateChange?, Engine.moves]

/-! ### The writes of attempts -/

theorem saveCharge {e : Engine} {c c' v : Charge} {t : Instant} {s' : Store}
    (hc : e.store.charge? c'.id = some c) (hs : c'.state = c.state)
    (h : e.store.saveCharge c' t = .ok (v, s')) : Moved a e { e with store := s' } := by
  refine of_same rfl (fun x => ?_) rfl
  rw [Store.stateOf_saveCharge e.store h x]
  split
  · next hx =>
    rw [← hx, Store.stateOf_eq_charge?, hc, hs]
    rfl
  · rfl

theorem createCharge {e : Engine} {d : ChargeDraft} {t : Instant} {c : Charge} {s' : Store}
    (h : e.store.createCharge d t = .ok (c, s')) : Moved a e { e with store := s' } := by
  refine of_moves (l := []) rfl (fun _ => by simp) fun _ x => ?_
  simp only [Store.stateOf_createCharge e.store h x, movesOf_nil]
  cases e.store.stateOf x with
  | some s => exact .refl _
  | none =>
    split
    · exact .born (.nil _)
    · exact .absent

theorem afterUpdate {e : Engine} {id : Ident} {c c' v : Charge} {s' : Store}
    (hc : e.store.charge? id = some c) (hmove : c.MoveBy a c')
    (hs : e.store.saveCharge c' e.now = .ok (v, s')) :
    Moved a e (e.afterUpdate id c.state v s') := by
  have hid : c'.id = id := hmove.1.trans (Store.id_of_charge? e.store hc)
  have hv : v.state = c'.state := (Store.saveCharge_read e.store hs).2.2.1
  -- the only attempt whose state may change is `id`, by one move announced with its event
  refine of_moves (l := if c.state = c'.state then [] else [(id, c.state, c'.state)])
    (by unfold Engine.afterUpdate; split <;> simp) (fun hh => ?_) fun _ x => ?_
  · unfold Engine.afterUpdate
    rw [hv]
    by_cases hne : c.state = c'.state
    · simp [hne]
    · simp [hne, moves_announce, hh, BillingEvent.stateChange?]
  · simp only [Engine.afterUpdate_store, Store.stateOf_saveCharge e.store hs x, hid]
    by_cases hx : id = x
    · subst hx
      rw [Store.stateOf_eq_charge?, hc, if_pos rfl]
      have hl : movesOf id (if c.state = c'.state then [] else [(id, c.state, c'.state)]) =
          if c.state = c'.state then [] else [(c.state, c'.state)] := by
        split <;> simp
      rw [hl]
      exact .stored (Moves.single hmove.2)
    · rw [if_neg hx]
      have hl : movesOf x (if c.state = c'.state then [] else [(id, c.state, c'.state)]) = [] := by
        split <;> simp [hx]
      rw [hl]
      exact .refl _

theorem keepsAt_update {change : Charge → Svc Charge} (hch : ∀ c, Svc.Reads (change c) (c.MoveBy a))
    (id : Ident) (e : Engine) : Svc.KeepsAt (Moved a) (Attempts.update id change) e := by
  intro r e' h
  rcases Attempts.update_cases hch h with rfl | ⟨c, c', v, s', hc, hmove, hs, -, rfl⟩
  · exact refl _
  · exact afterUpdate hc hmove hs

theorem keepsAt_withLock {α : Type} {key : String} {body : Svc α} {e : Engine}
    (h : Svc.KeepsAt (Moved a) body { e with held := key :: e.held }) :
    Svc.KeepsAt (Moved a) (Svc.withLock key body) e := by
  intro r e' hx
  rcases Svc.withLock_cases hx with ⟨-, rfl, -⟩ | ⟨-, e₁, hbody, rfl⟩
  · exact refl _
  · obtain ⟨ho, hm, hat⟩ := h _ _ hbody
    exact ⟨ho, hm, hat⟩

theorem keepsAt_stored_saveCharge {e : Engine} {c c' : Charge} {t : Instant}
    (hc : e.store.charge? c'.id = some c) (hs : c'.state = c.state) :
    Svc.KeepsAt (Moved a) (Svc.stored (e.store.saveCharge c' t)) e :=
  Svc.keepsAt_stored_of e fun _ _ h => saveCharge hc hs h

theorem keepsAt_stored_createCharge {e : Engine} {d : ChargeDraft} {t : Instant} :
    Svc.KeepsAt (Moved a) (Svc.stored (e.store.createCharge d t)) e :=
  Svc.keepsAt_stored_of e fun _ _ h => createCharge h

end Moved

end Engine

namespace Attempts

open Svc Engine Engine.Moved

/-! ### The registry, one operation at a time -/

section Quiet

/-! The operations that only make attempts, mark them or write beside them move nothing, so they
keep `Moved a` for every `a`. -/

variable {a : Option Actor}

theorem moved_claim (id : Ident) (e : Engine) : KeepsAt (Moved a) (claim id) e := by
  intro r e' h
  rcases claim_cases h with ⟨rfl, -⟩ | ⟨c, v, s', hc, -, -, hs, -, rfl⟩
  · exact .refl _
  · have hc' : e.store.charge? ({ c with status := some inFlight } : Charge).id = some c := by
      show e.store.charge? c.id = some c
      rw [Store.id_of_charge? e.store hc, hc]
    exact Moved.saveCharge hc' rfl hs

theorem moved_releaseClaim (id : Ident) (e : Engine) : KeepsAt (Moved a) (releaseClaim id) e :=
  keepsAt_update (fun c => reads_pure (Charge.moveBy_of_state (by split <;> rfl) (by split <;> rfl)))
    id e

theorem moved_linkPayment (id p : Ident) (e : Engine) : KeepsAt (Moved a) (linkPayment id p) e :=
  keepsAt_bind (keepsAt_update (fun c => reads_pure
    (Charge.moveBy_of_state (by split <;> rfl) (by split <;> rfl))) id e) fun _ _ _ => keepsAt_pure _

theorem moved_registerMethod (user : Ident) (gateway token : String) (e : Engine) :
    KeepsAt (Moved a) (registerMethod user gateway token) e := by
  unfold registerMethod
  refine keepsAt_bind_read (exec_store e) (keepsAt_bind_read (exec_now e) ?_)
  exact keepsAt_bind (keepsAt_of_exec (exec_setStore _ _)
    (of_rows rfl (e.store.rows_findOrCreateMethod _ _ _ _) rfl)) fun _ _ _ => keepsAt_pure _

theorem moved_updateMethodExpiry (method : Ident) (d : Date) (e : Engine) :
    KeepsAt (Moved a) (updateMethodExpiry method d) e := by
  unfold updateMethodExpiry
  refine keepsAt_bind_read (exec_store e) ?_
  split
  · exact keepsAt_of_exec (exec_setStore _ _) (Moved.setMethodExpiry ‹_›)
  · exact keepsAt_throw _

theorem moved_createAttemptFrom (d : ChargeDraft) (e : Engine) :
    KeepsAt (Moved a) (createAttemptFrom d) e := by
  refine keepsAt_withLock ?_
  unfold insertUnlessExists
  refine keepsAt_bind_read (exec_store _) ?_
  split
  · exact keepsAt_pure _
  · exact keepsAt_bind_read (exec_store _) (keepsAt_bind_read (exec_now _)
      keepsAt_stored_createCharge)

theorem moved_createAttempt (method parent : Ident) (chargeAt : Instant)
    (customAmount : Option Decimal) (retries : Option Int) (e : Engine) :
    KeepsAt (Moved a) (createAttempt method parent chargeAt customAmount retries) e :=
  keepsAt_bind_read (exec_policy e) (moved_createAttemptFrom _ e)

theorem moved_scheduleNext (charged : Charge) (sub : Option Subscription) (terms : Terms)
    (e : Engine) : KeepsAt (Moved a) (scheduleNext charged sub terms) e := by
  unfold scheduleNext
  simp only
  refine keepsAt_ite_throw ?_
  split
  · refine keepsAt_bind (reads_payment _).keepsAt fun p e₁ _ => ?_
    refine keepsAt_bind_read (exec_policy e₁) (keepsAt_bind_read (exec_now e₁) ?_)
    split
    · exact keepsAt_bind_read (exec_pure _ _) (moved_createAttemptFrom _ _)
    · exact keepsAt_throw_bind _
    · exact keepsAt_stop_bind _ _
  · exact keepsAt_throw _

theorem moved_reactivateLocked (id : Ident) (e : Engine) :
    KeepsAt (Moved a) (reactivateLocked id) e := by
  unfold reactivateLocked
  refine keepsAt_bind_read (exec_now e) (keepsAt_bind_read (exec_policy e) ?_)
  refine keepsAt_bind (reads_get id).keepsAt fun stopped e₁ hget => ?_
  have he₁ : e₁ = e := ((reads_get id) e _ _ hget).1
  subst he₁
  have hc : e₁.store.charge? stopped.id = some stopped := by
    rw [exec_get] at hget
    split at hget
    · next c hc =>
      cases hget
      rw [Store.id_of_charge? e₁.store hc, hc]
    · cases hget
  simp only
  refine keepsAt_ite_throw (keepsAt_ite_throw ?_)
  refine keepsAt_bind (reads_time _).keepsAt fun windowStart e₂ hwin => ?_
  have he₂ : e₂ = e₁ := ((reads_time _) e₁ _ _ hwin).1
  subst he₂
  refine keepsAt_ite_throw ?_
  refine keepsAt_bind_read (exec_store _) ?_
  split
  on_goal 1 => refine keepsAt_ite_throw ?_
  all_goals
    refine keepsAt_bind (reads_time _).keepsAt fun due e₃ hdue => ?_
    have he₃ : e₃ = e₂ := ((reads_time _) e₂ _ _ hdue).1
    subst he₃
    refine keepsAt_bind_read (exec_store _) ?_
    refine keepsAt_bind keepsAt_stored_createCharge fun fresh e₄ hfresh => ?_
    rw [exec_stored] at hfresh
    split at hfresh
    · next hs =>
      cases hfresh
      refine keepsAt_bind_read (exec_store _) ?_
      exact keepsAt_bind (keepsAt_stored_saveCharge (Store.charge?_createCharge e₃.store hs hc)
        (stopped.pushNote_state _)) fun _ _ _ => keepsAt_pure _
    · cases hfresh

theorem moved_reactivateAfterSystemStop (id : Ident) (e : Engine) :
    KeepsAt (Moved a) (reactivateAfterSystemStop id) e := by
  unfold reactivateAfterSystemStop
  refine keepsAt_bind (reads_get id).keepsAt fun c e₁ _ => ?_
  refine keepsAt_bind (reads_canBeStopped c).keepsAt fun b e₂ _ => ?_
  simp only
  exact keepsAt_ite_throw (keepsAt_withLock (moved_reactivateLocked id _))

end Quiet

/-! The operations that move an attempt, each for its actor. -/

theorem moved_transition (id : Ident) (t : ChargeState) (actor : Actor) (u : ChargeUpdate)
    (e : Engine) : KeepsAt (Moved (some actor)) (transition id t actor u) e :=
  keepsAt_update (fun c => reads_ite
    (fun h => reads_pure ⟨c.moveTo_id t u, fun _ => ⟨actor, rfl, by rw [c.moveTo_state t u]; exact h⟩⟩)
    fun _ => reads_throw _) id e

theorem moved_rearmFailed (id : Ident) (e : Engine) :
    KeepsAt (Moved (some .system)) (rearmFailed id) e := by
  unfold rearmFailed
  refine keepsAt_bind_read (exec_policy e) (keepsAt_update (fun c => ?_) id e)
  refine reads_ite (fun _ => reads_throw_bind _) fun hstate =>
    reads_ite (fun _ => reads_pure (Charge.moveBy_of_state rfl rfl)) fun _ => ?_
  have hfailed : c.state = .chargeFailed := by simpa using hstate
  exact reads_bind reads_now fun _ _ => reads_bind (reads_time _) fun _ _ => reads_pure
    ⟨rfl, fun _ => ⟨.system, rfl, by simp [hfailed, ChargeState.allows, ChargeState.step]⟩⟩

theorem moved_stopByUser (id : Ident) (e : Engine) :
    KeepsAt (Moved (some .user)) (stopByUser id) e := by
  unfold stopByUser
  refine keepsAt_bind (reads_get id).keepsAt fun c e₁ _ => ?_
  refine keepsAt_bind (reads_canBeStoppedByUser c).keepsAt fun b e₂ _ => ?_
  simp only
  exact keepsAt_ite_throw (moved_transition _ _ _ _ e₂)

theorem moved_stopByAdmin (id : Ident) (reason : String) (e : Engine) :
    KeepsAt (Moved (some .admin)) (stopByAdmin id reason) e := by
  unfold stopByAdmin
  refine keepsAt_bind (reads_get id).keepsAt fun c e₁ _ => ?_
  refine keepsAt_bind (reads_canBeStopped c).keepsAt fun b e₂ _ => ?_
  simp only
  exact keepsAt_ite_throw (moved_transition _ _ _ _ e₂)

theorem moved_reactivateByUser (id : Ident) (e : Engine) :
    KeepsAt (Moved (some .user)) (reactivateByUser id) e := by
  unfold reactivateByUser
  refine keepsAt_bind (reads_get id).keepsAt fun c e₁ _ => ?_
  refine keepsAt_bind (reads_canBeStoppedByUser c).keepsAt fun b e₂ _ => ?_
  simp only
  refine keepsAt_ite_throw (keepsAt_update (fun c => (reactivateByUser_change c).mono ?_) id e₂)
  rintro _ ⟨hstate, rfl⟩
  exact ⟨rfl, fun _ => ⟨.user, rfl, by simp [hstate, ChargeState.allows, ChargeState.step]⟩⟩

end Attempts

namespace RegistryOp

/-- The actor on whose behalf an operation of the registry moves attempts; `none` for the
operations that move none. -/
def actor? : RegistryOp → Option Actor
  | .transition _ _ actor _ => some actor
  | .rearmFailed _ => some .system
  | .stopByUser _ | .reactivateByUser _ => some .user
  | .stopByAdmin _ _ => some .admin
  | _ => none

open Svc Attempts in
theorem moved_act (op : RegistryOp) (e : Engine) : KeepsAt (Engine.Moved op.actor?) op.act e := by
  cases op with
  | registerMethod user gateway token => exact keepsAt_drop (moved_registerMethod _ _ _ e)
  | updateMethodExpiry method d => exact moved_updateMethodExpiry _ _ e
  | createAttempt method parent chargeAt customAmount retries =>
    exact keepsAt_drop (moved_createAttempt _ _ _ _ _ e)
  | createAttemptFrom d => exact keepsAt_drop (moved_createAttemptFrom _ e)
  | scheduleNext id sub terms =>
    exact keepsAt_bind (reads_get id).keepsAt fun c e₁ _ =>
      keepsAt_drop (moved_scheduleNext c sub terms e₁)
  | transition id t actor u => exact keepsAt_drop (moved_transition _ _ _ _ e)
  | claim id => exact keepsAt_drop (moved_claim _ e)
  | linkPayment id payment => exact keepsAt_drop (moved_linkPayment _ _ e)
  | rearmFailed id => exact keepsAt_drop (moved_rearmFailed _ e)
  | stopByUser id => exact keepsAt_drop (moved_stopByUser _ e)
  | stopByAdmin id reason => exact keepsAt_drop (moved_stopByAdmin _ _ e)
  | reactivateAfterSystemStop id => exact keepsAt_drop (moved_reactivateAfterSystemStop _ e)
  | reactivateByUser id => exact keepsAt_drop (moved_reactivateByUser _ e)

end RegistryOp

/-- The actor on whose behalf an operation moves attempts: the registry's, and the system for
charge runs and callbacks; `none` for the operations that move none. -/
def Op.actor? : Op → Option Actor
  | .registry op => op.actor?
  | .run _ | .resolvePending _ _ _ => some .system
  | _ => none

/-- The operations under which attempts follow the table: all but the direct write of an
attempt. -/
def WritesNoAttempt (_ : Engine) (op : Op) : Prop := ∀ c, op ≠ .putCharge c

namespace Engine.Moved

open Svc

variable {a : Option Actor}

theorem keepsAt_updateStatus (id : Ident) (u : Ledger.StatusRequest) (e : Engine) :
    KeepsAt (Moved a) (Ledger.updateStatus id u) e := by
  intro r e' h
  rcases Ledger.updateStatus_cases h with ⟨rfl, -, -⟩ | ⟨c, rfl, -⟩ |
    ⟨p, p', s', -, -, -, hs, -, rfl⟩
  · exact refl _
  · exact tally e c
  · exact afterStatusWrite hs

theorem systemUpdates : Run.Updates (Moved (some .system)) :=
  ⟨fun id t u e => Attempts.moved_transition id t .system u e, Attempts.moved_linkPayment,
    Attempts.moved_rearmFailed⟩

theorem keepsAt_run (ids : Option (List Ident)) (e : Engine) :
    KeepsAt (Moved (some .system)) (Run.run ids) e := by
  have hcreate : ∀ e d p s, e.store.createPayment d e.now = (p, s) →
      Moved (some .system) e { e with store := s } := fun _ _ _ _ h => createPayment h
  exact Run.keepsAt_run (fun c e => Run.keepsAt_process (fun e => Attempts.moved_claim c.id e)
    (Run.keepsAt_prepare systemUpdates appendAudit hcreate)
    (fun c e => Attempts.moved_releaseClaim c.id e) afterCharge
    (Run.keepsAt_applyReply systemUpdates keepsAt_updateStatus tally) appendAudit tally e)
    tally ids e

theorem step {e e' : Engine} {op : Op} (hA : WritesNoAttempt e op) (h : op.Step e e') :
    Moved op.actor? e e' := by
  obtain ⟨r, hx⟩ := h
  cases op with
  | issueIdent =>
    cases hx
    exact of_rows rfl rfl rfl
  | setClock t =>
    cases hx
    exact of_rows rfl rfl rfl
  | setGateway g =>
    cases hx
    exact of_rows rfl rfl rfl
  | seedPayment p =>
    cases hx
    exact of_rows rfl rfl rfl
  | createPayment d =>
    cases hx
    exact createPayment (p := (e.store.createPayment d e.now).1) rfl
  | putCharge c => exact absurd rfl (hA c)
  | registry op => exact op.moved_act e r e' hx
  | releaseClaim id => exact keepsAt_drop (Attempts.moved_releaseClaim id e) r e' hx
  | updateStatus id u => exact keepsAt_drop (keepsAt_updateStatus id u e) r e' hx
  | run ids => exact keepsAt_drop (keepsAt_run ids e) r e' hx
  | resolvePending id succeeded resp =>
    exact keepsAt_drop (Run.keepsAt_resolvePending systemUpdates appendAudit
      keepsAt_updateStatus tally id succeeded resp e) r e' hx
  | refreshExpiry g =>
    exact keepsAt_drop (Expiry.keepsAt_refresh (fun _ _ _ _ hs => setMethodExpiry hs) tally g e)
      r e' hx

end Engine.Moved

open ChargeState

/-- The history of one attempt over a run of operations: before each operation it is stored in
some state or not stored, and each operation takes it along the course its actor permits,
announcing its moves. -/
inductive Trail : Option ChargeState → List Op → List (ChargeState × ChargeState) →
    Option ChargeState → Prop where
  | nil (s : Option ChargeState) : Trail s [] [] s
  | cons {s t u : Option ChargeState} {l₁ l₂ : List (ChargeState × ChargeState)} {op : Op}
      {ops : List Op} (h₁ : Course (Permits op.actor?) s l₁ t) (h₂ : Trail t ops l₂ u) :
      Trail s (op :: ops) (l₁ ++ l₂) u

theorem Trail.course {s t : Option ChargeState} {ops : List Op}
    {l : List (ChargeState × ChargeState)} (h : Trail s ops l t) : Course Allowed s l t := by
  induction h with
  | nil s => exact .refl s
  | cons h₁ _ ih => exact (h₁.mono fun _ _ h => h.allowed).trans ih

namespace Course

theorem moves_of_born {ok : ChargeState → ChargeState → Prop} {t : ChargeState}
    {l : List (ChargeState × ChargeState)} (h : Course ok none l (some t)) : Moves ok .active l t := by
  cases h with
  | born h => exact h

theorem of_isClosed {s : ChargeState} {t : Option ChargeState} {l : List (ChargeState × ChargeState)}
    (hs : s.isClosed) (h : Course Allowed (some s) l t) : t = some s ∧ l = [] := by
  cases h with
  | stored h =>
    obtain ⟨hl, rfl⟩ := h.of_isClosed hs
    exact ⟨rfl, hl⟩

end Course

namespace Engine.Moved

theorem reach {e e' : Engine} {ops : List Op} (hrun : Reach WritesNoAttempt e ops e') :
    e'.outlets = e.outlets ∧ (e.heard = true → e.moves <+: e'.moves ∧
      ∀ x, Trail (e.store.stateOf x) ops (movesOf x (e.newMoves e')) (e'.store.stateOf x)) := by
  induction hrun with
  | nil e =>
    refine ⟨rfl, fun _ => ⟨List.prefix_refl _, fun x => ?_⟩⟩
    rw [newMoves_of_append (List.append_nil _).symm]
    exact .nil _
  | cons hA hstep _ ih =>
    have h₁ := step hA hstep
    obtain ⟨ho, hrest⟩ := ih
    refine ⟨ho.trans h₁.outlets, fun hh => ?_⟩
    have hh₁ := (heard_of_outlets h₁.outlets).trans hh
    obtain ⟨hpre, htrail⟩ := hrest hh₁
    refine ⟨(h₁.moves hh).trans hpre, fun x => ?_⟩
    rw [newMoves_trans (h₁.moves hh) hpre, movesOf_append]
    exact .cons (h₁.attempts hh x) (htrail x)

end Engine.Moved

open Engine in
/-- Over every run of operations but the direct write of an attempt, from an engine whose sink
hears every event: the moves announced before are kept; each attempt follows a trail through the
operations, every operation moving it only by moves of the table for the operation's actor and
announcing each move once; an attempt born in the run is born active, so its moves chain from
`active` to its state; and a charged, system-stopped or administrator-stopped attempt neither
moves nor announces a move. -/
theorem attempts_move_along_table {e e' : Engine} {ops : List Op}
    (hrun : Reach WritesNoAttempt e ops e') (hheard : e.heard = true) :
    e.moves <+: e'.moves ∧
      (∀ x, Trail (e.store.stateOf x) ops (movesOf x (e.newMoves e')) (e'.store.stateOf x)) ∧
      (∀ x t, e.store.stateOf x = none → e'.store.stateOf x = some t →
        Moves Allowed .active (movesOf x (e.newMoves e')) t) ∧
      (∀ x s, e.store.stateOf x = some s → s.isClosed = true →
        e'.store.stateOf x = some s ∧ movesOf x (e.newMoves e') = []) := by
  obtain ⟨hpre, htrail⟩ := (Moved.reach hrun).2 hheard
  refine ⟨hpre, htrail, fun x t hx ht => ?_, fun x s hx hs => ?_⟩
  · have hcourse := (htrail x).course
    rw [hx, ht] at hcourse
    exact hcourse.moves_of_born
  · have hcourse := (htrail x).course
    rw [hx] at hcourse
    exact hcourse.of_isClosed hs

open Engine in
/-- The law over one run: a user stops an active attempt. -/
theorem attempts_move_along_table_after_user_stop :
    let p₀ : Payment :=
      { id := Ident.ofSerial 1, user := ⟨0⟩, gateway := "test", status := .paid,
        amount := ⟨1999, 2, false⟩, paidAt := none, subscription := none, catalogItem := none,
        address := none, isRecurrent := false, parent := none, note := none,
        errorMessage := none, created := Instant.epoch, updated := Instant.epoch }
    let c₀ : Charge := Charge.ofDraft (Ident.ofSerial 3)
      { method := Ident.ofSerial 2, parent := p₀.id, chargeAt := Instant.epoch, retries := 2,
        customAmount := none, renewalItem := none, note := none } "tok" Instant.epoch
    let e₀ : Engine :=
      { now := Instant.epoch, store := { payments := [p₀], rows := [⟨c₀, 1⟩], seq := 1, serial := 3 } }
    let ops : List Op := [.registry (.stopByUser c₀.id)]
    let e₁ : Engine := match (Op.registry (.stopByUser c₀.id)).act.exec e₀ with
      | .ok (_, e) => e
      | .error _ => e₀
    Reach WritesNoAttempt e₀ ops e₁ ∧ e₀.heard = true ∧
      e₀.moves <+: e₁.moves ∧
      (∀ x, Trail (e₀.store.stateOf x) ops (movesOf x (e₀.newMoves e₁)) (e₁.store.stateOf x)) ∧
      (∀ x t, e₀.store.stateOf x = none → e₁.store.stateOf x = some t →
        Moves Allowed .active (movesOf x (e₀.newMoves e₁)) t) ∧
      (∀ x s, e₀.store.stateOf x = some s → s.isClosed = true →
        e₁.store.stateOf x = some s ∧ movesOf x (e₀.newMoves e₁) = []) := by
  intro p₀ c₀ e₀ ops e₁
  have hrun : Reach WritesNoAttempt e₀ ops e₁ := .cons (fun _ h => by cases h) ⟨_, rfl⟩ (.nil _)
  have hheard : e₀.heard = true := rfl
  exact ⟨hrun, hheard, attempts_move_along_table hrun hheard⟩

end Rebill
