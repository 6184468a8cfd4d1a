import Rebill.Service.LockTable

/-!
# The invariant of the lock table

Whatever interleaving of `acquire` and `release` calls runs on the lock, two facts hold of every
state it reaches (`Wf`), and every action of every call keeps both.

The table's side (`Counted`): every reference a call holds is to the slot the table lists for the
call's key; the listed slots are one per key, all made before `fresh`; and a listed slot's count
is the table's reference plus one for each call that refers to it. A lookup of an unlisted key
lists the fresh slot, which no call refers to yet; a call that drops its reference takes one off
its slot's count; and `release`'s check removes a key only when its slot counts one, which by the
count means that no call refers to it. So no reference is ever left to a slot the table has
forgotten.

The mutexes' side (`Granted`): a slot's mutex is granted to the call holding its lease or to one
whose timer fired there; each holder is the call its mutex is granted to; and a line holds, once
each, calls waiting there or timed out there. Nothing here reads how a mutex is made: every
move of one is read off the laws of `Mutex`, so both sides hold for every mutex that keeps them.
The one delicate move is `Granted.handOver`: the call that has the mutex lets it go, or drops its
wait after it was handed it, the first call left in line gets it, and a waiting call then holds
the lease, while one whose timer fired keeps the mutex until it drops its wait.

`Reachable.wf` gives both for every state reached from the empty table.
-/

namespace Rebill

namespace LockTable

variable {M : Mutex} {σ : LockTable M} {c d : Nat} {x y : Call} {key : String} {ms s t : Nat}

/-! ## Calls and the references they hold -/

@[simp] theorem call?_setSlot (s : Nat) (x : Slot M) : (σ.setSlot s x).call? = σ.call? := rfl

@[simp] theorem call?_setMutex (s : Nat) (m : M.State) : (σ.setMutex s m).call? = σ.call? := rfl

@[simp] theorem call?_setKey (key : String) (v : Option Nat) :
    (σ.setKey key v).call? = σ.call? := rfl

theorem lt_of_call? (hc : σ.call? c = some x) : c < σ.calls.length :=
  (List.getElem?_eq_some_iff.1 hc).1

theorem users_setCall (hc : σ.call? c = some x) (y : Call) (s : Nat) :
    (σ.setCall c y).users s + (if x.slot? = some s then 1 else 0) =
      σ.users s + (if y.slot? = some s then 1 else 0) := by
  obtain ⟨hlt, hx⟩ := List.getElem?_eq_some_iff.1 hc
  have hle : (if x.slot? = some s then 1 else 0) ≤ σ.users s := by
    split
    · exact List.countP_pos_iff.2 ⟨x, List.mem_of_getElem? hc, by simpa⟩
    · exact Nat.zero_le _
  simp only [users, calls_setCall, List.countP_set hlt, hx, beq_iff_eq] at hle ⊢
  omega

theorem users_setCall_of_slot? (hc : σ.call? c = some x) (hy : y.slot? = x.slot?) (s : Nat) :
    (σ.setCall c y).users s = σ.users s := by
  have h := users_setCall hc y s
  rw [hy] at h
  omega

theorem call?_setCall_self (hlt : c < σ.calls.length) (x : Call) :
    (σ.setCall c x).call? c = some x := by
  rw [call?_setCall, if_pos rfl, if_pos hlt]

theorem refers_setCall (hc : σ.call? c = some x) (y : Call) (d : Nat) (key : String) (s : Nat) :
    (σ.setCall c y).Refers d key s ↔
      if d = c then y.clone? = some (key, s) else σ.Refers d key s := by
  unfold Refers
  rw [call?_setCall_of hc]
  split <;> simp

theorem refers_setCall_of_clone? (hc : σ.call? c = some x) (hy : y.clone? = x.clone?)
    (d : Nat) (key : String) (s : Nat) : (σ.setCall c y).Refers d key s ↔ σ.Refers d key s := by
  rw [refers_setCall hc]
  split
  · subst d
    simp [Refers, hc, hy]
  · rfl

theorem slot?_eq_of_clone? (hy : y.clone? = x.clone?) : y.slot? = x.slot? := by
  simp [Call.slot?, hy]

theorem slot?_of_clone? {p : Option (String × Nat)} (hx : x.clone? = p) :
    x.slot? = p.map Prod.snd := by
  simp [Call.slot?, hx]

/-! ## The table's side: references are listed and counted -/

/-- Every reference a call holds is to the slot the table lists for its key; the listed slots
were made below `fresh`, one for each key; and a listed slot counts the table's reference and
one for each call that holds one. -/
structure Counted (σ : LockTable M) : Prop where
  listed : ∀ c key s, σ.Refers c key s → σ.table key = some s
  below : ∀ key s, σ.table key = some s → s < σ.fresh
  distinct : ∀ k₁ k₂ s, σ.table k₁ = some s → σ.table k₂ = some s → k₁ = k₂
  counted : ∀ key s, σ.table key = some s → (σ.slot s).refs = σ.users s + 1

theorem Counted.fresh_unused (h : σ.Counted) (c : Nat) (key : String) :
    ¬ σ.Refers c key σ.fresh := fun hr =>
  Nat.lt_irrefl _ (h.below key _ (h.listed c key _ hr))

theorem Counted.users_fresh (h : σ.Counted) : σ.users σ.fresh = 0 := by
  simp only [users, List.countP_eq_zero, beq_iff_eq]
  intro x hx hslot
  obtain ⟨c, hc⟩ := List.getElem?_of_mem hx
  obtain ⟨key, hkey⟩ : ∃ key, x.clone? = some (key, σ.fresh) := by
    cases hclone : x.clone? with
    | none => simp [Call.slot?, hclone] at hslot
    | some p =>
      simp only [Call.slot?, hclone, Option.map_some, Option.some.injEq] at hslot
      exact ⟨p.1, by rw [← hslot]⟩
  exact h.fresh_unused c key (by simp [Refers, call?, hc, hkey])

theorem Counted.setSlot {z : Slot M} (h : σ.Counted) (hz : z.refs = (σ.slot s).refs) :
    (σ.setSlot s z).Counted where
  listed c key t hr := h.listed c key t hr
  below := h.below
  distinct := h.distinct
  counted key t ht := by
    rw [slot_setSlot, users_setSlot]
    split
    · subst t
      rw [hz]
      exact h.counted key s ht
    · exact h.counted key t ht

theorem Counted.setMutex (h : σ.Counted) (s : Nat) (m : M.State) : (σ.setMutex s m).Counted :=
  h.setSlot rfl

theorem Counted.setCall (h : σ.Counted) (hc : σ.call? c = some x) (hy : y.clone? = x.clone?) :
    (σ.setCall c y).Counted where
  listed d key t hr := h.listed d key t ((refers_setCall_of_clone? hc hy d key t).1 hr)
  below := h.below
  distinct := h.distinct
  counted key t ht := by
    rw [slot_setCall, users_setCall_of_slot? hc (slot?_eq_of_clone? hy)]
    exact h.counted key t ht

theorem users_pos_of_refers (hr : σ.Refers c key s) : 0 < σ.users s := by
  unfold Refers at hr
  obtain ⟨x, hc, hx⟩ := Option.bind_eq_some_iff.1 hr
  exact List.countP_pos_iff.2 ⟨x, List.mem_of_getElem? hc, by simp [Call.slot?, hx]⟩

/-! ## Handing the mutex on -/

@[simp] theorem call?_unref (s : Nat) : (σ.unref s).call? = σ.call? := rfl

theorem call?_grant (d e : Nat) :
    (σ.grant d).call? e = if e = d then (σ.call? d).map Call.granted else σ.call? e := by
  unfold grant
  split
  · next x hx =>
    rw [call?_setCall_of hx]
    split
    · subst e
      simp [hx]
    · rfl
  · next hx =>
    split
    · subst e
      simp [hx]
    · rfl

@[simp] theorem length_grant (d : Nat) : (σ.grant d).calls.length = σ.calls.length := by
  unfold grant
  split <;> simp

@[simp] theorem slot_grant (d t : Nat) : (σ.grant d).slot t = σ.slot t := by
  unfold grant
  split <;> rfl

@[simp] theorem table_grant (d : Nat) : (σ.grant d).table = σ.table := by
  unfold grant
  split <;> rfl

@[simp] theorem fresh_grant (d : Nat) : (σ.grant d).fresh = σ.fresh := by
  unfold grant
  split <;> rfl

theorem Counted.grant (h : σ.Counted) (d : Nat) : (σ.grant d).Counted := by
  unfold LockTable.grant
  split
  · next x hx => exact h.setCall hx (Call.clone?_granted x)
  · exact h

theorem refers_grant (d e : Nat) (key : String) (t : Nat) :
    (σ.grant d).Refers e key t ↔ σ.Refers e key t := by
  unfold Refers
  rw [call?_grant]
  split
  · subst e
    cases σ.call? d <;> simp
  · rfl

@[simp] theorem length_wake (s : Nat) : (σ.wake s).calls.length = σ.calls.length := by
  unfold wake
  split <;> simp

@[simp] theorem slot_wake (s t : Nat) : (σ.wake s).slot t = σ.slot t := by
  unfold wake
  split <;> simp

@[simp] theorem table_wake (s : Nat) : (σ.wake s).table = σ.table := by
  unfold wake
  split <;> simp

@[simp] theorem fresh_wake (s : Nat) : (σ.wake s).fresh = σ.fresh := by
  unfold wake
  split <;> simp

theorem refers_wake (s e : Nat) (key : String) (t : Nat) :
    (σ.wake s).Refers e key t ↔ σ.Refers e key t := by
  unfold wake
  split
  · exact refers_grant _ _ _ _
  · rfl

theorem Counted.wake (h : σ.Counted) (s : Nat) : (σ.wake s).Counted := by
  unfold LockTable.wake
  split
  · exact h.grant _
  · exact h

theorem Counted.pass (h : σ.Counted) (s : Nat) : (σ.pass s).Counted :=
  (h.setMutex s _).wake s

/-! ## A call begins -/

@[simp] theorem table_begin (key : String) (ms : Nat) :
    (σ.begin key ms).table = (σ.entry key).1.table := rfl

@[simp] theorem fresh_begin (key : String) (ms : Nat) :
    (σ.begin key ms).fresh = (σ.entry key).1.fresh := rfl

@[simp] theorem slot_begin (key : String) (ms t : Nat) :
    (σ.begin key ms).slot t = if t = (σ.entry key).2 then
      { (σ.entry key).1.slot (σ.entry key).2 with
        refs := ((σ.entry key).1.slot (σ.entry key).2).refs + 1 }
      else (σ.entry key).1.slot t :=
  slot_retain _ _

theorem calls_begin (key : String) (ms : Nat) :
    (σ.begin key ms).calls = σ.calls ++ [.cloned key ms (σ.entry key).2] := rfl

theorem call?_begin (key : String) (ms : Nat) (d : Nat) :
    (σ.begin key ms).call? d =
      if d < σ.calls.length then σ.call? d
      else if d = σ.calls.length then some (.cloned key ms (σ.entry key).2) else none := by
  simp only [call?, calls_begin, List.getElem?_append, List.getElem?_singleton]
  by_cases hd : d < σ.calls.length
  · simp [hd]
  · have hz : d - σ.calls.length = 0 ↔ d = σ.calls.length := by omega
    simp [hd, hz]

theorem users_begin (key : String) (ms : Nat) (t : Nat) :
    (σ.begin key ms).users t = σ.users t + if (σ.entry key).2 = t then 1 else 0 := by
  simp [users, calls_begin, List.countP_append, Call.slot?, Call.clone?]

theorem refers_begin (key : String) (ms : Nat) (d : Nat) (k : String) (t : Nat) :
    (σ.begin key ms).Refers d k t ↔
      σ.Refers d k t ∨ (d = σ.calls.length ∧ k = key ∧ t = (σ.entry key).2) := by
  unfold Refers
  rw [call?_begin]
  by_cases hd : d < σ.calls.length
  · have hne : d ≠ σ.calls.length := by omega
    simp [hd, hne]
  · have hnone : σ.call? d = none := List.getElem?_eq_none (by omega)
    by_cases he : d = σ.calls.length
    · subst he
      simp [hnone, Call.clone?, eq_comm]
    · simp [hd, he, hnone]

theorem entry_of_some (h : σ.table key = some s) : σ.entry key = (σ, s) := by
  simp [entry, h]

theorem entry_of_none (h : σ.table key = none) :
    (σ.entry key).2 = σ.fresh ∧ (σ.entry key).1.fresh = σ.fresh + 1 ∧
      (∀ k, (σ.entry key).1.table k = if k = key then some σ.fresh else σ.table k) ∧
      ∀ t, (σ.entry key).1.slot t = if t = σ.fresh then { refs := 1 } else σ.slot t := by
  simp [entry, h, slot, setSlot, setKey]

theorem Counted.begin (h : σ.Counted) (key : String) (ms : Nat) : (σ.begin key ms).Counted := by
  cases hk : σ.table key with
  | some s =>
    have he := entry_of_some hk
    refine ⟨fun d k t hr => ?_, ?_, ?_, fun k t ht => ?_⟩
    · rcases (refers_begin key ms d k t).1 hr with hr | ⟨-, rfl, rfl⟩
      · simpa [he] using h.listed d k t hr
      · simpa [he] using hk
    · simpa [he] using h.below
    · simpa [he] using h.distinct
    · simp only [table_begin, he] at ht
      rw [slot_begin, users_begin, he]
      by_cases hts : t = s
      · subst t
        simp [h.counted k s ht]
      · simp [hts, Ne.symm hts, h.counted k t ht]
  | none =>
    obtain ⟨hs, hfresh, htable, hslot⟩ := entry_of_none hk
    refine ⟨fun d k t hr => ?_, fun k t ht => ?_, fun k₁ k₂ t h₁ h₂ => ?_, fun k t ht => ?_⟩
    · rw [table_begin, htable]
      rcases (refers_begin key ms d k t).1 hr with hr | ⟨-, rfl, rfl⟩
      · have hl := h.listed d k t hr
        have hne : k ≠ key := fun hkk => by rw [hkk, hk] at hl; cases hl
        simp [hne, hl]
      · simp [hs]
    · rw [table_begin, htable] at ht
      rw [fresh_begin, hfresh]
      split at ht
      · cases ht
        exact Nat.lt_succ_self _
      · exact Nat.lt_succ_of_lt (h.below k t ht)
    · rw [table_begin, htable] at h₁ h₂
      split at h₁ <;> split at h₂
      · simp_all
      · cases h₁
        exact absurd (h.below k₂ _ h₂) (Nat.lt_irrefl _)
      · cases h₂
        exact absurd (h.below k₁ _ h₁) (Nat.lt_irrefl _)
      · exact h.distinct k₁ k₂ t h₁ h₂
    · rw [table_begin, htable] at ht
      rw [slot_begin, users_begin, hs, hslot]
      split at ht
      · cases ht
        simp [h.users_fresh]
      · have hne : t ≠ σ.fresh := Nat.ne_of_lt (h.below k t ht)
        simp [hne, Ne.symm hne, hslot, h.counted k t ht]

/-! ## A call lets its reference go -/

theorem Counted.drop (h : σ.Counted) (hr : σ.Refers c key s) (hy : y.clone? = none) :
    ((σ.unref s).setCall c y).Counted := by
  obtain ⟨x, hc, hx⟩ := Option.bind_eq_some_iff.1 hr
  have hc' : (σ.unref s).call? c = some x := by simpa using hc
  refine ⟨fun d k t hr => ?_, h.below, h.distinct, fun k t ht => ?_⟩
  · rw [refers_setCall hc'] at hr
    split at hr
    · simp [hy] at hr
    · simpa using h.listed d k t hr
  · have hu := users_setCall hc' y t
    rw [slot?_of_clone? hy, slot?_of_clone? hx] at hu
    simp only [table_setCall, table_unref] at ht
    have hcount := h.counted k t ht
    rw [slot_setCall, slot_unref]
    by_cases hts : t = s
    · subst t
      simp at hu ⊢
      omega
    · simp [hts, Ne.symm hts] at hu ⊢
      omega

theorem Counted.forgetKey (h : σ.Counted) (key : String) : (σ.forgetKey key).Counted := by
  unfold LockTable.forgetKey
  split
  · next s hs =>
    split
    · next hone =>
      -- the slot counts only the table's reference, so no call refers to it
      have hfree : ∀ d k, ¬ σ.Refers d k s := fun d k hr => by
        have := users_pos_of_refers hr
        have := h.counted key s hs
        omega
      refine ⟨fun d k t hr => ?_, fun k t ht => ?_, fun k₁ k₂ t h₁ h₂ => ?_, fun k t ht => ?_⟩
      · have hl := h.listed d k t hr
        have hne : k ≠ key := fun e => by
          subst e
          rw [hs] at hl
          cases hl
          exact hfree d k hr
        simpa [hne] using hl
      · simp only [table_setKey, table_unref, fresh_setKey, fresh_unref] at ht ⊢
        split at ht
        · cases ht
        · exact h.below k t ht
      · simp only [table_setKey, table_unref] at h₁ h₂
        split at h₁
        · cases h₁
        · split at h₂
          · cases h₂
          · exact h.distinct k₁ k₂ t h₁ h₂
      · simp only [table_setKey, table_unref] at ht
        split at ht
        · cases ht
        · next hk =>
          have hne : t ≠ s := fun e => hk (h.distinct k key t ht (e ▸ hs))
          simp [hne, h.counted k t ht]
    · exact h
  · exact h

theorem Counted.lockOwned (h : σ.Counted) (hc : σ.call? c = some (.cloned key ms s)) :
    (σ.lockOwned c key ms s).Counted := by
  dsimp only [LockTable.lockOwned]
  split <;> refine Counted.setCall ?_ hc rfl <;> exact h.setMutex _ _

theorem Counted.dropFuture (h : σ.Counted) (hc : σ.call? c = some (.expired key ms s)) :
    (σ.dropFuture c key ms s).Counted := by
  have hr : σ.Refers c key s := by simp [Refers, hc, Call.clone?]
  have he := h.setMutex s (M.cancel (σ.slot s).mutex c)
  dsimp only [LockTable.dropFuture]
  split
  · exact (he.wake s).drop ((refers_wake _ _ _ _).2 hr) rfl
  · exact he.drop hr rfl

theorem Counted.dropGuard (h : σ.Counted) (hc : σ.call? c = some (.holding key s)) :
    (σ.dropGuard c key s).Counted := by
  have hr : σ.Refers c key s := by simp [Refers, hc, Call.clone?]
  exact (h.pass s).drop ((refers_wake s c key s).2 hr) rfl

theorem Counted.forget (h : σ.Counted) (hc : σ.call? c = some (.releasing key)) :
    (σ.forget c key).Counted := by
  have hc' : (σ.forgetKey key).call? c = some (.releasing key) := by
    unfold LockTable.forgetKey
    split
    · split <;> simpa using hc
    · exact hc
  exact (h.forgetKey key).setCall hc' rfl

/-! ## The mutexes' side: who has a mutex and who waits for it -/

end LockTable

namespace Call

/-- A call that may stand in a slot's line: one waiting there, or one whose timer fired there. -/
def InLine (s : Nat) : Call → Prop
  | .waiting _ _ t | .expired _ _ t => t = s
  | _ => False

/-- A call a slot's mutex may be granted to: the holder of the lease, or a call whose timer fired
there. -/
def MayOwn (s : Nat) : Call → Prop
  | .holding _ t | .expired _ _ t => t = s
  | _ => False

variable {x : Call} {s t : Nat}

theorem InLine.slot? (h : x.InLine s) : x.slot? = some s := by
  cases x <;> simp_all [InLine, Call.slot?, clone?]

theorem MayOwn.slot? (h : x.MayOwn s) : x.slot? = some s := by
  cases x <;> simp_all [MayOwn, Call.slot?, clone?]

theorem InLine.mayOwn_granted (h : x.InLine s) : x.granted.MayOwn s := by
  cases x <;> simp_all [InLine, MayOwn, granted]

theorem not_inLine_of_clone? (h : x.clone? = none) : ¬ x.InLine s := by
  cases x <;> simp_all [InLine, clone?]

theorem not_mayOwn_of_clone? (h : x.clone? = none) : ¬ x.MayOwn s := by
  cases x <;> simp_all [MayOwn, clone?]

end Call

namespace LockTable

variable {M : Mutex} {σ : LockTable M} {c d : Nat} {x y : Call} {key : String} {ms s t : Nat}

/-- A mutex is granted to the call holding its lease or to one whose timer fired there; every
holder of a lease is the call its mutex is granted to; a line holds calls waiting there or timed
out there, each once. -/
structure Granted (σ : LockTable M) : Prop where
  owned : ∀ s c, (σ.slot s).owner = some c → ∃ x, σ.call? c = some x ∧ x.MayOwn s
  holder : ∀ c key s, σ.call? c = some (.holding key s) → (σ.slot s).owner = some c
  queued : ∀ s c, c ∈ (σ.slot s).queue → ∃ x, σ.call? c = some x ∧ x.InLine s
  nodup : ∀ s, (σ.slot s).queue.Nodup

theorem Granted.owner_ne (h : σ.Granted) (hc : σ.call? c = some x) (hx : x.slot? ≠ some t) :
    (σ.slot t).owner ≠ some c := fun ho => by
  obtain ⟨z, hz, hown⟩ := h.owned t c ho
  rw [hc] at hz
  cases hz
  exact hx hown.slot?

theorem Granted.not_mem_queue (h : σ.Granted) (hc : σ.call? c = some x) (hx : x.slot? ≠ some t) :
    c ∉ (σ.slot t).queue := fun hq => by
  obtain ⟨z, hz, hline⟩ := h.queued t c hq
  rw [hc] at hz
  cases hz
  exact hx hline.slot?

theorem Granted.not_owner (h : σ.Granted) (hc : σ.call? c = some x) (hx : ∀ t, ¬ x.MayOwn t) :
    (σ.slot t).owner ≠ some c := fun ho => by
  obtain ⟨z, hz, hown⟩ := h.owned t c ho
  rw [hc] at hz
  cases hz
  exact hx t hown

theorem Granted.not_queued (h : σ.Granted) (hc : σ.call? c = some x) (hx : ∀ t, ¬ x.InLine t) :
    c ∉ (σ.slot t).queue := fun hq => by
  obtain ⟨z, hz, hline⟩ := h.queued t c hq
  rw [hc] at hz
  cases hz
  exact hx t hline

/-- A call that can own no mutex and stand in no line has none and stands in none. -/
theorem Granted.out (h : σ.Granted) (hc : σ.call? c = some x) (hown : ∀ t, ¬ x.MayOwn t)
    (hline : ∀ t, ¬ x.InLine t) : (∀ t, (σ.slot t).owner ≠ some c) ∧ ∀ t, c ∉ (σ.slot t).queue :=
  ⟨fun _ => h.not_owner hc hown, fun _ => h.not_queued hc hline⟩

/-- A call of one slot has no other slot's mutex and stands in no other slot's line. -/
theorem Granted.apart (h : σ.Granted) (hc : σ.call? c = some x) (hx : x.slot? = some s)
    (hts : t ≠ s) : (σ.slot t).owner ≠ some c ∧ c ∉ (σ.slot t).queue := by
  have hne : x.slot? ≠ some t := fun h' => hts (Option.some.inj (h'.symm.trans hx))
  exact ⟨h.owner_ne hc hne, h.not_mem_queue hc hne⟩

theorem Granted.of_mutexes {τ : LockTable M} (h : σ.Granted)
    (howner : ∀ t, (τ.slot t).owner = (σ.slot t).owner)
    (hqueue : ∀ t, (τ.slot t).queue = (σ.slot t).queue) (hcall : τ.call? = σ.call?) :
    τ.Granted where
  owned t e he := by
    rw [howner] at he
    rw [hcall]
    exact h.owned t e he
  holder e k t he := by
    rw [hcall] at he
    rw [howner]
    exact h.holder e k t he
  queued t e he := by
    rw [hqueue] at he
    rw [hcall]
    exact h.queued t e he
  nodup t := by
    rw [hqueue]
    exact h.nodup t

theorem Granted.unref (h : σ.Granted) (s : Nat) : (σ.unref s).Granted :=
  h.of_mutexes (owner_unref s) (queue_unref s) rfl

theorem Granted.setCall_out (h : σ.Granted) (hc : σ.call? c = some x)
    (hown : ∀ t, (σ.slot t).owner ≠ some c) (hline : ∀ t, c ∉ (σ.slot t).queue)
    (hy : y.clone? = none) : (σ.setCall c y).Granted where
  owned t e he := by
    have hne : e ≠ c := fun hec => hown t (hec ▸ he)
    rw [call?_setCall_of hc, if_neg hne]
    exact h.owned t e he
  holder e k t he := by
    rw [call?_setCall_of hc] at he
    split at he
    · cases he
      simp [Call.clone?] at hy
    · exact h.holder e k t he
  queued t e he := by
    have hne : e ≠ c := fun hec => hline t (hec ▸ he)
    rw [call?_setCall_of hc, if_neg hne]
    exact h.queued t e he
  nodup := h.nodup

theorem Granted.unref_setCall (h : (σ.setCall c y).Granted) (s : Nat) :
    ((σ.unref s).setCall c y).Granted :=
  h.of_mutexes (fun t => by simp only [slot_setCall, owner_unref])
    (fun t => by simp only [slot_setCall, queue_unref]) rfl

theorem Granted.leave (h : σ.Granted) {m : M.State} (hown : M.owner m = (σ.slot s).owner)
    (hline : M.line m = (σ.slot s).queue.erase c) : (σ.setMutex s m).Granted where
  owned t e he := by
    rw [owner_setMutex] at he
    split at he
    · subst t
      exact h.owned s e (hown ▸ he)
    · exact h.owned t e he
  holder e k t he := by
    rw [owner_setMutex]
    split
    · subst t
      rw [hown]
      exact h.holder e k s he
    · exact h.holder e k t he
  queued t e he := by
    rw [queue_setMutex] at he
    split at he
    · subst t
      rw [hline] at he
      exact h.queued s e (List.mem_of_mem_erase he)
    · exact h.queued t e he
  nodup t := by
    rw [queue_setMutex]
    split
    · subst t
      rw [hline]
      exact (h.nodup s).erase c
    · exact h.nodup t

theorem Granted.timerFires (h : σ.Granted) (hc : σ.call? c = some (.waiting key ms s)) :
    (σ.setCall c (.expired key ms s)).Granted where
  owned t e he := by
    obtain ⟨z, hz, hown⟩ := h.owned t e he
    have hne : e ≠ c := by
      rintro rfl
      rw [hc] at hz
      cases hz
      simp [Call.MayOwn] at hown
    rw [call?_setCall_of hc, if_neg hne]
    exact ⟨z, hz, hown⟩
  holder e k t he := by
    rw [call?_setCall_of hc] at he
    split at he
    · cases he
    · exact h.holder e k t he
  queued t e he := by
    obtain ⟨z, hz, hline⟩ := h.queued t e he
    rw [call?_setCall_of hc]
    split
    · subst e
      rw [hc] at hz
      cases hz
      exact ⟨_, rfl, hline⟩
    · exact ⟨z, hz, hline⟩
  nodup := h.nodup

theorem Granted.take (h : σ.Granted) (hc : σ.call? c = some (.cloned key ms s))
    (hfree : (σ.slot s).owner = none) {m : M.State} (hown : M.owner m = some c)
    (hline : M.line m = (σ.slot s).queue) :
    ((σ.setMutex s m).setCall c (.holding key s)).Granted := by
  obtain ⟨hnown, hnline⟩ := h.out hc (by simp [Call.MayOwn]) (by simp [Call.InLine])
  have hc' : (σ.setMutex s m).call? c = some (.cloned key ms s) := hc
  refine ⟨fun t e he => ?_, fun e k t he => ?_, fun t e he => ?_, fun t => ?_⟩
  · rw [call?_setCall_of hc']
    rw [slot_setCall, owner_setMutex] at he
    split at he
    · subst t
      rw [hown] at he
      cases he
      simp [Call.MayOwn]
    · have hne : e ≠ c := fun hec => hnown t (hec ▸ he)
      rw [if_neg hne]
      exact h.owned t e he
  · rw [call?_setCall_of hc'] at he
    rw [slot_setCall, owner_setMutex]
    split at he
    · subst e
      cases he
      simp [hown]
    · split
      · subst t
        have := h.holder e k s he
        rw [hfree] at this
        cases this
      · exact h.holder e k t he
  · rw [slot_setCall, queue_setMutex] at he
    have he' : e ∈ (σ.slot t).queue := by
      split at he
      · next hts =>
        subst hts
        rwa [hline] at he
      · exact he
    have hne : e ≠ c := fun hec => hnline t (hec ▸ he')
    rw [call?_setCall_of hc', if_neg hne]
    exact h.queued t e he'
  · rw [slot_setCall, queue_setMutex]
    split
    · subst t
      rw [hline]
      exact h.nodup s
    · exact h.nodup t

theorem Granted.join (h : σ.Granted) (hc : σ.call? c = some (.cloned key ms s)) {m : M.State}
    (hown : M.owner m = (σ.slot s).owner) (hline : M.line m = (σ.slot s).queue ++ [c]) :
    ((σ.setMutex s m).setCall c (.waiting key ms s)).Granted := by
  obtain ⟨hnown, hnline⟩ := h.out hc (by simp [Call.MayOwn]) (by simp [Call.InLine])
  have hc' : (σ.setMutex s m).call? c = some (.cloned key ms s) := hc
  refine ⟨fun t e he => ?_, fun e k t he => ?_, fun t e he => ?_, fun t => ?_⟩
  · rw [slot_setCall, owner_setMutex] at he
    have he' : (σ.slot t).owner = some e := by
      split at he
      · next hts =>
        subst hts
        rwa [hown] at he
      · exact he
    have hne : e ≠ c := fun hec => hnown t (hec ▸ he')
    rw [call?_setCall_of hc', if_neg hne]
    exact h.owned t e he'
  · rw [call?_setCall_of hc'] at he
    split at he
    · cases he
    · rw [slot_setCall, owner_setMutex]
      split
      · subst t
        rw [hown]
        exact h.holder e k s he
      · exact h.holder e k t he
  · rw [call?_setCall_of hc']
    rw [slot_setCall, queue_setMutex] at he
    split at he
    · subst t
      rw [hline] at he
      rcases List.mem_append.1 he with he | he
      · have hne : e ≠ c := fun hec => hnline s (hec ▸ he)
        rw [if_neg hne]
        exact h.queued s e he
      · rw [List.mem_singleton.1 he]
        simp [Call.InLine]
    · have hne : e ≠ c := fun hec => hnline t (hec ▸ he)
      rw [if_neg hne]
      exact h.queued t e he
  · rw [slot_setCall, queue_setMutex]
    split
    · subst t
      rw [hline]
      refine List.nodup_append.2 ⟨h.nodup s, by simp, fun a ha b hb hab => ?_⟩
      rw [List.mem_singleton.1 hb] at hab
      exact hnline s (hab ▸ ha)
    · exact h.nodup t

theorem Granted.lockOwned (h : σ.Granted) (hc : σ.call? c = some (.cloned key ms s)) :
    (σ.lockOwned c key ms s).Granted := by
  dsimp only [LockTable.lockOwned]
  cases ho : (σ.slot s).owner with
  | none =>
    obtain ⟨hown, hline⟩ := M.poll_free (σ.slot s).mutex c ho
    have hget : ((σ.setMutex s (M.poll (σ.slot s).mutex c)).slot s).owner = some c := by
      rw [owner_setMutex, if_pos rfl, hown]
    rw [if_pos hget]
    exact h.take hc ho hown hline
  | some d =>
    -- the mutex is granted to another call, which keeps it
    obtain ⟨hown, hline⟩ := M.poll_taken (σ.slot s).mutex c d ho
    have hdc : d ≠ c := fun hdc =>
      (h.out hc (by simp [Call.MayOwn]) (by simp [Call.InLine])).1 s (hdc ▸ ho)
    have hget : ((σ.setMutex s (M.poll (σ.slot s).mutex c)).slot s).owner ≠ some c := by
      rw [owner_setMutex, if_pos rfl, hown]
      exact fun he => hdc (Option.some.inj he)
    rw [if_neg hget]
    exact h.join hc (hown.trans ho.symm) hline

/-- The call that has a mutex nobody is left waiting for lets it go, moving on to a point where
it holds no reference: the mutex is free from then on. -/
theorem Granted.release (h : σ.Granted) (hc : σ.call? c = some x) (hzs : x.MayOwn s)
    (ho : (σ.slot s).owner = some c) {m : M.State} (hown : M.owner m = none)
    (hnil : M.line m = []) (hy : y.clone? = none) : ((σ.setMutex s m).setCall c y).Granted := by
  have hc' : (σ.setMutex s m).call? c = some x := hc
  refine ⟨fun t e he => ?_, fun e k t he => ?_, fun t e he => ?_, fun t => ?_⟩
  · rw [slot_setCall, owner_setMutex] at he
    split at he
    · rw [hown] at he
      cases he
    · next hts =>
      have hne : e ≠ c := fun hec => (h.apart hc hzs.slot? hts).1 (hec ▸ he)
      rw [call?_setCall_of hc', if_neg hne]
      exact h.owned t e he
  · rw [call?_setCall_of hc'] at he
    split at he
    · cases he
      simp [Call.clone?] at hy
    · next hne =>
      have hown' := h.holder e k t he
      rw [slot_setCall, owner_setMutex]
      split
      · subst t
        rw [ho] at hown'
        cases hown'
        exact absurd rfl hne
      · exact hown'
  · rw [slot_setCall, queue_setMutex] at he
    split at he
    · rw [hnil] at he
      cases he
    · next hts =>
      have hne : e ≠ c := fun hec => (h.apart hc hzs.slot? hts).2 (hec ▸ he)
      rw [call?_setCall_of hc', if_neg hne]
      exact h.queued t e he
  · rw [slot_setCall, queue_setMutex]
    split
    · rw [hnil]
      exact List.nodup_nil
    · exact h.nodup t

theorem Granted.handTo (h : σ.Granted) (hc : σ.call? c = some x) (hzs : x.MayOwn s)
    (ho : (σ.slot s).owner = some c) {d : Nat} {rest : List Nat}
    (hcons : (σ.slot s).queue.erase c = d :: rest) {m : M.State} (hown : M.owner m = some d)
    (hline : M.line m = rest) (hy : y.clone? = none) :
    (((σ.setMutex s m).grant d).setCall c y).Granted := by
  -- the calls left in line are in the line, and none of them is this call
  have hleft : ∀ {e}, e ∈ (σ.slot s).queue.erase c → e ∈ (σ.slot s).queue ∧ e ≠ c := fun he =>
    ⟨List.mem_of_mem_erase he, ((h.nodup s).mem_erase_iff.1 he).1⟩
  obtain ⟨hdq, hdc⟩ := hleft (by rw [hcons]; exact List.mem_cons_self)
  obtain ⟨w, hw, hws⟩ := h.queued s d hdq
  have hnd : d ∉ rest ∧ rest.Nodup := by
    have := (h.nodup s).erase c
    rw [hcons] at this
    exact ⟨(List.nodup_cons.1 this).1, (List.nodup_cons.1 this).2⟩
  let τ := σ.setMutex s m
  have hc' : (τ.grant d).call? c = some x := by
    rw [call?_grant, if_neg (Ne.symm hdc)]
    exact hc
  have hcall : ∀ e, ((τ.grant d).setCall c y).call? e =
      if e = c then some y else if e = d then some w.granted else σ.call? e := by
    intro e
    rw [call?_setCall_of hc', call?_grant]
    split
    · rfl
    · split
      · subst e
        simp [τ, hw]
      · rfl
  refine ⟨fun t e he => ?_, fun e k t he => ?_, fun t e he => ?_, fun t => ?_⟩
  · rw [slot_setCall, slot_grant, owner_setMutex] at he
    rw [hcall]
    split at he
    · subst t
      rw [hown] at he
      cases he
      rw [if_neg hdc, if_pos rfl]
      exact ⟨_, rfl, hws.mayOwn_granted⟩
    · next hts =>
      -- whatever stands at another slot is neither this call nor the call handed the mutex
      have hne : e ≠ c := fun hec => (h.apart hc hzs.slot? hts).1 (hec ▸ he)
      have hnd' : e ≠ d := fun hed => (h.apart hw hws.slot? hts).1 (hed ▸ he)
      rw [if_neg hne, if_neg hnd']
      exact h.owned t e he
  · rw [hcall] at he
    rw [slot_setCall, slot_grant, owner_setMutex]
    split at he
    · cases he
      simp [Call.clone?] at hy
    · next hne =>
      split at he
      · subst e
        have hts : t = s := by
          have hslot := hws.mayOwn_granted.slot?
          rw [Option.some.inj he] at hslot
          simpa [Call.slot?, Call.clone?] using hslot
        subst t
        simp [hown]
      · next hnd' =>
        have hown' := h.holder e k t he
        split
        · subst t
          rw [ho] at hown'
          cases hown'
          exact absurd rfl hne
        · exact hown'
  · rw [hcall]
    rw [slot_setCall, slot_grant, queue_setMutex] at he
    split at he
    · subst t
      rw [hline] at he
      obtain ⟨he', hne⟩ := hleft (by rw [hcons]; exact List.mem_cons_of_mem d he)
      have hnd' : e ≠ d := fun hed => hnd.1 (hed ▸ he)
      rw [if_neg hne, if_neg hnd']
      exact h.queued s e he'
    · next hts =>
      have hne : e ≠ c := fun hec => (h.apart hc hzs.slot? hts).2 (hec ▸ he)
      have hnd' : e ≠ d := fun hed => (h.apart hw hws.slot? hts).2 (hed ▸ he)
      rw [if_neg hne, if_neg hnd']
      exact h.queued t e he
  · rw [slot_setCall, slot_grant, queue_setMutex]
    split
    · rw [hline]
      exact hnd.2
    · exact h.nodup t

/-- The call that has a mutex lets it go, moving on to a point where it holds no reference, and
the mutex goes as its laws say: to the first call left in line, which holds the lease from then
on if it was waiting, or to nobody when nobody is left. -/
theorem Granted.handOver (h : σ.Granted) (hc : σ.call? c = some x)
    (ho : (σ.slot s).owner = some c) {m : M.State}
    (hown : M.owner m = ((σ.slot s).queue.erase c).head?)
    (hline : M.line m = ((σ.slot s).queue.erase c).tail) (hy : y.clone? = none) :
    (((σ.setMutex s m).wake s).setCall c y).Granted := by
  obtain ⟨z, hz, hzs⟩ := h.owned s c ho
  rw [hc] at hz
  cases hz
  unfold LockTable.wake
  rw [owner_setMutex, if_pos rfl]
  cases hq : (σ.slot s).queue.erase c with
  | nil =>
    rw [hq, List.head?_nil] at hown
    rw [hq, List.tail_nil] at hline
    rw [hown]
    exact h.release hc hzs ho hown hline hy
  | cons d rest =>
    rw [hq, List.head?_cons] at hown
    rw [hq, List.tail_cons] at hline
    rw [hown]
    exact h.handTo hc hzs ho hq hown hline hy

theorem owner_begin (key : String) (ms t : Nat) :
    ((σ.begin key ms).slot t).owner = ((σ.entry key).1.slot t).owner :=
  owner_retain _ t

theorem queue_begin (key : String) (ms t : Nat) :
    ((σ.begin key ms).slot t).queue = ((σ.entry key).1.slot t).queue :=
  queue_retain _ t

theorem slot_entry (key : String) (t : Nat) :
    (σ.entry key).1.slot t = σ.slot t ∨ (t = σ.fresh ∧ (σ.entry key).1.slot t = { refs := 1 }) := by
  cases hk : σ.table key with
  | some s => simp [entry_of_some hk]
  | none =>
    obtain ⟨-, -, -, hslot⟩ := entry_of_none hk
    rw [hslot]
    by_cases ht : t = σ.fresh
    · exact .inr ⟨ht, if_pos ht⟩
    · exact .inl (if_neg ht)

theorem Granted.begin (h : σ.Granted) (hk : σ.Counted) (key : String) (ms : Nat) :
    (σ.begin key ms).Granted := by
  have hold : ∀ {e z}, σ.call? e = some z → (σ.begin key ms).call? e = some z := fun hz => by
    rw [call?_begin, if_pos (lt_of_call? hz)]
    exact hz
  have hnew : ∀ {e z}, (σ.begin key ms).call? e = some z →
      σ.call? e = some z ∨ z = .cloned key ms (σ.entry key).2 := fun hz => by
    rw [call?_begin] at hz
    split at hz
    · exact .inl hz
    · split at hz
      · exact .inr (Option.some.inj hz).symm
      · cases hz
  refine ⟨fun t e he => ?_, fun e k t he => ?_, fun t e he => ?_, fun t => ?_⟩
  · rw [owner_begin] at he
    rcases @slot_entry M σ key t with hs | ⟨-, hs⟩ <;> rw [hs] at he
    · obtain ⟨z, hz, hown⟩ := h.owned t e he
      exact ⟨z, hold hz, hown⟩
    · simp [M.owner_new] at he
  · rcases hnew he with he | he
    · rw [owner_begin]
      rcases @slot_entry M σ key t with hs | ⟨rfl, -⟩
      · rw [hs]
        exact h.holder e k t he
      · exact absurd (show σ.Refers e k σ.fresh by simp [Refers, he, Call.clone?])
          (hk.fresh_unused e k)
    · cases he
  · rw [queue_begin] at he
    rcases @slot_entry M σ key t with hs | ⟨-, hs⟩ <;> rw [hs] at he
    · obtain ⟨z, hz, hline⟩ := h.queued t e he
      exact ⟨z, hold hz, hline⟩
    · simp [M.line_new] at he
  · rw [queue_begin]
    rcases @slot_entry M σ key t with hs | ⟨-, hs⟩ <;> rw [hs]
    · exact h.nodup t
    · simp [M.line_new]

theorem Granted.dropFuture (h : σ.Granted) (hc : σ.call? c = some (.expired key ms s)) :
    (σ.dropFuture c key ms s).Granted := by
  have hc' : (σ.setMutex s (M.cancel (σ.slot s).mutex c)).call? c = some (.expired key ms s) := hc
  dsimp only [LockTable.dropFuture]
  apply Granted.unref_setCall
  split
  · next ho =>
    obtain ⟨hown, hline⟩ := M.cancel_granted (σ.slot s).mutex c ho
    exact h.handOver hc ho hown hline rfl
  · next ho =>
    obtain ⟨hown, hline⟩ := M.cancel_waiting (σ.slot s).mutex c ho
    -- the call has no mutex, and it has left the only line it stood in
    refine (h.leave hown hline).setCall_out hc' (fun t hot => ?_) (fun t hq => ?_) rfl
    · rw [owner_setMutex] at hot
      split at hot
      · rw [hown] at hot
        exact ho hot
      · next hts => exact (h.apart hc rfl hts).1 hot
    · rw [queue_setMutex] at hq
      split at hq
      · rw [hline] at hq
        exact (h.nodup s).not_mem_erase hq
      · next hts => exact (h.apart hc rfl hts).2 hq

theorem Granted.dropGuard (h : σ.Granted) (hc : σ.call? c = some (.holding key s)) :
    (σ.dropGuard c key s).Granted := by
  -- the holder stands in no line, so the line left after it is the whole line
  have hq : (σ.slot s).queue.erase c = (σ.slot s).queue :=
    List.erase_of_not_mem (h.not_queued hc (by simp [Call.InLine]))
  obtain ⟨hown, hline⟩ := M.unlock_hands_on (σ.slot s).mutex
  have hown' : M.owner (M.unlock (σ.slot s).mutex) = ((σ.slot s).queue.erase c).head? := by
    rw [hq]
    exact hown
  have hline' : M.line (M.unlock (σ.slot s).mutex) = ((σ.slot s).queue.erase c).tail := by
    rw [hq]
    exact hline
  exact (h.handOver hc (h.holder c key s hc) hown' hline' rfl).unref_setCall s

theorem Granted.forget (h : σ.Granted) (hc : σ.call? c = some (.releasing key)) :
    (σ.forget c key).Granted := by
  have hkey : (σ.forgetKey key).Granted := by
    unfold LockTable.forgetKey
    split
    · split
      · exact h.unref _ |>.of_mutexes (fun _ => rfl) (fun _ => rfl) rfl
      · exact h
    · exact h
  have hsame : ∀ t, ((σ.forgetKey key).slot t).owner = (σ.slot t).owner ∧
      ((σ.forgetKey key).slot t).queue = (σ.slot t).queue := by
    intro t
    unfold LockTable.forgetKey
    split
    · split
      · simp only [slot_setKey]
        exact ⟨owner_unref _ _, queue_unref _ _⟩
      · exact ⟨rfl, rfl⟩
    · exact ⟨rfl, rfl⟩
  have hc' : (σ.forgetKey key).call? c = some (.releasing key) := by
    unfold LockTable.forgetKey
    split
    · split <;> simpa using hc
    · exact hc
  obtain ⟨hnown, hnline⟩ := h.out hc (by simp [Call.MayOwn]) (by simp [Call.InLine])
  refine hkey.setCall_out hc' (fun t ho => ?_) (fun t hq => ?_) rfl
  · rw [(hsame t).1] at ho
    exact hnown t ho
  · rw [(hsame t).2] at hq
    exact hnline t hq

/-! ## Every state the lock reaches -/

/-- The lock's invariant: its table's side and its mutexes' side. -/
structure Wf (σ : LockTable M) : Prop where
  counted : σ.Counted
  granted : σ.Granted

theorem wf_empty : ({} : LockTable M).Wf where
  counted :=
    { listed := fun _ _ _ hr => by simp [Refers, call?] at hr
      below := fun _ _ h => by cases h
      distinct := fun _ _ _ h => by cases h
      counted := fun _ _ h => by cases h }
  granted :=
    { owned := fun _ _ h => by simp [slot, M.owner_new] at h
      holder := fun _ _ _ h => by simp [call?] at h
      queued := fun _ _ h => by simp [slot, M.line_new] at h
      nodup := fun _ => by simp [slot, M.line_new] }

theorem Wf.step (h : σ.Wf) {l : LockStep} {τ : LockTable M} (hs : σ.step l = some τ) : τ.Wf := by
  cases l with
  | acquire key ms =>
    cases hs
    exact ⟨h.counted.begin key ms, h.granted.begin h.counted key ms⟩
  | lockOwned c =>
    simp only [LockTable.step] at hs
    split at hs
    · next key ms s hc =>
      cases hs
      exact ⟨h.counted.lockOwned hc, h.granted.lockOwned hc⟩
    · cases hs
  | timerFires c =>
    simp only [LockTable.step] at hs
    split at hs
    · next key ms s hc =>
      cases hs
      exact ⟨h.counted.setCall hc rfl, h.granted.timerFires hc⟩
    · cases hs
  | dropFuture c =>
    simp only [LockTable.step] at hs
    split at hs
    · next key ms s hc =>
      cases hs
      exact ⟨h.counted.dropFuture hc, h.granted.dropFuture hc⟩
    · cases hs
  | dropGuard c =>
    simp only [LockTable.step] at hs
    split at hs
    · next key s hc =>
      cases hs
      exact ⟨h.counted.dropGuard hc, h.granted.dropGuard hc⟩
    · cases hs
  | forget c =>
    simp only [LockTable.step] at hs
    split at hs
    · next key hc =>
      cases hs
      exact ⟨h.counted.forget hc, h.granted.forget hc⟩
    · cases hs

theorem Wf.run (h : σ.Wf) {ls : List LockStep} {τ : LockTable M} (hr : σ.run ls = some τ) :
    τ.Wf := by
  induction ls generalizing σ with
  | nil =>
    cases hr
    exact h
  | cons l ls ih =>
    obtain ⟨σ', hs, hr'⟩ := Option.bind_eq_some_iff.1 hr
    exact ih (h.step hs) hr'

theorem Reachable.wf (h : σ.Reachable) : σ.Wf := by
  obtain ⟨ls, hr⟩ := h
  exact wf_empty.run hr

end LockTable

end Rebill
