import Rebill.Proofs.PoolInvariants

/-!
# Every change of a payment is announced once

A status request decides under the payment's lock, then offers the change to the sink and its
message to the queue, each as a section of its own: between the decision and the announcements,
sections of other runs and requests may run. Whatever the interleaving, when every party has
ended:

* the status changes of `q` the sink recorded are, up to order, those the beats made
  (`changesMade`), one event for each;
* the messages about `q` the queue recorded are as many, one for each change, with its flag;
* a status request on `q` returned `true` exactly when one of its own beats changed `q`.

The bookkeeping is the stakes' `owed`: a worker that changed `q` owes its event, then its
message, and owes nothing once it has published. Each of the two records, with what the workers
still owe to it, is a permutation of what it held at the start with what the beats made
(`perm_record_step`, one beat); the run lemma is `Party.announcing`, and a pool whose workers
have all ended owes nothing.
-/

namespace Rebill

/-! ## What a section announces -/

namespace Section

variable {β : Type}

/-- The change of the payment `q` that a section offers to the sink. -/
def announces (q : Ident) (s : Section β) : Option (PaymentStatus × PaymentStatus × Bool) :=
  (s.event?.bind BillingEvent.statusChange?).bind fun c => if c.1 = q then some c.2 else none

/-- The flag of the message about the payment `q` that a section offers to the queue. -/
def notifies (q : Ident) (s : Section β) : Option Bool :=
  s.message?.bind fun m => if m.payment = q then some m.notify else none

theorem announces_of_applied {s : Section β} {q : Ident} {r : Except BillingError β}
    {c : PaymentStatus × PaymentStatus × Bool} (h : s.applied q r = some c) :
    s.announces q = none ∧ s.notifies q = none := by
  cases s with
  | apply id u => exact ⟨rfl, rfl⟩
  | _ => simp [applied] at h

end Section

/-- The status changes of the payment `q` that the sink recorded, in order. -/
def Engine.announced (e : Engine) (q : Ident) : List (PaymentStatus × PaymentStatus × Bool) :=
  e.statusChanges.filterMap fun c => if c.1 = q then some c.2 else none

/-- The flags of the messages about the payment `q` that the queue recorded, in order. -/
def Engine.notices (e : Engine) (q : Ident) : List Bool :=
  e.recorded.messages.filterMap fun m => if m.payment = q then some m.notify else none

/-- The changes of the payment `q` that the beats made, in order. -/
def changesMade (q : Ident) (bs : List Beat) : List (PaymentStatus × PaymentStatus × Bool) :=
  bs.filterMap fun b => b.part.applied q b.result

@[simp] theorem changesMade_nil (q : Ident) : changesMade q [] = [] := rfl

theorem changesMade_append_singleton (q : Ident) (bs : List Beat) (b : Beat) :
    changesMade q (bs ++ [b]) = changesMade q bs ++ (b.part.applied q b.result).toList := by
  unfold changesMade
  rcases hb : b.part.applied q b.result with _ | c <;> simp [hb]

namespace Section.Leaves

variable {β : Type} {s : Section β} {e e' : Engine}

theorem announced (hl : Leaves s e e') (q : Ident) :
    e'.announced q = e.announced q ++ if e.heard then (s.announces q).toList else [] := by
  unfold Engine.announced
  rw [hl.changes, List.filterMap_append]
  congr 1
  cases e.heard
  · rfl
  · unfold Section.announces
    rcases s.event?.bind BillingEvent.statusChange? with _ | c
    · rfl
    · by_cases hc : c.1 = q <;> simp [hc]

theorem notices (hl : Leaves s e e') (q : Ident) :
    e'.notices q = e.notices q ++ if e.posts then (s.notifies q).toList else [] := by
  unfold Engine.notices
  rw [hl.messages, List.filterMap_append]
  congr 1
  cases e.posts
  · rfl
  · unfold Section.notifies
    rcases s.message? with _ | m
    · rfl
    · by_cases hm : m.payment = q <;> simp [hm]

end Section.Leaves

/-! ## What a worker owes -/

namespace Owed

def event? : Owed → Option (PaymentStatus × PaymentStatus × Bool)
  | .event o n b => some (o, n, b)
  | _ => none

/-- The message a worker owes: after its change, before and after the change's event. -/
def message? : Owed → Option Bool
  | .event _ _ b => some b
  | .message b => some b
  | .nothing => none

end Owed

namespace Stake

variable {x q : Ident} {t : Stake} {β : Type} {s : Section β} {r : Except BillingError β}

theorem owing_event (ha : allows x q t s) :
    (s.announces q).toList ++ (owing q t.owed s r).event?.toList =
      t.owed.event?.toList ++ (s.applied q r).toList := by
  rcases hap : s.applied q r with _ | ⟨o, n, b⟩
  · rcases hev : s.event?.bind BillingEvent.statusChange? with _ | ⟨y, o, n, b⟩
    · -- no change and no event: only a message moves what is owed, and no event is owed then
      have hnone : s.announces q = none := by simp [Section.announces, hev]
      rcases hm : s.message? with _ | m
      · simp [owing, hap, hev, hm, hnone]
      · by_cases hq : m.payment = q
        · simp [owing, hap, hev, hm, hnone, hq, owed_of_message ha hm hq, Owed.event?]
        · simp [owing, hap, hev, hm, hnone, hq]
    · by_cases hy : y = q
      · subst hy
        simp [owing, hap, hev, Section.announces, owed_of_event ha hev, Owed.event?]
      · simp [owing, hap, hev, Section.announces, hy]
  · simp [owing, hap, (Section.announces_of_applied hap).1, owed_of_applied ha hap, Owed.event?]

theorem owing_message (ha : allows x q t s) :
    (s.notifies q).toList ++ (owing q t.owed s r).message?.toList =
      t.owed.message?.toList ++ (s.applied q r).toList.map (·.2.2) := by
  rcases hap : s.applied q r with _ | ⟨o, n, b⟩
  · rcases hev : s.event?.bind BillingEvent.statusChange? with _ | ⟨y, o, n, b⟩
    · rcases hm : s.message? with _ | m
      · simp [owing, hap, hev, hm, Section.notifies]
      · by_cases hq : m.payment = q
        · simp [owing, hap, hev, hm, hq, Section.notifies, owed_of_message ha hm hq,
            Owed.message?]
        · simp [owing, hap, hev, hm, hq, Section.notifies]
    · -- an event is no message
      have hnone : s.notifies q = none := by
        cases s <;> simp_all [Section.event?, Section.notifies, Section.message?]
      by_cases hy : y = q
      · subst hy
        simp [owing, hap, hev, hnone, owed_of_event ha hev, Owed.message?]
      · simp [owing, hap, hev, hnone, hy]
  · simp [owing, hap, (Section.announces_of_applied hap).2, owed_of_applied ha hap,
      Owed.message?]

end Stake

/-! ## Records kept partly by the workers -/

/-- A record that the workers keep partly in their local states: when a beat appends to the
record what its worker owed before it, less what it owes after, with what the beat made, the
record and what the workers owe stay, up to order, what the record held at the start with what
the beats made. -/
theorem perm_record_step {γ δ : Type} (f : γ → Option δ) {rec base made tail new : List δ}
    {l : List γ} {i : Nat} {a a' : γ} (hi : l[i]? = some a)
    (hlocal : tail ++ (f a').toList = (f a).toList ++ new)
    (h : (rec ++ l.filterMap f).Perm (base ++ made)) :
    (rec ++ tail ++ (l.set i a').filterMap f).Perm (base ++ (made ++ new)) := by
  classical
  have hset := perm_filterMap_set f a' hi
  rw [List.perm_iff_count] at h hset ⊢
  intro z
  have h₁ := h z
  have h₂ := hset z
  have h₃ := congrArg (List.count z) hlocal
  simp only [List.count_append] at h₁ h₂ h₃ ⊢
  omega

/-! ## The invariant of the announcements -/

/-- What an interleaving of the parties `ps` from the engine `e₀` has announced of the payment
`q`, with the stakes `ts` of the workers and the beats `bs` so far: the outlets stay as they were;
the recorded changes and messages of `q`, with those the workers owe, are what they were with the
changes the beats made; each worker stays a status request on `q` or not, as its party is; and
each counts the changes its own beats made. -/
structure Announcing (q : Ident) (e₀ : Engine) (ps : List Party) (e : Engine) (ts : List Stake)
    (bs : List Beat) : Prop where
  outlets : e.outlets = e₀.outlets
  events : e₀.heard = true →
    (e.announced q ++ ts.filterMap (·.owed.event?)).Perm (e₀.announced q ++ changesMade q bs)
  messages : e₀.posts = true →
    (e.notices q ++ ts.filterMap (·.owed.message?)).Perm
      (e₀.notices q ++ (changesMade q bs).map (·.2.2))
  asking : ts.map Stake.asking = ps.map (Party.asks q)
  made : ∀ i t, ts[i]? = some t →
    t.changes = (bs.filter (·.worker == i)).countP fun b => (b.part.applied q b.result).isSome

section Announcing

variable {x q : Ident} {e₀ : Engine} {ps : List Party} {ts : List Stake} {bs : List Beat}
  {t : Stake} {b : Beat}

theorem heard_eq {e : Engine} (h : e.outlets = e₀.outlets) : e.heard = e₀.heard := by
  simp [Engine.heard, h]

theorem posts_eq {e : Engine} (h : e.outlets = e₀.outlets) : e.posts = e₀.posts := by
  simp [Engine.posts, h]

theorem made_step (ht : ts[b.worker]? = some t)
    (hmade : ∀ i t, ts[i]? = some t →
      t.changes = (bs.filter (·.worker == i)).countP fun b => (b.part.applied q b.result).isSome)
    (i : Nat) (t₁ : Stake) (ht₁ : (ts.set b.worker ((stakes x q).after t b.part b.result))[i]? = some t₁) :
    t₁.changes =
      ((bs ++ [b]).filter (·.worker == i)).countP fun b => (b.part.applied q b.result).isSome := by
  rw [List.filter_append, List.countP_append]
  by_cases hi : b.worker = i
  · subst hi
    have hlt : b.worker < ts.length := (List.getElem?_eq_some_iff.mp ht).1
    rw [List.getElem?_set_self hlt] at ht₁
    cases ht₁
    simp only [stakes, Stake.after, hmade _ _ ht, List.filter_cons, List.filter_nil, beq_self_eq_true,
      if_true, countP_singleton_toNat]
  · rw [List.getElem?_set_ne hi] at ht₁
    simp [hmade _ _ ht₁, hi]

theorem Announcing.step (ht : ts[b.worker]? = some t) (ha : (stakes x q).allows t b.part)
    (hx : b.Ran) (hI : Announcing q e₀ ps b.before ts bs) :
    Announcing q e₀ ps b.after (ts.set b.worker ((stakes x q).after t b.part b.result))
      (bs ++ [b]) := by
  have hl := Section.leaves hx
  refine ⟨hl.outlets.trans hI.outlets, fun hh => ?_, fun hp => ?_, ?_, made_step ht hI.made⟩
  · rw [hl.announced, heard_eq hI.outlets, hh, if_pos rfl, changesMade_append_singleton]
    refine perm_record_step (·.owed.event?) ht ?_ (hI.events hh)
    exact Stake.owing_event ha
  · rw [hl.notices, posts_eq hI.outlets, hp, if_pos rfl, changesMade_append_singleton,
      List.map_append]
    refine perm_record_step (·.owed.message?) ht ?_ (hI.messages hp)
    exact Stake.owing_message ha
  · -- the stake after a section keeps its role
    have hget : (ts.map Stake.asking)[b.worker]? = some t.asking := by simp [ht]
    rw [List.map_set, show ((stakes x q).after t b.part b.result).asking = t.asking from rfl,
      set_of_getElem?_eq_some hget, hI.asking]

end Announcing

namespace Party

variable {ps : List Party} {e₀ : Engine} {bs : List Beat} {p' : Pool (Run.Summary ⊕ Bool)}

theorem announcing_start (q : Ident) : Announcing q e₀ ps e₀ (ps.map (stake q)) [] where
  outlets := rfl
  events _ := by simp [Function.comp_def, stake, Owed.event?]
  messages _ := by simp [Function.comp_def, stake, Owed.message?]
  asking := by simp [Function.comp_def, stake]
  made i t ht := by
    obtain ⟨pa, -, rfl⟩ : ∃ pa, ps[i]? = some pa ∧ stake q pa = t := by simpa using ht
    rfl

theorem announcing (h : Pool.Runs (pool ps e₀) bs p') (q : Ident) :
    ∃ ts, Pool.Follow (stakes q q) Ends ts p' ∧ Announcing q e₀ ps p'.engine ts bs :=
  h.follow (Announcing q e₀ ps) (fun _ _ _ _ ht ha hx hI => hI.step ht ha hx)
    (pool_follow q q ps e₀) (announcing_start q)

theorem changes_announced (h : Pool.Runs (pool ps e₀) bs p') (hq : p'.Quiet) (q : Ident) :
    (e₀.heard = true → (p'.engine.announced q).Perm (e₀.announced q ++ changesMade q bs)) ∧
    (e₀.posts = true →
      (p'.engine.notices q).Perm (e₀.notices q ++ (changesMade q bs).map (·.2.2))) ∧
    ∀ i u, ps[i]? = some (.request q u) → ∃ r, p'.workers[i]? = some (.done r) ∧
      (r = .ok (.inr true) ↔ ∃ b ∈ bs, b.worker = i ∧ (b.part.applied q b.result).isSome) := by
  obtain ⟨ts, hf, hI⟩ := announcing h q
  -- every worker has ended, so none owes an announcement
  have hnothing : ∀ t ∈ ts, t.owed = .nothing := by
    intro t ht
    obtain ⟨i, hi⟩ := List.mem_iff_getElem?.mp ht
    obtain ⟨r, -, hend⟩ := hf.ends hq hi
    exact hend.1
  have hev : ts.filterMap (·.owed.event?) = [] :=
    List.filterMap_eq_nil_iff.mpr fun t ht => by simp [hnothing t ht, Owed.event?]
  have hmsg : ts.filterMap (·.owed.message?) = [] :=
    List.filterMap_eq_nil_iff.mpr fun t ht => by simp [hnothing t ht, Owed.message?]
  refine ⟨fun hh => by simpa [hev] using hI.events hh,
    fun hp => by simpa [hmsg] using hI.messages hp, fun i u hi => ?_⟩
  -- the stake of a status request on `q` says so, and counts the changes its beats made
  obtain ⟨t, ht, hask⟩ : ∃ t, ts[i]? = some t ∧ t.asking = true := by
    have hasks : (ts.map Stake.asking)[i]? = some true := by simp [hI.asking, hi, asks]
    simpa using hasks
  obtain ⟨r, hr, hend⟩ := hf.ends hq ht
  refine ⟨r, hr, ?_⟩
  rw [hend.2 hask, hI.made i t ht, List.countP_pos_iff]
  simp only [List.mem_filter, beq_iff_eq, and_assoc]

end Party

end Rebill
