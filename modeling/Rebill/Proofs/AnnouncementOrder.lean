import Rebill.Proofs.Interleavings

/-!
# In which order changes reach the sink

A change of a payment or of an attempt is made under the entity's lock, and announced to the
sink by a section of its own, after the lock is given back. Between the two, sections of other
workers may run, among them another change of the same entity and its announcement. This module
follows the announcements of one entity through an interleaving.

An `Outlet` says what is followed: the sections that take the entity's lock, the change a section
made, read off what it returned, the change a section announces, and the record the sink keeps of
the announced changes. Its protocol `Outlet.owing` lets a worker owe the sink at most one
announcement: it takes the lock only when it owes nothing, and announces only the change it owes.
A worker that starts and ends owing nothing `Settles`.

Over every interleaving of workers that keep to the protocol, while the sink hears:

* the record, with what the workers still owe, is the record at the start followed by the changes
  made, up to order (`Outlet.Tallied`, run lemma `Outlet.tallied`);
* when each change is made only once the sink has recorded every change made before it
  (`Outlet.Waits`), it is that list in order (`Outlet.InTurn`, run lemma `Outlet.inTurn`).

Once every worker has ended, nothing is owed, and the two give the record itself
(`Outlet.record_perm`, `Outlet.record_eq`). `Worker.Follows.simulate` carries a protocol over to
one that reads less of the local state, which is how the stakes of the payments give their outlet
its protocol.
-/

namespace Rebill

/-- A worker that keeps to a protocol keeps to any protocol that reads its local states through
`f`, when `f` takes each allowed section to an allowed one and commutes with the local state
after it. -/
theorem Worker.Follows.simulate {σ σ' α : Type} {P : Worker.Protocol σ} {P' : Worker.Protocol σ'}
    (f : σ → σ') (hallows : ∀ t {β : Type} (s : Section β), P.allows t s → P'.allows (f t) s)
    (hafter : ∀ t {β : Type} (s : Section β) (r : Except BillingError β), P.allows t s →
      f (P.after t s r) = P'.after (f t) s r)
    {Q : σ → Except BillingError α → Prop} {Q' : σ' → Except BillingError α → Prop}
    (hQ : ∀ t r, Q t r → Q' (f t) r) {t : σ} {w : Worker α} (h : Worker.Follows P Q t w) :
    Worker.Follows P' Q' (f t) w := by
  induction h with
  | done hq => exact .done (hQ _ _ hq)
  | next hs _ ih => exact .next (hallows _ _ hs) fun r hr => hafter _ _ r hs ▸ ih r hr

theorem eq_singleton_of_length_le_one {γ : Type} {l : List γ} {d : γ} (hl : l.length ≤ 1)
    (hd : d ∈ l) : l = [d] := by
  match l, hl, hd with
  | [a], _, hd => rw [List.mem_singleton.mp hd]

theorem filterMap_id_set_some {δ : Type} {ts : List (Option δ)} (h : ts.filterMap id = [])
    {i : Nat} (hi : i < ts.length) (d : δ) : (ts.set i (some d)).filterMap id = [d] := by
  induction ts generalizing i with
  | nil => cases hi
  | cons t ts ih =>
    obtain ⟨rfl, hrest⟩ : t = none ∧ ts.filterMap id = [] := by
      cases t with
      | none => exact ⟨rfl, by simpa using h⟩
      | some a => simp at h
    cases i with
    | zero => simpa using hrest
    | succ i => simpa using ih hrest (by simpa using hi)

theorem filterMap_id_set_none {δ : Type} {ts : List (Option δ)} {i : Nat} {d : δ}
    (h : (ts.filterMap id).length ≤ 1) (hi : ts[i]? = some (some d)) :
    ts.filterMap id = [d] ∧ (ts.set i none).filterMap id = [] := by
  have hone : ts.filterMap id = [d] :=
    eq_singleton_of_length_le_one h (List.mem_filterMap.mpr ⟨some d, List.mem_of_getElem? hi, rfl⟩)
  have hlen := (perm_filterMap_set id none hi).length_eq
  rw [hone] at hlen
  exact ⟨hone, List.eq_nil_of_length_eq_zero (by simpa using hlen)⟩

/-- One payment or one attempt, seen by the sink through the sections of an interleaving. Only a
section under the entity's lock changes it, none announces while it holds the lock, and the record
grows by what a section announces when the sink hears it. -/
structure Outlet (δ : Type) where
  /-- The section takes the entity's lock. -/
  locks : {β : Type} → Section β → Prop
  /-- The change of the entity the section made, read off what it returned. -/
  made : {β : Type} → Section β → Except BillingError β → Option δ
  /-- The change of the entity the section announces to the sink. -/
  told : {β : Type} → Section β → Option δ
  /-- The changes of the entity the sink has recorded, in order. -/
  record : Engine → List δ
  locks_of_made : ∀ {β : Type} {s : Section β} {r : Except BillingError β} {d : δ},
    made s r = some d → locks s
  told_of_locks : ∀ {β : Type} {s : Section β}, locks s → told s = none
  record_step : ∀ {β : Type} {s : Section β} {e e' : Engine} {r : Except BillingError β},
    s.exec.exec e = .ok (r, e') → record e' = record e ++ if e.heard then (told s).toList else []

namespace Outlet

variable {δ : Type} (O : Outlet δ)

/-- The protocol of a worker that owes the sink at most the announcement of its last change: it
takes the lock only when it owes nothing, and announces only the change it owes. -/
def owing : Worker.Protocol (Option δ) where
  allows t _ s := (O.locks s → t = none) ∧ ∀ d, O.told s = some d → t = some d
  after t _ s r :=
    match O.made s r with
    | some d => some d
    | none => if (O.told s).isSome then none else t

/-- The changes of the entity the beats made, in order. -/
def changes (bs : List Beat) : List δ := bs.filterMap fun b => O.made b.part b.result

/-- The worker announces each change it makes before it makes another and before it ends. -/
def Settles {α : Type} (w : Worker α) : Prop := Worker.Follows O.owing (fun t _ => t = none) none w

@[simp] theorem changes_nil : O.changes [] = [] := rfl

theorem changes_append_singleton (bs : List Beat) (b : Beat) :
    O.changes (bs ++ [b]) = O.changes bs ++ (O.made b.part b.result).toList := by
  unfold changes
  rcases h : O.made b.part b.result with _ | d <;> simp [h]

variable {O} {β : Type} {s : Section β} {r : Except BillingError β} {t : Option δ}

theorem owing_step (ha : O.owing.allows t s) :
    (O.told s).toList ++ (O.owing.after t s r).toList = t.toList ++ (O.made s r).toList := by
  obtain ⟨hlock, htold⟩ := ha
  rcases hm : O.made s r with _ | d
  · rcases ht : O.told s with _ | d
    · simp [owing, hm, ht]
    · simp [owing, hm, ht, htold d ht]
  · have hl := O.locks_of_made hm
    simp [owing, hm, O.told_of_locks hl, hlock hl]

/-! ## Workers that settle -/

theorem settles_pure {α : Type} (a : α) : O.Settles (pure a) := Worker.Follows.pure rfl

theorem settles_throw {α : Type} (err : BillingError) : O.Settles (throw err : Worker α) :=
  Worker.Follows.throw rfl

theorem settles_lift (ht : O.told s = none) (hm : ∀ r, O.made s r = none) :
    O.Settles (Worker.lift s) :=
  Worker.Follows.lift_at ⟨fun _ => rfl, fun d hd => by simp [ht] at hd⟩
    fun r => by simp [owing, hm r, ht]

theorem Settles.bind {α γ : Type} {w : Worker α} {f : α → Worker γ} (hw : O.Settles w)
    (hf : ∀ a, O.Settles (f a)) : O.Settles (w >>= f) :=
  Worker.Follows.bind_at hw hf fun _ => rfl

theorem Settles.map {α γ : Type} {w : Worker α} (f : α → γ) (hw : O.Settles w) :
    O.Settles (f <$> w) :=
  Worker.Follows.map f hw (fun _ _ h => h) fun _ _ h => h

theorem Settles.tryCatch {α : Type} {w : Worker α} {h : BillingError → Worker α}
    (hw : O.Settles w) (hh : ∀ err, O.Settles (h err)) : O.Settles (tryCatch w h) :=
  Worker.Follows.tryCatch hw (fun _ _ h => h) fun _ err h => by
    subst h
    exact hh err

/-! ## Up to order -/

/-- What an interleaving from `e₀` has announced of the entity, with the workers' local states
`ts` and the beats `bs` so far: the outlets stay, and while the sink hears, the record with what
the workers owe is, up to order, the record at the start followed by the changes made. -/
structure Tallied (e₀ e : Engine) (ts : List (Option δ)) (bs : List Beat) : Prop where
  outlets : e.outlets = e₀.outlets
  record : e₀.heard = true → (O.record e ++ ts.filterMap id).Perm (O.record e₀ ++ O.changes bs)

variable {e₀ : Engine} {ts : List (Option δ)} {bs : List Beat} {b : Beat}

theorem Tallied.step (ht : ts[b.worker]? = some t) (ha : O.owing.allows t b.part) (hx : b.Ran)
    (hI : O.Tallied e₀ b.before ts bs) :
    O.Tallied e₀ b.after (ts.set b.worker (O.owing.after t b.part b.result)) (bs ++ [b]) := by
  refine ⟨(Section.leaves hx).outlets.trans hI.outlets, fun hh => ?_⟩
  rw [O.record_step hx, heard_eq hI.outlets, hh, if_pos rfl, O.changes_append_singleton]
  exact perm_record_step id ht (owing_step ha) (hI.record hh)

theorem tallied {α : Type} {Q : Option δ → Except BillingError α → Prop} {p p' : Pool α}
    (h : Pool.Runs p bs p') (hf : Pool.Follow O.owing Q ts p) (hts : ∀ t ∈ ts, t = none) :
    ∃ ts', Pool.Follow O.owing Q ts' p' ∧ O.Tallied p.engine p'.engine ts' bs := by
  have hnil : ts.filterMap id = [] := List.filterMap_eq_nil_iff.mpr fun t ht => by simp [hts t ht]
  exact h.follow (O.Tallied p.engine) (fun _ _ _ _ ht ha hx hI => hI.step ht ha hx) hf
    ⟨rfl, fun _ => by rw [hnil]; simp⟩

/-! ## In order -/

/-- Each change of the entity among the beats `bs` is made only once the sink has recorded every
change made before it since `e₀`. -/
def Waits (e₀ : Engine) (bs : List Beat) : Prop :=
  ∀ bs₁ b bs₂, bs = bs₁ ++ b :: bs₂ → (O.made b.part b.result).isSome →
    (O.record b.before).length = (O.record e₀).length + (O.changes bs₁).length

theorem Waits.of_append (h : O.Waits e₀ (bs ++ [b])) :
    O.Waits e₀ bs ∧ ((O.made b.part b.result).isSome →
      (O.record b.before).length = (O.record e₀).length + (O.changes bs).length) :=
  ⟨fun bs₁ b₁ bs₂ hs hm => h bs₁ b₁ (bs₂ ++ [b]) (by simp [hs]) hm, fun hm => h bs b [] rfl hm⟩

/-- The record in the order of the changes: the record with what the workers owe is the record at
the start followed by the changes made, in order, and at most one worker owes. -/
structure InTurn (e₀ e : Engine) (ts : List (Option δ)) (bs : List Beat) : Prop where
  outlets : e.outlets = e₀.outlets
  record : O.record e ++ ts.filterMap id = O.record e₀ ++ O.changes bs
  single : (ts.filterMap id).length ≤ 1

theorem InTurn.step (hh : e₀.heard = true) (ht : ts[b.worker]? = some t)
    (ha : O.owing.allows t b.part) (hx : b.Ran)
    (hwait : (O.made b.part b.result).isSome →
      (O.record b.before).length = (O.record e₀).length + (O.changes bs).length)
    (hI : O.InTurn e₀ b.before ts bs) :
    O.InTurn e₀ b.after (ts.set b.worker (O.owing.after t b.part b.result)) (bs ++ [b]) := by
  have hrec := O.record_step hx
  rw [heard_eq hI.outlets, hh, if_pos rfl] at hrec
  have hout := (Section.leaves hx).outlets.trans hI.outlets
  rcases hm : O.made b.part b.result with _ | d
  · rcases htold : O.told b.part with _ | d
    · -- the beat neither changes nor announces the entity: the worker's state stays
      have hafter : O.owing.after t b.part b.result = t := by simp [owing, hm, htold]
      rw [hafter, set_of_getElem?_eq_some ht]
      refine ⟨hout, ?_, hI.single⟩
      rw [hrec, htold, O.changes_append_singleton, hm]
      simpa using hI.record
    · -- the worker announces what it owed, the one announcement owed
      obtain rfl : t = some d := ha.2 d htold
      have hafter : O.owing.after (some d) b.part b.result = none := by simp [owing, hm, htold]
      rw [hafter]
      obtain ⟨hone, hnil⟩ := filterMap_id_set_none hI.single ht
      refine ⟨hout, ?_, by rw [hnil]; simp⟩
      rw [hnil, hrec, htold, O.changes_append_singleton, hm, Option.toList_none, List.append_nil,
        List.append_nil, ← hI.record, hone]
      rfl
  · -- a change waits for every announcement, so nothing was owed, and now it is owed
    have hl := O.locks_of_made hm
    have hwait' := hwait (by rw [hm]; rfl)
    have hlen := congrArg List.length hI.record
    simp only [List.length_append] at hlen
    have hnil : ts.filterMap id = [] := List.eq_nil_of_length_eq_zero (by omega)
    have hafter : O.owing.after t b.part b.result = some d := by simp [owing, hm]
    have hlt : b.worker < ts.length := (List.getElem?_eq_some_iff.mp ht).1
    rw [hafter]
    refine ⟨hout, ?_, by rw [filterMap_id_set_some hnil hlt d]; simp⟩
    have hrec₀ := hI.record
    rw [hnil, List.append_nil] at hrec₀
    rw [filterMap_id_set_some hnil hlt d, hrec, O.told_of_locks hl, O.changes_append_singleton, hm,
      hrec₀]
    simp

theorem inTurn {α : Type} {Q : Option δ → Except BillingError α → Prop} {p p' : Pool α}
    (h : Pool.Runs p bs p') (hh : p.engine.heard = true) (hw : O.Waits p.engine bs)
    (hf : Pool.Follow O.owing Q ts p) (hts : ∀ t ∈ ts, t = none) :
    ∃ ts', Pool.Follow O.owing Q ts' p' ∧ O.InTurn p.engine p'.engine ts' bs := by
  have hnil : ts.filterMap id = [] := List.filterMap_eq_nil_iff.mpr fun t ht => by simp [hts t ht]
  obtain ⟨ts', hf', hI⟩ := h.follow (fun e ts bs => O.Waits p.engine bs → O.InTurn p.engine e ts bs)
    (fun _ _ _ _ ht ha hx hI hw =>
      (hI (Waits.of_append hw).1).step hh ht ha hx (Waits.of_append hw).2) hf
    fun _ => ⟨rfl, by rw [hnil]; simp, by rw [hnil]; simp⟩
  exact ⟨ts', hf', hI hw⟩

/-! ## Once every worker has ended -/

theorem follow_of_settles {α : Type} {ws : List (Worker α)} (hs : ∀ w ∈ ws, O.Settles w)
    (e : Engine) : Pool.Follow O.owing (fun t _ => t = none) (ws.map fun _ => none) ⟨ws, e⟩ := by
  unfold Pool.Follow
  rw [List.forall₂_map_left_iff]
  exact List.forall₂_same.mpr fun w hw => hs w hw

theorem owed_nil {α : Type} {p : Pool α} (hf : Pool.Follow O.owing (fun t _ => t = none) ts p)
    (hq : p.Quiet) : ts.filterMap id = [] := by
  refine List.filterMap_eq_nil_iff.mpr fun t ht => ?_
  obtain ⟨i, hi⟩ := List.mem_iff_getElem?.mp ht
  obtain ⟨r, -, hend⟩ := hf.ends hq hi
  simp [hend]

variable {α : Type} {ws : List (Worker α)} {p' : Pool α}

theorem record_perm (hs : ∀ w ∈ ws, O.Settles w) (h : Pool.Runs ⟨ws, e₀⟩ bs p')
    (hq : p'.Quiet) (hh : e₀.heard = true) : (O.record p'.engine).Perm (O.record e₀ ++ O.changes bs) := by
  obtain ⟨ts, hf, hI⟩ := O.tallied h (O.follow_of_settles hs e₀) (by simp)
  have hrec := hI.record hh
  rwa [O.owed_nil hf hq, List.append_nil] at hrec

theorem record_eq (hs : ∀ w ∈ ws, O.Settles w) (h : Pool.Runs ⟨ws, e₀⟩ bs p') (hq : p'.Quiet)
    (hh : e₀.heard = true) (hw : O.Waits e₀ bs) : O.record p'.engine = O.record e₀ ++ O.changes bs := by
  obtain ⟨ts, hf, hI⟩ := O.inTurn h hh hw (O.follow_of_settles hs e₀) (by simp)
  have hrec := hI.record
  rwa [O.owed_nil hf hq, List.append_nil] at hrec

end Outlet

end Rebill
