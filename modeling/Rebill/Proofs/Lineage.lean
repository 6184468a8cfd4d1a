import Rebill.Proofs.AttemptHistory

/-!
# One live attempt per parent payment

The attempts of a parent payment form its lineage, ordered by their sequence numbers. The
registry keeps at most one of them alive: every attempt of a parent but the latest is retired,
stopped by the system with no retries left (`Store.Lineage`). Two operations make attempts, and
each looks at the latest attempt of the parent first:

* `insertUnlessExists` makes one only for a parent that has none, and otherwise hands back the
  latest one;
* reactivation makes one only when the latest attempt of the parent is the retired one it
  reactivates.

Every other operation keeps the rows: the same attempts of the same parents under the same
sequence numbers, and a retired attempt stays retired (`Store.KeepsRows`), because a retired
attempt is in a closed state and no change takes retries from zero. So over every run but the
direct write of an attempt, from a store with no attempts, the lineage holds at every step, and
only reactivation adds a second attempt to a parent.
-/

namespace Rebill

/-! ### Lists related element by element -/

section Forall₂

variable {α : Type} {R : α → α → Prop}

theorem forall₂_trans (htrans : ∀ a b c, R a b → R b c → R a c) {l₁ l₂ l₃ : List α}
    (h₁ : List.Forall₂ R l₁ l₂) (h₂ : List.Forall₂ R l₂ l₃) : List.Forall₂ R l₁ l₃ := by
  induction h₁ generalizing l₃ with
  | nil => exact h₂
  | cons hab _ ih =>
    cases h₂ with
    | cons hbc h₂ => exact .cons (htrans _ _ _ hab hbc) (ih h₂)

theorem exists_of_mem_forall₂ {l l' : List α} (h : List.Forall₂ R l l') {b : α} (hb : b ∈ l') :
    ∃ a ∈ l, R a b := by
  induction h with
  | nil => cases hb
  | cons hab _ ih =>
    rcases List.mem_cons.mp hb with rfl | hb
    · exact ⟨_, List.mem_cons_self, hab⟩
    · obtain ⟨a, ha, hR⟩ := ih hb
      exact ⟨a, List.mem_cons_of_mem _ ha, hR⟩

theorem map_eq_of_forall₂ {β : Type} {f : α → β} (hf : ∀ a b, R a b → f b = f a) {l l' : List α}
    (h : List.Forall₂ R l l') : l'.map f = l.map f := by
  induction h with
  | nil => rfl
  | cons hab _ ih => rw [List.map_cons, List.map_cons, hf _ _ hab, ih]

theorem forall₂_modifyFirst (key : α → Ident) (k : Ident) (f : α → α) (hR : ∀ a, R a a) :
    ∀ {l : List α}, (∀ y, l.find? (key · == k) = some y → R y (f y)) →
      List.Forall₂ R l (modifyFirst key k f l)
  | [], _ => .nil
  | y :: ys, hf => by
    unfold modifyFirst
    by_cases hy : key y = k
    · rw [if_pos hy]
      exact .cons (hf y (by simp [hy])) (List.forall₂_same.2 fun x _ => hR x)
    · rw [if_neg hy]
      exact .cons (hR y) (forall₂_modifyFirst key k f hR fun z hz =>
        hf z (by simpa [List.find?_cons, hy] using hz))

end Forall₂

/-! ### Guards, locks, and runs that only read -/

namespace Svc

variable {α β : Type} {R : Engine → Engine → Prop} {e : Engine}

theorem keepsAt_ite_throw_of [Std.Refl R] [IsTrans Engine R] {γ : Type} {c : Prop} [Decidable c]
    {err : BillingError} {k : Svc β} (hk : ¬c → KeepsAt R k e) :
    KeepsAt R (if c then (throw err : Svc γ) >>= (fun _ => k) else k) e := by
  split
  · exact keepsAt_throw_bind err
  · exact hk ‹_›

theorem keepsAt_withLock_of [Std.Refl R] {key : String} {body : Svc α}
    (hheld : ∀ e₁, R { e with held := key :: e.held } e₁ →
      R e { e₁ with held := e₁.held.erase key })
    (h : KeepsAt R body { e with held := key :: e.held }) : KeepsAt R (withLock key body) e := by
  intro r e' hx
  rcases withLock_cases hx with ⟨-, rfl, -⟩ | ⟨-, e₁, hbody, rfl⟩
  · exact refl_of R _
  · exact hheld e₁ (h _ _ hbody)

/-- `m` run from `e` only reads, and every value it returns satisfies `P`. -/
def ReadsAt (m : Svc α) (e : Engine) (P : α → Prop) : Prop :=
  ∀ r e', m.exec e = .ok (r, e') → e' = e ∧ ∀ a, r = .ok a → P a

namespace ReadsAt

variable {P : β → Prop}

theorem of_exec {m : Svc β} {r : Except BillingError β} (h : m.exec e = .ok (r, e))
    (hr : ∀ a, r = .ok a → P a) : ReadsAt m e P := by
  intro r' e' hx
  rw [h] at hx
  cases hx
  exact ⟨rfl, hr⟩

theorem bind {m : Svc α} {f : α → Svc β} {Q : α → Prop} (hm : Reads m Q)
    (hf : ∀ a, Q a → ReadsAt (f a) e P) : ReadsAt (m >>= f) e P := by
  intro r e' hx
  rcases exec_bind_eq_ok hx with ⟨err, hm', rfl⟩ | ⟨a, e₁, hm', hf'⟩
  · exact ⟨(hm e _ _ hm').1, fun _ h => by cases h⟩
  · obtain ⟨rfl, ha⟩ := hm e _ _ hm'
    exact hf a (ha a rfl) r e' hf'

theorem bind_read {m : Svc α} {f : α → Svc β} {a : α} (hm : m.exec e = .ok (.ok a, e))
    (hf : ReadsAt (f a) e P) : ReadsAt (m >>= f) e P :=
  fun r e' hx => hf r e' (exec_bind_read hm hx)

theorem throw_bind {f : α → Svc β} (err : BillingError) : ReadsAt (throw err >>= f) e P :=
  of_exec (exec_bind_error (exec_throw err e)) fun _ h => by cases h

theorem stop_bind {f : α → Svc β} (o : Overflow) : ReadsAt (stop o >>= f) e P := by
  intro r e' hx
  rw [exec_bind, exec_stop] at hx
  cases hx

theorem ite_throw {γ : Type} {c : Prop} [Decidable c] {err : BillingError} {k : Svc β}
    (hk : ReadsAt k e P) : ReadsAt (if c then (throw err : Svc γ) >>= (fun _ => k) else k) e P := by
  split
  · exact throw_bind err
  · exact hk

end ReadsAt

end Svc

/-! ### Retired attempts and kept rows -/

namespace Charge

/-- An attempt retired by the system: stopped, with no retries left. -/
def Retired (c : Charge) : Prop := c.state = .systemStop ∧ c.retries = 0

theorem Evolves.retired {c c' : Charge} (h : c.Evolves c') (hc : c.Retired) : c'.Retired := by
  obtain ⟨hs, hr⟩ := hc
  have hclosed := (h.closed (by rw [hs]; rfl)).1
  have hle := h.retries
  have hnonneg := h.nonneg (by omega)
  exact ⟨hclosed.trans hs, by omega⟩

end Charge

/-- A row as a step that makes no attempt leaves it: the same attempt of the same parent under the
same sequence number, retired if it was. -/
structure ChargeRow.Kept (r r' : ChargeRow) : Prop where
  seq : r'.seq = r.seq
  id : r'.charge.id = r.charge.id
  parent : r'.charge.parent = r.charge.parent
  retired : r.charge.Retired → r'.charge.Retired

namespace ChargeRow.Kept

theorem refl (r : ChargeRow) : Kept r r := ⟨rfl, rfl, rfl, fun h => h⟩

theorem trans {r₁ r₂ r₃ : ChargeRow} (h₁ : Kept r₁ r₂) (h₂ : Kept r₂ r₃) : Kept r₁ r₃ :=
  ⟨h₂.seq.trans h₁.seq, h₂.id.trans h₁.id, h₂.parent.trans h₁.parent, h₂.retired ∘ h₁.retired⟩

end ChargeRow.Kept

namespace Store

variable (s : Store)

/-- The rows of the attempts of the parent `p`, in the order they were written. -/
def rowsOf (p : Ident) : List ChargeRow := s.rows.filter (·.charge.parent == p)

theorem mem_rowsOf {p : Ident} {r : ChargeRow} : r ∈ s.rowsOf p ↔ r ∈ s.rows ∧ r.charge.parent = p := by
  simp [rowsOf]

theorem latestForParent_eq (p : Ident) :
    s.latestForParent p = (lastMaxBy (fun r => (r.seq : Int)) (s.rowsOf p)).map (s.withToken ·.charge) :=
  rfl

theorem latestForParent_eq_none {p : Ident} : s.latestForParent p = none ↔ s.rowsOf p = [] := by
  rw [latestForParent_eq, Option.map_eq_none_iff, lastMaxBy_eq_none]

theorem rowsOf_createCharge {d : ChargeDraft} {t : Instant} {c : Charge} {s' : Store}
    (h : s.createCharge d t = .ok (c, s')) (p : Ident) :
    s'.rowsOf p = s.rowsOf p ++ if d.parent = p then [⟨c, s.seq + 1⟩] else [] := by
  obtain ⟨m, -, -, heq⟩ := (createCharge_eq_ok s).mp h
  cases heq
  by_cases hp : d.parent = p <;> simp [rowsOf, List.filter_append, hp, Charge.ofDraft]

/-- What a step that makes no attempt does to the store: it keeps each row, the sequence number,
and hands out no identifier it handed out before. -/
structure KeepsRows (s s' : Store) : Prop where
  rows : List.Forall₂ ChargeRow.Kept s.rows s'.rows
  seq : s'.seq = s.seq
  serial : s.serial ≤ s'.serial

namespace KeepsRows

theorem refl : KeepsRows s s := ⟨List.forall₂_same.2 fun r _ => .refl r, rfl, Nat.le_refl _⟩

variable {s}

theorem trans {s₂ s₃ : Store} (h₁ : KeepsRows s s₂) (h₂ : KeepsRows s₂ s₃) : KeepsRows s s₃ :=
  ⟨forall₂_trans (fun _ _ _ hab hbc => hab.trans hbc) h₁.rows h₂.rows, h₂.seq.trans h₁.seq,
    Nat.le_trans h₁.serial h₂.serial⟩

theorem of_rows {s' : Store} (hr : s'.rows = s.rows) (hseq : s'.seq = s.seq)
    (hser : s.serial ≤ s'.serial) : KeepsRows s s' :=
  ⟨hr ▸ (refl s).rows, hseq, hser⟩

theorem ids_rowsOf {s' : Store} (h : KeepsRows s s') (p : Ident) :
    (s'.rowsOf p).map (·.charge.id) = (s.rowsOf p).map (·.charge.id) := by
  have hfilter : List.Forall₂ ChargeRow.Kept (s.rowsOf p) (s'.rowsOf p) :=
    List.rel_filter (fun a b hab => by simp [hab.parent]) h.rows
  exact map_eq_of_forall₂ (fun _ _ hab => hab.id) hfilter

theorem saveCharge {c c' v : Charge} {t : Instant} {s' : Store}
    (hc : s.charge? c'.id = some c) (hret : c.Retired → c'.Retired)
    (h : s.saveCharge c' t = .ok (v, s')) : KeepsRows s s' := by
  obtain ⟨row, hrow, heq⟩ := (saveCharge_eq_ok s).mp h
  cases heq
  obtain ⟨row₀, hrow₀, rfl⟩ := (charge?_eq_some s).mp hc
  have hsame : row₀ = row := Option.some.inj (hrow₀.symm.trans hrow)
  subst hsame
  refine ⟨forall₂_modifyFirst _ _ _ ChargeRow.Kept.refl fun y hy => ?_, rfl, Nat.le_refl _⟩
  -- the row changed is the first one with the identifier, which the attempt was read from
  have hy' : y = row₀ := Option.some.inj (hy.symm.trans hrow₀)
  subst hy'
  refine ⟨rfl, rfl, rfl, fun hr => ?_⟩
  have hread : (s.withToken y.charge).Retired := by
    simpa [Charge.Retired, withToken_eq] using hr
  exact hret hread

end KeepsRows

/-- The rows of a store as the registry keeps them: distinct attempts under identifiers the store
has handed out, distinct sequence numbers none above the store's, and every attempt that a later
attempt of its parent supersedes retired. -/
structure Lineage : Prop where
  ids_nodup : (s.rows.map (·.charge.id)).Nodup
  issued : ∀ r ∈ s.rows, s.Issued r.charge.id
  seq_le : ∀ r ∈ s.rows, r.seq ≤ s.seq
  seq_nodup : (s.rows.map (·.seq)).Nodup
  superseded : ∀ r ∈ s.rows, ∀ r' ∈ s.rows, r'.charge.parent = r.charge.parent → r.seq < r'.seq →
    r.charge.Retired

namespace Lineage

variable {s}

theorem of_rows_nil (h : s.rows = []) : s.Lineage := by
  refine ⟨?_, ?_, ?_, ?_, ?_⟩ <;> simp [h]

theorem keepsRows (hL : s.Lineage) {s' : Store} (h : s.KeepsRows s') : s'.Lineage where
  ids_nodup := by
    rw [map_eq_of_forall₂ (fun _ _ hab => hab.id) h.rows]
    exact hL.ids_nodup
  issued r' hr' := by
    obtain ⟨r, hr, hk⟩ := exists_of_mem_forall₂ h.rows hr'
    rw [hk.id]
    exact (hL.issued r hr).mono h.serial
  seq_le r' hr' := by
    obtain ⟨r, hr, hk⟩ := exists_of_mem_forall₂ h.rows hr'
    rw [hk.seq, h.seq]
    exact hL.seq_le r hr
  seq_nodup := by
    rw [map_eq_of_forall₂ (fun _ _ hab => hab.seq) h.rows]
    exact hL.seq_nodup
  superseded r₁' hr₁' r₂' hr₂' hp hlt := by
    obtain ⟨r₁, hr₁, hk₁⟩ := exists_of_mem_forall₂ h.rows hr₁'
    obtain ⟨r₂, hr₂, hk₂⟩ := exists_of_mem_forall₂ h.rows hr₂'
    refine hk₁.retired (hL.superseded r₁ hr₁ r₂ hr₂ ?_ ?_)
    · rw [← hk₁.parent, ← hk₂.parent, hp]
    · rw [← hk₁.seq, ← hk₂.seq]
      exact hlt

theorem createCharge (hL : s.Lineage) {d : ChargeDraft} {t : Instant} {c : Charge} {s' : Store}
    (hret : ∀ r ∈ s.rows, r.charge.parent = d.parent → r.charge.Retired)
    (h : s.createCharge d t = .ok (c, s')) : s'.Lineage := by
  obtain ⟨m, -, -, heq⟩ := (createCharge_eq_ok s).mp h
  cases heq
  -- the new row: the draft's parent, the next serial and the next sequence number
  have hfresh : Ident.ofSerial (s.serial + 1) ∉ s.rows.map (·.charge.id) := by
    intro hmem
    obtain ⟨r, hr, hid⟩ := List.mem_map.mp hmem
    exact hL.issued r hr (s.serial + 1) (Nat.lt_succ_self _) hid
  have hseq : s.seq + 1 ∉ s.rows.map (·.seq) := by
    intro hmem
    obtain ⟨r, hr, hseq⟩ := List.mem_map.mp hmem
    have := hL.seq_le r hr
    omega
  refine ⟨?_, ?_, ?_, ?_, ?_⟩
  · rw [List.map_append, List.nodup_append]
    refine ⟨hL.ids_nodup, List.nodup_singleton _, fun a ha b hb hab => ?_⟩
    rw [List.map_singleton, List.mem_singleton] at hb
    rw [hab, hb] at ha
    exact hfresh ha
  · intro r hr
    rcases List.mem_append.mp hr with hr | hr
    · exact (hL.issued r hr).mono (Nat.le_succ _)
    · rw [List.mem_singleton.mp hr]
      intro k hk hid
      have hk' : s.serial + 1 < k := hk
      have := Ident.ofSerial_injective hid
      omega
  · intro r hr
    rcases List.mem_append.mp hr with hr | hr
    · exact Nat.le_succ_of_le (hL.seq_le r hr)
    · rw [List.mem_singleton.mp hr]
  · rw [List.map_append, List.nodup_append]
    refine ⟨hL.seq_nodup, List.nodup_singleton _, fun a ha b hb hab => ?_⟩
    rw [List.map_singleton, List.mem_singleton] at hb
    rw [hab, hb] at ha
    exact hseq ha
  · intro r hr r' hr' hp hlt
    rcases List.mem_append.mp hr with hr | hr <;> rcases List.mem_append.mp hr' with hr' | hr'
    · exact hL.superseded r hr r' hr' hp hlt
    · rw [List.mem_singleton.mp hr'] at hp
      exact hret r hr hp.symm
    · rw [List.mem_singleton.mp hr] at hlt
      have := hL.seq_le r' hr'
      simp only at hlt
      omega
    · rw [List.mem_singleton.mp hr, List.mem_singleton.mp hr'] at hlt
      exact absurd hlt (Nat.lt_irrefl _)

theorem retired_of_latest (hL : s.Lineage) {p : Ident} {c : Charge}
    (hlat : s.latestForParent p = some c) {r : ChargeRow} (hr : r ∈ s.rows)
    (hp : r.charge.parent = p) (hne : r.charge.id ≠ c.id) : r.charge.Retired := by
  rw [latestForParent_eq, Option.map_eq_some_iff] at hlat
  obtain ⟨rmax, hmax, rfl⟩ := hlat
  obtain ⟨hmem, hle⟩ := lastMaxBy_spec _ hmax
  have hr' : r ∈ s.rowsOf p := (mem_rowsOf s).mpr ⟨hr, hp⟩
  obtain ⟨hmaxr, hmaxp⟩ := (mem_rowsOf s).mp hmem
  -- the latest has the greatest sequence number, and no other row shares it
  rcases Nat.lt_or_ge r.seq rmax.seq with hlt | hge
  · exact hL.superseded r hr rmax hmaxr (hmaxp.trans hp.symm) hlt
  · have hseq : r.seq = rmax.seq := by
      have := hle r hr'
      omega
    have hsame : r = rmax := List.inj_on_of_nodup_map hL.seq_nodup hr hmaxr hseq
    subst hsame
    exact absurd (withToken_id s r.charge).symm hne

theorem eq_of_live (hL : s.Lineage) {r r' : ChargeRow} (hr : r ∈ s.rows) (hr' : r' ∈ s.rows)
    (hp : r.charge.parent = r'.charge.parent) (hlive : r.charge.state ≠ .systemStop)
    (hlive' : r'.charge.state ≠ .systemStop) : r = r' := by
  rcases Nat.lt_trichotomy r.seq r'.seq with hlt | heq | hgt
  · exact absurd (hL.superseded r hr r' hr' hp.symm hlt).1 hlive
  · exact List.inj_on_of_nodup_map hL.seq_nodup hr hr' heq
  · exact absurd (hL.superseded r' hr' r hr hp hgt).1 hlive'

theorem retired_of_sole (hL : s.Lineage) {c : Charge} (hc : s.charge? c.id = some c)
    (hret : c.Retired) (hlatest : ∀ l, s.latestForParent c.parent = some l → l.id = c.id) :
    ∀ r ∈ s.rows, r.charge.parent = c.parent → r.charge.Retired := by
  intro r hr hp
  cases hl : s.latestForParent c.parent with
  | none =>
    rw [latestForParent_eq_none] at hl
    have hmem : r ∈ s.rowsOf c.parent := (mem_rowsOf s).mpr ⟨hr, hp⟩
    rw [hl] at hmem
    cases hmem
  | some l =>
    by_cases hid : r.charge.id = l.id
    · -- then `r` is the row `c` was read from, since identifiers are distinct
      have hrow : s.row? c.id = some r := by
        rw [← hlatest l hl, ← hid]
        exact find?_of_nodup (fun r : ChargeRow => r.charge.id) hL.ids_nodup hr
      obtain ⟨r₀, hr₀, hc₀⟩ := (charge?_eq_some s).mp hc
      have hsame : r₀ = r := Option.some.inj (hr₀.symm.trans hrow)
      subst hsame
      rw [hc₀] at hret
      simpa [Charge.Retired, withToken_eq] using hret
    · exact hL.retired_of_latest hl hr hp hid

end Lineage

end Store

namespace Engine

/-- A step that makes no attempt: it keeps the rows of the store. -/
def Lineal (e e' : Engine) : Prop := e.store.KeepsRows e'.store

/-- A step that keeps the lineage of a store that has it. -/
def KeepsLineage (e e' : Engine) : Prop := e.store.Lineage → e'.store.Lineage

/-- A step that adds no attempt to a parent that has one: the attempts of such a parent stay the
same attempts. -/
def NoSecond (e e' : Engine) : Prop :=
  ∀ p, e.store.rowsOf p ≠ [] → (e'.store.rowsOf p).map (·.charge.id) = (e.store.rowsOf p).map (·.charge.id)

/-- A step that may make attempts, but no second one for a parent: it keeps the lineage and adds
no attempt to a parent that has one. -/
structure Founds (e e' : Engine) : Prop where
  lineage : KeepsLineage e e'
  noSecond : NoSecond e e'

namespace KeepsLineage

@[refl] theorem refl (e : Engine) : KeepsLineage e e := id

theorem trans {e₁ e₂ e₃ : Engine} (h₁ : KeepsLineage e₁ e₂) (h₂ : KeepsLineage e₂ e₃) :
    KeepsLineage e₁ e₃ :=
  h₂ ∘ h₁

instance : Std.Refl KeepsLineage := ⟨refl⟩
instance : IsTrans Engine KeepsLineage := ⟨fun _ _ _ => trans⟩

end KeepsLineage

namespace NoSecond

theorem refl (e : Engine) : NoSecond e e := fun _ _ => rfl

theorem trans {e₁ e₂ e₃ : Engine} (h₁ : NoSecond e₁ e₂) (h₂ : NoSecond e₂ e₃) : NoSecond e₁ e₃ := by
  intro p hp
  have hp₂ : e₂.store.rowsOf p ≠ [] := by
    intro hnil
    have hmap := h₁ p hp
    rw [hnil, List.map_nil] at hmap
    exact hp (List.map_eq_nil_iff.mp hmap.symm)
  rw [h₂ p hp₂, h₁ p hp]

end NoSecond

namespace Founds

@[refl] theorem refl (e : Engine) : Founds e e := ⟨.refl e, .refl e⟩

theorem trans {e₁ e₂ e₃ : Engine} (h₁ : Founds e₁ e₂) (h₂ : Founds e₂ e₃) : Founds e₁ e₃ :=
  ⟨h₁.lineage.trans h₂.lineage, h₁.noSecond.trans h₂.noSecond⟩

instance : Std.Refl Founds := ⟨refl⟩
instance : IsTrans Engine Founds := ⟨fun _ _ _ => trans⟩

end Founds

namespace Lineal

@[refl] theorem refl (e : Engine) : Lineal e e := Store.KeepsRows.refl e.store

theorem trans {e₁ e₂ e₃ : Engine} (h₁ : Lineal e₁ e₂) (h₂ : Lineal e₂ e₃) : Lineal e₁ e₃ :=
  Store.KeepsRows.trans h₁ h₂

instance : Std.Refl Lineal := ⟨refl⟩
instance : IsTrans Engine Lineal := ⟨fun _ _ _ => trans⟩

theorem founds {e e' : Engine} (h : Lineal e e') : Founds e e' :=
  ⟨fun hL => hL.keepsRows h, fun p _ => Store.KeepsRows.ids_rowsOf h p⟩

/-! ### The steps that keep the rows -/

theorem of_rows {e e' : Engine} (hr : e'.store.rows = e.store.rows) (hseq : e'.store.seq = e.store.seq)
    (hser : e.store.serial ≤ e'.store.serial) : Lineal e e' :=
  Store.KeepsRows.of_rows hr hseq hser

theorem tally (e : Engine) (k : Counter) : Lineal e (e.tally k) := refl e

theorem appendAudit (e : Engine) (x : AuditEntry) :
    Lineal e { e with store := e.store.appendAudit x } :=
  of_rows rfl rfl (Nat.le_refl _)

theorem afterCharge (e : Engine) (g : Gateway) (p : Payment) (c : Charge) :
    Lineal e (e.afterCharge g p c) :=
  refl e

theorem createPayment {e : Engine} {d : PaymentDraft} {p : Payment} {s : Store}
    (h : e.store.createPayment d e.now = (p, s)) : Lineal e { e with store := s } := by
  have hs : s = (e.store.createPayment d e.now).2 := by rw [h]
  subst hs
  rw [Store.createPayment_eq]
  exact of_rows rfl rfl (Nat.le_succ _)

theorem setMethodExpiry {e : Engine} {id : Ident} {d : Date} {s : Store}
    (h : e.store.setMethodExpiry id d = .ok s) : Lineal e { e with store := s } := by
  unfold Store.setMethodExpiry at h
  split at h <;> cases h
  exact of_rows rfl rfl (Nat.le_refl _)

theorem findOrCreateMethod (e : Engine) (user : Ident) (gateway token : String) (t : Instant) :
    Lineal e { e with store := (e.store.findOrCreateMethod user gateway token t).2 } := by
  unfold Store.findOrCreateMethod
  split
  · exact refl e
  · exact of_rows rfl rfl (Nat.le_succ _)

theorem afterStatusWrite {e : Engine} {id : Ident} {old : PaymentStatus}
    {u : Ledger.StatusRequest} {p' : Payment} {s' : Store} {w : StatusWrite} {t : Instant}
    (hs : e.store.savePaymentStatus id w t = .ok (p', s')) :
    Lineal e (e.afterStatusWrite id old u s') := by
  obtain ⟨q, -, heq⟩ := (Store.savePaymentStatus_eq_ok e.store).mp hs
  cases heq
  exact of_rows (by simp) (by simp) (by simp)

open Svc

theorem keepsAt_updateStatus (id : Ident) (u : Ledger.StatusRequest) (e : Engine) :
    KeepsAt Lineal (Ledger.updateStatus id u) e := by
  intro r e' h
  rcases Ledger.updateStatus_cases h with ⟨rfl, -, -⟩ | ⟨c, rfl, -⟩ |
    ⟨p, p', s', -, -, -, hs, -, rfl⟩
  · exact refl _
  · exact tally e c
  · exact afterStatusWrite hs

theorem keepsAt_withLock {α : Type} {key : String} {body : Svc α} {e : Engine}
    (h : KeepsAt Lineal body { e with held := key :: e.held }) :
    KeepsAt Lineal (withLock key body) e :=
  keepsAt_withLock_of (fun _ h => h) h

theorem keepsAt_stored_saveCharge {e : Engine} {c c' : Charge} {t : Instant}
    (hc : e.store.charge? c'.id = some c) (hret : c.Retired → c'.Retired) :
    KeepsAt Lineal (stored (e.store.saveCharge c' t)) e :=
  keepsAt_stored_of e fun _ _ h => Store.KeepsRows.saveCharge hc hret h

theorem keepsAt_update {change : Charge → Svc Charge}
    (hch : ∀ c, Reads (change c) fun c' => c'.id = c.id ∧ (c.Retired → c'.Retired)) (id : Ident)
    (e : Engine) : KeepsAt Lineal (Attempts.update id change) e := by
  intro r e' h
  rcases Attempts.update_cases hch h with rfl | ⟨c, c', v, s', hc, ⟨hid, hret⟩, hs, -, rfl⟩
  · exact refl _
  · have hc' : e.store.charge? c'.id = some c := by
      rw [hid, Store.id_of_charge? e.store hc, hc]
    show e.store.KeepsRows (e.afterUpdate id c.state v s').store
    rw [afterUpdate_store]
    exact Store.KeepsRows.saveCharge hc' hret hs

theorem keepsAt_change (id : Ident) (change : Charge → Svc Charge) (e : Engine)
    (hch : Attempts.Change change) : KeepsAt Lineal (Attempts.update id change) e :=
  keepsAt_update (fun c => (hch c).mono fun _ hev => ⟨hev.id, hev.retired⟩) id e

end Lineal

/-! ### The steps that make attempts -/

open Svc

theorem Founds.keepsAt_withLock {α : Type} {key : String} {body : Svc α} {e : Engine}
    (h : KeepsAt Founds body { e with held := key :: e.held }) :
    KeepsAt Founds (withLock key body) e :=
  keepsAt_withLock_of (fun _ h => ⟨h.lineage, h.noSecond⟩) h

theorem KeepsLineage.keepsAt_withLock {α : Type} {key : String} {body : Svc α} {e : Engine}
    (h : KeepsAt KeepsLineage body { e with held := key :: e.held }) :
    KeepsAt KeepsLineage (withLock key body) e :=
  keepsAt_withLock_of (fun _ h => h) h

theorem Founds.keepsAt_stored_createCharge {e : Engine} {d : ChargeDraft} {t : Instant}
    (hnone : e.store.rowsOf d.parent = []) : KeepsAt Founds (stored (e.store.createCharge d t)) e := by
  refine keepsAt_stored_of e fun c s' h => ⟨fun hL => hL.createCharge (fun r hr hp => ?_) h,
    fun p hp => ?_⟩
  · have hmem : r ∈ e.store.rowsOf d.parent := (Store.mem_rowsOf _).mpr ⟨hr, hp⟩
    rw [hnone] at hmem
    cases hmem
  · have hne : d.parent ≠ p := fun hdp => hp (hdp ▸ hnone)
    show (s'.rowsOf p).map _ = _
    rw [Store.rowsOf_createCharge _ h p, if_neg hne, List.append_nil]

theorem KeepsLineage.keepsAt_stored_createCharge {e : Engine} {d : ChargeDraft} {t : Instant}
    (hret : e.store.Lineage → ∀ r ∈ e.store.rows, r.charge.parent = d.parent → r.charge.Retired) :
    KeepsAt KeepsLineage (stored (e.store.createCharge d t)) e :=
  keepsAt_stored_of e fun _ _ h hL => hL.createCharge (hret hL) h

end Engine

namespace Attempts

open Svc Engine

/-! ### The registry's steps that keep the rows -/

theorem lineal_claim (id : Ident) (e : Engine) : KeepsAt Lineal (claim id) e := by
  intro r e' h
  rcases claim_cases h with ⟨rfl, -⟩ | ⟨c, v, s', hc, -, -, hs, -, rfl⟩
  · exact .refl _
  · have hc' : e.store.charge? ({ c with status := some inFlight } : Charge).id = some c := by
      show e.store.charge? c.id = some c
      rw [Store.id_of_charge? e.store hc, hc]
    exact Store.KeepsRows.saveCharge hc' (fun h => h) hs

theorem lineal_releaseClaim (id : Ident) (e : Engine) : KeepsAt Lineal (releaseClaim id) e :=
  Lineal.keepsAt_update (fun c => reads_pure ⟨by split <;> rfl, fun h => by split <;> exact h⟩) id e

theorem lineal_transition (id : Ident) (t : ChargeState) (actor : Actor) (u : ChargeUpdate)
    (e : Engine) : KeepsAt Lineal (transition id t actor u) e :=
  keepsAt_transition Lineal.keepsAt_change id t actor u e

theorem lineal_linkPayment (id p : Ident) (e : Engine) : KeepsAt Lineal (linkPayment id p) e :=
  keepsAt_linkPayment Lineal.keepsAt_change id p e

theorem lineal_rearmFailed (id : Ident) (e : Engine) : KeepsAt Lineal (rearmFailed id) e :=
  keepsAt_rearmFailed Lineal.keepsAt_change id e

theorem lineal_registerMethod (user : Ident) (gateway token : String) (e : Engine) :
    KeepsAt Lineal (registerMethod user gateway token) e := by
  unfold registerMethod
  refine keepsAt_bind_read (exec_store e) (keepsAt_bind_read (exec_now e) ?_)
  exact keepsAt_bind (keepsAt_of_exec (exec_setStore _ _) (Lineal.findOrCreateMethod _ _ _ _ _))
    fun _ _ _ => keepsAt_pure _

theorem lineal_updateMethodExpiry (method : Ident) (d : Date) (e : Engine) :
    KeepsAt Lineal (updateMethodExpiry method d) e := by
  unfold updateMethodExpiry
  refine keepsAt_bind_read (exec_store e) ?_
  split
  · exact keepsAt_of_exec (exec_setStore _ _) (Lineal.setMethodExpiry ‹_›)
  · exact keepsAt_throw _

theorem lineal_stopByUser (id : Ident) (e : Engine) : KeepsAt Lineal (stopByUser id) e := by
  unfold stopByUser
  refine keepsAt_bind (reads_get id).keepsAt fun c e₁ _ => ?_
  refine keepsAt_bind (reads_canBeStoppedByUser c).keepsAt fun b e₂ _ => ?_
  simp only
  exact keepsAt_ite_throw (lineal_transition _ _ _ _ e₂)

theorem lineal_stopByAdmin (id : Ident) (reason : String) (e : Engine) :
    KeepsAt Lineal (stopByAdmin id reason) e := by
  unfold stopByAdmin
  refine keepsAt_bind (reads_get id).keepsAt fun c e₁ _ => ?_
  refine keepsAt_bind (reads_canBeStopped c).keepsAt fun b e₂ _ => ?_
  simp only
  exact keepsAt_ite_throw (lineal_transition _ _ _ _ e₂)

theorem lineal_reactivateByUser (id : Ident) (e : Engine) :
    KeepsAt Lineal (reactivateByUser id) e := by
  unfold reactivateByUser
  refine keepsAt_bind (reads_get id).keepsAt fun c e₁ _ => ?_
  refine keepsAt_bind (reads_canBeStoppedByUser c).keepsAt fun b e₂ _ => ?_
  simp only
  refine keepsAt_ite_throw (Lineal.keepsAt_change id _ e₂ fun c => (reactivateByUser_change c).mono ?_)
  rintro _ ⟨hstate, rfl⟩
  exact (c.evolves_reactivate hstate).trans (Charge.evolves_pushNote _ "Reactivated by user")

/-! ### The registry's steps that make attempts -/

theorem founds_createAttemptFrom (d : ChargeDraft) (e : Engine) :
    KeepsAt Founds (createAttemptFrom d) e := by
  refine Founds.keepsAt_withLock ?_
  unfold insertUnlessExists
  refine keepsAt_bind_read (exec_store _) ?_
  split
  · exact keepsAt_pure _
  · next hnone =>
    refine keepsAt_bind_read (exec_store _) (keepsAt_bind_read (exec_now _) ?_)
    exact Founds.keepsAt_stored_createCharge ((Store.latestForParent_eq_none _).mp hnone)

theorem founds_createAttempt (method parent : Ident) (chargeAt : Instant)
    (customAmount : Option Decimal) (retries : Option Int) (e : Engine) :
    KeepsAt Founds (createAttempt method parent chargeAt customAmount retries) e :=
  keepsAt_bind_read (exec_policy e) (founds_createAttemptFrom _ e)

theorem founds_scheduleNext (charged : Charge) (sub : Option Subscription) (terms : Terms)
    (e : Engine) : KeepsAt Founds (scheduleNext charged sub terms) e := by
  unfold scheduleNext
  simp only
  refine keepsAt_ite_throw ?_
  split
  · refine keepsAt_bind (reads_payment _).keepsAt fun p e₁ _ => ?_
    refine keepsAt_bind_read (exec_policy e₁) (keepsAt_bind_read (exec_now e₁) ?_)
    split
    · exact keepsAt_bind_read (exec_pure _ _) (founds_createAttemptFrom _ _)
    · exact keepsAt_throw_bind _
    · exact keepsAt_stop_bind _ _
  · exact keepsAt_throw _

theorem keepsLineage_reactivateLocked (id : Ident) (e : Engine) :
    KeepsAt KeepsLineage (reactivateLocked id) e := by
  unfold reactivateLocked
  refine keepsAt_bind_read (exec_now e) (keepsAt_bind_read (exec_policy e) ?_)
  refine keepsAt_bind (reads_get id).keepsAt fun stopped e₁ hget => ?_
  have he₁ : e₁ = e := ((reads_get id) e _ _ hget).1
  subst he₁
  obtain ⟨hc, hid⟩ : e₁.store.charge? stopped.id = some stopped ∧ stopped.id = id := by
    rw [exec_get] at hget
    split at hget
    · next c hc =>
      cases hget
      have hid := Store.id_of_charge? e₁.store hc
      exact ⟨by rw [hid, hc], hid⟩
    · cases hget
  simp only
  refine keepsAt_ite_throw_of fun hstate => keepsAt_ite_throw_of fun hretries => ?_
  have hret : stopped.Retired := ⟨by simpa using hstate, by simpa using hretries⟩
  refine keepsAt_bind (reads_time _).keepsAt fun windowStart e₂ hwin => ?_
  have he₂ : e₂ = e₁ := ((reads_time _) e₁ _ _ hwin).1
  subst he₂
  refine keepsAt_ite_throw ?_
  refine keepsAt_bind_read (exec_store _) ?_
  -- past the last guard the latest attempt of the parent, if there is one, is the stopped one;
  -- both ways go on with the same rest
  split
  on_goal 1 =>
    rename_i latest hlat
    refine keepsAt_ite_throw_of fun hne => ?_
    have hlatest : ∀ l, e₂.store.latestForParent stopped.parent = some l → l.id = stopped.id := by
      intro l hl
      rw [hlat] at hl
      cases hl
      simpa [hid] using hne
  on_goal 2 =>
    rename_i hnone
    have hlatest : ∀ l, e₂.store.latestForParent stopped.parent = some l → l.id = stopped.id :=
      fun l hl => (hnone l hl).elim
  all_goals
    refine keepsAt_bind (reads_time _).keepsAt fun due e₃ hdue => ?_
    have he₃ : e₃ = e₂ := ((reads_time _) e₂ _ _ hdue).1
    subst he₃
    refine keepsAt_bind_read (exec_store _) ?_
    refine keepsAt_bind (KeepsLineage.keepsAt_stored_createCharge fun hL =>
      hL.retired_of_sole hc hret hlatest) fun fresh e₄ hfresh => ?_
    rw [exec_stored] at hfresh
    split at hfresh
    · next hs =>
      cases hfresh
      have hc' := Store.charge?_createCharge e₃.store hs hc
      refine keepsAt_bind_read (exec_store _) ?_
      refine keepsAt_bind ((Lineal.keepsAt_stored_saveCharge hc' ?_).mono
        fun _ _ h => h.founds.lineage) fun _ _ _ => keepsAt_pure _
      exact fun h => h
    · cases hfresh

theorem keepsLineage_reactivateAfterSystemStop (id : Ident) (e : Engine) :
    KeepsAt KeepsLineage (reactivateAfterSystemStop id) e := by
  unfold reactivateAfterSystemStop
  refine keepsAt_bind (reads_get id).keepsAt fun c e₁ _ => ?_
  refine keepsAt_bind (reads_canBeStopped c).keepsAt fun b e₂ _ => ?_
  simp only
  exact keepsAt_ite_throw (KeepsLineage.keepsAt_withLock (keepsLineage_reactivateLocked id _))

/-! ### Making an attempt for a parent that has one -/

theorem reads_payment_id (id : Ident) : Reads (payment id) fun p => p.id = id := by
  intro e r e' hx
  rw [exec_payment] at hx
  split at hx
  · next p hp =>
    cases hx
    exact ⟨rfl, fun _ h => by cases h; exact Store.id_of_payment? e.store hp⟩
  · cases hx
    exact ⟨rfl, fun _ h => by cases h⟩

theorem exec_insertUnlessExists_of_latest {d : ChargeDraft} {e : Engine} {l : Charge}
    (h : e.store.latestForParent d.parent = some l) :
    (insertUnlessExists d).exec e = .ok (.ok l, e) := by
  unfold insertUnlessExists
  rw [exec_bind_ok (exec_store e), h]
  rfl

theorem exec_createAttemptFrom_of_latest {d : ChargeDraft} {e : Engine} {l : Charge}
    (h : e.store.latestForParent d.parent = some l) :
    (createAttemptFrom d).exec e = if parentKey d.parent ∈ e.held then
      .ok (.error (.lockTimeout (parentKey d.parent) e.policy.lockTimeoutMs), e)
    else .ok (.ok l, e) := by
  unfold createAttemptFrom
  rw [exec_withLock]
  split
  · rfl
  · rw [exec_insertUnlessExists_of_latest (e := { e with held := parentKey d.parent :: e.held }) h]
    simp

theorem readsAt_createAttemptFrom {d : ChargeDraft} {e : Engine} {l : Charge}
    (h : e.store.latestForParent d.parent = some l) :
    ReadsAt (createAttemptFrom d) e (e.store.latestForParent d.parent = some ·) := by
  intro r e' hx
  rw [exec_createAttemptFrom_of_latest h] at hx
  split at hx <;> cases hx
  · exact ⟨rfl, fun _ ha => by cases ha⟩
  · exact ⟨rfl, fun _ ha => by cases ha; exact h⟩

theorem exec_createAttempt_of_latest {method parent : Ident} {chargeAt : Instant}
    {customAmount : Option Decimal} {retries : Option Int} {e : Engine} {l : Charge}
    (h : e.store.latestForParent parent = some l) (hkey : parentKey parent ∉ e.held) :
    (createAttempt method parent chargeAt customAmount retries).exec e = .ok (.ok l, e) := by
  unfold createAttempt
  rw [exec_bind_ok (exec_policy e)]
  exact (exec_createAttemptFrom_of_latest h).trans (if_neg hkey)

theorem readsAt_scheduleNext {charged : Charge} {pid : Ident} (hpid : charged.payment = some pid)
    (sub : Option Subscription) (terms : Terms) {e : Engine} {l : Charge}
    (hl : e.store.latestForParent pid = some l) :
    ReadsAt (scheduleNext charged sub terms) e (e.store.latestForParent pid = some ·) := by
  unfold scheduleNext
  simp only [hpid]
  refine ReadsAt.ite_throw ?_
  refine ReadsAt.bind (reads_payment_id pid) fun p hp => ?_
  subst hp
  refine ReadsAt.bind_read (exec_policy e) (ReadsAt.bind_read (exec_now e) ?_)
  split
  · exact ReadsAt.bind_read (exec_pure _ _) (readsAt_createAttemptFrom hl)
  · exact ReadsAt.throw_bind _
  · exact ReadsAt.stop_bind _

end Attempts

/-! ### Every step -/

namespace Engine

open Svc

theorem Lineal.keepsAt_run (ids : Option (List Ident)) (e : Engine) :
    KeepsAt Lineal (Run.run ids) e := by
  have hcreate : ∀ e d p s, e.store.createPayment d e.now = (p, s) → Lineal e { e with store := s } :=
    fun _ _ _ _ h => Lineal.createPayment h
  have hup : Run.Updates Lineal := .of_update Lineal.keepsAt_change
  exact Run.keepsAt_run (fun c e => Run.keepsAt_process (fun e => Attempts.lineal_claim c.id e)
    (Run.keepsAt_prepare hup Lineal.appendAudit hcreate)
    (fun c e => Attempts.lineal_releaseClaim c.id e) Lineal.afterCharge
    (Run.keepsAt_applyReply hup Lineal.keepsAt_updateStatus Lineal.tally) Lineal.appendAudit
    Lineal.tally e) Lineal.tally ids e

theorem Lineal.step {e e' : Engine} {op : Op} (hA : WritesNoAttempt e op)
    (hreg : ∀ op', op ≠ .registry op') (h : op.Step e e') : Lineal e e' := by
  obtain ⟨r, hx⟩ := h
  cases op with
  | issueIdent =>
    cases hx
    exact Lineal.of_rows rfl rfl (Nat.le_succ _)
  | setClock t =>
    cases hx
    exact .refl e
  | setGateway g =>
    cases hx
    exact .refl e
  | seedPayment p =>
    cases hx
    exact Lineal.of_rows rfl rfl (Nat.le_refl _)
  | createPayment d =>
    cases hx
    exact Lineal.createPayment (p := (e.store.createPayment d e.now).1) rfl
  | putCharge c => exact absurd rfl (hA c)
  | registry op => exact absurd rfl (hreg op)
  | releaseClaim id => exact keepsAt_drop (Attempts.lineal_releaseClaim id e) r e' hx
  | updateStatus id u => exact keepsAt_drop (Lineal.keepsAt_updateStatus id u e) r e' hx
  | run ids => exact keepsAt_drop (Lineal.keepsAt_run ids e) r e' hx
  | resolvePending id succeeded resp =>
    exact keepsAt_drop (Run.keepsAt_resolvePending (.of_update Lineal.keepsAt_change)
      Lineal.appendAudit Lineal.keepsAt_updateStatus Lineal.tally id succeeded resp e) r e' hx
  | refreshExpiry g =>
    exact keepsAt_drop (Expiry.keepsAt_refresh (fun _ _ _ _ hs => Lineal.setMethodExpiry hs)
      Lineal.tally g e) r e' hx

end Engine

namespace RegistryOp

open Svc Engine Attempts

theorem founds_act (op : RegistryOp) (hop : ∀ id, op ≠ .reactivateAfterSystemStop id)
    (e : Engine) : KeepsAt Founds op.act e := by
  have lineal : ∀ {α : Type} {m : Svc α}, KeepsAt Lineal m e →
      KeepsAt Founds (do let _ ← m; pure () : Svc Unit) e :=
    fun h => keepsAt_drop (h.mono fun _ _ h => h.founds)
  cases op with
  | registerMethod user gateway token => exact lineal (lineal_registerMethod _ _ _ e)
  | updateMethodExpiry method d => exact (lineal_updateMethodExpiry _ _ e).mono fun _ _ h => h.founds
  | createAttempt method parent chargeAt customAmount retries =>
    exact keepsAt_drop (founds_createAttempt _ _ _ _ _ e)
  | createAttemptFrom d => exact keepsAt_drop (founds_createAttemptFrom _ e)
  | scheduleNext id sub terms =>
    exact keepsAt_bind (reads_get id).keepsAt fun c e₁ _ =>
      keepsAt_drop (founds_scheduleNext c sub terms e₁)
  | transition id t actor u => exact lineal (lineal_transition _ _ _ _ e)
  | claim id => exact lineal (lineal_claim _ e)
  | linkPayment id payment => exact lineal (lineal_linkPayment _ _ e)
  | rearmFailed id => exact lineal (lineal_rearmFailed _ e)
  | stopByUser id => exact lineal (lineal_stopByUser _ e)
  | stopByAdmin id reason => exact lineal (lineal_stopByAdmin _ _ e)
  | reactivateAfterSystemStop id => exact absurd rfl (hop id)
  | reactivateByUser id => exact lineal (lineal_reactivateByUser _ e)

theorem keepsLineage_act (op : RegistryOp) (e : Engine) : KeepsAt KeepsLineage op.act e := by
  by_cases hop : ∃ id, op = .reactivateAfterSystemStop id
  · obtain ⟨id, rfl⟩ := hop
    exact keepsAt_drop (keepsLineage_reactivateAfterSystemStop id e)
  · exact (op.founds_act (fun id h => hop ⟨id, h⟩) e).mono fun _ _ h => h.lineage

end RegistryOp

namespace Engine

theorem Founds.step {e e' : Engine} {op : Op} (hA : WritesNoAttempt e op)
    (hop : ∀ id, op ≠ .registry (.reactivateAfterSystemStop id)) (h : op.Step e e') :
    Founds e e' := by
  by_cases hreg : ∃ op', op = .registry op'
  · obtain ⟨op', rfl⟩ := hreg
    obtain ⟨r, hx⟩ := h
    exact op'.founds_act (fun id h => hop id (congrArg Op.registry h)) e r e' hx
  · exact (Lineal.step hA (fun op' h => hreg ⟨op', h⟩) h).founds

theorem KeepsLineage.step {e e' : Engine} {op : Op} (hA : WritesNoAttempt e op)
    (h : op.Step e e') : KeepsLineage e e' := by
  by_cases hreg : ∃ op', op = .registry op'
  · obtain ⟨op', rfl⟩ := hreg
    obtain ⟨r, hx⟩ := h
    exact op'.keepsLineage_act e r e' hx
  · exact (Lineal.step hA (fun op' h => hreg ⟨op', h⟩) h).founds.lineage

end Engine

open Svc Engine Attempts in
/-- From a store with no attempts, over every run of operations but the direct write of an
attempt: every attempt of a parent but its latest is stopped by the system with no retries left,
so at most one attempt of a parent is outside `systemStop`; making an attempt for a parent that
has one hands back its latest attempt and changes nothing, unless the parent's lock is held; and
no next step but reactivation adds an attempt to a parent that has one. -/
theorem one_live_attempt_per_parent {e e' : Engine} {ops : List Op}
    (hrun : Reach WritesNoAttempt e ops e') (hnone : e.store.rows = []) :
    (∀ p l, e'.store.latestForParent p = some l → ∀ r ∈ e'.store.rows, r.charge.parent = p →
      r.charge.id ≠ l.id → r.charge.state = .systemStop ∧ r.charge.retries = 0) ∧
    (∀ r ∈ e'.store.rows, ∀ r' ∈ e'.store.rows, r.charge.parent = r'.charge.parent →
      r.charge.state ≠ .systemStop → r'.charge.state ≠ .systemStop → r = r') ∧
    (∀ d l, e'.store.latestForParent d.parent = some l → parentKey d.parent ∉ e'.held →
      (createAttemptFrom d).exec e' = .ok (.ok l, e')) ∧
    (∀ method parent chargeAt customAmount retries l, e'.store.latestForParent parent = some l →
      parentKey parent ∉ e'.held →
      (createAttempt method parent chargeAt customAmount retries).exec e' = .ok (.ok l, e')) ∧
    (∀ charged sub terms pid l, charged.payment = some pid → e'.store.latestForParent pid = some l →
      ReadsAt (scheduleNext charged sub terms) e' (e'.store.latestForParent pid = some ·)) ∧
    (∀ op e'', WritesNoAttempt e' op → (∀ id, op ≠ .registry (.reactivateAfterSystemStop id)) →
      op.Step e' e'' → ∀ p, e'.store.rowsOf p ≠ [] →
        (e''.store.rowsOf p).map (·.charge.id) = (e'.store.rowsOf p).map (·.charge.id)) := by
  have hL : e'.store.Lineage :=
    hrun.invariant (fun _ _ _ _ hA hL hs => KeepsLineage.step hA hs hL)
      (Store.Lineage.of_rows_nil hnone)
  refine ⟨fun p l hl r hr hp hne => hL.retired_of_latest hl hr hp hne,
    fun r hr r' hr' hp => hL.eq_of_live hr hr' hp, fun d l hl hkey => ?_,
    fun _ _ _ _ _ l hl hkey => exec_createAttempt_of_latest hl hkey,
    fun _ sub terms _ l hpid hl => readsAt_scheduleNext hpid sub terms hl,
    fun op e'' hA hop hs => (Founds.step hA hop hs).noSecond⟩
  exact (exec_createAttemptFrom_of_latest hl).trans (if_neg hkey)

open Attempts in
/-- Asking again for an attempt of a parent that has one hands back the first. -/
theorem one_live_attempt_per_parent_after_create :
    let p₀ : Payment :=
      { id := Ident.ofSerial 1, user := ⟨0⟩, gateway := "test", status := .paid,
        amount := ⟨1999, 2, false⟩, paidAt := none, subscription := none, catalogItem := none,
        address := none, isRecurrent := false, parent := none, note := none,
        errorMessage := none, created := Instant.epoch, updated := Instant.epoch }
    let m₀ : Method :=
      { id := Ident.ofSerial 2, user := ⟨0⟩, gateway := "test", token := "tok", expiresOn := none,
        created := Instant.epoch }
    let e₀ : Engine := { now := Instant.epoch, store := { payments := [p₀], methods := [m₀], serial := 2 } }
    let op : Op := .registry (.createAttempt m₀.id p₀.id Instant.epoch none (some 2))
    let e₁ : Engine := match op.act.exec e₀ with
      | .ok (_, e) => e
      | .error _ => e₀
    let c : Charge := Charge.ofDraft (Ident.ofSerial 3)
      { method := m₀.id, parent := p₀.id, chargeAt := Instant.epoch, retries := 2,
        customAmount := none, renewalItem := none, note := none } "tok" Instant.epoch
    Reach WritesNoAttempt e₀ [op] e₁ ∧ e₀.store.rows = [] ∧
      (createAttempt m₀.id p₀.id Instant.epoch none (some 5)).exec e₁ = .ok (.ok c, e₁) := by
  intro p₀ m₀ e₀ op e₁ c
  have hrun : Reach WritesNoAttempt e₀ [op] e₁ := .cons (fun _ h => Op.noConfusion h) ⟨_, rfl⟩ (.nil _)
  have hnone : e₀.store.rows = [] := rfl
  have hl : e₁.store.latestForParent p₀.id = some c := by
    simp only [e₁, c, op, e₀, m₀, p₀]
    rfl
  have hheld : e₁.held = [] := by
    simp only [e₁, op, e₀, m₀, p₀]
    rfl
  obtain ⟨-, -, -, hcreate, -⟩ := one_live_attempt_per_parent hrun hnone
  exact ⟨hrun, hnone, hcreate _ _ _ _ _ c hl (by rw [hheld]; exact List.not_mem_nil)⟩

end Rebill
