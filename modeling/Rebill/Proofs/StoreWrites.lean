import Mathlib.Data.Nat.ModEq
import Mathlib.Data.Nat.Prime.Basic
import Mathlib.Data.List.Nodup
import Rebill.Store.Basic

/-!
# What the store's writes do to its views

Every question the billing core asks the store goes through two lookups: `Store.payment?` and
`Store.row?` (with `Store.charge?`, the row read with its method's token). This module says, once
for each write of the store, what the write does to these lookups, so that later proofs never
unfold a write.

It also gives the store's shape that the operations keep: attempts have distinct identifiers,
and no identifier held by the store is one that `Store.fresh` has yet to hand out. The second half
rests on `Ident.ofSerial_injective`: identifiers made from different serials differ.
-/

namespace Rebill

/-! ## Identifiers made from serials -/

namespace Ident

private theorem layout_injective {f g q r : Nat} (hf : f < 2 ^ 122) (hg : g < 2 ^ 122)
    (h : f / 2 ^ 74 * 2 ^ 80 + (0x4000 + f / 2 ^ 62 % 2 ^ 12) * 2 ^ 64 +
          (0x8000 + f / 2 ^ 48 % 2 ^ 14) * 2 ^ 48 + f % 2 ^ 48 + 2 ^ 128 * q =
        g / 2 ^ 74 * 2 ^ 80 + (0x4000 + g / 2 ^ 62 % 2 ^ 12) * 2 ^ 64 +
          (0x8000 + g / 2 ^ 48 % 2 ^ 14) * 2 ^ 48 + g % 2 ^ 48 + 2 ^ 128 * r) :
    f = g ∧ q = r := by
  omega

private theorem free_injective {n m : Nat}
    (h : (n * spread + 0x5DEECE66D) % 2 ^ 122 = (m * spread + 0x5DEECE66D) % 2 ^ 122) :
    n % 2 ^ 122 = m % 2 ^ 122 := by
  have hodd : Nat.Coprime (2 ^ 122) spread :=
    Nat.Coprime.pow_left 122 (Nat.coprime_two_left.mpr (Nat.odd_iff.mpr rfl))
  have hscaled : n * spread ≡ m * spread [MOD 2 ^ 122] := Nat.ModEq.add_right_cancel' _ h
  exact Nat.ModEq.cancel_right_of_coprime hodd hscaled

theorem ofSerial_injective : Function.Injective ofSerial := by
  intro n m h
  simp only [ofSerial, Ident.mk.injEq, Nat.pow_eq] at h
  have hlayout := layout_injective (Nat.mod_lt _ (Nat.two_pow_pos 122))
    (Nat.mod_lt _ (Nat.two_pow_pos 122)) h
  have hres := free_injective hlayout.1
  rw [← Nat.div_add_mod n (2 ^ 122), ← Nat.div_add_mod m (2 ^ 122), hres, hlayout.2]

end Ident

/-! ## Lookups in lists written by key -/

section Keyed

variable {α : Type} (key : α → Ident)

theorem find?_upsert (x : α) (k : Ident) (l : List α) :
    (upsert key x l).find? (key · == k) = if key x = k then some x else l.find? (key · == k) := by
  induction l with
  | nil => by_cases hx : key x = k <;> simp [upsert, hx]
  | cons y ys ih =>
    by_cases hyx : key y = key x
    · rw [upsert, if_pos hyx]
      by_cases hx : key x = k
      · rw [if_pos hx, List.find?_cons_of_pos (by simpa using hx)]
      · rw [if_neg hx, List.find?_cons_of_neg (by simpa using hx),
          List.find?_cons_of_neg (by simpa [hyx] using hx)]
    · rw [upsert, if_neg hyx]
      by_cases hy : key y = k
      · have hx : key x ≠ k := fun hx => hyx (hy.trans hx.symm)
        rw [List.find?_cons_of_pos (by simpa using hy), if_neg hx,
          List.find?_cons_of_pos (by simpa using hy)]
      · rw [List.find?_cons_of_neg (by simpa using hy), ih,
          @List.find?_cons_of_neg _ (fun z => key z == k) y ys (by simpa using hy)]

theorem find?_modifyFirst (k k' : Ident) (f : α → α) (hf : ∀ y, key y = k → key (f y) = k)
    (l : List α) :
    (modifyFirst key k f l).find? (key · == k') =
      if k = k' then (l.find? (key · == k)).map f else l.find? (key · == k') := by
  induction l with
  | nil => by_cases hk : k = k' <;> simp [modifyFirst, hk]
  | cons y ys ih =>
    by_cases hy : key y = k
    · rw [modifyFirst, if_pos hy]
      by_cases hk : k = k' <;> simp [hy, hk, hf y hy]
    · rw [modifyFirst, if_neg hy,
        @List.find?_cons_of_neg _ (fun z => key z == k) y ys (by simpa using hy)]
      by_cases hy' : key y = k'
      · have hk : k ≠ k' := fun hk => hy (hy'.trans hk.symm)
        rw [if_neg hk, List.find?_cons_of_pos (by simpa using hy'),
          List.find?_cons_of_pos (by simpa using hy')]
      · rw [List.find?_cons_of_neg (by simpa using hy'), ih,
          @List.find?_cons_of_neg _ (fun z => key z == k') y ys (by simpa using hy')]

theorem map_modifyFirst (k : Ident) (f : α → α) (hf : ∀ y, key y = k → key (f y) = k)
    (l : List α) : (modifyFirst key k f l).map key = l.map key := by
  induction l with
  | nil => rfl
  | cons y ys ih =>
    by_cases hy : key y = k
    · simp [modifyFirst, hy, hf y hy]
    · simp [modifyFirst, hy, ih]

theorem map_upsert (x : α) (l : List α) :
    (upsert key x l).map key =
      if key x ∈ l.map key then l.map key else l.map key ++ [key x] := by
  induction l with
  | nil => simp [upsert]
  | cons y ys ih =>
    by_cases hyx : key y = key x
    · simp [upsert, hyx]
    · have hxy : key x ≠ key y := Ne.symm hyx
      by_cases hmem : key x ∈ ys.map key <;> simp_all [upsert]

theorem mem_map_upsert {x : α} {l : List α} {i : Ident} (hi : i ∈ (upsert key x l).map key) :
    i ∈ l.map key ∨ i = key x := by
  rw [map_upsert] at hi
  split at hi
  · exact .inl hi
  · simpa using hi

theorem find?_of_nodup {l : List α} (hl : (l.map key).Nodup) {x : α} (hx : x ∈ l) :
    l.find? (key · == key x) = some x := by
  induction l with
  | nil => cases hx
  | cons y ys ih =>
    rw [List.map_cons, List.nodup_cons] at hl
    rcases List.mem_cons.mp hx with rfl | hx
    · simp
    · have hne : key y ≠ key x := fun heq => hl.1 (heq ▸ List.mem_map_of_mem hx)
      rw [List.find?_cons_of_neg (by simpa using hne)]
      exact ih hl.2 hx

end Keyed

/-! ## The store's writes, as lookups see them -/

/-- The attempt `r` as `Store.saveCharge` writes `c` over it at `t`. -/
def Charge.savedOver (r c : Charge) (t : Instant) : Charge :=
  { r with state := c.state, status := c.status, payment := c.payment, retries := c.retries,
           chargeAt := c.chargeAt, note := c.note, updated := t }

namespace Store

variable (s : Store)

theorem withToken_congr {s' : Store} (h : s'.methods = s.methods) : s'.withToken = s.withToken := by
  funext c
  simp only [withToken, method?, h]

@[simp] theorem payment?_insertPayment (p : Payment) (x : Ident) :
    (s.insertPayment p).payment? x = if p.id = x then some p else s.payment? x :=
  find?_upsert Payment.id p x s.payments

@[simp] theorem row?_putCharge (c : Charge) (x : Ident) :
    (s.putCharge c).row? x = if c.id = x then some ⟨c, s.seq + 1⟩ else s.row? x :=
  find?_upsert (fun r : ChargeRow => r.charge.id) ⟨c, s.seq + 1⟩ x s.rows

theorem createPayment_eq (d : PaymentDraft) (t : Instant) :
    s.createPayment d t =
      (Payment.ofDraft (Ident.ofSerial (s.serial + 1)) d t,
       { s with serial := s.serial + 1,
                payments := s.payments ++ [Payment.ofDraft (Ident.ofSerial (s.serial + 1)) d t] }) :=
  rfl

theorem payment?_append (p : Payment) (x : Ident) :
    ({ s with payments := s.payments ++ [p] } : Store).payment? x =
      (s.payment? x).or (if p.id = x then some p else none) := by
  by_cases hx : p.id = x <;> simp [payment?, List.find?_append, hx]

theorem savePaymentStatus_eq_ok {id : Ident} {w : StatusWrite} {t : Instant}
    {r : Payment × Store} :
    s.savePaymentStatus id w t = .ok r ↔
      ∃ p, s.payment? id = some p ∧
        r = (p.write w t, { s with payments := modifyFirst (·.id) id (fun _ => p.write w t)
                                                 s.payments }) := by
  unfold savePaymentStatus
  cases hp : s.payment? id with
  | none => simp
  | some p =>
    constructor
    · rintro ⟨⟩
      exact ⟨p, rfl, rfl⟩
    · rintro ⟨q, ⟨⟩, rfl⟩
      rfl

theorem payment?_modifyFirst {id : Ident} {p : Payment} (hp : s.payment? id = some p)
    (p' : Payment) (hid : p'.id = p.id) (x : Ident) :
    ({ s with payments := modifyFirst (·.id) id (fun _ => p') s.payments } : Store).payment? x =
      if id = x then some p' else s.payment? x := by
  have hkey : p.id = id := by simpa using List.find?_some hp
  have := find?_modifyFirst (·.id) id x (fun _ => p') (fun _ _ => hid.trans hkey) s.payments
  simp only [payment?] at hp ⊢
  rw [this, hp]
  rfl

theorem createCharge_eq_ok {d : ChargeDraft} {t : Instant} {r : Charge × Store} :
    s.createCharge d t = .ok r ↔
      ∃ m, s.method? d.method = some m ∧ (s.payment? d.parent).isSome ∧
        r = (Charge.ofDraft (Ident.ofSerial (s.serial + 1)) d m.token t,
             { s with serial := s.serial + 1, seq := s.seq + 1,
                      rows := s.rows ++ [⟨Charge.ofDraft (Ident.ofSerial (s.serial + 1)) d m.token t,
                                          s.seq + 1⟩] }) := by
  unfold createCharge
  cases hm : s.method? d.method with
  | none => simp
  | some m =>
    by_cases hparent : (s.payment? d.parent).isSome
    · have hnone : (s.payment? d.parent).isNone = false := by simpa using hparent
      simp only [hnone, Bool.false_eq_true, if_false]
      constructor
      · rintro ⟨⟩
        exact ⟨m, rfl, hparent, rfl⟩
      · rintro ⟨m', ⟨⟩, -, rfl⟩
        rfl
    · have hnone : (s.payment? d.parent).isNone = true := by simpa using hparent
      simp [hnone, hparent]

theorem saveCharge_eq_ok {c : Charge} {t : Instant} {r : Charge × Store} :
    s.saveCharge c t = .ok r ↔
      ∃ row, s.row? c.id = some row ∧
        r = (s.withToken (row.charge.savedOver c t),
             { s with rows := modifyFirst (·.charge.id) c.id
                                (fun r => { r with charge := row.charge.savedOver c t }) s.rows }) := by
  unfold saveCharge
  cases hr : s.row? c.id with
  | none => simp
  | some row =>
    constructor
    · rintro ⟨⟩
      exact ⟨row, rfl, rfl⟩
    · rintro ⟨row', ⟨⟩, rfl⟩
      rfl

theorem row?_modifyFirst {id : Ident} {row : ChargeRow} (hr : s.row? id = some row) (c : Charge)
    (hid : c.id = row.charge.id) (x : Ident) :
    ({ s with rows := modifyFirst (·.charge.id) id (fun r => { r with charge := c }) s.rows } :
        Store).row? x =
      if id = x then some { row with charge := c } else s.row? x := by
  have hkey : row.charge.id = id := by simpa using List.find?_some hr
  have := find?_modifyFirst (fun r : ChargeRow => r.charge.id) id x (fun r => { r with charge := c })
    (fun _ _ => hid.trans hkey) s.rows
  simp only [row?] at hr ⊢
  rw [this, hr]
  rfl

theorem withToken_eq (c : Charge) :
    s.withToken c = { c with token := ((s.method? c.method).map (·.token)).getD c.token } := by
  unfold withToken
  split <;> simp_all

theorem row?_append {s' : Store} {r : ChargeRow} (h : s'.rows = s.rows ++ [r]) (x : Ident) :
    s'.row? x = (s.row? x).or (if r.charge.id = x then some r else none) := by
  by_cases hx : r.charge.id = x <;> simp [row?, h, List.find?_append, hx]

@[simp] theorem withToken_id (c : Charge) : (s.withToken c).id = c.id := by
  rw [withToken_eq]

theorem charge?_eq_some {id : Ident} {c : Charge} :
    s.charge? id = some c ↔ ∃ r, s.row? id = some r ∧ c = s.withToken r.charge := by
  simp only [charge?, Option.map_eq_some_iff]
  exact ⟨fun ⟨r, hr, hc⟩ => ⟨r, hr, hc.symm⟩, fun ⟨r, hr, hc⟩ => ⟨r, hr, hc.symm⟩⟩

theorem id_of_row? {id : Ident} {r : ChargeRow} (h : s.row? id = some r) : r.charge.id = id := by
  simpa using List.find?_some h

theorem id_of_charge? {id : Ident} {c : Charge} (h : s.charge? id = some c) : c.id = id := by
  obtain ⟨r, hr, rfl⟩ := (charge?_eq_some s).mp h
  rw [withToken_id, id_of_row? s hr]

theorem id_of_payment? {id : Ident} {p : Payment} (h : s.payment? id = some p) : p.id = id := by
  simpa using List.find?_some h

theorem saveCharge_of_charge? {id : Ident} {c c' : Charge} (hc : s.charge? id = some c)
    (hid : c'.id = id) (t : Instant) : ∃ v s', s.saveCharge c' t = .ok (v, s') := by
  obtain ⟨r, hr, -⟩ := (charge?_eq_some s).mp hc
  exact ⟨_, _, (saveCharge_eq_ok s).mpr ⟨r, hid ▸ hr, rfl⟩⟩

theorem saveCharge_read {c v : Charge} {t : Instant} {s' : Store}
    (h : s.saveCharge c t = .ok (v, s')) :
    s'.charge? c.id = some v ∧ v.id = c.id ∧ v.state = c.state ∧ v.status = c.status ∧
      v.payment = c.payment ∧ v.retries = c.retries ∧ v.chargeAt = c.chargeAt ∧
      v.note = c.note ∧ v.updated = t := by
  obtain ⟨row, hrow, heq⟩ := (saveCharge_eq_ok s).mp h
  cases heq
  have hid : row.charge.id = c.id := id_of_row? s hrow
  refine ⟨?_, by simpa [Charge.savedOver] using hid, by simp [withToken_eq, Charge.savedOver],
    by simp [withToken_eq, Charge.savedOver], by simp [withToken_eq, Charge.savedOver],
    by simp [withToken_eq, Charge.savedOver], by simp [withToken_eq, Charge.savedOver],
    by simp [withToken_eq, Charge.savedOver], by simp [withToken_eq, Charge.savedOver]⟩
  simp only [charge?]
  rw [row?_modifyFirst s hrow (row.charge.savedOver c t) rfl, if_pos rfl]
  rfl

theorem charge?_saveCharge {c v : Charge} {t : Instant} {s' : Store}
    (h : s.saveCharge c t = .ok (v, s')) (x : Ident) :
    s'.charge? x = if c.id = x then some v else s.charge? x := by
  split
  · next hx =>
    subst hx
    exact (saveCharge_read s h).1
  · next hx =>
    obtain ⟨row, hrow, heq⟩ := (saveCharge_eq_ok s).mp h
    cases heq
    simp only [charge?]
    rw [row?_modifyFirst s hrow (row.charge.savedOver c t) rfl, if_neg hx]
    rfl

theorem payments_of_saveCharge {c v : Charge} {t : Instant} {s' : Store}
    (h : s.saveCharge c t = .ok (v, s')) : s'.payments = s.payments := by
  obtain ⟨row, -, heq⟩ := (saveCharge_eq_ok s).mp h
  cases heq
  rfl

theorem charge?_createCharge {d : ChargeDraft} {t : Instant} {c : Charge} {s' : Store}
    (h : s.createCharge d t = .ok (c, s')) {x : Ident} {c₀ : Charge} (hx : s.charge? x = some c₀) :
    s'.charge? x = some c₀ := by
  obtain ⟨m, -, -, heq⟩ := (createCharge_eq_ok s).mp h
  cases heq
  obtain ⟨r, hr, rfl⟩ := (charge?_eq_some s).mp hx
  have hrow : (Store.mk s.payments s.methods
      (s.rows ++ [⟨Charge.ofDraft (Ident.ofSerial (s.serial + 1)) d m.token t, s.seq + 1⟩])
      s.audit (s.seq + 1) (s.serial + 1)).row? x = some r := by
    rw [row?_append s rfl, hr, Option.some_or]
  simp only [charge?, hrow, Option.map_some]
  rfl

/-! ## Well-formed stores -/

/-- The identifiers a store holds: of its payments, its methods and its attempts. -/
def ids : List Ident := s.payments.map (·.id) ++ s.methods.map (·.id) ++ s.rows.map (·.charge.id)

/-- An identifier that the store has handed out, or that no serial makes: `fresh` never hands it
out again. -/
def Issued (i : Ident) : Prop := ∀ k, s.serial < k → i ≠ Ident.ofSerial k

/-- A store whose attempts have distinct identifiers and which holds only identifiers that it
will never hand out again. -/
structure Wf : Prop where
  rows_nodup : (s.rows.map (·.charge.id)).Nodup
  issued : ∀ i ∈ s.ids, s.Issued i

variable {s}

theorem Issued.mono {s' : Store} {i : Ident} (h : s.Issued i) (hle : s.serial ≤ s'.serial) :
    s'.Issued i :=
  fun k hk => h k (Nat.lt_of_le_of_lt hle hk)

theorem issued_fresh : ({ s with serial := s.serial + 1 } : Store).Issued
    (Ident.ofSerial (s.serial + 1)) :=
  fun _ hk heq => Nat.ne_of_lt hk (Ident.ofSerial_injective heq)

theorem Wf.fresh_not_mem (h : s.Wf) : Ident.ofSerial (s.serial + 1) ∉ s.ids :=
  fun hmem => h.issued _ hmem (s.serial + 1) (Nat.lt_succ_self _) rfl

theorem Wf.payment?_fresh (h : s.Wf) : s.payment? (Ident.ofSerial (s.serial + 1)) = none := by
  rw [payment?, List.find?_eq_none]
  intro p hp heq
  have hid : p.id = Ident.ofSerial (s.serial + 1) := by simpa using heq
  exact h.fresh_not_mem (by simp only [ids, List.mem_append, List.mem_map]; exact .inl (.inl ⟨p, hp, hid⟩))

theorem Wf.of_ids {s' : Store} (h : s.Wf) (hrows : (s'.rows.map (·.charge.id)).Nodup)
    (hser : s.serial ≤ s'.serial) (hids : ∀ i ∈ s'.ids, i ∈ s.ids ∨ s'.Issued i) : s'.Wf :=
  ⟨hrows, fun i hi => (hids i hi).elim (fun hm => (h.issued i hm).mono hser) id⟩

theorem mem_ids {i : Ident} : i ∈ s.ids ↔
    i ∈ s.payments.map (·.id) ∨ i ∈ s.methods.map (·.id) ∨ i ∈ s.rows.map (·.charge.id) := by
  simp only [ids, List.mem_append, or_assoc]

theorem Wf.insertPayment (h : s.Wf) {p : Payment} (hp : s.Issued p.id) : (s.insertPayment p).Wf := by
  refine h.of_ids h.rows_nodup (Nat.le_refl _) fun i hi => ?_
  rcases mem_ids.mp hi with hi | hi | hi
  · rcases mem_map_upsert Payment.id hi with hi | rfl
    · exact .inl (mem_ids.mpr (.inl hi))
    · exact .inr hp
  · exact .inl (mem_ids.mpr (.inr (.inl hi)))
  · exact .inl (mem_ids.mpr (.inr (.inr hi)))

theorem Wf.putCharge (h : s.Wf) {c : Charge} (hc : s.Issued c.id) : (s.putCharge c).Wf := by
  have hrows : ((s.putCharge c).rows.map (·.charge.id)).Nodup := by
    show ((upsert (fun r : ChargeRow => r.charge.id) ⟨c, s.seq + 1⟩ s.rows).map
      (fun r : ChargeRow => r.charge.id)).Nodup
    rw [map_upsert]
    split
    · exact h.rows_nodup
    · exact List.nodup_append.mpr ⟨h.rows_nodup, List.nodup_singleton _,
        fun a ha b hb => by rw [List.mem_singleton.mp hb]; rintro rfl; exact ‹¬_› ha⟩
  refine h.of_ids hrows (Nat.le_refl _) fun i hi => ?_
  rcases mem_ids.mp hi with hi | hi | hi
  · exact .inl (mem_ids.mpr (.inl hi))
  · exact .inl (mem_ids.mpr (.inr (.inl hi)))
  · rcases mem_map_upsert (fun r : ChargeRow => r.charge.id) hi with hi | rfl
    · exact .inl (mem_ids.mpr (.inr (.inr hi)))
    · exact .inr hc

theorem Wf.createPayment (h : s.Wf) (d : PaymentDraft) (t : Instant) :
    (s.createPayment d t).2.Wf := by
  rw [createPayment_eq]
  refine h.of_ids h.rows_nodup (Nat.le_succ _) fun i hi => ?_
  rcases mem_ids.mp hi with hi | hi | hi
  · simp only [List.map_append, List.mem_append, List.map_cons, List.map_nil,
      List.mem_singleton] at hi
    rcases hi with hi | rfl
    · exact .inl (mem_ids.mpr (.inl hi))
    · exact .inr issued_fresh
  · exact .inl (mem_ids.mpr (.inr (.inl hi)))
  · exact .inl (mem_ids.mpr (.inr (.inr hi)))

theorem Wf.savePaymentStatus (h : s.Wf) {id : Ident} {w : StatusWrite} {t : Instant}
    {p' : Payment} {s' : Store} (hs : s.savePaymentStatus id w t = .ok (p', s')) : s'.Wf := by
  obtain ⟨p, hp, heq⟩ := (savePaymentStatus_eq_ok s).mp hs
  cases heq
  have hkey : p.id = id := by simpa using List.find?_some hp
  have hpay := map_modifyFirst Payment.id id (fun _ => p.write w t) (fun _ _ => hkey) s.payments
  refine h.of_ids h.rows_nodup (Nat.le_refl _) fun i hi => .inl ?_
  rcases mem_ids.mp hi with hi | hi | hi
  · exact mem_ids.mpr (.inl (hpay ▸ hi))
  · exact mem_ids.mpr (.inr (.inl hi))
  · exact mem_ids.mpr (.inr (.inr hi))

theorem Wf.appendAudit (h : s.Wf) (a : AuditEntry) : (s.appendAudit a).Wf :=
  ⟨h.rows_nodup, h.issued⟩

theorem Wf.findOrCreateMethod (h : s.Wf) (user : Ident) (gateway token : String) (t : Instant) :
    (s.findOrCreateMethod user gateway token t).2.Wf := by
  unfold Store.findOrCreateMethod
  split
  · exact h
  · refine h.of_ids h.rows_nodup (Nat.le_succ _) fun i hi => ?_
    rcases mem_ids.mp hi with hi | hi | hi
    · exact .inl (mem_ids.mpr (.inl hi))
    · simp only [fresh, List.map_append, List.mem_append, List.map_cons, List.map_nil,
        List.mem_singleton] at hi
      rcases hi with hi | rfl
      · exact .inl (mem_ids.mpr (.inr (.inl hi)))
      · exact .inr issued_fresh
    · exact .inl (mem_ids.mpr (.inr (.inr hi)))

theorem Wf.setMethodExpiry (h : s.Wf) {id : Ident} {d : Date} {s' : Store}
    (hs : s.setMethodExpiry id d = .ok s') : s'.Wf := by
  unfold Store.setMethodExpiry at hs
  split at hs
  · cases hs
  · cases hs
    have hm := map_modifyFirst Method.id id (fun m => { m with expiresOn := some d })
      (fun _ hy => hy) s.methods
    refine h.of_ids h.rows_nodup (Nat.le_refl _) fun i hi => .inl ?_
    rcases mem_ids.mp hi with hi | hi | hi
    · exact mem_ids.mpr (.inl hi)
    · exact mem_ids.mpr (.inr (.inl (hm ▸ hi)))
    · exact mem_ids.mpr (.inr (.inr hi))

theorem Wf.createCharge (h : s.Wf) {d : ChargeDraft} {t : Instant} {c : Charge} {s' : Store}
    (hs : s.createCharge d t = .ok (c, s')) : s'.Wf := by
  obtain ⟨m, -, -, heq⟩ := (createCharge_eq_ok s).mp hs
  cases heq
  have hnew : Ident.ofSerial (s.serial + 1) ∉ s.rows.map (·.charge.id) :=
    fun hm => h.fresh_not_mem (mem_ids.mpr (.inr (.inr hm)))
  have hrows : ((s.rows ++ [(⟨Charge.ofDraft (Ident.ofSerial (s.serial + 1)) d m.token t,
      s.seq + 1⟩ : ChargeRow)]).map (·.charge.id)).Nodup := by
    rw [List.map_append]
    exact List.nodup_append.mpr ⟨h.rows_nodup, List.nodup_singleton _,
      fun a ha b hb => by rw [List.mem_singleton.mp hb]; rintro rfl; exact hnew ha⟩
  refine h.of_ids hrows (Nat.le_succ _) fun i hi => ?_
  rcases mem_ids.mp hi with hi | hi | hi
  · exact .inl (mem_ids.mpr (.inl hi))
  · exact .inl (mem_ids.mpr (.inr (.inl hi)))
  · simp only [List.map_append, List.mem_append, List.map_cons, List.map_nil,
      List.mem_singleton] at hi
    rcases hi with hi | rfl
    · exact .inl (mem_ids.mpr (.inr (.inr hi)))
    · exact .inr issued_fresh

theorem Wf.saveCharge (h : s.Wf) {c v : Charge} {t : Instant} {s' : Store}
    (hs : s.saveCharge c t = .ok (v, s')) : s'.Wf := by
  obtain ⟨row, hr, heq⟩ := (saveCharge_eq_ok s).mp hs
  cases heq
  have hkey : row.charge.id = c.id := by simpa using List.find?_some hr
  have hrows := map_modifyFirst (fun r : ChargeRow => r.charge.id) c.id
    (fun r => { r with charge := row.charge.savedOver c t }) (fun _ _ => hkey) s.rows
  refine h.of_ids (hrows ▸ h.rows_nodup) (Nat.le_refl _) fun i hi => .inl ?_
  rcases mem_ids.mp hi with hi | hi | hi
  · exact mem_ids.mpr (.inl hi)
  · exact mem_ids.mpr (.inr (.inl hi))
  · exact mem_ids.mpr (.inr (.inr (hrows ▸ hi)))

/-! ## What well-formedness gives -/

theorem Wf.row?_of_mem (h : s.Wf) {r : ChargeRow} (hr : r ∈ s.rows) : s.row? r.charge.id = some r :=
  find?_of_nodup (fun r : ChargeRow => r.charge.id) h.rows_nodup hr

theorem Wf.charge?_of_mem (h : s.Wf) {c : Charge} (hc : c ∈ s.charges) : s.charge? c.id = some c := by
  obtain ⟨r, hr, rfl⟩ := List.mem_map.mp hc
  simp [charge?, h.row?_of_mem hr]

theorem map_id_charges : s.charges.map (·.id) = s.rows.map (·.charge.id) := by
  simp [charges, Function.comp_def]

theorem findChargeable_perm (sh : Shuffle) (t : Instant) (ids : Option (List Ident)) :
    (s.findChargeable sh t ids).Perm (s.findChargeable .keep t ids) :=
  sh.perm _

theorem of_mem_findChargeable {sh : Shuffle} {t : Instant} {ids : Option (List Ident)} {c : Charge}
    (h : c ∈ s.findChargeable sh t ids) :
    c ∈ s.charges ∧ c.state = .active ∧ c.status = none ∧ 0 ≤ c.retries ∧ c.chargeAt ≤ t := by
  rw [(s.findChargeable_perm sh t ids).mem_iff] at h
  simp only [findChargeable, Shuffle.keep, id, List.mem_filter, isDue, Bool.and_eq_true, beq_iff_eq,
    Option.isNone_iff_eq_none, decide_eq_true_eq] at h
  exact ⟨h.1.1, h.1.2.1.1.1, h.1.2.1.1.2, h.1.2.1.2, h.1.2.2⟩

theorem Wf.nodup_findChargeable (h : s.Wf) (sh : Shuffle) (t : Instant) (ids : Option (List Ident)) :
    ((s.findChargeable sh t ids).map (·.id)).Nodup := by
  have hsub : List.Sublist (s.findChargeable .keep t ids) s.charges :=
    List.filter_sublist.trans List.filter_sublist
  exact ((s.findChargeable_perm sh t ids).map _).nodup_iff.mpr
    ((hsub.map _).nodup (map_id_charges ▸ h.rows_nodup))

end Store

end Rebill
