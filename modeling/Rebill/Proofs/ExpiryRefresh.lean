import Rebill.Proofs.Effects
import Rebill.Service.Expiry

/-!
# Refreshing expiry dates

`Expiry.refresh` asks a gateway when the tokens of its stored methods expire, and writes the dates
that changed. The gateway answers with a map from tokens to dates, read here by `List.lookup`; a
token it gives no date keeps the one it has.

A method is *stale* under an answer (`Method.stale`) when the answer gives its token a date and
the method stores another date, or none. Main statement, `refresh_writes_the_stale_dates`: in a
store whose methods have distinct identifiers, as the store keys them,

* a refresh of a registered gateway that can tell expiry dates writes the answered date on
  exactly the stale methods of the gateway, leaves every other method as it was (methods of other
  gateways, methods the answer skips, several users' methods on one token alike), and answers how
  many it wrote;
* nothing of the gateway is stale afterwards, so a second refresh against the same answers writes
  nothing and answers `0`;
* an unknown gateway is an error, a gateway that cannot tell answers `0`, and a gateway that fails
  to answer is an error that is counted; none of them changes a method.

The loop of the refresh writes the listed methods one at a time (`exec_writeChanged`). Each write
changes the method with its identifier and no other, because identifiers are distinct, so the
loop comes to one pass over the stored methods (`map_refresh_cons`).
-/

namespace Rebill

namespace Method

variable (answers : List (String × Date)) (m : Method)

/-- The method with the date the answers give its token, when they give one. -/
def refresh : Method :=
  match answers.lookup m.token with
  | some d => { m with expiresOn := some d }
  | none => m

/-- The answers give the method's token a date other than the one it stores. -/
def stale : Bool :=
  (answers.lookup m.token).isSome && decide (m.expiresOn ≠ answers.lookup m.token)

@[simp] theorem refresh_id : (m.refresh answers).id = m.id := by
  unfold refresh; split <;> rfl
@[simp] theorem refresh_gateway : (m.refresh answers).gateway = m.gateway := by
  unfold refresh; split <;> rfl
@[simp] theorem refresh_token : (m.refresh answers).token = m.token := by
  unfold refresh; split <;> rfl

theorem refresh_of_stale (h : m.stale answers = true) :
    m.refresh answers = { m with expiresOn := answers.lookup m.token } := by
  unfold refresh
  split
  · next d hd => rw [hd]
  · next hd => simp [stale, hd] at h

theorem refresh_of_not_stale (h : m.stale answers = false) : m.refresh answers = m := by
  unfold refresh
  split
  · next d hd =>
    have hsame : m.expiresOn = some d := by simpa [stale, hd] using h
    rw [← hsame]
  · rfl

theorem stale_refresh : (m.refresh answers).stale answers = false := by
  unfold refresh
  split
  · next d hd => simp [stale, hd]
  · next hd => simp [stale, hd]

theorem stale_iff : m.stale answers = true ↔ ∃ d, answers.lookup m.token = some d ∧ m.expiresOn ≠ some d := by
  unfold stale
  cases answers.lookup m.token <;> simp

theorem lookup_eq_find? (answers : List (String × Date)) (t : String) :
    answers.lookup t = (answers.find? (·.1 == t)).map (·.2) := by
  induction answers with
  | nil => rfl
  | cons a rest ih =>
    obtain ⟨k, d⟩ := a
    by_cases hk : k = t
    · subst hk
      simp
    · have hk' : (t == k) = false := by simpa using Ne.symm hk
      simp [List.lookup_cons, hk', hk, ih]

end Method

section Keyed

variable {α : Type} (key : α → Ident)

theorem modifyFirst_eq_map {k : Ident} (f : α → α) :
    ∀ {l : List α}, (l.map key).Nodup → modifyFirst key k f l = l.map fun y => if key y = k then f y else y
  | [], _ => rfl
  | y :: ys, hl => by
    rw [List.map_cons, List.nodup_cons] at hl
    by_cases hy : key y = k
    · have hrest : ys.map (fun z => if key z = k then f z else z) = ys := by
        refine (List.map_congr_left fun z hz => ?_).trans (List.map_id' ys)
        have hzk : key z ≠ k := fun hzk => hl.1 (by rw [hy, ← hzk]; exact List.mem_map_of_mem hz)
        rw [if_neg hzk]
      simp [modifyFirst, hy, hrest]
    · simp [modifyFirst, hy, modifyFirst_eq_map f hl.2]

theorem eq_of_key_eq {l : List α} (hl : (l.map key).Nodup) {x y : α} (hx : x ∈ l) (hy : y ∈ l)
    (h : key x = key y) : x = y :=
  List.inj_on_of_nodup_map hl hx hy h

end Keyed

namespace Store

/-- The store with the answered date written on every stale method of the gateway, and every
other method as it was. -/
def refreshed (s : Store) (gateway : String) (answers : List (String × Date)) : Store :=
  { s with methods := s.methods.map fun m =>
      if m.gateway = gateway ∧ m.stale answers = true then { m with expiresOn := answers.lookup m.token }
      else m }

variable {s : Store} {answers : List (String × Date)}

theorem map_id_refreshed (gateway : String) :
    (s.refreshed gateway answers).methods.map (·.id) = s.methods.map (·.id) := by
  simp only [refreshed, List.map_map]
  exact List.map_congr_left fun m _ => by simp only [Function.comp_apply]; split <;> rfl

theorem refreshed_eq_map (gateway : String) :
    (s.refreshed gateway answers).methods =
      s.methods.map fun m => if m.gateway = gateway then m.refresh answers else m := by
  refine List.map_congr_left fun m _ => ?_
  by_cases hg : m.gateway = gateway
  · rw [if_pos hg]
    cases hst : m.stale answers
    · rw [if_neg fun h => Bool.false_ne_true h.2, Method.refresh_of_not_stale answers m hst]
    · rw [if_pos ⟨hg, rfl⟩, Method.refresh_of_stale answers m hst]
  · rw [if_neg hg, if_neg fun h => hg h.1]

theorem stale_of_refreshed {gateway : String} {m : Method}
    (hm : m ∈ (s.refreshed gateway answers).methods) (hg : m.gateway = gateway) :
    m.stale answers = false := by
  rw [refreshed_eq_map] at hm
  obtain ⟨m₀, -, rfl⟩ := List.mem_map.mp hm
  by_cases hg₀ : m₀.gateway = gateway
  · simp only [hg₀, if_true]
    exact Method.stale_refresh answers m₀
  · simp [hg₀] at hg

theorem refreshed_of_fresh {gateway : String}
    (h : ∀ m ∈ s.methods, m.gateway = gateway → m.stale answers = false) :
    s.refreshed gateway answers = s := by
  have hmethods : (s.refreshed gateway answers).methods = s.methods := by
    refine (List.map_congr_left fun m hm => ?_).trans (List.map_id' s.methods)
    by_cases hg : m.gateway = gateway
    · simp [hg, h m hm hg]
    · simp [hg]
  cases s
  simp only [refreshed] at hmethods ⊢
  rw [hmethods]

theorem methodsOfGateway_perm (gateway : String) :
    (s.methodsOfGateway gateway).Perm (s.methods.filter (·.gateway == gateway)) :=
  List.mergeSort_perm _ _

theorem mem_methodsOfGateway {gateway : String} {m : Method} :
    m ∈ s.methodsOfGateway gateway ↔ m ∈ s.methods ∧ m.gateway = gateway := by
  simp [methodsOfGateway, List.mem_mergeSort]

theorem nodup_methodsOfGateway (hkeyed : (s.methods.map (·.id)).Nodup) (gateway : String) :
    ((s.methodsOfGateway gateway).map (·.id)).Nodup :=
  ((methodsOfGateway_perm gateway).map _).nodup_iff.mpr
    ((List.filter_sublist.map _).nodup hkeyed)

theorem setMethodExpiry_eq_map (hkeyed : (s.methods.map (·.id)).Nodup) {m : Method}
    (hm : m ∈ s.methods) (d : Date) :
    s.setMethodExpiry m.id d =
      .ok { s with methods := s.methods.map fun y => if y.id = m.id then { y with expiresOn := some d } else y } := by
  have hfound : s.method? m.id = some m := find?_of_nodup Method.id hkeyed hm
  simp only [setMethodExpiry, hfound]
  rw [modifyFirst_eq_map Method.id _ hkeyed]

theorem id_mem_methodsOfGateway (hkeyed : (s.methods.map (·.id)).Nodup) {gateway : String}
    {m : Method} (hm : m ∈ s.methods) :
    m.id ∈ (s.methodsOfGateway gateway).map (·.id) ↔ m.gateway = gateway := by
  constructor
  · intro hid
    obtain ⟨y, hy, hym⟩ := List.mem_map.mp hid
    obtain ⟨hys, hyg⟩ := mem_methodsOfGateway.mp hy
    rw [← eq_of_key_eq Method.id hkeyed hys hm hym]
    exact hyg
  · intro hg
    exact List.mem_map_of_mem (mem_methodsOfGateway.mpr ⟨hm, hg⟩)

theorem mem_tokens_methodsOfGateway {gateway t : String} :
    t ∈ (s.methodsOfGateway gateway).map (·.token) ↔
      ∃ m ∈ s.methods, m.gateway = gateway ∧ m.token = t := by
  simp only [List.mem_map, mem_methodsOfGateway, and_assoc]

theorem mem_tokens_refreshed {gateway t : String} :
    t ∈ ((s.refreshed gateway answers).methodsOfGateway gateway).map (·.token) ↔
      t ∈ (s.methodsOfGateway gateway).map (·.token) := by
  rw [mem_tokens_methodsOfGateway, mem_tokens_methodsOfGateway, refreshed_eq_map]
  simp only [List.mem_map]
  constructor
  · rintro ⟨_, ⟨m, hm, rfl⟩, hg, rfl⟩
    refine ⟨m, hm, ?_, ?_⟩ <;> split at hg <;> simp_all
  · rintro ⟨m, hm, hg, rfl⟩
    exact ⟨_, ⟨m, hm, rfl⟩, by simp [hg]⟩

end Store

namespace Gateway

theorem checkExpire_congr (g : Gateway) {ts ts' : List String} (h : ∀ t, t ∈ ts ↔ t ∈ ts') :
    g.checkExpire ts = g.checkExpire ts' := by
  unfold checkExpire
  split
  · rfl
  · congr 1
    exact List.filter_congr fun a _ => Bool.eq_iff_iff.mpr (by rw [List.contains_iff_mem, List.contains_iff_mem, h])

end Gateway

namespace Expiry

open Svc Store

variable (answers : List (String × Date))

/-- Over stored methods with distinct identifiers, refreshing the methods of `m :: rest` is
changing `m` as its refresh does, then refreshing those of `rest`. -/
theorem map_refresh_cons {l : List Method} (hl : (l.map (·.id)).Nodup) {m : Method} (hm : m ∈ l)
    {rest : List Method} (hrest : m.id ∉ rest.map (·.id)) :
    l.map (fun y => if y.id ∈ (m :: rest).map (·.id) then y.refresh answers else y) =
      (l.map fun y => if y.id = m.id then m.refresh answers else y).map fun y =>
        if y.id ∈ rest.map (·.id) then y.refresh answers else y := by
  rw [List.map_map]
  refine List.map_congr_left fun y hy => ?_
  by_cases hym : y.id = m.id
  · obtain rfl : y = m := eq_of_key_eq Method.id hl hy hm hym
    have hin : y.id ∈ (y :: rest).map (·.id) := List.mem_map_of_mem List.mem_cons_self
    simp only [Function.comp_apply, if_pos hin, ↓reduceIte, Method.refresh_id, hrest]
  · simp only [Function.comp_apply, List.map_cons, List.mem_cons, hym, false_or, if_false]

theorem writeChanged_of_not_stale {m : Method} (hst : m.stale answers = false) (rest : List Method)
    (n : Nat) : writeChanged answers (m :: rest) n = writeChanged answers rest n := by
  rw [writeChanged]
  split
  · rfl
  · next d hfind =>
    have hlookup : answers.lookup m.token = some d := by
      simp [Method.lookup_eq_find?, hfind]
    have hsame : m.expiresOn = some d := by
      simpa [Method.stale, hlookup] using hst
    rw [if_pos (beq_iff_eq.mpr hsame)]

theorem writeChanged_of_stale {m : Method} {d : Date} (hd : answers.lookup m.token = some d)
    (hne : m.expiresOn ≠ some d) (rest : List Method) (n : Nat) :
    writeChanged answers (m :: rest) n = (do
      match (← store).setMethodExpiry m.id d with
      | .ok s => setStore s
      | .error f => throw (.storage f)
      writeChanged answers rest (n + 1)) := by
  rw [writeChanged]
  split
  · next hfind => simp [Method.lookup_eq_find?, hfind] at hd
  · next d' hfind =>
    obtain rfl : d' = d := by
      simpa [Method.lookup_eq_find?, hfind] using hd
    -- the write in the loop and the one stated have matchers of their own, equal on unfolding
    exact if_neg fun h => hne (beq_iff_eq.mp h)

/-- The refresh's loop over stored methods with distinct identifiers: it writes the date the
answers give on each listed method that is stale, and counts those. -/
theorem exec_writeChanged :
    ∀ (ms : List Method) (n : Nat) (e : Engine), (e.store.methods.map (·.id)).Nodup →
      (ms.map (·.id)).Nodup → (∀ m ∈ ms, m ∈ e.store.methods) →
      (writeChanged answers ms n).exec e =
        .ok (.ok (n + ms.countP (·.stale answers)),
          { e with store := { e.store with methods := e.store.methods.map (fun m =>
                                              if m.id ∈ ms.map (·.id) then m.refresh answers else m) } })
  | [], n, e, _, _, _ => by simp [writeChanged]
  | m :: rest, n, e, hkeyed, hnodup, hmem => by
    rw [List.map_cons, List.nodup_cons] at hnodup
    have hm : m ∈ e.store.methods := hmem m List.mem_cons_self
    have hrest : ∀ y ∈ rest, y ∈ e.store.methods := fun y hy => hmem y (List.mem_cons_of_mem _ hy)
    rw [map_refresh_cons answers hkeyed hm hnodup.1, List.countP_cons]
    cases hst : m.stale answers with
    | false =>
      -- a method the loop passes over is its own refresh, and the stored methods stay as they are
      have hskip : e.store.methods.map (fun y => if y.id = m.id then m.refresh answers else y) =
          e.store.methods :=
        (List.map_congr_left fun y hy => by
          by_cases hym : y.id = m.id
          · rw [if_pos hym, Method.refresh_of_not_stale answers m hst,
              eq_of_key_eq Method.id hkeyed hy hm hym]
          · rw [if_neg hym]).trans (List.map_id' _)
      rw [writeChanged_of_not_stale answers hst, exec_writeChanged rest n e hkeyed hnodup.2 hrest,
        hskip]
      rfl
    | true =>
      obtain ⟨d, hlookup, hne⟩ := (Method.stale_iff answers m).mp hst
      -- the write changes `m` alone; the rest of the loop starts from the store it leaves
      have hwrite := setMethodExpiry_eq_map hkeyed hm d
      have hchanged : e.store.methods.map (fun y => if y.id = m.id then { y with expiresOn := some d } else y) =
          e.store.methods.map fun y => if y.id = m.id then m.refresh answers else y :=
        List.map_congr_left fun y hy => by
          by_cases hym : y.id = m.id
          · rw [if_pos hym, if_pos hym, eq_of_key_eq Method.id hkeyed hy hm hym,
              Method.refresh_of_stale answers m hst, hlookup]
          · rw [if_neg hym, if_neg hym]
      rw [writeChanged_of_stale answers hlookup hne, exec_bind_ok (exec_store e), hwrite]
      simp only
      rw [exec_bind_ok (exec_setStore _ _)]
      set e₁ : Engine := { e with store := { e.store with methods := e.store.methods.map (fun y =>
                                                 if y.id = m.id then { y with expiresOn := some d } else y) } }
      have hkeyed₁ : (e₁.store.methods.map (·.id)).Nodup := by
        simpa [e₁, List.map_map, Function.comp_def, apply_ite Method.id] using hkeyed
      have hrest₁ : ∀ y ∈ rest, y ∈ e₁.store.methods := fun y hy => by
        have hym : y.id ≠ m.id := fun h => hnodup.1 (h ▸ List.mem_map_of_mem hy)
        exact List.mem_map.mpr ⟨y, hrest y hy, by simp [hym]⟩
      rw [exec_writeChanged rest (n + 1) e₁ hkeyed₁ hnodup.2 hrest₁]
      simp only [e₁, hchanged, if_true]
      congr 3
      omega

variable {answers} {e : Engine} {gateway : String} {g : Gateway}

theorem exec_refresh_unsupported (hg : e.gateways.get? gateway = some g)
    (hcheck : g.expiryCheck = false) : (refresh gateway).exec e = .ok (.ok 0, e) := by
  unfold refresh
  rw [exec_bind_ok (by rw [exec_requireGateway, hg])]
  simp [hcheck]

theorem exec_refresh_failed {f : GatewayFailure} (hg : e.gateways.get? gateway = some g)
    (hcheck : g.expiryCheck = true) (hlisted : e.store.methodsOfGateway gateway ≠ [])
    (hfail : g.checkExpire ((e.store.methodsOfGateway gateway).map (·.token)) = .error f) :
    (refresh gateway).exec e =
      .ok (.error (.gateway f.message), e.tally (.error "gateway" "check_expire")) := by
  unfold refresh
  rw [exec_bind_ok (by rw [exec_requireGateway, hg])]
  simp only [hcheck, Bool.not_true, Bool.false_eq_true, if_false]
  rw [exec_bind_ok (exec_store e)]
  simp only [List.isEmpty_iff, hlisted, if_false, hfail]
  rfl

theorem exec_refresh_answered (hg : e.gateways.get? gateway = some g)
    (hcheck : g.expiryCheck = true)
    (hans : g.checkExpire ((e.store.methodsOfGateway gateway).map (·.token)) = .ok answers) :
    (refresh gateway).exec e = (writeChanged answers (e.store.methodsOfGateway gateway) 0).exec e := by
  unfold refresh
  rw [exec_bind_ok (by rw [exec_requireGateway, hg])]
  simp only [hcheck, Bool.not_true, Bool.false_eq_true, if_false]
  rw [exec_bind_ok (exec_store e)]
  by_cases hlisted : e.store.methodsOfGateway gateway = []
  · simp only [List.isEmpty_iff, hlisted, if_true, List.map_nil]
    rfl
  · simp only [List.isEmpty_iff, hlisted, if_false, hans]

theorem exec_refresh_writes (hkeyed : (e.store.methods.map (·.id)).Nodup)
    (hg : e.gateways.get? gateway = some g) (hcheck : g.expiryCheck = true)
    (hans : g.checkExpire ((e.store.methodsOfGateway gateway).map (·.token)) = .ok answers) :
    (refresh gateway).exec e =
      .ok (.ok (e.store.methods.countP fun m => m.gateway == gateway && m.stale answers),
        { e with store := e.store.refreshed gateway answers }) := by
  have hlisted : ∀ m ∈ e.store.methodsOfGateway gateway, m ∈ e.store.methods :=
    fun m hm => (mem_methodsOfGateway.mp hm).1
  rw [exec_refresh_answered hg hcheck hans,
    exec_writeChanged answers _ 0 e hkeyed (nodup_methodsOfGateway hkeyed gateway) hlisted]
  -- the loop counts the stale methods among those listed, which are the stored ones of the gateway
  have hcount : (e.store.methodsOfGateway gateway).countP (·.stale answers) =
      e.store.methods.countP fun m => m.gateway == gateway && m.stale answers := by
    rw [(methodsOfGateway_perm gateway).countP_eq, List.countP_filter]
    exact List.countP_congr fun m _ => by rw [Bool.and_comm]
  -- and writes those of the gateway, which are the methods it lists
  have hwritten : e.store.methods.map (fun m =>
      if m.id ∈ (e.store.methodsOfGateway gateway).map (·.id) then m.refresh answers else m) =
        (e.store.refreshed gateway answers).methods := by
    rw [refreshed_eq_map]
    exact List.map_congr_left fun m hm => if_congr (id_mem_methodsOfGateway hkeyed hm) rfl rfl
  rw [Nat.zero_add, hcount, hwritten]
  rfl

theorem refresh_writes_the_stale_dates (e : Engine) (gateway : String)
    (hkeyed : (e.store.methods.map (·.id)).Nodup) :
    (e.gateways.get? gateway = none →
      (refresh gateway).exec e = .ok (.error (.gateway (GatewayRegistry.unknown gateway)), e)) ∧
    ∀ g, e.gateways.get? gateway = some g →
      (g.expiryCheck = false → (refresh gateway).exec e = .ok (.ok 0, e)) ∧
      (∀ f, g.expiryCheck = true → e.store.methodsOfGateway gateway ≠ [] →
        g.checkExpire ((e.store.methodsOfGateway gateway).map (·.token)) = .error f →
        (refresh gateway).exec e =
          .ok (.error (.gateway f.message), e.tally (.error "gateway" "check_expire"))) ∧
      (∀ answers, g.expiryCheck = true →
        g.checkExpire ((e.store.methodsOfGateway gateway).map (·.token)) = .ok answers →
        (refresh gateway).exec e =
            .ok (.ok (e.store.methods.countP fun m => m.gateway == gateway && m.stale answers),
              { e with store := e.store.refreshed gateway answers }) ∧
          (refresh gateway).exec { e with store := e.store.refreshed gateway answers } =
            .ok (.ok 0, { e with store := e.store.refreshed gateway answers })) := by
  refine ⟨fun hnone => ?unknown, fun g hg => ⟨exec_refresh_unsupported hg,
    fun f hcheck hlisted hfail => exec_refresh_failed hg hcheck hlisted hfail,
    fun answers hcheck hans => ⟨exec_refresh_writes hkeyed hg hcheck hans, ?again⟩⟩⟩
  case unknown =>
    unfold refresh
    rw [exec_bind_error (by rw [exec_requireGateway, hnone])]
  case again =>
    -- the second refresh runs on the refreshed store, asks about the same tokens and gets the same
    -- answers, and finds nothing of the gateway stale
    set e' : Engine := { e with store := e.store.refreshed gateway answers }
    have hkeyed' : (e'.store.methods.map (·.id)).Nodup := by
      rw [map_id_refreshed]
      exact hkeyed
    have hans' : g.checkExpire ((e'.store.methodsOfGateway gateway).map (·.token)) = .ok answers :=
      (g.checkExpire_congr fun _ => mem_tokens_refreshed).trans hans
    have hfresh : ∀ m ∈ e'.store.methods, m.gateway = gateway → m.stale answers = false :=
      fun _ hm hmg => stale_of_refreshed hm hmg
    have hnone : e'.store.methods.countP (fun m => m.gateway == gateway && m.stale answers) = 0 :=
      List.countP_eq_zero.mpr fun m hm => by
        by_cases hmg : m.gateway = gateway
        · simp [hfresh m hm hmg]
        · simp [hmg]
    rw [exec_refresh_writes hkeyed' hg hcheck hans', hnone, refreshed_of_fresh hfresh]

/-- Two users share a token at the gateway, one of them already with the answered date; a third
method has the token at another gateway, and a fourth a token the gateway does not answer for.
One date is written. -/
theorem refresh_writes_one_of_a_shared_token :
    let d : Date := ⟨2030, 1, 31⟩
    let g : Gateway :=
      { id := "test", expiryCheck := true, expiries := [("tok", d)], answering := .manual }
    let e₀ : Engine :=
      { now := Instant.epoch, gateways := { gateways := [g] },
        store := { methods :=
          [⟨⟨1⟩, ⟨10⟩, "test", "tok", none, Instant.epoch⟩,
           ⟨⟨2⟩, ⟨11⟩, "test", "tok", some d, Instant.epoch⟩,
           ⟨⟨3⟩, ⟨10⟩, "other", "tok", none, Instant.epoch⟩,
           ⟨⟨4⟩, ⟨10⟩, "test", "old", none, Instant.epoch⟩] } }
    (e₀.store.methods.map (·.id)).Nodup ∧
      (refresh "test").exec e₀ =
        .ok (.ok 1, { e₀ with store := e₀.store.refreshed "test" [("tok", d)] }) := by
  intro d g e₀
  have hkeyed : (e₀.store.methods.map (·.id)).Nodup := by decide
  -- the gateway is asked about the token, so it answers with its date
  have hasked : "tok" ∈ (e₀.store.methodsOfGateway "test").map (·.token) :=
    Store.mem_tokens_methodsOfGateway.mpr ⟨_, List.mem_cons_self, rfl, rfl⟩
  have hans : g.checkExpire ((e₀.store.methodsOfGateway "test").map (·.token)) = .ok [("tok", d)] := by
    simp only [Gateway.checkExpire, g, List.filter_cons, List.filter_nil, List.contains_iff_mem.mpr hasked,
      if_true]
  have hcount : e₀.store.methods.countP (fun m => m.gateway == "test" && m.stale [("tok", d)]) = 1 := by
    decide
  refine ⟨hkeyed, ?_⟩
  rw [(((refresh_writes_the_stale_dates e₀ "test" hkeyed).2 g rfl).2.2 [("tok", d)] rfl hans).1, hcount]

end Expiry

end Rebill
