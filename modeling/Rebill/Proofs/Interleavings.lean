import Rebill.Proofs.Announcements

/-!
# Runs and status requests in any interleaving

The guarantees of the billing core when runs and status requests overlap, each lock's body and
each call of the store running atomically and nothing more:

* between two clearings of an attempt's status at most one claim of it hands it over, every
  gateway charge for it spends such a claim, and the charges stay within its retries
  (`Pool.Runs.claims_between_clearings`, `calls_within_claims`, `calls_within_retries`);
* once every party has ended, each change of a payment was announced once to the sink and once to
  the queue, and a status request returned `true` exactly when it made a change
  (`Party.changes_announced`);
* requests that all ask one change of one payment, which its status allows, make that change
  exactly once, whatever their number and their interleaving, and exactly one of them returns
  `true` (`same_requests_change_once`).

For the last, each worker keeps to the protocol `requesting q u`: it makes no request but `u` on
`q`, and remembers whether it has made it. `ChangedOnce` is the invariant: the payment holds its
first status until the one change to the status asked for, after which every request finds the
status it asks for and is declined; and a worker that has made its request has seen the change
made.
-/

namespace Rebill

namespace Section

/-- The status request a section makes, with the payment it is made on. -/
def request? {β : Type} : Section β → Option (Ident × Ledger.StatusRequest)
  | .apply id v => some (id, v)
  | _ => none

variable {β : Type} {s : Section β} {e e' : Engine} {r : Except BillingError β} {q : Ident}
  {u : Ledger.StatusRequest}

theorem applied_request (h : s.exec.exec e = .ok (r, e')) {o n : PaymentStatus} {b : Bool}
    (ha : s.applied q r = some (o, n, b)) :
    ∃ v, s.request? = some (q, v) ∧ n = v.status ∧ b = v.notify := by
  cases s with
  | apply id v =>
    obtain rfl : id = q := by simpa [payment] using payment_of_applied ha
    rcases apply_cases h with ⟨-, ⟨err, rfl⟩, -⟩ | ⟨p, -, ⟨-, rfl, -⟩ | ⟨-, rfl, -⟩⟩
    · simp [applied] at ha
    · simp [applied] at ha
    · simp only [applied, if_true, Option.some.injEq, Prod.mk.injEq] at ha
      obtain ⟨-, rfl, rfl⟩ := ha
      exact ⟨v, rfl, rfl, rfl⟩
  | _ => simp [applied] at ha

theorem declined_of_request (h : s.exec.exec e = .ok (r, e')) (hs : s.request? = some (q, u))
    (hfree : Ledger.paymentKey q ∉ e.held) {p : Payment} (hp : e.store.payment? q = some p)
    (hn : s.applied q r = none) : Ledger.declines p u = true := by
  cases s with
  | apply id v =>
    obtain ⟨rfl, rfl⟩ : id = q ∧ v = u := by simpa [request?] using hs
    rcases apply_cases h with ⟨-, -, hheld | hmiss⟩ | ⟨p', hp', ⟨hd, -, -⟩ | ⟨-, rfl, -⟩⟩
    · exact absurd hheld hfree
    · rw [hp] at hmiss
      cases hmiss
    · rw [hp] at hp'
      cases hp'
      exact hd
    · simp [applied] at hn
  | _ => simp [request?] at hs

end Section

theorem Ledger.declines_congr {p p' : Payment} (h : p.status = p'.status)
    (u : Ledger.StatusRequest) : Ledger.declines p u = Ledger.declines p' u := by
  simp [Ledger.declines, h]

/-! ## Workers that make one request -/

/-- The protocol of workers that make no status request but `u` on `q`; the local state says
whether the worker has made it. -/
def requesting (q : Ident) (u : Ledger.StatusRequest) : Worker.Protocol Bool where
  allows _ _ s := ∀ v, s.request? = some v → v = (q, u)
  after t _ s _ := t || s.request?.isSome

theorem Party.requesting_follows (q : Ident) (u : Ledger.StatusRequest) :
    Worker.Follows (requesting q u) (fun t _ => t = true) false (Party.request q u).worker := by
  refine Worker.Follows.map (R := fun t _ => t = true) _ ?_ (fun _ _ h => h) fun _ _ h => h
  unfold Worker.updateStatus
  refine Worker.Follows.lift_bind (fun v hv => ?_) (fun res _ => ?_) fun _ _ => rfl
  · simpa [Section.request?] using hv.symm
  · -- the announcements make no request
    rcases res with _ | ⟨o, n⟩
    · exact Worker.Follows.pure rfl
    · refine Worker.Follows.lift_bind (fun v hv => by simp [Section.request?] at hv)
        (fun _ _ => ?_) fun _ _ => rfl
      exact Worker.Follows.lift_bind (fun v hv => by simp [Section.request?] at hv)
        (fun _ _ => Worker.Follows.pure rfl) fun _ _ => rfl

/-! ## One change, whatever the interleaving -/

/-- What an interleaving of requests of `u` on `q` keeps, from the engine `e₀` where `q` is stored
as `p`: the locks held stay; `q` stays stored, with its first status and no change made, or with
the status asked for after the one change from the first; and once a worker has made its request,
the change has been made. -/
structure ChangedOnce (q : Ident) (u : Ledger.StatusRequest) (p : Payment) (e₀ e : Engine)
    (ts : List Bool) (bs : List Beat) : Prop where
  held : e.held = e₀.held
  stored : ∃ p', e.store.payment? q = some p' ∧
    (changesMade q bs = [] ∧ p'.status = p.status ∨
      changesMade q bs = [(p.status, u.status, u.notify)] ∧ p'.status = u.status)
  asked : true ∈ ts → changesMade q bs ≠ []

section ChangedOnce

variable {q : Ident} {u : Ledger.StatusRequest} {p : Payment} {e₀ : Engine} {ts : List Bool}
  {bs : List Beat} {t : Bool} {b : Beat}

theorem ChangedOnce.step (hfree : Ledger.paymentKey q ∉ e₀.held)
    (hd : Ledger.declines p u = false) (ht : ts[b.worker]? = some t)
    (ha : (requesting q u).allows t b.part) (hx : b.Ran) (hI : ChangedOnce q u p e₀ b.before ts bs) :
    ChangedOnce q u p e₀ b.after (ts.set b.worker ((requesting q u).after t b.part b.result))
      (bs ++ [b]) := by
  have hheld := (Section.leaves hx).held.trans hI.held
  obtain ⟨p₁, hp₁, hcase⟩ := hI.stored
  obtain ⟨p₂, hp₂, hsame, hmoved⟩ := Section.payment_after hx hp₁
  rcases hap : b.part.applied q b.result with _ | ⟨o, n, c⟩
  · -- the beat changed nothing of `q`
    obtain rfl : p₂ = p₁ := hsame hap
    refine ⟨hheld, ⟨p₂, hp₂, by simpa [changesMade_append_singleton, hap] using hcase⟩,
      fun htrue => ?_⟩
    rw [changesMade_append_singleton, hap, Option.toList_none, List.append_nil]
    rcases hreq : b.part.request? with _ | v
    · -- no request: the worker's local state stays
      have hsame : ts.set b.worker ((requesting q u).after t b.part b.result) = ts := by
        rw [show (requesting q u).after t b.part b.result = t by simp [requesting, hreq],
          set_of_getElem?_eq_some ht]
      exact hI.asked (hsame ▸ htrue)
    · -- the worker's request was declined, so the change had been made
      obtain rfl := ha v hreq
      have hdec := Section.declined_of_request hx hreq (hI.held ▸ hfree) hp₁ hap
      rcases hcase with ⟨-, hst⟩ | ⟨hone, -⟩
      · rw [Ledger.declines_congr hst, hd] at hdec
        cases hdec
      · simp [hone]
  · -- the beat is a request `u` that moved `q` from its first status to the one asked for
    obtain ⟨v, hv, rfl, rfl⟩ := Section.applied_request hx hap
    obtain rfl : u = v := (Prod.mk.inj (ha _ hv)).2.symm
    obtain ⟨rfl, hn, hne⟩ := hmoved o u.status u.notify hap
    refine ⟨hheld, ⟨p₂, hp₂, ?_⟩, fun _ => by simp [changesMade_append_singleton, hap]⟩
    rw [changesMade_append_singleton, hap]
    rcases hcase with ⟨hnil, hst⟩ | ⟨-, hst⟩
    · exact .inr ⟨by rw [hnil, hst]; rfl, hn.symm⟩
    · exact absurd hst hne

theorem Pool.Runs.worker_lt {α : Type} {p p' : Pool α} (h : Pool.Runs p bs p') (hb : b ∈ bs) :
    b.worker < p.workers.length := by
  induction h with
  | nil => cases hb
  | @snoc p₁ p₂ bs₁ b₁ h₁ hs ih =>
    rcases List.mem_append.mp hb with hb | hb
    · exact ih hb
    · obtain rfl := List.mem_singleton.mp hb
      rw [← h₁.length]
      cases hs with
      | mk hw => exact (List.getElem?_eq_some_iff.mp hw).1

theorem changesMade_eq_singleton {c : PaymentStatus × PaymentStatus × Bool}
    (h : changesMade q bs = [c]) : ∃ b₀ ∈ bs, ∀ j,
      (∃ b ∈ bs, b.worker = j ∧ (b.part.applied q b.result).isSome) ↔ j = b₀.worker := by
  have hcount : bs.countP (fun b => (b.part.applied q b.result).isSome) = 1 := by
    rw [← List.length_filterMap_eq_countP]
    exact congrArg List.length h
  have hpos : 0 < bs.countP (fun b => (b.part.applied q b.result).isSome) := by
    rw [hcount]
    exact Nat.one_pos
  obtain ⟨b₀, hb₀, hs₀⟩ := List.countP_pos_iff.mp hpos
  refine ⟨b₀, hb₀, fun j => ⟨fun ⟨b, hb, hbj, hs⟩ => ?_, fun hj => ⟨b₀, hb₀, hj.symm, hs₀⟩⟩⟩
  -- a change by another worker would be a second one
  by_contra hne
  have hsplit := List.countP_eq_countP_filter_add bs (fun b => (b.part.applied q b.result).isSome)
    (fun x => x.worker == b₀.worker)
  have h₁ : 0 < (bs.filter (·.worker == b₀.worker)).countP
      (fun b => (b.part.applied q b.result).isSome) :=
    List.countP_pos_iff.mpr ⟨b₀, List.mem_filter.mpr ⟨hb₀, by simp⟩, hs₀⟩
  have h₂ : 0 < (bs.filter fun x => !(x.worker == b₀.worker)).countP
      (fun b => (b.part.applied q b.result).isSome) :=
    List.countP_pos_iff.mpr ⟨b, List.mem_filter.mpr ⟨hb, by simpa [hbj] using hne⟩, hs⟩
  omega

theorem Party.requesting_pool {ps : List Party} (hps : ∀ pa ∈ ps, pa = .request q u)
    (e₀ : Engine) :
    Pool.Follow (requesting q u) (fun t _ => t = true) (ps.map fun _ => false) (pool ps e₀) := by
  unfold Pool.Follow pool
  rw [List.forall₂_map_left_iff, List.forall₂_map_right_iff]
  refine List.forall₂_same.mpr fun pa hpa => ?_
  rw [hps pa hpa]
  exact requesting_follows q u

theorem same_requests_make_one_change {ps : List Party} {bs : List Beat}
    {p' : Pool (Run.Summary ⊕ Bool)} (h : Pool.Runs (Party.pool ps e₀) bs p') (hq : p'.Quiet)
    (hne : ps ≠ []) (hps : ∀ pa ∈ ps, pa = .request q u) (hp : e₀.store.payment? q = some p)
    (hfree : Ledger.paymentKey q ∉ e₀.held) (hd : Ledger.declines p u = false) :
    changesMade q bs = [(p.status, u.status, u.notify)] := by
  obtain ⟨ts, hf, hI⟩ := h.follow (ChangedOnce q u p e₀)
    (fun _ _ _ _ ht ha hx hI => hI.step hfree hd ht ha hx) (Party.requesting_pool hps e₀)
    ⟨rfl, ⟨p, hp, .inl ⟨rfl, rfl⟩⟩, by simp⟩
  -- the first worker has ended, so it has made its request, and the change has been made
  have hlen : ts.length = ps.length := by
    rw [List.Forall₂.length_eq hf, h.length]
    simp [Party.pool]
  have hpos : 0 < ts.length := hlen ▸ List.length_pos_iff.mpr hne
  obtain ⟨r, -, hmade⟩ := hf.ends hq (List.getElem?_eq_getElem hpos)
  have hchanged := hI.asked (hmade ▸ List.getElem_mem hpos)
  obtain ⟨p₁, -, ⟨hnil, -⟩ | ⟨hone, -⟩⟩ := hI.stored
  · exact absurd hnil hchanged
  · exact hone

/-- Requests that all ask one change of one payment, which its first status allows, make it
exactly once in every interleaving in which they have all ended, and exactly one of them returns
`true`. -/
theorem same_requests_change_once {ps : List Party} {bs : List Beat}
    {p' : Pool (Run.Summary ⊕ Bool)} (h : Pool.Runs (Party.pool ps e₀) bs p') (hq : p'.Quiet)
    (hne : ps ≠ []) (hps : ∀ pa ∈ ps, pa = .request q u) (hp : e₀.store.payment? q = some p)
    (hfree : Ledger.paymentKey q ∉ e₀.held) (hd : Ledger.declines p u = false) :
    changesMade q bs = [(p.status, u.status, u.notify)] ∧
      ∃ i < ps.length, ∀ j r, p'.workers[j]? = some (.done r) →
        (r = .ok (.inr true) ↔ j = i) := by
  have hone := same_requests_make_one_change h hq hne hps hp hfree hd
  obtain ⟨b₀, hb₀, hwho⟩ := changesMade_eq_singleton hone
  refine ⟨hone, b₀.worker, by simpa [Party.pool] using h.worker_lt hb₀, fun j r hj => ?_⟩
  -- the worker `j` is a request on `q`, which returned `true` exactly when it made the change
  have hjlt : j < ps.length := by
    simpa [h.length, Party.pool] using (List.getElem?_eq_some_iff.mp hj).1
  have hpj : ps[j]? = some (.request q u) := by
    rw [List.getElem?_eq_getElem hjlt, hps _ (List.getElem_mem hjlt)]
  obtain ⟨r', hr', hiff⟩ := (Party.changes_announced h hq q).2.2 j u hpj
  rw [hj, Option.some.injEq, Worker.done.injEq] at hr'
  subst hr'
  rw [hiff, hwho]

end ChangedOnce

/-! ## Every interleaving -/

/-- Runs and status requests in any interleaving, each lock's body and each call of the store
running atomically: between two clearings of an attempt's status at most one claim hands it over,
every gateway charge for it spends such a claim and the charges stay within its retries; once every
party has ended, each change of a payment was announced once to the sink and once to the queue, a
status request returned `true` exactly when one of its beats made a change, and requests that all
ask one change of one payment, which its status allows, make it exactly once, exactly one of them
returning `true`. -/
theorem interleavings_claim_once_and_announce_each_change {ps : List Party} {e₀ : Engine}
    {bs : List Beat} {p' : Pool (Run.Summary ⊕ Bool)} (hwf : e₀.store.Wf)
    (h : Pool.Runs (Party.pool ps e₀) bs p') :
    (∀ x bs₁ bs₂, bs = bs₁ ++ bs₂ → (∀ b ∈ bs₂, b.clears x = false) →
      bs₂.countP (·.claims x) ≤ 1) ∧
    (∀ x, callsFor x p'.engine.journal.charges ≤
      callsFor x e₀.journal.charges + bs.countP (·.claims x)) ∧
    (∀ x c, e₀.store.charge? x = some c → callsFor x p'.engine.journal.charges ≤
      callsFor x e₀.journal.charges + (max c.retries (-1) + 1).toNat) ∧
    (p'.Quiet → ∀ q,
      (e₀.heard = true → (p'.engine.announced q).Perm (e₀.announced q ++ changesMade q bs)) ∧
      (e₀.posts = true →
        (p'.engine.notices q).Perm (e₀.notices q ++ (changesMade q bs).map (·.2.2))) ∧
      (∀ i u, ps[i]? = some (.request q u) → ∃ r, p'.workers[i]? = some (.done r) ∧
        (r = .ok (.inr true) ↔ ∃ b ∈ bs, b.worker = i ∧ (b.part.applied q b.result).isSome)) ∧
      ∀ u p, ps ≠ [] → (∀ pa ∈ ps, pa = .request q u) → e₀.store.payment? q = some p →
        Ledger.paymentKey q ∉ e₀.held → p.status ≠ u.status →
        ¬(p.status.isPaidLike ∧ u.status = .fail) →
        changesMade q bs = [(p.status, u.status, u.notify)] ∧
          ∃ i < ps.length, ∀ j r, p'.workers[j]? = some (.done r) →
            (r = .ok (.inr true) ↔ j = i)) := by
  refine ⟨fun x bs₁ bs₂ hsplit hc => ?_, calls_within_claims h,
    fun x c hc => calls_within_retries hwf h hc, fun hq q => ?_⟩
  · subst hsplit
    exact h.claims_between_clearings hc
  · obtain ⟨hev, hmsg, hret⟩ := Party.changes_announced h hq q
    refine ⟨hev, hmsg, hret, fun u p hne hps hp hfree hs hr => ?_⟩
    -- a request the status allows is not declined
    have hd : Ledger.declines p u = false := by
      cases hdec : Ledger.declines p u
      · rfl
      · exact absurd ((Ledger.declines_eq_true_iff p u).mp hdec) (by tauto)
    exact same_requests_change_once h hq hne hps hp hfree hd

/-- Two requests to mark a form payment paid, the second run after the first has ended: the
payment is changed once, from form to paid, and one of the two returns `true`. -/
theorem two_requests_to_mark_paid_change_once :
    let p₀ : Payment :=
      { id := Ident.ofSerial 1, user := ⟨0⟩, gateway := "test", status := .form,
        amount := ⟨1999, 2, false⟩, paidAt := none, subscription := none, catalogItem := none,
        address := none, isRecurrent := false, parent := none, note := none,
        errorMessage := none, created := Instant.epoch, updated := Instant.epoch }
    let u : Ledger.StatusRequest := { status := .paid, notify := true }
    let e₀ : Engine := { now := Instant.epoch, store := { payments := [p₀], serial := 1 } }
    ∃ bs p', Pool.Runs (Party.pool [.request p₀.id u, .request p₀.id u] e₀) bs p' ∧ p'.Quiet ∧
      changesMade p₀.id bs = [(.form, .paid, true)] ∧
      ∃ i < 2, ∀ j r, p'.workers[j]? = some (.done r) → (r = .ok (.inr true) ↔ j = i) := by
  intro p₀ u e₀
  have hwf : e₀.store.Wf := by
    refine ⟨by simp [e₀], fun i hi k hk heq => ?_⟩
    simp only [e₀, p₀, Store.ids, List.map_cons, List.map_nil, List.append_nil, List.mem_cons,
      List.not_mem_nil, or_false] at hi hk
    subst hi
    have := Ident.ofSerial_injective heq
    omega
  -- the first request runs to its end, then the second; the kernel runs both
  have hboth : (((Party.request p₀.id u).worker.exec e₀).toOption.bind fun x =>
      ((Party.request p₀.id u).worker.exec x.2).toOption).isSome = true := by
    decide +kernel
  obtain ⟨⟨r₀, e₁⟩, hx₀⟩ : ∃ x, (Party.request p₀.id u).worker.exec e₀ = .ok x := by
    cases hx : (Party.request p₀.id u).worker.exec e₀ with
    | error o => simp [hx, Except.toOption] at hboth
    | ok x => exact ⟨x, rfl⟩
  obtain ⟨⟨r₁, e₂⟩, hx₁⟩ : ∃ x, (Party.request p₀.id u).worker.exec e₁ = .ok x := by
    cases hx : (Party.request p₀.id u).worker.exec e₁ with
    | error o => simp [hx₀, hx, Except.toOption] at hboth
    | ok x => exact ⟨x, rfl⟩
  have hw₀ : [(Party.request p₀.id u).worker, (Party.request p₀.id u).worker][0]? =
      some (Party.request p₀.id u).worker := rfl
  obtain ⟨bs₀, h₀⟩ := Pool.runs_alone_at hw₀ hx₀
  have hw₁ : [Worker.done r₀, (Party.request p₀.id u).worker][1]? =
      some (Party.request p₀.id u).worker := rfl
  obtain ⟨bs₁, h₁⟩ := Pool.runs_alone_at hw₁ hx₁
  have h : Pool.Runs (Party.pool [.request p₀.id u, .request p₀.id u] e₀) (bs₀ ++ bs₁)
      ⟨[.done r₀, .done r₁], e₂⟩ := h₀.append h₁
  have hq : Pool.Quiet ⟨[Worker.done r₀, .done r₁], e₂⟩ := by
    simp [Pool.Quiet]
  obtain ⟨-, -, -, hend⟩ := interleavings_claim_once_and_announce_each_change hwf h
  obtain ⟨hone, i, hi, hwho⟩ := (hend hq p₀.id).2.2.2 u p₀ (by simp) (by simp) rfl
    (by simp [e₀]) (by decide) (by decide)
  exact ⟨_, _, h, hq, hone, i, hi, hwho⟩

end Rebill
