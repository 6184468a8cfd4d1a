import Mathlib.Data.List.Basic
import Mathlib.Data.List.TakeWhile
import Rebill.Settings.Layers

/-!
# Blank settings

The service's settings come from environment variables of two kinds. The numbers and the flag
are read by `setting?`, which trims them and takes a blank value for an unset one, so a blank
number falls back to its default. The backends, the database address and the texts are read as
they are written: a blank backend is an unknown one and is refused, and a blank text is kept.

Main statement, `blank_is_unset_only_for_numbers`: whatever libraries read the `.env` file and
the shared settings, so long as they keep their promises (`Readers`), without a `.env` file
setting a number or the
flag to a blank value loads exactly the settings of leaving it unset; a blank `STORAGE_BACKEND`
or `LOCK_BACKEND` is refused as unknown, naming the value; and a blank text (`DATABASE_URL`,
`SERVICE_NAME`, `SERVICE_VERSION`, `REDIS_URL`, `PAYMENT_STATUS_QUEUE`) is kept as written, so
that a blank database address satisfies PostgreSQL storage as well as a real one does.

The proof compares two environments through what the loader reads of them. `load_texts` is the
one lemma that opens the loader: when two environments differ only in their texts, the two loads
take the same branches and build the same settings but for the texts. The congruence
`load_congr`, and with it the blank numbers, follow from it; the blank backends are refused at
the loader's first two reads, which the proofs follow directly.
-/

namespace Rebill.Settings

open Rebill.Text

/-- The settings read as numbers or flags: trimmed, a blank one read as unset. -/
def numberKeys : List String :=
  ["DATABASE_MAX_CONNECTIONS", "DATABASE_MIN_CONNECTIONS", "STATUS_LOCK_TIMEOUT_SECONDS",
   "LOCK_LEASE_TTL_SECONDS", "CHARGE_BEFORE_HOURS", "FAST_CHARGE_THRESHOLD_HOURS",
   "RECURRENT_DEFAULT_RETRIES", "CHARGE_LOOKAHEAD_MINUTES", "REACTIVATION_WINDOW_DAYS",
   "REACTIVATION_DELAY_HOURS", "RETRY_DELAY_HOURS", "RUN_MIGRATIONS"]

/-- The backends, read as they are written and matched against their names. -/
def backendKeys : List String := ["STORAGE_BACKEND", "LOCK_BACKEND"]

def textKeys : List String :=
  ["DATABASE_URL", "SERVICE_NAME", "SERVICE_VERSION", "REDIS_URL", "PAYMENT_STATUS_QUEUE"]

def rawKeys : List String := backendKeys ++ textKeys

theorem settingKeys_kinds :
    ∀ k ∈ settingKeys, k ∈ numberKeys ∨ k ∈ rawKeys ∨ k ∈ ["APP__LOG_LEVEL", "APP__OTLP_ENDPOINT"] := by
  decide

theorem not_app_of_kind : ∀ k ∈ numberKeys ++ rawKeys, k.toLower.startsWith "app__" = false := by
  decide +kernel

namespace Env

def unset (e : Env) (name : String) : Env := ⟨e.vars.filter (·.1 != name)⟩

variable (e : Env) (name value : String)

theorem get?_set (k : String) :
    (e.set name value).get? k = if k = name then some value else e.get? k := by
  unfold set get?
  split
  · next hany =>
    rw [List.find?_map]
    have hkey : ((fun x : String × String => x.1 == k) ∘ fun (p : String × String) =>
        if p.1 == name then (p.1, value) else (p.1, p.2)) = (·.1 == k) := by
      funext p
      simp only [Function.comp_apply]
      split <;> rfl
    rw [hkey]
    split
    · next hk =>
      subst hk
      obtain ⟨p, hp, hpk⟩ := List.any_eq_true.mp hany
      obtain ⟨q, hq⟩ : ∃ q, e.vars.find? (·.1 == k) = some q :=
        Option.isSome_iff_exists.mp (List.find?_isSome.mpr ⟨p, hp, hpk⟩)
      have hqk : q.1 = k := by simpa using List.find?_some hq
      simp [hq, hqk]
    · next hk =>
      cases hq : e.vars.find? (·.1 == k) with
      | none => rfl
      | some q =>
        have hqk : q.1 = k := by simpa using List.find?_some hq
        have hqn : q.1 ≠ name := hqk ▸ hk
        simp [hqn]
  · next hany =>
    rw [List.find?_append]
    split
    · next hk =>
      subst hk
      have hnone : e.vars.find? (·.1 == k) = none :=
        List.find?_eq_none.mpr fun p hp hpk => hany (List.any_eq_true.mpr ⟨p, hp, hpk⟩)
      simp [hnone]
    · next hk =>
      cases hq : e.vars.find? (·.1 == k) with
      | none => simp [Ne.symm hk]
      | some q => rfl

theorem get?_unset (k : String) :
    (e.unset name).get? k = if k = name then none else e.get? k := by
  unfold unset get?
  rw [List.find?_filter]
  split
  · next hk =>
    subst hk
    simp
  · next hk =>
    congr 1
    exact congrArg (e.vars.find? ·) (funext fun p => by
      by_cases hp : p.1 = k
      · simp [hp, hk]
      · simp [hp])

theorem shared_set (h : name.toLower.startsWith "app__" = false) :
    (e.set name value).shared = e.shared := by
  unfold set shared
  split
  · -- the replaced pair is not a shared one, and the others are kept as they are
    induction e.vars with
    | nil => rfl
    | cons p ps ih =>
      obtain ⟨k, v⟩ := p
      by_cases hp : k = name
      · subst hp
        simp only [List.map_cons, beq_self_eq_true, if_true, List.filter_cons, h,
          Bool.false_eq_true, if_false] at ih ⊢
        exact ih
      · simp only [List.map_cons, beq_iff_eq, hp, if_false, List.filter_cons] at ih ⊢
        rw [ih]
  · simp only [List.filter_append, List.filter_cons, List.filter_nil, h, Bool.false_eq_true,
      if_false, List.append_nil]

theorem shared_unset (h : name.toLower.startsWith "app__" = false) :
    (e.unset name).shared = e.shared := by
  unfold shared unset
  rw [List.filter_filter]
  refine List.filter_congr fun ⟨k, _⟩ _ => ?_
  -- a shared variable is not the unset one, whose name is not an `APP__` one
  cases hk : k.toLower.startsWith "app__"
  · simp only [hk, Bool.false_and]
  · have hne : k ≠ name := fun heq => by rw [heq, h] at hk; cases hk
    simp [hk, hne]

end Env

/-! ## What the loader reads -/

theorem setting?_congr {env env' : Env} {key : String} (h : env.get? key = env'.get? key) :
    setting? env key = setting? env' key := by
  unfold setting?
  rw [h]

theorem setting?_blank {env : Env} {key v : String} (h : env.get? key = some v)
    (hv : isBlankText v = true) : setting? env key = none := by
  have hdrop : dropBlanks v.toList = [] :=
    List.dropWhile_eq_nil_iff.mpr fun c hc => List.all_eq_true.mp hv c hc
  have htrim : trimBlanks v = "" := by
    rw [trimBlanks, hdrop]
    rfl
  rw [setting?, h, Option.bind_some, htrim]
  rfl

theorem wholeSetting_congr {env env' : Env} {key : String} (h : setting? env key = setting? env' key)
    (lo hi : Int) : wholeSetting env key lo hi = wholeSetting env' key lo hi := by
  unfold wholeSetting
  rw [h]

theorem spanSetting_congr {env env' : Env} {key : String} (h : setting? env key = setting? env' key)
    (unit : Int → Option Span) : spanSetting env key unit = spanSetting env' key unit := by
  unfold spanSetting
  rw [wholeSetting_congr h]

theorem flagSetting_congr {env env' : Env} {key : String} (h : setting? env key = setting? env' key) :
    flagSetting env key = flagSetting env' key := by
  unfold flagSetting
  rw [h]

/-- The settings with their texts read from an environment: the name, the version, the Redis
address and the queue as written there, or their defaults when unset; the database address as
written there, or kept when unset. -/
def withTexts (env : Env) (s : Config) : Config :=
  { s with
    serviceName := (env.get? "SERVICE_NAME").getD "recurrent-billing"
    serviceVersion := (env.get? "SERVICE_VERSION").getD packageVersion
    databaseUrl := (env.get? "DATABASE_URL").getD s.databaseUrl
    redisUrl := (env.get? "REDIS_URL").getD "redis://localhost:6379"
    paymentQueue := env.get? "PAYMENT_STATUS_QUEUE" }

theorem withTexts_congr {env env' : Env} (h : ∀ k ∈ textKeys, env.get? k = env'.get? k) :
    withTexts env = withTexts env' := by
  funext s
  simp only [withTexts, h "SERVICE_NAME" (by decide), h "SERVICE_VERSION" (by decide),
    h "DATABASE_URL" (by decide), h "REDIS_URL" (by decide), h "PAYMENT_STATUS_QUEUE" (by decide)]

section Readers

variable (rd : Readers)

/-- The texts are taken as they are written. Without a `.env` file, two environments that agree
on the backends, the numbers and the `APP__` variables, and that both set the database address
or both leave it unset, load alike up to the texts: the second loads what the first does, with
the second's texts. -/
theorem load_texts {env env' : Env} {files : Files} (hdot : files.find? (·.1 == ".env") = none)
    (hshared : env.shared = env'.shared)
    (hback : ∀ k ∈ backendKeys, env.get? k = env'.get? k)
    (hurl : (env.get? "DATABASE_URL").isSome = (env'.get? "DATABASE_URL").isSome)
    (hnum : ∀ k ∈ numberKeys, setting? env k = setting? env' k) :
    Config.load rd env' files = withTexts env' <$> Config.load rd env files := by
  have hw : ∀ k ∈ numberKeys, ∀ lo hi, wholeSetting env k lo hi = wholeSetting env' k lo hi :=
    fun k hk => wholeSetting_congr (hnum k hk)
  have hs : ∀ k ∈ numberKeys, ∀ unit, spanSetting env k unit = spanSetting env' k unit :=
    fun k hk => spanSetting_congr (hnum k hk)
  have hcases : (env.get? "DATABASE_URL" = none ∧ env'.get? "DATABASE_URL" = none) ∨
      ∃ u u', env.get? "DATABASE_URL" = some u ∧ env'.get? "DATABASE_URL" = some u' := by
    cases hu : env.get? "DATABASE_URL" <;> cases hu' : env'.get? "DATABASE_URL" <;> simp_all
  unfold Config.load withTexts
  -- both loads now read the first environment, but for the texts
  simp only [rd.dotenv_without_file _ _ hdot, ← rd.telemetry_of_shared _ _ files hshared,
    ← hback "STORAGE_BACKEND" (by decide), ← hback "LOCK_BACKEND" (by decide),
    ← hw "DATABASE_MAX_CONNECTIONS" (by decide), ← hw "DATABASE_MIN_CONNECTIONS" (by decide),
    ← hw "STATUS_LOCK_TIMEOUT_SECONDS" (by decide), ← hw "LOCK_LEASE_TTL_SECONDS" (by decide),
    ← hw "CHARGE_BEFORE_HOURS" (by decide), ← hw "RECURRENT_DEFAULT_RETRIES" (by decide),
    ← hs "FAST_CHARGE_THRESHOLD_HOURS" (by decide), ← hs "CHARGE_LOOKAHEAD_MINUTES" (by decide),
    ← hs "REACTIVATION_WINDOW_DAYS" (by decide), ← hs "REACTIVATION_DELAY_HOURS" (by decide),
    ← hs "RETRY_DELAY_HOURS" (by decide),
    ← flagSetting_congr (hnum "RUN_MIGRATIONS" (by decide)), map_bind]
  refine congrArg (rd.telemetry env files >>= ·) (funext fun t => ?_)
  rcases hcases with ⟨hu, hu'⟩ | ⟨u, u', hu, hu'⟩ <;>
    simp only [hu, hu', Option.getD_none, Option.getD_some]
  -- the two loads take the same branches: the backends first, then the address and the lock check;
  -- at each end they build the same settings but for the texts
  all_goals
    repeat' split
    all_goals simp only [pure_bind]
    repeat' split
    all_goals simp only [map_bind, map_pure]
    all_goals rfl

theorem load_eq_withTexts {env : Env} {files : Files} (hdot : files.find? (·.1 == ".env") = none) :
    Config.load rd env files = withTexts env <$> Config.load rd env files :=
  load_texts rd hdot rfl (fun _ _ => rfl) rfl (fun _ _ => rfl)

/-- Without a `.env` file, two environments load the same settings when the loader reads the same
of them: the same raw texts and backends, the same trimmed numbers, the same `APP__`
variables. -/
theorem load_congr {env env' : Env} {files : Files} (hdot : files.find? (·.1 == ".env") = none)
    (hshared : env.shared = env'.shared)
    (hraw : ∀ k ∈ rawKeys, env.get? k = env'.get? k)
    (hnum : ∀ k ∈ numberKeys, setting? env k = setting? env' k) :
    Config.load rd env files = Config.load rd env' files := by
  have hback : ∀ k ∈ backendKeys, env.get? k = env'.get? k :=
    fun k hk => hraw k (List.mem_append_left _ hk)
  have htext : ∀ k ∈ textKeys, env.get? k = env'.get? k :=
    fun k hk => hraw k (List.mem_append_right _ hk)
  have hurl : (env.get? "DATABASE_URL").isSome = (env'.get? "DATABASE_URL").isSome := by
    rw [htext "DATABASE_URL" (by decide)]
  calc Config.load rd env files
      = withTexts env <$> Config.load rd env files := load_eq_withTexts rd hdot
    _ = withTexts env' <$> Config.load rd env files := by rw [withTexts_congr htext]
    _ = Config.load rd env' files := (load_texts rd hdot hshared hback hurl hnum).symm

/-! ## Blank values, key by key -/

section Blank

variable {env : Env} {files : Files} {v : String}

theorem app_of_number {k : String} (hk : k ∈ numberKeys) : k.toLower.startsWith "app__" = false :=
  not_app_of_kind k (List.mem_append_left _ hk)

theorem app_of_raw {k : String} (hk : k ∈ rawKeys) : k.toLower.startsWith "app__" = false :=
  not_app_of_kind k (List.mem_append_right _ hk)

theorem raw_ne_number : ∀ k ∈ rawKeys, ∀ k' ∈ numberKeys, k ≠ k' := by
  decide

theorem load_blank_number (hdot : files.find? (·.1 == ".env") = none) {k : String}
    (hk : k ∈ numberKeys) (hv : isBlankText v = true) :
    Config.load rd (env.set k v) files = Config.load rd (env.unset k) files := by
  refine load_congr rd hdot ?_ (fun k' hk' => ?_) (fun k' hk' => ?_)
  · rw [Env.shared_set _ _ _ (app_of_number hk), Env.shared_unset _ _ (app_of_number hk)]
  · have hne := raw_ne_number k' hk' k hk
    rw [Env.get?_set, Env.get?_unset, if_neg hne, if_neg hne]
  · by_cases hkk : k' = k
    · subst hkk
      have hunset : setting? (env.unset k') k' = none := by
        simp [setting?, Env.get?_unset]
      rw [setting?_blank (by rw [Env.get?_set, if_pos rfl]) hv, hunset]
    · exact setting?_congr (by rw [Env.get?_set, Env.get?_unset, if_neg hkk, if_neg hkk])

theorem backend_ne_text : ∀ b ∈ backendKeys, ∀ k ∈ textKeys, b ≠ k := by
  decide

theorem ne_of_blank {w : String} (hv : isBlankText v = true) (hw : isBlankText w = false) :
    v ≠ w := by
  rintro rfl
  rw [hv] at hw
  cases hw

theorem load_blank_storage (hdot : files.find? (·.1 == ".env") = none) (hv : isBlankText v = true) :
    Config.load rd (env.set "STORAGE_BACKEND" v) files =
      (rd.telemetry env files >>= fun _ => throw ("Unknown STORAGE_BACKEND '" ++ v ++ "'")) := by
  have hmem : v ≠ "memory" := ne_of_blank hv (by decide)
  have hpg : v ≠ "postgres" := ne_of_blank hv (by decide)
  have hs : (env.set "STORAGE_BACKEND" v).get? "STORAGE_BACKEND" = some v := by
    rw [Env.get?_set, if_pos rfl]
  unfold Config.load
  -- the match's last case is taken: its side conditions are discharged by hmem and hpg
  simp only [rd.dotenv_without_file _ _ hdot, hs, rd.telemetry_of_shared _ _ files
    (Env.shared_set env "STORAGE_BACKEND" v (app_of_raw (by decide)))]
  rfl

theorem load_blank_lock (hdot : files.find? (·.1 == ".env") = none)
    (hst : env.get? "STORAGE_BACKEND" ∈ [none, some "memory", some "postgres"])
    (hv : isBlankText v = true) :
    Config.load rd (env.set "LOCK_BACKEND" v) files =
      (rd.telemetry env files >>= fun _ => throw ("Unknown LOCK_BACKEND '" ++ v ++ "'")) := by
  have hredis : v ≠ "redis" := ne_of_blank hv (by decide)
  have hpg : v ≠ "postgres" := ne_of_blank hv (by decide)
  have hlocal : v ≠ "local" := ne_of_blank hv (by decide)
  have hl : (env.set "LOCK_BACKEND" v).get? "LOCK_BACKEND" = some v := by
    rw [Env.get?_set, if_pos rfl]
  have hs : (env.set "LOCK_BACKEND" v).get? "STORAGE_BACKEND" = env.get? "STORAGE_BACKEND" := by
    rw [Env.get?_set, if_neg (by decide)]
  unfold Config.load
  simp only [rd.dotenv_without_file _ _ hdot, hl, hs, rd.telemetry_of_shared _ _ files
    (Env.shared_set env "LOCK_BACKEND" v (app_of_raw (by decide)))]
  -- each accepted storage backend is read, and then the lock's last case is taken
  simp only [List.mem_cons, List.not_mem_nil, or_false] at hst
  rcases hst with h | h | h <;> simp only [h] <;> rfl

theorem load_set_text (hdot : files.find? (·.1 == ".env") = none) {k : String} (hk : k ∈ textKeys)
    (u w : String) :
    Config.load rd (env.set k w) files =
      withTexts (env.set k w) <$> Config.load rd (env.set k u) files := by
  have hraw : k ∈ rawKeys := List.mem_append_right _ hk
  refine load_texts rd hdot ?_ (fun b hb => ?_) ?_ (fun n hn => ?_)
  · rw [Env.shared_set _ _ _ (app_of_raw hraw), Env.shared_set _ _ _ (app_of_raw hraw)]
  · have hne := backend_ne_text b hb k hk
    rw [Env.get?_set, Env.get?_set, if_neg hne, if_neg hne]
  · -- the address is set on both sides when it is the text, and read alike otherwise
    rw [Env.get?_set, Env.get?_set]
    split <;> rfl
  · have hne : n ≠ k := Ne.symm (raw_ne_number k hraw n hn)
    exact setting?_congr (by rw [Env.get?_set, Env.get?_set, if_neg hne, if_neg hne])

/-- Blank values, variable by variable, whatever libraries read the `.env` file and the shared
settings. Without a `.env` file, a blank number or flag loads exactly as if it were unset; a
blank storage backend, or a blank lock backend beside an accepted storage backend, is refused as
unknown; and a blank text is kept as written, loading what any other value of it loads. -/
theorem blank_is_unset_only_for_numbers (env : Env) (files : Files)
    (hdot : files.find? (·.1 == ".env") = none) (v : String) (hv : isBlankText v = true) :
    (∀ k ∈ numberKeys, Config.load rd (env.set k v) files = Config.load rd (env.unset k) files) ∧
    Config.load rd (env.set "STORAGE_BACKEND" v) files =
      (rd.telemetry env files >>= fun _ => throw ("Unknown STORAGE_BACKEND '" ++ v ++ "'")) ∧
    (env.get? "STORAGE_BACKEND" ∈ [none, some "memory", some "postgres"] →
      Config.load rd (env.set "LOCK_BACKEND" v) files =
        (rd.telemetry env files >>= fun _ => throw ("Unknown LOCK_BACKEND '" ++ v ++ "'"))) ∧
    (∀ k ∈ textKeys, ∀ u, Config.load rd (env.set k v) files =
      withTexts (env.set k v) <$> Config.load rd (env.set k u) files) :=
  ⟨fun _ hk => load_blank_number rd hdot hk hv, load_blank_storage rd hdot hv,
   fun hst => load_blank_lock rd hdot hst hv, fun _ hk u => load_set_text rd hdot hk u v⟩

end Blank

end Readers

/-- Beside a database address, a blank storage backend is refused, and a blank service name loads
like a real one. -/
theorem blank_settings_beside_a_database_address :
    let env : Env := ⟨[("DATABASE_URL", "postgres://db/x")]⟩
    ([] : Files).find? (·.1 == ".env") = none ∧ isBlankText " " = true ∧
      Config.load .standard (env.set "STORAGE_BACKEND" " ") [] =
        (loadTelemetry env [] >>= fun _ => throw "Unknown STORAGE_BACKEND ' '") ∧
      Config.load .standard (env.set "SERVICE_NAME" " ") [] =
        withTexts (env.set "SERVICE_NAME" " ") <$>
          Config.load .standard (env.set "SERVICE_NAME" "billing") [] := by
  intro env
  have hblank : isBlankText " " = true := by decide
  have h := blank_is_unset_only_for_numbers Readers.standard env [] rfl " " hblank
  exact ⟨rfl, hblank, h.2.1, h.2.2.2 "SERVICE_NAME" (by decide) "billing"⟩

end Rebill.Settings
