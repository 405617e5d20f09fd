import ScanFleet.Config.Compose
import ScanFleet.Http.Server
import ScanFleet.Proofs.Fleet.Run

/-! Secrets that are configured, and requests that present none.  The two guards differ in what a
missing header is to them: the one for workers tells it from every token, the one for operators
takes it for the empty text.  So a token always has to be presented, and a secret unless it is
empty; and only a file can give an empty one, since a blank variable of the environment counts as
not set. -/

namespace ScanFleet

variable {file : Option FileConfig} {env : Environment} {path : Option String} {config : Config}
  {warnings : List Warning}

theorem Environment.get?_ne_empty (env : Environment) (name : String) :
    env.get? name ≠ some "" := by
  intro h
  have := (Option.filter_eq_some_iff.1 h).2
  simp at this

theorem GeneralConfig.ofLayer_secrets {l : Layer} {g : GeneralConfig}
    (h : GeneralConfig.ofLayer l = .ok g) :
    g.apiSecret = l.apiSecret ∧ g.bearerToken = l.bearerToken := by
  simp only [GeneralConfig.ofLayer] at h
  repeat' split at h
  all_goals cases h
  exact ⟨rfl, rfl⟩

theorem Config.ofLayer_general {l : Layer} {limits : UsageLimits}
    (h : Config.ofLayer l limits path = .ok config) :
    GeneralConfig.ofLayer l = .ok config.general := by
  simp only [Config.ofLayer] at h
  repeat' split at h
  all_goals cases h
  assumption

/-- The secrets of a configuration are those of its layers: the environment's, else the file's. -/
theorem compose_secrets (h : compose file env path = .ok (config, warnings)) :
    config.general.apiSecret =
        (env.get? "FLEET_API_SECRET" <|> (file.getD .empty).layer.apiSecret) ∧
      config.general.bearerToken =
        (env.get? "FLEET_BEARER_TOKEN" <|> (file.getD .empty).layer.bearerToken) := by
  simp only [compose] at h
  split at h
  · cases h
  · next c hc =>
    split at h
    · cases h
    · cases h
      exact GeneralConfig.ofLayer_secrets (Config.ofLayer_general hc)

/-- An empty secret is the file's, and the environment gives none. -/
theorem compose_empty_secret (h : compose file env path = .ok (config, warnings))
    (hs : config.general.apiSecret = some "") :
    env.get? "FLEET_API_SECRET" = none ∧ file.bind (·.layer.apiSecret) = some "" := by
  rw [(compose_secrets h).1] at hs
  cases he : env.get? "FLEET_API_SECRET" with
  | some s =>
    rw [he] at hs
    exact absurd (he.trans hs) (env.get?_ne_empty _)
  | none =>
    rw [he] at hs
    cases file with
    | none => cases hs
    | some given => exact ⟨rfl, hs⟩

namespace Http

/-- The request is for an endpoint of the operators. -/
def Request.IsOperators (r : Request) : Prop :=
  "/api/".toList <+: r.route.toList ∧ (Endpoint.ofPath? r.route).isSome

/-- The request is for an endpoint of the workers. -/
def Request.IsWorkers (r : Request) : Prop := r.route ∈ ["/controler", "/controller", "/raw"]

theorem Endpoint.guard_of_api {path : String} {e : Endpoint} (h : Endpoint.ofPath? path = some e)
    (hp : "/api/".toList <+: path.toList) : e.guard = .operator := by
  unfold Endpoint.ofPath? at h
  split at h
  case h_10 =>
    obtain ⟨area, -, rfl⟩ := Option.map_eq_some_iff.1 h
    rfl
  all_goals cases h
  all_goals first | rfl | exact absurd hp (by decide)

theorem Request.IsOperators.endpoint {r : Request} (h : r.IsOperators) :
    ∃ e, Endpoint.ofPath? r.route = some e ∧ e.guard = .operator := by
  obtain ⟨e, he⟩ := Option.isSome_iff_exists.1 h.2
  exact ⟨e, he, Endpoint.guard_of_api he h.1⟩

theorem Request.IsWorkers.endpoint {r : Request} (h : r.IsWorkers) :
    ∃ e, Endpoint.ofPath? r.route = some e ∧ e.guard = .device := by
  simp only [Request.IsWorkers, List.mem_cons, List.not_mem_nil, or_false] at h
  obtain h | h | h := h <;> rw [h]
  · exact ⟨.controller, rfl, rfl⟩
  · exact ⟨.controller, rfl, rfl⟩
  · exact ⟨.raw, rfl, rfl⟩

theorem Request.headerText_of_missing {r : Request} {name : String} (h : r.header? name = none) :
    r.headerText name = "" := by
  simp [Request.headerText, h]

/-- Without the header no token is presented, not even an empty one. -/
theorem Request.bearerToken?_of_missing {r : Request} (h : r.header? "authorization" = none) :
    r.bearerToken? = none := by
  rw [Request.bearerToken?, Request.headerText_of_missing h]
  rfl

/-- What a request is answered that may not pass. -/
def refusal (r : Request) : Response :=
  if r.method == "HEAD" then { unauthorised with body := .empty } else unauthorised

/-- No endpoint hears the request.  Whatever the fleet, the services and the time are, it is turned
away and the fleet stays as it is; only what a browser asks beforehand is answered, by no endpoint
either.  And nothing of its body is sent on. -/
structure Refused (config : Config) (r : Request) : Prop where
  turned_away : r.method ≠ "OPTIONS" → ∀ {σ : Type} [Store σ] (f : Fleet σ) services now,
    serve config.general f services r now = (refusal r, f)
  asked : r.method = "OPTIONS" → ∀ {σ : Type} [Store σ] (f : Fleet σ) services now,
    serve config.general f services r now = (⟨200, .empty⟩, f)
  kept : relayed config r = []

/-- The request is served as it is where operators need no secret. -/
structure LetIn (config : Config) (r : Request) : Prop where
  served : ∀ {σ : Type} [Store σ] (f : Fleet σ) services now,
    serve config.general f services r now =
      serve { config.general with apiSecret := none } f services r now

theorem Refused.of_guard {r : Request} {e : Endpoint} (he : Endpoint.ofPath? r.route = some e)
    (hg : e.guard.admits config.general r = false) : Refused config r where
  turned_away hm σ _ f services now := by
    simp [serve, he, Endpoint.respond, hg, hm, refusal]
  asked hm σ _ f services now := by simp [serve, hm]
  kept := by
    simp only [relayed, he]
    split
    · next h =>
      cases h
      have : Guard.device.admits config.general r = false := hg
      simp [this]
    · rfl

theorem LetIn.of_guard {r : Request} {e : Endpoint} (he : Endpoint.ofPath? r.route = some e)
    (ho : e.guard = .operator) (hg : Guard.operator.admits config.general r = true) :
    LetIn config r where
  served f services now := by
    have unguarded : Guard.operator.admits { config.general with apiSecret := none } r = true := rfl
    simp only [serve, he, Endpoint.respond, ho, hg, unguarded]

/-- In every configuration that can be composed, a request to the operators' endpoints without the
header for the secret is heard by none of them if the secret is not empty; if it is, which only a
file can make it, the request is served as though no secret were needed.  A request to the workers'
endpoints without an authorization is heard by none of them whatever the token is. -/
theorem secrets_presented (file : Option FileConfig) (env : Environment) (path : Option String)
    (h : compose file env path = .ok (config, warnings)) (r : Request) :
    (∀ secret, config.general.apiSecret = some secret → r.IsOperators →
      r.header? secretHeader = none →
        secret ≠ "" ∧ Refused config r ∨
        secret = "" ∧ env.get? "FLEET_API_SECRET" = none ∧
          file.bind (·.layer.apiSecret) = some "" ∧ LetIn config r) ∧
    (∀ token, config.general.bearerToken = some token → r.IsWorkers →
      r.header? "authorization" = none → Refused config r) := by
  constructor
  · intro secret hs ho hm
    obtain ⟨e, he, hg⟩ := ho.endpoint
    have admits : Guard.operator.admits config.general r = ("" == secret) := by
      simp only [Guard.admits, hs, Request.headerText_of_missing hm]
    by_cases hempty : secret = ""
    · subst hempty
      obtain ⟨henv, hfile⟩ := compose_empty_secret h hs
      exact .inr ⟨rfl, henv, hfile, .of_guard he hg admits⟩
    · refine .inl ⟨hempty, .of_guard he ?_⟩
      rw [hg, admits]
      exact beq_eq_false_iff_ne.2 (Ne.symm hempty)
  · intro token ht hw hm
    obtain ⟨e, he, hg⟩ := hw.endpoint
    refine .of_guard he ?_
    simp only [hg, Guard.admits, ht, Request.bearerToken?_of_missing hm]
    rfl

/-- A file that gives nothing but a secret. -/
def secretFile (secret : String) : FileConfig :=
  { FileConfig.empty with layer := { FileConfig.empty.layer with apiSecret := some secret } }

/-- A request without headers and body. -/
def bareRequest (method path : String) : Request := ⟨method, path, [], "", none⟩

theorem secrets_presented_bareRequest : ∃ config warnings,
    compose (some (secretFile "hidden")) [("FLEET_BEARER_TOKEN", "t")] none =
      .ok (config, warnings) ∧
    ("hidden" ≠ "" ∧ Refused config (bareRequest "GET" "/api/workers") ∨
      "hidden" = "" ∧ Environment.get? [("FLEET_BEARER_TOKEN", "t")] "FLEET_API_SECRET" = none ∧
        (some (secretFile "hidden")).bind (·.layer.apiSecret) = some "" ∧
        LetIn config (bareRequest "GET" "/api/workers")) ∧
    Refused config (bareRequest "POST" "/raw") :=
  ⟨_, _, rfl,
    (secrets_presented (some (secretFile "hidden")) [("FLEET_BEARER_TOKEN", "t")] none rfl
      (bareRequest "GET" "/api/workers")).1 "hidden" rfl ⟨by decide, by decide⟩ rfl,
    (secrets_presented (some (secretFile "hidden")) [("FLEET_BEARER_TOKEN", "t")] none rfl
      (bareRequest "POST" "/raw")).2 "t" rfl (by unfold Request.IsWorkers; decide) rfl⟩

/-- A file with an empty secret gives a configuration in which a secret is set, and the sessions of
the workers are listed to a request that presents none. -/
theorem empty_secret_unenforced :
    FileConfig.read? "[general]\napi_secret = \"\"" = some (secretFile "") ∧
    ¬ ∀ (file : Option FileConfig) (env : Environment) (path : Option String) (config : Config)
        (warnings : List Warning) (secret : String) (r : Request),
      compose file env path = .ok (config, warnings) →
        config.general.apiSecret = some secret → r.IsOperators → r.header? secretHeader = none →
          Refused config r := by
  refine ⟨by decide +kernel, fun enforced => ?_⟩
  have refused := enforced (some (secretFile "")) [] none _ _ "" (bareRequest "GET" "/api/workers")
    rfl rfl ⟨by decide, by decide⟩ rfl
  have answered := refused.turned_away (by decide)
    (Fleet.new Fleet.smallSettings Fleet.smallStore) .none 0
  have status : 200 = 401 := congrArg (·.1.status) answered
  cases status

end Http

end ScanFleet
