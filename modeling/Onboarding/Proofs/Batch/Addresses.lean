import Onboarding.Http.Script
import Onboarding.Proofs.Batch.Conversation
import Onboarding.Proofs.Url.Below

/-!
# Where requests go

The two clients send every request to a URL that keeps to the base URL they were made with.  The
realm, the users' names and the ids that a server gives are put into these URLs as they are, and
none of them leads out of the base.

* Addresses.  Each address of a client is made of guided segments below its base URL.
* Requests.  `StaysIn` and `SearchesIn` say where a request goes, and there is one lemma for each
  request of a client.
* Clients.  `requests_enclosed` is about all that the clients send, act by act and in whole runs.
-/

namespace Onboarding

open Http (Request Turn)
open Url (Guided Plain)

/-! ## Requests -/

namespace Http.Request

/-- The request goes to a URL that keeps to the base URL and has its query. -/
def StaysIn (base : Url) (r : Request) : Prop :=
  ∃ u : Url, r.url = u.text ∧ base.Encloses u ∧ u.query = base.query

/-- The request is a search for a user: it goes to a URL that keeps to the base URL, and the query
has the pairs of the search behind that of the base URL. -/
def SearchesIn (base : Url) (username : String) (r : Request) : Prop :=
  r.method = "GET" ∧
    ∃ u : Url, r.url = u.text ∧ base.Encloses u ∧
      u.query = some (Url.searchQuery base.query username)

end Http.Request

namespace Keycloak

variable {k : Keycloak}

/-- What a client of Keycloak is made of. -/
theorem carries_of_make {base realm : String} (h : make base realm = .ok k) :
    Url.parse base = .ok k.base ∧ k.base.Carries := by
  rw [make] at h
  split at h
  · cases h
  · next url hurl =>
    split at h
    · cases h
    · next hcarries =>
      have hcarries : url.hasHierarchy = true := by simpa using hcarries
      split at h
      · cases h
      · cases h
        exact ⟨hurl, hcarries, Url.parse_rooted hurl hcarries⟩

variable (h : k.base.Carries)

include h

theorem tokenRequest_stays (credentials : Credentials) :
    (k.tokenRequest credentials).StaysIn k.base := by
  have hguided : Guided true [k.realm, "protocol", "openid-connect", "token"] :=
    .free (.plain (by decide) (.plain (by decide) (.plain (by decide) .done)))
  obtain ⟨hencloses, hquery⟩ := h.below_encloses (by decide : Plain "realms") hguided
  exact ⟨k.tokenUrl, rfl, hencloses, hquery⟩

theorem usersUrl_encloses :
    k.base.Encloses k.usersUrl ∧ k.usersUrl.query = k.base.query := by
  have hguided : Guided true ["realms", k.realm, "users"] :=
    .plain (by decide) (.free (.plain (by decide) .done))
  exact h.below_encloses (by decide : Plain "admin") hguided

theorem searchRequest_searches (session : Session) (username : String) :
    (k.searchRequest session username).SearchesIn k.base username := by
  obtain ⟨hencloses, hquery⟩ := usersUrl_encloses h
  obtain ⟨hsearch, hpairs⟩ := Url.withPairs_encloses hencloses username
  rw [hquery] at hpairs
  exact ⟨rfl, k.searchUrl username, rfl, hsearch, hpairs⟩

theorem createRequest_stays (session : Session) (username : String) :
    (k.createRequest session username).StaysIn k.base := by
  obtain ⟨hencloses, hquery⟩ := usersUrl_encloses h
  exact ⟨k.usersUrl, rfl, hencloses, hquery⟩

theorem passwordRequest_stays (session : Session) (id : String) (password : Secret) :
    (k.passwordRequest session id password).StaysIn k.base := by
  have hguided : Guided true ["realms", k.realm, "users", id, "reset-password"] :=
    .plain (by decide) (.free (.plain (by decide) (.free (.plain (by decide) .done))))
  obtain ⟨hencloses, hquery⟩ := h.below_encloses (by decide : Plain "admin") hguided
  exact ⟨k.passwordUrl id, rfl, hencloses, hquery⟩

end Keycloak

namespace Synapse

variable {c : Synapse}

/-- What a client of Synapse is made of. -/
theorem carries_of_make {base name : String} {token : Secret} (h : make base name token = .ok c) :
    Url.parse base = .ok c.base ∧ c.base.Carries := by
  rw [make] at h
  split at h
  · cases h
  · next url hurl =>
    split at h
    · cases h
    · next hcarries =>
      have hcarries : url.hasHierarchy = true := by simpa using hcarries
      split at h
      · cases h
      · split at h
        · cases h
        · cases h
          exact ⟨hurl, hcarries, Url.parse_rooted hurl hcarries⟩

theorem accountRequest_stays (h : c.base.Carries) (username : String) (password : Secret) :
    (c.accountRequest username password).StaysIn c.base := by
  have hguided : Guided true ["admin", "v2", "users", c.userId username] :=
    .plain (by decide) (.plain (by decide) (.plain (by decide) (.free .done)))
  obtain ⟨hencloses, hquery⟩ := h.below_encloses (by decide : Plain "_synapse") hguided
  exact ⟨c.userUrl username, rfl, hencloses, hquery⟩

end Synapse

/-! ## Clients -/

variable {σ : Type}

/-- An act that asks one thing of a recorded transport sends requests of the kind of that one. -/
theorem Http.Transport.recorded_agrees_from {P : Request → Prop} (send : Http.Transport σ)
    {r : Request} (h : P r) (start : σ × List Turn) :
    Act.Agrees (Act.From (Turn.Adds P) start) (send.recorded r) (send.recorded r) :=
  (send.recorded_adds h).agrees Turn.Adds.trans start

/-- All that a client of Keycloak sends keeps to its base URL, and a path can be put below that
wherever the client does so. -/
structure Keycloak.Enclosed (k : Keycloak) (send : Http.Transport σ) : Prop where
  below : ∀ segments, (k.base.below? segments).isSome
  authenticate : ∀ credentials,
    Act.Advances (Turn.Adds (Request.StaysIn k.base)) (k.authenticate send.recorded credentials)
  find : ∀ session username,
    Act.Advances (Turn.Adds (Request.SearchesIn k.base username))
      (k.find send.recorded session username)
  create : ∀ session username,
    Act.Advances (Turn.Adds fun r => r.StaysIn k.base ∨ r.SearchesIn k.base username)
      (k.create send.recorded session username)
  setPassword : ∀ session id password,
    Act.Advances (Turn.Adds (Request.StaysIn k.base))
      (k.setPassword send.recorded session id password)

/-- All that a client of Synapse sends keeps to its base URL. -/
structure Synapse.Enclosed (c : Synapse) (send : Http.Transport σ) : Prop where
  below : ∀ segments, (c.base.below? segments).isSome
  provision : ∀ env username password,
    Act.Advances (Turn.Adds (Request.StaysIn c.base))
      ((c.server send.recorded).provision env username password)

theorem Keycloak.enclosed {k : Keycloak} (h : k.base.Carries) (send : Http.Transport σ) :
    k.Enclosed send where
  below := h.below?_isSome
  authenticate credentials := Act.Advances.of_agrees (Turn.Adds.refl _) fun start =>
    authenticate_agreesOn (send.recorded_agrees_from (tokenRequest_stays h credentials) start)
  find session username := Act.Advances.of_agrees (Turn.Adds.refl _) fun start =>
    find_agreesOn (send.recorded_agrees_from (searchRequest_searches h session username) start)
  create session username := Act.Advances.of_agrees (Turn.Adds.refl _) fun start =>
    create_agreesOn
      (send.recorded_agrees_from (Or.inl (createRequest_stays h session username)) start)
      (send.recorded_agrees_from (Or.inr (searchRequest_searches h session username)) start)
  setPassword session id password := Act.Advances.of_agrees (Turn.Adds.refl _) fun start =>
    setPassword_agreesOn
      (send.recorded_agrees_from (passwordRequest_stays h session id password) start)

theorem Synapse.enclosed {c : Synapse} (h : c.base.Carries) (send : Http.Transport σ) :
    c.Enclosed send where
  below := h.below?_isSome
  provision env username password := Act.Advances.of_agrees (Turn.Adds.refl _) fun start =>
    provision_agreeOn
      (send.recorded_agrees_from (accountRequest_stays h username password) start) env

/-! ## Runs -/

namespace Servers

/-- A request of a run: to Synapse, or to Keycloak, there perhaps as a search for a user. -/
def KeepsTo (k : Keycloak) (c : Synapse) (r : Request) : Prop :=
  r.StaysIn k.base ∨ (∃ username, r.SearchesIn k.base username) ∨ r.StaysIn c.base

theorem run_keepsTo {k : Keycloak} {c : Synapse} (hk : k.base.Carries) (hc : c.base.Carries)
    (send : Http.Transport σ) (session : Keycloak.Session) (env : Environment)
    (records : List Record) :
    Act.Advances (Turn.Adds (KeepsTo k c))
      ((overTransport k session c send.recorded).run env records) := by
  refine Act.Advances.of_agrees (Turn.Adds.refl _) fun start => ?_
  have hanswers : k.AnswersAgree (Act.From (Turn.Adds (KeepsTo k c)) start) Eq send.recorded
      send.recorded session session :=
    { search := fun username => send.recorded_agrees_from
        (Or.inr (Or.inl ⟨username, Keycloak.searchRequest_searches hk session username⟩)) start
      create := fun username => send.recorded_agrees_from
        (Or.inl (Keycloak.createRequest_stays hk session username)) start
      password := by
        rintro id p _ rfl
        exact send.recorded_agrees_from
          (Or.inl (Keycloak.passwordRequest_stays hk session id p)) start }
  have haccount : ∀ env username p q, p = q →
      Act.Agrees (Act.From (Turn.Adds (KeepsTo k c)) start)
        ((c.server send.recorded).provision env username p)
        ((c.server send.recorded).provision env username q) := by
    rintro env username p _ rfl
    exact Synapse.provision_agreeOn (send.recorded_agrees_from
      (Or.inr (Or.inr (Synapse.accountRequest_stays hc username p))) start) env
  exact (hanswers.servers haccount).run env (List.forall₂_same.mpr fun _ _ => ⟨rfl, rfl⟩)

/-- No request leaves the base URL of its client.  Whatever the base URL, the realm, the names, the
passwords and the ids are, and whatever is answered, each URL that a client asks for has the scheme,
the authority and the fragment of its base URL, and a path that goes on with a slash behind that of
the base URL.  The query is that of the base URL, with the pairs of the search behind it in a search
for a user, whose name adds no pair of its own.  So it is for every act of a client by itself and
for whole runs, and a path can be put below the base URL each time. -/
theorem requests_enclosed (send : Http.Transport σ) :
    (∀ base realm k, Keycloak.make base realm = .ok k →
        Url.parse base = .ok k.base ∧ k.Enclosed send) ∧
      (∀ base name token c, Synapse.make base name token = .ok c →
        Url.parse base = .ok c.base ∧ c.Enclosed send) ∧
      (∀ base realm k base' name token c, Keycloak.make base realm = .ok k →
        Synapse.make base' name token = .ok c → ∀ session env records,
          Act.Advances (Turn.Adds (KeepsTo k c))
            ((overTransport k session c send.recorded).run env records)) ∧
      ∀ username, ∀ sign ∈ Form.encodeText username, sign ≠ '&' ∧ sign ≠ '=' ∧ sign ≠ '#' := by
  refine ⟨fun base realm k hk => ?_, fun base name token c hc => ?_, ?_, ?_⟩
  · obtain ⟨hparse, hcarries⟩ := Keycloak.carries_of_make hk
    exact ⟨hparse, Keycloak.enclosed hcarries send⟩
  · obtain ⟨hparse, hcarries⟩ := Synapse.carries_of_make hc
    exact ⟨hparse, Synapse.enclosed hcarries send⟩
  · intro base realm k base' name token c hk hc session env records
    have hkeycloak := (Keycloak.carries_of_make hk).2
    have hsynapse := (Synapse.carries_of_make hc).2
    exact run_keepsTo hkeycloak hsynapse send session env records
  · exact fun username sign hsign => Url.closed_of_mem_encodeText hsign

/-- A Keycloak below a path, with a query and a fragment, and a realm that reads as two dots. -/
def awkwardKeycloak : Keycloak where
  base := ⟨"http".toList, some ⟨"u".toList, some "p".toList, .name "h".toList, some 81⟩,
    "/auth//".toList, some "q=1".toList, some "f".toList⟩
  realm := ".\t."

/-- A Synapse on a drive. -/
def awkwardSynapse : Synapse where
  base := ⟨"file".toList, some ⟨[], none, .name [], none⟩, "/C:/".toList, none, none⟩
  serverName := "e/x"
  token := ⟨"t"⟩

theorem requests_enclosed_awkward :
    Keycloak.make "http://u:p@h:81/auth//?q=1#f" ".\t." = .ok awkwardKeycloak ∧
      Synapse.make "file:///C|/../" "e/x" ⟨"t"⟩ = .ok awkwardSynapse ∧
      awkwardKeycloak.Enclosed Http.Script.send ∧ awkwardSynapse.Enclosed Http.Script.send ∧
      Act.Advances (Turn.Adds (KeepsTo awkwardKeycloak awkwardSynapse))
        ((overTransport awkwardKeycloak (.ofToken "token") awkwardSynapse
          (Http.Transport.recorded Http.Script.send)).run .dev [⟨"a&b=c#d", ⟨"pw"⟩⟩]) ∧
      (awkwardKeycloak.passwordUrl "../x").text
        = "http://u:p@h:81/auth//admin//users/..%2Fx/reset-password?q=1#f" ∧
      (awkwardKeycloak.searchUrl "a&b=c#d").text
        = "http://u:p@h:81/auth//admin//users?q=1&username=a%26b%3Dc%23d&exact=true#f" ∧
      (awkwardSynapse.userUrl "..").text
        = "file:///C:/_synapse/admin/v2/users/@..:e%2Fx" := by
  have hkeycloak : Keycloak.make "http://u:p@h:81/auth//?q=1#f" ".\t." = .ok awkwardKeycloak := by
    decide +kernel
  have hsynapse : Synapse.make "file:///C|/../" "e/x" ⟨"t"⟩ = .ok awkwardSynapse := by
    decide +kernel
  obtain ⟨hfirst, hsecond, hrun, _⟩ := requests_enclosed Http.Script.send
  exact ⟨hkeycloak, hsynapse, (hfirst _ _ _ hkeycloak).2, (hsecond _ _ _ _ hsynapse).2,
    hrun _ _ _ _ _ _ _ hkeycloak hsynapse _ _ _, by decide +kernel, by decide +kernel,
    by decide +kernel⟩

end Servers

end Onboarding
