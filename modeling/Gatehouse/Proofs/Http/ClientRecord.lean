/-
  The limiter and the sessions see the same client.

  The client of a request is worked out twice.  The limiter wants a name to count under, and takes
  the address of the client or, where there is none, a fixed name.  The handler wants what is
  written down of a new session, and takes the address and the user agent, each trimmed once more
  and dropped if it is blank.  If the second trimming changed anything, a session could show an
  address that no request was ever counted under.

  It changes nothing: an address from the header fields is trimmed and not blank, and so is the text
  of any network address (`tidy_clientAddress`).  So both see the same address (`key_eq`),
  and whatever record a request creates, it was charged to the address in the record
  (`recorded_client_is_charged`).
-/
import Gatehouse.Proofs.Http.Calls
import Gatehouse.Proofs.Net.Address
import Gatehouse.Proofs.RateLimit.Window
import Gatehouse.Proofs.Text.Blank

namespace Gatehouse

/-! ## Requests that are charged -/

namespace RateLimiter

/-- From the limiter `l` to `l'` a request to the route was charged to the client: its time comes to
those of the client that still count, and nobody else's times change. -/
structure Charges (l l' : RateLimiter) (client route : String) (now : Instant) : Prop where
  /-- The times of the client. -/
  own : l'.timesOf route client = recent rateWindow now (l.timesOf route client) ++ [now]
  /-- The times of all others. -/
  others : ∀ route' client', ¬ (route' = route ∧ client' = client) →
    l'.timesOf route' client' = l.timesOf route' client'

theorem charges_allow {l : RateLimiter} {client route : String} {limit : Nat} {now : Instant}
    (h : (l.allow client route limit now).1 = true) :
    l.Charges (l.allow client route limit now).2 client route now where
  own := by rw [timesOf_allow, if_pos ⟨rfl, rfl⟩, h, if_pos rfl]
  others route' client' hother := by rw [timesOf_allow, if_neg hother]

end RateLimiter

/-! ## Records of the store -/

/-- A record that comes up in a run of the store shows the client of the call that wrote it. -/
theorem Memory.exists_noted {m : Memory} {steps : List Step} {k : String} {r : RefreshRecord Nat}
    (h₀ : m.refresh.get? k = none) (h₁ : (m.run steps).refresh.get? k = some r) :
    ∃ s ∈ steps, ∃ call client, s.operation = .call call ∧ call.client? = some client ∧
      r.ip = client.ip ∧ r.userAgent = client.userAgent := by
  induction steps generalizing m with
  | nil => simp [h₀] at h₁
  | cons s steps ih =>
    rw [run_cons] at h₁
    cases hk : (m.perform s).refresh.get? k with
    | none =>
      obtain ⟨s', hs', hnoted⟩ := ih hk h₁
      exact ⟨s', List.mem_cons_of_mem s hs', hnoted⟩
    | some r₀ =>
      -- this step wrote it, and no later one changes what it says of the client
      obtain ⟨r', hr', evolves⟩ := evolves_run hk steps
      obtain rfl : r = r' := Option.some.inj (h₁.symm.trans hr')
      rw [evolves.ip, evolves.userAgent]
      obtain ⟨t, n, effect, rfl, -⟩ := m.refreshEffect_perform s
      refine ⟨s, List.mem_cons_self, ?_⟩
      rcases effect.get?_of_none h₀ hk with
        ⟨user, expiresAt, client, hop, rfl⟩ |
        ⟨old, expiresAt, client, parent, account, -, hop, rfl⟩
      · exact ⟨_, client, hop, rfl, rfl, rfl⟩
      · exact ⟨_, client, hop, rfl, rfl, rfl⟩

namespace Http

variable {p : Portal} {r : Request} {h : Headers} {peer : Option Address}

/-! ## The address of a client -/

/-- The first of the addresses that the first forwarding field lists, if it can be read as text. -/
def forwardedPart? (h : Headers) : Option String :=
  (h.text? "x-forwarded-for").bind fun value => (Text.split ',' value).head?

/-- `NamedBy h peer ip` — with these header fields, and a connection from this address, the fields
of a proxy make `ip` the address of the client. -/
inductive NamedBy (h : Headers) (peer : Option Address) : Option String → Prop where
  /-- The first address that was forwarded counts, if it is not blank. -/
  | forwarded (part : String) (listed : forwardedPart? h = some part)
      (named : Text.blank part = false) : NamedBy h peer (some (Text.trim part))
  /-- If there is none, the real address counts. -/
  | real (unlisted : ∀ part, forwardedPart? h = some part → Text.blank part = true) (value : String)
      (given : h.text? "x-real-ip" = some value) (named : Text.blank value = false) :
      NamedBy h peer (some (Text.trim value))
  /-- If there is none either, that of the connection does. -/
  | peer (unlisted : ∀ part, forwardedPart? h = some part → Text.blank part = true)
      (ungiven : ∀ value, h.text? "x-real-ip" = some value → Text.blank value = true) :
      NamedBy h peer (peer.map Address.toText)

theorem firstForwarded_eq (value : String) :
    firstForwarded value = (Text.split ',' value).head?.bind trimmed? := by
  rw [Text.split, List.head?_map, Text.head?_splitChars, Option.map_some, Option.bind_some,
    firstForwarded]

theorem headerAddress_eq (h : Headers) :
    headerAddress h =
      ((forwardedPart? h).bind trimmed?).or ((h.text? "x-real-ip").bind trimmed?) := by
  rw [headerAddress, forwardedPart?, Option.bind_assoc]
  simp only [← firstForwarded_eq]

/-- **What a trusted proxy says of the client.** -/
theorem namedBy_clientAddress (h : Headers) (peer : Option Address) :
    NamedBy h peer (clientAddress h peer true) := by
  rw [clientAddress, if_pos rfl, headerAddress_eq]
  cases hforwarded : (forwardedPart? h).bind trimmed? with
  | some t =>
    obtain ⟨part, listed, ht⟩ := Option.bind_eq_some_iff.1 hforwarded
    obtain ⟨named, rfl⟩ := trimmed?_eq_some_iff.1 ht
    exact .forwarded part listed named
  | none =>
    have unlisted : ∀ part, forwardedPart? h = some part → Text.blank part = true :=
      fun _ => blank_of_bind_trimmed? hforwarded
    cases hreal : (h.text? "x-real-ip").bind trimmed? with
    | some t =>
      obtain ⟨value, given, ht⟩ := Option.bind_eq_some_iff.1 hreal
      obtain ⟨named, rfl⟩ := trimmed?_eq_some_iff.1 ht
      exact .real unlisted value given named
    | none => exact .peer unlisted fun _ => blank_of_bind_trimmed? hreal

/-- **The address of a client is tidy**, wherever it comes from. -/
theorem tidy_clientAddress {trustProxy : Bool} {t : String}
    (ht : clientAddress h peer trustProxy = some t) : Text.Tidy t := by
  have hpeer (hp : peer.map Address.toText = some t) : Text.Tidy t := by
    obtain ⟨a, ha, rfl⟩ := Option.map_eq_some_iff.1 hp
    exact a.tidy_toText
  cases trustProxy with
  | false => exact hpeer ht
  | true =>
    have named := namedBy_clientAddress h peer
    rw [ht] at named
    generalize hip : some t = ip at named
    cases named with
    | forwarded part _ hblank =>
      rw [Option.some.inj hip]
      exact Text.tidy_trim hblank
    | real _ value _ hblank =>
      rw [Option.some.inj hip]
      exact Text.tidy_trim hblank
    | peer => exact hpeer hip.symm

/-- What is written down of a client is tidy. -/
theorem tidy_client {t : String} (ht : (r.client p).ip = some t ∨ (r.client p).userAgent = some t) :
    Text.Tidy t := by
  have hkept {value : Option String} (hvalue : value.bind trimmed? = some t) : Text.Tidy t := by
    obtain ⟨raw, -, hraw⟩ := Option.bind_eq_some_iff.1 hvalue
    exact tidy_of_trimmed? hraw
  exact ht.elim hkept hkept

/-- The address that is written down is the one that was worked out: it is trimmed already. -/
theorem ip_client : (r.client p).ip = clientAddress r.headers r.peer p.trustProxy :=
  bind_trimmed? fun _ ht => tidy_clientAddress ht

/-- **The limiter counts a request under the address that is written down.** -/
theorem key_eq : r.key p = (r.client p).ip.getD unknownClient := by
  rw [ip_client, Request.key]

/-! ## What a record says of its client -/

/-- `Attributed p l v ip userAgent` — the address and the user agent are rightly those of the client
who sent the request of the visit `v` to a server with the limiter `l`. -/
structure Attributed (p : Portal) (l : RateLimiter) (v : Visit) (ip userAgent : Option String) :
    Prop where
  /-- The request is a log-in or a refresh. -/
  route : Route.ofPath? v.request.path = some .login ∨ Route.ofPath? v.request.path = some .refresh
  /-- It was charged to the address, or to nobody known. -/
  charged : l.Charges (serve p l v.time v.request).1 (ip.getD unknownClient) v.request.path v.time
  /-- Neither is blank or has blanks around it. -/
  tidy : ∀ t, ip = some t ∨ userAgent = some t → Text.Tidy t
  /-- A proxy that is trusted names the address. -/
  trusted : p.trustProxy = true → NamedBy v.request.headers v.request.peer ip
  /-- Without one it is that of the connection. -/
  untrusted : p.trustProxy = false → ip = v.request.peer.map Address.toText

theorem attributed_of_writesDown {l : RateLimiter} {v : Visit} {client : ClientInfo}
    (h : v.request.WritesDown p l v.time client) : Attributed p l v client.ip client.userAgent := by
  obtain ⟨counted, route, accepted, rfl⟩ := h
  have hlimiter : (serve p l v.time v.request).1 =
      (l.allow (v.request.key p) v.request.path p.rateLimit v.time).2 := by
    rcases limiter_serve p l v.time v.request with ⟨-, hlimiter⟩ | ⟨huncounted, -⟩
    · exact hlimiter
    · exact absurd counted huncounted
  refine ⟨route, ?_, fun t => tidy_client, fun htrust => ?_, fun htrust => ?_⟩
  · rw [hlimiter, ← key_eq]
    exact RateLimiter.charges_allow accepted
  · rw [ip_client, htrust]
    exact namedBy_clientAddress _ _
  · rw [ip_client, htrust]
    rfl

/-- **The limiter and the sessions see the same client.**  Let a request come in with any header
fields, over a connection from anywhere or from nowhere known.  If it creates a refresh record, then
it was a log-in or a refresh, and it was charged to the address in the record, or to the fixed name
if there is none; what the record says of the client is neither blank nor has it blanks around it;
and the address is the one that the proxy names, if there is a proxy to trust, and else that of the
connection.  The same goes for the client in any call that the request makes to any store. -/
theorem recorded_client_is_charged (p : Portal) (v : Visit) :
    (∀ (s : Site Memory) (digest : String) (record : RefreshRecord Nat),
      s.store.refresh.get? digest = none →
      (s.answer p Memory.backend v).2.store.refresh.get? digest = some record →
      Attributed p s.limiter v record.ip record.userAgent) ∧
    ∀ (σ : Type) (backend : Backend σ) (s : Site σ) (call : Call) (client : ClientInfo),
      call ∈ (serve p s.limiter v.time v.request).2.calls backend (s.world v) →
      call.client? = some client → Attributed p s.limiter v client.ip client.userAgent := by
  have hcalls {σ : Type} (backend : Backend σ) (s : Site σ) {call : Call} {client : ClientInfo}
      (hcall : call ∈ (serve p s.limiter v.time v.request).2.calls backend (s.world v))
      (hclient : call.client? = some client) :
      Attributed p s.limiter v client.ip client.userAgent :=
    attributed_of_writesDown (writesDown_of_mem_calls hcall hclient)
  refine ⟨fun s digest record h₀ h₁ => ?_, fun σ backend s call client => hcalls backend s⟩
  rw [Site.store_answer, Flow.store_exec] at h₁
  obtain ⟨step, hstep, call, client, hop, hclient, hip, hagent⟩ := Memory.exists_noted h₀ h₁
  obtain ⟨call', hcall, rfl⟩ := List.mem_map.1 hstep
  obtain rfl : call' = call := by simpa using hop
  rw [hip, hagent]
  exact hcalls Memory.backend s hcall hclient

/-- A server behind a proxy that it trusts, with one open session, whose token is `x`. -/
def relay : Site Memory where
  store := {
    accounts := (∅ : Table Uuid Account).insert (.ofNat 1)
      ⟨⟨.ofNat 1, "a@example.org", none, "learner"⟩, ""⟩
    refresh := (∅ : Table String (RefreshRecord Nat)).insert
      "2d711642b726b04401627ca9fbac32f5c8530fb1903cc4db02258717921a4881"
      { id := 0, user := .ofNat 1
        digest := "2d711642b726b04401627ca9fbac32f5c8530fb1903cc4db02258717921a4881"
        createdAt := 0, lastUsedAt := none, expiresAt := 2000, revoked := false
        replacedBy := none, ip := none, userAgent := none }
    issued := 1 }

/-- The session is renewed, over two more proxies. -/
def relayed : Visit where
  time := 0
  date := 1000
  request := {
    method := "POST"
    path := "/api/v1/auth/refresh"
    headers := (Headers.ofList? [("Content-Type", "application/json"),
      ("X-Forwarded-For", " 1.2.3.4 , 5.6.7.8"), ("X-Real-IP", "9.9.9.9")]).getD []
    body := Text.utf8 "\x7b\"refresh_token\":\"x\"\x7d"
    peer := some (.v4 127 0 0 1) }

/-- The digest of the new token. -/
def renewed : String := "e1659ad54063a379f77fee108a376a6a7d5ae3d0c437bf847203963bd0078dfc"

/-- The portal of the server. -/
def relayPortal : Portal := ⟨⟨⟨"", "", 0⟩, 2592000000⟩, 5, "", true⟩

/-- The record of the new token shows the first address that was forwarded. -/
theorem recorded_client_is_charged_relayed :
    ∃ record,
      (relay.answer relayPortal Memory.backend relayed).2.store.refresh.get? renewed =
        some record ∧
      record.ip = some "1.2.3.4" ∧
      Attributed relayPortal relay.limiter relayed record.ip record.userAgent := by
  have hip : ((relay.answer relayPortal Memory.backend relayed).2.store.refresh.get? renewed).map
      (·.ip) = some (some "1.2.3.4") := by
    decide +kernel
  have hfresh : relay.store.refresh.get? renewed = none := by decide +kernel
  obtain ⟨record, hrecord, hip⟩ := Option.map_eq_some_iff.1 hip
  exact ⟨record, hrecord, hip,
    (recorded_client_is_charged relayPortal relayed).1 relay renewed record hfresh hrecord⟩

end Http

end Gatehouse
