import Redpanda.Admin.Request

/-!
# Redirecting an admin request to a partition's leader

`src/v/redpanda/admin/server.cc:825–948`, `admin_server::redirect_to_leader`. The handler
guesses the leader's admin address from the request's `Host` header: the hostname picks a
kafka listener by its index among this node's advertised kafka addresses, and the port is
kept. The metadata cache, the node configuration and the rendering of an ntp are outside
the sources; the handler reads them through `MetadataCache`, `NodeConfig` and a function.
-/

namespace Redpanda.Admin

/-- `net::unresolved_address`. -/
structure UnresolvedAddress where
  host : String
  port : Nat
  deriving DecidableEq, Repr

/-- `model::broker_endpoint`, of which the handler reads the address only. -/
structure BrokerEndpoint where
  address : UnresolvedAddress
  deriving DecidableEq, Repr

/-- `model::broker`: the leader's advertised kafka listeners and its RPC address. -/
structure Broker where
  kafkaAdvertisedListeners : List BrokerEndpoint
  rpcAddress : UnresolvedAddress
  deriving DecidableEq, Repr

/-- `cluster::metadata_cache`: a partition's leader and a node's metadata. -/
structure MetadataCache where
  getLeaderId : Ntp → Option Int
  getNodeMetadata : Int → Option Broker

/-- `config::node()`: this node's id, its advertised kafka addresses and the port of its
first admin listener. -/
structure NodeConfig where
  nodeId : Int
  advertisedKafkaApi : List BrokerEndpoint
  adminPort : Nat
  deriving DecidableEq, Repr

/-- The parts of `ss::http::request` the handler reads; an absent `Host` header is empty. -/
structure HttpRequest where
  host : String
  protocolName : String
  url : String
  deriving DecidableEq, Repr

/-- `sstring::find(":")`: the index of the first `:`, with `npos` as `none`. -/
def findColon (s : String) : Option Nat := s.data.findIdx? (· == ':')

/-- `sstring::substr(pos, len)`: at most `len` characters from `pos`, all of them for
`len = npos` (`none`). -/
def substr (s : String) (pos : Nat) (len : Option Nat) : String :=
  match len with
  | none => ⟨s.data.drop pos⟩
  | some n => ⟨(s.data.drop pos).take n⟩

/-- The `Host` header split (`server.cc:893–903`): `req_hostname` before the first `:`, and
the port from that `:` on, left blank without one. -/
def splitHostHeader (hostHdr : String) : String × String :=
  let colon := findColon hostHdr
  let port := match colon with
    | none => ""
    | some c => substr hostHdr c none
  (substr hostHdr 0 colon, port)

/-- The guess of the leader's admin host (`server.cc:905–936`): the leader's advertised kafka
address at the index of this node's first advertised kafka address named `req_hostname`, if
the leader has that many, and the leader's RPC host otherwise. -/
def targetHost (advertisedKafkaApi : List BrokerEndpoint) (leader : Broker)
    (reqHostname : String) : String :=
  match advertisedKafkaApi.findIdx? (·.address.host == reqHostname) with
  | none => leader.rpcAddress.host
  | some listenerIdx =>
    let leaderAdvertisedAddrs := leader.kafkaAdvertisedListeners
    if h : leaderAdvertisedAddrs.length < listenerIdx + 1 then leader.rpcAddress.host
    else (leaderAdvertisedAddrs.get ⟨listenerIdx, by omega⟩).address.host

/-- The redirect URL for a known leader (`server.cc:878–941`): without a `Host` header the
port of this node's first admin listener and no host, otherwise the guessed host and the
header's port. -/
def redirectLocation (config : NodeConfig) (req : HttpRequest) (leader : Broker) : String :=
  let (target, port) :=
    if req.host.isEmpty then ("", ":" ++ toString config.adminPort)
    else
      let (reqHostname, port) := splitHostHeader req.host
      (targetHost config.advertisedKafkaApi leader reqHostname, port)
  req.protocolName ++ "://" ++ target ++ port ++ req.url

/-- `admin_server::redirect_to_leader` (`server.cc:825–948`): the location of the
`redirect_exception` it returns, with status `temporary_redirect`, or the exception it
throws, with status `service_unavailable`. -/
def redirectToLeader (cache : MetadataCache) (config : NodeConfig) (formatNtp : Ntp → String)
    (req : HttpRequest) (ntp : Ntp) : Except HandlerException String :=
  let shownNtp := formatNtp ntp
  match cache.getLeaderId ntp with
  | none => .error (.base s!"Partition {shownNtp} does not have a leader, cannot redirect" 503)
  | some leaderId =>
    if leaderId = config.nodeId then .error (.base "Leader not available" 503)
    else match cache.getNodeMetadata leaderId with
      | none =>
        .error (.base s!"Partition {shownNtp} leader {leaderId} metadata not available" 503)
      | some leader => .ok (redirectLocation config req leader)

/-! ### Hosts without a colon -/

theorem data_append_colon (h p : String) : (h ++ ":" ++ p).data = h.data ++ ':' :: p.data := by
  simp only [String.data_append, List.append_assoc, List.singleton_append]

theorem findColon_eq_none {h : String} (hh : ':' ∉ h.data) : findColon h = none :=
  List.findIdx?_eq_none_iff.2 fun c hc => by
    simpa using fun hceq : c = ':' => hh (hceq ▸ hc)

theorem findColon_append_colon {h : String} (hh : ':' ∉ h.data) (p : String) :
    findColon (h ++ ":" ++ p) = some h.length := by
  have hnone := findColon_eq_none hh
  unfold findColon at hnone ⊢
  rw [data_append_colon, List.findIdx?_append, hnone, List.findIdx?_cons]
  simp

/-- A DNS name or an IPv4 address, which hold no `:`, is split off its port: `h` alone
gives no port, and `h:p` gives `:p`. -/
theorem splitHostHeader_of_colon_free {h : String} (hh : ':' ∉ h.data) :
    splitHostHeader h = (h, "") ∧ ∀ p, splitHostHeader (h ++ ":" ++ p) = (h, ":" ++ p) := by
  refine ⟨by simp [splitHostHeader, findColon_eq_none hh, substr], fun p => ?_⟩
  simp only [splitHostHeader, findColon_append_colon hh, substr, data_append_colon,
    List.drop_zero, ← String.length_data, List.take_left, List.drop_left]
  rfl

/-- The guessed host reads the leader's listener at the matched index only when it is in
range, and falls back to the RPC host otherwise. -/
theorem targetHost_eq (advertisedKafkaApi : List BrokerEndpoint) (leader : Broker)
    (reqHostname : String) :
    targetHost advertisedKafkaApi leader reqHostname =
      match advertisedKafkaApi.findIdx? (·.address.host == reqHostname) with
      | none => leader.rpcAddress.host
      | some i => (leader.kafkaAdvertisedListeners[i]?.map (·.address.host)).getD
          leader.rpcAddress.host := by
  unfold targetHost
  split
  · rfl
  · rename_i i _
    dsimp only
    split
    · rw [List.getElem?_eq_none (by omega)]
      rfl
    · rw [List.getElem?_eq_getElem (by omega)]
      rfl

/-- For a `Host` header `h` or `h:p` with a colon-free `h`, the redirect goes to the guessed
host of `h`, with the port `:p` or none. -/
theorem redirectLocation_of_colon_free (config : NodeConfig) (leader : Broker)
    (protocol url : String) {h : String} (hh : ':' ∉ h.data) :
    (h ≠ "" → redirectLocation config ⟨h, protocol, url⟩ leader =
      protocol ++ "://" ++ targetHost config.advertisedKafkaApi leader h ++ url) ∧
    ∀ p, redirectLocation config ⟨h ++ ":" ++ p, protocol, url⟩ leader =
      protocol ++ "://" ++ targetHost config.advertisedKafkaApi leader h ++ (":" ++ p) ++
        url := by
  obtain ⟨hsplit, hsplit'⟩ := splitHostHeader_of_colon_free hh
  refine ⟨fun hne => ?_, fun p => ?_⟩
  · have : h.isEmpty = false := by simpa [← Bool.not_eq_true, String.isEmpty_iff] using hne
    simp [redirectLocation, this, hsplit]
  · have : (h ++ ":" ++ p).isEmpty = false := by
      simp [← Bool.not_eq_true, String.isEmpty_iff, String.ext_iff, String.data_append]
    simp [redirectLocation, this, hsplit' p]

/-- A `Host` header naming the DNS name `broker-1`, with or without a port. -/
theorem redirectLocation_dns_name :
    let config : NodeConfig := ⟨1, [⟨⟨"broker-1", 9092⟩⟩], 9644⟩
    let leader : Broker := ⟨[⟨⟨"broker-2", 9092⟩⟩], ⟨"10.0.0.2", 33145⟩⟩
    ':' ∉ "broker-1".data ∧
      ("broker-1" ≠ "" → redirectLocation config ⟨"broker-1", "http", "/v1/partitions"⟩ leader =
        "http" ++ "://" ++ targetHost config.advertisedKafkaApi leader "broker-1" ++
          "/v1/partitions") ∧
      ∀ p, redirectLocation config ⟨"broker-1" ++ ":" ++ p, "http", "/v1/partitions"⟩ leader =
        "http" ++ "://" ++ targetHost config.advertisedKafkaApi leader "broker-1" ++ (":" ++ p) ++
          "/v1/partitions" :=
  ⟨by decide, redirectLocation_of_colon_free _ _ "http" "/v1/partitions" (by decide)⟩

/-- A bracketed IPv6 literal is split at its own first colon: `[::1]:9644` gives the hostname
`[` and the port `::1]:9644`, so the redirect URL carries `::1]:9644` after the host. -/
theorem redirect_splits_ipv6_host_at_first_colon :
    splitHostHeader "[::1]:9644" = ("[", "::1]:9644") ∧
      redirectToLeader ⟨fun _ => some 2, fun _ => some ⟨[], ⟨"10.0.0.2", 33145⟩⟩⟩
          ⟨1, [], 9644⟩ (fun _ => "kafka/t/0") ⟨"[::1]:9644", "http", "/v1/partitions"⟩
          ⟨"kafka", "t", 0⟩ =
        .ok "http://10.0.0.2::1]:9644/v1/partitions" := by
  constructor <;> rfl

end Redpanda.Admin
