import Redpanda.Admin.Redirect

/-!
# Turning an error code into a reply

`src/v/redpanda/admin/server.cc:1118–1275`, `admin_server::throw_on_error`, which most
handlers call on the error code a controller operation returns. A code of the cluster,
raft, transaction or RPC category is mapped to an HTTP exception, or to a redirect to the
leader of a partition; a few codes count as success. The enumerations and messages of the
categories are outside the sources: each category is modelled by the codes the switch
names, its code of value `0` and `other`, any non-zero code the switch does not name.
`server_error_exception` is the `base_exception` with status `500`.
-/

namespace Redpanda.Admin

/-- `cluster::errc`, by the codes `throw_on_error` names. -/
inductive ClusterErrc where
  | success
  | nodeDoesNotExists
  | invalidNodeOperation
  | timeout
  | replicationError
  | updateInProgress
  | leadershipChanged
  | waitingForRecovery
  | noLeaderController
  | shuttingDown
  | notLeader
  | notLeaderController
  | noUpdateInProgress
  | throttlingQuotaExceeded
  | transformDoesNotExist
  | transformInvalidUpdate
  | transformInvalidCreate
  | transformInvalidSource
  | transformInvalidEnvironment
  | sourceTopicNotExists
  | sourceTopicStillInUse
  | invalidPartitionOperation
  | other
  deriving DecidableEq, Repr

/-- `raft::errc`, by the codes `throw_on_error` names. -/
inductive RaftErrc where
  | success
  | exponentialBackoff
  | disconnectedEndpoint
  | configurationChangeInProgress
  | leadershipTransferInProgress
  | shuttingDown
  | replicatedEntryTruncated
  | timeout
  | transferToCurrentLeader
  | notLeader
  | nodeDoesNotExists
  | notVoter
  | other
  deriving DecidableEq, Repr

/-- `cluster::tx_errc`, by the codes `throw_on_error` names. -/
inductive TxErrc where
  | none
  | leaderNotFound
  | pidNotFound
  | partitionNotFound
  | notCoordinator
  | other
  deriving DecidableEq, Repr

/-- `rpc::errc`, by the codes `throw_on_error` names. -/
inductive RpcErrc where
  | success
  | disconnectedEndpoint
  | exponentialBackoff
  | shuttingDown
  | missingNodeRpcClient
  | clientRequestTimeout
  | connectionTimeout
  | serviceError
  | methodNotFound
  | versionNotSupported
  | unknown
  | other
  deriving DecidableEq, Repr

/-- The category and code of a `std::error_code`; a code of another category is `other`
with its value. -/
inductive ErrorKind where
  | cluster (e : ClusterErrc)
  | raft (e : RaftErrc)
  | tx (e : TxErrc)
  | rpc (e : RpcErrc)
  | other (value : Int)
  deriving DecidableEq, Repr

/-- A `std::error_code`: its category and code, and `ec.message()`. -/
structure ErrorCode where
  kind : ErrorKind
  message : String
  deriving DecidableEq, Repr

/-- `!ec`: the code is its category's zero. -/
def ErrorCode.isZero (ec : ErrorCode) : Bool :=
  match ec.kind with
  | .cluster .success | .raft .success | .tx .none | .rpc .success | .other 0 => true
  | _ => false

/-- What `throw_on_error` uses from outside the sources besides the redirect: the
formatting of an ntp, `fmt_with_ctx`, `model::tx_manager_topic` and
`model::kafka_internal_namespace`. -/
structure ErrorEnv where
  formatNtp : Ntp → String
  withCtx : String → String
  txManagerTopic : String
  kafkaInternalNamespace : String

/-- `throw co_await redirect_to_leader(req, ntp)`: the redirect, or the exception the
redirect itself throws. -/
def throwRedirect {α : Type} (cache : MetadataCache) (config : NodeConfig)
    (formatNtp : Ntp → String) (req : HttpRequest) (ntp : Ntp) : Except HandlerException α :=
  match redirectToLeader cache config formatNtp req ntp with
  | .ok location => throw (.redirect location)
  | .error e => throw e

/-- The cluster category of `throw_on_error` (`server.cc:1135–1185`). -/
def throwOnClusterError (redirect : Ntp → Except HandlerException Unit) (controllerNtp : Ntp)
    (ntp : Ntp) (id : Int) (message : String) :
    ClusterErrc → Except HandlerException Unit
  | .nodeDoesNotExists => throw (.notFound s!"broker with id {id} not found")
  | .invalidNodeOperation => throw (.badRequest
      s!"can not update broker {id} state, invalid state transition requested")
  | .timeout => throw (.base s!"Timeout: {message}" 504)
  | .replicationError | .updateInProgress | .leadershipChanged | .waitingForRecovery
  | .noLeaderController | .shuttingDown =>
    throw (.base s!"Service unavailable ({message})" 503)
  | .notLeader => redirect ntp
  | .notLeaderController => redirect controllerNtp
  | .noUpdateInProgress => throw (.badRequest
      "Cannot cancel partition move operation as there is no move in progress")
  | .throttlingQuotaExceeded => throw (.base s!"Too many requests: {message}" 429)
  | .transformDoesNotExist | .transformInvalidUpdate | .transformInvalidCreate
  | .transformInvalidSource | .transformInvalidEnvironment | .sourceTopicNotExists
  | .sourceTopicStillInUse | .invalidPartitionOperation => throw (.badRequest message)
  | .success | .other => throw (.base s!"Unexpected cluster error: {message}" 500)

/-- The raft category of `throw_on_error` (`server.cc:1186–1212`). -/
def throwOnRaftError (redirect : Ntp → Except HandlerException Unit) (ntp : Ntp)
    (message : String) : RaftErrc → Except HandlerException Unit
  | .exponentialBackoff | .disconnectedEndpoint | .configurationChangeInProgress
  | .leadershipTransferInProgress | .shuttingDown | .replicatedEntryTruncated =>
    throw (.base s!"Not ready: {message}" 503)
  | .timeout => throw (.base s!"Timeout: {message}" 504)
  | .transferToCurrentLeader => pure ()
  | .notLeader => redirect ntp
  | .nodeDoesNotExists | .notVoter => throw (.badRequest s!"Invalid request: {message}")
  | .success | .other => throw (.base s!"Unexpected raft error: {message}" 500)

/-- The transaction category of `throw_on_error` (`server.cc:1213–1246`). -/
def throwOnTxError (env : ErrorEnv) (redirect : Ntp → Except HandlerException Unit)
    (ntp : Ntp) (message : String) : TxErrc → Except HandlerException Unit
  | .leaderNotFound => redirect ntp
  | .pidNotFound =>
    let shown := env.formatNtp ntp
    throw (.notFound (env.withCtx s!"Can not find pid for ntp:{shown}"))
  | .partitionNotFound =>
    let shown := env.formatNtp ntp
    let errorMsg :=
      if ntp.topic = env.txManagerTopic ∧ ntp.ns = env.kafkaInternalNamespace then
        s!"Can not find ntp:{shown}"
      else s!"Can not find partition({shown}) in transaction for delete"
    throw (.badRequest errorMsg)
  | .notCoordinator => throw (.base
      ("Node not a coordinator or coordinator leader is not stabilized yet: " ++ message) 503)
  | .none | .other => throw (.base s!"Unexpected tx_error error: {message}" 500)

/-- The RPC category of `throw_on_error` (`server.cc:1247–1270`). Its switch has no
`default`: a code it does not name falls out of the switch, and the function returns. -/
def throwOnRpcError (message : String) : RpcErrc → Except HandlerException Unit
  | .success => pure ()
  | .disconnectedEndpoint | .exponentialBackoff | .shuttingDown | .missingNodeRpcClient =>
    throw (.base s!"Not ready: {message}" 503)
  | .clientRequestTimeout | .connectionTimeout => throw (.base s!"Timeout: {message}" 504)
  | .serviceError | .methodNotFound | .versionNotSupported | .unknown =>
    throw (.base s!"Unexpected error: {message}" 500)
  | .other => pure ()

/-- `admin_server::throw_on_error` (`server.cc:1127–1275`) on the request `req`, for the
ntp to redirect for and the node id a cluster error may name. -/
def throwOnError (env : ErrorEnv) (cache : MetadataCache) (config : NodeConfig)
    (controllerNtp : Ntp) (req : HttpRequest) (ec : ErrorCode) (ntp : Ntp) (id : Int) :
    Except HandlerException Unit :=
  let redirect := throwRedirect cache config env.formatNtp req
  if ec.isZero then pure ()
  else match ec.kind with
    | .cluster e => throwOnClusterError redirect controllerNtp ntp id ec.message e
    | .raft e => throwOnRaftError redirect ntp ec.message e
    | .tx e => throwOnTxError env redirect ntp ec.message e
    | .rpc e => throwOnRpcError ec.message e
    | .other _ => throw (.base s!"Unexpected error: {ec.message}" 500)

/-- `throw co_await redirect_to_leader(...)` never returns normally. -/
theorem throwRedirect_ne_ok {α : Type} {cache : MetadataCache} {config : NodeConfig}
    {formatNtp : Ntp → String} {req : HttpRequest} {ntp : Ntp} {a : α} :
    throwRedirect cache config formatNtp req ntp ≠ .ok a := by
  unfold throwRedirect
  split <;> nofun

end Redpanda.Admin
