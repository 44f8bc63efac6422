import Redpanda.Kafka.Fetch
import Redpanda.Admin.Request
import Redpanda.Kafka.FetchPlan
import Redpanda.Admin.SetReplicas
import Redpanda.Admin.Reconfiguration
import Redpanda.Admin.ClusterConfig
import Redpanda.Admin.ClusterPartitions
import Redpanda.Admin.LogLevel
import Redpanda.Cluster.Leadership
import Redpanda.Admin.Redirect
import Redpanda.Admin.Errors
import Redpanda.Admin.Features
import Redpanda.Admin.PartitionSummary
import Redpanda.Admin.MajorityLoss
import Redpanda.Admin.Transactions
import Redpanda.Admin.Partitions
import Redpanda.Admin.Brokers
