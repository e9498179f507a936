import ClusterAdmission.Engine

/-!
# Violations

One constructor for each rule that can reject a request, with what its message tells. A violation
has a stable reason for machines and a message for people; `reason` is not injective, since both
ways of touching a storage in use have one reason.
-/

namespace ClusterAdmission

/-- A field of a storage that is fixed while the storage is in use. -/
inductive FixedField where
  | bucket
  | region
  deriving DecidableEq, Repr

/-- A part of a certificate authority. -/
inductive CertificatePart where
  | certificate
  | privateKey
  deriving DecidableEq, Repr

/-- The rule that a request breaks. -/
inductive Violation where
  | invalidName (name : String)
  | nameTooLong (name : String) (max : Nat)
  | unsupportedEngine (engine : EngineType)
  | unsupportedVersion (version : String)
  | negativeReplicas
  | evenReplicas (engine : EngineType)
  | tooManyReplicas (engine : EngineType) (max : Int)
  | unsupportedProxy (engine : EngineType) (proxy : ProxyType)
  | insufficientProxyReplicas
  | loadBalancerConfigRequiresLoadBalancer
  | loadBalancerConfigNotFound (name : String)
  | noBackupSchedules
  | emptyScheduleName
  | emptyScheduleStorage (schedule : String)
  | duplicateSchedule (cron : String)
  | pitrStorageRequired
  | invalidUploadInterval
  | pitrRequiresS3
  | backupStorageNotFound (name : String)
  | backupStorageNotAllowed (storage space : String)
  | multipleStorages
  | activeStorageMismatch (active : String)
  | dataSourceAmbiguous
  | incompleteBackupSource
  | unsupportedPitrType
  | invalidPitrDate
  | tooManySchedules (max : Nat)
  | tooManyRepositories (max : Nat)
  | scheduleStorageChanged (schedule : String)
  | shardingNotSupported (engine : EngineType)
  | shardingVersionTooOld (minimum : String)
  | insufficientShards
  | evenConfigServers
  | insufficientConfigServers (minimum : Int)
  | shardingEnableForbidden
  | shardingDisableForbidden
  | resourcesMissing
  | cpuMissing
  | memoryMissing
  | storageMissing
  | cpuBelowMinimum (minimum : String)
  | memoryBelowMinimum (minimum : String)
  | storageBelowMinimum (minimum : String)
  | invalidQuantity (text : String)
  | invalidVersion (text : String)
  | downgrade (old new : String)
  | majorUpgrade (old new : String)
  | nonSequentialMajorUpgrade (old new : String)
  | scaleDownToSingleNode
  | duplicateBackupStorage
  | invalidBucketName (name : String)
  | regionRequired
  | credentialsRequired
  | invalidUrl (url : String)
  | storageInUse (field : FixedField)
  | storageInUseDelete (name : String)
  | clusterNotFound (name : String)
  | backupNotFound (name : String)
  | backupClusterMismatch (backup cluster : String)
  | monitoringConfigNotFound (name : String)
  | monitoringCredentialsRequired
  | monitoringConfigInUse (name : String)
  | podSchedulingPolicyNotFound (name : String)
  | podSchedulingPolicyEngineMismatch (policy : String) (expected actual : EngineType)
  | foreignAffinityConfig (engine : EngineType)
  | emptyAffinityConfig (engine : EngineType)
  | policyEngineTypeImmutable
  | defaultPolicyReadOnly (name : String)
  | podSchedulingPolicyInUse (name : String)
  | invalidAnnotationKey (key : String)
  | defaultLoadBalancerConfigReadOnly (name : String)
  | splitHorizonNotSupported
  | splitHorizonConfigNotFound (name : String)
  | invalidDomain (domain : String)
  | invalidPem (part : CertificatePart)
  deriving DecidableEq, Repr

namespace FixedField

/-- The name of a field. -/
def name : FixedField → String
  | bucket => "bucket"
  | region => "region"

end FixedField

namespace CertificatePart

/-- The name of a part. -/
def name : CertificatePart → String
  | certificate => "CA certificate"
  | privateKey => "CA private key"

end CertificatePart

namespace Violation

/-- The reason for machines. -/
def reason : Violation → String
  | invalidName _ => "InvalidName"
  | nameTooLong .. => "NameTooLong"
  | unsupportedEngine _ => "UnsupportedEngine"
  | unsupportedVersion _ => "UnsupportedVersion"
  | negativeReplicas => "NegativeReplicas"
  | evenReplicas _ => "EvenReplicas"
  | tooManyReplicas .. => "TooManyReplicas"
  | unsupportedProxy .. => "UnsupportedProxy"
  | insufficientProxyReplicas => "InsufficientProxyReplicas"
  | loadBalancerConfigRequiresLoadBalancer => "LoadBalancerConfigRequiresLoadBalancer"
  | loadBalancerConfigNotFound _ => "LoadBalancerConfigNotFound"
  | noBackupSchedules => "NoBackupSchedules"
  | emptyScheduleName => "EmptyScheduleName"
  | emptyScheduleStorage _ => "EmptyScheduleStorage"
  | duplicateSchedule _ => "DuplicateSchedule"
  | pitrStorageRequired => "PitrStorageRequired"
  | invalidUploadInterval => "InvalidUploadInterval"
  | pitrRequiresS3 => "PitrRequiresS3"
  | backupStorageNotFound _ => "BackupStorageNotFound"
  | backupStorageNotAllowed .. => "BackupStorageNotAllowed"
  | multipleStorages => "MultipleStorages"
  | activeStorageMismatch _ => "ActiveStorageMismatch"
  | dataSourceAmbiguous => "DataSourceAmbiguous"
  | incompleteBackupSource => "IncompleteBackupSource"
  | unsupportedPitrType => "UnsupportedPitrType"
  | invalidPitrDate => "InvalidPitrDate"
  | tooManySchedules _ => "TooManySchedules"
  | tooManyRepositories _ => "TooManyRepositories"
  | scheduleStorageChanged _ => "ScheduleStorageChanged"
  | shardingNotSupported _ => "ShardingNotSupported"
  | shardingVersionTooOld _ => "ShardingVersionTooOld"
  | insufficientShards => "InsufficientShards"
  | evenConfigServers => "EvenConfigServers"
  | insufficientConfigServers _ => "InsufficientConfigServers"
  | shardingEnableForbidden => "ShardingEnableForbidden"
  | shardingDisableForbidden => "ShardingDisableForbidden"
  | resourcesMissing => "ResourcesMissing"
  | cpuMissing => "CpuMissing"
  | memoryMissing => "MemoryMissing"
  | storageMissing => "StorageMissing"
  | cpuBelowMinimum _ => "CpuBelowMinimum"
  | memoryBelowMinimum _ => "MemoryBelowMinimum"
  | storageBelowMinimum _ => "StorageBelowMinimum"
  | invalidQuantity _ => "InvalidQuantity"
  | invalidVersion _ => "InvalidVersion"
  | downgrade .. => "VersionDowngradeNotAllowed"
  | majorUpgrade .. => "MajorUpgradeNotAllowed"
  | nonSequentialMajorUpgrade .. => "NonSequentialMajorUpgrade"
  | scaleDownToSingleNode => "ScaleDownToSingleNode"
  | duplicateBackupStorage => "DuplicateBackupStorage"
  | invalidBucketName _ => "InvalidBucketName"
  | regionRequired => "RegionRequired"
  | credentialsRequired => "CredentialsRequired"
  | invalidUrl _ => "InvalidUrl"
  | storageInUse _ | storageInUseDelete _ => "StorageInUse"
  | clusterNotFound _ => "ClusterNotFound"
  | backupNotFound _ => "BackupNotFound"
  | backupClusterMismatch .. => "BackupClusterMismatch"
  | monitoringConfigNotFound _ => "MonitoringConfigNotFound"
  | monitoringCredentialsRequired => "MonitoringCredentialsRequired"
  | monitoringConfigInUse _ => "MonitoringConfigInUse"
  | podSchedulingPolicyNotFound _ => "PodSchedulingPolicyNotFound"
  | podSchedulingPolicyEngineMismatch .. => "PodSchedulingPolicyEngineMismatch"
  | foreignAffinityConfig _ => "ForeignAffinityConfig"
  | emptyAffinityConfig _ => "EmptyAffinityConfig"
  | policyEngineTypeImmutable => "PolicyEngineTypeImmutable"
  | defaultPolicyReadOnly _ => "DefaultPolicyReadOnly"
  | podSchedulingPolicyInUse _ => "PodSchedulingPolicyInUse"
  | invalidAnnotationKey _ => "InvalidAnnotationKey"
  | defaultLoadBalancerConfigReadOnly _ => "DefaultLoadBalancerConfigReadOnly"
  | splitHorizonNotSupported => "SplitHorizonNotSupported"
  | splitHorizonConfigNotFound _ => "SplitHorizonConfigNotFound"
  | invalidDomain _ => "InvalidDomain"
  | invalidPem _ => "InvalidPem"

/-- A text in single quotes. -/
def quote (text : String) : String := "'" ++ text ++ "'"

/-- The message for people. -/
def message : Violation → String
  | invalidName name =>
    quote name ++ " is not a valid name: use lowercase alphanumeric characters or '-', " ++
      "start with a letter and end with an alphanumeric character"
  | nameTooLong name max =>
    "name " ++ quote name ++ " is longer than " ++ toString max ++ " characters"
  | unsupportedEngine engine => "engine " ++ engine.name ++ " is not installed"
  | unsupportedVersion version => "engine version " ++ version ++ " is not supported"
  | negativeReplicas => "replicas cannot be negative"
  | evenReplicas engine => engine.name ++ " engine replicas must be an odd number"
  | tooManyReplicas engine max =>
    engine.name ++ " engine supports at most " ++ toString max ++ " replicas"
  | unsupportedProxy engine proxy =>
    "proxy " ++ proxy.name ++ " is not supported by the " ++ engine.name ++ " engine"
  | insufficientProxyReplicas =>
    "at least 2 proxy replicas are required for a multi-node cluster"
  | loadBalancerConfigRequiresLoadBalancer =>
    "load balancer config can only be set when the proxy is exposed as a load balancer"
  | loadBalancerConfigNotFound name => "load balancer config " ++ name ++ " does not exist"
  | noBackupSchedules => "backups are enabled but no schedule is defined"
  | emptyScheduleName => "backup schedule name cannot be empty"
  | emptyScheduleStorage schedule =>
    "backup schedule " ++ schedule ++ " must specify a backup storage"
  | duplicateSchedule cron =>
    "more than one backup schedule uses " ++ quote cron ++ "; schedules must be unique"
  | pitrStorageRequired => "PITR requires a backup storage"
  | invalidUploadInterval => "PITR upload interval must be a positive number of seconds"
  | pitrRequiresS3 => "PITR is only supported on S3 compatible storages"
  | backupStorageNotFound name => "backup storage " ++ name ++ " does not exist"
  | backupStorageNotAllowed storage space =>
    "backup storage " ++ storage ++ " is not allowed in namespace " ++ space
  | multipleStorages => "a MongoDB cluster can use only one backup storage"
  | activeStorageMismatch active =>
    "the cluster already uses backup storage " ++ active ++ "; schedules must use it too"
  | dataSourceAmbiguous =>
    "data source must specify exactly one of dbClusterBackupName or backupSource"
  | incompleteBackupSource => "backup source requires both backupStorageName and path"
  | unsupportedPitrType => "unsupported PITR type; only 'date' is supported"
  | invalidPitrDate => "invalid PITR date; expected format 2006-01-02T15:04:05Z"
  | tooManySchedules max =>
    "PostgreSQL clusters support at most " ++ toString max ++ " backup schedules"
  | tooManyRepositories max =>
    "PostgreSQL clusters can use at most " ++ toString max ++ " distinct backup storages"
  | scheduleStorageChanged schedule =>
    "backup schedule " ++ schedule ++ " cannot change its backup storage"
  | shardingNotSupported engine =>
    "sharding is not supported for the " ++ engine.name ++ " engine"
  | shardingVersionTooOld minimum =>
    "sharding requires operator version " ++ minimum ++ " or newer"
  | insufficientShards => "sharding requires at least one shard"
  | evenConfigServers => "config server replicas must be an odd number"
  | insufficientConfigServers minimum =>
    "config server replicas must be at least " ++ toString minimum
  | shardingEnableForbidden => "sharding cannot be enabled on an existing cluster"
  | shardingDisableForbidden => "sharding cannot be disabled once enabled"
  | resourcesMissing => "CPU and memory must be specified"
  | cpuMissing => "CPU must be specified"
  | memoryMissing => "memory must be specified"
  | storageMissing => "storage size must be specified"
  | cpuBelowMinimum minimum => "CPU limit must be at least " ++ minimum
  | memoryBelowMinimum minimum => "memory limit must be at least " ++ minimum
  | storageBelowMinimum minimum => "storage size must be at least " ++ minimum
  | invalidQuantity text => quote text ++ " is not a valid resource quantity"
  | invalidVersion text => quote text ++ " is not a valid version"
  | downgrade old new => "cannot downgrade engine version from " ++ old ++ " to " ++ new
  | majorUpgrade old new =>
    "major version upgrade from " ++ old ++ " to " ++ new ++ " is not supported"
  | nonSequentialMajorUpgrade old new =>
    "cannot upgrade from " ++ old ++ " to " ++ new ++ "; upgrade one major version at a time"
  | scaleDownToSingleNode => "cannot scale a multi-node cluster down to a single node"
  | duplicateBackupStorage =>
    "another backup storage already uses the same bucket, region and endpoint"
  | invalidBucketName name =>
    quote name ++ " is not a valid bucket name: use 3-63 lowercase letters, digits, dots or hyphens"
  | regionRequired => "region is required for S3 storages"
  | credentialsRequired => "access key and secret key are required"
  | invalidUrl url => quote url ++ " is not a valid URL"
  | storageInUse field => "cannot change " ++ field.name ++ " of a backup storage that is in use"
  | storageInUseDelete name => "backup storage " ++ name ++ " is in use and cannot be deleted"
  | clusterNotFound name => "database cluster " ++ name ++ " does not exist"
  | backupNotFound name => "backup " ++ name ++ " does not exist"
  | backupClusterMismatch backup cluster =>
    "backup " ++ backup ++ " does not belong to cluster " ++ cluster
  | monitoringConfigNotFound name => "monitoring instance " ++ name ++ " does not exist"
  | monitoringCredentialsRequired =>
    "monitoring credentials require an API key or a user and password"
  | monitoringConfigInUse name =>
    "monitoring instance " ++ name ++ " is in use and cannot be deleted"
  | podSchedulingPolicyNotFound name => "pod scheduling policy " ++ name ++ " does not exist"
  | podSchedulingPolicyEngineMismatch policy expected actual =>
    "pod scheduling policy " ++ policy ++ " is for " ++ expected.name ++ " clusters, not " ++
      actual.name
  | foreignAffinityConfig engine =>
    "affinity config may only contain rules for the " ++ engine.name ++ " engine"
  | emptyAffinityConfig engine =>
    "affinity config for the " ++ engine.name ++ " engine must not be empty"
  | policyEngineTypeImmutable => "engine type of a pod scheduling policy cannot be changed"
  | defaultPolicyReadOnly name => "default pod scheduling policy " ++ name ++ " is read-only"
  | podSchedulingPolicyInUse name =>
    "pod scheduling policy " ++ name ++ " is in use and cannot be deleted"
  | invalidAnnotationKey key => quote key ++ " is not a valid annotation key"
  | defaultLoadBalancerConfigReadOnly name =>
    "default load balancer config " ++ name ++ " is read-only"
  | splitHorizonNotSupported => "split-horizon DNS is only supported for the psmdb engine"
  | splitHorizonConfigNotFound name => "split-horizon DNS config " ++ name ++ " does not exist"
  | invalidDomain domain => quote domain ++ " is not a valid domain name"
  | invalidPem part => part.name ++ " must be a PEM encoded block"

end Violation

end ClusterAdmission
