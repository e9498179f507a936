import ClusterAdmission.Violation

/-!
# Failures of requests

Why a request was not answered: a rule rejects it, an object is missing or in conflict, a
collaborator failed, the API refused, the configuration is wrong, or no handler serves the
operation.
-/

namespace ClusterAdmission

/-- A collaborator that failed. The messages never carry credentials. -/
inductive DependencyFailure where
  /-- The probe of a storage failed or timed out. -/
  | storageUnreachable
  /-- A value of a secret is no text. -/
  | secretNotText (secret key : String)
  /-- The versions that an operator release supports cannot be had. -/
  | versionsUnavailable (operator target : String)
  /-- An operator release supports no version. -/
  | noVersions (operator target : String)
  /-- The oldest version that an operator release supports is no version. -/
  | invalidMinimum (minimum operator target : String)
  deriving DecidableEq, Repr

/-- A setting with a wrong value. -/
inductive ConfigFailure where
  /-- The value of a setting of the environment is no number in range. -/
  | notANumber (key value : String)
  /-- A minimum is no quantity. -/
  | notAQuantity (field value : String)
  deriving DecidableEq, Repr

/-- Why a request failed. -/
inductive Failure where
  | rejected (v : Violation)
  | notFound (message : String)
  | conflict (message : String)
  | dependency (f : DependencyFailure)
  /-- The API answered with a status other than 404 and 409. -/
  | api (code : Int)
  /-- The client of the API failed before or after the request. -/
  | client
  | invalidConfig (f : ConfigFailure)
  /-- No handler serves the operation of that name. -/
  | unhandled (operation : String)
  deriving DecidableEq, Repr

namespace DependencyFailure

/-- The message of a failed collaborator. -/
def message : DependencyFailure → String
  | storageUnreachable =>
    "cannot access backup storage; check the bucket, region, endpoint and credentials"
  | secretNotText secret key => "secret " ++ secret ++ " key " ++ key ++ " is not UTF-8"
  | versionsUnavailable operator target =>
    "cannot get supported engine versions for " ++ operator ++ " " ++ target
  | noVersions operator target =>
    "no supported engine versions for " ++ operator ++ " " ++ target
  | invalidMinimum minimum operator target =>
    "invalid minimum engine version '" ++ minimum ++ "' for " ++ operator ++ " " ++ target

end DependencyFailure

namespace ConfigFailure

/-- The start of the names of settings in the environment. -/
def environmentStem : String := "DBAAS_POLICY_"

/-- The message of a setting with a wrong value. -/
def message : ConfigFailure → String
  | notANumber key value => environmentStem ++ key ++ " '" ++ value ++ "' is not a number"
  | notAQuantity field value => field ++ " '" ++ value ++ "' is not a quantity"

end ConfigFailure

namespace Failure

/-- The failure that a status of the API stands for. -/
def ofStatus (code : Int) (message : String) : Failure :=
  if code = 404 then .notFound message
  else if code = 409 then .conflict message
  else .api code

/-- Whether an object was missing. -/
def isNotFound : Failure → Bool
  | .notFound _ => true
  | _ => false

/-- The message of a failure; failures of the API and its client have none of their own. -/
def message : Failure → String
  | .rejected v => "invalid request: " ++ v.message
  | .notFound message => "not found: " ++ message
  | .conflict message => "conflict: " ++ message
  | .dependency f => f.message
  | .api _ | .client => "Kubernetes API error"
  | .invalidConfig f => "Invalid configuration: " ++ f.message
  | .unhandled operation =>
    "operation " ++ operation ++ " is not handled by any handler in the chain"

end Failure

end ClusterAdmission
