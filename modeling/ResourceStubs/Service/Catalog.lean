import ResourceStubs.Dict
import ResourceStubs.Error
import ResourceStubs.Service.Name

/-! The catalog of known services, in the order they were first added. Adding a service again only
changes its class name. -/

namespace ResourceStubs

/-- The services known, by name. -/
structure Catalog where
  services : Dict ServiceName

namespace Catalog

/-- No services. -/
def empty : Catalog := ⟨Dict.empty⟩

/-- The catalog with one more service, or with the class name of a known one changed. -/
def add (catalog : Catalog) (name className : String) : Catalog :=
  let service := match catalog.services.get? name with
    | some known => { known with className }
    | none => ServiceName.ofNames name className
  ⟨catalog.services.insert name service⟩

/-- The services that are known before any other is added, with their class names. -/
def defaultEntries : List (String × String) := [
  ("ec2", "EC2"), ("iam", "IAM"), ("s3", "S3"), ("cloudwatch", "CloudWatch"),
  ("opsworks", "OpsWorks"), ("sns", "SNS"), ("glacier", "Glacier"), ("dynamodb", "DynamoDB"),
  ("sqs", "SQS"), ("cloudformation", "CloudFormation"),
  ("cloudsearchdomain", "CloudSearchDomain"), ("logs", "CloudWatchLogs"), ("lambda", "Lambda")]

/-- The entries added one after the other. -/
def addAll (catalog : Catalog) (entries : List (String × String)) : Catalog :=
  entries.foldl (fun c entry => c.add entry.1 entry.2) catalog

/-- The catalog of the default services. -/
def defaults : Catalog := empty.addAll defaultEntries

/-- The service of a name. -/
def find (catalog : Catalog) (name : String) : Except Error ServiceName :=
  match catalog.services.get? name with
  | some service => .ok service
  | none => .error (.serviceNotFound name)

/-- A service of the name is known. -/
def contains (catalog : Catalog) (name : String) : Bool := catalog.services.contains name

/-- The services in the order they were first added. -/
def toList (catalog : Catalog) : List ServiceName := catalog.services.values

/-- The number of services. -/
def size (catalog : Catalog) : Nat := catalog.services.size

/-- No service is known. -/
def isEmpty (catalog : Catalog) : Bool := catalog.services.isEmpty

end Catalog

end ResourceStubs
