import ResourceStubs.Naming
import ResourceStubs.Reserved

/-! The name of a service and the names and links that its stubs derive from it. -/

namespace ResourceStubs

/-- A service: its name in the data directory, the name of its client class, and the version of the
documentation to link to. -/
structure ServiceName where
  name : String
  className : String
  version : String
  deriving DecidableEq, Repr, Inhabited

/-- A page of the stub documentation of a service. -/
inductive DocPage where
  | client
  | serviceResource
  | waiters
  | paginators
  | typeDefs
  | literals
  deriving DecidableEq, Repr

namespace DocPage

/-- All pages. -/
def all : List DocPage := [client, serviceResource, waiters, paginators, typeDefs, literals]

/-- The file name of the page, without its ending. -/
def fileName : DocPage → String
  | client => "client"
  | serviceResource => "service_resource"
  | waiters => "waiters"
  | paginators => "paginators"
  | typeDefs => "type_defs"
  | literals => "literals"

/-- The page with the given file name. -/
def ofFileName? (fileName : String) : Option DocPage := all.find? (·.fileName == fileName)

/-- The anchor of a heading made of several parts. -/
def anchorOf (parts : List String) : String := String.join (parts.map Naming.anchor)

/-- A link followed by the anchor of its heading, if it has one. -/
def withAnchor (link : String) (parts : List String) : String :=
  if parts.isEmpty then link else s!"{link}#{anchorOf parts}"

/-- The link to a heading of the page from a page beside it. -/
def relativeLink (page : DocPage) (parts : List String) : String :=
  withAnchor s!"./{page.fileName}.md" parts

end DocPage

namespace ServiceName

/-- The documentation version of a service, unless told otherwise. -/
def latest : String := "latest"

/-- The name of a service with the latest documentation. -/
def ofNames (name className : String) : ServiceName := ⟨name, className, latest⟩

/-- Services that every installation includes. -/
def essentialNames : List String :=
  ["ec2", "rds", "s3", "lambda", "sqs", "cloudformation", "dynamodb"]

/-- Where the documentation of the service interfaces is. -/
def sdkDocs : String := "https://boto3.amazonaws.com/v1/documentation/api"

/-- Where the documentation of the stubs is. -/
def stubDocs : String := "https://vemel.github.io/boto3_stubs_docs"

/-- A name with underscores for its hyphens. -/
def underscored (name : String) : String :=
  String.ofList (name.toList.map fun c => if c = '-' then '_' else c)

variable (service : ServiceName)

/-- The service name with underscores for its hyphens. -/
def underscoreName : String := underscored service.name

/-- The name to import the service by, which is no reserved name. -/
def importName : String :=
  if isReserved service.underscoreName then service.underscoreName ++ "_"
  else service.underscoreName

/-- The module that holds the stubs of the service. -/
def moduleName : String := s!"mypy_boto3_{service.underscoreName}"

/-- The package that the stubs of the service are published as. -/
def packageName : String := s!"mypy-boto3-{service.name}"

/-- The page of that package. -/
def packageLink : String := s!"https://pypi.org/project/{service.packageName}/"

/-- The service is part of every installation. -/
def isEssential : Bool := essentialNames.contains service.name

/-- The link to the service in the documentation of the service interfaces. -/
def sdkLink : String :=
  s!"{sdkDocs}/{service.version}/reference/services/{service.name}.html#{service.className}"

/-- The link to a part of the service in the documentation of the service interfaces. -/
def sdkLinkTo (parts : List String) : String := ".".intercalate (service.sdkLink :: parts)

/-- The link to the service in the documentation of the stubs. -/
def stubLink : String := s!"{stubDocs}/{service.moduleName}/"

/-- The link to a heading in the documentation of the stubs. -/
def stubLinkTo (page : DocPage) (parts : List String) : String :=
  DocPage.withAnchor s!"{service.stubLink}{page.fileName}.html" parts

/-- The service as it is shown. -/
def text : String := s!"<ServiceName {service.name} {service.className}>"

end ServiceName

end ResourceStubs
