import ResourceStubs.Stub.Method
import ResourceStubs.Service.Name

/-! The stub classes of a service: its collections, its resources, and the service resource that is
the root of them. -/

namespace ResourceStubs

/-- A collection class: the resources of one type that a parent gives access to by one attribute. -/
structure Collection where
  name : String
  parentName : String
  attributeName : String
  elementName : String
  hint : TypeHint
  service : ServiceName
  methods : List Method
  deriving DecidableEq, Repr, Inhabited

/-- The first method of a name. -/
def Collection.method? (collection : Collection) (name : String) : Option Method :=
  collection.methods.find? (·.name == name)

/-- A resource class. -/
structure Resource where
  name : String
  service : ServiceName
  methods : List Method
  attributes : List Attribute
  collections : List Collection
  deriving DecidableEq, Repr, Inhabited

namespace Resource

/-- The first method of a name. -/
def method? (resource : Resource) (name : String) : Option Method :=
  resource.methods.find? (·.name == name)

/-- The first attribute of a name. -/
def attribute? (resource : Resource) (name : String) : Option Attribute :=
  resource.attributes.find? (·.name == name)

/-- The names of the methods, in order. -/
def methodNames (resource : Resource) : List String := resource.methods.map (·.name)

/-- The names of the attributes, in order. -/
def attributeNames (resource : Resource) : List String := resource.attributes.map (·.name)

end Resource

/-- The root of the stub classes of a service: the service resource and all its resources. -/
structure ServiceResource where
  name : String
  service : ServiceName
  methods : List Method
  attributes : List Attribute
  collections : List Collection
  subResources : List Resource
  deriving DecidableEq, Repr, Inhabited

namespace ServiceResource

/-- The class name of the service resource of a service. -/
def classNameOf (service : ServiceName) : String := s!"{service.className}ServiceResource"

/-- The service resource with the members of `body`, under the class name of its service. -/
def ofResource (body : Resource) (subResources : List Resource) : ServiceResource where
  name := classNameOf body.service
  service := body.service
  methods := body.methods
  attributes := body.attributes
  collections := body.collections
  subResources := subResources

/-- The first method of a name. -/
def method? (root : ServiceResource) (name : String) : Option Method :=
  root.methods.find? (·.name == name)

/-- The first attribute of a name. -/
def attribute? (root : ServiceResource) (name : String) : Option Attribute :=
  root.attributes.find? (·.name == name)

/-- The first resource of a name. -/
def subResource? (root : ServiceResource) (name : String) : Option Resource :=
  root.subResources.find? (·.name == name)

/-- The names of the methods, in order. -/
def methodNames (root : ServiceResource) : List String := root.methods.map (·.name)

/-- The names of the attributes, in order. -/
def attributeNames (root : ServiceResource) : List String := root.attributes.map (·.name)

/-- The collections of the service resource and then those of its resources. -/
def allCollections (root : ServiceResource) : List Collection :=
  root.collections ++ root.subResources.flatMap (·.collections)

end ServiceResource

end ResourceStubs
