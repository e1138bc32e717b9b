import SpringScaffold.Dictionary
import SpringScaffold.ImportSet
import SpringScaffold.Name
import SpringScaffold.Signature
import SpringScaffold.Value

/-! A description of an API: its operations, its models, and the groups of operations that are
rendered together. -/

namespace SpringScaffold

structure Info where
  title : String
  description : Option String
  version : String
  deriving DecidableEq, Repr, Inhabited

inductive HttpMethod where
  | get
  | post
  | put
  | delete
  | patch
  | options
  | head
  | trace
  deriving DecidableEq, Repr, Inhabited

namespace HttpMethod

def all : List HttpMethod := [.get, .post, .put, .delete, .patch, .options, .head, .trace]

def word : HttpMethod → String
  | .get => "GET"
  | .post => "POST"
  | .put => "PUT"
  | .delete => "DELETE"
  | .patch => "PATCH"
  | .options => "OPTIONS"
  | .head => "HEAD"
  | .trace => "TRACE"

end HttpMethod

/-- Where a request carries a parameter. -/
inductive Location where
  | path
  | query
  | header
  | cookie
  | body
  deriving DecidableEq, Repr, Inhabited

namespace Location

def all : List Location := [.path, .query, .header, .cookie, .body]

def word : Location → String
  | .path => "path"
  | .query => "query"
  | .header => "header"
  | .cookie => "cookie"
  | .body => "body"

end Location

structure Tag where
  name : String
  description : Option String
  deriving DecidableEq, Repr, Inhabited

/-- One declared outcome of an operation. -/
structure Response where
  code : String
  description : Option String
  dataType : Option String
  container : Container
  deriving DecidableEq, Repr, Inhabited

structure Parameter where
  name : Name
  location : Location
  dataType : String
  required : Bool
  description : Option String
  isDate : Bool
  isDateTime : Bool
  extensions : Dictionary Value
  deriving Repr, Inhabited

structure Operation where
  name : Name
  method : HttpMethod
  path : String
  summary : Option String
  description : Option String
  tags : List Tag
  parameters : List Parameter
  /-- Headers that the caller supplies without their being parameters of the method. -/
  implicitHeaders : List Parameter
  responses : List Response
  returnType : Option String
  returnContainer : Container
  imports : ImportSet
  deprecated : Bool
  deriving Repr, Inhabited

structure Property where
  name : Name
  dataType : String
  required : Bool
  description : Option String
  isDate : Bool
  isDateTime : Bool
  isByteArray : Bool
  isEnum : Bool
  sample : Option String
  deriving DecidableEq, Repr, Inhabited

/-- A named type, rendered as a class or an enum. -/
structure Model where
  name : String
  className : String
  description : Option String
  properties : List Property
  isEnum : Bool
  enumValues : List String
  hasEnums : Bool
  imports : ImportSet
  extensions : Dictionary Value
  deriving Repr, Inhabited

/-- Operations rendered as one controller and one service, by their indices. -/
structure Group where
  name : Name
  operations : List Nat
  description : Option String
  deriving DecidableEq, Repr, Inhabited

structure Spec where
  info : Info
  operations : List Operation
  models : List Model
  groups : List Group
  deriving Repr, Inhabited

end SpringScaffold
