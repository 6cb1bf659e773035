/-!
# Kinds of values

The kinds of values that a field of a template can come upon, starting from a
text: texts have a kind, kinds have members, and members are values in turn, so
the kinds are those of everything that can be reached in this way.
-/

namespace ApiTypings.Template

inductive Kind
  | text
  /-- The kind that all others extend. -/
  | any
  /-- The kind of kinds. -/
  | kind
  | nothing
  | number
  | truth
  | tuple
  | dictionary
  /-- A table that can be looked at and not changed. -/
  | view
  /-- An operation of a value, among them those written as signs. -/
  | method | signMethod
  /-- An operation that a kind has, among them those written as signs. -/
  | operation | signOperation
  /-- A member that is worked out or stored for every value of a kind. -/
  | computed | stored
  /-- An operation that works on a kind. -/
  | kindOperation
  /-- An operation that works on nothing that it belongs to. -/
  | loose
  /-- A kind together with a parameter. -/
  | filled
deriving DecidableEq, Repr

namespace Kind

def name : Kind → String
  | text => "str"
  | any => "object"
  | kind => "type"
  | nothing => "NoneType"
  | number => "int"
  | truth => "bool"
  | tuple => "tuple"
  | dictionary => "dict"
  | view => "mappingproxy"
  | method => "builtin_function_or_method"
  | signMethod => "method-wrapper"
  | operation => "method_descriptor"
  | signOperation => "wrapper_descriptor"
  | computed => "getset_descriptor"
  | stored => "member_descriptor"
  | kindOperation => "classmethod_descriptor"
  | loose => "staticmethod"
  | filled => "GenericAlias"

def home : Kind → String
  | filled => "types"
  | _ => "builtins"

/-- The name under which a kind is shown: with its home, unless all kinds are at home there. -/
def shownName : Kind → String
  | filled => "types.GenericAlias"
  | k => k.name

def base? : Kind → Option Kind
  | any => none
  | truth => some number
  | _ => some any

/-- A kind and those that it extends. -/
def line : Kind → List Kind
  | any => [any]
  | truth => [truth, number, any]
  | k => [k, any]

/-- The octets that a value of the kind takes, and those of each of its parts. -/
def sizes : Kind → Nat × Nat
  | text => (80, 0)
  | any | nothing => (16, 0)
  | kind => (904, 40)
  | number => (24, 4)
  | truth => (32, 4)
  | tuple => (24, 8)
  | view => (24, 0)
  | signMethod | loose => (32, 0)
  | dictionary | computed | stored => (48, 0)
  | method | operation | signOperation | kindOperation => (56, 0)
  | filled => (64, 0)

/-- The traits of a kind, one binary digit each. -/
def traits : Kind → Nat
  | text => 273159424
  | any => 529664
  | kind => 2148031744
  | nothing => 528640
  | number => 21501184
  | truth => 21500160
  | tuple => 71849248
  | dictionary => 541611328
  | method => 547200
  | operation => 678272
  | signOperation => 676224
  | loose => 546048
  | filled => 548096
  | view => 545088
  | signMethod | computed | stored | kindOperation => 545152

/-- Where in a value of the kind those are found that refer to it. -/
def referrersAt : Kind → Nat
  | kind => 368
  | method | filled => 40
  | _ => 0

/-- Where in a value of the kind its own members are found. -/
def membersAt : Kind → Nat
  | kind => 264
  | loose => 24
  | _ => 0

/-- What is needed to make a value of the kind, where that is said. -/
def signature? : Kind → Option String
  | any => some "()"
  | tuple => some "(iterable=(), /)"
  | _ => none

end Kind

end ApiTypings.Template
