import GridScript.Number.Format

/-!
# Argument values and their types

`ValueType` is the declared type of a command field and `Value` a decoded
argument.  Objects of the application are referred to by class and number, never
held directly.
-/

namespace GridScript

/-- The names that an enumerated argument may take, in order.  Names differ by
case. -/
structure Enumeration where
  name : String
  variants : List String
  deriving DecidableEq, Repr

namespace Enumeration

/-- The variant with exactly this text. -/
def resolve? (enumeration : Enumeration) (text : String) : Option String :=
  enumeration.variants.find? (· == text)

end Enumeration

/-- The declared type of a command field. -/
inductive ValueType where
  | string
  | bool
  | int
  | double
  | enumeration (names : Enumeration)
  | array (element : ValueType)
  /-- One object of the named class. -/
  | reference (className : String)
  /-- Any number of objects of the named class. -/
  | references (className : String)
  deriving DecidableEq, Repr, Inhabited

namespace ValueType

/-- The name that help texts show. -/
def label : ValueType → String
  | string => "string"
  | bool => "bool"
  | int => "int"
  | double => "double"
  | enumeration names => names.name
  | array element => "[" ++ element.label ++ "]"
  | reference className => className ++ ":id"
  | references className => "[" ++ className ++ ":id]"

end ValueType

/-- An object of the application, by class and number. -/
structure ObjectRef where
  className : String
  id : Nat
  deriving DecidableEq, Repr

namespace ObjectRef

/-- The form `Class:id` that scripts use. -/
def text (object : ObjectRef) : String :=
  object.className ++ ":" ++ natText object.id

end ObjectRef

/-- The objects that are known, by class and number. -/
structure ObjectTable where
  contains : String → Nat → Bool

namespace ObjectTable

/-- No object is known. -/
def empty : ObjectTable := ⟨fun _ _ => false⟩

/-- The listed objects are known. -/
def ofList (objects : List ObjectRef) : ObjectTable :=
  ⟨fun className id => objects.contains ⟨className, id⟩⟩

end ObjectTable

/-- A decoded argument. -/
inductive Value where
  | string (text : String)
  | bool (value : Bool)
  | int (value : Int)
  | double (value : Binary64)
  /-- A variant of an enumeration. -/
  | variant (name : String)
  | array (items : List Value)
  /-- No object if the reference is null or could not be resolved. -/
  | reference (object : Option ObjectRef)
  deriving Repr, Inhabited

namespace Value

/-- The text of a string or of a variant. -/
def text? : Value → Option String
  | string text => some text
  | variant name => some name
  | _ => none

def bool? : Value → Option Bool
  | bool value => some value
  | _ => none

def int? : Value → Option Int
  | int value => some value
  | _ => none

/-- A double, or an integer taken as one. -/
def double? : Value → Option Binary64
  | double value => some value
  | int value => some (Binary64.ofInt value)
  | _ => none

def variant? : Value → Option String
  | variant name => some name
  | _ => none

def items? : Value → Option (List Value)
  | array items => some items
  | _ => none

/-- The object of a reference that is not null. -/
def object? : Value → Option ObjectRef
  | reference object => object
  | _ => none

def isNullReference : Value → Bool
  | reference none => true
  | _ => false

end Value

end GridScript
