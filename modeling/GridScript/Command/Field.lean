import GridScript.Value.Writer

/-!
# Fields and arguments

A command declares its fields in order.  The arguments of one use of it start
out at the defaults and are set one by one.
-/

namespace GridScript

/-- A named and typed field of a command. -/
structure Field where
  name : String
  type : ValueType
  default : Value
  /-- Whether scripts may set the field. -/
  scriptable : Bool := true
  /-- Another name that scripts may use. -/
  otherName : Option String := none
  help : String := ""
  deriving Repr

namespace Field

/-- Whether a name refers to the field. -/
def accepts (field : Field) (name : String) : Bool :=
  field.name == name || field.otherName == some name

end Field

/-- The value of one field. -/
structure Slot where
  name : String
  value : Value
  /-- Whether the value was set and is not the default. -/
  explicit : Bool := false
  deriving Repr

/-- The values of all fields of a command, in order. -/
structure Arguments where
  slots : List Slot := []
  deriving Repr

namespace Arguments

/-- Every field at its default. -/
def ofDefaults (fields : List Field) : Arguments :=
  ⟨fields.map fun field => { name := field.name, value := field.default }⟩

/-- Sets the first slot with this name, if there is one. -/
def setSlots (name : String) (value : Value) : List Slot → List Slot
  | [] => []
  | slot :: more =>
    if slot.name == name then { slot with value, explicit := true } :: more
    else slot :: setSlots name value more

/-- Sets a field.  A name that no field has changes nothing. -/
def set (arguments : Arguments) (name : String) (value : Value) : Arguments :=
  ⟨setSlots name value arguments.slots⟩

/-- Whether there is a field with this name. -/
def has (arguments : Arguments) (name : String) : Bool :=
  arguments.slots.any (·.name == name)

def get? (arguments : Arguments) (name : String) : Option Value :=
  (arguments.slots.find? (·.name == name)).map (·.value)

/-- Whether the field was set. -/
def isSet (arguments : Arguments) (name : String) : Bool :=
  arguments.slots.any fun slot => slot.name == name && slot.explicit

def text? (arguments : Arguments) (name : String) : Option String :=
  (arguments.get? name).bind Value.text?

def textOr (arguments : Arguments) (name default : String) : String :=
  (arguments.text? name).getD default

def int? (arguments : Arguments) (name : String) : Option Int :=
  (arguments.get? name).bind Value.int?

def intOr (arguments : Arguments) (name : String) (default : Int) : Int :=
  (arguments.int? name).getD default

def double? (arguments : Arguments) (name : String) : Option Binary64 :=
  (arguments.get? name).bind Value.double?

def doubleOr (arguments : Arguments) (name : String) (default : Binary64) :
    Binary64 :=
  (arguments.double? name).getD default

def bool? (arguments : Arguments) (name : String) : Option Bool :=
  (arguments.get? name).bind Value.bool?

def boolOr (arguments : Arguments) (name : String) (default : Bool) : Bool :=
  (arguments.bool? name).getD default

def variant? (arguments : Arguments) (name : String) : Option String :=
  (arguments.get? name).bind Value.variant?

def object? (arguments : Arguments) (name : String) : Option ObjectRef :=
  (arguments.get? name).bind Value.object?

/-- The items of an array field; none for any other field. -/
def items (arguments : Arguments) (name : String) : List Value :=
  ((arguments.get? name).bind Value.items?).getD []

/-- The objects of an array field.  Null references are passed over. -/
def objects (arguments : Arguments) (name : String) : List ObjectRef :=
  (arguments.items name).filterMap Value.object?

def texts (arguments : Arguments) (name : String) : List String :=
  (arguments.items name).filterMap Value.text?

def ints (arguments : Arguments) (name : String) : List Int :=
  (arguments.items name).filterMap Value.int?

end Arguments

end GridScript
