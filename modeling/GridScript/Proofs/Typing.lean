import GridScript.Proofs.Numerals
import GridScript.Value.Writer

/-!
# Typed values

`Value.HasType` is the typing relation of argument values against the objects
that are known.  What a script can spell depends on the leaves of a value:
names have to be words and doubles have to survive fifteen digits.  Null
references in arrays have no text, so `Value.pruned` is what the text of a
value still says, and `Value.resolved` what a reader makes of it who knows
other objects.
-/

namespace GridScript

/-- The typing relation.  A reference has the class that is asked for and a
number of 64 bits, and its object is known; it may be null. -/
inductive Value.HasType (objects : ObjectTable) : ValueType → Value → Prop where
  | string (text : String) : HasType objects .string (.string text)
  | bool (value : Bool) : HasType objects .bool (.bool value)
  | int {value : Int} (inside : InInt64 value) :
      HasType objects .int (.int value)
  | double (value : Binary64) : HasType objects .double (.double value)
  | variant {names : Enumeration} {name : String}
      (member : name ∈ names.variants) :
      HasType objects (.enumeration names) (.variant name)
  | array {element : ValueType} {items : List Value}
      (typed : ∀ item ∈ items, HasType objects element item) :
      HasType objects (.array element) (.array items)
  | null (className : String) :
      HasType objects (.reference className) (.reference none)
  | object {className : String} {id : Nat}
      (inside : id < 0x10000000000000000)
      (known : objects.contains className id = true) :
      HasType objects (.reference className) (.reference (some ⟨className, id⟩))
  | references {className : String} {items : List Value}
      (typed : ∀ item ∈ items, HasType objects (.reference className) item) :
      HasType objects (.references className) (.array items)

/-- Values stay typed where more objects are known. -/
theorem Value.HasType.mono {few many : ObjectTable}
    (more : ∀ className id, few.contains className id = true →
      many.contains className id = true)
    {type : ValueType} {value : Value} (typed : value.HasType few type) :
    value.HasType many type := by
  induction typed with
  | string text => exact .string text
  | bool value => exact .bool value
  | int inside => exact .int inside
  | double value => exact .double value
  | variant member => exact .variant member
  | array _ induction => exact .array induction
  | null className => exact .null className
  | object inside known => exact .object inside (more _ _ known)
  | references _ induction => exact .references induction

/-- Whether a value is a reference of the class, null or to a known object. -/
def Value.isReferenceTo (objects : ObjectTable) (className : String) :
    Value → Bool
  | .reference none => true
  | .reference (some object) =>
      object.className == className &&
        decide (object.id < 0x10000000000000000) &&
        objects.contains className object.id
  | _ => false

/-- The typing relation as a test. -/
def Value.hasType (objects : ObjectTable) : ValueType → Value → Bool
  | .string, .string _ => true
  | .bool, .bool _ => true
  | .int, .int value => decide (InInt64 value)
  | .double, .double _ => true
  | .enumeration names, .variant name => names.variants.contains name
  | .array element, .array items =>
      items.all fun item => item.hasType objects element
  | .reference className, value => value.isReferenceTo objects className
  | .references className, .array items =>
      items.all fun item => item.isReferenceTo objects className
  | _, _ => false

theorem Value.hasType_reference_iff (objects : ObjectTable)
    (className : String) (value : Value) :
    value.isReferenceTo objects className = true ↔
      value.HasType objects (.reference className) := by
  constructor
  · intro test
    cases value with
    | reference object =>
        cases object with
        | none => exact .null className
        | some object =>
            obtain ⟨name, id⟩ := object
            simp only [isReferenceTo, Bool.and_eq_true, beq_iff_eq,
              decide_eq_true_eq] at test
            obtain ⟨⟨rfl, inside⟩, known⟩ := test
            exact .object inside known
    | _ => cases test
  · intro typed
    cases typed with
    | null => rfl
    | object inside known => simp [isReferenceTo, inside, known]

theorem Value.hasType_iff (objects : ObjectTable) (type : ValueType)
    (value : Value) :
    value.hasType objects type = true ↔ value.HasType objects type := by
  induction type generalizing value with
  | string =>
      constructor
      · intro test
        cases value with
        | string text => exact .string text
        | _ => cases test
      · intro typed
        cases typed
        rfl
  | bool =>
      constructor
      · intro test
        cases value with
        | bool value => exact .bool value
        | _ => cases test
      · intro typed
        cases typed
        rfl
  | int =>
      constructor
      · intro test
        cases value with
        | int value => exact .int (of_decide_eq_true test)
        | _ => cases test
      · intro typed
        cases typed with
        | int inside => exact decide_eq_true inside
  | double =>
      constructor
      · intro test
        cases value with
        | double value => exact .double value
        | _ => cases test
      · intro typed
        cases typed
        rfl
  | enumeration names =>
      constructor
      · intro test
        cases value with
        | variant name => exact .variant (List.contains_iff_mem.mp test)
        | _ => cases test
      · intro typed
        cases typed with
        | variant member => exact List.contains_iff_mem.mpr member
  | array element induction =>
      constructor
      · intro test
        cases value with
        | array items =>
            simp only [hasType, List.all_eq_true] at test
            exact .array fun item member =>
              (induction item).mp (test item member)
        | _ => cases test
      · intro typed
        cases typed with
        | array typed =>
            simp only [hasType, List.all_eq_true]
            exact fun item member => (induction item).mpr (typed item member)
  | reference className =>
      have same : value.hasType objects (.reference className) =
          value.isReferenceTo objects className := by
        cases value <;> rfl
      rw [same]
      exact hasType_reference_iff objects className value
  | references className =>
      constructor
      · intro test
        cases value with
        | array items =>
            simp only [hasType, List.all_eq_true] at test
            exact .references fun item member =>
              (hasType_reference_iff objects className item).mp
                (test item member)
        | _ => cases test
      · intro typed
        cases typed with
        | references typed =>
            simp only [hasType, List.all_eq_true]
            exact fun item member =>
              (hasType_reference_iff objects className item).mpr
                (typed item member)

instance (objects : ObjectTable) (type : ValueType) (value : Value) :
    Decidable (value.HasType objects type) :=
  decidable_of_iff _ (Value.hasType_iff objects type value)

/-- The double is read back from its own text. -/
def Binary64.ReadsBack (d : Binary64) : Prop :=
  (Cursor.readDouble (.ofText d.scientific)).1 = some d

instance (d : Binary64) : Decidable d.ReadsBack :=
  inferInstanceAs (Decidable (_ = _))

/-- At least one character, and only word characters. -/
def IsWordText (text : String) : Prop :=
  text.toList ≠ [] ∧ ∀ c ∈ text.toList, isWord c = true

instance (text : String) : Decidable (IsWordText text) :=
  decidable_of_iff
    ((!text.toList.isEmpty && text.toList.all isWord) = true)
    (by simp [IsWordText])

namespace Value

/-! ### Leaves -/

mutual

/-- The values inside a value that are no arrays. -/
def leaves : Value → List Value
  | array items => leavesOf items
  | leaf => [leaf]

def leavesOf : List Value → List Value
  | [] => []
  | item :: more => item.leaves ++ leavesOf more

end

theorem mem_leaves_array {items : List Value} {item leaf : Value}
    (member : item ∈ items) (inside : leaf ∈ item.leaves) :
    leaf ∈ (array items).leaves := by
  rw [leaves]
  induction items with
  | nil => cases member
  | cons head tail induction =>
      rw [leavesOf, List.mem_append]
      rcases List.mem_cons.mp member with rfl | later
      · exact .inl inside
      · exact .inr (induction later)

theorem exists_mem_of_mem_leavesOf {items : List Value} {leaf : Value}
    (inside : leaf ∈ leavesOf items) :
    ∃ item ∈ items, leaf ∈ item.leaves := by
  induction items with
  | nil => cases inside
  | cons head tail induction =>
      rw [leavesOf, List.mem_append] at inside
      rcases inside with here | later
      · exact ⟨head, List.mem_cons_self, here⟩
      · obtain ⟨item, member, inside⟩ := induction later
        exact ⟨item, List.mem_cons_of_mem head member, inside⟩

/-- Variants and class names inside the value are words. -/
structure Spellable (value : Value) : Prop where
  variant : ∀ name, Value.variant name ∈ value.leaves → IsWordText name
  className : ∀ object, reference (some object) ∈ value.leaves →
    IsWordText object.className

/-- Every double inside the value is read back from its own text. -/
def Exact (value : Value) : Prop :=
  ∀ d, double d ∈ value.leaves → d.ReadsBack

/-- Every object that the value refers to is known. -/
def KnownIn (objects : ObjectTable) (value : Value) : Prop :=
  ∀ object, reference (some object) ∈ value.leaves →
    objects.contains object.className object.id = true

/-- Whether the names at a leaf are words. -/
def hasWords : Value → Bool
  | variant name => decide (IsWordText name)
  | reference (some object) => decide (IsWordText object.className)
  | _ => true

theorem all_hasWords_iff (value : Value) :
    value.leaves.all hasWords = true ↔ value.Spellable := by
  rw [List.all_eq_true]
  constructor
  · intro words
    constructor
    · intro name inside
      exact of_decide_eq_true (words _ inside)
    · intro object inside
      exact of_decide_eq_true (words _ inside)
  · intro spellable leaf inside
    unfold hasWords
    split
    · exact decide_eq_true (spellable.variant _ inside)
    · exact decide_eq_true (spellable.className _ inside)
    · rfl

instance (value : Value) : Decidable value.Spellable :=
  decidable_of_iff _ (all_hasWords_iff value)

/-- Whether a leaf is no double, or one that is read back. -/
def readsBack : Value → Bool
  | double d => decide d.ReadsBack
  | _ => true

theorem all_readsBack_iff (value : Value) :
    value.leaves.all readsBack = true ↔ value.Exact := by
  rw [List.all_eq_true]
  constructor
  · intro back d inside
    exact of_decide_eq_true (back _ inside)
  · intro exact leaf inside
    unfold readsBack
    split
    · exact decide_eq_true (exact _ inside)
    · rfl

instance (value : Value) : Decidable value.Exact :=
  decidable_of_iff _ (all_readsBack_iff value)

theorem Spellable.item {items : List Value} {item : Value}
    (spellable : (array items).Spellable) (member : item ∈ items) :
    item.Spellable :=
  ⟨fun name inside => spellable.variant name (mem_leaves_array member inside),
    fun object inside =>
      spellable.className object (mem_leaves_array member inside)⟩

theorem Exact.item {items : List Value} {item : Value}
    (exact : (array items).Exact) (member : item ∈ items) : item.Exact :=
  fun d inside => exact d (mem_leaves_array member inside)

theorem KnownIn.item {objects : ObjectTable} {items : List Value}
    {item : Value} (known : (array items).KnownIn objects)
    (member : item ∈ items) : item.KnownIn objects :=
  fun object inside => known object (mem_leaves_array member inside)

/-! ### Values without null references in arrays -/

mutual

/-- The value without null references in its arrays. -/
def pruned : Value → Value
  | array items => array (prunedItems items)
  | leaf => leaf

def prunedItems : List Value → List Value
  | [] => []
  | item :: more =>
      if item.isNullReference then prunedItems more
      else item.pruned :: prunedItems more

end

mutual

/-- The value with null in place of every object that is not known. -/
def resolved (objects : ObjectTable) : Value → Value
  | array items => array (resolvedItems objects items)
  | reference (some object) =>
      if objects.contains object.className object.id then
        reference (some object)
      else reference none
  | leaf => leaf

def resolvedItems (objects : ObjectTable) : List Value → List Value
  | [] => []
  | item :: more => item.resolved objects :: resolvedItems objects more

end

theorem eq_of_isNullReference {value : Value}
    (null : value.isNullReference = true) : value = .reference none := by
  unfold isNullReference at null
  split at null
  · rfl
  · cases null

theorem resolvedItems_eq_map (objects : ObjectTable) (items : List Value) :
    resolvedItems objects items = items.map (resolved objects) := by
  induction items with
  | nil => rfl
  | cons item items induction => simp [resolvedItems, induction]

theorem prunedItems_eq_map (items : List Value) :
    prunedItems items =
      (items.filter fun item => !item.isNullReference).map pruned := by
  induction items with
  | nil => rfl
  | cons item items induction =>
      by_cases null : item.isNullReference = true
      · simp [prunedItems, null, induction]
      · simp [prunedItems, null, induction]

mutual

theorem resolved_eq_self {objects : ObjectTable} (value : Value)
    (known : value.KnownIn objects) : value.resolved objects = value := by
  cases value with
  | array items =>
      rw [resolved, resolvedItems_eq_self items known]
  | reference object =>
      cases object with
      | none => rfl
      | some object =>
          have contained := known object (by simp [leaves])
          simp [resolved, contained]
  | string text => rfl
  | bool value => rfl
  | int value => rfl
  | double value => rfl
  | variant name => rfl

theorem resolvedItems_eq_self {objects : ObjectTable} (items : List Value)
    (known : (array items).KnownIn objects) :
    resolvedItems objects items = items := by
  cases items with
  | nil => rfl
  | cons item items =>
      have itemSame := resolved_eq_self item (known.item List.mem_cons_self)
      have itemsSame := resolvedItems_eq_self items fun object inside =>
        known object (by
          rw [leaves] at inside ⊢
          rw [leavesOf, List.mem_append]
          exact .inr inside)
      rw [resolvedItems, itemSame, itemsSame]

end

mutual

/-- Leaving out null references leaves out nothing else. -/
theorem mem_leaves_of_mem_pruned {leaf : Value} (value : Value)
    (inside : leaf ∈ value.pruned.leaves) : leaf ∈ value.leaves := by
  cases value with
  | array items =>
      rw [pruned, leaves] at inside
      rw [leaves]
      exact mem_leavesOf_of_mem_prunedItems items inside
  | string text => exact inside
  | bool value => exact inside
  | int value => exact inside
  | double value => exact inside
  | variant name => exact inside
  | reference object => exact inside

theorem mem_leavesOf_of_mem_prunedItems {leaf : Value} (items : List Value)
    (inside : leaf ∈ leavesOf (prunedItems items)) : leaf ∈ leavesOf items := by
  cases items with
  | nil => exact inside
  | cons item items =>
      rw [leavesOf, List.mem_append]
      by_cases null : item.isNullReference = true
      · rw [prunedItems, if_pos null] at inside
        exact .inr (mem_leavesOf_of_mem_prunedItems items inside)
      · rw [prunedItems, if_neg null, leavesOf, List.mem_append] at inside
        rcases inside with here | later
        · exact .inl (mem_leaves_of_mem_pruned item here)
        · exact .inr (mem_leavesOf_of_mem_prunedItems items later)

end

theorem KnownIn.pruned {objects : ObjectTable} {value : Value}
    (known : value.KnownIn objects) : value.pruned.KnownIn objects :=
  fun object inside => known object (mem_leaves_of_mem_pruned value inside)

theorem HasType.knownIn {objects : ObjectTable} {type : ValueType}
    {value : Value} (typed : value.HasType objects type) :
    value.KnownIn objects := by
  intro object inside
  induction typed with
  | @object className id _ known =>
      have same : object = ⟨className, id⟩ := by
        simpa [leaves] using inside
      rw [same]
      exact known
  | array _ induction =>
      rw [leaves] at inside
      obtain ⟨item, member, here⟩ := exists_mem_of_mem_leavesOf inside
      exact induction item member here
  | references _ induction =>
      rw [leaves] at inside
      obtain ⟨item, member, here⟩ := exists_mem_of_mem_leavesOf inside
      exact induction item member here
  | string text => simp [leaves] at inside
  | bool value => simp [leaves] at inside
  | int _ => simp [leaves] at inside
  | double value => simp [leaves] at inside
  | variant _ => simp [leaves] at inside
  | null className => simp [leaves] at inside

end Value

end GridScript
