import TensorScan.Error

set_option autoImplicit false

/-! # Operator invocations

An invocation names an operator and gives values to attributes. Setting an attribute again
replaces its value. The attributes are kept in the order of their names, so two invocations
are equal when they name the same operator and agree on every attribute, in whatever order the
attributes were set.
-/

namespace TensorScan

def operandTypeAttribute : String := "T"

def indexTypeAttribute : String := "Tidx"

def reverseAttribute : String := "reverse"

def exclusiveAttribute : String := "exclusive"

/-! ## Lists of attributes -/

/-- Sets the value of `name` in a list of attributes that is ordered by name. -/
def setAttribute (name : String) (value : AttributeValue) :
    List (String × AttributeValue) → List (String × AttributeValue)
  | [] => [(name, value)]
  | (other, held) :: rest =>
      if name = other then (name, value) :: rest
      else if name < other then (name, value) :: (other, held) :: rest
      else (other, held) :: setAttribute name value rest

theorem lookup_cons_eq_ite (name key : String) (held : AttributeValue)
    (attributes : List (String × AttributeValue)) :
    ((key, held) :: attributes).lookup name =
      if name = key then some held else attributes.lookup name := by
  rw [List.lookup_cons]
  by_cases h : name = key
  · simp [h]
  · rw [if_neg h, beq_false_of_ne h]

theorem lookup_setAttribute (name other : String) (value : AttributeValue)
    (attributes : List (String × AttributeValue)) :
    (setAttribute name value attributes).lookup other =
      if other = name then some value else attributes.lookup other := by
  induction attributes with
  | nil => rw [setAttribute, lookup_cons_eq_ite]
  | cons head rest ih =>
      obtain ⟨key, held⟩ := head
      rw [setAttribute, lookup_cons_eq_ite other key]
      by_cases hkey : name = key
      · rw [if_pos hkey, lookup_cons_eq_ite, hkey]
        by_cases h : other = key <;> simp [h]
      · rw [if_neg hkey]
        split
        · rw [lookup_cons_eq_ite, lookup_cons_eq_ite]
        · rw [lookup_cons_eq_ite, ih]
          by_cases h : other = name
          · have hne : other ≠ key := h ▸ hkey
            simp [h, hkey]
          · simp [h]

/-! ## Invocations -/

/-- An operator with its attributes. -/
structure Invocation where
  op : String
  /-- The attributes, ordered by name. -/
  attributes : List (String × AttributeValue)
  deriving DecidableEq

namespace Invocation

def named (op : String) : Invocation := ⟨op, []⟩

def set (call : Invocation) (name : String) (value : AttributeValue) : Invocation :=
  { call with attributes := setAttribute name value call.attributes }

/-- The value of an attribute, if it is set. -/
def get? (call : Invocation) (name : String) : Option AttributeValue :=
  call.attributes.lookup name

/-- The truth value of an attribute, if it is set. -/
def bool? (call : Invocation) (name : String) : Except Error (Option Bool) :=
  match call.get? name with
  | none => .ok none
  | some (.bool b) => .ok (some b)
  | some other => .error (.invalidArgument name (.notBool other))

/-- The element type that an attribute must hold. -/
def dtype (call : Invocation) (name : String) : Except Error DType :=
  match call.get? name with
  | none => .error (.missingAttribute name)
  | some (.dtype d) => .ok d
  | some other => .error (.invalidArgument name (.notDType other))

@[simp] theorem get?_named (op name : String) : (named op).get? name = none := rfl

@[simp] theorem op_set (call : Invocation) (name : String) (value : AttributeValue) :
    (call.set name value).op = call.op := rfl

/-- The last value set is the one that holds; other attributes are not touched. -/
@[simp] theorem get?_set (call : Invocation) (name other : String) (value : AttributeValue) :
    (call.set name value).get? other = if other = name then some value else call.get? other :=
  lookup_setAttribute name other value call.attributes

end Invocation

end TensorScan
