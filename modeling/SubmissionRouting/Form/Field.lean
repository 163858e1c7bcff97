import SubmissionRouting.Value.Equality

/-! # Fields and attributes

A form asks for fields, and a team describes its hosts by attributes. Both have an id, a declared
kind, and, for the kinds that let one choose, a table of choices. The rules of a condition need no
more than the kind and the choices, a *slot*.

* `FieldKind`: the declared kinds, with their names.
* `Choice`, `choiceById?`, `choiceByLabel?`: the choices, found by id or by label.
* `Field`, `Attribute`: what a form asks for, and what describes a host.
* `Field.externalName`: the name under which an answer is handed on. -/

namespace SubmissionRouting

/-- The declared kind of a field or attribute. -/
inductive FieldKind where
  | text
  | textarea
  | email
  | phone
  | number
  | select
  | multiselect
  | radio
  | checkbox
deriving DecidableEq

namespace FieldKind

/-- All kinds. -/
def all : List FieldKind :=
  [text, textarea, email, phone, number, select, multiselect, radio, checkbox]

/-- The name of a kind. -/
def name : FieldKind → String
  | text => "text"
  | textarea => "textarea"
  | email => "email"
  | phone => "phone"
  | number => "number"
  | select => "select"
  | multiselect => "multiselect"
  | radio => "radio"
  | checkbox => "checkbox"

/-- The kind with a name. -/
def ofName? (s : String) : Option FieldKind := all.find? fun k => k.name == s

/-- One choice is made. -/
def isSingleChoice : FieldKind → Bool
  | select | radio => true
  | _ => false

/-- Any number of choices is made. -/
def isMultiChoice : FieldKind → Bool
  | multiselect | checkbox => true
  | _ => false

/-- The kind lets one choose. -/
def hasChoices (k : FieldKind) : Bool := k.isSingleChoice || k.isMultiChoice

@[simp] theorem ofName?_name (k : FieldKind) : ofName? k.name = some k := by cases k <;> rfl

variable {k : FieldKind}

theorem isMultiChoice_of_isSingleChoice (h : k.isSingleChoice = true) : k.isMultiChoice = false := by
  cases k with
  | select | radio => rfl
  | _ => cases h

theorem not_choice_of_free (h : k ∈ [text, textarea, email, phone]) :
    k.isMultiChoice = false ∧ k.isSingleChoice = false ∧ k ≠ number := by
  revert h
  cases k <;> decide

theorem choice_number_or_free (k : FieldKind) :
    k.isMultiChoice = true ∨ k.isSingleChoice = true ∨ k = number ∨
      k ∈ [text, textarea, email, phone] := by
  cases k <;> decide

end FieldKind

/-- One of the choices of a field. -/
structure Choice where
  id : String
  label : Value

/-- The first choice with an id. -/
def choiceById? (choices : List Choice) (id : String) : Option Choice :=
  choices.find? fun c => c.id == id

/-- The first choice with a label. -/
def choiceByLabel? (choices : List Choice) (label : Value) : Option Choice :=
  choices.find? fun c => c.label.same label

/-- What the rules of a condition need to know of a field or attribute. -/
structure Slot where
  kind : FieldKind
  choices : List Choice

/-- A typed question of a form. -/
structure Field where
  id : Value
  label : Value
  kind : FieldKind
  /-- The name for handing the answer on; it may be empty. -/
  identifier : Value
  choices : List Choice

/-- A typed property of hosts. -/
structure Attribute where
  id : Value
  name : Value
  kind : FieldKind
  choices : List Choice
  team : Value

/-- What the rules of a condition need to know of a field. -/
def Field.slot (f : Field) : Slot := ⟨f.kind, f.choices⟩

/-- What the rules of a condition need to know of an attribute. -/
def Attribute.slot (a : Attribute) : Slot := ⟨a.kind, a.choices⟩

/-- The identifier, or the label if there is none. -/
def Field.externalName (f : Field) : Value := f.identifier.orElse f.label

end SubmissionRouting
