import SubmissionRouting.Value.Basic

/-! # Conditions

A condition is a tree: rules, which compare one field with a comparand, and groups, which combine
conditions by *and*, *or* and *not*. In the place of a condition there may be nothing at all; that is
the condition `missing`.

* `Operator`, `Combinator`: how rules compare and groups combine, with their names.
* `Condition.rules`: the rules in the order in which they stand.
* `Condition.depth`: how deep the tree is.
* `Condition.matchAll`: the group that holds always. -/

namespace SubmissionRouting

/-- How the conditions of a group are combined. -/
inductive Combinator where
  | and
  | or
  | not
deriving DecidableEq

namespace Combinator

/-- All combinators. -/
def all : List Combinator := [and, or, not]

/-- The name of a combinator. -/
def name : Combinator → String
  | and => "AND"
  | or => "OR"
  | not => "NOT"

/-- The combinator with a name. -/
def ofName? (s : String) : Option Combinator := all.find? fun c => c.name == s

@[simp] theorem ofName?_name (c : Combinator) : ofName? c.name = some c := by cases c <;> rfl

theorem name_of_ofName? {s : String} {c : Combinator} (h : ofName? s = some c) : c.name = s := by
  simpa using List.find?_some h

end Combinator

/-- How a rule compares. -/
inductive Operator where
  | equals
  | notEquals
  | contains
  | notContains
  | startsWith
  | endsWith
  | isEmpty
  | isNotEmpty
  | greater
  | greaterOrEqual
  | less
  | lessOrEqual
  | between
  | notBetween
  | selectAnyIn
  | selectNotAnyIn
  | multiselectSomeIn
  | multiselectAllIn
  | multiselectEquals
  | multiselectNotEquals
deriving DecidableEq

namespace Operator

/-- All operators. -/
def all : List Operator :=
  [equals, notEquals, contains, notContains, startsWith, endsWith, isEmpty, isNotEmpty, greater,
    greaterOrEqual, less, lessOrEqual, between, notBetween, selectAnyIn, selectNotAnyIn,
    multiselectSomeIn, multiselectAllIn, multiselectEquals, multiselectNotEquals]

/-- The name of an operator. -/
def name : Operator → String
  | equals => "equals"
  | notEquals => "not_equals"
  | contains => "contains"
  | notContains => "not_contains"
  | startsWith => "starts_with"
  | endsWith => "ends_with"
  | isEmpty => "is_empty"
  | isNotEmpty => "is_not_empty"
  | greater => "greater"
  | greaterOrEqual => "greater_or_equal"
  | less => "less"
  | lessOrEqual => "less_or_equal"
  | between => "between"
  | notBetween => "not_between"
  | selectAnyIn => "select_any_in"
  | selectNotAnyIn => "select_not_any_in"
  | multiselectSomeIn => "multiselect_some_in"
  | multiselectAllIn => "multiselect_all_in"
  | multiselectEquals => "multiselect_equals"
  | multiselectNotEquals => "multiselect_not_equals"

/-- The operator with a name. -/
def ofName? (s : String) : Option Operator := all.find? fun o => o.name == s

/-- The operators that need no comparand. -/
def isUnary : Operator → Bool
  | isEmpty | isNotEmpty => true
  | _ => false

@[simp] theorem ofName?_name (o : Operator) : ofName? o.name = some o := by cases o <;> rfl

theorem name_of_ofName? {s : String} {o : Operator} (h : ofName? s = some o) : o.name = s := by
  simpa using List.find?_some h

end Operator

/-- A comparison of one field with a comparand. -/
structure Rule where
  field : Value
  operator : Operator
  comparand : Value

/-- A condition on the values of fields. -/
inductive Condition where
  | missing
  | rule (r : Rule)
  | group (combinator : Combinator) (children : List Condition)

instance : Inhabited Condition := ⟨.missing⟩

namespace Condition

/-- The group that holds always. -/
def matchAll : Condition := group .and []

/-- The condition is the group that holds always. -/
def isMatchAll : Condition → Bool
  | group .and [] => true
  | _ => false

/-- The condition is a group with children. -/
def isFilledGroup : Condition → Bool
  | group _ (_ :: _) => true
  | _ => false

/-- Nothing stands for the condition. -/
def isMissing : Condition → Bool
  | missing => true
  | _ => false

mutual

/-- The rules of a condition in the order in which they stand. -/
def rules : Condition → List Rule
  | missing => []
  | rule r => [r]
  | group _ children => rulesOfAll children
termination_by structural c => c

/-- The rules of several conditions. -/
def rulesOfAll : List Condition → List Rule
  | [] => []
  | c :: cs => rules c ++ rulesOfAll cs
termination_by structural cs => cs

end

mutual

/-- The depth of a condition: none for a missing one, one for a rule or an empty group. -/
def depth : Condition → Nat
  | missing => 0
  | rule _ => 1
  | group _ children => 1 + depthOfAll children
termination_by structural c => c

/-- The greatest depth among several conditions. -/
def depthOfAll : List Condition → Nat
  | [] => 0
  | c :: cs => max (depth c) (depthOfAll cs)
termination_by structural cs => cs

end

mutual

/-- The condition and all conditions in it, parents first. -/
def nodes : Condition → List Condition
  | group k children => group k children :: nodesOfAll children
  | c => [c]
termination_by structural c => c

/-- The nodes of several conditions. -/
def nodesOfAll : List Condition → List Condition
  | [] => []
  | c :: cs => nodes c ++ nodesOfAll cs
termination_by structural cs => cs

end

theorem rulesOfAll_eq_flatMap (cs : List Condition) : rulesOfAll cs = cs.flatMap rules := by
  induction cs with
  | nil => rfl
  | cons c cs ih => simp [rulesOfAll, ih]

section
variable {k : Combinator} {cs : List Condition} {c : Condition} {r : Rule}

theorem rules_group (k : Combinator) (cs : List Condition) :
    (group k cs).rules = cs.flatMap rules :=
  rulesOfAll_eq_flatMap cs

theorem mem_rules_group : r ∈ (group k cs).rules ↔ ∃ c ∈ cs, r ∈ c.rules := by
  rw [rules_group, List.mem_flatMap]

theorem rules_subset_group (hc : c ∈ cs) : c.rules ⊆ (group k cs).rules :=
  fun _ hr => mem_rules_group.mpr ⟨c, hc, hr⟩

end

end Condition

end SubmissionRouting
