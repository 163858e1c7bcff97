import SubmissionRouting.Form.Route
import SubmissionRouting.Host

/-! # An example

A form that sales leads fill in. Large budgets are sent to the sales site, enterprises to a team
event with senior hosts, and everyone else to the general team event. -/

namespace SubmissionRouting.Example

/-- How experienced a host is. -/
def seniority : Attribute :=
  { id := .text "seniority"
    name := .text "Seniority"
    kind := .select
    choices := [⟨"senior", .text "Senior"⟩, ⟨"junior", .text "Junior"⟩, ⟨"lead", .text "Lead"⟩]
    team := .int 1 }

/-- The fields of the form. -/
def salesFields : List Field :=
  [⟨.text "budget", .text "Budget", .number, .text "budget", []⟩,
    ⟨.text "size", .text "Company size", .select, .text "company_size",
      [⟨"small", .text "1-10"⟩, ⟨"mid", .text "11-200"⟩, ⟨"enterprise", .text "200+"⟩]⟩,
    ⟨.text "email", .text "Work email", .email, .text "", []⟩]

/-- The condition of one rule. -/
def single (field : String) (operator : Operator) (comparand : Value) : Condition :=
  .group .and [.rule ⟨.text field, operator, comparand⟩]

/-- The routes of the form. -/
def salesRoutes : List Route :=
  [.rule ⟨"big-budget", ⟨.externalRedirect, .text "https://sales.example.com"⟩,
      single "budget" .greater (.int 1000), .missing, false⟩,
    .rule ⟨"enterprise", ⟨.eventRedirect, .text "team/enterprise-demo"⟩,
      single "size" .selectAnyIn (.tuple [.text "enterprise"]),
      single "seniority" .equals (.text "senior"), false⟩,
    .rule ⟨"fallback", ⟨.eventRedirect, .text "team/general"⟩, .matchAll, .missing, true⟩]

/-- The form of a team. -/
def salesForm (id : String) (team : Value) : Form :=
  ⟨id, .text "Sales intake", .text "Qualifies inbound leads", salesFields, salesRoutes, team, .null⟩

/-- The id of the form. -/
def salesFormId : String := "sales-intake"

/-- The team of the form. -/
def salesTeam : Value := .int 1

/-- A host of some seniority. -/
def host (id : Int) (level : String) : Host :=
  ⟨.int id, [(.text "seniority", .text level)]⟩

/-- The hosts of the team. -/
def roster : List Host := [host 1 "senior", host 2 "junior", host 3 "Senior"]

end SubmissionRouting.Example
