import SubmissionRouting.Value.Equality

/-! # Mappings

Entries in the order in which their keys were first put. Putting a key that is equal to one already
there keeps the place and the first form of the key and replaces what it stands for.

* `get?`: what a key stands for.
* `put`: puts one entry; `ofPairs` puts many.
* `keys_put`: which keys there are after an entry was put. -/

namespace SubmissionRouting

/-- A mapping from values to something else. -/
abbrev Mapping (α : Type) := List (Value × α)

namespace Mapping

variable {α β : Type}

/-- What a key stands for. -/
def get? (m : Mapping α) (key : Value) : Option α := (m.find? fun e => e.1.alike key).map (·.2)

/-- Whether there is such a key. -/
def contains (m : Mapping α) (key : Value) : Bool := m.any fun e => e.1.alike key

/-- Puts an entry. -/
def put : Mapping α → Value → α → Mapping α
  | [], key, a => [(key, a)]
  | (k, b) :: m, key, a => if k.alike key then (k, a) :: m else (k, b) :: put m key a

/-- Changes what a key stands for; a new key starts from the given value. -/
def change : Mapping α → Value → α → (α → α) → Mapping α
  | [], key, start, f => [(key, f start)]
  | (k, b) :: m, key, start, f =>
    if k.alike key then (k, f b) :: m else (k, b) :: change m key start f

/-- Puts pairs one after the other. -/
def ofPairs (pairs : List (Value × α)) : Mapping α := pairs.foldl (fun m p => put m p.1 p.2) []

/-- Puts pairs one after the other; every key must be able to stand as one. -/
def ofPairs? (pairs : List (Value × α)) : Except Misuse (Mapping α) :=
  if pairs.all fun p => p.1.isKey then .ok (ofPairs pairs) else .error .unhashable

/-- The keys in order. -/
def keys (m : Mapping α) : List Value := m.map (·.1)

@[simp] theorem get?_nil (key : Value) : get? ([] : Mapping α) key = none := rfl

theorem keys_put (m : Mapping α) (key : Value) (a : α) :
    keys (put m key a) = if contains m key then keys m else keys m ++ [key] := by
  induction m with
  | nil => rfl
  | cons e m ih =>
    obtain ⟨k, b⟩ := e
    by_cases h : k.alike key
    · simp [put, contains, keys, h]
    · have hc : contains ((k, b) :: m) key = contains m key := by simp [contains, h]
      have hk : keys (put ((k, b) :: m) key a) = k :: keys (put m key a) := by
        simp [put, keys, h]
      rw [hc, hk, ih]
      split <;> simp [keys]

end Mapping

namespace Value

/-- What a text stands for in the entries of a mapping. -/
def member? (entries : List (Value × Value)) (key : String) : Option Value :=
  Mapping.get? entries (.text key)

/-- What a text stands for in the entries of a mapping, or the given value. -/
def memberD (entries : List (Value × Value)) (key : String) (default : Value) : Value :=
  (member? entries key).getD default

end Value

end SubmissionRouting
