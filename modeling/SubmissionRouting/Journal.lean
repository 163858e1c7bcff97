import SubmissionRouting.Fault

/-! # The journal

Evaluating, routing and filtering keep a journal: a list of records in the order in which they were
written. What was written before a fault stays written.

* `Record`: a level, a topic, and words on a value.
* `Journaled α`: a result that may be a fault, with the records written on the way to it.
* `Journaled.write`, `Journaled.note`: write a record.
* `records_bind_ok`, `records_bind_error`: the journal of two steps in a row.
* `outcome_bind`: their outcome. -/

namespace SubmissionRouting

/-- How much a record matters. -/
inductive Level where
  | debug
  | info
  | warning
deriving DecidableEq

/-- The part of the work that a record is about. -/
inductive Topic where
  | evaluation
  | response
  | selection
  | chain
  | hosts
  | submission
deriving DecidableEq

/-- The name under which the records of a topic are written. -/
def Topic.logger : Topic → String
  | evaluation => "formroute.evaluator"
  | response => "formroute.response"
  | selection => "formroute.router"
  | chain => "formroute.chain"
  | hosts => "formroute.hosts"
  | submission => "formroute.engine"

/-- One line of the journal. The value that it is about is put into words only when the line is written
out, so that there is a record whether or not the value has a text. -/
structure Record where
  level : Level
  topic : Topic
  /-- The words before the value. -/
  words : String
  about : Option Value

namespace Record

/-- The record in words, unless the value that it is about has no text. -/
def message? (r : Record) : Option String :=
  match r.about with
  | none => some r.words
  | some v => v.shown.toOption.map (r.words ++ ·)

/-- The record in words, as far as it has any. -/
def message (r : Record) : String := r.message?.getD r.words

end Record

/-- A result that may be a fault, with the records written on the way to it. -/
structure Journaled (α : Type) where
  records : List Record
  outcome : Result α

namespace Journaled

variable {α β γ : Type}

/-- The outcome of a first step decides the second; the journals follow each other. -/
def andThen (first : Journaled α) (next : α → Journaled β) : Journaled β :=
  match first.outcome with
  | .ok a => ⟨first.records ++ (next a).records, (next a).outcome⟩
  | .error e => ⟨first.records, .error e⟩

instance : Monad Journaled where
  pure a := ⟨[], .ok a⟩
  bind := andThen

/-- Stops with a fault. -/
def fail (e : Fault) : Journaled α := ⟨[], .error e⟩

/-- A result without records. -/
def ofResult (r : Result α) : Journaled α := ⟨[], r⟩

/-- Writes a record. -/
def write (level : Level) (topic : Topic) (words : String) : Journaled Unit :=
  ⟨[⟨level, topic, words, none⟩], .ok ()⟩

/-- Writes a record on a value. -/
def note (level : Level) (topic : Topic) (words : String) (v : Value) : Journaled Unit :=
  ⟨[⟨level, topic, words, some v⟩], .ok ()⟩

instance : MonadLift Result Journaled := ⟨ofResult⟩

instance : MonadLift (Except Misuse) Journaled := ⟨fun r => ofResult (orFault r)⟩

@[simp] theorem outcome_pure (a : α) : (pure a : Journaled α).outcome = .ok a := rfl

theorem records_bind_ok {x : Journaled α} {a : α} (h : x.outcome = .ok a) (f : α → Journaled β) :
    (x >>= f).records = x.records ++ (f a).records := by
  show (andThen x f).records = _
  simp [andThen, h]

theorem outcome_bind_ok {x : Journaled α} {a : α} (h : x.outcome = .ok a) (f : α → Journaled β) :
    (x >>= f).outcome = (f a).outcome := by
  show (andThen x f).outcome = _
  simp [andThen, h]

theorem records_bind_error {x : Journaled α} {e : Fault} (h : x.outcome = .error e)
    (f : α → Journaled β) : (x >>= f).records = x.records := by
  show (andThen x f).records = _
  simp [andThen, h]

theorem outcome_bind_error {x : Journaled α} {e : Fault} (h : x.outcome = .error e)
    (f : α → Journaled β) : (x >>= f).outcome = .error e := by
  show (andThen x f).outcome = _
  simp [andThen, h]

@[simp] theorem outcome_bind (x : Journaled α) (f : α → Journaled β) :
    (x >>= f).outcome = x.outcome >>= fun a => (f a).outcome := by
  cases h : x.outcome with
  | ok a => rw [outcome_bind_ok h]; rfl
  | error e => rw [outcome_bind_error h]; rfl

@[simp] theorem outcome_liftM (r : Result α) : (liftM r : Journaled α).outcome = r := rfl

@[simp] theorem outcome_liftM_misuse (r : Except Misuse α) :
    (liftM r : Journaled α).outcome = orFault r := rfl

@[simp] theorem outcome_write (level : Level) (topic : Topic) (words : String) :
    (write level topic words).outcome = .ok () := rfl

@[simp] theorem outcome_note (level : Level) (topic : Topic) (words : String) (v : Value) :
    (note level topic words v).outcome = .ok () := rfl

theorem outcome_foldlM (f : β → α → Journaled β) (b : β) (l : List α) :
    (l.foldlM f b).outcome = l.foldlM (fun b a => (f b a).outcome) b := by
  induction l generalizing b with
  | nil => rfl
  | cons a l ih => rw [List.foldlM_cons, List.foldlM_cons, outcome_bind, funext ih]

/-! ### Laws -/

theorem pure_andThen (a : α) (f : α → Journaled β) : andThen (pure a) f = f a := rfl

theorem andThen_pure (x : Journaled α) : andThen x pure = x := by
  obtain ⟨records, _ | a⟩ := x
  · rfl
  · show (⟨records ++ [], .ok a⟩ : Journaled α) = _
    rw [List.append_nil]

theorem andThen_assoc (x : Journaled α) (f : α → Journaled β) (g : β → Journaled γ) :
    andThen (andThen x f) g = andThen x fun a => andThen (f a) g := by
  obtain ⟨records, _ | a⟩ := x
  · rfl
  · unfold andThen
    dsimp only
    cases (f a).outcome <;> simp

instance : LawfulMonad Journaled := .mk' Journaled andThen_pure pure_andThen andThen_assoc

theorem outcome_mapM (f : α → Journaled β) (l : List α) :
    (l.mapM f).outcome = l.mapM fun a => (f a).outcome := by
  induction l with
  | nil => rfl
  | cons a l ih =>
    rw [List.mapM_cons, List.mapM_cons, outcome_bind]
    simp only [outcome_bind, ih, outcome_pure]
    rfl

end Journaled

end SubmissionRouting
