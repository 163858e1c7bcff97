import SubmissionRouting.Text.Digit
import SubmissionRouting.Text.Quoted

/-! # Arguments

A command has switches, which begin with a dash, and places, which are filled in order by the other
arguments. A long switch may be cut short as long as no other one begins so, and short flags may be
written behind one dash. Two dashes alone are a separator: after it no argument is a switch.

* `Grammar`: the switches and the places of a command.
* `Word`, `Grammar.words`: what each argument is taken for.
* `Filled`, `Grammar.fill`: the switches and places with what was given for them.
* `UsageFault`: the ways to misuse a command, with their wording. -/

namespace SubmissionRouting.CommandLine

/-- A switch of a command. -/
inductive Switch where
  /-- A switch that is on or off, by its letter, if it has one, and its long name. -/
  | flag (letter : Option Char) (long : String)
  /-- A switch that takes a value. -/
  | valued (long : String)
deriving DecidableEq

namespace Switch

/-- The long name, under which what is given for a switch is kept. -/
def long : Switch → String
  | flag _ long => long
  | valued long => long

/-- The names under which a switch can be written. -/
def names : Switch → List String
  | flag (some c) long => [String.ofList ['-', c], "--" ++ long]
  | flag none long => ["--" ++ long]
  | valued long => ["--" ++ long]

/-- All names of a switch. -/
def title (s : Switch) : String := "/".intercalate s.names

end Switch

/-- The switch that asks how a command is used. -/
def helpSwitch : Switch := .flag (some 'h') "help"

/-- The switches and the places of a command. -/
structure Grammar where
  program : String
  switches : List Switch
  places : List String
  /-- The last place is filled by all arguments from there on. -/
  isOpenEnded : Bool

/-! ### Faults -/

/-- The ways to misuse a command. -/
inductive UsageFault where
  /-- An argument that several switches begin with. -/
  | ambiguous (text : String) (candidates : List String)
  /-- A switch without its value. -/
  | missingValue (s : Switch)
  /-- A flag with a value. -/
  | unexpectedValue (s : Switch) (value : String)
  /-- A place that is filled by none of the names it admits. -/
  | invalidChoice (place found : String) (choices : List String)
  /-- Places that are not filled. -/
  | unfilled (places : List String)
  /-- Arguments that nothing takes. -/
  | unrecognized (texts : List String)

/-- The wording of a misuse. -/
def UsageFault.message : UsageFault → String
  | ambiguous s candidates =>
    "ambiguous option: " ++ s ++ " could match " ++ ", ".intercalate candidates
  | missingValue s => "argument " ++ s.title ++ ": expected one argument"
  | unexpectedValue s v =>
    "argument " ++ s.title ++ ": ignored explicit argument " ++ Text.quoted v
  | invalidChoice place found choices =>
    "argument " ++ place ++ ": invalid choice: " ++ Text.quoted found ++ " (choose from " ++
      ", ".intercalate (choices.map Text.quoted) ++ ")"
  | unfilled places => "the following arguments are required: " ++ ", ".intercalate places
  | unrecognized texts => "unrecognized arguments: " ++ " ".intercalate texts

/-- Why a command is not carried out. -/
inductive Stop where
  /-- It was asked how it is used. -/
  | help (g : Grammar)
  /-- It was misused. -/
  | misused (g : Grammar) (cause : UsageFault)

/-! ### Words -/

/-- What an argument is taken for. -/
inductive Role where
  | plain
  | separator
  /-- A switch, and the text attached to it. Text attached to a letter may be further letters. -/
  | switch (s : Switch) (byLetter : Bool) (attached : Option String)
  | unknown

/-- An argument and what it is taken for. -/
structure Word where
  text : String
  role : Role

/-- A text up to its first equals sign, and what follows the sign. -/
def splitAtEquals (s : String) : String × Option String :=
  match s.toList.dropWhile (· ≠ '=') with
  | [] => (s, none)
  | _ :: rest => (String.ofList (s.toList.takeWhile (· ≠ '=')), some (String.ofList rest))

/-- The text of a negative number without its sign: digits, and maybe a point and digits. A line
feed may follow. -/
def isUnsignedNumber (cs : List Char) : Bool :=
  let cs := if cs.getLast? = some '\n' then cs.dropLast else cs
  match cs.dropWhile Text.isDigit with
  | [] => !cs.isEmpty
  | '.' :: decimals => Text.isDecimal decimals
  | _ => false

/-- A name that begins with two dashes. -/
def isLong (s : String) : Bool := ['-', '-'].isPrefixOf s.toList

namespace Grammar

/-- The names of the switches with the switches, in order. -/
def named (g : Grammar) : List (String × Switch) :=
  g.switches.flatMap fun s => s.names.map fun name => (name, s)

/-- The switch with a name. -/
def switch? (g : Grammar) (name : String) : Option Switch :=
  (g.named.find? fun e => e.1 == name).map (·.2)

/-- The switches that an argument can stand for: those whose names it begins, or the one whose
letter comes first. -/
def candidates (g : Grammar) (s : String) : List (String × Role) :=
  if isLong s then
    let (start, attached) := splitAtEquals s
    (g.named.filter fun e => start.toList.isPrefixOf e.1.toList).map fun e =>
      (e.1, .switch e.2 false attached)
  else
    (g.named.filter fun e => e.1.toList == s.toList.take 2).map fun e =>
      (e.1, .switch e.2 true (some (String.ofList (s.toList.drop 2))))

/-- The switch that an argument names, with what follows an equals sign. -/
def equated? (g : Grammar) (s : String) : Option Role :=
  match splitAtEquals s with
  | (name, some v) => (g.switch? name).map fun sw => .switch sw (!isLong name) (some v)
  | (_, none) => none

/-- What an argument that begins with a dash is taken for, if it is no switch's full name. -/
def dashed (g : Grammar) (s : String) : Except UsageFault Role :=
  match g.candidates s with
  | [] =>
    .ok (if isUnsignedNumber s.toList.tail || s.toList.contains ' ' then .plain else .unknown)
  | [c] => .ok c.2
  | cs => .error (.ambiguous s (cs.map (·.1)))

/-- What an argument is taken for. A dash alone is plain. -/
def role (g : Grammar) (s : String) : Except UsageFault Role :=
  if s.toList.head? ≠ some '-' then .ok .plain
  else
    match g.switch? s with
    | some sw => .ok (.switch sw (!isLong s) none)
    | none =>
      if s = "-" then .ok .plain
      else
        match g.equated? s with
        | some r => .ok r
        | none => g.dashed s

/-- What each argument is taken for. -/
def words (g : Grammar) : List String → Except UsageFault (List Word)
  | [] => .ok []
  | s :: ss =>
    if s = "--" then .ok (⟨s, .separator⟩ :: ss.map fun s => ⟨s, .plain⟩)
    else do
      let r ← g.role s
      let ws ← g.words ss
      pure (⟨s, r⟩ :: ws)

end Grammar

/-! ### Filling -/

/-- What is given for a switch or a place: a text, or nothing if only two dashes stand there. -/
abbrev Given := Option String

/-- What is given by the argument that stands for a value. -/
def given (s : String) : Given := if s = "--" then none else some s

/-- The arguments of a command, sorted. -/
structure Filled where
  /-- What is given, by the long names of switches and the names of places. -/
  values : List (String × Given) := []
  /-- The arguments that fill an open end, after the first. -/
  rest : List String := []
  /-- The arguments that nothing takes. -/
  extras : List String := []

namespace Filled

/-- Everything given under a name, in order. -/
def all (f : Filled) (name : String) : List Given :=
  (f.values.filter fun e => e.1 == name).map (·.2)

/-- What is given last under a name. -/
def last? (f : Filled) (name : String) : Option Given := (f.all name).getLast?

/-- Something is given under a name. -/
def has (f : Filled) (name : String) : Bool := (f.last? name).isSome

/-- With values given before. -/
def withValues (f : Filled) (values : List (String × Given)) : Filled :=
  { f with values := values ++ f.values }

/-- With an argument before that nothing takes. -/
def withExtra (f : Filled) (s : String) : Filled := { f with extras := s :: f.extras }

end Filled

namespace Grammar

/-- The flag with a letter. -/
def lettered? (g : Grammar) (c : Char) : Option Switch :=
  match g.switch? (String.ofList ['-', c]) with
  | some (.flag letter long) => some (.flag letter long)
  | _ => none

/-- A flag, and the flags whose letters follow it. -/
def bundled (g : Grammar) (s : Switch) : List Char → Except UsageFault (List Switch)
  | [] => .ok [s]
  | c :: cs =>
    match g.lettered? c with
    | some t => do pure (s :: (← g.bundled t cs))
    | none => .error (.unexpectedValue s (String.ofList (c :: cs)))

/-- A flag, and the flags attached to it. -/
def flags (g : Grammar) (s : Switch) (byLetter : Bool) :
    Option String → Except UsageFault (List Switch)
  | none => .ok [s]
  | some v => if byLetter && v ≠ "" then g.bundled s v.toList else .error (.unexpectedValue s v)

/-- Flags are turned on, except that asking for help stops everything. -/
def turnedOn (g : Grammar) (flags : List Switch) : Except Stop (List (String × Given)) :=
  if helpSwitch ∈ flags then .error (.help g) else .ok (flags.map fun s => (s.long, none))

/-- A misuse stops everything. -/
def orStop {α : Type} (g : Grammar) : Except UsageFault α → Except Stop α
  | .ok a => .ok a
  | .error cause => .error (.misused g cause)

/-- A place is open-ended if it is the last one of a command that ends so. -/
def isOpenEnd (g : Grammar) (laterPlaces : List String) : Bool := g.isOpenEnded && laterPlaces.isEmpty

/-- The switches and the places still open are filled by words, in order. Two dashes next to the
word that fills a place are dropped. -/
def fill (g : Grammar) : List String → List Word → Except Stop Filled
  | [], [] => .ok {}
  | p :: ps, [] => .error (.misused g (.unfilled (p :: ps)))
  | places, ⟨s, .unknown⟩ :: ws => do pure ((← g.fill places ws).withExtra s)
  | places, ⟨_, .switch (.flag letter long) byLetter attached⟩ :: ws => do
    let flags ← g.orStop (g.flags (.flag letter long) byLetter attached)
    let values ← g.turnedOn flags
    pure ((← g.fill places ws).withValues values)
  | places, ⟨_, .switch (.valued long) _ (some v)⟩ :: ws => do
    pure ((← g.fill places ws).withValues [(long, given v)])
  | places, ⟨_, .switch (.valued long) _ none⟩ :: ⟨v, .plain⟩ :: ws => do
    pure ((← g.fill places ws).withValues [(long, some v)])
  | _, ⟨_, .switch (.valued long) _ none⟩ :: _ =>
    .error (.misused g (.missingValue (.valued long)))
  | [], ⟨s, .plain⟩ :: ws => do pure ((← g.fill [] ws).withExtra s)
  | [], ⟨s, .separator⟩ :: ws => do pure ((← g.fill [] ws).withExtra s)
  | p :: ps, ⟨s, .plain⟩ :: ws =>
    if g.isOpenEnd ps then .ok { values := [(p, some s)], rest := ws.map (·.text) }
    else
      match ws with
      | ⟨_, .separator⟩ :: ws => do pure ((← g.fill ps ws).withValues [(p, given s)])
      | ws => do pure ((← g.fill ps ws).withValues [(p, given s)])
  | p :: ps, ⟨s, .separator⟩ :: w :: ws =>
    if g.isOpenEnd ps then .ok { values := [(p, some s)], rest := (w :: ws).map (·.text) }
    else do pure ((← g.fill ps ws).withValues [(p, some w.text)])
  | p :: ps, ⟨s, .separator⟩ :: [] => do pure ((← g.fill (p :: ps) []).withExtra s)

/-- The arguments of a command, sorted. -/
def read (g : Grammar) (arguments : List String) : Except Stop Filled := do
  let ws ← g.orStop (g.words arguments)
  g.fill g.places ws

/-! ### Usage -/

/-- How a switch is written in full. -/
def usageOf : Switch → String
  | .flag (some c) _ => String.ofList ['[', '-', c, ']']
  | .flag none long => "[--" ++ long ++ "]"
  | .valued long => "[--" ++ long ++ " " ++ long.map Char.toUpper ++ "]"

/-- One line that shows how a command is used. -/
def usage (g : Grammar) : String :=
  "usage: " ++ " ".intercalate (g.program :: g.switches.map usageOf ++ g.places ++
    (if g.isOpenEnded then ["..."] else []))

end Grammar

end SubmissionRouting.CommandLine
