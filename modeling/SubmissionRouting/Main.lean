import SubmissionRouting.CommandLine.Run
import Std.Time.DateTime.PlainDateTime
import Std.Time.DateTime.Timestamp

/-! # The command line

Reads the files that a request names, carries the request out, and shows its transcript. All that is
decided is decided elsewhere: here are only files, the clock, chance, and the two streams. -/

namespace SubmissionRouting.CommandLine

/-- The texts of those files that can be read. -/
def readFiles : List String → IO Files
  | [] => pure []
  | name :: names => do
    let others ← readFiles names
    try
      pure ((name, ← IO.FS.readFile name) :: others)
    catch _ => pure others

/-- An id of 32 random digits, in groups. -/
def randomId : IO String := do
  let part (count : Nat) : IO String := do
    pure (String.ofList (Text.hexDigits count (← IO.rand 0 (Nat.pow 16 count - 1))))
  let groups ← [8, 4, 4, 4, 12].mapM part
  pure ("-".intercalate groups)

/-- The time of the clock in universal time. -/
def clockText : IO String := do
  let now ← Std.Time.Timestamp.now
  let t := Std.Time.PlainDateTime.ofWallTime (.ofDuration now.toDurationSinceUnixEpoch)
  let date : Date := ⟨t.date.year.toInt.toNat, t.date.month.val.toNat, t.date.day.val.toNat⟩
  let clock := [t.time.hour.val, t.time.minute.val, t.time.second.val].map fun n =>
    paddedDecimal 2 n.toNat
  pure (date.text ++ "T" ++ ":".intercalate clock ++ "." ++
    paddedDecimal 6 (t.time.nanosecond.val.toNat / 1000) ++ "Z")

/-- Shows a transcript and gives its code. -/
def Transcript.present (t : Transcript) : IO UInt32 := do
  t.messages.forM IO.eprintln
  IO.print t.output
  match t.ending with
  | .code n => pure n.toUInt32
  | .fault cause =>
    IO.eprintln ("error: " ++ cause.message)
    pure 1

/-- Shows why a command is not carried out. -/
def Stop.present : Stop → IO UInt32
  | .help g => do
    IO.println g.usage
    pure 0
  | .misused g cause => do
    IO.eprintln g.usage
    IO.eprintln (g.program ++ ": error: " ++ cause.message)
    pure 2

end SubmissionRouting.CommandLine

open SubmissionRouting.CommandLine

/-- Routes one response, or checks a form. -/
def main (arguments : List String) : IO UInt32 := do
  match Request.ofArguments? arguments with
  | .error stop => stop.present
  | .ok request =>
    let files ← readFiles request.fileNames
    (request.run files (← randomId) (← clockText)).present
