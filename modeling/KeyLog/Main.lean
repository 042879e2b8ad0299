import KeyLog.CommandLine.Run
import KeyLog.Volume.Mount

/-!
# The program

The command line on real files.  The log and what may lie under its temporary name are brought into
a volume, the command line is carried out there, and what changed is brought back: a log that only
grew is appended to, and one that became another is written under the temporary name first and then
renamed.
-/

namespace KeyLog
namespace Main

/-- The bytes of a file, or nothing where there is none. -/
def load (path : String) : IO (Option Bytes) := do
  try
    return some (← IO.FS.readBinFile path).data.toList
  catch
    | .noFileOrDirectory .. => return none
    | error => throw error

/-- Makes a file hold what it should hold now, given what it held. -/
def save (path : String) (before now : Option Bytes) : IO Unit := do
  match before, now with
  | none, none => return
  | some _, none => IO.FS.removeFile path
  | none, some now => IO.FS.writeBinFile path ⟨now.toArray⟩
  | some before, some now =>
    if before = now then return
    else if before.isPrefixOf now then
      IO.FS.withFile path .append fun file => file.write ⟨(now.drop before.length).toArray⟩
    else
      let temporary := Compaction.temporaryPath path
      IO.FS.writeBinFile temporary ⟨now.toArray⟩
      IO.FS.rename temporary path

/-- Carries out an action on the log at a path. -/
def act (path : String) (action : CommandLine.Action) : IO CommandLine.Report := do
  let temporary := Compaction.temporaryPath path
  let log ← load path
  let leftover ← load temporary
  let volume := (Volume.empty.mount path log).mount temporary leftover
  let (report, after) := action.run volume path
  save temporary leftover (after.bytesAt? temporary)
  save path log (after.bytesAt? path)
  return report

/-- What is told on the error channel. -/
def complain : CommandLine.Complaint → String
  | .notFound => "(not found)"
  | .usage => CommandLine.programHelp
  | .failure error => error.message

end Main
end KeyLog

/-- Runs the program. -/
def main (words : List String) : IO UInt32 := do
  try
    let report ←
      match KeyLog.CommandLine.Request.ofWords words with
      | .run path action => KeyLog.Main.act path action
      | request => pure (request.answer .empty).1
    IO.print report.output
    if let some complaint := report.complaint then
      IO.eprintln (KeyLog.Main.complain complaint)
    return report.exitCode.toUInt32
  catch error =>
    IO.eprintln (toString error)
    return 2
