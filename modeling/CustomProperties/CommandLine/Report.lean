import CustomProperties.Pipeline

/-!
# Reports

The lines that tell what a command does. They never mix with the style sheets that it prints.
-/

namespace CustomProperties.CommandLine

/-- The mark of what went well. -/
def successMark : String := "✓"

/-- The mark of what failed. -/
def failureMark : String := "✘"

/-- A count and what is counted. -/
def plural (count : Nat) (one many : String) : String :=
  s!"{count} " ++ if count = 1 then one else many

/-- A line that tells what goes on. -/
def infoLine (message : String) : String := s!"info: {message}\n"

/-- The line on a failure that ends a command. -/
def errorLine (failure : Failure) : String := s!"Error: {failure.message}\n"

/-- The line on a file that was processed. -/
def fileLine (path : String) (report : PassReport) : String :=
  let imported := if report.imported = 0 then [] else [s!"{report.imported} imported"]
  let exported := if report.exported = 0 then []
    else [plural report.exported "file" "files" ++ " exported"]
  let details := [plural report.collected "property" "properties" ++ " defined"] ++ imported
    ++ [plural report.updated "declaration" "declarations" ++ " rewritten"] ++ exported
  s!"{successMark} {path}: " ++ ", ".intercalate details ++ "\n"

/-- The line on a file that failed. -/
def failedFileLine (path : String) (failure : Failure) : String :=
  s!"{failureMark} {path}: {failure.message}\n"

/-- The last line, on all files together. -/
def summaryLine (processed failed updated : Nat) : String :=
  let files := plural processed "file" "files"
  if failed = 0 then
    let declarations := plural updated "declaration" "declarations"
    s!"{successMark} Resolved {files} - {declarations} rewritten\n"
  else s!"{failureMark} Failed to resolve {failed} of {files}\n"

end CustomProperties.CommandLine
