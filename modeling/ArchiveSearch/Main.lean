import ArchiveSearch.Preview

/-!
# The preview as a program

Hands arguments, input and environment to the preview and prints what it leaves behind. The input is
not read when the arguments alone decide the answer.
-/

namespace ArchiveSearch.Preview

/-- The bytes of an argument or of the value of a variable. -/
def bytesOf (text : String) : Bytes :=
  text.toUTF8.toList

/-- The variables of the process that matter to the preview. -/
def processEnvironment : IO Environment := do
  let settings ← Config.variableNames.filterMapM fun name => do
    return (← IO.getEnv name).map fun value => (name.toList, bytesOf value)
  return .ofList settings

end ArchiveSearch.Preview

open ArchiveSearch Preview

/-- Runs the preview on the process. -/
def main (arguments : List String) : IO UInt32 := do
  let arguments := arguments.map bytesOf
  let input ←
    match CommandLine.parse arguments with
    | .error _ => pure []
    | .ok _ => pure (← (← IO.getStdin).readBinToEnd).toList
  let result := run arguments input (← processEnvironment)
  IO.eprint (String.ofList result.complaint)
  IO.print (String.ofList result.output)
  return .ofNat result.exitCode
