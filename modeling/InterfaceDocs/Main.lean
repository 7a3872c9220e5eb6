import InterfaceDocs.Command.Run

/-!
# The program

Standard input holds the file tree to work on: a JSON object that gives the content of each file by
its path.  The report goes to standard output, notices and trouble to standard error.
-/

namespace InterfaceDocs.Program

/-- All of a stream. -/
partial def readAll (stream : IO.FS.Stream) (sofar : ByteArray) : IO ByteArray := do
  let chunk ← stream.read 65536
  if chunk.isEmpty then return sofar else readAll stream (sofar ++ chunk)

/-- The tree of the files that a document lists. -/
def fileTree (document : Bytes) : Except Json.Fault FileTree := do
  let files ← Json.readWhole Json.dictionary document
  return FileTree.ofPaths [] (files.toList.map fun f => (f.1, Bytes.ofString f.2))

/-- Runs the command and prints what it says. -/
def execute (options : Command.Options) (tree : FileTree) : IO UInt32 := do
  let result := options.run tree
  let stderr ← IO.getStderr
  for n in options.shownLog result.log do
    stderr.putStrLn ("[" ++ n.level.label ++ "] " ++ n.message)
  IO.print result.value.stdout
  for trouble in result.value.trouble do
    stderr.putStr trouble.report
  return result.value.status.toUInt32

end InterfaceDocs.Program

open InterfaceDocs in
def main (args : List String) : IO UInt32 := do
  match Command.Options.ofArguments? args with
  | none =>
    (← IO.getStderr).putStrLn "error: the arguments do not go together"
    return Command.refusedStatus.toUInt32
  | some options =>
    let document ← Program.readAll (← IO.getStdin) ByteArray.empty
    match Program.fileTree document.data.toList with
    | .error fault =>
      (← IO.getStderr).putStrLn ("error: the file tree cannot be read: " ++ fault.message)
      return Command.refusedStatus.toUInt32
    | .ok tree => Program.execute options tree
