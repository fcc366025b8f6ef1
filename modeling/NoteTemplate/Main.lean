import NoteTemplate.Command.Run

namespace NoteTemplate

def directoryEntries? (path : String) : IO (Option (List String)) := do
  try
    let directory ← IO.FS.realPath path
    if ← directory.isDir then return some ((← directory.readDir).toList.map (·.fileName))
    else return none
  catch _ => return none

partial def loadNode (path : String) : IO FileNode := do
  match ← directoryEntries? path with
  | none => return .file (← IO.FS.readBinFile path)
  | some names =>
    let entries ← names.mapM fun name => do
      return (name.toList, ← loadNode (String.ofList (joinPath path.toList name.toList)))
    return .directory entries

def faultOf : IO.Error → FileFault
  | .noFileOrDirectory .. => .notFound
  | .inappropriateType .. => .notDirectory
  | e => .other (toString e)

def loadPath (path : Text) : IO (Except FileFault FileNode) := do
  try
    return .ok (← loadNode (String.ofList path))
  catch e => return .error (faultOf e)

end NoteTemplate

open NoteTemplate in
def main (args : List String) : IO UInt32 := do
  let args := args.map String.toList
  let loaded ← match Invocation.ofArguments args with
    | .ok ⟨_, task⟩ =>
      match task.path? with
      | some path => loadPath path
      | none => pure (.error .notFound)
    | .error _ => pure (.error .notFound)
  let outcome := runCommand (fun _ => loaded) args
  (← IO.getStdout).putStr (String.ofList outcome.out)
  (← IO.getStderr).putStr (String.ofList outcome.err)
  return outcome.exit.toUInt32
