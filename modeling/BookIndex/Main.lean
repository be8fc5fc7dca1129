import BookIndex.CommandLine.Run
import BookIndex.Encoding.Registry
import BookIndex.Flow.Format

namespace BookIndex.Main

open Files

/-- Takes what stands at a place into a tree; if asked, with all that lies below it, of which only
LaTeX sources are read. -/
partial def take (below : Bool) (tree : Tree) (place : Location) : IO Tree := do
  let path := (← IO.currentDir) / String.ofList (Tree.pathOf place)
  if ← path.isDir then
    let tree := if Tree.isTop place then tree else tree.grow place .directory
    if below then
      (← path.readDir).foldlM
        (fun tree entry ↦ take below tree (place ++ [entry.fileName.toList])) tree
    else return tree
  else if ← path.pathExists then
    let wanted := !below || ".tex".toList.isSuffixOf (place.getLastD [])
    let content ← if wanted then IO.FS.readFile path else pure ""
    return tree.grow place (.file content.toList)
  else return tree

def takePath (below : Bool) (tree : Tree) (path : Text) : IO Tree := do
  let (place, tree) ← (Tree.parts path).foldlM
    (fun (place, tree) part ↦ return (Tree.next place part, ← take false tree place))
    (Tree.origin path, tree)
  take below tree place

def treeFor : CommandLine.Command → IO Tree
  | .scan directory output => do
    let start := (Glob.splitPattern (Glob.join directory ['*', '*'])).1
    takePath false (← takePath true [] start) (output.getD [])
  | .latex input .. | .docbook input | .xhtml input .. | .check input => do
    takePath false (← takePath false [] input.document) input.output

def libraries : CommandLine.Libraries := ⟨Flow.format, Codec.ofName⟩

def run (args : List Text) : IO UInt32 := do
  let tree ← match CommandLine.Invocation.ofArgs args with
    | .ok i => treeFor i.command
    | .error _ => pure []
  let outcome := CommandLine.run libraries tree args
  for (path, content) in tree.changes outcome.tree do
    IO.FS.writeFile (String.ofList path) (String.ofList content)
  IO.print (String.ofList outcome.stdout)
  IO.eprint (String.ofList outcome.stderr)
  match outcome.status with
  | .exit code => return code.toUInt32
  | .raised e =>
    IO.eprintln (String.ofList e.message)
    return 1

end BookIndex.Main

def main (args : List String) : IO UInt32 := BookIndex.Main.run (args.map String.toList)
