import TopicBus.Fault
import TopicBus.Text.Blank
import TopicBus.Text.Utf8

/-!
# Reading files

A tree of directories and files, and what is found at a path in it.
-/

namespace TopicBus

/-- What stands in a directory. -/
inductive FileTree
  | file (content : Text.Bytes)
  | directory (entries : List (String × FileTree))
  deriving Repr

namespace FileTree

/-- The content of the file that the names lead to. -/
def readAt : FileTree → List String → Except FileFault Text.Bytes
  | .file content, [] => .ok content
  | .file _, _ :: _ => .error .notDirectory
  | .directory _, [] => .error .directory
  | .directory entries, name :: names =>
      match entries.lookup name with
      | none => .error .missing
      | some entry => readAt entry names
termination_by _ names => names.length

/-- The content of the file at a path, whose names stand between slashes. -/
def readFile (tree : FileTree) (path : String) : Except FileFault Text.Bytes :=
  if path.isEmpty then .error .missing
  else readAt tree ((Text.split '/' path).filter fun name => !name.isEmpty)

/-- The text of the file at a path. -/
def readText (tree : FileTree) (path : String) : Except FileFault String := do
  match Text.Utf8.decode? (← tree.readFile path) with
  | some text => return text
  | none => throw .notText

end FileTree

end TopicBus
