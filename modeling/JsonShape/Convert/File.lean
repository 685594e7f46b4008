import JsonShape.Convert
import JsonShape.File.Tree

/-!
# Converting files

A file is converted like the text in it, as it is read: with unified line ends.  A file that cannot
be read is the only failure that is not answered.
-/

namespace JsonShape

/-- **Converts the document in a file.**  `stack` is the room that is left for its text. -/
def convertFile (files : FileTree) (p : Path) (o : Options) (stack : Stack := .standard) :
    Except FileError Outcome := do
  let t ← files.readText p
  .ok (convert o t stack)

end JsonShape
