import PromptScript.Files.Tree
import PromptScript.Text.Base64
import PromptScript.Conversation.Message
import PromptScript.RunError

/-!
# Content from files

Texts and images that a script takes from files, as seen from a base directory.
-/

namespace PromptScript.Content

/-- The letter in lower case, where it is one of the twenty-six. -/
def lowerAscii (text : String) : String :=
  String.ofList (text.toList.map Char.toLower)

/-- The media type that a path's extension stands for. -/
def mediaType (path : String) : String :=
  match (Path.extension? path).map lowerAscii with
  | some "png" => "image/png"
  | some "jpg" | some "jpeg" => "image/jpeg"
  | some "gif" => "image/gif"
  | some "webp" => "image/webp"
  | some "pdf" => "application/pdf"
  | _ => "application/octet-stream"

/-- The text of a file. -/
def readText (tree : FileTree) (base path : String) : Except RunError String :=
  let full := Path.join base path
  (tree.readText full).mapError (.file ("cannot read '" ++ full ++ "': "))

/-- The image in a file. -/
def readImage (tree : FileTree) (base path : String) : Except RunError Image :=
  let full := Path.join base path
  match tree.read full with
  | .ok bytes => .ok ⟨path, mediaType path, Text.Base64.encode bytes⟩
  | .error cause => .error (.file ("cannot read image '" ++ full ++ "': ") cause)

end PromptScript.Content
