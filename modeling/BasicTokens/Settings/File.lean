import BasicTokens.Settings.Format

/-!
# Settings/File — settings kept in a file

What is found at a path decides how reading it fails: nothing that can be read, bytes that are no
text, or a text that holds no settings.
-/

namespace BasicTokens

namespace Settings

/-- What is found at a path. -/
inductive FileContent where
  /-- Nothing that can be read, for the reason that the system gives. -/
  | unreadable (reason : Text)
  | bytes (content : ByteArray)

/-- The settings in what is found at a path. -/
def ofFile (F : Format) (path : Text) : FileContent → Except (LoadError F) Settings
  | .unreadable reason => .error (.unreadable path reason)
  | .bytes content =>
    match String.fromUTF8? content with
    | none => .error (.unreadable path "stream did not contain valid UTF-8".toList)
    | some source => ofDocument F source.toList

end Settings

end BasicTokens
