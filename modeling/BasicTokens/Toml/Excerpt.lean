import BasicTokens.Span

/-!
# Toml/Excerpt — a fault shown under the line it is in

    TOML parse error at line 1, column 28
      |
    1 | case_insensitive_remarks = 0
      |                            ^
    invalid type: integer `0`, expected a boolean

The carets cover the fault as far as it lies on the line, and at least one of them is shown.
-/

namespace BasicTokens

namespace Toml

/-- A fault in a source: where it is, the line it begins in marked with carets, and the reason. -/
def excerpt (source : Text) (span : Span) (reason : Text) : Text :=
  let number := Text.decimal span.line
  let content := source.lineAt (span.line - 1)
  let gutter : Text := List.replicate (number.length + 1) ' ' ++ ['|']
  let carets := max 1 (min span.length (content.byteLength - (span.column - 1)))
  "TOML parse error at line ".toList ++ number
    ++ ", column ".toList ++ Text.decimal span.column ++ ['\n']
    ++ gutter ++ ['\n']
    ++ number ++ " | ".toList ++ content ++ ['\n']
    ++ gutter ++ List.replicate span.column ' ' ++ List.replicate carets '^' ++ ['\n']
    ++ reason ++ ['\n']

end Toml

end BasicTokens
