/-
  Markup/Fault.lean --- why a markup text is refused.

  A text is unreadable from some construct on (`LexicalFault`), or every
  construct can be read but they do not fit together (`FormFault`).
-/

set_option autoImplicit false

namespace TypeProjection.Markup

/-- A construct that cannot be read to its end. -/
inductive LexicalFault where
  /-- markup that starts like a declaration but is of no known kind -/
  | unknownMarkup
  /-- a tag without its closing bracket -/
  | openTag
  /-- a tag that ends inside a value in single quotes -/
  | openSingleQuote
  /-- a tag that ends inside a value in double quotes -/
  | openDoubleQuote
  /-- a comment without its end mark -/
  | openComment
  /-- a character data section without its end mark -/
  | openCharacterData
  /-- a document type declaration without its closing bracket -/
  | openDoctype
  /-- a document declaration without its end mark -/
  | openDeclaration
  /-- a processing instruction without its end mark -/
  | openInstruction
  deriving DecidableEq, Repr, Inhabited

/-- Constructs that can be read but do not fit together. -/
inductive FormFault where
  /-- a document type declaration that names no document type -/
  | unnamedDoctype
  /-- an end tag where no element is open -/
  | strayEnd (name : String)
  /-- an end tag that names another element than the innermost open one -/
  | crossedEnd (expected found : String)
  /-- a reference without its semicolon -/
  | openReference
  deriving DecidableEq, Repr, Inhabited

/-- Why a markup text is refused. -/
inductive Fault where
  /-- a construct cannot be read to its end -/
  | lexical (fault : LexicalFault)
  /-- constructs do not fit together -/
  | form (fault : FormFault)
  deriving DecidableEq, Repr, Inhabited

/-! ## Wording -/

/-- The end mark that is missed, as messages quote it. -/
private def missing (construct mark : String) : String :=
  construct ++ " not closed: `" ++ mark ++ "` not found before end of input"

/-- What is told about an unreadable construct. -/
def LexicalFault.message : LexicalFault → String
  | .unknownMarkup => "unknown or missed symbol in markup"
  | .openTag => missing "tag" ">"
  | .openSingleQuote => missing "attribute value" "'"
  | .openDoubleQuote => missing "attribute value" "\""
  | .openComment => missing "comment" "-->"
  | .openCharacterData => missing "CDATA" "]]>"
  | .openDoctype => missing "DOCTYPE" ">"
  | .openDeclaration => missing "XML declaration" "?>"
  | .openInstruction => missing "processing instruction" "?>"

/-- What is told about constructs that do not fit together. -/
def FormFault.message : FormFault → String
  | .unnamedDoctype => "`<!DOCTYPE>` declaration does not contain a name of a document type"
  | .strayEnd name => "close tag `</" ++ name ++ ">` does not match any open tag"
  | .crossedEnd expected found =>
    "expected `</" ++ expected ++ ">`, but `</" ++ found ++ ">` was found"
  | .openReference => missing "entity or character reference" ";"

/-- What is told about the fault itself. -/
def Fault.cause : Fault → String
  | .lexical fault => fault.message
  | .form fault => fault.message

/-- What is told about a refused text: the kind of the fault and the fault. -/
def Fault.message : Fault → String
  | .lexical fault => "syntax error: " ++ fault.message
  | .form fault => "ill-formed document: " ++ fault.message

end TypeProjection.Markup
