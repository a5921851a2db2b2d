/-
  Command/Help.lean --- the text that explains the command line.
-/

set_option autoImplicit false

namespace TypeProjection.Command

/-- The lines that explain the command line. -/
def helpLines : List String :=
  ["Generate IDL declarations and native wrappers from a type schema",
    "",
    "Usage: idlgen [OPTIONS] --schema <SCHEMA>",
    "",
    "Options:",
    "      --schema <SCHEMA>              Type schema XML file",
    "      --overrides <OVERRIDES>        Overrides XML file",
    "      --out-dir <OUT_DIR>            Output directory",
    "      --stem <STEM>                  File name stem of the generated .idl and .h files " ++
      "[default: Structs]",
    "      --prefix <PREFIX>              Standard prefix of projected type names " ++
      "[default: Canvas]",
    "      --subnamespace <SUBNAMESPACE>  Namespace segment of runtime class identities " ++
      "[default: Graphics.Canvas]",
    "      --dry-run                      Print the generated text instead of writing files",
    "  -h, --help                         Print help"]

/-- The text that explains the command line. -/
def helpText : String :=
  String.join (helpLines.map (· ++ "\n"))

end TypeProjection.Command
