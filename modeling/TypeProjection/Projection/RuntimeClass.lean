/-
  Projection/RuntimeClass.lean --- structs that become classes.

  Such a struct becomes an interface with a pair of accessors for every field
  and a class that has this interface, both in the interface definitions, and a
  wrapper that implements the class on the native side.
-/
import TypeProjection.Projection.Block
import TypeProjection.Projection.Config
import TypeProjection.Projection.Error

set_option autoImplicit false

namespace TypeProjection.Projection

open Layout (Stroke braced nested)

/-! ## Interface definitions -/

/-- The two lines that define the property of a field. -/
def propertyLines (f : TypedField) : List Stroke :=
  let typeName := f.type.qualifier ++ f.type.parameterName
  let property := f.field.propertyName
  [.line ("[propget] HRESULT " ++ property ++ "([out, retval] " ++ typeName ++ "* value);"),
    .line ("[propput] HRESULT " ++ property ++ "([in] " ++ typeName ++ " value);")]

/-- The attributes of the interface. -/
def interfaceAttributes (s : StructType) (guid : String) : String :=
  let identity := String.ofList (Casing.uppercase guid.toList)
  "[uuid(" ++ identity ++ "), " ++ versionMark ++ ", exclusiveto(" ++ s.projectedName ++ ")]"

/-- The strokes on the interface definitions: the names in advance, the
interface, and the class. -/
def interfaceStrokes (s : StructType) (guid : String) (fields : List TypedField) :
    List Stroke :=
  [.line ("interface " ++ s.interfaceName ++ ";"),
    .line ("runtimeclass " ++ s.projectedName ++ ";"), .blank] ++
  [.line (interfaceAttributes s guid),
    .line ("interface " ++ s.interfaceName ++ " : IInspectable")] ++
  braced (List.intercalate [.blank] (fields.map propertyLines)) "\x7d" ++ [.blank] ++
  [.line ("[" ++ versionMark ++ ", activatable(VERSION)]"),
    .line ("runtimeclass " ++ s.projectedName)] ++
  braced [.line ("[default] interface " ++ s.interfaceName ++ ";")] "\x7d" ++ [.blank]

/-! ## Native wrappers -/

/-- How the value of a member is handed out: with a count of its own if it is a
reference, as it is otherwise. -/
def handOutLine (f : TypedField) : Stroke :=
  if f.type.isReference then .line (f.field.memberName ++ ".CopyTo(value);")
  else .line ("*value = " ++ f.field.memberName ++ f.type.accessorSuffix ++ ";")

/-- The accessor that reads a field. -/
def getterStrokes (f : TypedField) : List Stroke :=
  .line ("IFACEMETHOD(get_" ++ f.field.propertyName ++ ")(_Out_ " ++ f.type.parameterName ++
      "* value) override") ::
  braced
    (.line "if (!value)" :: nested [.line "return E_INVALIDARG;", .blank] ++
      [handOutLine f, .line "return S_OK;"]) "\x7d"

/-- The accessor that writes a field. -/
def setterStrokes (f : TypedField) : List Stroke :=
  .line ("IFACEMETHOD(put_" ++ f.field.propertyName ++ ")(" ++ f.type.parameterName ++
      " value) override") ::
  braced [.line (f.field.memberName ++ " = value;"), .line "return S_OK;"] "\x7d"

/-- Both accessors of a field, each followed by an empty line. -/
def accessorStrokes (f : TypedField) : List Stroke :=
  getterStrokes f ++ [.blank] ++ setterStrokes f ++ [.blank]

/-- The line of the member that stores a field. -/
def memberLine (f : TypedField) : Stroke :=
  .line (f.type.memberTypeName ++ " " ++ f.field.memberName ++ ";")

/-- The strokes on the native wrappers. -/
def wrapperStrokes (config : Config) (s : StructType) (fields : List TypedField) :
    List Stroke :=
  [.line ("class " ++ s.projectedName ++ " : public Microsoft::WRL::RuntimeClass<" ++
      s.interfaceName ++ ">"), .line "\x7b"] ++
  nested
    [.line ("InspectableClass(L\"" ++ config.runtimeClassName s.projectedName ++
        "\", BaseTrust);"), .blank] ++
  .line "public:" :: nested (fields.flatMap accessorStrokes) ++
  .line "private:" :: nested (fields.map memberLine) ++
  [.line "\x7d;", .blank]

/-! ## Blocks -/

/-- The block of a struct that becomes a class.  The identity of the interface is
asked for before the types of the fields. -/
def classBlock (r : Registry) (config : Config) (s : StructType) :
    Except GenerateError Block :=
  match s.guid with
  | none => .error (.missingGuid s.qualifiedName)
  | some guid =>
    match typedFields r s with
    | .error e => .error (.schema e)
    | .ok fields => .ok ⟨interfaceStrokes s guid fields, wrapperStrokes config s fields⟩

end TypeProjection.Projection
