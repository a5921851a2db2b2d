/-
  Proofs/Projection/Sections.lean --- the sections that blocks are read as.

  The interface definitions of a class have one section, its interface, and its
  native text has one, its wrapper; plain data has none.  What is read inside a
  section is what is read from the lines of the fields, one by one.
-/
import TypeProjection.Proofs.Projection.Listing

set_option autoImplicit false

namespace TypeProjection.Projection

open Layout

variable {config : Config} {s : StructType} {fields : List TypedField}

/-! ## Lines outside sections -/

/-- A line that begins otherwise than a pattern does not match it. -/
theorem not_isPrefix_of_head {c : Char} {lead line : String} (hlead : lead.toList.head? = some c)
    (hline : line.toList.head? ≠ some c) : ¬ lead.toList <+: line.toList := by
  intro hex
  obtain ⟨rest, hrest⟩ := hex
  rw [← hrest, List.head?_append, hlead] at hline
  exact hline rfl

theorem interfaceHead?_eq_none {line : String} (h : line.toList.head? ≠ some 'i') :
    interfaceHead? line = none :=
  inside?_eq_none_of_lead _ (not_isPrefix_of_head (by decide) h)

/-- The lines between the head of an interface and its closing brace. -/
def interfaceBody (fields : List TypedField) : List String :=
  "\x7b" :: linesAt 1 (List.intercalate [.blank] (fields.map propertyLines))

theorem linesAt_interfaceStrokes (s : StructType) (guid : String) (fields : List TypedField) :
    linesAt 0 (interfaceStrokes s guid fields) =
      ["interface " ++ s.interfaceName ++ ";", "runtimeclass " ++ s.projectedName ++ ";", "",
        interfaceAttributes s guid] ++
      ("interface " ++ s.interfaceName ++ " : IInspectable") ::
        (interfaceBody fields ++ "\x7d" ::
          ["", "[" ++ versionMark ++ ", activatable(VERSION)]",
            "runtimeclass " ++ s.projectedName, "\x7b",
            "    [default] interface " ++ s.interfaceName ++ ";", "\x7d", ""]) := by
  have hproperties := level_properties fields
  have hdefault : lineAt 1 ("[default] interface " ++ s.interfaceName ++ ";") =
      "    [default] interface " ++ s.interfaceName ++ ";" := by
    rw [lineAt_of_ne (by simp), margin_one, ← String.append_assoc, ← String.append_assoc]
    rfl
  simp only [interfaceStrokes, linesAt_append, depthAfter_append, linesAt, depthAfter,
    depthAfter_of_level (hproperties.braced _), linesAt_braced hproperties,
    linesAt_braced (.line _), lineAt_zero, hdefault, interfaceBody]
  simp

theorem linesAt_valueStrokes (s : StructType) (fields : List TypedField) :
    linesAt 0 (valueStrokes s fields) =
      ["[" ++ versionMark ++ "]", "typedef struct " ++ s.projectedName, "\x7b"] ++
        linesAt 1 (fields.map valueFieldLine) ++ ["\x7d " ++ s.projectedName ++ ";", ""] := by
  have hfields : Level (fields.map valueFieldLine) := .map fun _ _ => .line _
  simp only [valueStrokes, linesAt_append, linesAt, depthAfter, linesAt_braced hfields,
    lineAt_zero]
  simp

/-- The public part of a wrapper. -/
def wrapperShown (config : Config) (s : StructType) (fields : List TypedField) : List String :=
  "\x7b" :: linesAt 1 (identityStrokes config s) ++
    "public:" :: linesAt 1 (fields.flatMap accessorStrokes)

/-- The lines between the head of a wrapper and its closing brace. -/
def wrapperBody (config : Config) (s : StructType) (fields : List TypedField) : List String :=
  wrapperShown config s fields ++ "private:" :: linesAt 1 (fields.map memberLine)

theorem linesAt_wrapperStrokes (config : Config) (s : StructType) (fields : List TypedField) :
    linesAt 0 (wrapperStrokes config s fields) =
      wrapperHead.write s.projectedName s.interfaceName ::
        (wrapperBody config s fields ++ ["\x7d;", ""]) := by
  have hidentity := level_identityStrokes config s
  have haccessors := level_accessors fields
  have hmembers := level_members fields
  have hhead : "class " ++ s.projectedName ++ " : public Microsoft::WRL::RuntimeClass<" ++
      s.interfaceName ++ ">" = wrapperHead.write s.projectedName s.interfaceName := by
    simp [wrapperHead, Pattern.write, ← String.toList_inj]
  have hnested : nested [.line ("InspectableClass(L\"" ++ config.runtimeClassName s.projectedName ++
      "\", BaseTrust);"), .blank] = nested (identityStrokes config s) := rfl
  simp only [wrapperStrokes, hhead, hnested, linesAt_append, depthAfter_append, linesAt,
    depthAfter, depthAfter_of_level hidentity.nested, depthAfter_of_level haccessors.nested,
    depthAfter_of_level hmembers.nested, linesAt_nested hidentity, linesAt_nested haccessors,
    linesAt_nested hmembers, lineAt_zero, wrapperBody, wrapperShown]
  simp

end TypeProjection.Projection
