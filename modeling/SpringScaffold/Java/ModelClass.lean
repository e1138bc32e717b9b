import SpringScaffold.Config
import SpringScaffold.Java.File
import SpringScaffold.Java.Imports
import SpringScaffold.Java.Method

/-! Classes and enums for models. -/

namespace SpringScaffold.Java

structure Field where
  name : String
  accessor : String
  documentName : String
  type : String
  description : Option String
  sample : Option String
  temporal : Option String
  notNull : Bool
  deriving DecidableEq, Repr

structure ModelClass where
  package : String
  name : String
  description : Option String
  imports : List String
  validation : Bool
  lombok : Bool
  fields : List Field
  deriving DecidableEq, Repr

/-- An enum constant and the text that it stands for. -/
structure Constant where
  name : String
  value : String
  deriving DecidableEq, Repr

structure EnumClass where
  package : String
  name : String
  description : Option String
  imports : List String
  constants : List Constant
  deriving DecidableEq, Repr

/-- A description of any number of lines as a comment. -/
def descriptionComment (description : Option String) : List String :=
  ((given description).map fun d => comment "" (pieces "\n" d)).getD []

namespace Field

def of (validation : Bool) (p : Property) : Field where
  name := p.name.camel
  accessor := p.name.pascal
  documentName := p.name.written
  type := p.dataType
  description := p.description
  sample := p.sample
  temporal := temporalAnnotations p.isDateTime p.isDate
  notNull := validation && p.required

def commentLines (f : Field) : List String :=
  ((given f.description).map oneLine).toList
    ++ ((given f.sample).map fun s => "Example: " ++ removeQuotes s).toList

def lines (f : Field) : List String :=
  [""] ++ commentUnlessEmpty "    " f.commentLines
    ++ ["    @JsonProperty(" ++ literal f.documentName ++ ")"]
    ++ (f.temporal.map ("    " ++ ·)).toList
    ++ onlyIf f.notNull ["    @NotNull"]
    ++ ["    private " ++ f.type ++ " " ++ f.name ++ ";"]

def accessorLines (f : Field) : List String :=
  ["",
    "    public " ++ f.type ++ " get" ++ f.accessor ++ "() \x7b",
    "        return " ++ f.name ++ ";",
    "    \x7d",
    "",
    "    public void set" ++ f.accessor ++ "(" ++ f.type ++ " " ++ f.name ++ ") \x7b",
    "        this." ++ f.name ++ " = " ++ f.name ++ ";",
    "    \x7d"]

end Field

namespace ModelClass

def lombokNames : List String := ["AllArgsConstructor", "Builder", "Data", "NoArgsConstructor"]

def importLines (m : ModelClass) : List String :=
  m.imports.map importLine
    ++ onlyIf m.validation [importLine "javax.validation.constraints.NotNull"]
    ++ onlyIf m.lombok (lombokNames.map fun n => importLine ("lombok." ++ n))

def lines (m : ModelClass) : List String :=
  ["package " ++ m.package ++ ";", ""] ++ m.importLines ++ [""]
    ++ descriptionComment m.description
    ++ onlyIf m.lombok ["@Data", "@Builder", "@NoArgsConstructor", "@AllArgsConstructor"]
    ++ ["public class " ++ m.name ++ " \x7b"]
    ++ m.fields.flatMap Field.lines
    ++ onlyIf (!m.lombok) (m.fields.flatMap Field.accessorLines) ++ ["\x7d"]

def render (m : ModelClass) : String := joinLines m.lines

end ModelClass

namespace EnumClass

def creator : String := "com.fasterxml.jackson.annotation.JsonCreator"
def value : String := "com.fasterxml.jackson.annotation.JsonValue"

def importLines (e : EnumClass) : List String :=
  e.imports.map importLine
    ++ onlyIf (!e.imports.contains creator) [importLine creator]
    ++ [importLine value]

/-- The constants with the sign after each: a comma, after the last one a semicolon. -/
def constantLines : List Constant → List String
  | [] => []
  | c :: rest =>
    ("    " ++ c.name ++ "(" ++ literal c.value ++ ")" ++ (if rest.isEmpty then ";" else ","))
      :: constantLines rest

def lines (e : EnumClass) : List String :=
  ["package " ++ e.package ++ ";", ""] ++ e.importLines ++ [""]
    ++ descriptionComment e.description
    ++ ["public enum " ++ e.name ++ " \x7b"]
    ++ constantLines e.constants
    ++ ["",
        "    private final String value;",
        "",
        "    " ++ e.name ++ "(String value) \x7b",
        "        this.value = value;",
        "    \x7d",
        "",
        "    @JsonValue",
        "    public String getValue() \x7b",
        "        return value;",
        "    \x7d",
        "",
        "    @Override",
        "    public String toString() \x7b",
        "        return String.valueOf(value);",
        "    \x7d",
        "",
        "    @JsonCreator",
        "    public static " ++ e.name ++ " fromValue(String value) \x7b",
        "        for (" ++ e.name ++ " b : " ++ e.name ++ ".values()) \x7b",
        "            if (b.value.equals(value)) \x7b",
        "                return b;",
        "            \x7d",
        "        \x7d",
        "        throw new IllegalArgumentException(\"Unexpected value '\" + value + \"'\");",
        "    \x7d",
        "\x7d"]

def render (e : EnumClass) : String := joinLines e.lines

end EnumClass

end SpringScaffold.Java

namespace SpringScaffold

open Java in
def Model.toClass (c : Config) (m : Model) : ModelClass where
  package := c.modelPackage
  name := m.className
  description := m.description
  imports := collectImports c.mapping m.imports (m.properties.map (·.dataType))
  validation := c.options.beanValidation
  lombok := c.options.lombok
  fields := m.properties.map (Field.of c.options.beanValidation)

open Java in
def Model.toEnum (c : Config) (m : Model) : EnumClass where
  package := c.modelPackage
  name := m.className
  description := m.description
  imports := c.mapping.qualify m.imports
  constants := m.enumValues.map fun v => ⟨(Name.mk v).shouty, v⟩

def Model.render (c : Config) (m : Model) : String :=
  if m.isEnum then (m.toEnum c).render else (m.toClass c).render

end SpringScaffold
