import SpringScaffold.Java.Output
import SpringScaffold.Proofs.Casing
import SpringScaffold.Proofs.ContainerGrammar
import SpringScaffold.Proofs.MappedImports
import SpringScaffold.Proofs.OneLine
import SpringScaffold.Proofs.SplitOn

/-! All imports of a rendered file (`Spec.importsExactly`). The names that the mapping gives stand
among imports that only the options and the packages decide on. No other line is an import: comments
and annotations lead to the type that the file declares, and Java allows no imports behind it. -/

namespace SpringScaffold

open Text

namespace Java

/-! ### Lines before the type of a file -/

/-- The text is one line, of a comment or with an annotation. -/
structure IsPreambleLine (line : String) : Prop where
  unbroken : '\n' ∉ line.toList
  marked : ∃ mark ∈ ["/**", " * ", " */", "@"], mark.toList <+: line.toList

instance (line : String) : Decidable (IsPreambleLine line) :=
  decidable_of_iff
    ('\n' ∉ line.toList ∧ ∃ mark ∈ ["/**", " * ", " */", "@"], mark.toList <+: line.toList)
    ⟨fun h => ⟨h.1, h.2⟩, fun h => ⟨h.unbroken, h.marked⟩⟩

theorem isPreambleLine_onlyIf {condition : Bool} {ls : List String}
    (h : ∀ line ∈ ls, IsPreambleLine line) : ∀ line ∈ onlyIf condition ls, IsPreambleLine line := by
  cases condition with
  | false => exact List.forall_mem_nil _
  | true => exact h

theorem isPreambleLine_comment {ls : List String} (h : ∀ text ∈ ls, '\n' ∉ text.toList) :
    ∀ line ∈ comment "" ls, IsPreambleLine line := by
  have htext : ∀ text ∈ ls, IsPreambleLine ("" ++ " * " ++ text) := by
    intro text hmem
    refine ⟨?_, ?_⟩
    · simpa using h text hmem
    · simp
  have hlines : ∀ line ∈ ls.map ("" ++ " * " ++ ·), IsPreambleLine line :=
    List.forall_mem_map.2 htext
  exact List.forall_mem_append.2 ⟨List.forall_mem_append.2 ⟨by decide, hlines⟩, by decide⟩

theorem isPreambleLine_commentUnlessEmpty {ls : List String} (h : ∀ text ∈ ls, '\n' ∉ text.toList) :
    ∀ line ∈ commentUnlessEmpty "" ls, IsPreambleLine line :=
  isPreambleLine_onlyIf (isPreambleLine_comment h)

theorem lineFeed_notMem_oneLine (text : String) : '\n' ∉ (oneLine text).toList := by
  intro hmem
  have hstays := (isOneLineOf_oneLine text).spaced.staysInLine '\n' hmem
  revert hstays
  decide

theorem lineFeed_notMem_description (description : Option String) :
    ∀ text ∈ ((given description).map oneLine).toList, '\n' ∉ text.toList := by
  intro text hmem
  obtain ⟨d, -, rfl⟩ := Option.map_eq_some_iff.1 (Option.mem_toList.1 hmem)
  exact lineFeed_notMem_oneLine d

theorem lineFeed_notMem_pieces (s : String) : ∀ text ∈ pieces "\n" s, '\n' ∉ text.toList := by
  intro text hmem
  obtain ⟨p, hp, rfl⟩ := List.mem_map.1 hmem
  obtain ⟨-, before, after, hparts, -, -⟩ := isTrimOf_trim p
  have hpiece := (isSplit_splitOn '\n' s.toList).notMem p hp
  rw [String.toList_ofList]
  intro htrim
  exact hpiece (by rw [hparts]; simp [htrim])

theorem isPreambleLine_descriptionComment (description : Option String) :
    ∀ line ∈ descriptionComment description, IsPreambleLine line := by
  unfold descriptionComment
  cases given description with
  | none => exact List.forall_mem_nil _
  | some d => exact isPreambleLine_comment (lineFeed_notMem_pieces d)

/-! ### Import sections -/

/-- The text is a file of the package with the imports, each on a line of its own in this order, and
with no others: between them and the type that the file declares are comments and annotations. -/
def HasImports (text package : String) (imports : List String) : Prop :=
  ∃ preamble declaration body,
    text = String.intercalate "\n"
      (["package " ++ package ++ ";", ""] ++ imports.map (fun name => "import " ++ name ++ ";")
        ++ [""] ++ preamble ++ declaration :: body) ∧
    (∀ line ∈ preamble, IsPreambleLine line) ∧ "public ".toList <+: declaration.toList

theorem hasImports_joinLines (declaration : String) {package : String}
    {imports preamble ls : List String} (hpreamble : ∀ line ∈ preamble, IsPreambleLine line)
    (hdeclaration : "public ".toList <+: declaration.toList)
    (hls : ["package " ++ package ++ ";", ""] ++ imports.map importLine ++ [""] ++ preamble
      ++ [declaration] <+: ls) : HasImports (joinLines ls) package imports := by
  obtain ⟨body, rfl⟩ := hls
  exact ⟨preamble, declaration, body, by rw [List.append_assoc _ [declaration]]; rfl, hpreamble,
    hdeclaration⟩

theorem map_onlyIf (f : String → String) (condition : Bool) (ls : List String) :
    (onlyIf condition ls).map f = onlyIf condition (ls.map f) := by
  cases condition <;> rfl

theorem map_importLine_models (models : Option String) :
    (models.map (· ++ ".*")).toList.map importLine =
      (models.map fun package => importLine (package ++ ".*")).toList := by
  cases models <;> rfl

theorem Controller.hasImports (k : Controller) :
    HasImports k.render (k.apiPackage ++ ".controller")
      ((k.apiPackage ++ ".service." ++ k.name ++ "Service")
        :: (k.models.map (· ++ ".*")).toList ++ k.imports
        ++ onlyIf k.validation ["javax.validation.Valid"]
        ++ onlyIf k.lombok ["lombok.RequiredArgsConstructor"]
        ++ ["org.springframework.http.ResponseEntity",
            "org.springframework.web.bind.annotation.*"]) := by
  have hcomment := isPreambleLine_commentUnlessEmpty (lineFeed_notMem_description k.description)
  have hannotations :
      ∀ line ∈ ["@RestController"] ++ onlyIf k.lombok ["@RequiredArgsConstructor"],
        IsPreambleLine line :=
    List.forall_mem_append.2 ⟨by decide, isPreambleLine_onlyIf (by decide)⟩
  refine hasImports_joinLines ("public class " ++ k.name ++ "Controller \x7b")
    (List.forall_mem_append.2 ⟨hcomment, hannotations⟩) (by simp) ?_
  simp [lines, importLines, map_onlyIf, map_importLine_models, importLine, String.append_assoc]

theorem Service.hasImports (k : Service) (hname : '\n' ∉ k.name.toList) :
    HasImports k.render (k.apiPackage ++ ".service")
      ((k.models.map (· ++ ".*")).toList ++ k.imports) := by
  have htexts : ∀ text ∈ ["Business logic behind " ++ k.name ++ "Controller."]
      ++ ((given k.description).map oneLine).toList, '\n' ∉ text.toList := by
    refine List.forall_mem_append.2 ⟨?_, lineFeed_notMem_description k.description⟩
    simpa using hname
  refine hasImports_joinLines ("public interface " ++ k.name ++ "Service \x7b")
    (isPreambleLine_comment htexts) (by simp) ?_
  simp [lines, map_importLine_models, String.append_assoc]

theorem ModelClass.hasImports (k : ModelClass) :
    HasImports k.render k.package
      (k.imports ++ onlyIf k.validation ["javax.validation.constraints.NotNull"]
        ++ onlyIf k.lombok (lombokNames.map ("lombok." ++ ·))) := by
  have hannotations : ∀ line ∈
      onlyIf k.lombok ["@Data", "@Builder", "@NoArgsConstructor", "@AllArgsConstructor"],
      IsPreambleLine line := isPreambleLine_onlyIf (by decide)
  refine hasImports_joinLines ("public class " ++ k.name ++ " \x7b")
    (List.forall_mem_append.2 ⟨isPreambleLine_descriptionComment k.description, hannotations⟩)
    (by simp) ?_
  simp [lines, importLines, map_onlyIf, Function.comp_def, String.append_assoc]

end Java

namespace Spec

open Java

/-- All imports of the rendered files. Controllers import the names of what their operations ask for
and of what the types in their methods' heads mention, and services the latter. A container that was
split off a return type is imported all the same. -/
structure ImportsExactly (s : Spec) (c : Config) : Prop where
  group : ∀ g : Group,
    let operations := g.operations.filterMap (s.operations[·]?)
    let types := operations.flatMap fun o =>
      Signature.wrap (o.returnType.getD "Void") o.returnContainer :: o.parameters.map (·.dataType)
    let models := if s.models.isEmpty then [] else [c.modelPackage ++ ".*"]
    ∃ inController inService,
      IsImportList c (operations.flatMap (·.imports.ids)) types inController ∧
      IsImportList c [] types inService ∧
      HasImports (s.controller c g).render (c.apiPackage ++ ".controller")
        ((c.apiPackage ++ ".service." ++ g.name.pascal ++ "Service") :: models ++ inController
          ++ (if c.options.beanValidation then ["javax.validation.Valid"] else [])
          ++ (if c.options.lombok then ["lombok.RequiredArgsConstructor"] else [])
          ++ ["org.springframework.http.ResponseEntity",
              "org.springframework.web.bind.annotation.*"]) ∧
      HasImports (s.service c g).render (c.apiPackage ++ ".service") (models ++ inService) ∧
      ∀ o ∈ operations, ∀ id ∈ o.returnContainer.importId?,
        ∃ name, c.importName? id = some name ∧ name ∈ inController ∧ name ∈ inService
  model : ∀ m : Model, m.isEnum = false → ∃ names,
    IsImportList c m.imports.ids (m.properties.map (·.dataType)) names ∧
    HasImports (m.render c) c.modelPackage
      (names ++ (if c.options.beanValidation then ["javax.validation.constraints.NotNull"] else [])
        ++ if c.options.lombok then
          ["lombok.AllArgsConstructor", "lombok.Builder", "lombok.Data", "lombok.NoArgsConstructor"]
        else [])

theorem toList_modelPackage? (s : Spec) (c : Config) :
    ((s.modelPackage? c).map (· ++ ".*")).toList =
      if s.models.isEmpty then [] else [c.modelPackage ++ ".*"] := by
  rw [modelPackage?]
  split <;> rfl

theorem importsExactly (s : Spec) (c : Config) : s.ImportsExactly c where
  group g := by
    intro operations types models
    have hmodels : ((s.modelPackage? c).map (· ++ ".*")).toList = models :=
      s.toList_modelPackage? c
    have hinController : IsImportList c (operations.flatMap (·.imports.ids)) types
        (s.controller c g).imports := isImportList_collectImports c _ _
    have hinService : IsImportList c [] types (s.service c g).imports :=
      isImportList_collectImports c [] _
    have hcontroller := (s.controller c g).hasImports
    have hservice := (s.service c g).hasImports (g.name.notMem_pascal isSign_lineFeed)
    refine ⟨_, _, hinController, hinService, ?_, ?_, ?_⟩
    · rw [← hmodels]
      exact hcontroller
    · rw [← hmodels]
      exact hservice
    · intro o ho id hid
      obtain ⟨name, hname⟩ := Container.exists_importName hid c
      have hmentions : ∃ signature ∈ types, Signature.Mentions signature id :=
        ⟨_, List.mem_flatMap.2 ⟨o, ho, List.mem_cons_self⟩, Container.mentions_wrap hid _⟩
      exact ⟨name, hname, (hinController.mem_iff name).2 ⟨id, .inr hmentions, hname⟩,
        (hinService.mem_iff name).2 ⟨id, .inr hmentions, hname⟩⟩
  model m hm := by
    have hids : .ofList m.imports.ids = m.imports := ImportSet.ofList_ids m.imports
    have hnames : IsImportList c m.imports.ids (m.properties.map (·.dataType))
        (m.toClass c).imports := by
      have hlist := isImportList_collectImports c m.imports.ids (m.properties.map (·.dataType))
      rwa [hids] at hlist
    have hrender : m.render c = (m.toClass c).render := by
      rw [Model.render, hm, if_neg Bool.false_ne_true]
    refine ⟨_, hnames, ?_⟩
    rw [hrender]
    exact (m.toClass c).hasImports

end Spec

end SpringScaffold
