import SpringScaffold.Java.Output
import SpringScaffold.Proofs.Grouping
import SpringScaffold.Proofs.StageRepeat

/-! The controller and the service of a group have one method each for every operation of the group,
in the order of the operations, and the two methods fit together: the controller's calls the
service's by its name, with its parameters, and answers with what it returns
(`Spec.postProcess_isDelegated`). -/

namespace SpringScaffold

open Java

namespace Operation

/-- A status text of three digits that begins with a two. -/
def IsSuccessText (code : String) : Prop :=
  ∃ a b : Char, code.toList = ['2', a, b] ∧ a.isDigit = true ∧ b.isDigit = true

theorem isDigit_of_isAsciiDigit {c : Char} (h : Text.isAsciiDigit c = true) : c.isDigit = true := by
  simpa [Text.isAsciiDigit, Char.isDigit, Char.le_def] using h

theorem isSuccessText_of_isSuccess {code : String} (h : isSuccess code = true) :
    IsSuccessText code := by
  unfold isSuccess at h
  split at h
  · next a b c heq =>
    simp only [Bool.and_eq_true, beq_iff_eq] at h
    obtain ⟨⟨rfl, hb⟩, hc⟩ := h
    exact ⟨b, c, heq, isDigit_of_isAsciiDigit hb, isDigit_of_isAsciiDigit hc⟩
  · cases h

theorem isSuccessText_successCode (o : Operation) : IsSuccessText o.successCode := by
  apply isSuccessText_of_isSuccess
  unfold successCode
  cases h : (o.responses.map (·.code)).find? isSuccess with
  | none => decide
  | some code => exact List.find?_some h

/-- The methods that a controller and a service have for an operation, and the lines that they are
printed as. -/
structure IsDelegated (o : Operation) (h : Handler) (m : ServiceMethod) : Prop where
  handlerName : h.name = o.name.camel
  methodName : m.name = o.name.camel
  handlerParameters : h.parameters.map (fun p => (p.type, p.name)) =
    o.parameters.map fun p => (p.dataType, p.name.camel)
  methodParameters : m.parameters = o.parameters.map fun p => (p.dataType, p.name.camel)
  arguments : h.arguments = m.parameters.map (·.2)
  status : IsSuccessText h.status
  methodLines : m.lines = ["",
    "    " ++ m.type ++ " " ++ m.name
      ++ ("(" ++ ", ".intercalate (m.parameters.map fun (type, name) => type ++ " " ++ name) ++ ")")
      ++ ";"]
  handlerLines : h.lines = [""] ++ commentUnlessEmpty "    " h.commentLines
    ++ onlyIf h.deprecated ["    @Deprecated"]
    ++ ["    " ++ h.mappingAnnotations,
        "    public ResponseEntity<" ++ h.entityType ++ "> " ++ h.name
          ++ ("(" ++ ", ".intercalate
                (h.parameters.map fun p => p.annotations ++ " " ++ p.type ++ " " ++ p.name) ++ ")")
          ++ " \x7b"]
    ++ h.answerLines ++ ["    \x7d"]
  /-- Without a value the service returns nothing and the answer is built without a body. -/
  void : o.isVoid = true → m.type = "void" ∧ h.answerLines =
    ["        " ++ ("service." ++ m.name ++ ("(" ++ ", ".intercalate h.arguments ++ ")")) ++ ";",
      "        return ResponseEntity.status(" ++ h.status ++ ").build();"]
  /-- Otherwise the answer's body is what the service returns, of the type that it returns. -/
  value : o.isVoid = false → m.type = h.entityType ∧ h.answerLines =
    ["        return ResponseEntity.status(" ++ h.status ++ ").body("
      ++ ("service." ++ m.name ++ ("(" ++ ", ".intercalate h.arguments ++ ")")) ++ ");"]

theorem isDelegated_of (validation : Bool) (o : Operation) :
    o.IsDelegated (Handler.of validation o) (ServiceMethod.of o) where
  handlerName := by rw [Handler.of]
  methodName := by rw [ServiceMethod.of]
  handlerParameters := by
    simp only [Handler.of, List.map_map, Function.comp_def, MethodParameter.of]
  methodParameters := rfl
  arguments := by
    simp only [Handler.of, ServiceMethod.of, List.map_map, Function.comp_def]
  status := o.isSuccessText_successCode
  methodLines := rfl
  handlerLines := rfl
  void := by
    intro hvoid
    have htype : (ServiceMethod.of o).type = "void" := if_pos hvoid
    have hanswer : (Handler.of validation o).answer = .build := if_pos hvoid
    rw [Handler.answerLines, hanswer]
    exact ⟨htype, rfl⟩
  value := by
    intro hvoid
    have hvalue : ¬ o.isVoid = true := by simp [hvoid]
    have htype : (ServiceMethod.of o).type = o.entityType := if_neg hvalue
    have hanswer : (Handler.of validation o).answer = .body := if_neg hvalue
    rw [Handler.answerLines, hanswer]
    exact ⟨htype, rfl⟩

end Operation

namespace Spec

theorem postProcess_isPartition (o : Options) (mode : GroupBy) (s : Spec) :
    s.IsPartition mode (s.postProcess o mode).groups := by
  rw [postProcess_eq]
  simp only
  rw [groupOperations_eq]
  exact isPartition_closedGroups.describe

theorem length_operations_postProcess (o : Options) (mode : GroupBy) (s : Spec) :
    (s.postProcess o mode).operations.length = s.operations.length := by
  rw [postProcess_eq, List.length_map]

/-- The operations of a group stand where the group says. -/
theorem map_some_operationsOf {s : Spec} {g : Group}
    (h : ∀ i ∈ g.operations, i < s.operations.length) :
    (s.operationsOf g).map some = g.operations.map (s.operations[·]?) := by
  unfold operationsOf
  revert h
  induction g.operations with
  | nil => intro _; rfl
  | cons i rest ih =>
    intro h
    have hi := List.getElem?_eq_getElem (h i List.mem_cons_self)
    rw [List.filterMap_cons_some hi, List.map_cons, List.map_cons, hi,
      ih fun j hj => h j (List.mem_cons_of_mem _ hj)]

theorem exists_render_handlers (k : Controller) : ∃ opening, ∀ handlers : List Handler,
    Controller.render { k with handlers := handlers } =
      joinLines (opening ++ handlers.flatMap Handler.lines ++ ["\x7d"]) := by
  constructor
  intro handlers
  -- once the fields are read off, the opening no longer mentions the handlers
  dsimp only [Controller.render, Controller.lines, Controller.importLines]

theorem exists_render_methods (k : Service) : ∃ opening, ∀ methods : List ServiceMethod,
    Service.render { k with methods := methods } =
      joinLines (opening ++ methods.flatMap ServiceMethod.lines ++ ["\x7d"]) := by
  constructor
  intro methods
  dsimp only [Service.render, Service.lines]

/-- Controllers and services cover the operations and fit together. -/
structure IsDelegated (s : Spec) (c : Config) : Prop where
  covering : (s.groups.flatMap (·.operations)).Perm (List.range s.operations.length)
  increasing : ∀ g ∈ s.groups, g.operations.Pairwise (· < ·)
  distinct : (s.groups.map (·.name.pascal)).Nodup
  controllers : ((s.generate c).filter (·.role = .controller)).map (·.content) =
    s.groups.map fun g => (s.controller c g).render
  services : ((s.generate c).filter (·.role = .service)).map (·.content) =
    s.groups.map fun g => (s.service c g).render
  /-- The methods of a controller's text are its handlers: what stands around them is the same
  whatever they are. -/
  controllerText : ∀ g ∈ s.groups, ∃ opening, ∀ handlers : List Handler,
    Controller.render { s.controller c g with handlers := handlers } =
      joinLines (opening ++ handlers.flatMap Handler.lines ++ ["\x7d"])
  serviceText : ∀ g ∈ s.groups, ∃ opening, ∀ methods : List ServiceMethod,
    Service.render { s.service c g with methods := methods } =
      joinLines (opening ++ methods.flatMap ServiceMethod.lines ++ ["\x7d"])
  handlerCount : ∀ g ∈ s.groups, (s.controller c g).handlers.length = g.operations.length
  methodCount : ∀ g ∈ s.groups, (s.service c g).methods.length = g.operations.length
  delegated : ∀ g ∈ s.groups, ∀ {k i : Nat}, g.operations[k]? = some i → ∃ op h m,
    s.operations[i]? = some op ∧ (s.controller c g).handlers[k]? = some h ∧
      (s.service c g).methods[k]? = some m ∧ op.IsDelegated h m

theorem contents_of_role (s : Spec) (c : Config) (r : Role) (hr : r ≠ .model) :
    ((s.generate c).filter (·.role = r)).map (·.content) =
      s.groups.flatMap fun g => ((s.groupFiles c g).filter (·.role = r)).map (·.content) := by
  have hmodels : (s.models.map (modelFile c)).filter (·.role = r) = [] := by
    rw [List.filter_eq_nil_iff]
    intro f hf
    obtain ⟨m, -, rfl⟩ := List.mem_map.1 hf
    simpa [modelFile, eq_comm] using hr
  rw [generate, List.filter_append, hmodels, List.append_nil, List.filter_flatMap,
    List.map_flatMap]

theorem isDelegated_of_mem_groups {s : Spec} {g : Group} (c : Config)
    (h : ∀ i ∈ g.operations, i < s.operations.length) {k i : Nat} (hk : g.operations[k]? = some i) :
    ∃ op h m, s.operations[i]? = some op ∧ (s.controller c g).handlers[k]? = some h ∧
      (s.service c g).methods[k]? = some m ∧ op.IsDelegated h m := by
  have hat : ((s.operationsOf g)[k]?).map some = some (s.operations[i]?) := by
    rw [← List.getElem?_map, map_some_operationsOf h, List.getElem?_map, hk]
    rfl
  obtain ⟨op, hop, hi⟩ := Option.map_eq_some_iff.1 hat
  refine ⟨op, Handler.of c.options.beanValidation op, ServiceMethod.of op, hi.symm, ?_, ?_,
    op.isDelegated_of _⟩
  · simp [controller, List.getElem?_map, hop]
  · simp [service, List.getElem?_map, hop]

/-- Whatever the description and the settings are, the rendered controllers and services have one
method each for every operation, and the two fit together. -/
theorem postProcess_isDelegated (o : Options) (mode : GroupBy) (s : Spec) (c : Config) :
    (s.postProcess o mode).IsDelegated c := by
  have hpart := s.postProcess_isPartition o mode
  have hlength := s.length_operations_postProcess o mode
  have hrange : ∀ g ∈ (s.postProcess o mode).groups, ∀ i ∈ g.operations,
      i < (s.postProcess o mode).operations.length := by
    intro g hg i hi
    rw [hlength, ← List.mem_range]
    exact hpart.covering.mem_iff.1 (List.mem_flatMap.2 ⟨g, hg, hi⟩)
  have hcount : ∀ g ∈ (s.postProcess o mode).groups,
      ((s.postProcess o mode).operationsOf g).length = g.operations.length := by
    intro g hg
    simpa using congrArg List.length (map_some_operationsOf (hrange g hg))
  refine ⟨?_, hpart.increasing, hpart.distinct, ?_, ?_, ?_, ?_, ?_, ?_, ?_⟩
  · rw [hlength]
    exact hpart.covering
  · rw [contents_of_role _ _ _ (by decide)]
    simp [groupFiles, List.map_eq_flatMap]
  · rw [contents_of_role _ _ _ (by decide)]
    simp [groupFiles, List.map_eq_flatMap]
  · intro g _
    exact exists_render_handlers _
  · intro g _
    exact exists_render_methods _
  · intro g hg
    simpa [controller] using hcount g hg
  · intro g hg
    simpa [service] using hcount g hg
  · intro g hg k i hk
    exact isDelegated_of_mem_groups c (hrange g hg) hk

end Spec

end SpringScaffold
