import Mathlib
import Spellspan.Proofs.RememberedDecisions
import Spellspan.Proofs.VisitedPaths

/-!
Properties of names that a file brings in. A candidate is left out as such a property exactly when
it is read from a name that some visited node of the file brings in, wherever that node stands.
-/
set_option autoImplicit false

namespace Spellspan.Tree

theorem Node.stringValue?_eq_some_iff {node : Node} {text : String} :
    node.stringValue? = some text ↔ node.value = some (.string text) := by
  unfold stringValue?
  split <;> simp_all

theorem Slot.asNode?_eq_some_iff {slot : Slot} {id : NodeId} : slot.asNode? = some id ↔
    slot = .node id := by
  cases slot <;> simp [asNode?]

theorem Node.child?_eq_some_iff {node : Node} {name : String} {id : NodeId} :
    node.child? name = some id ↔ node.slot? name = some (.node id) := by
  simp [child?, Option.bind_eq_some_iff, Slot.asNode?_eq_some_iff]

end Spellspan.Tree

namespace Spellspan.Select

open Scope (Decision identifierName? isRequireCall)
open Spellspan.Tree (ChildTable Node NodeId Path Slot Walker)

/-! ## Names that are brought in -/

def Identifies (tree : SyntaxTree) (id : NodeId) (name : String) : Prop :=
  ∃ node, tree.get? id = some node ∧ node.kind = "Identifier" ∧ node.value = some (.string name)

def LoadsModule (tree : SyntaxTree) (id : NodeId) : Prop :=
  ∃ node callee, tree.get? id = some node ∧ node.kind = "CallExpression" ∧
    node.slot? "callee" = some (.node callee) ∧
    Identifies tree callee "require"

/-- A pattern binds a name: as its identifier, or as the value of a property of an object
pattern. -/
inductive PatternBinds (tree : SyntaxTree) (name : String) (id : NodeId) : Prop where
  | identifier (identifies : Identifies tree id name)
  | property {pattern property : Node} {items : List Slot} {propertyId value : NodeId}
      (found : tree.get? id = some pattern) (object : pattern.kind = "ObjectPattern")
      (properties : pattern.slot? "properties" = some (.list items))
      (listed : .node propertyId ∈ items)
      (foundProperty : tree.get? propertyId = some property)
      (held : property.slot? "value" = some (.node value))
      (identifies : Identifies tree value name)

/-- A node brings a name in: a specifier of an import, or a declarator that is initialised by
loading a module. -/
inductive BringsIn (tree : SyntaxTree) (name : String) (id : NodeId) : Prop where
  | specifier {node : Node} {target : NodeId} (found : tree.get? id = some node)
      (kind : node.kind ∈ ["ImportSpecifier", "ImportDefaultSpecifier", "ImportNamespaceSpecifier"])
      (held : node.slot? "local" = some (.node target)) (identifies : Identifies tree target name)
  | declarator {node : Node} {init pattern : NodeId} (found : tree.get? id = some node)
      (kind : node.kind = "VariableDeclarator")
      (initialised : node.slot? "init" = some (.node init))
      (loads : LoadsModule tree init) (declares : node.slot? "id" = some (.node pattern))
      (binds : PatternBinds tree name pattern)

theorem identifierName?_eq_some_iff {tree : SyntaxTree} {id : NodeId} {name : String} :
    identifierName? tree id = some name ↔ Identifies tree id name := by
  simp only [identifierName?, Option.bind_eq_some_iff, Option.ite_none_right_eq_some,
    Node.stringValue?_eq_some_iff, Identifies]

theorem isRequireCall_iff {tree : SyntaxTree} {id : NodeId} : isRequireCall tree id = true ↔
    LoadsModule tree id := by
  unfold isRequireCall LoadsModule
  cases tree.get? id with
  | none => simp
  | some node =>
      simp [Option.bind_eq_some_iff, Node.child?_eq_some_iff, identifierName?_eq_some_iff]

theorem mem_patternNames {tree : SyntaxTree} {id : NodeId} {name : String} :
    name ∈ patternNames tree id ↔ PatternBinds tree name id := by
  constructor
  · intro listed
    unfold patternNames at listed
    split at listed
    · next bound identified =>
        obtain rfl := List.mem_singleton.mp listed
        exact .identifier (identifierName?_eq_some_iff.mp identified)
    · split at listed
      · next pattern found =>
          split at listed
          · next object =>
              split at listed
              · next items properties =>
                  obtain ⟨item, member, bound⟩ := List.mem_filterMap.mp listed
                  simp only [Option.bind_eq_bind, Option.bind_eq_some_iff, Slot.asNode?_eq_some_iff,
                    Node.child?_eq_some_iff, identifierName?_eq_some_iff] at bound
                  obtain ⟨propertyId, rfl, value, ⟨property, foundProperty, held⟩, identifies⟩ :=
                    bound
                  exact .property found object properties member foundProperty held identifies
              · cases listed
          · cases listed
      · cases listed
  · rintro (identifies | ⟨found, object, properties, member, foundProperty, held, identifies⟩)
    · simp [patternNames, identifierName?_eq_some_iff.mpr identifies]
    · -- the kind of a pattern rules out the first branch
      have unnamed : identifierName? tree id = none := by
        simp [identifierName?, found, object]
      simp only [patternNames, unnamed, found, object, if_true, properties]
      refine List.mem_filterMap.mpr ⟨_, member, ?_⟩
      simp only [Option.bind_eq_bind, Option.bind_eq_some_iff, Slot.asNode?_eq_some_iff,
        Node.child?_eq_some_iff, identifierName?_eq_some_iff]
      exact ⟨_, rfl, _, ⟨_, foundProperty, held⟩, identifies⟩

theorem mem_declaredNames {tree : SyntaxTree} {node : Node} {name : String} :
    name ∈ (if ((node.child? "init").map (isRequireCall tree)).getD false then
        ((node.child? "id").map (patternNames tree)).getD [] else []) ↔
      ∃ init pattern, node.slot? "init" = some (.node init) ∧ LoadsModule tree init ∧
        node.slot? "id" = some (.node pattern) ∧ PatternBinds tree name pattern := by
  simp only [← Node.child?_eq_some_iff, ← isRequireCall_iff, ← mem_patternNames]
  cases node.child? "init" with
  | none => simp
  | some init => cases node.child? "id" <;> simp

theorem mem_importedNames {tree : SyntaxTree} {id : NodeId} {name : String} :
    name ∈ importedNames tree id ↔ BringsIn tree name id := by
  constructor
  · intro listed
    unfold importedNames at listed
    split at listed
    · cases listed
    · next node found =>
        split at listed
        · next specifier =>
            simp only [Option.mem_toList, Option.bind_eq_some_iff, Node.child?_eq_some_iff,
              identifierName?_eq_some_iff] at listed
            obtain ⟨target, held, identifies⟩ := listed
            exact .specifier found (List.contains_iff_mem.mp specifier) held identifies
        · split at listed
          · next declarator =>
              obtain ⟨init, pattern, initialised, loads, declares, binds⟩ :=
                mem_declaredNames.mp listed
              exact .declarator found declarator initialised loads declares binds
          · cases listed
  · rintro (⟨found, kind, held, identifies⟩ | ⟨found, kind, initialised, loads, declares, binds⟩)
    · simp only [importedNames, found, List.contains_iff_mem.mpr kind, specifierKinds, if_true,
        Node.child?_eq_some_iff.mpr held, Option.bind_some,
          identifierName?_eq_some_iff.mpr identifies, Option.toList_some,
        List.mem_singleton]
    · have other : specifierKinds.contains "VariableDeclarator" = false := by decide
      simp only [importedNames, found, kind, other, if_true, Bool.false_eq_true, if_false]
      exact mem_declaredNames.mpr ⟨_, _, initialised, loads, declares, binds⟩

/-! ## Properties that are read -/

/-- A place is the property of a member access that is not computed and whose object is the
identifier of a name. -/
def ReadsProperty (walker : Walker) (path : Path) (name : String) : Prop :=
  ∃ parent access object, walker.ComesThrough path parent "property" ∧
    walker.tree.get? parent = some access ∧
    access.kind = "MemberExpression" ∧ access.slot? "computed" ≠ some (.scalar "true") ∧
    access.slot? "object" = some (.node object) ∧ Identifies walker.tree object name

theorem memberObject?_eq_some_iff {walker : Walker} {path : Path} (reached : walker.Reaches path)
    {name : String} :
    memberObject? walker.tree path = some name ↔ ReadsProperty walker path name := by
  constructor
  · intro read
    simp only [memberObject?, Option.bind_eq_bind, Option.bind_eq_some_iff] at read
    obtain ⟨key, keyed, read⟩ := read
    split at read
    · cases read
    · next property =>
        obtain ⟨frame, above, read⟩ := Option.bind_eq_some_iff.mp read
        obtain ⟨access, found, read⟩ := Option.bind_eq_some_iff.mp read
        split at read
        · cases read
        · next member =>
            split at read
            · cases read
            · next plain =>
                obtain ⟨object, held, identified⟩ := Option.bind_eq_some_iff.mp read
                refine ⟨frame.node, access, object,
                  reached.comesThrough_iff.mpr ⟨by rw [above]; rfl, ?_⟩, found, not_not.mp member,
                  plain, Node.child?_eq_some_iff.mp held,
                    identifierName?_eq_some_iff.mp identified⟩
                rw [keyed, Option.map_some, not_not.mp property]
  · rintro ⟨parent, access, object, comes, found, member, plain, held, identifies⟩
    obtain ⟨parented, keyed⟩ := reached.comesThrough_iff.mp comes
    obtain ⟨frame, above, rfl⟩ := Option.map_eq_some_iff.mp parented
    obtain ⟨key, reachedBy, property⟩ := Option.map_eq_some_iff.mp keyed
    simp only [memberObject?, Option.bind_eq_bind, reachedBy, above, found, Option.bind_some,
      property, member, ne_eq, not_true_eq_false, if_false]
    rw [Node.child?_eq_some_iff.mpr held, Option.bind_some,
      identifierName?_eq_some_iff.mpr identifies]

/-! ## Candidates that are left out -/

theorem mem_importedIn {table : ChildTable} {file : SourceFile} {name : String} :
    name ∈ importedIn table file ↔
      ∃ id ∈ (fileWalk table file).nodes, BringsIn file.tree name id := by
  simp [importedIn, List.mem_flatMap, mem_importedNames, Tree.Walk.nodes]

theorem Pending.importProperty_decide_iff {entry : Pending} {options : CheckOptions}
    {file : SourceFile} {imported : List String} {decision : Decision} :
    (entry.decide options file imported decision).importProperty = true ↔
      options.ignoreImportProperties = true ∧ ∃ name, entry.memberObject = some name ∧
        name ∈ imported := by
  cases member : entry.memberObject <;> simp [Pending.decide, member]

theorem Pending.range_decide_of_importProperty {entry : Pending} {options : CheckOptions}
    {file : SourceFile} {imported : List String} {decision : Decision}
    (property : (entry.decide options file imported decision).importProperty = true) :
    (entry.decide options file imported decision).range = none := by
  simp_all [Pending.decide]

/-- A file whose walk ends is selected from, and a candidate is left out as a property of a name
that is brought in exactly when such properties are left out, it is read from a name, and a visited
node brings this name in. It has no range then. -/
theorem importProperty_iff_read_of_broughtIn (options : CheckOptions) {table : ChildTable}
    {file : SourceFile} (finished : (fileWalk table file).cycle = none) :
    ∃ selection, select options table file = .ok selection ∧ ∀ candidate ∈ selection.candidates,
      (∃ path ∈ (fileWalk table file).visits, path.node = candidate.node) ∧
      (∀ path ∈ (fileWalk table file).visits, path.node = candidate.node →
        (candidate.importProperty = true ↔
          options.ignoreImportProperties = true ∧
            ∃ name, ReadsProperty (fileWalker table file) path name ∧
            ∃ id ∈ (fileWalk table file).nodes, BringsIn file.tree name id)) ∧
      (candidate.importProperty = true → candidate.range = none) := by
  have selected := select_eq options table file
  rw [finished] at selected
  refine ⟨_, selected, ?_⟩
  intro candidate listed
  obtain ⟨entry, pending, rfl⟩ := List.mem_map.mp listed
  obtain ⟨own, visited, node, kind, found, candidateKind, rfl⟩ := mem_pendingOf.mp pending
  obtain ⟨unrepeated, reached, _⟩ := (fileWalker table file).walk_sound
  refine ⟨⟨own, visited, rfl⟩, ?_, Pending.range_decide_of_importProperty⟩
  intro path onWalk same
  -- no node is visited twice, so a path to the node of the candidate is the one that it was
  -- found on
  obtain rfl : path = own := List.inj_on_of_nodup_map unrepeated onWalk visited same
  rw [Pending.importProperty_decide_iff]
  refine and_congr_right fun _ => exists_congr fun name => ?_
  exact and_congr (memberObject?_eq_some_iff (reached path visited)) mem_importedIn

/-- A property is read from a name before a declaration loads a module and takes the name from
it. -/
def readBefore : SourceFile where
  filename := "a.js"
  text := "x.p; const \x7b a: x \x7d = require('m');".toList
  tree := {
    nodes := #[
      { kind := "Program", span := ⟨0, 35⟩, slots := [("body", .list [.node 1, .node 5])] },
      { kind := "ExpressionStatement", span := ⟨0, 4⟩, slots := [("expression", .node 2)] },
      { kind := "MemberExpression", span := ⟨0, 3⟩,
        slots := [("object", .node 3), ("property", .node 4), ("computed", .scalar "false")] },
      { kind := "Identifier", span := ⟨0, 1⟩, value := some (.string "x") },
      { kind := "Identifier", span := ⟨2, 3⟩, value := some (.string "p") },
      { kind := "VariableDeclaration", span := ⟨5, 35⟩, slots :=
        [("declarations", .list [.node 6])] },
      { kind := "VariableDeclarator", span := ⟨11, 34⟩, slots :=
        [("id", .node 7), ("init", .node 11)] },
      { kind := "ObjectPattern", span := ⟨11, 19⟩, slots := [("properties", .list [.node 8])] },
      { kind := "Property", span := ⟨13, 17⟩, slots := [("key", .node 9), ("value", .node 10)] },
      { kind := "Identifier", span := ⟨13, 14⟩, value := some (.string "a") },
      { kind := "Identifier", span := ⟨16, 17⟩, value := some (.string "x") },
      { kind := "CallExpression", span := ⟨22, 34⟩, slots :=
        [("callee", .node 12), ("arguments", .list [.node 13])] },
      { kind := "Identifier", span := ⟨22, 29⟩, value := some (.string "require") },
      { kind := "Literal", span := ⟨30, 33⟩, value := some (.string "m"), raw := some "'m'" }]
    root := 0 }

def readPlace : Path :=
  (((fileWalker {} readBefore).rootPath.below ⟨"body", some 0⟩ 1).below ⟨"expression", none⟩
    2).below ⟨"property", none⟩ 4

theorem bringsIn_readBefore : BringsIn readBefore.tree "x" 6 :=
  .declarator rfl rfl rfl ⟨_, 12, rfl, rfl, rfl, _, rfl, rfl, rfl⟩ rfl
    (.property rfl rfl rfl List.mem_cons_self rfl rfl ⟨_, rfl, rfl, rfl⟩)

theorem importProperty_iff_read_of_broughtIn_readBefore :
    (fileWalk {} readBefore).cycle = none ∧
      ∃ selection candidate, select {} {} readBefore = .ok selection ∧
        candidate ∈ selection.candidates ∧ candidate.node = 4 ∧
        candidate.importProperty = true ∧ candidate.range = none := by
  have finished : (fileWalk {} readBefore).cycle = none := by cbv
  have nodes : (fileWalk {} readBefore).nodes =
    [0, 1, 2, 3, 4, 5, 6, 7, 8, 9, 10, 11, 12, 13] := by cbv
  have fifth : (fileWalk {} readBefore).visits[4]? = some readPlace := by cbv
  have visited := List.mem_of_getElem? fifth
  have reached := (fileWalker {} readBefore).walk_sound.2.1 readPlace visited
  have plain : some (Slot.scalar "false") ≠ some (.scalar "true") := by simp
  have reads : ReadsProperty (fileWalker {} readBefore) readPlace "x" :=
    ⟨2, _, 3, reached.comesThrough_iff.mpr ⟨rfl, rfl⟩, rfl, rfl, plain, rfl, _, rfl, rfl, rfl⟩
  obtain ⟨entry, pending, placed⟩ : ∃ entry ∈ pendingOf {} readBefore, entry.node = 4 :=
    ⟨_, mem_pendingOf.mpr ⟨readPlace, visited, _, .identifier, rfl, by decide, rfl⟩, rfl⟩
  obtain ⟨selection, selected, left⟩ := importProperty_iff_read_of_broughtIn {} finished
  have listed : entry.decide {} readBefore (importedIn {} readBefore)
    (keptDecision {} {} readBefore entry) ∈
      selection.candidates := by
    rw [candidates_of_select selected]
    exact List.mem_map_of_mem pending
  obtain ⟨_, flagged, silent⟩ := left _ listed
  have flag := (flagged readPlace visited placed.symm).mpr
    ⟨rfl, "x", reads, 6, by simp [nodes], bringsIn_readBefore⟩
  exact ⟨finished, selection, _, selected, listed, placed, flag, silent flag⟩

end Spellspan.Select
