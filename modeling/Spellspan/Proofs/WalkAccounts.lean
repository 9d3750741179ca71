import Mathlib
import Spellspan.Proofs.Lookup
import Spellspan.Proofs.VisitedPaths

/-!
What becomes of every reference and every misfit that a walk comes across. The references of the
nodes whose children are entered are, each once, those that the visits came by, those to nodes that
were visited before and those to nodes that do not exist. What is wrong with a node itself is
reported when it is visited, so these reports follow the visits.
-/
set_option autoImplicit false

namespace Spellspan.Tree

/-- A reference as problems tell it: by the node that holds it, the text of its key and the node
that it leads to. -/
structure Link where
  parent : NodeId
  slot : String
  child : NodeId
  deriving DecidableEq, Repr

def Path.arrival? (path : Path) : Option Link :=
  match path.parent?, path.key? with
  | some frame, some key => some ⟨frame.node, key.render, path.node⟩
  | _, _ => none

namespace TraversalError

def shared? : TraversalError → Option Link
  | .sharedNode node parent slot => some ⟨parent, slot, node⟩
  | _ => none

def dangling? : TraversalError → Option Link
  | .danglingChild node parent slot => some ⟨parent, slot, node⟩
  | _ => none

def isMalformed : TraversalError → Bool
  | .malformedSlot _ _ _ _ => true
  | _ => false

def isTooDeep : TraversalError → Bool
  | .tooDeep _ _ => true
  | _ => false

def isUnknown (kind : String) : TraversalError → Bool
  | .unknownKind _ other => other == kind
  | _ => false

end TraversalError

def passedOver (errors : List TraversalError) : List Link :=
  errors.filterMap TraversalError.shared? ++ errors.filterMap TraversalError.dangling?

/-- The references that are done with: those that visits came by, and those that were reported. -/
def Trail.settled (trail : Trail) : List Link :=
  trail.visits.filterMap Path.arrival? ++ passedOver trail.errors

/-- A kind with no entry, neither among those that were registered nor among the standard ones. -/
def ChildTable.Unlisted (table : ChildTable) (kind : String) : Prop :=
  kind ∉ table.registered.map Prod.fst ∧ kind ∉ standardSlots.map Prod.fst

instance (table : ChildTable) (kind : String) : Decidable (table.Unlisted kind) :=
  inferInstanceAs (Decidable (_ ∧ _))

theorem ChildTable.fallback_iff_unlisted {table : ChildTable} {kind : String} :
    (table.slotsFor kind).2 = .fallback ↔ table.Unlisted kind := by
  rw [Unlisted, ← lookup_eq_none_iff_notMem, ← lookup_eq_none_iff_notMem, slotsFor,
    slotsIn?_eq_lookup, slotsIn?_eq_lookup]
  cases table.registered.lookup kind with
  | some slots => simp
  | none => cases standardSlots.lookup kind <;> simp

namespace Walker

def opened (walker : Walker) (visits : List Path) : List (NodeId × Node) :=
  visits.filterMap fun path =>
    if path.depth < walker.maxDepth then (walker.tree.get? path.node).map (path.node, ·) else none

def linksOf (id : NodeId) (children : List (SlotKey × NodeId)) : List Link :=
  children.map fun child => ⟨id, child.1.render, child.2⟩

def owed (walker : Walker) (visits : List Path) : List Link :=
  (walker.opened visits).flatMap fun entry => linksOf entry.1 (walker.childrenOf entry.2)

def firstOf? (walker : Walker) (visits : List Path) (kind : String) : Option Path :=
  visits.find? fun path => (walker.tree.get? path.node).map Node.kind == some kind

section
variable {walker : Walker} {path : Path} {node : Node}

theorem opened_append (found : walker.tree.get? path.node = some node) (visits : List Path) :
    walker.opened (visits ++ [path]) =
      walker.opened visits ++ if path.depth < walker.maxDepth then [(path.node, node)] else [] := by
  by_cases above : path.depth < walker.maxDepth
  · simp [opened, above, found]
  · simp [opened, above]

theorem owed_append (found : walker.tree.get? path.node = some node) (visits : List Path) :
    walker.owed (visits ++ [path]) =
      walker.owed visits ++ if path.depth < walker.maxDepth then linksOf path.node
        (walker.childrenOf node) else [] := by
  rw [owed, opened_append found, List.flatMap_append]
  split <;> simp [owed]

theorem firstOf?_append (found : walker.tree.get? path.node = some node) (visits : List Path)
    (kind : String) :
    walker.firstOf? (visits ++ [path]) kind =
      (walker.firstOf? visits kind).or (if node.kind = kind then some path else none) := by
  rw [firstOf?, firstOf?, List.find?_append, List.find?_singleton, found]
  simp

theorem mem_kindsMet_iff {trail : Trail} {kind : String} :
    kind ∈ walker.kindsMet trail ↔ walker.firstOf? trail.visits kind ≠ none := by
  rw [kindsMet, Trail.nodes, firstOf?, ne_eq, List.find?_eq_none]
  simp

end

def newKind (walker : Walker) (path : Path) (node : Node) (trail : Trail) : List TraversalError :=
  if walker.table.Unlisted node.kind ∧ walker.firstOf? trail.visits node.kind = none then
    [.unknownKind path.node node.kind]
  else []

theorem arrive_eq_report (walker : Walker) (path : Path) (node : Node) (trail : Trail) :
    walker.arrive path node trail =
      Trail.report ⟨trail.visits ++ [path], trail.errors⟩ (walker.newKind path node trail) := by
  simp only [arrive, newKind, Trail.report, ChildTable.fallback_iff_unlisted,
    mem_kindsMet_iff, not_not]

theorem visits_arrive (walker : Walker) (path : Path) (node : Node) (trail : Trail) :
    (walker.arrive path node trail).visits = trail.visits ++ [path] := rfl

/-! ## References -/

theorem count_settled_report (trail : Trail) (errors : List TraversalError) (link : Link) :
    (trail.report errors).settled.count link = trail.settled.count link +
      (passedOver errors).count link := by
  simp only [Trail.settled, Trail.report, passedOver, List.filterMap_append, List.count_append]
  omega

theorem count_settled_arrive (walker : Walker) (path : Path) (node : Node) (trail : Trail)
    (link : Link) :
    (walker.arrive path node trail).settled.count link = trail.settled.count link +
      path.arrival?.toList.count link := by
  have arrival : [path].filterMap Path.arrival? = path.arrival?.toList := by
    cases came : path.arrival? <;> simp [came]
  have unsaid : passedOver (walker.newKind path node trail) = [] := by
    unfold newKind
    split <;> rfl
  rw [arrive_eq_report, count_settled_report, unsaid, Trail.settled, Trail.settled,
    List.filterMap_append, arrival]
  simp only [List.count_append, List.count_nil]
  omega

/-- What the visits after a trail owe, and some references that were pending, is settled. -/
def Balanced (walker : Walker) (before after : Trail) (pending : List Link) : Prop :=
  ∀ link, (walker.owed after.visits).count link + before.settled.count link + pending.count link =
    (walker.owed before.visits).count link + after.settled.count link

namespace Balanced

variable {walker : Walker} {path : Path} {node : Node} {trail after last : Trail}
    {pending more : List Link}

theorem refl (trail : Trail) : walker.Balanced trail trail [] := by
  intro link
  simp

theorem trans (first : walker.Balanced trail after pending)
    (second : walker.Balanced after last more) :
    walker.Balanced trail last (pending ++ more) := by
  intro link
  have left := first link
  have right := second link
  rw [List.count_append]
  omega

theorem report (errors : List TraversalError) :
    walker.Balanced trail (trail.report errors) (passedOver errors) := by
  intro link
  have settled := count_settled_report trail errors link
  simp only [Trail.report] at settled ⊢
  omega

theorem cut (found : walker.tree.get? path.node = some node)
    (deep : ¬ path.depth < walker.maxDepth) :
    walker.Balanced trail (walker.arrive path node trail) path.arrival?.toList := by
  intro link
  have settled := walker.count_settled_arrive path node trail link
  rw [visits_arrive, owed_append found, if_neg deep, List.append_nil]
  omega

/-- The references of a node that is entered are owed until its children are done. -/
theorem enter (found : walker.tree.get? path.node = some node)
    (above : path.depth < walker.maxDepth)
    (children : walker.Balanced (walker.arrive path node trail) after
      (linksOf path.node (walker.childrenOf node))) :
    walker.Balanced trail after path.arrival?.toList := by
  intro link
  have settled := walker.count_settled_arrive path node trail link
  have done := children link
  rw [visits_arrive, owed_append found, if_pos above, List.count_append] at done
  omega

end Balanced

theorem balancing (walker : Walker) :
    walker.TraversalCases
      (fun levels path node trail result => levels + path.depth = walker.maxDepth →
        walker.tree.get? path.node = some node → result.2 = none →
          walker.Balanced trail result.1 path.arrival?.toList)
      (fun levels path children trail result => levels + path.depth + 1 = walker.maxDepth →
        result.2 = none →
        walker.Balanced trail result.1 (linksOf path.node children)) where
  tooDeep path node trail := by
    intro limit found _
    have arrived : walker.Balanced trail (walker.arrive path node trail) path.arrival?.toList :=
      .cut found (by omega)
    have reported := arrived.trans (.report [.tooDeep path.node path.depth])
    rwa [show passedOver [.tooDeep path.node path.depth] = [] from rfl, List.append_nil] at reported
  entered levels path node trail result := by
    intro children limit found finished
    have unsaid : passedOver (walker.malformedSlots path.node node) = [] := by
      simp [passedOver, malformedSlots, List.filterMap_map, TraversalError.shared?,
        TraversalError.dangling?, Function.comp_def]
    have reported : walker.Balanced (walker.arrive path node trail) _ _ :=
      .report (walker.malformedSlots path.node node)
    rw [unsaid] at reported
    exact .enter found (by omega) (reported.trans (children (by omega) finished))
  finished levels path trail := by
    intro _ _
    exact .refl trail
  dangling levels path key id rest trail result := by
    intro _ later limit finished
    exact (Balanced.report _).trans (later limit finished)
  cyclic levels path key id rest trail child := by
    intro _ _ _ finished
    cases finished
  shared levels path key id rest trail result child := by
    intro _ _ _ later limit finished
    exact (Balanced.report _).trans (later limit finished)
  stopped levels path key id rest trail child after cycle := by
    intro _ _ _ _ _ finished
    cases finished
  returned levels path key id rest trail child after result := by
    intro existing _ _ subtree later limit finished
    have below := subtree (by rw [Path.depth_below]; omega) existing rfl
    exact below.trans (later limit finished)

/-! ## Reports -/

/-- What is wrong with the nodes themselves was reported at their visits, in order, and nothing of
the kind besides. -/
structure Reported (walker : Walker) (trail : Trail) : Prop where
  malformed : trail.errors.filter TraversalError.isMalformed =
    (walker.opened trail.visits).flatMap fun entry => walker.malformedSlots entry.1 entry.2
  tooDeep : trail.errors.filter TraversalError.isTooDeep =
    (trail.visits.filter fun path => path.depth = walker.maxDepth).map fun path =>
      .tooDeep path.node path.depth
  unknown : ∀ kind, trail.errors.filter (TraversalError.isUnknown kind) =
    if walker.table.Unlisted kind then
      ((walker.firstOf? trail.visits kind).map fun path => .unknownKind path.node kind).toList
    else []

def slotReports (walker : Walker) (path : Path) (node : Node) : List TraversalError :=
  if path.depth < walker.maxDepth then walker.malformedSlots path.node node
  else [.tooDeep path.node path.depth]

section
variable (walker : Walker) (path : Path) (node : Node) (trail : Trail)

theorem filter_newKind_eq_nil {pick : TraversalError → Bool}
    (other : ∀ kind, pick (.unknownKind path.node kind) = false) :
    (walker.newKind path node trail).filter pick = [] := by
  unfold newKind
  split <;> simp [other]

theorem filter_isUnknown_newKind (kind : String) :
    (walker.newKind path node trail).filter (TraversalError.isUnknown kind) =
      if node.kind = kind ∧ walker.table.Unlisted kind ∧
        walker.firstOf? trail.visits kind = none then
        [.unknownKind path.node kind]
      else [] := by
  by_cases same : node.kind = kind
  · subst same
    by_cases first : walker.table.Unlisted node.kind ∧ walker.firstOf? trail.visits node.kind = none
    · rw [newKind, if_pos first, if_pos ⟨rfl, first⟩]
      simp [TraversalError.isUnknown]
    · rw [newKind, if_neg first, if_neg fun stated => first stated.2]
      rfl
  · rw [if_neg fun stated => same stated.1, newKind]
    split <;> simp [same, TraversalError.isUnknown]

theorem filter_slotReports (pick : TraversalError → Bool) (malformed tooDeep : Bool)
    (ofMalformed : ∀ kind slot held, pick (.malformedSlot path.node kind slot held) = malformed)
    (ofTooDeep : pick (.tooDeep path.node path.depth) = tooDeep) :
    (walker.slotReports path node).filter pick =
      if path.depth < walker.maxDepth then if malformed then walker.malformedSlots path.node node
      else []
      else if tooDeep then [.tooDeep path.node path.depth] else [] := by
  unfold slotReports
  split
  · rw [malformedSlots, List.filter_map, Function.comp_def]
    simp only [ofMalformed]
    cases malformed <;> simp
  · rw [List.filter_singleton, ofTooDeep]
    cases tooDeep <;> rfl

end

namespace Reported

variable {walker : Walker} {path : Path} {node : Node} {trail : Trail}

theorem empty : walker.Reported {} :=
  ⟨rfl, rfl, fun kind => by simp [firstOf?]⟩

theorem pass (reported : walker.Reported trail) {error : TraversalError}
    (malformed : error.isMalformed = false) (tooDeep : error.isTooDeep = false)
    (unknown : ∀ kind, error.isUnknown kind = false) :
    walker.Reported (trail.report [error]) := by
  have kept : ∀ {pick : TraversalError → Bool}, pick error = false →
      (trail.report [error]).errors.filter pick = trail.errors.filter pick := by
    intro pick other
    rw [Trail.errors_report, List.filter_append, List.filter_singleton, other]
    exact List.append_nil _
  constructor
  · exact (kept malformed).trans reported.malformed
  · exact (kept tooDeep).trans reported.tooDeep
  · intro kind
    exact (kept (unknown kind)).trans (reported.unknown kind)

theorem visit (reported : walker.Reported trail) (found : walker.tree.get? path.node = some node)
    (limit : path.depth ≤ walker.maxDepth) :
    walker.Reported ((walker.arrive path node trail).report (walker.slotReports path node)) := by
  have visits : ((walker.arrive path node trail).report (walker.slotReports path node)).visits =
    trail.visits ++ [path] := rfl
  have added : ∀ pick : TraversalError → Bool,
      ((walker.arrive path node trail).report (walker.slotReports path node)).errors.filter pick =
        trail.errors.filter pick ++
          ((walker.newKind path node trail).filter pick ++
            (walker.slotReports path node).filter pick) := by
    intro pick
    rw [arrive_eq_report, Trail.errors_report, Trail.errors_report, List.append_assoc,
      List.filter_append, List.filter_append]
  constructor
  · rw [visits, added, reported.malformed, opened_append found, List.flatMap_append,
      filter_newKind_eq_nil _ _ _ _ fun _ => rfl,
      walker.filter_slotReports path node _ true false (fun _ _ _ => rfl) rfl, List.nil_append]
    split <;> simp
  · rw [visits, added, reported.tooDeep, List.filter_append, List.map_append,
      filter_newKind_eq_nil _ _ _ _ fun _ => rfl,
      walker.filter_slotReports path node _ false true (fun _ _ _ => rfl) rfl, List.nil_append]
    by_cases above : path.depth < walker.maxDepth
    · simp [above, Nat.ne_of_lt above]
    · simp [Nat.le_antisymm limit (Nat.le_of_not_lt above)]
  · intro kind
    rw [visits, added, reported.unknown, firstOf?_append found, filter_isUnknown_newKind,
      walker.filter_slotReports path node _ false false (fun _ _ _ => rfl) rfl]
    by_cases unlisted : walker.table.Unlisted kind
    · cases first : walker.firstOf? trail.visits kind with
      | some _ => simp [unlisted]
      | none => by_cases same : node.kind = kind <;> simp [same, unlisted]
    · simp [unlisted]

end Reported

theorem reporting (walker : Walker) :
    walker.TraversalCases
      (fun levels path node trail result => levels + path.depth = walker.maxDepth →
        walker.tree.get? path.node = some node → walker.Reported trail → walker.Reported result.1)
      (fun levels path _ trail result => levels + path.depth + 1 = walker.maxDepth →
        walker.Reported trail →
        walker.Reported result.1) where
  tooDeep path node trail := by
    intro limit found reported
    have visited := reported.visit found (by omega)
    rwa [slotReports, if_neg (by omega)] at visited
  entered levels path node trail result := by
    intro children limit found reported
    have visited := reported.visit found (by omega)
    rw [slotReports, if_pos (by omega)] at visited
    exact children (by omega) visited
  finished levels path trail := by
    intro _ reported
    exact reported
  dangling levels path key id rest trail result := by
    intro _ later limit reported
    exact later limit (reported.pass rfl rfl fun _ => rfl)
  cyclic levels path key id rest trail child := by
    intro _ _ _ reported
    exact reported
  shared levels path key id rest trail result child := by
    intro _ _ _ later limit reported
    exact later limit (reported.pass rfl rfl fun _ => rfl)
  stopped levels path key id rest trail child after cycle := by
    intro existing _ _ subtree limit reported
    exact subtree (by rw [Path.depth_below]; omega) existing reported
  returned levels path key id rest trail child after result := by
    intro existing _ _ subtree later limit reported
    exact later limit (subtree (by rw [Path.depth_below]; omega) existing reported)

/-! ## Accounts of a walk -/

theorem Reaches.arrival?_eq_none_iff {walker : Walker} {path : Path}
    (reached : walker.Reaches path) :
    path.arrival? = none ↔ path = walker.rootPath := by
  cases reached with
  | root _ => simp [rootPath, Path.arrival?, Path.parent?]
  | child _ _ _ => simp [rootPath, Path.arrival?, Path.parent?, Path.key?, Path.below, Path.frames]

theorem length_filterMap_arrival? {walker : Walker} {visits : List Path}
    (reached : ∀ path ∈ visits, walker.Reaches path) :
    (visits.filterMap Path.arrival?).length + visits.count walker.rootPath = visits.length := by
  induction visits with
  | nil => rfl
  | cons path rest ih =>
      obtain ⟨here, later⟩ := List.forall_mem_cons.mp reached
      have counted := ih later
      rw [List.filterMap_cons, List.count_cons, List.length_cons]
      cases came : path.arrival? with
      | none =>
          obtain rfl := here.arrival?_eq_none_iff.mp came
          simp only [beq_self_eq_true, if_true]
          omega
      | some link =>
          have different : path ≠ walker.rootPath := by
            intro same
            rw [here.arrival?_eq_none_iff.mpr same] at came
            cases came
          simp only [beq_iff_eq, different, if_false, List.length_cons]
          omega

theorem length_arrivals (walker : Walker) (existing : (walker.tree.get? walker.tree.root).isSome) :
    (walker.walk.visits.filterMap Path.arrival?).length + 1 = walker.walk.visited := by
  obtain ⟨unique, reached, _⟩ := walker.walk_sound
  have once : walker.walk.visits.count walker.rootPath = 1 :=
    List.count_eq_one_of_mem (List.Nodup.of_map _ unique) (walker.walk_rooted.2.2 existing)
  rw [walker.length_nodes_walk, Walk.nodes, List.length_map,
    ← length_filterMap_arrival? reached, once]

/-- Nothing is passed over in silence. The references of the nodes above the depth limit are those
that visits came by, those to nodes visited before and those to nodes that do not exist. Each misfit
in their slots is reported once, each node at the limit once, and each kind without an entry once,
at its first node. -/
theorem walk_accounts (walker : Walker) (existing : (walker.tree.get? walker.tree.root).isSome)
    (finished : walker.walk.cycle = none) :
    (walker.owed walker.walk.visits).Perm
      (walker.walk.visits.filterMap Path.arrival? ++
        (walker.walk.errors.filterMap TraversalError.shared? ++
        walker.walk.errors.filterMap TraversalError.dangling?)) ∧
    (walker.owed walker.walk.visits).length =
      walker.walk.visited - 1 + (walker.walk.errors.filterMap TraversalError.shared?).length +
        (walker.walk.errors.filterMap TraversalError.dangling?).length ∧
    walker.walk.errors.filter TraversalError.isMalformed =
      (walker.opened walker.walk.visits).flatMap
        (fun entry => walker.malformedSlots entry.1 entry.2) ∧
    walker.walk.errors.filter TraversalError.isTooDeep =
      (walker.walk.visits.filter fun path => path.depth = walker.maxDepth).map
        (fun path => .tooDeep path.node path.depth) ∧
    ∀ kind, walker.walk.errors.filter (TraversalError.isUnknown kind) =
      if walker.table.Unlisted kind then
        ((walker.firstOf? walker.walk.visits kind).map fun path =>
          .unknownKind path.node kind).toList
      else [] := by
  have arrived := walker.length_arrivals existing
  obtain ⟨node, found⟩ := Option.isSome_iff_exists.mp existing
  obtain ⟨trail, cycle, traversed, walked⟩ := walker.walk_of_root found
  have balanced := walker.balancing.visitSubtree walker.maxDepth walker.rootPath node {} rfl found
  have reported := walker.reporting.visitSubtree walker.maxDepth walker.rootPath node {}
    rfl found .empty
  rw [traversed] at balanced reported
  rw [walked] at arrived finished ⊢
  have settled : (walker.owed trail.visits).Perm trail.settled := by
    rw [List.perm_iff_count]
    intro link
    simpa [owed, opened, Trail.settled, passedOver, rootPath, Path.arrival?, Path.parent?]
      using balanced finished link
  refine ⟨settled, ?_, reported.malformed, reported.tooDeep, reported.unknown⟩
  have counted := settled.length_eq
  simp only [Trail.settled, passedOver, List.length_append] at counted
  dsimp only at arrived ⊢
  omega

/-- A walk with problems of every sort: two nodes of a kind without an entry, one slot of a kind
that is listed twice, a reference to no node, two misfits in a list, and nodes at the depth
limit. -/
def strained : Walker where
  tree := {
    nodes := #[
      { kind := "Odd", span := {}, slots :=
        [("body", .list [.node 1, .scalar "x", .list [], .node 9, .node 2])] },
      { kind := "Pair", span := {}, slots := [("left", .node 3)] },
      { kind := "Odd", span := {}, slots := [("body", .node 4)] },
      { kind := "Leaf", span := {} },
      { kind := "Odd", span := {}, slots := [("body", .scalar "y")] }]
    root := 0 }
  table := { registered := [("Pair", ["left", "left"]), ("Leaf", [])] }
  maxDepth := 2

theorem walk_accounts_strained :
    (strained.tree.get? strained.tree.root).isSome ∧ strained.walk.cycle = none ∧
      strained.walk.visited = 5 ∧
      (strained.owed strained.walk.visits).length = 4 + 1 + 1 ∧
      strained.walk.errors.filter TraversalError.isMalformed =
        [.malformedSlot 0 "Odd" "body[1]" "x", .malformedSlot 0 "Odd" "body[2]" "a nested list"] ∧
      strained.walk.errors.filter TraversalError.isTooDeep = [.tooDeep 3 2, .tooDeep 4 2] ∧
      strained.walk.errors.filter (TraversalError.isUnknown "Odd") = [.unknownKind 0 "Odd"] := by
  have existing : (strained.tree.get? strained.tree.root).isSome := by decide
  have finished : strained.walk.cycle = none := by cbv
  have visited : strained.walk.visited = 5 := by cbv
  have visits : strained.walk.visits = [
      ⟨⟨0, none⟩, []⟩, ⟨⟨1, some ⟨"body", some 0⟩⟩, [⟨0, none⟩]⟩,
      ⟨⟨3, some ⟨"left", none⟩⟩, [⟨1, some ⟨"body", some 0⟩⟩, ⟨0, none⟩]⟩,
        ⟨⟨2, some ⟨"body", some 4⟩⟩, [⟨0, none⟩]⟩,
      ⟨⟨4, some ⟨"body", none⟩⟩, [⟨2, some ⟨"body", some 4⟩⟩, ⟨0, none⟩]⟩] := by cbv
  have shared : strained.walk.errors.filterMap TraversalError.shared? = [⟨1, "left", 3⟩] := by cbv
  have dangling : strained.walk.errors.filterMap TraversalError.dangling? =
    [⟨0, "body[3]", 9⟩] := by cbv
  obtain ⟨_, counted, malformed, deep, unknown⟩ := strained.walk_accounts existing finished
  refine ⟨existing, finished, visited, ?_, ?_, ?_, ?_⟩
  · rw [counted, visited, shared, dangling]
    rfl
  · rw [malformed, visits]
    cbv
  · rw [deep, visits]
    rfl
  · rw [unknown, visits]
    cbv

end Walker
end Spellspan.Tree
