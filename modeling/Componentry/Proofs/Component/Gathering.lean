import Mathlib.Data.List.Basic
import Componentry.Proofs.Component.Generation
import Componentry.Proofs.Document.Depth

/-!
# What becomes of the nodes of a document

A document is taken apart by filters, one for each part.  This file says it the other way round:
what becomes of each node.

**Roles.**  Every top-level node plays one role (`Document.Plays`): it is a declaration, the root, a
node of the body, or ignored.  `dealt` are the nodes that play a role, in the order of the document.

**Use.**  The parts of a document are what is dealt out by the roles, together with the children of
the root (`Document.parts_dealt`).  The warnings of a module are one for each ignored node, for each
repeated declaration of props, and for each declaration that the outline of the body reaches
(`misplaced_usageOfNodes`).
-/

namespace Componentry

/-! ## Roles -/

/-- What becomes of a top-level node. -/
inductive Role where
  | declaration
  | root
  | body
  | ignored
deriving DecidableEq, Repr

namespace Document

/-- The root stands at a place: it is the first top-level component. -/
def RootAt (document : Document) (place : Nat) : Prop :=
  (∃ node, document.body[place]? = some node ∧ node.isComponent = true)
    ∧ ∀ earlier < place, ∀ node, document.body[earlier]? = some node → node.isComponent = false

/-- The top-level node at a place plays a role. -/
inductive Plays (document : Document) (place : Nat) : Role → Prop
  | declaration {node} (hnode : document.body[place]? = some node) (h : node.isDeclaration = true) :
      Plays document place .declaration
  | root (h : document.RootAt place) : Plays document place .root
  | body {node} (hnode : document.body[place]? = some node) (h : node.isDeclaration = false)
      (hnone : ∀ other, ¬ document.RootAt other) : Plays document place .body
  | ignored {node root} (hnode : document.body[place]? = some node) (h : node.isDeclaration = false)
      (hroot : document.RootAt root) (hne : place ≠ root) : Plays document place .ignored

end Document

/-- The nodes that play a role, in order. -/
def dealt (role : Role) (roles : List Role) (nodes : List Node) : List Node :=
  ((roles.zip nodes).filter fun entry => entry.1 = role).map Prod.snd

lemma Node.isDeclaration_of_isComponent {node : Node} (h : node.isComponent = true) :
    node.isDeclaration = false := by
  cases node with
  | component name properties children => rfl
  | _ => exact absurd h (by simp [isComponent, componentChildren?])

section Dealt

variable (role : Role)

lemma dealt_map (f : Node → Role) (nodes : List Node) :
    dealt role (nodes.map f) nodes = nodes.filter fun node => f node = role := by
  induction nodes with
  | nil => rfl
  | cons node rest ih =>
      simp only [dealt, List.map_cons, List.zip_cons_cons, List.filter_cons] at ih ⊢
      split_ifs <;> simp [ih]

lemma dealt_append {roles others : List Role} {nodes rest : List Node}
    (h : roles.length = nodes.length) :
    dealt role (roles ++ others) (nodes ++ rest)
      = dealt role roles nodes ++ dealt role others rest := by
  simp [dealt, List.zip_append h]

lemma dealt_cons (first : Role) (roles : List Role) (node : Node) (nodes : List Node) :
    dealt role (first :: roles) (node :: nodes)
      = (if first = role then [node] else []) ++ dealt role roles nodes := by
  unfold dealt
  split_ifs with h <;> simp [h]

end Dealt

namespace Document

variable {document : Document}

lemma rootAt_unique {place other : Nat} (h : document.RootAt place)
    (hother : document.RootAt other) :
    place = other := by
  obtain ⟨⟨node, hnode, hcomponent⟩, hearlier⟩ := h
  obtain ⟨⟨second, hsecond, hcomponent'⟩, hearlier'⟩ := hother
  rcases Nat.lt_trichotomy place other with hlt | heq | hlt
  · exact absurd (hearlier' place hlt node hnode) (by simp [hcomponent])
  · exact heq
  · exact absurd (hearlier other hlt second hsecond) (by simp [hcomponent'])

lemma Plays.exists_node {place : Nat} {role : Role} (h : document.Plays place role) :
    ∃ node, document.body[place]? = some node := by
  cases h with
  | root hroot => exact hroot.1.imp fun node hnode => hnode.1
  | declaration hnode _ | body hnode _ _ | ignored hnode _ _ _ => exact ⟨_, hnode⟩

open scoped Classical in
/-- The role of a node can be told step by step. -/
lemma Plays.eq {place : Nat} {role : Role} {node : Node} (h : document.Plays place role)
    (hplace : document.body[place]? = some node) :
    role = if node.isDeclaration = true then .declaration
      else if document.RootAt place then .root
      else if ∃ root, document.RootAt root then .ignored else .body := by
  cases h with
  | declaration hnode hdeclaration =>
      rw [hplace, Option.some.injEq] at hnode
      rw [hnode, if_pos hdeclaration]
  | root hroot =>
      obtain ⟨found, hfound, hcomponent⟩ := hroot.1
      rw [hplace, Option.some.injEq] at hfound
      rw [hfound, Node.isDeclaration_of_isComponent hcomponent, if_neg Bool.false_ne_true,
        if_pos hroot]
  | body hnode hdeclaration hnone =>
      rw [hplace, Option.some.injEq] at hnode
      rw [hnode, hdeclaration, if_neg Bool.false_ne_true, if_neg (hnone place),
        if_neg (not_exists.mpr hnone)]
  | ignored hnode hdeclaration hroot hne =>
      rw [hplace, Option.some.injEq] at hnode
      rw [hnode, hdeclaration, if_neg Bool.false_ne_true,
        if_neg fun hat => hne (rootAt_unique hat hroot), if_pos ⟨_, hroot⟩]

/-- Roles of all nodes that are played are the only ones. -/
lemma plays_iff_of_forall {roles : List Role} (hlength : roles.length = document.body.length)
    (hplays : ∀ place role, roles[place]? = some role → document.Plays place role) (place : Nat)
    (role : Role) : roles[place]? = some role ↔ document.Plays place role := by
  refine ⟨hplays place role, fun h => ?_⟩
  obtain ⟨node, hnode⟩ := h.exists_node
  have hlt : place < roles.length := hlength ▸ (List.getElem?_eq_some_iff.mp hnode).1
  have hfound := List.getElem?_eq_getElem hlt
  rw [hfound, Option.some.injEq, (hplays place _ hfound).eq hnode, h.eq hnode]

/-! ## Around the root -/

/-- **The two forms of a document**: there is no top-level component, or the first one is the
root. -/
lemma root_cases (document : Document) :
    ((∀ node ∈ document.body, node.isComponent = false) ∧ document.rootChildren? = none)
    ∨ ∃ before name properties children after,
        document.body = before ++ .component name properties children :: after
        ∧ (∀ node ∈ before, node.isComponent = false)
        ∧ document.rootChildren? = some children := by
  have hnone : ∀ node : Node, node.componentChildren? = none → node.isComponent = false := by
    intro node h
    rw [Node.isComponent, h, Option.isSome_none]
  cases hroot : document.rootChildren? with
  | none =>
      refine .inl ⟨fun node hnode => hnone node ?_, rfl⟩
      exact List.findSome?_eq_none_iff.mp hroot node hnode
  | some children =>
      obtain ⟨before, node, after, hbody, hnode, hbefore⟩ := List.findSome?_eq_some_iff.mp hroot
      cases node with
      | component name properties found =>
          obtain rfl := Option.some.inj hnode
          exact .inr ⟨before, name, properties, found, after, hbody,
            fun node hmem => hnone node (hbefore node hmem), rfl⟩
      | _ => simp [Node.componentChildren?] at hnode

lemma not_rootAt_of_forall (h : ∀ node ∈ document.body, node.isComponent = false) (place : Nat) :
    ¬ document.RootAt place := by
  rintro ⟨⟨node, hnode, hcomponent⟩, -⟩
  exact absurd (h node (List.mem_of_getElem? hnode)) (by simp [hcomponent])

lemma rootAt_of_split {before after : List Node} {root : Node}
    (hbody : document.body = before ++ root :: after) (hroot : root.isComponent = true)
    (hbefore : ∀ node ∈ before, node.isComponent = false) :
    document.RootAt before.length := by
  refine ⟨⟨root, by simp [hbody], hroot⟩, fun earlier hearlier node hnode => ?_⟩
  rw [hbody, List.getElem?_append_left hearlier] at hnode
  exact hbefore node (List.mem_of_getElem? hnode)

end Document

/-- The role of a node that is not the root. -/
def Node.roleOr (aside : Role) (node : Node) : Role :=
  if node.isDeclaration then .declaration else aside

lemma dealt_declaration {aside : Role} (haside : aside ≠ .declaration) (nodes : List Node) :
    dealt .declaration (nodes.map (Node.roleOr aside)) nodes = nodes.filter Node.isDeclaration := by
  rw [dealt_map]
  refine List.filter_congr fun node _ => ?_
  cases h : node.isDeclaration <;> simp [Node.roleOr, h, haside]

lemma dealt_aside {aside : Role} (haside : aside ≠ .declaration) (nodes : List Node) :
    dealt aside (nodes.map (Node.roleOr aside)) nodes = shownNodes nodes := by
  rw [dealt_map, shownNodes]
  refine List.filter_congr fun node _ => ?_
  cases h : node.isDeclaration <;> simp [Node.roleOr, h, haside.symm]

lemma dealt_other {role aside : Role} (hrole : role ≠ .declaration) (haside : aside ≠ role)
    (nodes : List Node) : dealt role (nodes.map (Node.roleOr aside)) nodes = [] := by
  rw [dealt_map, List.filter_eq_nil_iff]
  intro node _
  cases h : node.isDeclaration <;> simp [Node.roleOr, h, haside, hrole.symm]

namespace Document

/-- The declarations that a component is set up from: those at the top level, then those in the
root. -/
def gathered (document : Document) (roles : List Role) : List Node :=
  dealt .declaration roles document.body
    ++ ((dealt .root roles document.body).flatMap Node.children).filter Node.isDeclaration

/-- The nodes that a component shows: those of the body, or else all others in the root.  Of content
for a slot only the element is shown. -/
def bodyNodes (document : Document) (roles : List Role) : List Node :=
  dealt .body roles document.body
    ++ (shownNodes ((dealt .root roles document.body).flatMap Node.children)).map Node.unaddressed

/-- Besides the root, declarations are declarations and all others are ignored. -/
lemma plays_of_rootAt {document : Document} {root place : Nat} {role : Role}
    (hroot : document.RootAt root)
    (h : ((document.body.map (Node.roleOr .ignored)).set root .root)[place]? = some role) :
    document.Plays place role := by
  rw [List.getElem?_set] at h
  split_ifs at h with heq
  · obtain rfl := Option.some.inj h
    exact .root (heq ▸ hroot)
  · obtain ⟨node, hnode, rfl⟩ := Option.map_eq_some_iff.mp (List.getElem?_map ▸ h)
    unfold Node.roleOr
    split_ifs with hdeclaration
    · exact .declaration hnode hdeclaration
    · exact .ignored hnode (Bool.eq_false_iff.mpr hdeclaration) hroot (Ne.symm heq)

/-- What is dealt out around the root. -/
lemma dealt_around_root (role : Role) (before after : List Node) (root : Node) :
    dealt role (((before ++ root :: after).map (Node.roleOr .ignored)).set before.length .root)
        (before ++ root :: after)
      = dealt role (before.map (Node.roleOr .ignored)) before
        ++ ((if Role.root = role then [root] else [])
        ++ dealt role (after.map (Node.roleOr .ignored)) after) := by
  have hset : ((before ++ root :: after).map (Node.roleOr .ignored)).set before.length .root
      = before.map (Node.roleOr .ignored) ++ .root :: after.map (Node.roleOr .ignored) := by
    simp
  rw [hset, dealt_append role (by simp), dealt_cons]

variable (document : Document)

/-- **Every top-level node plays a role**, and the parts of a document are what the roles deal
out. -/
theorem exists_roles : ∃ roles : List Role,
    roles.length = document.body.length
    ∧ (∀ place role, roles[place]? = some role ↔ document.Plays place role)
    ∧ document.declarations = document.gathered roles
    ∧ document.shown = document.bodyNodes roles
    ∧ document.ignored = dealt .ignored roles document.body := by
  rcases document.root_cases with
    ⟨hnone, hroot⟩ | ⟨before, name, properties, children, after, hbody, hbefore, hroot⟩
  · refine ⟨document.body.map (Node.roleOr .body), by simp, plays_iff_of_forall (by simp) ?_, ?_,
      ?_, ?_⟩
    · intro place role hplace
      obtain ⟨node, hnode, rfl⟩ := Option.map_eq_some_iff.mp (List.getElem?_map ▸ hplace)
      unfold Node.roleOr
      split_ifs with hdeclaration
      · exact .declaration hnode hdeclaration
      · exact .body hnode (Bool.eq_false_iff.mpr hdeclaration) (not_rootAt_of_forall hnone)
    · simp [declarations, gathered, hroot, dealt_declaration, dealt_other]
    · simp [shown, bodyNodes, hroot, dealt_aside, dealt_other, shownNodes]
    · simp [ignored, hroot, dealt_other]
  · have hcomponent : (Node.component name properties children).isComponent = true := rfl
    have hdeclared : (Node.component name properties children).isDeclaration = false := rfl
    have hat := rootAt_of_split hbody hcomponent hbefore
    have hdealt : ∀ role,
        dealt role ((document.body.map (Node.roleOr .ignored)).set before.length .root)
          document.body
        = dealt role (before.map (Node.roleOr .ignored)) before
          ++ ((if Role.root = role then [Node.component name properties children] else [])
            ++ dealt role (after.map (Node.roleOr .ignored)) after) := by
      rw [hbody]
      exact fun role => dealt_around_root role ..
    refine ⟨(document.body.map (Node.roleOr .ignored)).set before.length .root, by simp,
      plays_iff_of_forall (by simp) fun place role => plays_of_rootAt hat, ?_, ?_, ?_⟩
    · rw [declarations, gathered, hdealt, hdealt, hroot, hbody]
      simp [dealt_declaration, dealt_other, hdeclared, Node.children, Node.inner]
    · rw [shown, bodyNodes, hdealt, hdealt, hroot]
      simp [dealt_other, Node.children, Node.inner]
    · -- the first component that is shown is the root
      have hfirst : ∀ node ∈ shownNodes before, ¬ node.isComponent = true := fun node hnode => by
        simp [hbefore node (List.mem_of_mem_filter hnode)]
      have hshown : shownNodes document.body
          = shownNodes before ++ .component name properties children :: shownNodes after := by
        simp [shownNodes, hbody, hdeclared]
      rw [ignored, hroot, hdealt, hshown, List.eraseP_append_right _ hfirst,
        List.eraseP_cons_of_pos hcomponent]
      simp [dealt_aside]

end Document

/-! ## Use -/

/-- The props taken as variables: those of the first declaration of props, unless it takes all. -/
def firstProps (declared : List Node) : List String :=
  match (declared.filterMap Node.props?).head? with
  | some (false, names) => names
  | _ => []

/-- The warning about a node in the body that is a declaration. -/
def Node.misplaced? : Node → Option Warning
  | .state _ => some ⟨.misplaced "state", none⟩
  | .props _ _ => some ⟨.misplaced "props", none⟩
  | _ => none

lemma Usage.misplaced_total (parts : List Usage) :
    (total parts).misplaced = parts.flatMap Usage.misplaced := by
  induction parts with
  | nil => rfl
  | cons part rest ih => rw [List.flatMap_cons, ← ih]; rfl

lemma Node.need_misplaced (node : Node) :
    node.need.misplaced.map (fun tag => (⟨.misplaced tag, none⟩ : Warning))
      = node.misplaced?.toList := by
  cases node <;> rfl

/-- **The outline of a body finds every declaration in it**, in order. -/
lemma misplaced_usageOfNodes (nodes : List Node) :
    (usageOfNodes nodes).misplaced.map (fun tag => (⟨.misplaced tag, none⟩ : Warning))
      = (visitedNodes nodes).filterMap Node.misplaced? := by
  rw [usageOfNodes_eq, Usage.misplaced_total, List.flatMap_map, List.map_flatMap,
    List.filterMap_eq_flatMap_toList]
  exact List.flatMap_congr fun node _ => node.need_misplaced

/-- **Every node is used once or reported.**  For every module that is generated from a document:

* every top-level node plays exactly one role.  It is a declaration, or the root, which is the first
  component, or a node of the body, which happens only if there is no root, or it is ignored;
* the states of the declarations, those at the top level before those in the root, are declared one
  by one, what they run on mount is run in order, and the first of their props are the ones that are
  taken;
* the body shows the nodes of the body in order, or else all children of the root that are no
  declarations, of content for a slot its element;
* there is one warning for each ignored node, which names its type, one for each declaration of
  props but the first, and one for each declaration of state or props that the outline of the body
  reaches, in its order; and there are no others. -/
theorem nodes_used_or_reported {document : Document} {name : String} {options : Options}
    {m : Module} {warnings : List Warning}
    (h : generate document name options = .ok ⟨m, warnings⟩) :
    ∃ roles : List Role,
      roles.length = document.body.length
      ∧ (∀ place role, roles[place]? = some role ↔ document.Plays place role)
      ∧ List.Forall₂ (fun state declaration => ∃ stateName, state.name = some stateName
            ∧ (declaration = .reactive stateName state.value.script
              ∨ declaration = .cell stateName state.value.script))
          ((document.gathered roles).filterMap Node.state?) m.setup.declarations
      ∧ m.setup.mounts = (document.gathered roles).flatMap Node.mounts
      ∧ m.signature = signatureOf (firstProps (document.gathered roles))
          (usageOfNodes (document.bodyNodes roles))
      ∧ m.body = renderNodes ⟨.root name, firstProps (document.gathered roles)⟩
        (document.bodyNodes roles)
      ∧ warnings
        = (dealt .ignored roles document.body).map (fun node =>
          ⟨.ignoredTopLevel node.typeName, none⟩)
          ++ ((document.gathered roles).filterMap Node.props?).tail.map
            (fun _ => ⟨.repeatedProps, none⟩)
          ++ (visitedNodes (document.bodyNodes roles)).filterMap Node.misplaced? := by
  have hm : Generated document name options m warnings := generated_of_generate h
  obtain ⟨roles, hlength, hplays, hgathered, hshown, hignored⟩ := document.exists_roles
  refine ⟨roles, hlength, hplays, ?_, ?_, ?_, ?_, ?_⟩
  · rw [← hgathered]
    refine (forall₂_of_declareStates hm.declared).imp ?_
    rintro state declaration ⟨stateName, hname, rfl⟩
    refine ⟨stateName, hname, ?_⟩
    unfold Declaration.ofState
    split_ifs
    · exact .inl rfl
    · exact .inr rfl
  · rw [← hgathered]
    exact hm.mounts
  · rw [← hgathered, ← hshown]
    exact hm.signature
  · rw [← hgathered, ← hshown]
    exact hm.body
  · rw [← hgathered, ← hshown, ← hignored, ← misplaced_usageOfNodes]
    exact hm.warnings_eq

/-- A page with nodes around its root, props declared twice, expressions that run on mount in two
places, and declarations in its body. -/
def crowdedPage : Document where
  body := [
    .text "stray",
    .state ⟨some "count", .number "0", false, ⟨1, 7⟩⟩,
    .onMount [.expression ⟨"open()", .call⟩],
    .component "main" [] [
      .onMount [.expression ⟨"load()", .call⟩, .expression ⟨"track()", .call⟩],
      .state ⟨some "step", .number "1", false, ⟨1, 30⟩⟩,
      .props false ["title"],
      .slotContent "top" (.state ⟨none, .bare, false, ⟨1, 75⟩⟩),
      .fragment [
        .props true [],
        .onMount [.state ⟨none, .bare, false, ⟨1, 110⟩⟩, .expression ⟨"run()", .call⟩]]],
    .props true [],
    .component "aside" [] []]

/-- The text and the second component are ignored.  What runs on mount is gathered in order, but for
the block in the body, where the declaration goes unreported. -/
theorem nodes_used_or_reported_crowded : ∃ m warnings, ∃ roles : List Role,
    generate crowdedPage "Page" {} = .ok ⟨m, warnings⟩
    ∧ roles.length = 6 ∧ roles[0]? = some .ignored ∧ roles[1]? = some .declaration
    ∧ roles[2]? = some .declaration ∧ roles[3]? = some .root ∧ roles[5]? = some .ignored
    ∧ m.setup.declarations = [.cell "count" "0", .cell "step" "1"]
    ∧ m.setup.mounts = [⟨"open()", .call⟩, ⟨"load()", .call⟩, ⟨"track()", .call⟩]
    ∧ m.setup.mounts = (crowdedPage.gathered roles).flatMap Node.mounts
    ∧ warnings.map Warning.text
      = ["top-level Text outside the root component is ignored",
        "top-level Component outside the root component is ignored",
        "duplicate <props> declaration ignored",
        "<state> below the component root is ignored",
        "<props> below the component root is ignored"] := by
  have h : generate crowdedPage "Page" {} = .ok ⟨_, _⟩ := rfl
  have hroot : crowdedPage.RootAt 3 := by
    refine ⟨⟨_, rfl, rfl⟩, fun earlier hearlier node hnode => ?_⟩
    obtain rfl | rfl | rfl : earlier = 0 ∨ earlier = 1 ∨ earlier = 2 := by omega
    · cases hnode
      rfl
    · cases hnode
      rfl
    · cases hnode
      rfl
  obtain ⟨roles, hlength, hplays, -, hmounts, -⟩ := nodes_used_or_reported h
  refine ⟨_, _, roles, h, hlength, (hplays 0 _).mpr ?_, (hplays 1 _).mpr ?_, (hplays 2 _).mpr ?_,
    (hplays 3 _).mpr ?_, (hplays 5 _).mpr ?_, rfl, rfl, hmounts, by decide⟩
  · exact .ignored rfl rfl hroot (by decide)
  · exact .declaration rfl rfl
  · exact .declaration rfl rfl
  · exact .root hroot
  · exact .ignored rfl rfl hroot (by decide)

end Componentry
