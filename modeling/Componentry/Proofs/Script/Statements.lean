import Componentry.Proofs.Script.Operands

/-!
# Statements that start with a `<`

At the start of a statement, `<` opens a tag or a list of type parameters.  Which of the two it is
taken for is decided by a look at the next tokens, and there is no way back.

**The look.**  `guessBehindLess_fst` says what is looked for: a name, or `const` and whatever
follows it, with a comma, a `=` or the word `extends` behind.

**Markup.**  Where it is taken for a tag, the rules from `statement` down to `updateTerm` hand the
text on to `markup`, and a statement that ends with the text is the term that was read
(`statement_of_markup`).

**Type parameters.**  Where it is not, the function they should belong to is stopped at the `<`,
since it has to start with a parenthesis.  A reader that has been stopped stays so: `Ends` follows
it up to the end of the statement (`ends_statement`).

The results are `readModule_of_markup` and `readModule_of_types`, for a text that is one such
statement.
-/

namespace Componentry.Script

open Read Text

@[simp] lemma within_apply {α : Type} (change : Context → Context) (reader : Read α) (r : Reading) :
    within change reader r
      = ((reader { r with context := change r.context }).1,
        { (reader { r with context := change r.context }).2 with context := r.context }) :=
          Prod.ext rfl rfl

/-- In a module, `in` is an operator already. -/
lemma inOperator_of_module {r : Reading} (hr : r.context = .module) :
    ({ r with context := { r.context with inOperator := true } } : Reading) = r := by
  cases r
  cases hr
  rfl

/-! ## The end of the text -/

section Ending

variable {r : Reading} (h : r.token.kind = .ending)

include h

lemma eat_ending (mark : Mark) : eat mark r = (false, r) :=
  eat_of_ne (by rw [h]; exact Token.Kind.noConfusion)

lemma endStatement_ending : endStatement r = ((), r) := by
  simp [endStatement, eat_ending h, canEndStatement, h]

lemma binaryRest_ending (g : Grammar) (start strength steps : Nat) (term : Term) :
    binaryRest g start strength (steps + 1) term r = (term, r) := by
  simp [binaryRest, h, bindingStrength?]

end Ending

/-! ## The look behind a `<` -/

/-- The reader follows the grammar of markup at the start of a text: a `<` there opens a tag.  The
grammar of markup has no type parameters.  The reader knows those of arrow functions, and looks at
the first tokens to tell the two apart; this says that it does not take the tag for type
parameters. -/
def FollowsMarkupGrammar (text : List Char) : Prop := (arrowGuess (.start text)).1 = .no

instance (text : List Char) : Decidable (FollowsMarkupGrammar text) :=
  inferInstanceAs (Decidable (_ = _))

/-- Whether a name is taken for a type parameter, by the two tokens behind it. -/
def namesType (first second : Token.Kind) : Bool :=
  first == .mark .comma || first == .mark .assign
    || first == .word "extends"
      && !(second == .mark .assign || second == .mark .greater || second == .mark .slash)

/-- Whether the name that has just been taken is taken for a type parameter. -/
def Reading.namesType (r : Reading) : Bool :=
  Script.namesType r.token.kind (r.next (scan .script)).token.kind

/-- The token behind a word does not depend on how the word is written. -/
lemma advance_token (r : Reading) : (advance r).2.token = (r.next (scan .script)).token := by
  rw [advance, advanceBy, bind_apply, token_apply]
  dsimp only
  cases r.token.kind with
  | word word =>
      simp only [if_apply, bind_apply, report, modify_apply]
      split_ifs <;> rfl
  | _ => rfl

/-- The end of the look, from behind the name. -/
def guessBehindName : Read ArrowGuess := do
  match ← kind with
  | .word "extends" =>
    advance
    match ← kind with
    | .mark .assign | .mark .greater | .mark .slash => return .no
    | _ => return .yes
  | .mark .comma | .mark .assign => return .yes
  | _ => return .no

lemma guessBehindName_fst (r : Reading) :
    (guessBehindName r).1 = if r.namesType then .yes else .no := by
  have hsecond : ∀ (k : Token.Kind) (s : Reading), ((match k with
      | .mark .assign | .mark .greater | .mark .slash => return .no
      | _ => return .yes : Read ArrowGuess) s).1 = if namesType (.word "extends") k then .yes
      else .no := by
    intro k s
    cases k with
    | mark mark => cases mark <;> rfl
    | _ => rfl
  rw [Reading.namesType]
  simp only [guessBehindName, bind_apply, kind_apply]
  generalize r.token.kind = k
  cases k with
  | word word =>
      by_cases hword : word = "extends"
      · subst hword
        simp only [bind_apply, kind_apply, advance_token, hsecond]
      · simp [hword, namesType]
  | mark mark => cases mark <;> rfl
  | _ => rfl

lemma guessBehindLess_fst (r : Reading) :
    (guessBehindLess r).1 =
      if r.token.kind.isNameOrAwait || r.token.kind == .word "const" then
        (guessBehindName
          ((if r.token.kind == .word "const" then (advance r).2 else r).next (scan .script))).1
      else .no := by
  change ((do
    let second ← kind
    unless second.isNameOrAwait || second == .word "const" do return .no
    if second == .word "const" then advance
    advanceName
    guessBehindName : Read ArrowGuess) r).1 = _
  simp only [bind_apply, kind_apply, if_apply, pure_apply, advanceName_apply]
  split_ifs <;> rfl

/-- The look always comes to a decision. -/
lemma guessBehindLess_ne_maybe (r : Reading) : (guessBehindLess r).1 ≠ .maybe := by
  rw [guessBehindLess_fst, guessBehindName_fst]
  split_ifs <;> exact ArrowGuess.noConfusion

section Less

variable {r : Reading} (hless : r.token.kind = .mark .less)

include hless

lemma arrowGuess_less (hescaped : r.token.escaped = false) :
    arrowGuess r = ((guessBehindLess (r.next (scan .script))).1, r) := by
  simp [arrowGuess, hless, eatWord, advance_apply hescaped]

lemma statement_less (g : Grammar) (place : Place) :
    statement g place r = expressionStatement g r := by
  simp [statement, hless, atAsyncFunction, startsUsing]

end Less

/-! ## Markup -/

section Markup

variable {r s : Reading} {term : Term} {depth : Nat} (hless : r.token.kind = .mark .less)
  (hguess : arrowGuess r = (.no, r))
  (hmarkup : (advance >>= fun _ => markup (.upTo depth) false r.token.start) r = (term, s))
  (hs : s.token.kind = .ending)

include hless hguess hmarkup hs

lemma assignment_of_markup : assignment (.upTo (depth + 1)) r = (term, s) := by
  have hgrouped : groupedArrow (.upTo (depth + 1)) r = (none, r) := by
    rw [groupedArrow, bind_apply, hguess]
    rfl
  have hupdated : updateTerm (.upTo (depth + 1)) r = (term, s) := by
    rw [bind_apply] at hmarkup
    have hmarkup : (Grammar.upTo (depth + 1)).markup false r.token.start (advance r).2
        = (term, s) := hmarkup
    simp [updateTerm, hless, isUpdateOperator, hmarkup]
  have hsigned : signedTerm (.upTo (depth + 1)) r = (term, s) := by
    simp [signedTerm, hless, isUnaryOperator, atAwait, hupdated]
  have hbinary : binary (.upTo (depth + 1)) 0 r = (term, s) := by
    simp [binary, hless, firstOperand, hsigned, hs, binaryRest_ending hs]
  simp [assignment, atYield, hless, hgrouped, asyncNameArrow, hbinary, hs, isAssignmentOperator,
    eat_ending hs]

/-- Markup up to the end of the text is a statement. -/
lemma statement_of_markup (hr : r.context = .module) (hcontext : s.context = .module)
    (hname : ∀ name, term.value ≠ .name name) (place : Place) :
    statement (.upTo (depth + 2)) place r = (⟨r.token.start, s.lastStop, some term⟩, s) := by
  have hexpression : expression (.upTo (depth + 2)) r = (term, s) := by
    have hassignment : (Grammar.upTo (depth + 2)).assignment r = (term, s) :=
      assignment_of_markup hless hguess hmarkup hs
    simp [expression, hassignment, hs]
  have hin : withIn (expression (.upTo (depth + 2))) r = (term, s) := by
    rw [withIn, within_apply, inOperator_of_module hr, hexpression, hr, ← hcontext]
  rw [statement_less hless]
  simp only [expressionStatement, bind_apply, here_apply, hin, endStatement_ending hs,
    lastStop_apply, pure_apply]

end Markup

/-! ## Readers that have been stopped -/

/-- A reader that a fault has stopped: it is at the end of the text, and nothing else has been
reported. -/
structure Reading.Halted (fault : Fault) (r : Reading) : Prop where
  stopped : r.stopped = some fault
  kind : r.token.kind = .ending
  cursor : r.cursor.rest = []
  scanFaults : r.scanFaults = []
  faults : r.faults = []

/-- Behind the end of the text there is nothing more to read. -/
lemma Reading.halted_next {fault : Fault} {r : Reading} (hstopped : r.stopped = some fault)
    (hcursor : r.cursor.rest = []) (hscan : r.scanFaults = []) (hfaults : r.faults = []) :
    (r.next (scan .script)).Halted fault := by
  have hempty : r.cursor = ⟨[], r.cursor.offset⟩ := by rw [← hcursor]
  refine ⟨hstopped, ?_, ?_, ?_, hfaults⟩
  · rw [Reading.next, hempty]
    exact sees_ending.kind_eq _
  · rw [Reading.next, hempty]
    exact congrArg Cursor.rest (sees_ending.cursor_eq _)
  · rw [Reading.next, hempty, hscan]
    exact sees_ending.faults_eq r.cursor.offset

/-- From a state, a reader comes to where a fault has stopped it.  What it gives back has the
property `p`. -/
def Ends {α : Type} (fault : Fault) (reader : Read α) (r : Reading) (p : α → Prop) : Prop :=
  (reader r).2.Halted fault ∧ p (reader r).1

section Ends

variable {α β : Type} {fault : Fault} {reader : Read α} {next : α → Read β} {r : Reading} {a : α}
  {p : α → Prop} {q : β → Prop}

lemma Ends.bind (h : Ends fault reader r p)
    (hnext : ∀ a s, p a → s.Halted fault → Ends fault (next a) s q) :
    Ends fault (reader >>= next) r q :=
  hnext _ _ h.2 h.1

lemma Ends.look (h : reader r = (a, r)) (hnext : Ends fault (next a) r q) :
    Ends fault (reader >>= next) r q := by
  rw [Ends, bind_apply, h]
  exact hnext

lemma Ends.within {change : Context → Context}
    (h : Ends fault reader { r with context := change r.context } p) :
    Ends fault (Read.within change reader) r p := by
  rw [Ends, within_apply]
  exact ⟨⟨h.1.stopped, h.1.kind, h.1.cursor, h.1.scanFaults, h.1.faults⟩, h.2⟩

end Ends

namespace Reading.Halted

variable {fault : Fault} {r : Reading} (h : r.Halted fault)

include h

lemma fault? : r.fault? = some fault := by
  simp [Reading.fault?, h.scanFaults, h.faults, h.stopped]

lemma context (s : Context) : Reading.Halted fault { r with context := s } :=
  ⟨h.stopped, h.kind, h.cursor, h.scanFaults, h.faults⟩

lemma stop (cause : Fault.Cause) (offset : Nat) : Read.stop cause offset r = ((), r) := by
  simp [Read.stop, stopWith, h.stopped]

lemma report (cause : Fault.Cause) (offset : Nat) : Read.report cause offset r = ((), r) := by
  simp [Read.report, h.stopped]

lemma unexpected : Read.unexpected r = ((), r) := by
  simp [Read.unexpected, h.scanFaults, h.stop]

lemma expect (mark : Mark) : Ends fault (Read.expect mark) r fun _ => True := by
  have hrequire : require (.mark mark) r = ((), r) := by
    simp [require, h.stop]
  have hadvance : advance r = ((), r.next (scan .script)) := by
    rw [advance, advanceBy, bind_apply, token_apply, h.kind]
    rfl
  refine Ends.look hrequire ?_
  rw [Ends, hadvance]
  exact ⟨halted_next h.stopped h.cursor h.scanFaults h.faults, trivial⟩

/-- An operand is missed, to no effect. -/
lemma primary (g : Grammar) : ∃ term, Script.primary g r = (term, r) := by
  refine ⟨⟨.other, r.token.start, r.token.start⟩, ?_⟩
  simp [Script.primary, atAsyncFunction, h.kind, nameTerm, Token.Kind.isNameOrAwait,
    Token.Kind.isName, unexpectedTerm, h.unexpected, noTerm]

/-- So is an expression. -/
lemma assignment (depth : Nat) : ∃ term, Script.assignment (.upTo (depth + 1)) r = (term, r) := by
  obtain ⟨term, hprimary⟩ := h.primary (.upTo depth)
  have hprimary : (Grammar.upTo (depth + 1)).primary r = (term, r) := hprimary
  have hlinked : linkedTerm (.upTo (depth + 1)) r = (term, r) := by
    simp [linkedTerm, hprimary, callLinks, h.stopped]
  have hupdated : updateTerm (.upTo (depth + 1)) r = (term, r) := by
    simp [updateTerm, h.kind, hlinked, isUpdateOperator]
  have hsigned : signedTerm (.upTo (depth + 1)) r = (term, r) := by
    simp [signedTerm, h.kind, isUnaryOperator, atAwait, hupdated]
  have hbinary : binary (.upTo (depth + 1)) 0 r = (term, r) := by
    simp [binary, h.kind, firstOperand, hsigned, binaryRest_ending h.kind]
  refine ⟨term, ?_⟩
  simp [Script.assignment, atYield, groupedArrow, arrowGuess, asyncNameArrow, hbinary, h.kind,
    isAssignmentOperator, eat_ending h.kind]

end Reading.Halted

/-! ## Type parameters -/

/-- A reader in front of a `<`, without a fault so far. -/
structure Reading.AtLess (start : Nat) (r : Reading) : Prop where
  kind : r.token.kind = .mark .less
  start_eq : r.token.start = start
  escaped : r.token.escaped = false
  stopped : r.stopped = none
  scanFaults : r.scanFaults = []
  faults : r.faults = []

lemma Reading.AtLess.context {start : Nat} {r : Reading} (h : r.AtLess start) (s : Context) :
    Reading.AtLess start { r with context := s } :=
  ⟨h.kind, h.start_eq, h.escaped, h.stopped, h.scanFaults, h.faults⟩

/-- The fault of a `<` where the parameters of a function should be. -/
def missingParameters (offset : Nat) : Fault := ⟨.expected "(" "<", offset⟩

section TypeParameters

variable {start : Nat} {r : Reading} (h : r.AtLess start)

include h

lemma ends_parameters (g : Grammar) :
    Ends (missingParameters start) (parameters g) r fun _ => True := by
  have hrequire : require (.mark .openParen) r
      = ((), { r with stopped := some (missingParameters start), cursor := r.cursor.finish }) := by
    simp [require, h.kind, h.start_eq, Read.stop, stopWith, h.stopped]
    rfl
  have hexpect : Ends (missingParameters start) (expect .openParen) r fun _ => True := by
    rw [Ends, Read.expect, bind_apply, hrequire]
    refine ⟨?_, trivial⟩
    rw [advance_apply (r := _) (by exact h.escaped)]
    exact Reading.halted_next rfl rfl h.scanFaults h.faults
  refine Ends.look (here_apply r) (Ends.bind hexpect fun _ s _ hs => ?_)
  have hitems : bindingItems .closeParen (parameter g) (restBinding g) .restParameterNotLast s
      = (⟨[], 0, none⟩, s) := by
    simp [bindingItems, bindingItemsFrom, listEnds, hs.kind]
  exact Ends.look hitems (Ends.bind (hs.expect .closeParen) fun _ s _ hs => ⟨hs, trivial⟩)

lemma ends_arrowFunction (depth : Nat) :
    Ends (missingParameters start) (arrowFunction (.upTo (depth + 2))) r fun term =>
      term.value = .arrow := by
  have hasync : eatWord "async" r = (false, r) :=
    eatWord_of_ne (by rw [h.kind]; exact Token.Kind.noConfusion)
  refine Ends.look (here_apply r) (Ends.look hasync ?_)
  refine Ends.bind (Ends.within (ends_parameters (h.context _) _)) fun _ s _ hs => ?_
  refine Ends.bind (p := fun _ => True) ?_ fun _ s _ hs => ?_
  · refine Ends.look (token_apply s) ?_
    split_ifs
    · exact Ends.look (hs.report _ _) (hs.expect .arrow)
    · exact hs.expect .arrow
  · refine Ends.bind (p := fun _ => True) (Ends.within ?_) fun _ s _ hs => ⟨hs, rfl⟩
    have hs := hs.context { s.context with await := false, yield := false }
    obtain ⟨body, hbody⟩ := hs.assignment depth
    have hbody : (Grammar.upTo (depth + 2)).assignment { s with context := _ } = (body, _) := hbody
    refine Ends.look (at?_apply .openBrace _) ?_
    rw [hs.kind]
    exact Ends.look hbody ⟨hs, trivial⟩

variable (hguess : arrowGuess r = (.yes, r))

include hguess

lemma ends_assignment (depth : Nat) :
    Ends (missingParameters start) (assignment (.upTo (depth + 2))) r fun term =>
      term.value = .arrow := by
  have hyield : atYield r = (false, r) := by simp [atYield, h.kind]
  have hgrouped : Ends (missingParameters start) (groupedArrow (.upTo (depth + 2))) r
      fun found => ∃ term, found = some term ∧ term.value = .arrow := by
    refine Ends.look hguess (Ends.bind (ends_arrowFunction h depth) fun term s hterm hs => ?_)
    exact ⟨hs, term, rfl, hterm⟩
  refine Ends.look hyield (Ends.bind hgrouped ?_)
  rintro _ s ⟨term, rfl, hterm⟩ hs
  exact ⟨hs, hterm⟩

/-- A statement that is taken to start with type parameters stops at its `<`. -/
lemma ends_statement (hr : r.context = .module) (depth : Nat) (place : Place) :
    Ends (missingParameters start) (statement (.upTo (depth + 3)) place) r fun _ => True := by
  have hexpression : Ends (missingParameters start) (expression (.upTo (depth + 3))) r
      fun term => term.value = .arrow := by
    have hassignment : Ends (missingParameters start) (Grammar.upTo (depth + 3)).assignment r
        fun term => term.value = .arrow := ends_assignment h hguess depth
    refine Ends.look (here_apply r) (Ends.bind hassignment fun term s hterm hs => ?_)
    refine Ends.look (at?_apply .comma s) ?_
    rw [hs.kind]
    exact ⟨hs, hterm⟩
  have hin : Ends (missingParameters start) (withIn (expression (.upTo (depth + 3)))) r
      fun term => term.value = .arrow := by
    refine Ends.within ?_
    rw [inOperator_of_module hr]
    exact hexpression
  have hstatement : Ends (missingParameters start) (expressionStatement (.upTo (depth + 3))) r
      fun _ => True := by
    refine Ends.look (here_apply r) (Ends.bind hin fun term s hterm hs => ?_)
    simp only [hterm]
    exact Ends.look (endStatement_ending hs.kind) ⟨hs, trivial⟩
  rw [Ends, statement_less h.kind]
  exact hstatement

end TypeParameters

/-! ## Modules -/

lemma moduleRule_of_statement {g : Grammar} {r : Reading} (hless : r.token.kind = .mark .less)
    (hstopped : r.stopped = none) (h : (statement g .list r).2.token.kind = .ending) :
    moduleRule g r = ([(statement g .list r).1], (statement g .list r).2) := by
  simp [moduleRule, moduleStatements, hless, hstopped, h]

lemma leadingComment?_less (rest : List Char) : leadingComment? ('<' :: rest) = none := by
  have hskip : (⟨'<' :: rest, 0⟩ : Cursor).skipWhile (fun c => isLineEnd c || isGapChar c)
      = ⟨'<' :: rest, 0⟩ := by
    have hstays := @Cursor.skipWhile_append (fun c => isLineEnd c || isGapChar c) [] ('<' :: rest)
    exact hstays (by simp) (by simp; decide) 0
  simp [leadingComment?, hskip]

section Module

variable {rest : List Char} (hless : (Reading.start ('<' :: rest)).AtLess 0)

include hless

/-- The look moves nothing. -/
lemma snd_arrowGuess_start : (arrowGuess (.start ('<' :: rest))).2 = .start ('<' :: rest) := by
  rw [arrowGuess_less hless.kind hless.escaped]

/-- The look comes to a decision. -/
lemma not_followsMarkupGrammar_iff :
    ¬ FollowsMarkupGrammar ('<' :: rest) ↔ (arrowGuess (.start ('<' :: rest))).1 = .yes := by
  have hmaybe := guessBehindLess_ne_maybe ((Reading.start ('<' :: rest)).next (scan .script))
  unfold FollowsMarkupGrammar
  rw [arrowGuess_less hless.kind hless.escaped]
  cases hlook : (guessBehindLess ((Reading.start ('<' :: rest)).next (scan .script))).1 with
  | no => simp
  | yes => simp
  | maybe => exact absurd hlook hmaybe

/-- A text of markup is one statement, if it is read by the grammar of markup. -/
lemma readModule_of_markup {term : Term} {stop : Nat}
    (hgrammar : FollowsMarkupGrammar ('<' :: rest))
    (hmarkup : (advance >>= fun _ => markup (.upTo (rest.length + 15)) false 0)
      (.start ('<' :: rest)) = (term, viewing (scan .script) ('<' :: rest) [] stop))
    (hname : ∀ name, term.value ≠ .name name) :
    readModule ('<' :: rest) = .ok [⟨0, stop, some term⟩] := by
  rw [← hless.start_eq] at hmarkup
  have hguess : arrowGuess (.start ('<' :: rest)) = (.no, .start ('<' :: rest)) :=
    Prod.ext hgrammar (snd_arrowGuess_start hless)
  have hending : (viewing (scan .script) ('<' :: rest) [] stop).token.kind = .ending :=
    sees_ending.kind_eq _
  have hstatement := statement_of_markup hless.kind hguess hmarkup hending rfl rfl hname .list
  have hrule := moduleRule_of_statement hless.kind hless.stopped (by rw [hstatement]; exact hending)
  have hfault : (viewing (scan .script) ('<' :: rest) [] stop).fault? = none := by
    rw [Reading.fault?, show (viewing (scan .script) ('<' :: rest) [] stop).scanFaults = [] from
      sees_ending.faults_eq (size ('<' :: rest))]
    rfl
  have hexports : ExportedName.fault? (viewing (scan .script) ('<' :: rest) [] stop).exports
      = none := rfl
  have hdepth : Grammar.forLength ('<' :: rest).length = .upTo (rest.length + 15 + 2) := rfl
  simp only [readModule, hdepth, hrule, hstatement, hfault, hexports, hless.start_eq,
    viewing_lastStop]

/-- It is refused if the tag is taken for type parameters. -/
lemma readModule_of_types (hgrammar : ¬ FollowsMarkupGrammar ('<' :: rest)) :
    readModule ('<' :: rest) = .error (missingParameters 0) := by
  have hguess : arrowGuess (.start ('<' :: rest)) = (.yes, .start ('<' :: rest)) :=
    Prod.ext ((not_followsMarkupGrammar_iff hless).mp hgrammar) (snd_arrowGuess_start hless)
  obtain ⟨hhalted, -⟩ := ends_statement hless hguess rfl (rest.length + 14) .list
  have hrule := moduleRule_of_statement hless.kind hless.stopped hhalted.kind
  have hdepth : Grammar.forLength ('<' :: rest).length = .upTo (rest.length + 14 + 3) := rfl
  simp only [readModule, hdepth, hrule, hhalted.fault?, leadingComment?_less]

end Module

end Componentry.Script
