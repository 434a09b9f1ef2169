import Componentry.Proofs.Script.Stepping
import Componentry.Script.Module
import Componentry.Value

/-!
# Operands in braces

A name, a number or a boolean between braces is read as itself.

**Looking ahead.**  Many words can begin something longer: `async` a function, `yield` an operator,
any name an arrow function or an assignment.  None of that can happen in front of a closing brace or
at the end of the text, so all the rules from `expression` down to `primary` hand the operand on
(`expression_of_primary`).

**Operands.**  `Operand text shape` lists the texts in question.  `Operand.reads_closed` is the
result: an operand and its brace are read, and the embedded expression has the very text, with the
kind of its shape.
-/

namespace Componentry.Script

open Read Text

/-! ## Looking ahead -/

/-- Whether a token is an operand all by itself: a name, a number, a string or a boolean. -/
def isOperand : Token.Kind → Bool
  | .number _ | .string _ _ => true
  | kind => kind.isName || kind == .word "true" || kind == .word "false"

/-- A token that no operand goes on with: a closing brace, or the end of the text. -/
def EndsOperand (kind : Token.Kind) : Prop :=
  kind = .mark .closeBrace ∨ kind = .ending

section Operand

variable {r : Reading} (hr : r.Running) (hkind : isOperand r.token.kind = true)
  (hnext : EndsOperand (r.next (scan .script)).token.kind)

lemma isOperand_spec {kind : Token.Kind} (h : isOperand kind = true) :
    isUnaryOperator kind = false ∧ kind ≠ .word "await" ∧ kind ≠ .privateName
      ∧ ∀ mark, kind ≠ .mark mark := by
  have hwords : ∀ word ∈ "true" :: "false" :: contextualWords,
      isUnaryOperator (.word word) = false ∧ word ≠ "await" := by decide
  cases kind with
  | name => simp [isUnaryOperator]
  | number form => simp [isUnaryOperator]
  | string value sound => simp [isUnaryOperator]
  | word word =>
      have hmem : word ∈ "true" :: "false" :: contextualWords := by
        simpa [isOperand, Token.Kind.isName, or_assoc, or_comm, or_left_comm] using h
      simpa using hwords word hmem
  | _ => simp [isOperand, Token.Kind.isName] at h

@[simp] lemma mark_beq_word (mark : Mark) (word : String) :
    (Token.Kind.mark mark == .word word) = false :=
  beq_eq_false_iff_ne.mpr Token.Kind.noConfusion

@[simp] lemma ending_beq_word (word : String) : (Token.Kind.ending == .word word) = false :=
  beq_eq_false_iff_ne.mpr Token.Kind.noConfusion

lemma nameTerm_of_isName (hr : r.Running) (hname : r.token.kind.isName = true) :
    nameTerm r = (⟨.name r.token.value, r.token.start, r.token.stop⟩, r.next (scan .script)) := by
  have hawait : r.token.kind ≠ .word "await" := by
    intro h
    rw [h] at hname
    exact absurd hname (by decide)
  simp [nameTerm, Token.Kind.isNameOrAwait, hname, checkName, hr.context, Context.module, hawait]

section Lookahead

include hnext

lemma atLooseOperator_of_next : atLooseOperator r = (false, r) := by
  rcases hnext with hnext | hnext <;>
    simp [atLooseOperator, hnext, startsAwaited, Token.Kind.isWordLike, Token.Kind.isLiteral]

lemma atAsyncFunction_of_next : atAsyncFunction r = (false, r) := by
  rcases hnext with hnext | hnext <;> simp [atAsyncFunction, hnext]

lemma asyncNameArrow_of_next (g : Grammar) : asyncNameArrow g r = (none, r) := by
  rcases hnext with hnext | hnext <;>
    simp [asyncNameArrow, hnext, Token.Kind.isNameOrAwait, Token.Kind.isName]

include hr

lemma atYield_of_next : atYield r = (false, r) := by
  simp [atYield, hr.context, Context.module, atLooseOperator_of_next hnext]

lemma groupedArrow_of_next (g : Grammar) (hmark : ∀ mark, r.token.kind ≠ .mark mark) :
    groupedArrow g r = (none, r) := by
  have hguess : arrowGuess r = (.no, r) := by
    by_cases hasync : r.token.kind = .word "async"
    · rcases hnext with hnext | hnext <;>
        simp [arrowGuess, eatWord, advance_apply hr.escaped, hnext, hasync]
    · simp [arrowGuess, hasync, hmark]
  simp [groupedArrow, hguess]

end Lookahead

lemma eat_of_endsOperand {mark : Mark} {s : Reading} (hs : EndsOperand s.token.kind)
    (hmark : mark ≠ .closeBrace) : eat mark s = (false, s) := by
  refine eat_of_ne ?_
  rcases hs with hs | hs <;> simp [hs, hmark.symm]

lemma callLinks_of_endsOperand {s : Reading} (hs : EndsOperand s.token.kind)
    (hstopped : s.stopped = none) (g : Grammar) (start : Nat) (steps : Nat) (term : Term) :
    callLinks g start (steps + 1) false term s = ((term, false), s) := by
  have hmember : ∀ more, memberLinks g start true (more + 1) false term s = ((term, false), s) := by
    intro more
    rcases hs with hs | hs <;> simp [memberLinks, hs, hstopped]
  have heat : eat .optionalDot s = (false, s) := eat_of_endsOperand hs (by decide)
  rcases hs with hs | hs <;> simp [callLinks, hstopped, hmember, heat, hs]

lemma binaryRest_of_endsOperand {s : Reading} (hs : EndsOperand s.token.kind) (g : Grammar)
    (start strength steps : Nat) (term : Term) :
    binaryRest g start strength (steps + 1) term s = (term, s) := by
  rcases hs with hs | hs <;> simp [binaryRest, hs, bindingStrength?]

include hr hkind hnext

/-- An operand that nothing goes on with is the whole expression. -/
lemma expression_of_primary {term : Term} {depth : Nat}
    (hprimary : primary (.upTo depth) r = (term, r.next (scan .script))) :
    expression (.upTo (depth + 2)) r = (term, r.next (scan .script)) := by
  obtain ⟨hunary, hawait, hprivate, hmark⟩ := isOperand_spec hkind
  have hstopped : (r.next (scan .script)).stopped = none := hr.stopped
  have hcall := callLinks_of_endsOperand hnext hstopped (.upTo (depth + 1))
  have hrest := binaryRest_of_endsOperand hnext (.upTo (depth + 1))
  have hprimary : (Grammar.upTo (depth + 1)).primary r = (term, r.next (scan .script)) := hprimary
  have hlinked : linkedTerm (.upTo (depth + 1)) r = (term, r.next (scan .script)) := by
    simp [linkedTerm, hprimary, hcall]
  have hupdated : updateTerm (.upTo (depth + 1)) r = (term, r.next (scan .script)) := by
    rcases hnext with hnext | hnext <;> simp [updateTerm, hmark, hlinked, hnext, isUpdateOperator]
  have hsigned : signedTerm (.upTo (depth + 1)) r = (term, r.next (scan .script)) := by
    simp [signedTerm, hunary, atAwait, hawait, hupdated]
  have hbinary : binary (.upTo (depth + 1)) 0 r = (term, r.next (scan .script)) := by
    rcases hnext with hnext | hnext <;> simp [binary, hprivate, firstOperand, hsigned, hnext, hrest]
  have hquestion : eat .question (r.next (scan .script)) = (false, r.next (scan .script)) :=
    eat_of_endsOperand hnext (by decide)
  have hassignment : (Grammar.upTo (depth + 2)).assignment r = (term, r.next (scan .script)) := by
    change assignment (.upTo (depth + 1)) r = _
    have hyield := atYield_of_next hr hnext
    have hgrouped := groupedArrow_of_next hr hnext (.upTo (depth + 1)) hmark
    have harrow := asyncNameArrow_of_next hnext (.upTo (depth + 1))
    rcases hnext with hnext | hnext <;>
      simp [assignment, hyield, hgrouped, harrow, hbinary, hnext, isAssignmentOperator, hquestion]
  rcases hnext with hnext | hnext <;> simp [expression, hassignment, hnext]

omit hkind

lemma primary_of_isName (g : Grammar) (hname : r.token.kind.isName = true) :
    primary g r = (⟨.name r.token.value, r.token.start, r.token.stop⟩, r.next (scan .script)) := by
  have hwords : ∀ word ∈ contextualWords,
      word ∉ ["true", "false", "null", "this", "function", "class", "new",
      "super", "import"] := by decide
  have hword : ∀ {word : String}, r.token.kind = .word word → word ∈ contextualWords := by
    intro word h
    simpa [h, Token.Kind.isName] using hname
  rw [← nameTerm_of_isName hr hname]
  simp only [primary, bind_apply, token_apply, atAsyncFunction_of_next hnext, Bool.false_eq_true,
    if_false]
  generalize hkind : r.token.kind = kind at hname hword
  cases kind with
  | name => rfl
  | word word =>
      have hmem := hwords word (hword rfl)
      refine congrFun ?_ r
      split <;> simp_all
  | _ => simp [Token.Kind.isName] at hname

lemma primary_of_number (g : Grammar) {form : NumberForm} (hnumber : r.token.kind = .number form) :
    primary g r = (⟨.number, r.token.start, r.token.stop⟩, r.next (scan .script)) := by
  simp [primary, atAsyncFunction_of_next hnext, hnumber, advance_apply hr.escaped]

lemma primary_of_string (g : Grammar) {value : String} {sound : Bool}
    (hstring : r.token.kind = .string value sound) :
    primary g r = (⟨.string value, r.token.start, r.token.stop⟩, r.next (scan .script)) := by
  simp [primary, atAsyncFunction_of_next hnext, hstring, advance_apply hr.escaped]

lemma primary_of_boolean (g : Grammar) {b : Bool} (hword : r.token.kind = .word (showBool b)) :
    primary g r = (⟨.boolean b, r.token.start, r.token.stop⟩, r.next (scan .script)) := by
  cases b <;> simp [primary, atAsyncFunction_of_next hnext, hword, advance_apply hr.escaped,
    showBool]

end Operand

/-! ## Operands -/

/-- The texts that are operands all by themselves, with their shapes. -/
inductive Operand : List Char → Shape → Prop where
  | name {text : List Char} (hword : isScriptName text = true)
      (hfree : String.ofList text ∉ reservedWords) :
      Operand text (.name (String.ofList text))
  | number {digits : List Char} (hne : digits ≠ []) (hdigits : ∀ c ∈ digits, c.isDigit = true)
      (hzero : digits.head? = some '0' → digits = ['0']) : Operand digits .number
  | boolean (b : Bool) : Operand (showBool b).toList (.boolean b)

namespace Operand

variable {text : List Char} {shape : Shape}

lemma tight (h : Operand text shape) : Tight text := by
  cases h with
  | name hword hfree => exact tight_of_isScriptName hword
  | number hne hdigits hzero =>
      exact tight_of_forall hne fun c hc => isBlank_of_isNamePart (isDigit_spec (hdigits c hc)).1
  | boolean b => cases b <;> exact tight_of_isScriptName rfl

lemma endsWordAt_closeBrace (rest : List Char) : EndsWordAt ('}' :: rest) := by
  intro c hc
  obtain rfl : '}' = c := Option.some.inj hc
  decide

/-- What an operand is seen as. -/
def kind (text : List Char) : Shape → Token.Kind
  | .number => .number .decimal
  | _ => kindOfWord text

lemma isOperand_kind (h : Operand text shape) : isOperand (kind text shape) = true := by
  cases h with
  | name hword hfree =>
      have hname := isName_kindOfWord hword hfree
      cases hkind : kindOfWord text <;> simp_all [isOperand, kind]
  | number hne hdigits hzero => rfl
  | boolean b => cases b <;> decide

lemma sees (h : Operand text shape) (rest : List Char) :
    Sees (scan .script) text ('}' :: rest) (kind text shape) := by
  cases h with
  | name hword hfree => exact sees_word hword (endsWordAt_closeBrace rest) .script
  | number hne hdigits hzero => exact sees_number hdigits hne hzero rest
  | boolean b => exact sees_word (by cases b <;> decide) (endsWordAt_closeBrace rest) .script

lemma kind_ne_mark (h : Operand text shape) (rest : List Char) (mark : Mark) (offset : Nat) :
    (scan .script ⟨text ++ '}' :: rest, offset⟩).token.kind ≠ .mark mark := by
  rw [(h.sees rest).kind_eq]
  exact (isOperand_spec h.isOperand_kind).2.2.2 mark

section Viewing

variable (h : Operand text shape) (front rest : List Char) (lastStop : Nat)

include h

lemma next_kind : EndsOperand
    ((viewing (scan .script) front (text ++ '}' :: rest) lastStop).next
      (scan .script)).token.kind := by
  rw [(h.sees rest).next_viewing]
  exact .inl ((sees_closeBrace .script rest).kind_eq _)

lemma primary_viewing (g : Grammar) :
    primary g (viewing (scan .script) front (text ++ '}' :: rest) lastStop)
      = (⟨shape, size front, size front + size text⟩,
        (viewing (scan .script) front (text ++ '}' :: rest) lastStop).next (scan .script)) := by
  have hsees := h.sees rest
  have hrunning := hsees.running front lastStop
  have hnext := h.next_kind front rest lastStop
  have hkind : (viewing (scan .script) front (text ++ '}' :: rest) lastStop).token.kind
      = kind text shape :=
    hsees.kind_eq _
  have hstart : (viewing (scan .script) front (text ++ '}' :: rest) lastStop).token.start
      = size front :=
    hsees.start_eq _
  have hstop : (viewing (scan .script) front (text ++ '}' :: rest) lastStop).token.stop
      = size front + size text := hsees.stop_eq _
  rw [← hstop, ← hstart]
  cases h with
  | name hword hfree =>
      rw [primary_of_isName hrunning hnext g (by rw [hkind]; exact isName_kindOfWord hword hfree)]
      simp only [viewing, value_of_isScriptName hword (endsWordAt_closeBrace rest)]
  | number hne hdigits hzero => exact primary_of_number hrunning hnext g hkind
  | boolean b =>
      refine primary_of_boolean hrunning hnext g ?_
      rw [hkind]
      cases b <;> decide

/-- An operand in front of a closing brace is read as what it is. -/
lemma expression_viewing (depth : Nat) :
    expression (.upTo (depth + 2)) (viewing (scan .script) front (text ++ '}' :: rest) lastStop)
      = (⟨shape, size front, size front + size text⟩,
        viewing (scan .script) (front ++ text) ('}' :: rest) (size front + size text)) := by
  have hsees := h.sees rest
  have hoperand :
      isOperand (viewing (scan .script) front (text ++ '}' :: rest) lastStop).token.kind
        = true := by
    rw [viewing, hsees.kind_eq]
    exact h.isOperand_kind
  rw [expression_of_primary (hsees.running front lastStop) hoperand
    (h.next_kind front rest lastStop) (h.primary_viewing front rest lastStop _), hsees.next_viewing]

end Viewing

/-- An operand with its closing brace, and what is done with it. -/
lemma reads_closed {β : Type} (h : Operand text shape) {depth : Nat} {content : Bool}
    {next : Expression → Read β} {piece rest : List Char} {way : Cursor → Scanned} {q : β → Prop}
    (hnext : Reads (wayBehind content) (next ⟨String.ofList text, shape.kind⟩) piece way rest q) :
    Reads (scan .script) (do
        let term ← expression (.upTo (depth + 2))
        expectIn content .closeBrace
        let e ← term.toExpression
        next e) (text ++ '}' :: piece) way rest q := by
  intro front lastStop
  obtain ⟨_, stop, hexpect, _⟩ := reads_expectIn (sees_closeBrace .script (piece ++ rest)) content
    (front ++ text) (size front + size text)
  obtain ⟨b, stop', hb, hq⟩ := hnext (front ++ text ++ ['}']) stop
  refine ⟨b, stop', ?_, hq⟩
  have hpiece : text ++ '}' :: piece ++ rest = text ++ '}' :: (piece ++ rest) := by simp
  have hsource : slice (front ++ text ++ ['}'] ++ (piece ++ rest)) (size front)
      (size front + size text) = text := by
    simp only [List.append_assoc, slice_append]
  have htrim : trimmed (String.ofList text) = String.ofList text := by
    rw [trimmed, String.toList_ofList, trim_of_tight h.tight]
  rw [hpiece, bind_apply, h.expression_viewing]
  rw [List.singleton_append] at hexpect
  simp only [bind_apply, hexpect, Term.toExpression, textBetween_apply, viewing_source, hsource,
    htrim, pure_apply, hb]
  simp

end Operand

end Componentry.Script
