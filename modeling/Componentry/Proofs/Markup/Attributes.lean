import Componentry.Lowering
import Componentry.Proofs.Component.RouteTest
import Componentry.Proofs.Script.Operands

/-!
# Attributes are read as they are written

The attributes of a tag, from their code back to what they say.

**Plain attributes.**  A key of letters with a value that needs no quoting (`Value.isPlain`), or a
spread of a name.  Their code is a word, then nothing, a text in quotes or an operand in braces
(`Value.code_of_isPlain`).

**Names.**  A name in a tag can go on with a hyphen, a colon or a dot.  `EndsTagName` says that it
does not, and `GoesOn` that no value follows either; both hold in front of another attribute and at
the end of the tag (`EndsTag`).

The result is `reads_attributesFrom`: the attributes of a tag are read up to its end, and each of
them is lowered to the property it was written for.
-/

namespace Componentry

open Script Read Text Markup

/-! ## Plain attributes -/

/-- Whether a text has ASCII letters, and nothing else. -/
def isLetters (text : String) : Bool :=
  !text.toList.isEmpty && text.toList.all isAsciiLetter

/-- Whether an expression is a name: an identifier of a script that is not reserved. -/
def Expression.isFreeName (e : Expression) : Bool :=
  isScriptName e.source.toList && !reservedWords.contains e.source && e.kind == .identifier e.source

/-- Whether the value of an attribute is written so that it can be read again. -/
def Value.isPlain : Value → Bool
  | .bare => true
  | .text written => !written.toList.contains '"' && !isInlineHandler written
  | .number source =>
    !source.toList.isEmpty && source.toList.all Char.isDigit
      && (source.toList.head? != some '0' || source.toList == ['0'])
  | .boolean _ => true
  | .expression e => e.isFreeName

/-- Whether an attribute is written so that it can be read again.  The key `slot` would address the
element to a slot. -/
def Property.isPlain : Property → Bool
  | .named key value => isLetters key && key != "slot" && value.isPlain
  | .spread argument => argument.isFreeName

lemma isScriptName_of_isLetters {text : String} (h : isLetters text = true) :
    isScriptName text.toList = true := by
  simp only [isLetters, Bool.and_eq_true, Bool.not_eq_true', List.all_eq_true] at h
  obtain ⟨hne, hall⟩ := h
  have hstart : ∀ c ∈ text.toList, isNameStart c = true := fun c hc =>
    isNameStart_of_isAsciiLetter (hall c hc)
  cases htext : text.toList with
  | nil => simp [htext] at hne
  | cons c rest =>
      rw [htext, List.forall_mem_cons] at hstart
      simp only [isScriptName, hstart.1, Bool.true_and, List.all_eq_true]
      exact fun d hd => isNamePart_of_isNameStart (hstart.2 d hd)

/-- A name in braces is read as the expression it is. -/
lemma Expression.operand {e : Expression} (h : e.isFreeName = true) :
    Operand e.source.toList (.name e.source)
      ∧ (⟨e.source, .identifier e.source⟩ : Expression) = e := by
  simp only [isFreeName, Bool.and_eq_true, Bool.not_eq_true', List.contains_eq_mem,
    decide_eq_false_iff_not, beq_iff_eq] at h
  obtain ⟨⟨hword, hfree⟩, hkind⟩ := h
  have hoperand := Operand.name hword (by rwa [String.ofList_toList])
  rw [String.ofList_toList] at hoperand
  exact ⟨hoperand, by rw [← hkind]⟩

/-- The code of a plain value: none, a quoted text, or an operand in braces. -/
lemma Value.code_of_isPlain {value : Value} (h : value.isPlain = true) :
    value = .bare ∧ codeOf (valuePieces value) = []
    ∨ (∃ written, value = .text written ∧ '"' ∉ written.toList
        ∧ codeOf (valuePieces value) = '=' :: '"' :: (written.toList ++ ['"']))
    ∨ ∃ (written : String) (shape : Shape), Operand written.toList shape
        ∧ Value.ofAttribute (some (.expression ⟨written, shape.kind⟩)) = value
        ∧ codeOf (valuePieces value) = '=' :: '{' :: (written.toList ++ ['}']) := by
  cases value with
  | bare => exact .inl ⟨rfl, codeOf_nil⟩
  | text written =>
      simp only [isPlain, Bool.and_eq_true, Bool.not_eq_true', List.contains_eq_mem,
        decide_eq_false_iff_not] at h
      obtain ⟨hquote, hhandler⟩ := h
      have hsingle : (singleQuotes written).toList = written.toList := by
        rw [singleQuotes, String.toList_ofList]
        conv_rhs => rw [← List.map_id written.toList]
        exact List.map_congr_left fun c hc => if_neg (ne_of_mem_of_not_mem hc hquote)
      refine .inr (.inl ⟨written, rfl, hquote, ?_⟩)
      simp [valuePieces, script?, hhandler, Piece.text, hsingle]
  | number source =>
      simp only [isPlain, Bool.and_eq_true, Bool.not_eq_true', List.all_eq_true, Bool.or_eq_true,
        bne_iff_ne, beq_iff_eq, ← imp_iff_not_or, List.isEmpty_eq_false_iff] at h
      obtain ⟨⟨hne, hdigits⟩, hzero⟩ := h
      refine .inr (.inr ⟨source, .number, Operand.number hne hdigits hzero, rfl, ?_⟩)
      simp [valuePieces, Componentry.braced, Piece.text]
  | boolean b =>
      refine .inr (.inr ⟨showBool b, .boolean b, Operand.boolean b, rfl, ?_⟩)
      simp [valuePieces, Componentry.braced, Piece.text]
  | expression e =>
      obtain ⟨hoperand, he⟩ := Expression.operand h
      refine .inr (.inr ⟨e.source, .name e.source, hoperand, congrArg Value.expression he, ?_⟩)
      simp [valuePieces, Componentry.braced, Piece.text]

/-! ## Names in tags -/

/-- What stands behind a name in a tag neither goes on with the name nor makes it a part of a longer
one. -/
structure EndsTagName (rest : List Char) : Prop where
  word : EndsWordAt rest
  hyphen : rest.head? ≠ some '-'
  kind : ∀ offset, (scan .script ⟨rest, offset⟩).token.kind ≠ .mark .colon
    ∧ (scan .script ⟨rest, offset⟩).token.kind ≠ .mark .dot

lemma tagWord_apply {r : Reading} (hr : r.Running) (hword : r.token.kind.isWordLike = true)
    (hhyphen : r.cursor.nextIs (· == '-') = false) :
    tagWord r = (String.ofList (slice r.source r.token.start r.token.stop),
      r.next (scan .script)) := by
  have hextend : extendTagName r.token r.cursor = (r.token, r.cursor) :=
    dif_neg fun h => by simp [hhyphen] at h
  simp [tagWord, hword, hextend, advance_apply hr.escaped]

section TagName

variable {word rest : List Char} (hword : isScriptName word = true) (hrest : EndsTagName rest)

include hword hrest

lemma tagWord_viewing (front : List Char) (lastStop : Nat) :
    tagWord (viewing (scan .script) front (word ++ rest) lastStop)
      = (String.ofList word, viewing (scan .script) (front ++ word) rest
        (size front + size word)) := by
  have hsees := sees_word hword hrest.word .script
  have hlike : (viewing (scan .script) front (word ++ rest) lastStop).token.kind.isWordLike
      = true := by
    rw [viewing, hsees.kind_eq]
    exact isWordLike_kindOfWord hword
  have hhyphen : (viewing (scan .script) front (word ++ rest) lastStop).cursor.nextIs (· == '-')
      = false := by
    have := hrest.hyphen
    rw [viewing, hsees.cursor_eq]
    cases rest <;> simp_all [Cursor.nextIs, Cursor.peek?]
  rw [tagWord_apply (hsees.running front lastStop) hlike hhyphen, hsees.next_viewing]
  simp only [viewing, hsees.start_eq, hsees.stop_eq, slice_append]

lemma reads_tagName : Reads (scan .script) tagName word (scan .script) rest fun name =>
    name.written = String.ofList word ∧ name.spaced = false
      ∧ name.parts = [String.ofList word] := by
  intro front lastStop
  have hstart : (viewing (scan .script) front (word ++ rest) lastStop).token.start = size front :=
    (sees_word hword hrest.word .script).start_eq _
  have hcolon : eat .colon (viewing (scan .script) (front ++ word) rest (size front + size word))
      = (false, viewing (scan .script) (front ++ word) rest (size front + size word)) :=
    eat_of_ne (hrest.kind _).1
  have hdot : eat .dot (viewing (scan .script) (front ++ word) rest (size front + size word))
      = (false, viewing (scan .script) (front ++ word) rest (size front + size word)) :=
    eat_of_ne (hrest.kind _).2
  refine ⟨⟨size front, String.ofList word, false, [String.ofList word]⟩, size front + size word, ?_,
    rfl, rfl, rfl⟩
  simp [tagName, tagWord_viewing hword hrest, hcolon, dottedParts, hdot, hstart, slice_append]

lemma reads_attributeName : Reads (scan .script) attributeName word (scan .script) rest
    fun name => name = String.ofList word := by
  intro front lastStop
  have hcolon : eat .colon (viewing (scan .script) (front ++ word) rest (size front + size word))
      = (false, viewing (scan .script) (front ++ word) rest (size front + size word)) :=
    eat_of_ne (hrest.kind _).1
  refine ⟨String.ofList word, size front + size word, ?_, rfl⟩
  simp [attributeName, tagWord_viewing hword hrest, hcolon]

end TagName

/-! ## Values -/

/-- What stands behind an attribute: the tag goes on, and the attribute has no value there. -/
structure GoesOn (rest : List Char) : Prop extends EndsTagName rest where
  assign : ∀ offset, (scan .script ⟨rest, offset⟩).token.kind ≠ .mark .assign

/-- A tag goes on behind a space or with its closing mark, unless what follows makes a longer
name. -/
lemma goesOn_of_kind {c : Char} {rest : List Char} (hc : c = ' ' ∨ c = '>')
    (hkind : ∀ offset, (scan .script ⟨c :: rest, offset⟩).token.kind ≠ .mark .colon
      ∧ (scan .script ⟨c :: rest, offset⟩).token.kind ≠ .mark .dot
      ∧ (scan .script ⟨c :: rest, offset⟩).token.kind ≠ .mark .assign) : GoesOn (c :: rest) := by
  have hword : EndsWordAt (c :: rest) := by
    intro d hd
    obtain rfl : c = d := Option.some.inj hd
    rcases hc with rfl | rfl <;> decide
  have hhyphen : (c :: rest).head? ≠ some '-' := by
    rcases hc with rfl | rfl <;> simp
  refine ⟨⟨hword, hhyphen, fun offset => ?_⟩, fun offset => (hkind offset).2.2⟩
  exact ⟨(hkind offset).1, (hkind offset).2.1⟩

/-- What stands behind the attributes of a tag: its end. -/
structure EndsTag (rest : List Char) : Prop extends GoesOn rest where
  closing : ∀ offset, (scan .script ⟨rest, offset⟩).token.kind = .mark .slash
    ∨ (scan .script ⟨rest, offset⟩).token.kind = .mark .greater

/-- The end of a tag with content. -/
lemma endsTag_greater (rest : List Char) : EndsTag ('>' :: rest) := by
  have hkind : ∀ offset, (scan .script ⟨'>' :: rest, offset⟩).token.kind = .mark .greater :=
    fun offset =>
    (sees_greater .script rest).kind_eq offset
  refine ⟨goesOn_of_kind (.inr rfl) fun offset => ?_, fun offset => .inr (hkind offset)⟩
  rw [hkind]
  decide

/-- The end of a tag without content. -/
lemma endsTag_slash (rest : List Char) : EndsTag (' ' :: '/' :: '>' :: rest) := by
  have hkind : ∀ offset, (scan .script ⟨' ' :: '/' :: '>' :: rest, offset⟩).token.kind
      = .mark .slash :=
    fun offset => (sees_slash (.inr rfl) .script rest).kind_eq (offset + 1)
  refine ⟨goesOn_of_kind (.inl rfl) fun offset => ?_, fun offset => .inl (hkind offset)⟩
  rw [hkind]
  decide

/-- A text in quotes as the value of an attribute. -/
lemma reads_attributeValue_text {written : List Char} (h : '"' ∉ written) (g : Grammar)
    (rest : List Char) :
    Reads (scan .attribute) (attributeValue g) ('"' :: (written ++ ['"'])) (scan .script) rest
      fun found => found = .text (String.ofList written) := by
  have hsees := sees_quoted h rest
  refine Reads.lookToken hsees.kind_eq fun t ht => ?_
  simp only [ht]
  exact Reads.bind_pure (reads_advanceBy hsees) fun _ _ => rfl

/-- An operand in braces. -/
lemma reads_braced {text : List Char} {shape : Shape} (h : Operand text shape) (depth : Nat)
    (content : Bool) (start : Nat) (rest : List Char) :
    Reads (scan .script) (Script.braced (.upTo (depth + 2)) content start) (text ++ ['}'])
      (wayBehind content) rest fun e => e = ⟨String.ofList text, shape.kind⟩ := by
  refine Reads.lookAt (fun offset => beq_eq_false_iff_ne.mpr ?_) ?_
  · rw [List.append_assoc]
    exact h.kind_ne_mark rest .closeBrace offset
  · have hclosed : Reads (scan .script) (do
        let term ← expression (.upTo (depth + 2))
        expectIn content .closeBrace
        let e ← term.toExpression
        pure e) (text ++ ['}']) (wayBehind content) rest fun e =>
        e = ⟨String.ofList text, shape.kind⟩ :=
      h.reads_closed (reads_pure rfl)
    simpa only [bind_pure, Bool.false_eq_true, if_false] using hclosed

/-- An expression in braces as the value of an attribute. -/
lemma reads_attributeValue_operand {text : List Char} {shape : Shape} (h : Operand text shape)
    (depth : Nat) (rest : List Char) :
    Reads (scan .attribute) (attributeValue (.upTo (depth + 2))) ('{' :: (text ++ ['}']))
      (scan .script) rest fun found => found = .expression ⟨String.ofList text, shape.kind⟩ := by
  have hsees := sees_openBrace .attribute (text ++ ['}'] ++ rest)
  refine Reads.lookToken hsees.kind_eq fun t ht => ?_
  simp only [ht]
  rw [← List.singleton_append]
  refine Reads.bind (reads_advanceBy hsees) fun _ _ => ?_
  exact Reads.bind_pure (reads_braced h depth false t.start rest) fun e he => by rw [he]

section Value

variable {value : Value} (hvalue : value.isPlain = true) {rest : List Char} (hrest : GoesOn rest)

include hvalue hrest

/-- The value of an attribute ends its name. -/
lemma endsTagName_value : EndsTagName (codeOf (valuePieces value) ++ rest) := by
  have hassign : ∀ (c : Char) (more : List Char),
      c = '"' ∨ c = '{' → EndsTagName ('=' :: c :: more) := by
    intro c more hc
    refine ⟨?_, by simp, fun offset => ?_⟩
    · intro d hd
      obtain rfl : '=' = d := Option.some.inj hd
      decide
    · rw [← List.singleton_append, (sees_assign hc .script more).kind_eq]
      decide
  rcases value.code_of_isPlain hvalue with
    ⟨-, hcode⟩ | ⟨written, -, -, hcode⟩ | ⟨written, shape, -, -, hcode⟩
  · rw [hcode]
    exact hrest.toEndsTagName
  · rw [hcode]
    exact hassign _ _ (.inl rfl)
  · rw [hcode]
    exact hassign _ _ (.inr rfl)

/-- The value of an attribute is read, whether there is one or not, and what is done with it. -/
lemma reads_value {β : Type} {q : β → Prop} {next : Option AttributeValue → Read β} (depth : Nat)
    (hnext : ∀ found, Value.ofAttribute found = value →
      Reads (scan .script) (next found) [] (scan .script) rest q) :
    Reads (scan .script) (do
        if ← at? .assign then
          advanceBy (scan .attribute)
          let found ← attributeValue (.upTo (depth + 2))
          next (some found)
        else next none) (codeOf (valuePieces value)) (scan .script) rest q := by
  rcases value.code_of_isPlain hvalue with ⟨rfl, hcode⟩ | ⟨written, rfl, hquote, hcode⟩
    | ⟨written, shape, hoperand, rfl, hcode⟩
  · rw [hcode]
    refine Reads.lookAt (fun offset => beq_eq_false_iff_ne.mpr (hrest.assign offset)) ?_
    exact hnext none rfl
  · rw [hcode]
    have hsees := sees_assign (.inl rfl) .script (written.toList ++ ['"'] ++ rest)
    refine Reads.lookAt (fun offset => beq_iff_eq.mpr (hsees.kind_eq offset)) ?_
    rw [← List.singleton_append]
    refine Reads.bind (reads_advanceBy hsees) fun _ _ => ?_
    refine Reads.bind_nil (reads_attributeValue_text hquote _ rest) fun found hfound => hnext _ ?_
    rw [hfound, String.ofList_toList]
    rfl
  · rw [hcode]
    have hsees := sees_assign (.inr rfl) .script (written.toList ++ ['}'] ++ rest)
    refine Reads.lookAt (fun offset => beq_iff_eq.mpr (hsees.kind_eq offset)) ?_
    rw [← List.singleton_append]
    refine Reads.bind (reads_advanceBy hsees) fun _ _ => ?_
    refine Reads.bind_nil (reads_attributeValue_operand hoperand depth rest) fun found hfound =>
      hnext _ ?_
    rw [hfound, String.ofList_toList]

end Value

/-! ## Attributes -/

lemma reads_namedAttribute {key : String} {value : Value} (hkey : isLetters key = true)
    (hvalue : value.isPlain = true) {rest : List Char} (hrest : GoesOn rest) (depth : Nat) :
    Reads (scan .script) (namedAttribute (.upTo (depth + 2)))
      (key.toList ++ codeOf (valuePieces value)) (scan .script) rest fun found =>
        lowerProperty found = .named key value := by
  refine Reads.peek (p := fun _ => True) (fun _ _ => ⟨_, trivial, here_apply _⟩) fun start _ => ?_
  refine Reads.bind (reads_attributeName (isScriptName_of_isLetters hkey)
    (endsTagName_value hvalue hrest))
    fun name hname => ?_
  simp only [pure_bind]
  refine @reads_value value hvalue rest hrest Attribute _
    (fun found => positionOf start >>= fun position => pure (.named name found position)) depth
    fun found hfound => ?_
  refine Reads.peek (p := fun _ => True) (fun _ _ => ⟨_, trivial, positionOf_apply _ _⟩)
    fun position _ => ?_
  refine reads_pure ?_
  rw [lowerProperty, hfound, hname, String.ofList_toList]

lemma codeOf_spread (e : Expression) : codeOf (propertyPieces (.spread e))
    = ['{'] ++ (['.', '.', '.'] ++ (e.source.toList ++ ['}'])) := by
  simp [propertyPieces, Componentry.braced, Piece.text]

lemma reads_spreadAttribute {e : Expression} (he : e.isFreeName = true) (depth : Nat)
    (rest : List Char) :
    Reads (scan .script) (spreadAttribute (.upTo (depth + 2))) (codeOf (propertyPieces (.spread e)))
      (scan .script) rest fun found => lowerProperty found = .spread e := by
  obtain ⟨hoperand, hname⟩ := Expression.operand he
  rw [codeOf_spread]
  refine Reads.peek (p := fun _ => True) (fun _ _ => ⟨_, trivial, here_apply _⟩) fun start _ => ?_
  refine Reads.bind (reads_advanceBy (sees_openBrace .script _)) fun _ _ => ?_
  refine Reads.bind (reads_expect (sees_ellipsis .script _)) fun _ _ => ?_
  refine @Operand.reads_closed _ _ _ hoperand depth false _ _ _ _ _ ?_
  refine Reads.peek (p := fun _ => True) (fun _ _ => ⟨_, trivial, positionOf_apply _ _⟩)
    fun position _ => ?_
  refine reads_pure ?_
  rw [lowerProperty, String.ofList_toList]
  exact congrArg Property.spread hname

/-- What an attribute is seen as. -/
def Property.opening : Property → Token.Kind
  | .named key _ => kindOfWord key.toList
  | .spread _ => .mark .openBrace

section Property

variable {property : Property} (h : property.isPlain = true)

include h

lemma Property.opening_spec :
    property.opening = .mark .openBrace ∨ property.opening.isWordLike = true := by
  cases property with
  | named key value =>
      simp only [Property.isPlain, Bool.and_eq_true] at h
      exact .inr (isWordLike_kindOfWord (isScriptName_of_isLetters h.1.1))
  | spread e => exact .inl rfl

/-- No other mark opens an attribute. -/
lemma Property.opening_ne {mark : Mark} (hmark : mark ≠ .openBrace) :
    property.opening ≠ .mark mark := by
  rcases Property.opening_spec h with hopening | hopening
  · rw [hopening]
    exact fun heq => hmark (Token.Kind.mark.inj heq).symm
  · rintro heq
    rw [heq] at hopening
    cases hopening

variable {rest : List Char} (hrest : GoesOn rest)

include hrest

/-- The first token of an attribute, and the place behind it. -/
lemma Property.sees_opening : ∃ piece behind,
    codeOf (propertyPieces property) ++ rest = piece ++ (behind ++ rest)
    ∧ Sees (scan .script) piece (behind ++ rest) property.opening := by
  cases property with
  | named key value =>
      simp only [Property.isPlain, Bool.and_eq_true] at h
      refine ⟨key.toList, codeOf (valuePieces value), ?_, ?_⟩
      · rw [propertyPieces, codeOf_cons, List.append_assoc]
        rfl
      · exact sees_word (isScriptName_of_isLetters h.1.1) (endsTagName_value h.2 hrest).word .script
  | spread e =>
      refine ⟨['{'], ['.', '.', '.'] ++ (e.source.toList ++ ['}']), ?_, sees_openBrace .script _⟩
      rw [codeOf_spread, List.append_assoc]

lemma kind_property (offset : Nat) :
    (scan .script ⟨codeOf (propertyPieces property) ++ rest, offset⟩).token.kind
      = property.opening := by
  obtain ⟨piece, behind, hcode, hsees⟩ := Property.sees_opening h hrest
  rw [hcode, hsees.kind_eq]

lemma length_behind_property (offset : Nat) : rest.length
    ≤ (scan .script ⟨codeOf (propertyPieces property) ++ rest, offset⟩).cursor.rest.length := by
  obtain ⟨piece, behind, hcode, hsees⟩ := Property.sees_opening h hrest
  rw [hcode, hsees.cursor_eq, List.length_append]
  omega

/-- A plain attribute is read as it is. -/
lemma reads_attribute (depth : Nat) :
    Reads (scan .script)
      (if property.opening == .mark .openBrace then spreadAttribute (.upTo (depth + 2))
        else namedAttribute (.upTo (depth + 2)))
      (codeOf (propertyPieces property)) (scan .script) rest fun found =>
        lowerProperty found = property := by
  cases property with
  | named key value =>
      simp only [Property.isPlain, Bool.and_eq_true] at h
      have hlike := isWordLike_kindOfWord (isScriptName_of_isLetters h.1.1)
      have hopening : (Property.named key value).opening ≠ .mark .openBrace := by
        intro hmark
        rw [show kindOfWord key.toList = _ from hmark] at hlike
        cases hlike
      rw [if_neg (by rwa [beq_iff_eq]), propertyPieces, codeOf_cons]
      exact reads_namedAttribute h.1.1 h.2 hrest depth
  | spread e => exact reads_spreadAttribute h depth rest

end Property

@[simp] lemma codeOf_propertiesPieces_cons (property : Property) (properties : List Property) :
    codeOf (propertiesPieces (property :: properties))
      = ' ' :: (codeOf (propertyPieces property) ++ codeOf (propertiesPieces properties)) := by
  simp [propertiesPieces, Piece.text]

section Properties

variable {properties : List Property} (h : ∀ property ∈ properties, property.isPlain = true)
  {rest : List Char} (hrest : GoesOn rest)

include h hrest

/-- A tag goes on with its attributes. -/
lemma goesOn_properties : GoesOn (codeOf (propertiesPieces properties) ++ rest) := by
  induction properties with
  | nil => exact hrest
  | cons property properties ih =>
      rw [List.forall_mem_cons] at h
      rw [codeOf_propertiesPieces_cons, List.cons_append, List.append_assoc]
      refine goesOn_of_kind (.inl rfl) fun offset => ?_
      rw [scan_space, kind_property h.1 (ih h.2)]
      exact ⟨Property.opening_ne h.1 (by decide), Property.opening_ne h.1 (by decide),
        Property.opening_ne h.1 (by decide)⟩

/-- Steps enough to go over the attributes of a tag. -/
lemma length_lt_steps (offset : Nat) : properties.length
    < (scan .script ⟨codeOf (propertiesPieces properties) ++ rest, offset⟩).cursor.rest.length
      + 3 := by
  have hlength : ∀ more : List Property, more.length ≤ (codeOf (propertiesPieces more)).length := by
    intro more
    induction more with
    | nil => simp
    | cons property more ih =>
        simp only [codeOf_propertiesPieces_cons, List.length_cons, List.length_append]
        omega
  cases properties with
  | nil => simp
  | cons property properties =>
      rw [List.forall_mem_cons] at h
      have := length_behind_property h.1 (goesOn_properties h.2 hrest) (offset + 1)
      have := hlength properties
      rw [codeOf_propertiesPieces_cons, List.cons_append, List.append_assoc, scan_space]
      simp only [List.length_append, List.length_cons] at *
      omega

end Properties

/-- The attributes of a tag are read up to its end. -/
lemma reads_attributesFrom {properties : List Property}
    (h : ∀ property ∈ properties, property.isPlain = true) {rest : List Char} (hrest : EndsTag rest)
    (depth : Nat) {steps : Nat} (hsteps : properties.length < steps) :
    Reads (scan .script) (attributesFrom (.upTo (depth + 2)) steps)
      (codeOf (propertiesPieces properties)) (scan .script) rest fun found =>
        found.map lowerProperty = properties := by
  induction properties generalizing steps with
  | nil =>
      obtain ⟨steps, rfl⟩ := Nat.exists_eq_add_of_lt hsteps
      intro front lastStop
      refine ⟨[], lastStop, ?_, rfl⟩
      rcases hrest.closing (size front) with hkind | hkind
      · simp [attributesFrom, viewing, hkind, propertiesPieces]
      · simp [attributesFrom, viewing, hkind, propertiesPieces]
  | cons property properties ih =>
      obtain ⟨steps, rfl⟩ := Nat.exists_eq_add_of_lt hsteps
      rw [List.forall_mem_cons] at h
      have hgoes := goesOn_properties h.2 hrest.toGoesOn
      have hread := reads_attribute h.1 hgoes depth
      have hmore := ih h.2
        (by simp only [List.length_cons]; omega : properties.length < (property
          :: properties).length + steps)
      have hmark : ∀ {mark : Mark}, mark ≠ .openBrace → (property.opening == .mark mark) = false :=
        fun hmark => beq_false_of_ne (Property.opening_ne h.1 hmark)
      rw [codeOf_propertiesPieces_cons]
      refine Reads.space ?_
      rw [attributesFrom]
      refine Reads.lookKind (fun offset => by rw [List.append_assoc, kind_property h.1 hgoes]) ?_
      refine Reads.peek (p := fun stopped => stopped = false)
        (fun _ _ => ⟨_, rfl, isStopped_apply _⟩) ?_
      rintro _ rfl
      simp only [hmark (by decide : Mark.less ≠ _), hmark (by decide : Mark.greater ≠ _),
        hmark (by decide : Mark.slash ≠ _), Bool.or_self, Bool.false_eq_true, if_false]
      split_ifs at hread ⊢
      all_goals
        exact Reads.bind hread fun first hfirst => Reads.bind_pure hmore fun more hmore => by
          rw [List.map_cons, hfirst, hmore]

end Componentry
