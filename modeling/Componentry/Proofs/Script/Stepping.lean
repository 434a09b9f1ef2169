import Componentry.Proofs.Script.Scanning
import Componentry.Script.Grammar.Basic

/-!
# Reading a known text

A reader is a function of its state, and so it can be run on a state that is known.

**Running.**  The steps that readers are made of are `simp` lemmas here, so a rule is run by giving
`simp` its definition and what the token in view is.  They are equations between pairs and not
unfoldings: the conditions of a rule are decided by what its steps give back, and have to be
rewritten together with that.

**Known text.**  `viewing way front rest` is the state of a reader that has come to `rest` without a
fault.  `Reads` says that from there a reader takes a given piece of the text, and gives back what
it should.  Readings in a row are put together by `Reads.bind`, and `Reads.peek` is for steps that
only look.
-/

namespace Componentry.Script

open Read Text

/-! ## Running a reader -/

section Running

variable {α β : Type}

@[simp] lemma bind_apply (reader : Read α) (next : α → Read β) (r : Reading) :
    (reader >>= next) r = next (reader r).1 (reader r).2 := Prod.ext rfl rfl

@[simp] lemma pure_apply (a : α) (r : Reading) : (pure a : Read α) r = (a, r) := Prod.ext rfl rfl

@[simp] lemma map_apply (f : α → β) (reader : Read α) (r : Reading) :
    (f <$> reader) r = (f (reader r).1, (reader r).2) := Prod.ext rfl rfl

@[simp] lemma if_apply (c : Prop) [Decidable c] (reader other : Read α) (r : Reading) :
    (if c then reader else other) r = if c then reader r else other r := by
  split_ifs <;> rfl

@[simp] lemma get_apply (r : Reading) : (get : Read Reading) r = (r, r) := Prod.ext rfl rfl

@[simp] lemma set_apply (r r' : Reading) : (set r' : Read PUnit) r = (⟨⟩, r') := Prod.ext rfl rfl

@[simp] lemma modify_apply (f : Reading → Reading) (r : Reading) :
    (modify f : Read Unit) r = ((), f r) :=
  Prod.ext rfl rfl

@[simp] lemma token_apply (r : Reading) : token r = (r.token, r) := Prod.ext rfl rfl

@[simp] lemma kind_apply (r : Reading) : kind r = (r.token.kind, r) := Prod.ext rfl rfl

@[simp] lemma here_apply (r : Reading) : here r = (r.token.start, r) := Prod.ext rfl rfl

@[simp] lemma lastStop_apply (r : Reading) : lastStop r = (r.lastStop, r) := Prod.ext rfl rfl

@[simp] lemma isStopped_apply (r : Reading) : isStopped r = (r.stopped.isSome, r) :=
  Prod.ext rfl rfl

@[simp] lemma context_apply (r : Reading) : context r = (r.context, r) := Prod.ext rfl rfl

@[simp] lemma steps_apply (r : Reading) : steps r = (r.cursor.rest.length + 3, r) :=
  Prod.ext rfl rfl

@[simp] lemma at?_apply (mark : Mark) (r : Reading) :
    at? mark r = (r.token.kind == .mark mark, r) :=
  Prod.ext rfl rfl

@[simp] lemma atWord?_apply (word : String) (r : Reading) :
    atWord? word r = (r.token.kind == .word word, r) := Prod.ext rfl rfl

@[simp] lemma ahead_apply (reader : Read α) (r : Reading) : ahead reader r = ((reader r).1, r) :=
  Prod.ext rfl rfl

@[simp] lemma termFrom_apply (start : Nat) (shape : Shape) (r : Reading) :
    termFrom start shape r = (⟨shape, start, r.lastStop⟩, r) := Prod.ext rfl rfl

@[simp] lemma textBetween_apply (start stop : Nat) (r : Reading) :
    textBetween start stop r = (String.ofList (slice r.source start stop), r) := Prod.ext rfl rfl

@[simp] lemma positionOf_apply (offset : Nat) (r : Reading) :
    positionOf offset r = (Position.ofOffset r.source offset, r) := Prod.ext rfl rfl

/-- The state behind the token in view, with the next one looked at in some `way`. -/
def Reading.next (way : Cursor → Scanned) (r : Reading) : Reading :=
  { r with
    lastStop := r.token.stop
    token := (way r.cursor).token
    cursor := (way r.cursor).cursor
    scanFaults := r.scanFaults ++ (way r.cursor).faults }

@[simp] lemma next_source (way : Cursor → Scanned) (r : Reading) : (r.next way).source = r.source :=
  rfl

@[simp] lemma advanceName_apply (r : Reading) : advanceName r = ((), r.next (scan .script)) :=
  Prod.ext rfl rfl

lemma advanceBy_apply (way : Cursor → Scanned) {r : Reading} (h : r.token.escaped = false) :
    advanceBy way r = ((), r.next way) := by
  rw [advanceBy, bind_apply, token_apply]
  cases r.token.kind <;> simp only [h, Bool.false_eq_true, if_false] <;> rfl

lemma advance_apply {r : Reading} (h : r.token.escaped = false) :
    advance r = ((), r.next (scan .script)) := advanceBy_apply (scan .script) h

lemma eat_of_ne {mark : Mark} {r : Reading} (h : r.token.kind ≠ .mark mark) :
    eat mark r = (false, r) := by
  simp only [eat, bind_apply, at?_apply, beq_false_of_ne h]
  rfl

lemma eat_of_eq {mark : Mark} {r : Reading} (h : r.token.kind = .mark mark)
    (hr : r.token.escaped = false) :
    eat mark r = (true, r.next (scan .script)) := by
  simp only [eat, bind_apply, at?_apply, h, beq_self_eq_true, if_true, advance_apply hr]
  rfl

lemma eatWord_of_ne {word : String} {r : Reading} (h : r.token.kind ≠ .word word) :
    eatWord word r = (false, r) := by
  simp only [eatWord, bind_apply, atWord?_apply, beq_false_of_ne h]
  rfl

/-- A mark that has to be there, and is. -/
lemma expectBy_apply {mark : Mark} {r : Reading} (h : r.token.kind = .mark mark)
    (hr : r.token.escaped = false) (way : Cursor → Scanned) :
    (require (.mark mark) >>= fun _ => advanceBy way) r = ((), r.next way) := by
  have hrequire : require (.mark mark) r = ((), r) := by
    rw [require, bind_apply, token_apply, if_neg (by simp [h])]
    rfl
  rw [bind_apply, hrequire, advanceBy_apply way hr]

end Running

/-- The reader is going on, in the context of a module, and what is in view has no escapes. -/
structure Reading.Running (r : Reading) : Prop where
  stopped : r.stopped = none
  context : r.context = .module
  escaped : r.token.escaped = false

/-! ## Known text -/

/-- The state of a reader that looks one `way` at `rest`, with `front` behind it and no faults so
far. -/
def viewing (way : Cursor → Scanned) (front rest : List Char) (lastStop : Nat) : Reading where
  source := front ++ rest
  token := (way ⟨rest, size front⟩).token
  cursor := (way ⟨rest, size front⟩).cursor
  lastStop := lastStop
  context := .module
  scanFaults := (way ⟨rest, size front⟩).faults
  faults := []
  stopped := none
  pending := []
  notArrows := []
  exports := []

@[simp] lemma viewing_source (way : Cursor → Scanned) (front rest : List Char) (lastStop : Nat) :
    (viewing way front rest lastStop).source = front ++ rest := rfl

@[simp] lemma viewing_lastStop (way : Cursor → Scanned) (front rest : List Char) (lastStop : Nat) :
    (viewing way front rest lastStop).lastStop = lastStop := rfl

@[simp] lemma viewing_stopped (way : Cursor → Scanned) (front rest : List Char) (lastStop : Nat) :
    (viewing way front rest lastStop).stopped = none := rfl

lemma viewing_space (quoting : Quoting) (front rest : List Char) (lastStop : Nat) :
    viewing (scan quoting) front (' ' :: rest) lastStop
      = viewing (scan quoting) (front ++ [' ']) rest lastStop := by
  simp only [viewing, scan_space, size_append, List.append_assoc, List.singleton_append]
  rfl

section Viewing

variable {way : Cursor → Scanned} {piece rest : List Char} {kind : Token.Kind}

lemma Sees.running (h : Sees way piece rest kind) (front : List Char) (lastStop : Nat) :
    (viewing way front (piece ++ rest) lastStop).Running :=
  ⟨rfl, rfl, h.escaped_eq _⟩

/-- Taking a token that is seen leads to the text behind it. -/
lemma Sees.next_viewing (h : Sees way piece rest kind) (front : List Char) (lastStop : Nat)
    (way' : Cursor → Scanned) :
    (viewing way front (piece ++ rest) lastStop).next way'
      = viewing way' (front ++ piece) rest (size front + size piece) := by
  simp only [Reading.next, viewing, h.stop_eq, h.cursor_eq, h.faults_eq, size_append,
    List.append_assoc, List.nil_append]

end Viewing

/-! ## Reading a known text -/

/-- Looking one `way` at a piece of text, a reader takes all of it and nothing of the `rest`, and
goes on by looking at the rest in another way.  What it gives back has the property `p`. -/
def Reads {α : Type} (way : Cursor → Scanned) (reader : Read α) (piece : List Char)
    (way' : Cursor → Scanned) (rest : List Char) (p : α → Prop) : Prop :=
  ∀ front lastStop, ∃ a lastStop',
    reader (viewing way front (piece ++ rest) lastStop)
      = (a, viewing way' (front ++ piece) rest lastStop')
      ∧ p a

section Reads

variable {α β : Type} {way way' way'' : Cursor → Scanned} {piece piece' rest : List Char}
  {p : α → Prop} {q : β → Prop} {reader : Read α} {next : α → Read β} {kind : Token.Kind}

lemma Reads.bind (h : Reads way reader piece way' (piece' ++ rest) p)
    (hnext : ∀ a, p a → Reads way' (next a) piece' way'' rest q) :
    Reads way (reader >>= next) (piece ++ piece') way'' rest q := by
  intro front lastStop
  obtain ⟨a, stop, hreader, ha⟩ := h front lastStop
  obtain ⟨b, stop', hb, hq⟩ := hnext a ha (front ++ piece) stop
  refine ⟨b, stop', ?_, hq⟩
  rw [bind_apply, List.append_assoc, hreader, hb, List.append_assoc]

/-- What follows takes nothing more. -/
lemma Reads.bind_nil (h : Reads way reader piece way' rest p)
    (hnext : ∀ a, p a → Reads way' (next a) [] way'' rest q) :
    Reads way (reader >>= next) piece way'' rest q := by
  have hbind : Reads way (reader >>= next) (piece ++ []) way'' rest q := Reads.bind h hnext
  rwa [List.append_nil] at hbind

/-- A reader that only looks. -/
lemma Reads.peek (h : ∀ front lastStop, ∃ a, p a
      ∧ reader (viewing way front (piece ++ rest) lastStop)
        = (a, viewing way front (piece ++ rest) lastStop))
    (hnext : ∀ a, p a → Reads way (next a) piece way' rest q) :
    Reads way (reader >>= next) piece way' rest q := by
  intro front lastStop
  obtain ⟨a, ha, hreader⟩ := h front lastStop
  obtain ⟨b, stop, hb, hq⟩ := hnext a ha front lastStop
  exact ⟨b, stop, by rw [bind_apply, hreader, hb], hq⟩

/-- What is in view is looked at. -/
lemma Reads.lookToken {next : Token → Read β}
    (hkind : ∀ offset, (way ⟨piece ++ rest, offset⟩).token.kind = kind)
    (hnext : ∀ t : Token, t.kind = kind → Reads way (next t) piece way' rest q) :
    Reads way (token >>= next) piece way' rest q :=
  Reads.peek (fun _ _ => ⟨_, hkind _, token_apply _⟩) hnext

/-- The kind of what is in view is looked at. -/
lemma Reads.lookKind {next : Token.Kind → Read β}
    (hkind : ∀ offset, (way ⟨piece ++ rest, offset⟩).token.kind = kind)
    (hnext : Reads way (next kind) piece way' rest q) :
    Reads way (Read.kind >>= next) piece way' rest q := by
  refine Reads.peek (p := fun a => a = kind) (fun front lastStop => ⟨_, ?_, kind_apply _⟩) ?_
  · exact hkind (size front)
  · rintro _ rfl
    exact hnext

/-- It is looked whether a mark is in view. -/
lemma Reads.lookAt {mark : Mark} {next : Bool → Read β} {found : Bool}
    (hkind : ∀ offset, ((way ⟨piece ++ rest, offset⟩).token.kind == .mark mark) = found)
    (hnext : Reads way (next found) piece way' rest q) :
    Reads way (at? mark >>= next) piece way' rest q := by
  refine Reads.peek (p := fun a => a = found) (fun front lastStop => ⟨_, ?_, at?_apply mark _⟩) ?_
  · exact hkind (size front)
  · rintro _ rfl
    exact hnext

/-- A mark that is not in view is not taken. -/
lemma Reads.notEaten {mark : Mark} {next : Bool → Read β}
    (hkind : ∀ offset, (way ⟨piece ++ rest, offset⟩).token.kind ≠ .mark mark)
    (hnext : Reads way (next false) piece way' rest q) :
    Reads way (eat mark >>= next) piece way' rest q := by
  refine Reads.peek (p := fun a => a = false) (fun front lastStop => ⟨false, rfl, eat_of_ne ?_⟩) ?_
  · exact hkind (size front)
  · rintro _ rfl
    exact hnext

lemma Reads.space {quoting : Quoting} (h : Reads (scan quoting) reader piece way' rest p) :
    Reads (scan quoting) reader (' ' :: piece) way' rest p := by
  intro front lastStop
  obtain ⟨a, stop, hreader, ha⟩ := h (front ++ [' ']) lastStop
  refine ⟨a, stop, ?_, ha⟩
  rw [List.cons_append, viewing_space, hreader, List.append_assoc, List.singleton_append]

lemma Reads.mono {p' : α → Prop} (h : Reads way reader piece way' rest p) (hp : ∀ a, p a → p' a) :
    Reads way reader piece way' rest p' := by
  intro front lastStop
  obtain ⟨a, stop, hreader, ha⟩ := h front lastStop
  exact ⟨a, stop, hreader, hp a ha⟩

lemma Reads.bind_pure {f : α → β} (h : Reads way reader piece way' rest p)
    (hf : ∀ a, p a → q (f a)) :
    Reads way (reader >>= fun a => pure (f a)) piece way' rest q := by
  intro front lastStop
  obtain ⟨a, stop, hreader, ha⟩ := h front lastStop
  exact ⟨f a, stop, by rw [bind_apply, hreader, pure_apply], hf a ha⟩

lemma reads_pure {a : α} (ha : p a) : Reads way (pure a : Read α) [] way rest p := by
  intro front lastStop
  exact ⟨a, lastStop, by rw [pure_apply, List.append_nil]; rfl, ha⟩

lemma reads_advanceBy (h : Sees way piece rest kind) :
    Reads way (advanceBy way') piece way' rest fun _ => True := by
  intro front lastStop
  exact ⟨(), _, by rw [advanceBy_apply way' (h.running front lastStop).escaped, h.next_viewing],
    trivial⟩

lemma reads_expectBy {mark : Mark} (h : Sees way piece rest (.mark mark)) :
    Reads way (require (.mark mark) >>= fun _ => advanceBy way') piece way' rest fun _ => True := by
  intro front lastStop
  exact ⟨(), _, by
    rw [expectBy_apply (h.kind_eq _) (h.running front lastStop).escaped, h.next_viewing], trivial⟩

lemma reads_eat {mark : Mark} (h : Sees way piece rest (.mark mark)) :
    Reads way (eat mark) piece (scan .script) rest fun found => found = true := by
  intro front lastStop
  exact ⟨true, _, by rw [eat_of_eq (h.kind_eq _) (h.running front lastStop).escaped,
    h.next_viewing], rfl⟩

lemma reads_termFrom (start : Nat) (shape : Shape) :
    Reads way (termFrom start shape) [] way rest fun term => term.value = shape := by
  intro front lastStop
  refine ⟨⟨shape, start, lastStop⟩, lastStop, ?_, rfl⟩
  rw [List.append_nil]
  exact termFrom_apply start shape _

lemma reads_expect {mark : Mark} (h : Sees way piece rest (.mark mark)) :
    Reads way (expect mark) piece (scan .script) rest fun _ => True := reads_expectBy h

end Reads

/-- How the text behind a closing mark is looked at: as content between tags, or as script. -/
def wayBehind (content : Bool) : Cursor → Scanned := if content then scanContent else scan .script

lemma reads_expectIn {way : Cursor → Scanned} {piece rest : List Char} {mark : Mark}
    (h : Sees way piece rest (.mark mark)) (content : Bool) :
    Reads way (expectIn content mark) piece (wayBehind content) rest fun _ => True := by
  cases content <;> exact reads_expectBy h

end Componentry.Script
