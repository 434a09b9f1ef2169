import Mathlib.Data.List.Basic
import Componentry.Document.Dump
import Componentry.Proofs.Text.Quoted

/-!
# The text of a dump determines the dump

A dump is printed with line breaks and blanks that depend on the level, and nothing marks the end of
a value but the value itself.  Still no two dumps are printed alike.

The statement that goes through the recursion is about a value in front of any other text:
`Delimits code a` says that the code of `a` tells `a` and where the code ends.  Quoted texts delimit
themselves because they are read back; entries in a row do because a comma and a line break differ
(`delimits_bracketed`); and the first character tells which of the six forms a dump has
(`head_textAt`).  `Dump.asText_injective` is the result.
-/

namespace Componentry

/-! ## Codes that tell where they end -/

/-- The code of a value tells the value and where the code ends, whatever is behind it. -/
def Delimits {α : Type} (code : α → List Char) (a : α) : Prop :=
  ∀ (b : α) (rest other : List Char), code a ++ rest = code b ++ other → a = b ∧ rest = other

lemma delimits_quoted (text : String) : Delimits (fun text => (Text.quoted text).toList) text := by
  intro found rest other h
  simp only [Text.quoted, String.toList_ofList] at h
  have hread := Script.readLiteral_quote text.toList rest
  rw [h, Script.readLiteral_quote, Option.some.injEq, Prod.mk.injEq, String.toList_inj] at hread
  exact ⟨hread.1.symm, hread.2.symm⟩

section Rows

variable {α : Type} {code : α → List Char} {separator closing : List Char}

/-- Entries in a row are told by their codes, if what closes the row cannot be taken for a
separator. -/
lemma eq_of_row (hends : ∀ rest other, closing ++ rest ≠ separator ++ other) :
    ∀ {as bs : List α} {rest other : List Char}, (∀ a ∈ as, Delimits code a) → as ≠ [] → bs ≠ [] →
      separator.intercalate (as.map code) ++ (closing ++ rest)
        = separator.intercalate (bs.map code) ++ (closing ++ other) →
      as = bs ∧ rest = other := by
  intro as
  induction as with
  | nil => exact fun _ h _ _ => absurd rfl h
  | cons a as ih =>
    rintro (_ | ⟨b, bs⟩) rest other hcode - hbs h
    · exact absurd rfl hbs
    -- behind the first entry either row ends or goes on; in both rows it is the same
    cases as with
    | nil =>
      cases bs with
      | nil =>
        simp only [List.map_cons, List.map_nil, List.intercalate_singleton] at h
        obtain ⟨rfl, hrest⟩ := hcode a (by simp) b _ _ h
        exact ⟨rfl, List.append_cancel_left hrest⟩
      | cons b' bs =>
        simp only [List.map_cons, List.map_nil, List.intercalate_singleton,
          List.intercalate_cons_cons, List.append_assoc] at h
        exact absurd (hcode a (by simp) b _ _ h).2 (hends _ _)
    | cons a' as =>
      cases bs with
      | nil =>
        simp only [List.map_cons, List.map_nil, List.intercalate_singleton,
          List.intercalate_cons_cons, List.append_assoc] at h
        exact absurd (hcode a (by simp) b _ _ h).2.symm (hends _ _)
      | cons b' bs =>
        simp only [List.map_cons, List.intercalate_cons_cons, List.append_assoc] at h
        obtain ⟨rfl, hrest⟩ := hcode a (by simp) b _ _ h
        have htail := @ih (b' :: bs) rest other (fun c hc => hcode c (List.mem_cons_of_mem _ hc))
          (by simp) (by simp) (List.append_cancel_left hrest)
        exact ⟨by rw [htail.1], htail.2⟩

end Rows

lemma toList_lineBreak (level : Nat) :
    (lineBreak level).toList = '\n' :: List.replicate (2 * level) ' ' := by
  simp [lineBreak]

lemma toList_bracketed_nil (opening closing : String) (level : Nat) :
    (bracketed opening closing level []).toList = opening.toList ++ closing.toList := by
  simp [bracketed]

/-- The text of entries between brackets, of which there is at least one. -/
lemma toList_bracketed (opening closing : String) (level : Nat) {entries : List String}
    (h : entries ≠ []) :
    (bracketed opening closing level entries).toList
      = opening.toList ++ ((lineBreak (level + 1)).toList
          ++ ((',' :: (lineBreak (level + 1)).toList).intercalate (entries.map String.toList)
            ++ ((lineBreak level).toList ++ closing.toList))) := by
  simp [bracketed, h, String.toList_intercalate]

/-- Entries between brackets delimit themselves if each of them does. -/
lemma delimits_bracketed {α : Type} {entry : α → String} {opening closing : String} {c : Char}
    (hclosing : closing.toList = [c]) (hc : c ≠ '\n') (level : Nat) {entries : List α}
    (hentries : ∀ a ∈ entries, Delimits (fun a => (entry a).toList) a) :
    Delimits (fun entries => (bracketed opening closing level (entries.map entry)).toList)
      entries := by
  intro found rest other h
  simp only at h
  have hlone : ∀ {found : List α} {rest other : List Char}, found ≠ [] →
      (bracketed opening closing level []).toList ++ rest
        ≠ (bracketed opening closing level (found.map entry)).toList ++ other := by
    intro found rest other hfound heq
    rw [toList_bracketed_nil, toList_bracketed _ _ _ (by simpa using hfound), hclosing,
      toList_lineBreak, List.append_assoc, List.append_assoc] at heq
    exact hc (List.cons.inj (List.append_cancel_left heq)).1
  rcases eq_or_ne entries [] with rfl | hne <;> rcases eq_or_ne found [] with rfl | hfound
  · exact ⟨rfl, List.append_cancel_left h⟩
  · exact absurd h (hlone hfound)
  · exact absurd h.symm (hlone hne)
  · rw [toList_bracketed _ _ _ (by simpa using hne),
      toList_bracketed _ _ _ (by simpa using hfound)] at h
    simp only [List.append_assoc, List.map_map] at h
    have hrow := List.append_cancel_left (List.append_cancel_left h)
    have hends : ∀ rest other : List Char, ((lineBreak level).toList ++ closing.toList) ++ rest
        ≠ (',' :: (lineBreak (level + 1)).toList) ++ other := by
      intro rest other
      simp [toList_lineBreak]
    exact eq_of_row hends hentries hne hfound
      (by simpa only [List.append_assoc, Function.comp_def] using hrow)

/-! ## Dumps -/

namespace Dump

/-- The dumps directly inside of a dump. -/
def inner : Dump → List Dump
  | list items => items
  | record fields => fields.map Prod.snd
  | _ => []

lemma sizeOf_inner {dump part : Dump} (h : part ∈ dump.inner) : sizeOf part < sizeOf dump := by
  cases dump with
  | list items =>
      have := List.sizeOf_lt_of_mem h
      simp only [inner, list.sizeOf_spec] at this ⊢
      omega
  | record fields =>
      obtain ⟨⟨key, value⟩, hfield, rfl⟩ := List.mem_map.mp h
      have := List.sizeOf_lt_of_mem hfield
      simp only [Prod.mk.sizeOf_spec, record.sizeOf_spec] at this ⊢
      omega
  | _ => simp [inner] at h

/-- **Induction over dumps.**  In the step the property is known of every inner dump. -/
@[elab_as_elim]
theorem induction {motive : Dump → Prop}
    (step : ∀ dump : Dump, (∀ part ∈ dump.inner, motive part) → motive dump) :
    ∀ dump, motive dump := by
  intro dump
  exact step dump fun part _ => induction step part
termination_by dump => sizeOf dump
decreasing_by exact sizeOf_inner ‹_›

/-- The first character of the text of a dump. -/
def mark : Dump → Char
  | null => 'n'
  | boolean b => if b then 't' else 'f'
  | text _ => '"'
  | list _ => '['
  | record _ => '\x7b'

lemma head_bracketed {opening closing : String} {c : Char} (h : opening.toList = [c]) (level : Nat)
    (entries : List String) : (bracketed opening closing level entries).toList.head? = some c := by
  rw [bracketed]
  split_ifs <;> simp [h]

lemma head_textAt (dump : Dump) (level : Nat) :
    (dump.textAt level).toList.head? = some dump.mark := by
  cases dump with
  | null => simp [textAt, mark]
  | boolean b => cases b <;> simp [textAt, mark, showBool]
  | text value => simp [textAt, mark, Text.quoted, Text.quote]
  | list items => exact head_bracketed (c := '[') (by simp) level _
  | record fields => exact head_bracketed (c := '\x7b') (by simp) level _

lemma itemTexts_eq_map (level : Nat) (items : List Dump) :
    itemTexts level items = items.map fun item => item.textAt level := by
  induction items with
  | nil => simp [itemTexts]
  | cons item rest ih => simp [itemTexts, ih]

/-- The text of a field of a record. -/
def fieldText (level : Nat) (field : String × Dump) : String :=
  Text.quoted field.1 ++ ": " ++ field.2.textAt level

lemma fieldTexts_eq_map (level : Nat) (fields : List (String × Dump)) :
    fieldTexts level fields = fields.map (fieldText level) := by
  induction fields with
  | nil => simp [fieldTexts]
  | cons field rest ih => simp [fieldTexts, fieldText, ih]

lemma delimits_fieldText {level : Nat} {field : String × Dump}
    (h : Delimits (fun dump => (dump.textAt level).toList) field.2) :
    Delimits (fun field => (fieldText level field).toList) field := by
  intro found rest other heq
  simp only [fieldText, String.toList_append, List.append_assoc] at heq
  obtain ⟨hkey, hbehind⟩ := delimits_quoted field.1 found.1 _ _ heq
  obtain ⟨hvalue, hrest⟩ := h found.2 _ _ (List.append_cancel_left hbehind)
  exact ⟨Prod.ext hkey hvalue, hrest⟩

/-- **The text of a dump at a level tells the dump and where its text ends.** -/
theorem delimits_textAt (dump : Dump) :
    ∀ level, Delimits (fun dump => (dump.textAt level).toList) dump := by
  induction dump using Dump.induction with
  | step dump ih =>
    intro level found rest other h
    have hmark : dump.mark = found.mark := by
      have hfront := congrArg List.head? h
      simpa [List.head?_append, head_textAt] using hfront
    cases dump with
    | null =>
      cases found with
      | null => exact ⟨rfl, List.append_cancel_left h⟩
      | boolean b => cases b <;> simp [mark] at hmark
      | _ => simp [mark] at hmark
    | boolean b =>
      cases found with
      | boolean b' =>
        obtain rfl : b = b' := by cases b <;> cases b' <;> simp [mark] at hmark ⊢
        exact ⟨rfl, List.append_cancel_left h⟩
      | _ => cases b <;> simp [mark] at hmark
    | text value =>
      cases found with
      | text value' =>
        simp only [textAt] at h
        obtain ⟨rfl, hrest⟩ := delimits_quoted value value' rest other h
        exact ⟨rfl, hrest⟩
      | boolean b => cases b <;> simp [mark] at hmark
      | _ => simp [mark] at hmark
    | list items =>
      cases found with
      | list items' =>
        simp only [textAt, itemTexts_eq_map] at h
        obtain ⟨rfl, hrest⟩ := delimits_bracketed (c := ']') (by simp) (by decide) level
          (fun item hitem => ih item hitem (level + 1)) items' rest other h
        exact ⟨rfl, hrest⟩
      | boolean b => cases b <;> simp [mark] at hmark
      | _ => simp [mark] at hmark
    | record fields =>
      cases found with
      | record fields' =>
        simp only [textAt, fieldTexts_eq_map] at h
        have hfields : ∀ field ∈ fields,
            Delimits (fun field => (fieldText (level + 1) field).toList) field :=
          fun field hfield =>
            delimits_fieldText (ih field.2 (List.mem_map_of_mem hfield) (level + 1))
        obtain ⟨rfl, hrest⟩ :=
          delimits_bracketed (c := '\x7d') (by simp) (by decide) level hfields fields' rest
          other h
        exact ⟨rfl, hrest⟩
      | boolean b => cases b <;> simp [mark] at hmark
      | _ => simp [mark] at hmark

/-- **No two dumps are printed alike.** -/
theorem asText_injective {first second : Dump} (h : first.asText = second.asText) :
    first = second :=
  (delimits_textAt first 0 second [] [] (by simpa [asText] using congrArg String.toList h)).1

end Dump

end Componentry
