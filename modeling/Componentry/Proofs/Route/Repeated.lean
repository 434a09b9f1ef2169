import Mathlib.Data.List.Forall2
import Mathlib.Data.List.Nodup
import Componentry.Proofs.Route.Matching

/-!
# Parameters that repeat

A route may use a name for several of its parameters.  Two functions look at that: one reports the
names that repeat, the other looks a value up by its name.  Both are told here by places in the list
of names.

**Reports.**  The scan keeps the names it has seen and those it has reported.  What it has reported
are at any time the names it has seen twice (`Tracks`), so it takes a name exactly when it meets it
for the second time (`repeated_eq_seconds`).

**Lookup.**  The value of a name is the one at its last place (`get?_zip_eq_some_iff`).
-/

namespace Componentry.Route

/-! ## Reports -/

/-- A name stands at a place of a list for the second time. -/
def IsSecond (names : List String) (place : Nat) (name : String) : Prop :=
  names[place]? = some name ∧ (names.take place).count name = 1

/-- What a scan has reported are the names that it has seen at least twice. -/
def Tracks (seen found : List String) : Prop :=
  ∀ name, name ∈ found ↔ 2 ≤ seen.count name

/-- The names that come up for the second time, if those seen before the list count, too. -/
def seconds (seen : List String) : List String → List String
  | [] => []
  | name :: rest =>
    if seen.count name = 1 then name :: seconds (name :: seen) rest else seconds (name :: seen) rest

section Scan

variable {seen found : List String} {name : String}

lemma tracks_nil : Tracks [] [] := by
  simp [Tracks]

/-- The scan takes a name if it has seen it just once. -/
lemma Tracks.takes_iff (h : Tracks seen found) :
    (seen.contains name && !found.contains name) = true ↔ seen.count name = 1 := by
  have hseen : name ∈ seen ↔ 0 < seen.count name := List.count_pos_iff.symm
  simp only [Bool.and_eq_true, Bool.not_eq_true', ← Bool.not_eq_true, List.contains_iff_mem, hseen,
    h name]
  omega

lemma Tracks.take (h : Tracks seen found) (hone : seen.count name = 1) :
    Tracks (name :: seen) (name :: found) := by
  intro other
  by_cases hother : other = name
  · simp [hother, hone]
  · rw [List.mem_cons, List.count_cons_of_ne (Ne.symm hother), h other]
    simp [hother]

lemma Tracks.leave (h : Tracks seen found) (hone : seen.count name ≠ 1) :
    Tracks (name :: seen) found := by
  intro other
  by_cases hother : other = name
  · rw [hother, h name, List.count_cons_self]
    omega
  · rw [List.count_cons_of_ne (Ne.symm hother), h other]

/-- **The scan reports a name when it comes up for the second time.** -/
lemma repeated_eq_seconds (h : Tracks seen found) (names : List String) :
    repeated seen found names = seconds seen names := by
  induction names generalizing seen found with
  | nil => rfl
  | cons name rest ih =>
      rw [repeated, seconds]
      by_cases hone : seen.count name = 1
      · rw [if_pos (h.takes_iff.mpr hone), if_pos hone, ih (h.take hone)]
      · rw [if_neg (mt h.takes_iff.mp hone), if_neg hone, ih (h.leave hone)]

end Scan

lemma mem_seconds {seen names : List String} {name : String} :
    name ∈ seconds seen names ↔ seen.count name ≤ 1 ∧ 2 ≤ seen.count name + names.count name := by
  induction names generalizing seen with
  | nil =>
      simp only [seconds, List.not_mem_nil, List.count_nil, false_iff]
      omega
  | cons first rest ih =>
      by_cases hname : first = name
      · subst hname
        rw [seconds]
        split_ifs with hone <;>
          simp only [List.mem_cons, ih, List.count_cons_self, true_or, true_iff] <;> omega
      · have hseen : (first :: seen).count name = seen.count name := List.count_cons_of_ne hname
        have hnames : (first :: rest).count name = rest.count name := List.count_cons_of_ne hname
        rw [seconds, hnames, ← hseen, ← ih]
        split_ifs
        · simp [Ne.symm hname]
        · rfl

lemma notMem_seconds_of_one {seen names : List String} {name : String} (h : seen.count name = 1) :
    name ∉ seconds (name :: seen) names := by
  rw [mem_seconds, List.count_cons_self]
  omega

lemma nodup_seconds (seen names : List String) : (seconds seen names).Nodup := by
  induction names generalizing seen with
  | nil => exact List.nodup_nil
  | cons name rest ih =>
      rw [seconds]
      split_ifs with hone
      · exact List.nodup_cons.mpr ⟨notMem_seconds_of_one hone, ih _⟩
      · exact ih _

/-- Names are reported in the order of the places where they come up for the second time. -/
lemma exists_places_seconds (seen names : List String) :
    ∃ places : List Nat, places.Pairwise (· < ·)
      ∧ List.Forall₂ (fun place name =>
          names[place]? = some name ∧ seen.count name + (names.take place).count name = 1)
        places (seconds seen names) := by
  induction names generalizing seen with
  | nil => exact ⟨[], List.Pairwise.nil, List.Forall₂.nil⟩
  | cons name rest ih =>
      obtain ⟨places, hincreasing, hplaces⟩ := ih (name :: seen)
      have hincreasing' : (places.map (· + 1)).Pairwise (· < ·) :=
        List.pairwise_map.mpr (hincreasing.imp Nat.succ_lt_succ)
      -- behind the first place, the name in front counts as seen
      have hplaces' : List.Forall₂ (fun place other => (name :: rest)[place]? = some other
            ∧ seen.count other + ((name :: rest).take place).count other = 1)
          (places.map (· + 1)) (seconds (name :: seen) rest) := by
        refine List.forall₂_map_left_iff.mpr (hplaces.imp ?_)
        rintro place other ⟨hplace, hcount⟩
        refine ⟨hplace, ?_⟩
        simp only [List.count_cons, List.take_succ_cons] at hcount ⊢
        omega
      rw [seconds]
      split_ifs with hone
      · refine ⟨0 :: places.map (· + 1), List.pairwise_cons.mpr ⟨?_, hincreasing'⟩,
          .cons ⟨rfl, ?_⟩ hplaces'⟩
        · intro later hlater
          obtain ⟨place, -, rfl⟩ := List.mem_map.mp hlater
          exact Nat.succ_pos place
        · rw [List.take_zero, List.count_nil, hone]
      · exact ⟨_, hincreasing', hplaces'⟩

/-! ## Lookup -/

/-- A name stands at a place of a list, and nowhere behind it. -/
def IsLast (names : List String) (place : Nat) (name : String) : Prop :=
  names[place]? = some name ∧ name ∉ names.drop (place + 1)

lemma isLast_zero {first name : String} {names : List String} :
    IsLast (first :: names) 0 name ↔ first = name ∧ name ∉ names := by
  simp [IsLast]

lemma isLast_succ {first name : String} {names : List String} {place : Nat} :
    IsLast (first :: names) (place + 1) name ↔ IsLast names place name := by
  simp [IsLast]

section Lookup

variable {names values : List String} {name value : String}

/-- A later entry hides an earlier one. -/
lemma get?_cons (entry : String × String) (rest : List (String × String)) (name : String) :
    Parameters.get? ⟨entry :: rest⟩ name
      = (Parameters.get? ⟨rest⟩ name).or (if entry.1 = name then some entry.2 else none) := by
  simp only [Parameters.get?, List.reverse_cons, List.find?_append, Option.map_or]
  congr 1
  by_cases h : entry.1 = name <;> simp [h]

/-- A name has a value exactly if it is among the names. -/
lemma get?_zip_eq_none_iff (hlength : values.length = names.length) :
    Parameters.get? ⟨names.zip values⟩ name = none ↔ name ∉ names := by
  have hnames : (names.zip values).map Prod.fst = names :=
    List.map_fst_zip (Nat.le_of_eq hlength.symm)
  conv_rhs => rw [← hnames]
  simp only [Parameters.get?, Option.map_eq_none_iff, List.find?_eq_none, List.mem_reverse,
    beq_iff_eq, List.mem_map, not_exists, not_and]

/-- **The value of a name is the one at its last place.** -/
lemma get?_zip_eq_some_iff (hlength : values.length = names.length) :
    Parameters.get? ⟨names.zip values⟩ name = some value
      ↔ ∃ place, IsLast names place name ∧ values[place]? = some value := by
  induction names generalizing values with
  | nil => simp [Parameters.get?, IsLast]
  | cons first rest ih =>
      cases values with
      | nil => exact absurd hlength (by simp)
      | cons head others =>
          have hothers : others.length = rest.length := Nat.succ.inj hlength
          rw [List.zip_cons_cons, get?_cons, Option.or_eq_some_iff, ih hothers,
            get?_zip_eq_none_iff hothers]
          constructor
          · rintro (⟨place, hlast, hvalue⟩ | ⟨hnone, hfirst⟩)
            · exact ⟨place + 1, isLast_succ.mpr hlast, hvalue⟩
            · rw [Option.ite_none_right_eq_some] at hfirst
              exact ⟨0, isLast_zero.mpr ⟨hfirst.1, hnone⟩, hfirst.2⟩
          · rintro ⟨place, hlast, hvalue⟩
            cases place with
            | zero =>
                obtain ⟨hfirst, hnone⟩ := isLast_zero.mp hlast
                exact .inr ⟨hnone, by rw [if_pos hfirst]; exact hvalue⟩
            | succ place => exact .inl ⟨place, isLast_succ.mp hlast, hvalue⟩

end Lookup

/-- If no name repeats, every place is the last one of its name. -/
lemma isLast_of_nodup {names : List String} (h : names.Nodup) {place : Nat} {name : String}
    (hplace : names[place]? = some name) : IsLast names place name := by
  obtain ⟨hlt, rfl⟩ := List.getElem?_eq_some_iff.mp hplace
  have hdrop : (names.drop place).Nodup := h.sublist (List.drop_sublist place names)
  rw [List.drop_eq_getElem_cons hlt, List.nodup_cons] at hdrop
  exact ⟨hplace, hdrop.1⟩

/-- There is one choice of values: the matcher finds it. -/
lemma Fills.iff_eq {route path : String} {values others : List String}
    (h : Fills (Pattern.parse route).segments values path.toList) :
    Fills (Pattern.parse route).segments others path.toList ↔ others = values := by
  have hform : WellFormed (Pattern.parse route).segments := wellFormed_segments route.toList
  rw [← values?_eq_some_iff hform, (values?_eq_some_iff hform).mpr h, Option.some.injEq, eq_comm]

/-- **Parameters that repeat.**  For every route:

* the names reported as repeated are those that occur at least twice among the names of the
  parameters, each of them once and in the order of the places where they occur for the second time;
* whenever a path matches, there is one list of values by which the route becomes the path, and
  looking a name up gives the value at the last place of that name, and nothing exactly if no
  parameter has the name;
* so if no name is reported, looking up the name of any parameter gives the value of that
  parameter. -/
theorem repeated_last_wins (route : String) :
    (Pattern.parse route).repeatedParameters.Nodup
    ∧ (∀ name, name ∈ (Pattern.parse route).repeatedParameters
        ↔ 2 ≤ (Pattern.parse route).parameterNames.count name)
    ∧ (∃ places : List Nat, places.Pairwise (· < ·)
        ∧ List.Forall₂ (IsSecond (Pattern.parse route).parameterNames) places
            (Pattern.parse route).repeatedParameters)
    ∧ ∀ path parameters, (Pattern.parse route).match? path = some parameters →
        ∃ values : List String,
          (∀ others, Fills (Pattern.parse route).segments others path.toList ↔ others = values)
          ∧ (∀ name value, parameters.get? name = some value
              ↔ ∃ place, IsLast (Pattern.parse route).parameterNames place name
                  ∧ values[place]? = some value)
          ∧ (∀ name, parameters.get? name = none ↔ name ∉ (Pattern.parse route).parameterNames)
          ∧ ((Pattern.parse route).repeatedParameters = [] →
              ∀ (place : Nat) name, (Pattern.parse route).parameterNames[place]? = some name →
                parameters.get? name = values[place]?) := by
  have hreported : (Pattern.parse route).repeatedParameters
      = seconds [] (Pattern.parse route).parameterNames := repeated_eq_seconds tracks_nil _
  have hmem : ∀ name, name ∈ (Pattern.parse route).repeatedParameters
      ↔ 2 ≤ (Pattern.parse route).parameterNames.count name := by
    intro name
    rw [hreported, mem_seconds]
    simp
  refine ⟨hreported ▸ nodup_seconds _ _, hmem, ?_, ?_⟩
  · obtain ⟨places, hincreasing, hplaces⟩ :=
      exists_places_seconds [] (Pattern.parse route).parameterNames
    refine ⟨places, hincreasing, hreported ▸ hplaces.imp ?_⟩
    rintro place name ⟨hplace, hcount⟩
    exact ⟨hplace, by simpa using hcount⟩
  · intro path parameters hmatch
    obtain ⟨values, hfills, rfl⟩ := match?_parse_eq_some_iff.mp hmatch
    have hlength : values.length = (Pattern.parse route).parameterNames.length := hfills.count
    refine ⟨values, fun others => hfills.iff_eq, fun name value => get?_zip_eq_some_iff hlength,
      fun name => get?_zip_eq_none_iff hlength, fun hnone place name hplace => ?_⟩
    have hnodup : (Pattern.parse route).parameterNames.Nodup := by
      rw [List.nodup_iff_count_le_one]
      intro other
      by_contra hcount
      exact List.not_mem_nil (hnone ▸ (hmem other).mpr (by omega))
    have hvalue : place < values.length :=
      hlength ▸ (List.getElem?_eq_some_iff.mp hplace).1
    rw [List.getElem?_eq_getElem hvalue]
    exact (get?_zip_eq_some_iff hlength).mpr
      ⟨place, isLast_of_nodup hnodup hplace, List.getElem?_eq_getElem hvalue⟩

/-- Two names that repeat: the one that comes first is the last to come up again. -/
theorem repeated_last_wins_crossed :
    (Pattern.parse "/:b/:a/:a/:b/:a").repeatedParameters = ["a", "b"]
    ∧ ∃ parameters, (Pattern.parse "/:b/:a/:a/:b/:a").match? "/1/2/3/4/5" = some parameters
      ∧ parameters.get? "a" = some "5" ∧ parameters.get? "b" = some "4"
        ∧ parameters.get? "c" = none := by
  have hmatch : (Pattern.parse "/:b/:a/:a/:b/:a").match? "/1/2/3/4/5"
      = some ⟨[("b", "1"), ("a", "2"), ("a", "3"), ("b", "4"), ("a", "5")]⟩ := by decide +kernel
  have hnames : (Pattern.parse "/:b/:a/:a/:b/:a").parameterNames = ["b", "a", "a", "b", "a"] := by
    decide +kernel
  obtain ⟨-, -, -, hlookup⟩ := repeated_last_wins "/:b/:a/:a/:b/:a"
  obtain ⟨values, hvalues, hsome, hnone, -⟩ := hlookup _ _ hmatch
  have hfills : ["1", "2", "3", "4", "5"] = values :=
    (hvalues _).mp ⟨by decide +kernel, by decide, by decide, by decide +kernel⟩
  subst hfills
  rw [hnames] at hsome hnone
  exact ⟨by decide +kernel, _, hmatch, (hsome "a" "5").mpr ⟨4, ⟨rfl, by decide⟩, rfl⟩,
    (hsome "b" "4").mpr ⟨3, ⟨rfl, by decide⟩, rfl⟩, (hnone "c").mpr (by decide)⟩

end Componentry.Route
