/-
Overrides and the variables of the environment. The variables are read first, and a variable that should hold a truth
value and does not ends the reading. Only then do overrides take the place of what was read, and the fields are checked.
So the variable of a field that is overridden counts for nothing as long as it can be read; the two variables of truth
values are read even when their fields are overridden, and `ofEnvironment_overridden` says exactly what follows from
that.

Results:
- `ofFields_congr`: fields are checked by what they hold, however they are listed.
- `ofEnvironment_eq`: the first truth value that cannot be read, or else the checked fields, the overrides in front.
- `ofEnvironment_overridden`: what the variable of an overridden field can change.
- `overridden_stops`: a variable stops the settings although its field is overridden.
-/
import Mathlib.Data.List.Basic
import SourceMark.Settings.Environment

namespace SourceMark

/-- the environment with a variable set to a text, or not set at all -/
def Environment.assign (env : Environment) (name : Text) : Option Text → Environment
  | some text => (name, text) :: env
  | none => env.filter fun entry => entry.1 != name

theorem Environment.lookup_assign_self (env : Environment) (name : Text) (value : Option Text) :
    (env.assign name value).lookup name = value := by
  cases value with
  | some text => simp [assign]
  | none =>
    rw [assign, List.lookup_eq_none_iff]
    intro entry hentry
    rw [bne_comm]
    exact (List.mem_filter.1 hentry).2

theorem Environment.lookup_assign_of_ne (env : Environment) {name other : Text} (hne : other ≠ name)
    (value : Option Text) : (env.assign name value).lookup other = env.lookup other := by
  have hother : (other == name) = false := beq_eq_false_iff_ne.2 hne
  cases value with
  | some text => rw [assign, List.lookup_cons, hother]
  | none =>
    rw [assign]
    induction env with
    | nil => rfl
    | cons entry env ih =>
      obtain ⟨found, text⟩ := entry
      by_cases hfound : found = name
      · rw [List.filter_cons_of_neg (by simp [hfound]), ih, List.lookup_cons, hfound, hother]
      · rw [List.filter_cons_of_pos (by simp [hfound]), List.lookup_cons, List.lookup_cons, ih]

namespace Settings

namespace Field

theorem nodup_all : all.Nodup := by decide

theorem mem_all (f : Field) : f ∈ all := by
  cases f <;> decide

theorem name_injective {f g : Field} (h : f.name = g.name) : f = g := by
  cases f <;> cases g <;> first | rfl | exact absurd h (by decide)

theorem variable_injective {f g : Field} (h : f.variable = g.variable) : f = g := by
  cases f <;> cases g <;> first | rfl | exact absurd h (by decide)

def isTruth : Field → Bool
  | .enabled | .markComponents => true
  | _ => false

end Field

/-! ## Fields by what they hold -/

/-- **Fields are checked by what they hold**, however they are listed. -/
theorem ofFields_congr {members members' : List (Text × Json)}
    (h : ∀ f : Field, Json.member? f.name members = Json.member? f.name members') :
    ofFields members = ofFields members' := by
  simp only [ofFields, field, textsField, h]

theorem member?_filterMap (value : Field → Option Json) {fields : List Field} (hnodup : fields.Nodup) (f : Field) :
    Json.member? f.name (fields.filterMap fun g => (value g).map fun v => (g.name, v)) =
      if f ∈ fields then value f else none := by
  induction fields with
  | nil => rfl
  | cons g fields ih =>
    obtain ⟨hg, hnodup⟩ := List.nodup_cons.1 hnodup
    have hsplit : (g :: fields).filterMap (fun g => (value g).map fun v => (g.name, v)) =
        ((value g).map fun v => (g.name, v)).toList ++ fields.filterMap fun g => (value g).map fun v => (g.name, v) := by
      rw [List.filterMap_cons]
      cases value g <;> rfl
    rw [hsplit, Json.member?_append, ih hnodup]
    by_cases hfg : f = g
    · subst hfg
      rw [if_neg hg, if_pos List.mem_cons_self, Option.none_or]
      cases value f <;> simp [Json.member?]
    · have hname : (f.name == g.name) = false := by simpa using fun heq => hfg (Field.name_injective heq)
      have hnone : Json.member? f.name ((value g).map fun v => (g.name, v)).toList = none := by
        cases value g <;> simp [Json.member?, List.lookup_cons, hname]
      rw [hnone, Option.or_none]
      simp only [List.mem_cons, hfg, false_or]

def override? (overrides : List (Text × Json)) (f : Field) : Option Json :=
  match Json.member? f.name overrides with
  | none | some .null => none
  | some value => some value

theorem member?_effective (overrides : List (Text × Json)) (f : Field) :
    Json.member? f.name (effective overrides) = override? overrides f := by
  have heffective :
      effective overrides = Field.all.filterMap fun g => (override? overrides g).map fun v => (g.name, v) := by
    unfold effective
    congr 1
    funext g
    simp only [override?]
    cases hvalue : Json.member? g.name overrides with
    | none => rfl
    | some value => cases value <;> rfl
  rw [heffective, member?_filterMap _ Field.nodup_all, if_pos f.mem_all]

/-! ## Fields from variables -/

/-- what a field's variable gives when it is set to a text -/
def reading? : Field → Text → Option Json
  | .enabled, text | .markComponents, text => (readBoolean? text).map .bool
  | _, [] => none
  | .targetTags, text => some (readTags text)
  | .templateRoots, text => some (readRoots text)
  | _, text => some (.text text)

/-- the fields that the variables set, field by field -/
def variableFields (env : Environment) : List (Text × Json) :=
  Field.all.filterMap fun f => ((env.lookup f.variable).bind (reading? f)).map fun v => (f.name, v)

/-- the text of a field's variable that should be a truth value and is none -/
def unreadable? (env : Environment) (f : Field) : Option Text :=
  (env.lookup f.variable).filter fun text => f.isTruth && (readBoolean? text).isNone

/-- the first variable that should hold a truth value and does not, with its text -/
def firstUnreadable? (env : Environment) : Option (Field × Text) :=
  ((unreadable? env .enabled).map (Field.enabled, ·)).or
    ((unreadable? env .markComponents).map (Field.markComponents, ·))

theorem booleanField_eq (env : Environment) {f : Field} (hf : f.isTruth = true) : booleanField env f =
    match unreadable? env f with
    | some text => .error (.notBoolean f.variable text)
    | none => .ok (((env.lookup f.variable).bind (reading? f)).map fun v => (f.name, v)).toList := by
  have hreading (text : Text) : reading? f text = (readBoolean? text).map .bool := by
    cases f <;> first | rfl | exact absurd hf (by decide)
  unfold booleanField unreadable?
  cases hvalue : env.lookup f.variable with
  | none => rfl
  | some text =>
    cases hread : readBoolean? text with
    | none => simp [hf, hread, Option.filter_some]
    | some truth => simp [hf, hread, hreading, Option.filter_some]

theorem textField_eq (env : Environment) {f : Field} {value : Text → Json} (hnil : reading? f [] = none)
    (hcons : ∀ c rest, reading? f (c :: rest) = some (value (c :: rest))) : textField env f value =
      (((env.lookup f.variable).bind (reading? f)).map fun v => (f.name, v)).toList := by
  unfold textField
  cases env.lookup f.variable with
  | none => rfl
  | some text =>
    cases text with
    | nil => simp [hnil]
    | cons c rest => simp [hcons]

/-- the fields of the variables, or the first truth value that cannot be read -/
theorem environmentFields_eq (env : Environment) : environmentFields env =
    match firstUnreadable? env with
    | some (f, text) => .error (.notBoolean f.variable text)
    | none => .ok (variableFields env) := by
  have hvariables : variableFields env =
      Field.all.flatMap fun f => (((env.lookup f.variable).bind (reading? f)).map fun v => (f.name, v)).toList :=
    List.filterMap_eq_flatMap_toList _ _
  rw [environmentFields, booleanField_eq env rfl, booleanField_eq env rfl, hvariables]
  rw [firstUnreadable?]
  cases unreadable? env .enabled with
  | some text => rfl
  | none =>
    cases unreadable? env .markComponents with
    | some text => rfl
    | none =>
      rw [textField_eq env (f := .attributeName) rfl fun _ _ => rfl,
        textField_eq env (f := .targetTags) rfl fun _ _ => rfl,
        textField_eq env (f := .componentPrefix) rfl fun _ _ => rfl,
        textField_eq env (f := .templateRoots) rfl fun _ _ => rfl,
        textField_eq env (f := .templateExtension) rfl fun _ _ => rfl,
        textField_eq env (f := .dialect) rfl fun _ _ => rfl]
      simp only [Field.all, List.flatMap_cons, List.flatMap_nil, List.append_assoc, List.append_nil, Option.map_none,
        Option.or_none]

/-- **The outcome**: the first truth value that cannot be read, or else the fields, checked, with the overrides in
front. -/
theorem ofEnvironment_eq (env : Environment) (overrides : List (Text × Json)) : ofEnvironment env overrides =
    match firstUnreadable? env with
    | some (f, text) => .error (.notBoolean f.variable text)
    | none => (ofFields (variableFields env ++ effective overrides)).mapError .invalid := by
  rw [ofEnvironment, environmentFields_eq]
  cases firstUnreadable? env <;> rfl

theorem member?_fields (env : Environment) (overrides : List (Text × Json)) (f : Field) :
    Json.member? f.name (variableFields env ++ effective overrides) =
      (override? overrides f).or ((env.lookup f.variable).bind (reading? f)) := by
  rw [Json.member?_append, member?_effective, variableFields, member?_filterMap _ Field.nodup_all, if_pos f.mem_all]

/-! ## Overridden fields -/

section Overridden

variable {overrides : List (Text × Json)} {f : Field}

/-- fields with the same overrides and, where there is none, the same variables are the same fields -/
theorem ofFields_variableFields (overrides : List (Text × Json)) {env env' : Environment}
    (h : ∀ g : Field, override? overrides g = none → env.lookup g.variable = env'.lookup g.variable) :
    ofFields (variableFields env ++ effective overrides) = ofFields (variableFields env' ++ effective overrides) := by
  apply ofFields_congr
  intro g
  rw [member?_fields, member?_fields]
  cases hoverride : override? overrides g with
  | some value => rfl
  | none => rw [h g hoverride]

theorem unreadable?_assign_self (env : Environment) (f : Field) (value : Option Text) :
    unreadable? (env.assign f.variable value) f =
      value.filter fun text => f.isTruth && (readBoolean? text).isNone := by
  rw [unreadable?, env.lookup_assign_self]

theorem unreadable?_unset (env : Environment) (f : Field) : unreadable? (env.assign f.variable none) f = none := by
  rw [unreadable?_assign_self]
  rfl

theorem unreadable?_assign_of_ne (env : Environment) {g : Field} (hne : g ≠ f) (value : Option Text) :
    unreadable? (env.assign f.variable value) g = unreadable? env g := by
  rw [unreadable?, env.lookup_assign_of_ne (fun heq => hne (Field.variable_injective heq)), unreadable?]

/-- the text ends the reading of the variables when it is set in the field's variable: it is no truth value where one
should be, and no variable before it ends the reading -/
structure Stops (env : Environment) (f : Field) (text : Text) : Prop where
  truth : f.isTruth = true
  unreadable : readBoolean? text = none
  first : f = .markComponents → unreadable? env .enabled = none

theorem firstUnreadable?_of_stops {env : Environment} {text : Text} (h : Stops env f text) :
    firstUnreadable? (env.assign f.variable (some text)) = some (f, text) := by
  have hself : unreadable? (env.assign f.variable (some text)) f = some text := by
    rw [unreadable?_assign_self, Option.filter_some, h.truth, h.unreadable]
    rfl
  rw [firstUnreadable?]
  cases f with
  | enabled => rw [hself, Option.map_some, Option.some_or]
  | markComponents =>
    rw [hself, unreadable?_assign_of_ne env (by decide), h.first rfl, Option.map_none, Option.none_or, Option.map_some]
  | _ => exact absurd h.truth (by decide)

/-- a text that does not end the reading leaves the first variable that does as it is -/
theorem firstUnreadable?_of_not_stops {env : Environment} {value : Option Text}
    (h : ∀ text, value = some text → ¬Stops env f text) :
    firstUnreadable? (env.assign f.variable value) = firstUnreadable? (env.assign f.variable none) := by
  have hself : unreadable? (env.assign f.variable value) f = none ∨
      f = .markComponents ∧ unreadable? env .enabled ≠ none := by
    rw [unreadable?_assign_self]
    by_cases hfirst : f = .markComponents ∧ unreadable? env .enabled ≠ none
    · exact .inr hfirst
    · left
      rw [Option.filter_eq_none_iff]
      intro text htext hstops
      rw [Bool.and_eq_true, Option.isNone_iff_eq_none] at hstops
      exact h text htext ⟨hstops.1, hstops.2, fun hf => by_contra fun hsome => hfirst ⟨hf, hsome⟩⟩
  have hother {g : Field} (hne : g ≠ f) :
      unreadable? (env.assign f.variable value) g = unreadable? (env.assign f.variable none) g := by
    rw [unreadable?_assign_of_ne env hne, unreadable?_assign_of_ne env hne]
  rw [firstUnreadable?, firstUnreadable?]
  rcases hself with hself | ⟨rfl, hsome⟩
  · have hevery (g : Field) :
        unreadable? (env.assign f.variable value) g = unreadable? (env.assign f.variable none) g := by
      by_cases hg : g = f
      · rw [hg, hself, unreadable?_unset]
      · exact hother hg
    rw [hevery, hevery]
  · obtain ⟨text, htext⟩ := Option.ne_none_iff_exists'.1 hsome
    have henabled : unreadable? (env.assign Field.markComponents.variable none) .enabled = some text := by
      rw [unreadable?_assign_of_ne env (by decide), htext]
    rw [hother (by decide), henabled, Option.map_some, Option.some_or, Option.some_or]

/-- a variable that is not set does not end the reading -/
theorem firstUnreadable?_unset_ne (env : Environment) (f : Field) (text : Text) :
    firstUnreadable? (env.assign f.variable none) ≠ some (f, text) := by
  have hunset := unreadable?_unset env f
  intro h
  rw [firstUnreadable?, Option.or_eq_some_iff, Option.map_eq_some_iff, Option.map_eq_some_iff] at h
  rcases h with ⟨_, hsome, heq⟩ | ⟨-, _, hsome, heq⟩
  all_goals
    rw [← (Prod.mk.inj heq).1] at hunset
    rw [← (Prod.mk.inj heq).1, hunset] at hsome
    exact absurd hsome (by simp)

/-- **The variable of an overridden field.** It can change the outcome in one way only: it should hold a truth value and
does not, and no variable before it is like that. Then the outcome is the error that names it. -/
theorem ofEnvironment_overridden (env : Environment) (h : override? overrides f ≠ none) :
    (∀ text, Stops env f text →
      ofEnvironment (env.assign f.variable (some text)) overrides = .error (.notBoolean f.variable text)) ∧
    ∀ value, ofEnvironment (env.assign f.variable value) overrides = ofEnvironment (env.assign f.variable none) overrides ↔
      ∀ text, value = some text → ¬Stops env f text := by
  have hstops {text : Text} (hstops : Stops env f text) :
      ofEnvironment (env.assign f.variable (some text)) overrides = .error (.notBoolean f.variable text) := by
    rw [ofEnvironment_eq, firstUnreadable?_of_stops hstops]
  refine ⟨fun text => hstops, fun value => ?_⟩
  constructor
  · rintro hsame text rfl hstop
    rw [hstops hstop, ofEnvironment_eq] at hsame
    cases hfirst : firstUnreadable? (env.assign f.variable none) with
    | none =>
      rw [hfirst] at hsame
      cases hfields : ofFields (variableFields (env.assign f.variable none) ++ effective overrides) <;>
        simp [hfields, Except.mapError] at hsame
    | some found =>
      obtain ⟨g, other⟩ := found
      rw [hfirst] at hsame
      simp only [Except.error.injEq, EnvironmentError.notBoolean.injEq] at hsame
      obtain rfl := Field.variable_injective hsame.1
      exact firstUnreadable?_unset_ne env f other hfirst
  · intro hnot
    have hsame : ∀ g : Field, override? overrides g = none →
        (env.assign f.variable value).lookup g.variable = (env.assign f.variable none).lookup g.variable := by
      intro g hg
      have hne : g.variable ≠ f.variable := fun heq => h (Field.variable_injective heq ▸ hg)
      rw [env.lookup_assign_of_ne hne, env.lookup_assign_of_ne hne]
    rw [ofEnvironment_eq, ofEnvironment_eq, firstUnreadable?_of_not_stops hnot, ofFields_variableFields overrides hsame]

end Overridden

/-- a word that is no truth value ends the reading; another one does not count -/
theorem ofEnvironment_overridden_enabled : override? [("enabled".toList, .bool true)] .enabled ≠ none ∧
    ofEnvironment [("REFINE_ENABLED".toList, "maybe".toList)] [("enabled".toList, .bool true)] =
      .error (.notBoolean "REFINE_ENABLED".toList "maybe".toList) ∧
    ofEnvironment [("REFINE_ENABLED".toList, "off".toList)] [("enabled".toList, .bool true)] =
      ofEnvironment [] [("enabled".toList, .bool true)] := by
  have hoverride : override? [("enabled".toList, .bool true)] .enabled ≠ none := by decide
  obtain ⟨hstops, hsame⟩ := ofEnvironment_overridden [] hoverride
  refine ⟨hoverride, hstops "maybe".toList ⟨rfl, by decide, by decide⟩, (hsame (some "off".toList)).2 ?_⟩
  rintro _ ⟨⟩ hstop
  exact absurd hstop.unreadable (by decide)

/-- **A variable stops the settings although its field is overridden.** -/
theorem overridden_stops : ¬∀ (env : Environment) (overrides : List (Text × Json)) (f : Field),
    override? overrides f ≠ none → ∀ value value',
      ofEnvironment (env.assign f.variable value) overrides =
        ofEnvironment (env.assign f.variable value') overrides := by
  intro h
  have hsame := h [] [("enabled".toList, .bool true)] .enabled (by decide) (some "maybe".toList) none
  have hstopped : ofEnvironment (Environment.assign [] Field.enabled.variable (some "maybe".toList))
      [("enabled".toList, .bool true)] = .error (.notBoolean "REFINE_ENABLED".toList "maybe".toList) := by rfl
  have hmade : ofEnvironment (Environment.assign [] Field.enabled.variable none)
      [("enabled".toList, .bool true)] = .ok standard := by rfl
  rw [hstopped, hmade] at hsame
  exact absurd hsame (by simp)

end Settings

end SourceMark
