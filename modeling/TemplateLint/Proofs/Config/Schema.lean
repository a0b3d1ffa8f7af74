import Mathlib.Data.List.Forall2
import TemplateLint.Proofs.Basic
import TemplateLint.Proofs.Config.Named

/-!
# The schema of configurations

A configuration is an object with six optional members: two switches, the methods with their
overloads, and three lists of nonempty texts. The reading checks the members one after the
other and stops at the first fault. Main statement: it accepts exactly the values of this form,
and every other value is refused as an invalid configuration.
-/

namespace TemplateLint.Config

/-- A truth value. -/
def IsSwitch (value : Json) : Prop :=
  ∃ state, value = .bool state

/-- A list of texts that, without outer blanks and in lower case, are the names of roles which
form an overload. -/
def IsOverload (value : Json) : Prop :=
  ∃ (texts : List Text) (roles : List Role), value = .array (texts.map .string) ∧
    List.Forall₂ (fun text role => text.trim.lower = role.name) texts roles ∧
    Overload.validate roles = .ok ()

/-- A nonempty list of overloads. -/
def IsMethod (value : Json) : Prop :=
  ∃ items, value = .array items ∧ items ≠ [] ∧ ∀ item ∈ items, IsOverload item

/-- An object that gives every name a nonempty list of overloads. -/
def IsMethods (value : Json) : Prop :=
  ∃ members, value = .object members ∧ ∀ member ∈ members, IsMethod member.2

/-- A list of nonempty texts, all of which have a property. -/
def IsTexts (p : Text → Prop) (value : Json) : Prop :=
  ∃ texts : List Text, value = .array (texts.map .string) ∧ ∀ text ∈ texts, text ≠ [] ∧ p text

/-- A text that, without outer blanks, is the name of a rule or, in upper case, its code. -/
def IsRule (text : Text) : Prop :=
  ∃ rule : Rule, text.trim = rule.name ∨ text.trim.upper = rule.code

/-- A member that has a form, if it is there. -/
def Optional (members : Assoc Json) (key : Text) (form : Json → Prop) : Prop :=
  ∀ value, members.get? key = some value → form value

/-- The form of a configuration. -/
structure IsSchema (members : Assoc Json) : Prop where
  /-- There are no other members. -/
  known : ∀ key ∈ members.keys, key ∈ knownKeys
  /-- Whether templates have to be constants. -/
  requireConstant : Optional members "require_constant_template" IsSwitch
  /-- Whether the known methods are left out. -/
  replaceDefaults : Optional members "replace_default_methods" IsSwitch
  /-- The methods with their overloads. -/
  methods : Optional members "methods" IsMethods
  /-- Further types of exceptions. -/
  exceptionTypes : Optional members "exception_types" (IsTexts fun _ => True)
  /-- Classes of extension methods. -/
  extensionClasses : Optional members "extension_classes" (IsTexts fun _ => True)
  /-- Rules that are switched off. -/
  disabledRules : Optional members "disabled_rules" (IsTexts IsRule)

open Outcome

variable {members : Assoc Json} {key : Text}

/-- A switch is read exactly when it is a truth value. -/
theorem readSwitch_isOk_iff {absent : Bool} :
    (∃ state, readSwitch members key absent = .ok state) ↔ Optional members key IsSwitch := by
  unfold readSwitch Optional IsSwitch
  cases members.get? key with
  | none => simp
  | some value => cases value <;> simp

/-- A list is read text by text if each of its values is. -/
theorem mapM_eq_some_iff_forall₂ {α : Type} {f : Json → Option α} {r : Text → α → Prop}
    (hf : ∀ value a, f value = some a ↔ ∃ text, value = .string text ∧ r text a)
    {items : List Json} {found : List α} :
    items.mapM f = some found ↔
      ∃ texts : List Text, items = texts.map .string ∧ List.Forall₂ r texts found := by
  rw [mapM_eq_some_iff]
  induction items generalizing found with
  | nil => cases found <;> simp
  | cons item items ih =>
    cases found with
    | nil => simp
    | cons first found =>
      simp only [List.map_cons, List.cons.injEq, hf, ih]
      constructor
      · rintro ⟨⟨text, rfl, hfirst⟩, texts, rfl, hrest⟩
        exact ⟨text :: texts, rfl, .cons hfirst hrest⟩
      · rintro ⟨texts, hitems, hall⟩
        cases hall with
        | @cons text _ texts _ hfirst hrest =>
          obtain ⟨hitem, hitems⟩ := List.cons.inj hitems
          exact ⟨⟨text, hitem, hfirst⟩, texts, hitems, hrest⟩

/-- A nonempty text is read off the value that is this text. -/
theorem nonemptyText?_eq_some_iff (value : Json) (text : Text) :
    nonemptyText? value = some text ↔ ∃ source, value = .string source ∧ source ≠ [] ∧
      source = text := by
  unfold nonemptyText?
  split
  · simp only [Option.some.injEq, Json.string.injEq]
    constructor
    · rintro rfl
      exact ⟨_, rfl, List.cons_ne_nil _ _, rfl⟩
    · rintro ⟨_, rfl, _, htext⟩
      exact htext
  · next hother =>
    refine ⟨nofun, ?_⟩
    rintro ⟨source, rfl, hne, rfl⟩
    obtain ⟨c, rest, rfl⟩ := List.exists_cons_of_ne_nil hne
    exact absurd rfl (hother c rest)

/-- The texts of a member are those of its list, and none if the member is missing. -/
theorem readTexts_eq_ok_iff {texts : List Text} : readTexts members key = .ok texts ↔
    (members.get? key = none ∧ texts = []) ∨
      members.get? key = some (.array (texts.map .string)) ∧ ∀ text ∈ texts, text ≠ [] := by
  have hlist : ∀ items : List Json, items.mapM nonemptyText? = some texts ↔
      items = texts.map .string ∧ ∀ text ∈ texts, text ≠ [] := by
    intro items
    simp only [mapM_eq_some_iff_forall₂ nonemptyText?_eq_some_iff, List.forall₂_and_left,
      List.forall₂_eq_eq_eq]
    grind
  unfold readTexts
  cases members.get? key with
  | none => simp [eq_comm]
  | some value =>
    cases value with
    | array items =>
      have hitems := hlist items
      cases hread : items.mapM nonemptyText? with
      | none => simp_all
      | some found => simp_all
    | _ => simp

/-- A list of texts is read exactly when it is one of nonempty texts. -/
theorem readTexts_isOk_iff : (∃ texts, readTexts members key = .ok texts) ↔
    Optional members key (IsTexts fun _ => True) := by
  simp only [readTexts_eq_ok_iff, Optional, IsTexts, and_true]
  cases members.get? key <;> simp

/-- A rule is found exactly for a name or a code. -/
theorem exists_parse_rule_iff {text : Text} :
    (∃ rule, (Rule.parse text).toOption = some rule) ↔ IsRule text := by
  have hall : ∀ rule : Rule, rule ∈ Rule.all := by
    intro rule
    cases rule <;> decide
  unfold Rule.parse IsRule
  dsimp only
  constructor
  · rintro ⟨rule, h⟩
    split at h
    · next found hfound =>
      have hname := List.find?_some hfound
      exact ⟨found, .inl (of_decide_eq_true hname).symm⟩
    · split at h
      · next found hfound =>
        have hcode := List.find?_some hfound
        exact ⟨found, .inr (of_decide_eq_true hcode).symm⟩
      · cases h
  · rintro ⟨rule, hrule⟩
    split
    · exact ⟨_, rfl⟩
    · next hname =>
      split
      · exact ⟨_, rfl⟩
      · next hcode =>
        have hnoName := List.find?_eq_none.mp hname rule (hall rule)
        have hnoCode := List.find?_eq_none.mp hcode rule (hall rule)
        simp only [decide_eq_true_eq] at hnoName hnoCode
        rcases hrule with hrule | hrule
        · exact absurd hrule.symm hnoName
        · exact absurd hrule.symm hnoCode

/-- The rules that are switched off are read exactly when they are rules. -/
theorem readRules_isOk_iff : (∃ rules, readRules members = .ok rules) ↔
    Optional members "disabled_rules" (IsTexts IsRule) := by
  have hsteps : (∃ rules, readRules members = .ok rules) ↔
      ∃ texts, readTexts members "disabled_rules" = .ok texts ∧ ∀ text ∈ texts, IsRule text := by
    simp only [← exists_parse_rule_iff, ← exists_mapM_some_iff]
    rw [readRules, exists_bind_ok_iff]
    refine exists_congr fun texts => and_congr_right fun _ => ?_
    cases texts.mapM fun text => (Rule.parse text).toOption <;>
      simp [pure, Except.pure, throw, throwThe, MonadExceptOf.throw]
  rw [hsteps]
  simp only [readTexts_eq_ok_iff, Optional, IsTexts]
  cases Assoc.get? members "disabled_rules" with
  | none => simp
  | some value => simp [and_assoc, forall_and]

/-- The roles of an overload are those that the texts of a list name. -/
theorem readRoles_eq_ok_iff {method : Text} {value : Json} {roles : List Role} :
    readRoles method value = .ok roles ↔ ∃ texts : List Text, value = .array (texts.map .string) ∧
      List.Forall₂ (fun text role => text.trim.lower = role.name) texts roles := by
  have hlist : ∀ items : List Json, items.mapM role? = some roles ↔
      ∃ texts : List Text, items = texts.map .string ∧
        List.Forall₂ (fun text role => text.trim.lower = role.name) texts roles := by
    intro items
    exact mapM_eq_some_iff_forall₂ fun value role => role?_eq_some_iff
  unfold readRoles
  cases value with
  | array items =>
    simp only [Json.array.injEq, ← hlist]
    cases items.mapM role? <;> simp
  | _ => simp

/-- Roles form an overload exactly when they pass the check. -/
theorem exists_ofRoles_iff {roles : List Role} :
    (∃ overload, Overload.ofRoles roles = .ok overload) ↔ Overload.validate roles = .ok () := by
  unfold Overload.ofRoles
  split
  · next h => exact iff_of_true ⟨_, rfl⟩ h
  · next h => simp [h]

/-- An overload is read and passes the check exactly when it has the form of one. -/
theorem isOverload_iff {method : Text} {value : Json} : IsOverload value ↔
    ∃ roles, readRoles method value = .ok roles ∧ Overload.validate roles = .ok () := by
  simp only [IsOverload, readRoles_eq_ok_iff]
  constructor
  · rintro ⟨texts, roles, hvalue, hnames, hvalid⟩
    exact ⟨roles, ⟨texts, hvalue, hnames⟩, hvalid⟩
  · rintro ⟨roles, ⟨texts, hvalue, hnames⟩, hvalid⟩
    exact ⟨texts, roles, hvalue, hnames, hvalid⟩

/-- Overloads are read and pass the check, list after list, exactly when each of them does. -/
theorem exists_roles_iff {method : Text} {items : List Json} :
    (∃ lists, items.mapM (readRoles method) = .ok lists ∧
      ∀ roles ∈ lists, Overload.validate roles = .ok ()) ↔ ∀ item ∈ items, IsOverload item := by
  simp only [@isOverload_iff method]
  constructor
  · rintro ⟨lists, hlists, hvalid⟩ item hitem
    have hread : readRoles method item ∈ lists.map .ok := by
      rw [← mapM_eq_ok_iff.mp hlists]
      exact List.mem_map_of_mem hitem
    obtain ⟨roles, hroles, hread⟩ := List.mem_map.mp hread
    exact ⟨roles, hread.symm, hvalid roles hroles⟩
  · intro h
    obtain ⟨lists, hlists⟩ := exists_mapM_ok_iff.mpr fun item hitem =>
      (h item hitem).imp fun _ hroles => hroles.1
    refine ⟨lists, hlists, fun roles hroles => ?_⟩
    obtain ⟨item, hitem, hread⟩ := exists_of_mem_mapM hlists hroles
    obtain ⟨other, hother, hvalid⟩ := h item hitem
    cases hread.symm.trans hother
    exact hvalid

/-- Lists of roles become overloads exactly when all of them pass the check. -/
theorem exists_overloads_iff {method : Text} {lists : List (List Role)} :
    (∃ overloads, lists.mapM (fun roles =>
      (Overload.ofRoles roles).mapError (Fault.badOverload method)) = .ok overloads) ↔
      ∀ roles ∈ lists, Overload.validate roles = .ok () := by
  simp only [exists_mapM_ok_iff, ← exists_ofRoles_iff]
  refine forall₂_congr fun roles _ => ?_
  cases Overload.ofRoles roles <;> simp [Except.mapError]

/-- A method is read exactly when it has a nonempty list of overloads. -/
theorem readMethod_isOk_iff {requiresConstant : Bool} {name : Text} {value : Json} :
    (∃ shape, readMethod requiresConstant name value = .ok shape) ↔ IsMethod value := by
  unfold readMethod IsMethod
  split
  · next first others =>
    have hpure : ∀ overloads : List Overload, ∃ shape,
        (pure { name, overloads, requiresConstant } : Except Fault Shape) = .ok shape :=
      fun _ => ⟨_, rfl⟩
    simp only [exists_bind_ok_iff, hpure, and_true, exists_overloads_iff, exists_roles_iff]
    simp
  · next hother =>
    refine ⟨nofun, ?_⟩
    rintro ⟨items, rfl, hne, _⟩
    obtain ⟨first, others, rfl⟩ := List.exists_cons_of_ne_nil hne
    exact absurd rfl (hother first others)

/-- The methods are read exactly when each of them is. -/
theorem readMethods_isOk_iff {requiresConstant : Bool} :
    (∃ shapes, readMethods requiresConstant (members.get? "methods") = .ok shapes) ↔
      Optional members "methods" IsMethods := by
  unfold readMethods Optional IsMethods
  cases members.get? "methods" with
  | none => simp
  | some value =>
    cases value with
    | object methods => simp [exists_mapM_ok_iff, readMethod_isOk_iff]
    | _ => simp

/-- No name is reported exactly when every name is a known one. -/
theorem unknownKeys_eq_nil_iff {keys : List Text} :
    Text.sortUnique (keys.filter fun key => !knownKeys.contains key) = [] ↔
      ∀ key ∈ keys, key ∈ knownKeys := by
  simp [List.eq_nil_iff_forall_not_mem, Text.sortUnique, Text.sort]

/-- The first stage reads the switches and the methods of an object with known names. -/
theorem readDraft_eq_ok_iff {value : Json} {draft : Draft} : readDraft value = .ok draft ↔
    value = .object draft.members ∧ (∀ key ∈ draft.members.keys, key ∈ knownKeys) ∧
      readSwitch draft.members "require_constant_template" true = .ok draft.requireConstant ∧
      readSwitch draft.members "replace_default_methods" false = .ok draft.replaceDefaults ∧
      readMethods draft.requireConstant (draft.members.get? "methods") = .ok draft.added := by
  unfold readDraft
  split
  · next members =>
    dsimp only
    rw [← unknownKeys_eq_nil_iff]
    constructor
    · intro h
      split at h
      · cases h
      · next hknown =>
        obtain ⟨requireConstant, hrequire, h⟩ := bind_eq_ok h
        obtain ⟨replaceDefaults, hreplace, h⟩ := bind_eq_ok h
        obtain ⟨added, hadded, h⟩ := bind_eq_ok h
        cases h
        exact ⟨rfl, Decidable.not_not.mp hknown, hrequire, hreplace, hadded⟩
    · rintro ⟨hvalue, hknown, hrequire, hreplace, hadded⟩
      cases hvalue
      rw [if_neg (Decidable.not_not.mpr hknown), hrequire, ok_bind, hreplace, ok_bind, hadded]
      rfl
  · next hother =>
    refine ⟨nofun, ?_⟩
    rintro ⟨rfl, _⟩
    exact absurd rfl (hother _)

/-- The second stage reads the three lists of texts. -/
theorem Draft.finish_isOk_iff {draft : Draft} : (∃ config, draft.finish = .ok config) ↔
    Optional draft.members "disabled_rules" (IsTexts IsRule) ∧
      Optional draft.members "exception_types" (IsTexts fun _ => True) ∧
      Optional draft.members "extension_classes" (IsTexts fun _ => True) := by
  rw [← readRules_isOk_iff, ← readTexts_isOk_iff, ← readTexts_isOk_iff]
  constructor
  · rintro ⟨config, h⟩
    obtain ⟨rules, hrules, h⟩ := bind_eq_ok h
    obtain ⟨types, htypes, h⟩ := bind_eq_ok h
    obtain ⟨classes, hclasses, _⟩ := bind_eq_ok h
    exact ⟨⟨rules, hrules⟩, ⟨types, htypes⟩, classes, hclasses⟩
  · rintro ⟨⟨rules, hrules⟩, ⟨types, htypes⟩, classes, hclasses⟩
    rw [Draft.finish, hrules, ok_bind, htypes, ok_bind, hclasses, ok_bind]
    exact ⟨_, rfl⟩

/-- A value is read as a configuration exactly when it is an object with the members of one. -/
theorem ofJson_isOk_iff {value : Json} : (∃ config, ofJson value = .ok config) ↔
    ∃ members, value = .object members ∧ IsSchema members := by
  simp only [ofJson, exists_bind_ok_iff, Draft.finish_isOk_iff]
  constructor
  · rintro ⟨draft, hdraft, hrules, htypes, hclasses⟩
    obtain ⟨hvalue, hknown, hrequire, hreplace, hadded⟩ := readDraft_eq_ok_iff.mp hdraft
    exact ⟨draft.members, hvalue, hknown, readSwitch_isOk_iff.mp ⟨_, hrequire⟩,
      readSwitch_isOk_iff.mp ⟨_, hreplace⟩, readMethods_isOk_iff.mp ⟨_, hadded⟩, htypes, hclasses,
      hrules⟩
  · rintro ⟨members, hvalue, h⟩
    obtain ⟨requireConstant, hrequire⟩ := readSwitch_isOk_iff.mpr h.requireConstant
    obtain ⟨replaceDefaults, hreplace⟩ := readSwitch_isOk_iff.mpr h.replaceDefaults
    obtain ⟨added, hadded⟩ := readMethods_isOk_iff.mpr h.methods
    exact ⟨{ members, requireConstant, replaceDefaults, added },
      readDraft_eq_ok_iff.mpr ⟨hvalue, h.known, hrequire, hreplace, hadded⟩,
      h.disabledRules, h.exceptionTypes, h.extensionClasses⟩

/-- The reading accepts exactly the values of the form of a configuration, and refuses every
other value as an invalid configuration, from whatever file it comes. -/
theorem ofJson_accepts_iff_schema (value : Json) :
    ((∃ config, ofJson value = .ok config) ↔
      ∃ members, value = .object members ∧ IsSchema members) ∧
    ((∃ fault, ofJson value = .error fault ∧
        ∀ path, (fault.failure path).reason = Text.ofString "config-invalid") ↔
      ¬ ∃ members, value = .object members ∧ IsSchema members) := by
  refine ⟨ofJson_isOk_iff, ?_⟩
  rw [← ofJson_isOk_iff]
  cases ofJson value with
  | ok config => simp
  | error fault =>
    refine iff_of_true ⟨fault, rfl, fun path => rfl⟩ ?_
    rintro ⟨config, hconfig⟩
    cases hconfig

end TemplateLint.Config
