import PasswordPolicy.Fields.Schema
import PasswordPolicy.Proofs.Fields.Renaming

/-!
# What the schema of named fields allows

A document is read as JSON Schema has it, with the keywords that the schemas of records use: a value
has the type that is named, a number is not below the minimum, and the entries of a record satisfy
the schemas of their properties. So read, the document of the named fields allows the values that
the fields can store, and only under the labels.

* **`RecordSchema.satisfies_document_iff`**: what the document of a schema says.
* **`Fields.admits_propertyType_iff`**: the values that the property of a field allows.
* **`Fields.schema_agrees_with_ofValue`**: the document and the reader of definitions.
-/

namespace PasswordPolicy

/-! ### Documents -/

/-- The number that a floating-point number is, if it is finite. -/
def Binary64.toRat? : Binary64 → Option Rat
  | finite negative significand exponent =>
    some ((if negative then -1 else 1) * significand * 2 ^ exponent)
  | infinite _ => none
  | nan => none

namespace Value

/-- The number that a value is. Integers and floating-point numbers are not told apart. -/
def number? : Value → Option Rat
  | .int i => some i
  | .real x => x.toRat?
  | _ => none

/-- Is the value of the named type? -/
def HasType (value : Value) : String → Prop
  | "null" => value = .null
  | "boolean" => ∃ b, value = .bool b
  | "integer" => ∃ i : Int, value.number? = some (i : Rat)
  | "number" => ∃ x, value.number? = some x
  | "string" => ∃ s, value = .text s
  | "array" => ∃ items, value = .list items
  | "object" => ∃ object, value = .object object
  | _ => False

/-- The value is a record that has the value under the name. -/
def Holds (value : Value) (name : String) (member : Value) : Prop :=
  ∃ entries, value = .record entries ∧ (.text name, member) ∈ entries

def keyword? : Value → String → Option Value
  | .record entries, name => Entries.get? entries (.text name)
  | _, _ => none

/-- The document of a property in the document of a record. -/
def property? (document : Value) (name : String) : Option Value :=
  (document.keyword? "properties").bind fun properties => properties.keyword? name

end Value

/-- The value satisfies the document: each keyword that restricts values allows it. A truth value as
a document allows everything or nothing; titles, descriptions and defaults do not restrict. -/
inductive Satisfies : Value → Value → Prop
  | intro {document value : Value}
      (allowed : document ≠ .bool false)
      (type : ∀ name, document.keyword? "type" = some (.text name) → value.HasType name)
      (minimum : ∀ bound least number, document.keyword? "minimum" = some bound →
        bound.number? = some least → value.number? = some number → least ≤ number)
      (properties : ∀ name member sub, value.Holds name member →
        document.property? name = some sub → Satisfies sub member)
      (additional : ∀ name member sub, value.Holds name member →
        document.property? name = none →
        document.keyword? "additionalProperties" = some sub → Satisfies sub member) :
      Satisfies document value

/-- A scalar satisfies a document by its type and its size. -/
theorem Satisfies.of_scalar {document : Value} {s : Scalar} (allowed : document ≠ .bool false)
    (type : ∀ name, document.keyword? "type" = some (.text name) → Value.HasType (.scalar s) name)
    (minimum : ∀ bound least number, document.keyword? "minimum" = some bound →
      bound.number? = some least → Value.number? (.scalar s) = some number → least ≤ number) :
    Satisfies document (.scalar s) := by
  have hholds (name : String) (member : Value) : ¬ Value.Holds (.scalar s) name member :=
    fun ⟨_, hentries, _⟩ => nomatch hentries
  apply Satisfies.intro allowed type minimum
  · intro name member sub hmember
    exact absurd hmember (hholds name member)
  · intro name member sub hmember
    exact absurd hmember (hholds name member)

theorem Satisfies.not_false {value : Value} : ¬ Satisfies (.bool false) value
  | .intro allowed _ _ _ _ => allowed rfl

/-- An object holds a member under a name exactly if it has that entry. -/
theorem Value.holds_object_iff {object : List (String × Value)} {name : String} {member : Value} :
    (Value.object object).Holds name member ↔ (name, member) ∈ object := by
  constructor
  · intro ⟨_, hentries, hmem⟩
    cases hentries
    obtain ⟨entry, hentry, heq⟩ := List.mem_map.mp hmem
    obtain ⟨hname, rfl⟩ := Prod.mk.inj heq
    obtain rfl := Scalar.text.inj hname
    exact hentry
  · intro hentry
    exact ⟨_, rfl, List.mem_map.mpr ⟨_, hentry, rfl⟩⟩

/-! ### Properties -/

theorem exists_eq_int_of_number? {value : Value} {number : Rat} (hreal : ∀ x, value ≠ .real x)
    (h : value.number? = some number) : ∃ i : Int, value = .int i ∧ number = i := by
  unfold Value.number? at h
  split at h
  · next i => exact ⟨i, rfl, (Option.some.inj h).symm⟩
  · next x => exact absurd rfl (hreal x)
  · cases h

/-- An integer property admits the integers from its least one on. -/
theorem PropertyType.admits_integer_iff {least : Int} {value : Value} :
    (integer least).Admits value ↔ ∃ i, value = .int i ∧ least ≤ i := by
  cases value with
  | scalar s => cases s <;> simp [Admits, Value.int]
  | list items => simp [Admits, Value.int]
  | record entries => simp [Admits, Value.int]

theorem PropertyType.admits_boolean_iff {value : Value} :
    boolean.Admits value ↔ ∃ b, value = .bool b := by
  cases value with
  | scalar s => cases s <;> simp [Admits, Value.bool]
  | list items => simp [Admits, Value.bool]
  | record entries => simp [Admits, Value.bool]

/-- **Of all but floating-point numbers, a property allows the values of its type.** -/
theorem Property.satisfies_document_iff {p : Property} {value : Value}
    (hreal : ∀ x, value ≠ .real x) : Satisfies p.document value ↔ p.type.Admits value := by
  have hallowed : p.document ≠ .bool false := nofun
  obtain ⟨name, title, type, default⟩ := p
  cases type with
  | integer least =>
    rw [PropertyType.admits_integer_iff]
    have htype : (Property.document ⟨name, title, .integer least, default⟩).keyword? "type" =
        some (.text "integer") := rfl
    have hminimum : (Property.document ⟨name, title, .integer least, default⟩).keyword? "minimum" =
        some (.int least) := rfl
    constructor
    · -- the type leaves integers only, since a floating point number is excluded
      intro ⟨_, type, minimum, _, _⟩
      obtain ⟨j, hj⟩ := type "integer" htype
      obtain ⟨i, rfl, -⟩ := exists_eq_int_of_number? hreal hj
      exact ⟨i, rfl, Rat.intCast_le_intCast.mp (minimum _ _ _ hminimum rfl rfl)⟩
    · rintro ⟨i, rfl, hle⟩
      -- a scalar has no members, so only the type and the minimum are asked for
      apply Satisfies.of_scalar hallowed
      · intro name hname
        cases htype.symm.trans hname
        exact ⟨i, rfl⟩
      · intro bound least number hbound hleast hnumber
        cases hminimum.symm.trans hbound
        cases hleast
        cases hnumber
        exact Rat.intCast_le_intCast.mpr hle
  | boolean =>
    rw [PropertyType.admits_boolean_iff]
    have htype : (Property.document ⟨name, title, .boolean, default⟩).keyword? "type" =
        some (.text "boolean") := rfl
    constructor
    · intro ⟨_, type, _, _, _⟩
      exact type "boolean" htype
    · rintro ⟨b, rfl⟩
      apply Satisfies.of_scalar hallowed
      · intro name hname
        cases htype.symm.trans hname
        exact ⟨b, rfl⟩
      · intro bound least number _ _ hnumber
        cases hnumber

/-! ### Records -/

namespace RecordSchema

variable {schema : RecordSchema} {object : List (String × Value)}

/-- A property is found in the document where it is found in the schema. -/
theorem property?_document (name : String) :
    schema.document.property? name = (schema.property? name).map Property.document := by
  show Entries.get? (Entries.ofTexts (schema.properties.map fun p => (p.name, p.document)))
    (.text name) = _
  have hkey (p : Property) : (Scalar.text p.name == .text name) = (p.name == name) := by
    rw [Bool.eq_iff_iff, beq_iff_eq, beq_iff_eq, Scalar.text.injEq]
  rw [property?, Entries.get?, Entries.ofTexts, List.map_map, List.find?_map, Option.map_map]
  exact congrArg (fun named => (schema.properties.find? named).map _) (funext hkey)

/-- An object conforms exactly if each entry is under a property of the schema and admitted by its
type. -/
theorem conforms_object_iff : schema.Conforms (.object object) ↔
    ∀ entry ∈ object, ∃ property, schema.property? entry.1 = some property ∧
      property.type.Admits entry.2 := by
  constructor
  · intro h entry hentry
    obtain ⟨name, property, hname, hproperty⟩ :=
      h (.text entry.1, entry.2) (List.mem_map.mpr ⟨entry, hentry, rfl⟩)
    obtain rfl := Scalar.text.inj hname
    exact ⟨property, hproperty⟩
  · intro h entry hentry
    obtain ⟨named, hnamed, rfl⟩ := List.mem_map.mp hentry
    obtain ⟨property, hproperty⟩ := h named hnamed
    exact ⟨named.1, property, rfl, hproperty⟩

/-- **What the document of a schema says** about records without floating-point numbers is what the
schema means. -/
theorem satisfies_document_iff (hreal : ∀ entry ∈ object, ∀ x, entry.2 ≠ .real x) :
    Satisfies schema.document (.object object) ↔ schema.Conforms (.object object) := by
  have hallowed : schema.document ≠ .bool false := nofun
  have htype : schema.document.keyword? "type" = some (.text "object") := rfl
  have hminimum : schema.document.keyword? "minimum" = none := rfl
  have hadditional : schema.document.keyword? "additionalProperties" = some (.bool false) := rfl
  rw [conforms_object_iff]
  constructor
  · intro ⟨_, _, _, properties, additional⟩ entry hentry
    have hholds := Value.holds_object_iff.mpr hentry
    cases hproperty : schema.property? entry.1 with
    -- a name without a property falls under the additional ones, and the schema allows none
    | none =>
      have hnone : schema.document.property? entry.1 = none := by
        rw [property?_document, hproperty]
        rfl
      exact absurd (additional _ _ _ hholds hnone hadditional) Satisfies.not_false
    | some property =>
      have hsome : schema.document.property? entry.1 = some property.document := by
        rw [property?_document, hproperty]
        rfl
      have hsatisfies := properties _ _ _ hholds hsome
      exact ⟨property, rfl, (Property.satisfies_document_iff (hreal entry hentry)).mp hsatisfies⟩
  · intro h
    apply Satisfies.intro hallowed
    · intro name hname
      cases htype.symm.trans hname
      exact ⟨object, rfl⟩
    · intro bound least number hbound
      cases hminimum.symm.trans hbound
    · -- each member is under a property, and by its type it satisfies the document of that
      intro name member sub hholds hsub
      have hentry := Value.holds_object_iff.mp hholds
      obtain ⟨property, hproperty, hadmits⟩ := h _ hentry
      rw [property?_document, hproperty] at hsub
      cases hsub
      exact (Property.satisfies_document_iff (hreal _ hentry)).mpr hadmits
    · intro name member sub hholds hnone
      obtain ⟨property, hproperty, -⟩ := h _ (Value.holds_object_iff.mp hholds)
      rw [property?_document, hproperty] at hnone
      cases hnone

end RecordSchema

/-! ### Named fields -/

namespace Fields

open Entries (ofTexts)

variable {k : Kind} {name : String} {value : Value} {object : List (String × Value)}

/-- The properties of the schema are the labels of the fields. -/
theorem property?_schema_iff {p : Property} :
    schema.property? name = some p ↔ ∃ k : Kind, name = k.label ∧ p = k.property := by
  show (Kind.all.map Kind.property).find? (·.name == name) = some p ↔ _
  rw [List.find?_map, Option.map_eq_some_iff]
  constructor
  · rintro ⟨k, hfind, rfl⟩
    have hlabel := List.find?_some hfind
    exact ⟨k, (beq_iff_eq.mp hlabel).symm, rfl⟩
  · rintro ⟨k, rfl, rfl⟩
    refine ⟨k, ?_, rfl⟩
    cases k <;> rfl

theorem fieldValue_congr {fields other : Fields} (h : fields.value k = other.value k) :
    fields.fieldValue k = other.fieldValue k := by
  rw [fieldValue, fieldValue, h]

theorem exists_value_eq {i : Int} (h : k.Admissible i) : ∃ fields : Fields, fields.value k = i :=
  ⟨defaults.override k ⟨i, h⟩, if_pos rfl⟩

/-- **The property of a field allows the values that the field can store.** -/
theorem admits_propertyType_iff :
    k.propertyType.Admits value ↔ ∃ fields : Fields, fields.fieldValue k = value := by
  by_cases hk : k.isSwitch = true
  · -- the switch: both truth values are written for some fields
    obtain rfl : k = .user := by cases k with
      | user => rfl
      | _ => cases hk
    show PropertyType.boolean.Admits value ↔
      ∃ fields : Fields, Value.bool (fields.value .user == 1) = value
    rw [PropertyType.admits_boolean_iff]
    constructor
    · rintro ⟨b, rfl⟩
      have hadmissible : Kind.user.Admissible (switchValue b) := by cases b <;> decide
      obtain ⟨fields, hvalue⟩ := exists_value_eq hadmissible
      refine ⟨fields, ?_⟩
      rw [hvalue]
      cases b <;> rfl
    · rintro ⟨fields, rfl⟩
      exact ⟨_, rfl⟩
  · -- a bound: the least integer of the type is the default of the field
    have hadmissible (i : Int) : k.Admissible i ↔ k.default ≤ i := by cases k with
      | user => exact absurd rfl hk
      | _ => exact Iff.rfl
    have hfield (fields : Fields) : fields.fieldValue k = .int (fields.value k) := if_neg hk
    rw [Kind.propertyType, if_neg hk, PropertyType.admits_integer_iff]
    simp only [hfield]
    constructor
    · rintro ⟨i, rfl, hle⟩
      obtain ⟨fields, hvalue⟩ := exists_value_eq ((hadmissible i).mpr hle)
      exact ⟨fields, congrArg Value.int hvalue⟩
    · rintro ⟨fields, rfl⟩
      exact ⟨_, rfl, (hadmissible _).mp (fields.admissible k)⟩

theorem labelled_ne_real {fields : Fields} :
    ∀ entry ∈ fields.labelled, ∀ x, entry.2 ≠ .real x := by
  intro entry hentry x hreal
  obtain ⟨k, -, rfl⟩ := List.mem_map.mp hentry
  have hadmits := admits_propertyType_iff.mpr ⟨fields, hreal⟩
  cases k <;> exact hadmits

/-- **Fields as they are written satisfy the schema.** -/
theorem satisfies_toValue (fields : Fields) : Satisfies schema.document fields.toValue := by
  apply (RecordSchema.satisfies_document_iff labelled_ne_real).mpr
  apply RecordSchema.conforms_object_iff.mpr
  intro entry hentry
  obtain ⟨k, -, rfl⟩ := List.mem_map.mp hentry
  -- the key is a label and the value one that the field was written with
  exact ⟨k.property, property?_schema_iff.mpr ⟨k, rfl, rfl⟩,
    admits_propertyType_iff.mpr ⟨fields, rfl⟩⟩

/-! ### Records that satisfy the schema -/

section Conforming
variable (hkeys : (object.map Prod.fst).Nodup)
  (hconforms : schema.Conforms (.object object))
include hconforms

/-- Each entry stands under a label and has a value that the field can store. -/
theorem exists_fieldValue_of_conforms (hentry : (name, value) ∈ object) :
    ∃ k : Kind, name = k.label ∧ ∃ fields : Fields, fields.fieldValue k = value := by
  obtain ⟨property, hproperty, hadmits⟩ :=
    RecordSchema.conforms_object_iff.mp hconforms _ hentry
  obtain ⟨k, hname, rfl⟩ := property?_schema_iff.mp hproperty
  exact ⟨k, hname, admits_propertyType_iff.mp hadmits⟩

include hkeys

/-- A field is given by the entry under its label. -/
theorem given_of_conforms : given (ofTexts object) k = some (name, value) ↔
    name = k.label ∧ (name, value) ∈ object := by
  rw [given_ofTexts_eq_some_iff hkeys, Gives, and_comm]
  refine and_congr_left fun hentry => or_iff_left ?_
  rintro ⟨rfl, -⟩
  -- no entry stands under a key
  obtain ⟨l, hl, -⟩ := exists_fieldValue_of_conforms hconforms hentry
  exact Kind.label_ne_key l k hl.symm

/-- Nothing is reported on an object that conforms. -/
theorem report_of_conforms : report (ofTexts object) = [] := by
  refine report_eq_nil_iff.mpr ⟨fun k => ?_, fun entry hentry => ?_⟩
  · -- a field is given an entry that conforms, and so one that it can be written with
    apply fieldError?_eq_none_iff.mpr
    intro name value hgiven
    obtain ⟨rfl, hentry⟩ := (given_of_conforms hkeys hconforms).mp hgiven
    obtain ⟨l, hl, fields, rfl⟩ := exists_fieldValue_of_conforms hconforms hentry
    obtain rfl : k = l := Kind.Named.eq_of_named (.inl rfl) (.inl hl)
    exact ⟨_, readField_fieldValue fields k⟩
  · obtain ⟨⟨name, value⟩, hmem, rfl⟩ := List.mem_map.mp hentry
    obtain ⟨k, rfl, -⟩ := exists_fieldValue_of_conforms hconforms hmem
    exact isFieldKey_iff.mpr
      ⟨k, k.label, value, (given_of_conforms hkeys hconforms).mpr ⟨rfl, hmem⟩, rfl⟩

variable {fields : Fields} (hfields : ofEntries (ofTexts object) = .ok fields)
include hfields

/-- A field that conforms is read as it stands, and so written the same way again. -/
theorem fieldValue_of_mem (hentry : (k.label, value) ∈ object) : fields.fieldValue k = value := by
  obtain ⟨l, hl, other, rfl⟩ := exists_fieldValue_of_conforms hconforms hentry
  obtain rfl : k = l := Kind.Named.eq_of_named (.inl rfl) (.inl hl)
  apply fieldValue_congr
  rw [(ofEntries_eq_ok_iff_report.mp hfields).2, readValue,
    (given_of_conforms hkeys hconforms).mpr ⟨rfl, hentry⟩]
  simp only [readField_fieldValue]

/-- A field that is left out has its default. -/
theorem fieldValue_of_not_mem (h : k.label ∉ object.map Prod.fst) :
    fields.fieldValue k = defaults.fieldValue k := by
  apply fieldValue_congr
  have hgiven : given (ofTexts object) k = none := by
    rw [Option.eq_none_iff_forall_ne_some]
    rintro ⟨name, value⟩ hgiven
    obtain ⟨rfl, hentry⟩ := (given_of_conforms hkeys hconforms).mp hgiven
    exact h (List.mem_map_of_mem hentry)
  rw [(ofEntries_eq_ok_iff_report.mp hfields).2, readValue, hgiven]
  rfl

end Conforming

/-- **The schema and the reader of definitions agree.** A record without floating-point numbers that
satisfies the document is accepted: each entry is a field of the definition, with just this value,
and every other field has the default that the document names. The record of every definition that
is accepted satisfies the document. -/
theorem schema_agrees_with_ofValue :
    (∀ object : List (String × Value), (object.map Prod.fst).Nodup →
      (∀ entry ∈ object, ∀ x, entry.2 ≠ .real x) →
      Satisfies schema.document (.object object) →
      ∃ fields, ofValue (.object object) = .ok fields ∧
        (∀ entry ∈ object, entry ∈ fields.labelled) ∧
        ∀ entry ∈ fields.labelled, entry ∈ object ∨ entry.1 ∉ object.map Prod.fst ∧
          ∃ property, schema.document.property? entry.1 = some property ∧
            property.keyword? "default" = some entry.2) ∧
    ∀ value fields, ofValue value = .ok fields → Satisfies schema.document fields.toValue := by
  refine ⟨fun object hkeys hreal hsatisfies => ?_, fun _ fields _ => satisfies_toValue fields⟩
  have hconforms := (RecordSchema.satisfies_document_iff hreal).mp hsatisfies
  obtain ⟨fields, hfields⟩ := ofEntries_isOk_iff.mpr (report_of_conforms hkeys hconforms)
  refine ⟨fields, hfields, fun ⟨name, value⟩ hentry => ?_, fun entry hentry => ?_⟩
  · obtain ⟨k, rfl, -⟩ := exists_fieldValue_of_conforms hconforms hentry
    rw [← fieldValue_of_mem hkeys hconforms hfields hentry]
    exact List.mem_map_of_mem (Kind.mem_all k)
  · obtain ⟨k, -, rfl⟩ := List.mem_map.mp hentry
    -- what was in the object is written as it stood, and the rest are defaults
    by_cases hlabel : k.label ∈ object.map Prod.fst
    · left
      obtain ⟨⟨_, value⟩, hmem, rfl⟩ := List.mem_map.mp hlabel
      rwa [fieldValue_of_mem hkeys hconforms hfields hmem]
    · right
      refine ⟨hlabel, k.property.document, ?_, ?_⟩
      · rw [RecordSchema.property?_document, property?_schema_iff.mpr ⟨k, rfl, rfl⟩]
        rfl
      · rw [fieldValue_of_not_mem hkeys hconforms hfields hlabel]
        rfl

/-- A bound, the limit that switches the age off, and a switch; then a text that is read as a
number. -/
theorem schema_agrees_with_ofValue_of_three :
    let object : List (String × Value) :=
      [("minLength", .int 12), ("maxAge", .int (-1)), ("noUser", .bool true)]
    (object.map Prod.fst).Nodup ∧ (∀ entry ∈ object, ∀ x, entry.2 ≠ .real x) ∧
      Satisfies schema.document (.object object) ∧
      (∃ fields, ofValue (.object object) = .ok fields ∧ ("maxAge", .int (-1)) ∈ fields.labelled ∧
        ("minUpper", .int 0) ∈ fields.labelled) ∧
      ∃ fields, ofValue (.object [("min_length", .text "+1_2")]) = .ok fields ∧
        Satisfies schema.document fields.toValue := by
  intro object
  have hkeys : (object.map Prod.fst).Nodup := by decide
  have hreal : ∀ entry ∈ object, ∀ x, entry.2 ≠ .real x := by
    simp [object, Value.int, Value.bool, Value.real]
  have hsatisfies : Satisfies schema.document (.object object) := by
    apply (RecordSchema.satisfies_document_iff hreal).mpr
    apply RecordSchema.conforms_object_iff.mpr
    simp only [object, List.forall_mem_cons, List.not_mem_nil, false_imp_iff, implies_true,
      and_true]
    refine ⟨⟨Kind.length.property, rfl, ?_⟩, ⟨Kind.age.property, rfl, ?_⟩,
      ⟨Kind.user.property, rfl, trivial⟩⟩
    · show (0 : Int) ≤ 12
      decide
    · show (-1 : Int) ≤ -1
      decide
  obtain ⟨haccepted, hdumped⟩ := schema_agrees_with_ofValue
  obtain ⟨fields, hfields, hgiven, hothers⟩ := haccepted object hkeys hreal hsatisfies
  refine ⟨hkeys, hreal, hsatisfies, ⟨fields, hfields, hgiven _ (by simp [object]), ?_⟩, ?_⟩
  · have hupper : ("minUpper", fields.fieldValue .uppercase) ∈ fields.labelled :=
      List.mem_map_of_mem (Kind.mem_all .uppercase)
    rcases hothers _ hupper with hmem | ⟨-, property, hproperty, hdefault⟩
    · simp [object] at hmem
    · cases hproperty
      have hzero : Value.int 0 = fields.fieldValue .uppercase := Option.some.inj hdefault
      rwa [← hzero] at hupper
  · obtain ⟨fields, hfields⟩ :
        ∃ fields, ofValue (.object [("min_length", .text "+1_2")]) = .ok fields := ⟨_, rfl⟩
    exact ⟨fields, hfields, hdumped _ _ hfields⟩

end Fields

end PasswordPolicy
