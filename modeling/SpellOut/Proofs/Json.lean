import SpellOut.Json

/-! Which JSON values describe types.

A JSON value describes a type by its kind, one key of an object, and by what stands under that key
(`Json.Describes`); or somewhere inside it something is wrong (`Json.Faulty`). There is no third
case (`Json.describes_or_faulty`), and reading a value tells the two apart, with the type that is
described. Since every type is written as a value that describes it, nothing is lost on the way to
JSON and back (`ResolvedType.json_faithful`).

What is written has objects with different keys only (`ResolvedType.toJson_distinct`), and where
that is so, reading does not depend on the order of the fields (`ResolvedType.ofJson?_perm`). -/
namespace SpellOut

namespace Json

mutual

/-- What a JSON value has to be, to describe a type. Of the fields of a reference two count, and
what else is among them does not matter. -/
inductive Describes : Json → ResolvedType → Prop where
  | primitive {word : String} : Describes (.object [("Primitive", .string word)]) (.primitive word)
  | array {value : Json} {component : ResolvedType} (h : Describes value component) :
      Describes (.object [("Array", value)]) (.array component)
  | reference {fields : List (String × Json)} {name : String} {items : List Json}
      {arguments : List ResolvedType}
      (hname : fields.lookup "qualified_name" = some (.string name))
      (hitems : fields.lookup "type_arguments" = some (.array items))
      (h : DescribesAll items arguments) :
      Describes (.object [("Reference", .object fields)]) (.reference (.ofText name) arguments)
  | wildcard {value : Json} {bound : ResolvedType} (h : Describes value bound) :
      Describes (.object [("Wildcard", value)]) (.wildcard bound)
  | typeVariable {name : String} :
      Describes (.object [("TypeVariable", .string name)]) (.typeVariable name)
  | raw {text : String} : Describes (.object [("Other", .string text)]) (.raw text)

/-- Each value describes a type, one after the other. -/
inductive DescribesAll : List Json → List ResolvedType → Prop where
  | nil : DescribesAll [] []
  | cons {value : Json} {type : ResolvedType} {values : List Json} {types : List ResolvedType}
      (h : Describes value type) (hrest : DescribesAll values types) :
      DescribesAll (value :: values) (type :: types)

end

/-- The kinds of types that a text is all there is to. -/
def textKinds : List String := ["Primitive", "TypeVariable", "Other"]

/-- The kinds of types that have one type as their only part. -/
def nestedKinds : List String := ["Array", "Wildcard"]

/-- What can be wrong with a JSON value, so that it describes no type: it is no object, or not one
with a single key that is a kind of types, or what stands under the key is not what the kind asks
for, or something is wrong with a part of it. -/
inductive Faulty : Json → Prop where
  | noObject {j : Json} (h : ∀ fields, j ≠ .object fields) : Faulty j
  | noKey : Faulty (.object [])
  | severalKeys {first second : String × Json} {rest : List (String × Json)} :
      Faulty (.object (first :: second :: rest))
  | unknownKind {kind : String} {value : Json} (htext : kind ∉ textKinds)
      (hnested : kind ∉ nestedKinds) (hreference : kind ≠ "Reference") :
      Faulty (.object [(kind, value)])
  | noText {kind : String} {value : Json} (hkind : kind ∈ textKinds)
      (h : ∀ text, value ≠ .string text) : Faulty (.object [(kind, value)])
  | nested {kind : String} {value : Json} (hkind : kind ∈ nestedKinds) (h : Faulty value) :
      Faulty (.object [(kind, value)])
  | noFields {value : Json} (h : ∀ fields, value ≠ .object fields) :
      Faulty (.object [("Reference", value)])
  | noName {fields : List (String × Json)}
      (h : ∀ name, fields.lookup "qualified_name" ≠ some (.string name)) :
      Faulty (.object [("Reference", .object fields)])
  | noArguments {fields : List (String × Json)}
      (h : ∀ items, fields.lookup "type_arguments" ≠ some (.array items)) :
      Faulty (.object [("Reference", .object fields)])
  | argument {fields : List (String × Json)} {items : List Json} {item : Json}
      (hitems : fields.lookup "type_arguments" = some (.array items)) (hitem : item ∈ items)
      (h : Faulty item) : Faulty (.object [("Reference", .object fields)])

/-! ### Different keys -/

theorem Distinct.single {key : String} {value : Json} (h : value.Distinct) :
    Distinct (.object [(key, value)]) :=
  .object (by simp) (by simpa using h)

/-- Among fields with different keys, the value under a key is the one that stands there. -/
theorem lookup_eq_some_iff_mem {fields : List (String × Json)}
    (hkeys : (fields.map Prod.fst).Nodup) {key : String} {value : Json} :
    fields.lookup key = some value ↔ (key, value) ∈ fields := by
  constructor
  · intro h
    obtain ⟨before, after, rfl, -⟩ := List.lookup_eq_some_iff.mp h
    simp
  · intro h
    obtain ⟨before, after, rfl⟩ := List.append_of_mem h
    refine List.lookup_eq_some_iff.mpr ⟨before, after, rfl, fun field hfield => ?_⟩
    rw [List.map_append, List.map_cons] at hkeys
    obtain ⟨-, -, hapart⟩ := List.nodup_append.mp hkeys
    have hne : field.1 ≠ key :=
      hapart field.1 (List.mem_map_of_mem hfield) key List.mem_cons_self
    exact bne_iff_ne.mpr hne.symm

theorem lookup_eq_of_perm {fields others : List (String × Json)} (h : fields.Perm others)
    (hkeys : (fields.map Prod.fst).Nodup) (key : String) :
    fields.lookup key = others.lookup key := by
  have hothers : (others.map Prod.fst).Nodup := (h.map Prod.fst).nodup_iff.mp hkeys
  apply Option.ext
  intro value
  rw [lookup_eq_some_iff_mem hkeys, lookup_eq_some_iff_mem hothers, h.mem_iff]

/-! ### No third case -/

/-- A value among fields is smaller than an object with them. -/
theorem sizeOf_lt_of_lookup {fields : List (String × Json)} {key : String} {value : Json}
    (h : fields.lookup key = some value) : sizeOf value < sizeOf fields := by
  obtain ⟨before, after, rfl, -⟩ := List.lookup_eq_some_iff.mp h
  have hmem : (key, value) ∈ before ++ (key, value) :: after := by simp
  have hlt := List.sizeOf_lt_of_mem hmem
  simp only [Prod.mk.sizeOf_spec] at hlt
  omega

/-- If each of the values describes a type or is faulty, they describe types or one is faulty. -/
theorem describesAll_or {items : List Json}
    (h : ∀ item ∈ items, (∃ t, item.Describes t) ∨ item.Faulty) :
    (∃ types, DescribesAll items types) ∨ ∃ item ∈ items, item.Faulty := by
  induction items with
  | nil => exact .inl ⟨[], .nil⟩
  | cons first rest ih =>
    obtain ⟨hfirst, hrest⟩ := List.forall_mem_cons.mp h
    rcases hfirst with ⟨type, htype⟩ | hfaulty
    · rcases ih hrest with ⟨types, htypes⟩ | ⟨item, hitem, hfaulty⟩
      · exact .inl ⟨type :: types, .cons htype htypes⟩
      · exact .inr ⟨item, List.mem_cons_of_mem _ hitem, hfaulty⟩
    · exact .inr ⟨first, List.mem_cons_self, hfaulty⟩

/-- A text describes a type under every key of a kind of types that asks for one. -/
theorem describes_text {kind : String} (hkind : kind ∈ textKinds) (text : String) :
    ∃ t, Describes (.object [(kind, .string text)]) t := by
  simp only [textKinds, List.mem_cons, List.not_mem_nil, or_false] at hkind
  rcases hkind with rfl | rfl | rfl
  · exact ⟨_, .primitive⟩
  · exact ⟨_, .typeVariable⟩
  · exact ⟨_, .raw⟩

theorem Describes.nested {kind : String} {value : Json} {type : ResolvedType}
    (h : value.Describes type) (hkind : kind ∈ nestedKinds) :
    ∃ t, Describes (.object [(kind, value)]) t := by
  simp only [nestedKinds, List.mem_cons, List.not_mem_nil, or_false] at hkind
  rcases hkind with rfl | rfl
  · exact ⟨_, .array h⟩
  · exact ⟨_, .wildcard h⟩

/-- A reference describes a type or is faulty, if that is so with each of its arguments. -/
theorem reference_or_faulty {fields : List (String × Json)}
    (h : ∀ items, fields.lookup "type_arguments" = some (.array items) →
      ∀ item ∈ items, (∃ t, item.Describes t) ∨ item.Faulty) :
    (∃ t, Describes (.object [("Reference", .object fields)]) t) ∨
      Faulty (.object [("Reference", .object fields)]) := by
  by_cases hname : ∃ name, fields.lookup "qualified_name" = some (.string name)
  · by_cases hitems : ∃ items, fields.lookup "type_arguments" = some (.array items)
    · obtain ⟨name, hname⟩ := hname
      obtain ⟨items, hitems⟩ := hitems
      rcases describesAll_or (h items hitems) with ⟨types, htypes⟩ | ⟨item, hitem, hfaulty⟩
      · exact .inl ⟨_, .reference hname hitems htypes⟩
      · exact .inr (.argument hitems hitem hfaulty)
    · exact .inr (.noArguments fun items hi => hitems ⟨items, hi⟩)
  · exact .inr (.noName fun name hn => hname ⟨name, hn⟩)

/-- A JSON value describes a type, or something is wrong somewhere inside it. -/
theorem describes_or_faulty (j : Json) : (∃ t, j.Describes t) ∨ j.Faulty := by
  match j with
  | .null | .bool _ | .number _ _ | .string _ | .array _ => exact .inr (.noObject (by simp))
  | .object [] => exact .inr .noKey
  | .object (first :: second :: rest) => exact .inr .severalKeys
  | .object [(kind, value)] =>
    by_cases htext : kind ∈ textKinds
    · cases value with
      | string text => exact .inl (describes_text htext text)
      | null | bool _ | number _ _ | array _ | object _ => exact .inr (.noText htext (by simp))
    by_cases hnested : kind ∈ nestedKinds
    · rcases describes_or_faulty value with ⟨type, htype⟩ | hfaulty
      · exact .inl (htype.nested hnested)
      · exact .inr (.nested hnested hfaulty)
    by_cases hreference : kind = "Reference"
    · subst hreference
      cases value with
      | object fields =>
        exact reference_or_faulty fun items hitems item hitem => describes_or_faulty item
      | null | bool _ | number _ _ | array _ | string _ => exact .inr (.noFields (by simp))
    · exact .inr (.unknownKind htext hnested hreference)
termination_by sizeOf j
decreasing_by
  all_goals subst_vars
  · simp +arith
  · have hless := sizeOf_lt_of_lookup hitems
    have hitem := List.sizeOf_lt_of_mem hitem
    simp only [array.sizeOf_spec] at hless
    simp only [object.sizeOf_spec, List.cons.sizeOf_spec, Prod.mk.sizeOf_spec]
    omega

end Json

namespace ResolvedType

theorem nameIn?_eq (fields : List (String × Json)) :
    nameIn? fields = match fields.lookup "qualified_name" with
      | some (.string name) => some (.ofText name)
      | _ => none := by
  induction fields with
  | nil => rfl
  | cons field rest ih =>
    obtain ⟨key, value⟩ := field
    by_cases hkey : key = "qualified_name"
    · subst hkey
      cases value <;> simp [nameIn?]
    · have hbeq : ("qualified_name" == key) = false := beq_false_of_ne fun he => hkey he.symm
      cases value <;> simp only [nameIn?, if_neg hkey, ih, List.lookup_cons, hbeq]

theorem argumentsIn?_eq (fields : List (String × Json)) :
    argumentsIn? fields = match fields.lookup "type_arguments" with
      | some (.array items) => ofJsonList? items
      | _ => none := by
  induction fields with
  | nil => rfl
  | cons field rest ih =>
    obtain ⟨key, value⟩ := field
    by_cases hkey : key = "type_arguments"
    · subst hkey
      cases value <;> simp [argumentsIn?]
    · have hbeq : ("type_arguments" == key) = false := beq_false_of_ne fun he => hkey he.symm
      cases value <;> simp only [argumentsIn?, if_neg hkey, ih, List.lookup_cons, hbeq]

/-- The fields of a reference may stand in any order. -/
theorem ofJson?_perm {fields others : List (String × Json)} (h : fields.Perm others)
    (hdistinct : (Json.object fields).Distinct) :
    ofJson? (.object [("Reference", .object fields)]) =
      ofJson? (.object [("Reference", .object others)]) := by
  cases hdistinct with
  | object hkeys _ =>
    simp only [ofJson?, nameIn?_eq, argumentsIn?_eq, Json.lookup_eq_of_perm h hkeys]

mutual

/-- What a value describes is read from it. -/
theorem ofJson?_of_describes {j : Json} {t : ResolvedType} (h : j.Describes t) :
    ofJson? j = some t := by
  cases h with
  | primitive => simp [ofJson?]
  | array h => simp [ofJson?, ofJson?_of_describes h]
  | reference hname hitems h =>
    simp [ofJson?, nameIn?_eq, argumentsIn?_eq, hname, hitems, ofJsonList?_of_describesAll h]
  | wildcard h => simp [ofJson?, ofJson?_of_describes h]
  | typeVariable => simp [ofJson?]
  | raw => simp [ofJson?]

theorem ofJsonList?_of_describesAll {items : List Json} {types : List ResolvedType}
    (h : Json.DescribesAll items types) : ofJsonList? items = some types := by
  cases h with
  | nil => rfl
  | cons h hrest => simp [ofJsonList?, ofJson?_of_describes h, ofJsonList?_of_describesAll hrest]

end

theorem ofJsonList?_of_mem {items : List Json} {item : Json} (hitem : item ∈ items)
    (h : ofJson? item = none) : ofJsonList? items = none := by
  induction items with
  | nil => cases hitem
  | cons first rest ih =>
    rcases List.mem_cons.mp hitem with rfl | hrest
    · simp [ofJsonList?, h]
    · simp [ofJsonList?, ih hrest]

/-- From a value with something wrong inside it nothing is read. -/
theorem ofJson?_of_faulty {j : Json} (h : j.Faulty) : ofJson? j = none := by
  induction h with
  | @noObject j h =>
    cases j with
    | object fields => exact absurd rfl (h fields)
    | null | bool _ | number _ _ | string _ | array _ => simp [ofJson?]
  | noKey => simp [ofJson?]
  | severalKeys => simp [ofJson?]
  | @unknownKind kind value htext hnested hreference =>
    simp only [Json.textKinds, Json.nestedKinds, List.mem_cons, List.not_mem_nil, or_false,
      not_or] at htext hnested
    simp [ofJson?, htext, hnested, hreference]
  | @noText kind value hkind h =>
    simp only [Json.textKinds, List.mem_cons, List.not_mem_nil, or_false] at hkind
    rcases hkind with rfl | rfl | rfl <;> simp [ofJson?, h]
  | @nested kind value hkind h ih =>
    simp only [Json.nestedKinds, List.mem_cons, List.not_mem_nil, or_false] at hkind
    rcases hkind with rfl | rfl <;> simp [ofJson?, ih]
  | noFields h => simp [ofJson?, h]
  | @noName fields h =>
    have hname : nameIn? fields = none := by
      rw [nameIn?_eq]
      split
      · next name hfound => exact absurd hfound (h name)
      · rfl
    simp [ofJson?, hname]
  | @noArguments fields h =>
    have harguments : argumentsIn? fields = none := by
      rw [argumentsIn?_eq]
      split
      · next items hfound => exact absurd hfound (h items)
      · rfl
    simp [ofJson?, harguments]
  | argument hitems hitem h ih =>
    simp [ofJson?, argumentsIn?_eq, hitems, ofJsonList?_of_mem hitem ih]

mutual

/-- A type is written as a value that describes it. -/
theorem describes_toJson (t : ResolvedType) : t.toJson.Describes t := by
  cases t with
  | primitive word => exact .primitive
  | array component => exact .array (describes_toJson component)
  | reference name arguments =>
    have h : (reference name arguments).toJson.Describes (reference (.ofText name.text) arguments) :=
      .reference rfl rfl (describesAll_toJsonList arguments)
    rwa [Name.ofText_text] at h
  | wildcard bound => exact .wildcard (describes_toJson bound)
  | typeVariable name => exact .typeVariable
  | raw text => exact .raw

theorem describesAll_toJsonList (types : List ResolvedType) :
    Json.DescribesAll (toJsonList types) types := by
  cases types with
  | nil => exact .nil
  | cons first rest => exact .cons (describes_toJson first) (describesAll_toJsonList rest)

end

mutual

/-- A type is written with different keys throughout. -/
theorem toJson_distinct (t : ResolvedType) : t.toJson.Distinct := by
  cases t with
  | primitive word => exact .single .string
  | array component => exact .single (toJson_distinct component)
  | reference name arguments =>
    apply Json.Distinct.single
    apply Json.Distinct.object
    · simp
    · simpa using ⟨.string, .array (toJsonList_distinct arguments)⟩
  | wildcard bound => exact .single (toJson_distinct bound)
  | typeVariable name => exact .single .string
  | raw text => exact .single .string

theorem toJsonList_distinct (types : List ResolvedType) :
    ∀ item ∈ toJsonList types, item.Distinct := by
  cases types with
  | nil => simp [toJsonList]
  | cons first rest =>
    exact List.forall_mem_cons.mpr ⟨toJson_distinct first, toJsonList_distinct rest⟩

end

theorem ofJson?_eq_some_iff {j : Json} {t : ResolvedType} :
    ofJson? j = some t ↔ j.Describes t := by
  refine ⟨fun hread => ?_, ofJson?_of_describes⟩
  rcases j.describes_or_faulty with ⟨other, hother⟩ | hfaulty
  · cases hread.symm.trans (ofJson?_of_describes hother)
    exact hother
  · cases hread.symm.trans (ofJson?_of_faulty hfaulty)

theorem ofJson?_eq_none_iff {j : Json} : ofJson? j = none ↔ j.Faulty := by
  refine ⟨fun hnone => ?_, ofJson?_of_faulty⟩
  rcases j.describes_or_faulty with ⟨t, ht⟩ | hfaulty
  · cases hnone.symm.trans (ofJson?_of_describes ht)
  · exact hfaulty

/-- **Types survive as JSON values.** A type that is written is read back, and so is what was read
from any value. What is read is the type that the value describes, and nothing is read exactly if
something is wrong somewhere inside the value. -/
theorem json_faithful (t : ResolvedType) (j : Json) :
    ofJson? t.toJson = some t ∧
      ((ofJson? j).bind fun read => ofJson? read.toJson) = ofJson? j ∧
      (ofJson? j = some t ↔ j.Describes t) ∧ (ofJson? j = none ↔ j.Faulty) := by
  have hwritten : ∀ t : ResolvedType, ofJson? t.toJson = some t := fun t =>
    ofJson?_of_describes (describes_toJson t)
  refine ⟨hwritten t, ?_, ofJson?_eq_some_iff, ofJson?_eq_none_iff⟩
  cases ofJson? j with
  | none => rfl
  | some read => exact hwritten read

end ResolvedType

namespace Import

theorem toJson_distinct (i : Import) : i.toJson.Distinct := by
  apply Json.Distinct.object
  · simp
  · simpa using ⟨.string, .bool⟩

/-- The fields of an import may stand in any order. -/
theorem ofJson?_perm {fields others : List (String × Json)} (h : fields.Perm others)
    (hdistinct : (Json.object fields).Distinct) :
    ofJson? (.object fields) = ofJson? (.object others) := by
  cases hdistinct with
  | object hkeys _ => simp only [ofJson?, Json.lookup_eq_of_perm h hkeys]

end Import

end SpellOut
