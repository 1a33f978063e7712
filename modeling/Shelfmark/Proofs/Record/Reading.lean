import Shelfmark.Proofs.Record.Once
import Shelfmark.Record

/-!
# Records - Reading the fields

A record is filled by appending values to its fields, in any order and as often as one likes.  What
a specification reads depends on nothing but the values stored under the fields that it names, and
these are the ones appended to them, one time after another.

Main results:

- Theorem `stored_withField`: appending to a field changes what is stored there and nowhere else.
- Theorem `stored_filled`: a filled record stores what was appended to each field.
- Theorem `listsOnce_listValues`: what is named is read once, in the order of first occurrences.
- Theorem `listValues_withField`: what is read does not change with the fields that are not named.
- Theorem `listValues_filled`: what is read from a record filled by any sequence of appends.
-/

namespace Shelfmark
namespace Record

/-! ## Stored values -/

/-- The values stored under a single field specification, in their order. -/
def stored (record : Record) (field : Text) : List Text :=
  (record.fields.lookup field).getD []

/-- Values are appended to those that a field has, and no other field is touched. -/
theorem lookup_appendTo (spec : Text) (values : List Text) (fields : List (Text × List Text))
    (field : Text) :
    (appendTo spec values fields).lookup field =
      if field = spec then some ((fields.lookup field).getD [] ++ values)
      else fields.lookup field := by
  induction fields with
  | nil =>
    by_cases h : field = spec
    · simp [appendTo, h]
    · simp [appendTo, List.lookup_cons, beq_false_of_ne h, h]
  | cons first fields ih =>
    obtain ⟨key, present⟩ := first
    by_cases hkey : key = spec
    · rw [appendTo, if_pos hkey, ← hkey]
      by_cases h : field = key
      · simp [h]
      · simp [List.lookup_cons, beq_false_of_ne h, h]
    · rw [appendTo, if_neg hkey]
      by_cases h : field = key
      · simp [h, hkey]
      · simp [List.lookup_cons, beq_false_of_ne h, ih]

/-- Appending to a field changes what is stored there and nowhere else. -/
theorem stored_withField (record : Record) (spec : Text) (values : List Text) (field : Text) :
    (record.withField spec values).stored field =
      if field = spec then record.stored field ++ values else record.stored field := by
  rw [stored, withField, lookup_appendTo]
  split
  · rfl
  · rfl

/-! ## Filled records -/

/-- A record to whose fields values are appended, one time after another. -/
def filled (record : Record) (calls : List (Text × List Text)) : Record :=
  calls.foldl (fun record call => record.withField call.1 call.2) record

/-- The values appended to a field, in the order in which they were. -/
def appended (calls : List (Text × List Text)) (field : Text) : List Text :=
  (calls.filter (·.1 = field)).flatMap (·.2)

/-- A value was appended to a field at one time or another. -/
theorem mem_appended {calls : List (Text × List Text)} {field value : Text} :
    value ∈ appended calls field ↔ ∃ call ∈ calls, call.1 = field ∧ value ∈ call.2 := by
  simp [appended, and_assoc]

/-- A filled record stores, behind what was there, what was appended to each field. -/
theorem stored_filled (record : Record) (calls : List (Text × List Text)) (field : Text) :
    (record.filled calls).stored field = record.stored field ++ appended calls field := by
  -- What is stored after the first call is what the others find there.
  induction calls generalizing record with
  | nil => exact (List.append_nil _).symm
  | cons call calls ih =>
    have hstep : (record.filled (call :: calls)).stored field =
        (record.withField call.1 call.2).stored field ++ appended calls field :=
      ih (record.withField call.1 call.2)
    rw [hstep, stored_withField, appended, appended]
    by_cases h : field = call.1
    · rw [if_pos h, List.filter_cons_of_pos (by simpa using h.symm), List.flatMap_cons,
        List.append_assoc]
    · rw [if_neg h, List.filter_cons_of_neg (by simpa using Ne.symm h)]

/-! ## What is read -/

/-- The values stored under the fields that a specification names, in the order of the fields:
trimmed, and without those of which nothing is left. -/
def named (record : Record) (spec : Text) : List Text :=
  (((FieldSpec.split spec).flatMap record.stored).map Text.trim).filter (!·.isEmpty)

/-- What is read is what is named, without repetitions. -/
theorem listValues_eq (record : Record) (spec : Text) :
    record.listValues spec = (record.named spec).eraseDups :=
  rfl

/-- Each value that is named is read once, in the order in which they first occur. -/
theorem listsOnce_listValues (record : Record) (spec : Text) :
    ListsOnce (record.named spec) (record.listValues spec) := by
  rw [listValues_eq]
  exact listsOnce_eraseDups (record.named spec)

/-- A value is named if it is what is left of one that is stored under a named field. -/
theorem mem_named {record : Record} {spec value : Text} :
    value ∈ record.named spec ↔ value ≠ [] ∧
      ∃ field ∈ FieldSpec.split spec, ∃ text ∈ record.stored field, text.trim = value := by
  simp only [named, List.mem_filter, List.mem_map, List.mem_flatMap]
  constructor
  · rintro ⟨⟨text, ⟨field, hfield, htext⟩, htrim⟩, hne⟩
    exact ⟨by simpa using hne, field, hfield, text, htext, htrim⟩
  · rintro ⟨hne, field, hfield, text, htext, htrim⟩
    exact ⟨⟨text, ⟨field, hfield, htext⟩, htrim⟩, by simpa using hne⟩

/-- The first value that is read is the first that is named. -/
theorem head?_listValues (record : Record) (spec : Text) :
    (record.listValues spec).head? = (record.named spec).head? := by
  rw [listValues_eq]
  cases record.named spec with
  | nil => rfl
  | cons value values => rw [List.eraseDups_cons, List.head?_cons, List.head?_cons]

/-- Records that store the same under the named fields have the same values named. -/
theorem named_congr {record other : Record} {spec : Text}
    (h : ∀ field ∈ FieldSpec.split spec, record.stored field = other.stored field) :
    record.named spec = other.named spec := by
  rw [named, named, List.flatMap_congr h]

/-- What a specification reads does not change with the fields that it does not name. -/
theorem listValues_withField {record : Record} {spec field : Text} (values : List Text)
    (h : field ∉ FieldSpec.split spec) :
    (record.withField field values).listValues spec = record.listValues spec := by
  have hnamed : (record.withField field values).named spec = record.named spec := by
    refine named_congr fun other hother => ?_
    have hne : other ≠ field := fun heq => h (heq ▸ hother)
    rw [stored_withField, if_neg hne]
  rw [listValues_eq, listValues_eq, hnamed]

/-- What is read from a record whose fields were filled one time after another.  No value is read
twice; the values are those appended to the fields that the specification names, trimmed and not
empty; they come in the order in which they first occur when the fields are gone through as they
are named, and each field as it was filled; the first of them is what is read where one is asked
for.  Filling a field that is not named changes nothing. -/
theorem listValues_filled (id : Option Text) (calls : List (Text × List Text)) (spec : Text) :
    let record := filled { id } calls
    let values :=
      (((FieldSpec.split spec).flatMap (appended calls)).map Text.trim).filter (!·.isEmpty)
    (record.listValues spec).Nodup ∧
      (∀ value, value ∈ record.listValues spec ↔ value ≠ [] ∧
        ∃ field ∈ FieldSpec.split spec, ∃ call ∈ calls, call.1 = field ∧
          ∃ text ∈ call.2, text.trim = value) ∧
      (record.listValues spec).Pairwise (fun a b => values.idxOf a < values.idxOf b) ∧
      record.firstValue? spec = (record.listValues spec).head? ∧
      (record.listValues spec).head? = values.head? ∧
      ∀ (field : Text) (added : List Text), field ∉ FieldSpec.split spec →
        (record.withField field added).listValues spec = record.listValues spec ∧
          (record.withField field added).firstValue? spec = record.firstValue? spec := by
  intro record values
  have hstored : record.stored = appended calls :=
    funext fun field => (stored_filled { id } calls field).trans (List.nil_append _)
  have hnamed : record.named spec = values := by rw [named, hstored]
  have honce : ListsOnce values (record.listValues spec) := hnamed ▸ listsOnce_listValues record spec
  refine ⟨honce.nodup, fun value => ?_, honce.ascending, rfl, ?_, fun field added hfield => ?_⟩
  · rw [honce.mem_iff, ← hnamed, mem_named, hstored]
    simp only [mem_appended]
    refine and_congr_right fun _ => exists_congr fun field => and_congr_right fun _ => ?_
    constructor
    · rintro ⟨text, ⟨call, hcall, hkey, htext⟩, htrim⟩
      exact ⟨call, hcall, hkey, text, htext, htrim⟩
    · rintro ⟨call, hcall, hkey, text, htext, htrim⟩
      exact ⟨text, ⟨call, hcall, hkey, htext⟩, htrim⟩
  · rw [head?_listValues, hnamed]
  · have hsame : (record.withField field added).listValues spec = record.listValues spec :=
      listValues_withField added hfield
    exact ⟨hsame, congrArg List.head? hsame⟩

/-- A field filled twice, with a value that another field has too and one of which nothing is
left. -/
theorem shelvedTwice_filled :
    let record := filled { id := some "u1".toList }
      [("090a".toList, ["QA76 .J38".toList, " ".toList]),
        ("050a".toList, ["QA76.9".toList, " QA76 .J38".toList]),
        ("090a".toList, ["QA75\t".toList])]
    record.listValues "050a:090a".toList =
        ["QA76.9".toList, "QA76 .J38".toList, "QA75".toList] ∧
      "082a".toList ∉ FieldSpec.split "050a:090a".toList ∧
      (record.withField "082a".toList ["813.54".toList]).firstValue? "050a:090a".toList =
        some "QA76.9".toList := by
  intro record
  have hread := listValues_filled (some "u1".toList)
    [("090a".toList, ["QA76 .J38".toList, " ".toList]),
      ("050a".toList, ["QA76.9".toList, " QA76 .J38".toList]),
      ("090a".toList, ["QA75\t".toList])] "050a:090a".toList
  obtain ⟨-, -, -, hfirst, -, hframe⟩ := hread
  have hlist : record.listValues "050a:090a".toList =
      ["QA76.9".toList, "QA76 .J38".toList, "QA75".toList] := by decide
  have hnot : "082a".toList ∉ FieldSpec.split "050a:090a".toList := by decide
  refine ⟨hlist, hnot, ?_⟩
  rw [(hframe "082a".toList ["813.54".toList] hnot).2, hfirst, hlist]
  rfl

end Record
end Shelfmark
