import Mathlib.Data.List.Forall2
import PixelApplet.Library.Schemas
import PixelApplet.Proofs.Evaluation.Posture
import PixelApplet.Proofs.Schema.HandlerTables

/-!
# Ids of fields

A schema that is decoded lists the fields of its value in their order, and no two of them have the
same id; so does its document.  That ids are not empty is not looked at when a schema is decoded,
but when fields are made: all constructors refuse an empty id, except that of generated fields.
-/

namespace PixelApplet

/-- A value is a field. -/
def Value.IsField (v : Value) (field : SchemaField) : Prop :=
  ∃ identity maker backing, v = .native identity (.field maker field backing)

/-- A value is no field without an id. -/
def Value.Named (v : Value) : Prop :=
  ∀ field, v.IsField field → field.id ≠ ""

namespace Schema

variable {exported : Bindings Value} {schema schema' : Schema}

theorem IsFieldOf.isField {field : SchemaField} {v : Value} (is : IsFieldOf field [v]) :
    v.IsField field := by
  obtain ⟨identity, maker, backing, here⟩ := is
  exact ⟨identity, maker, backing, (List.mem_singleton.mp here).symm⟩

/-- Adding fields appends them, and keeps ids distinct. -/
theorem addFields_lists {index : Nat} {values : List Value}
    (distinct : (schema.fields.map SchemaField.id).Nodup)
    (adds : addFields exported index values schema = .ok schema') :
    (schema'.fields.map SchemaField.id).Nodup
      ∧ ∃ added, schema'.fields = schema.fields ++ added
        ∧ List.Forall₂ Value.IsField values added := by
  induction values generalizing index schema with
  | nil =>
    cases adds
    exact ⟨distinct, [], (List.append_nil _).symm, .nil⟩
  | cons v rest ih =>
    -- the ids stay distinct, since no field so far has the id of the new one
    obtain ⟨field, handlers, is, new, -, adds⟩ := addFields_cons adds
    have distinct' : ((schema.fields ++ [field]).map SchemaField.id).Nodup := by
      rw [List.map_append, List.nodup_append]
      refine ⟨distinct, List.pairwise_singleton _ _, ?_⟩
      simpa using new
    obtain ⟨distinct'', added, appended, areFields⟩ := ih distinct' adds
    refine ⟨distinct'', field :: added, ?_, .cons is.isField areFields⟩
    rw [appended, List.append_assoc]
    rfl

/-- The fields of a schema are those of its value in their order, their ids are distinct, and the
document of the schema lists their documents. -/
structure Identifies (schema : Schema) (values : List Value) : Prop where
  fields : List.Forall₂ Value.IsField values schema.fields
  distinct : (schema.fields.map SchemaField.id).Nodup
  documents : ∃ documents, schema.toJson.field? "schema" = some (.array documents)
    ∧ List.Forall₂ (fun v document => ∃ field, v.IsField field ∧ document = field.toJson
        ∧ document.field? "id" = some (.string field.id)) values documents

theorem identifies_of_ofValue {identity : Identity} {version : String}
    {fields handlers : List Value}
    (decoded : ofValue exported (.native identity (.schema version fields handlers)) = .ok schema) :
    schema.Identifies fields := by
  obtain ⟨_, _, _, filled, ⟨⟩, adding, decoded⟩ := ofValue_ok decoded
  have none_ : ((⟨currentVersion, [], []⟩ : Schema).fields.map SchemaField.id).Nodup :=
    List.nodup_nil
  obtain ⟨distinct, added, appended, areFields⟩ := addFields_lists none_ adding
  have closed := (addFields_closed closed_empty adding).1
  have same : schema.fields = filled.fields := (addHandlers_closed closed decoded).2
  have listed : List.Forall₂ Value.IsField fields schema.fields := by
    rw [same, appended]
    exact areFields
  constructor
  case fields => exact listed
  case distinct => exact same ▸ distinct
  case documents =>
    refine ⟨schema.fields.map SchemaField.toJson, rfl, ?_⟩
    exact List.forall₂_map_right_iff.mpr (listed.imp fun v field is => ⟨field, is, rfl, rfl⟩)

theorem named_of_lists {values : List Value} {fields : List SchemaField}
    (lists : List.Forall₂ Value.IsField values fields) (named : ∀ v ∈ values, v.Named) :
    ∀ field ∈ fields, field.id ≠ "" := by
  induction lists with
  | nil => exact nofun
  | cons is _ ih =>
    rw [List.forall_mem_cons]
    constructor
    · exact named _ List.mem_cons_self _ is
    · exact ih fun v member => named v (List.mem_cons_of_mem _ member)

/-- A schema with one field is decoded if the handler of the field is exported. -/
theorem ofValue_singleton {function : Value}
    (exports : sameFunction function (exported.get? function.callableName) = true)
    (kind : HandlerKind) (maker : String) (field : SchemaField) (made given : Identity) :
    ofValue exported (.native made (.schema currentVersion
        [.native given (.field maker field (some (function, kind)))] []))
      = .ok ⟨currentVersion, [field],
        Bindings.insert function.callableName ⟨function, kind⟩ []⟩ := by
  have added : addHandler exported function kind []
      = .ok (Bindings.insert function.callableName ⟨function, kind⟩ []) := if_pos exports
  have filled : addFields exported 0 [.native given (.field maker field (some (function, kind)))]
      ⟨currentVersion, [], []⟩
        = .ok ⟨currentVersion, [field],
          Bindings.insert function.callableName ⟨function, kind⟩ []⟩ := by
    have new : ¬((⟨currentVersion, [], []⟩ : Schema).fields.any fun other =>
        other.id = field.id) = true := Bool.false_ne_true
    rw [addFields, if_neg new]
    dsimp only
    rw [added]
    rfl
  rw [ofValue, if_neg (not_not_intro rfl), filled]
  rfl

end Schema

namespace Schemas

open Eval

theorem receiveField_assures (function kind : String) (more : List Parameter)
    (arguments : Arguments) :
    (receiveField function kind more arguments).Assures fun received => received.1.id ≠ "" := by
  unfold receiveField
  apply Assures.andThen
  intro r
  apply Assures.andThen
  intro id
  apply Assures.andThen
  intro name
  apply Assures.andThen
  intro description
  apply Assures.andThen
  intro icon
  by_cases empty : id.isEmpty = true
  · rw [if_pos empty]
    rintro _ _ _ ⟨⟩
  · rw [if_neg empty]
    exact .pure fun same => empty (String.isEmpty_iff.mpr same)

theorem newNative_assures {native : Native Value}
    (named : ∀ maker field backing, native = .field maker field backing → field.id ≠ "") :
    (newNative native).Assures Value.Named := by
  apply Assures.andThen
  intro identity
  apply Assures.pure
  rintro field ⟨_, maker, backing, same⟩
  cases same
  exact named maker field backing rfl

theorem wrap_assures {maker : String} {field : SchemaField}
    {handler : Option (Value × HandlerKind)} (named : field.id ≠ "") :
    (wrap maker field handler).Assures Value.Named := by
  apply newNative_assures
  rintro _ _ _ ⟨⟩
  exact named

/-- What is made of a field that was received. -/
theorem ofField_assures {function kind : String} {more : List Parameter} {arguments : Arguments}
    {next : SchemaField × Received → Eval Value}
    (rest : ∀ field r, field.id ≠ "" → (next (field, r)).Assures Value.Named) :
    (receiveField function kind more arguments >>= next).Assures Value.Named :=
  (receiveField_assures function kind more arguments).bind fun received named =>
    rest received.1 received.2 named

theorem newHandlerField_assures (function kind : String) (returns : HandlerKind)
    (arguments : Arguments) :
    (newHandlerField function kind returns arguments).Assures Value.Named := by
  apply ofField_assures
  intro field r named
  apply Assures.andThen
  intro handler
  apply wrap_assures
  exact named

theorem fail_assures {message : String} {next : PUnit → Eval Value} :
    ((Eval.fail message : Eval PUnit) >>= next).Assures Value.Named :=
  fun _ _ _ ran => nomatch ran

theorem newDropdown_assures (arguments : Arguments) :
    (newDropdown arguments).Assures Value.Named := by
  apply ofField_assures
  intro field r named
  apply Assures.andThen
  intro default
  apply Assures.andThen
  intro items
  apply Assures.andThen
  intro options
  dsimp only
  split
  · exact fail_assures
  · split
    · exact fail_assures
    · apply wrap_assures
      exact named

theorem newColor_assures (arguments : Arguments) : (newColor arguments).Assures Value.Named := by
  apply ofField_assures
  intro field r named
  apply Assures.andThen
  intro default
  apply Assures.andThen
  intro items
  apply Assures.andThen
  intro colors
  split
  · rintro _ _ _ ⟨⟩
  · apply wrap_assures
    exact named

theorem newAccount_assures (arguments : Arguments) :
    (newAccount arguments).Assures Value.Named := by
  apply ofField_assures
  intro field r named
  apply Assures.andThen
  intro handler
  apply Assures.andThen
  intro clientId
  apply Assures.andThen
  intro endpoint
  apply Assures.andThen
  intro items
  apply Assures.andThen
  intro scopes
  apply wrap_assures
  exact named

/-- All constructors but one make no field without an id. -/
theorem run_assures {f : SchemaFunction} (checks : f ≠ .generated) (arguments : Arguments) :
    (run f arguments).Assures Value.Named := by
  cases f with
  | generated => exact absurd rfl checks
  | schema =>
    exact .andThen fun _ => .andThen fun _ => .andThen fun _ => .andThen fun _ =>
      newNative_assures (by rintro _ _ _ ⟨⟩)
  | option =>
    exact .andThen fun _ => .andThen fun _ => .andThen fun _ =>
      newNative_assures (by rintro _ _ _ ⟨⟩)
  | handler =>
    exact .andThen fun _ => .andThen fun _ => .andThen fun _ => .andThen fun _ =>
      newNative_assures (by rintro _ _ _ ⟨⟩)
  | text =>
    apply ofField_assures
    intro field r named
    apply Assures.andThen
    intro default
    apply wrap_assures
    exact named
  | toggle =>
    apply ofField_assures
    intro field r named
    apply Assures.andThen
    intro on
    apply wrap_assures
    exact named
  | location =>
    apply ofField_assures
    intro field r named
    apply wrap_assures
    exact named
  | dropdown => exact newDropdown_assures arguments
  | color => exact newColor_assures arguments
  | locationBased => exact newHandlerField_assures _ _ _ arguments
  | typeahead => exact newHandlerField_assures _ _ _ arguments
  | oauth2 => exact newAccount_assures arguments

/-- Ids are not empty if the fields were made by constructors that refuse that. -/
theorem named_of_made {values : List Value} {schema : Schema}
    (identifies : schema.Identifies values)
    (made : ∀ v ∈ values, ∃ f arguments m m', f ≠ .generated ∧ run f arguments m = .ok v m') :
    ∀ field ∈ schema.fields, field.id ≠ "" := by
  apply Schema.named_of_lists identifies.fields
  intro v member
  obtain ⟨f, arguments, m, m', checks, ran⟩ := made v member
  exact run_assures checks arguments m v m' ran

/-- A generated field is made with any id, and a schema with just this field is decoded. -/
theorem generated_any_id {identity : Identity} {f : Function Value} {exported : Bindings Value}
    (exports : Schema.sameFunction (.function identity f)
      (exported.get? (Value.function identity f).callableName) = true)
    (id source : String) (m : Machine) :
    ∃ v m', run .generated (.ofList [.str id, .str source, .function identity f]) m = .ok v m'
      ∧ ∀ identity, ∃ schema,
        Schema.ofValue exported (.native identity (.schema Schema.currentVersion [v] []))
          = .ok schema
        ∧ schema.fields.map SchemaField.id = [id] := by
  apply Exists.intro
  apply Exists.intro
  constructor
  · rfl
  · intro identity
    exact ⟨_, Schema.ofValue_singleton exports .schema _ _ _ _, rfl⟩

end Schemas

end PixelApplet
