import PixelApplet.Proofs.Value.Realms

/-!
# Handler tables

Decoding a schema fills its table of handlers from two lists, one declaration after the other.  The
table is closed under what was declared and unambiguous: all declarations under a name agree, and
the name is that of a function exported under it.
-/

namespace PixelApplet

namespace Schema

/-- A function and what its results are to be read as. -/
abbrev Declaration :=
  Value × HandlerKind

/-- The handler that a value declares: a field may have one, and a handler is one. -/
def declaration? : Value → Option Declaration
  | .native _ (.field _ _ backing) => backing
  | .native _ (.handler function kind) => some (function, kind)
  | _ => none

/-- All handlers that a schema declares, in fields and beside them, in order. -/
def declarations : Value → List Declaration
  | .native _ (.schema _ fields handlers) => (fields ++ handlers).filterMap declaration?
  | _ => []

/-- A table has the declared handlers and no others, each under the name of its function, which is
exported under that name. -/
structure Closed (exported : Bindings Value) (declared : List Declaration)
    (handlers : Bindings SchemaHandler) : Prop where
  /-- What was declared has an entry of its kind. -/
  entry : ∀ declaration ∈ declared, ∃ handler,
    handlers.get? declaration.1.callableName = some handler ∧ handler.kind = declaration.2
  /-- What was declared is exported. -/
  exported : ∀ declaration ∈ declared,
    sameFunction declaration.1 (exported.get? declaration.1.callableName) = true
  /-- What has an entry was declared. -/
  declared : ∀ name handler, handlers.get? name = some handler →
    (handler.function, handler.kind) ∈ declared ∧ handler.function.callableName = name

variable {exported : Bindings Value} {declared : List Declaration}
  {handlers handlers' : Bindings SchemaHandler}

theorem closed_empty : Closed exported [] [] :=
  ⟨nofun, nofun, nofun⟩

/-- A handler is added where it agrees with what was declared before. -/
theorem Closed.addHandler {function : Value} {kind : HandlerKind}
    (closed : Closed exported declared handlers)
    (adds : Schema.addHandler exported function kind handlers = .ok handlers') :
    Closed exported (declared ++ [(function, kind)]) handlers' := by
  unfold Schema.addHandler at adds
  dsimp only at adds
  split at adds
  · rename_i exports
    have exported' : ∀ declaration ∈ declared ++ [(function, kind)],
        sameFunction declaration.1 (exported.get? declaration.1.callableName) = true :=
      List.forall_mem_append.mpr ⟨closed.exported, List.forall_mem_singleton.mpr exports⟩
    split at adds
    · rename_i existing found
      split at adds
      · rename_i agrees
        cases adds
        refine ⟨List.forall_mem_append.mpr ⟨closed.entry, ?_⟩, exported', ?_⟩
        · exact List.forall_mem_singleton.mpr ⟨existing, found, agrees⟩
        · intro name handler there
          obtain ⟨old, named⟩ := closed.declared name handler there
          exact ⟨List.mem_append_left _ old, named⟩
      · cases adds
    · rename_i new
      cases adds
      refine ⟨List.forall_mem_append.mpr ⟨?_, ?_⟩, exported', ?_⟩
      · intro declaration member
        obtain ⟨handler, found, agrees⟩ := closed.entry declaration member
        refine ⟨handler, ?_, agrees⟩
        rw [Bindings.get?_insert_of_ne]
        · exact found
        · intro same
          rw [same, new] at found
          cases found
      · exact List.forall_mem_singleton.mpr ⟨_, Bindings.get?_insert_self .., rfl⟩
      · intro name handler there
        by_cases same : name = function.callableName
        · subst same
          rw [Bindings.get?_insert_self] at there
          cases there
          exact ⟨List.mem_append_right _ (.head _), rfl⟩
        · rw [Bindings.get?_insert_of_ne _ _ same] at there
          obtain ⟨old, named⟩ := closed.declared name handler there
          exact ⟨List.mem_append_left _ old, named⟩
  · cases adds

/-- A field of a schema was among the values that it was made of. -/
def IsFieldOf (field : SchemaField) (values : List Value) : Prop :=
  ∃ identity maker backing, Value.native identity (.field maker field backing) ∈ values

/-- Adding one value to a table: what it declares, if it declares anything. -/
def addDeclared (exported : Bindings Value) (v : Value) (handlers : Bindings SchemaHandler) :
    Except SchemaFault (Bindings SchemaHandler) :=
  match declaration? v with
  | some (function, kind) => addHandler exported function kind handlers
  | none => .ok handlers

theorem Closed.addDeclared {v : Value} (closed : Closed exported declared handlers)
    (adds : Schema.addDeclared exported v handlers = .ok handlers') :
    Closed exported (declared ++ (declaration? v).toList) handlers' := by
  unfold Schema.addDeclared at adds
  split at adds
  · rename_i declares
    rw [declares]
    exact closed.addHandler adds
  · rename_i declares
    cases adds
    rw [declares, Option.toList_none, List.append_nil]
    exact closed

/-- A field is added with what it declares, if its id is new, and then those behind it. -/
theorem addFields_cons {index : Nat} {v : Value} {rest : List Value} {schema schema' : Schema}
    (adds : addFields exported index (v :: rest) schema = .ok schema') :
    ∃ field handlers, IsFieldOf field [v] ∧ (∀ other ∈ schema.fields, other.id ≠ field.id)
      ∧ addDeclared exported v schema.handlers = .ok handlers
      ∧ addFields exported (index + 1) rest
        { schema with fields := schema.fields ++ [field], handlers := handlers } = .ok schema' := by
  cases v with
  | native identity n =>
    cases n with
    | field maker field backing =>
      rw [addFields] at adds
      split at adds
      · cases adds
      · rename_i distinct
        refine ⟨field, ?_⟩
        have new : ∀ other ∈ schema.fields, other.id ≠ field.id := fun other member same =>
          distinct (List.any_eq_true.mpr ⟨other, member, decide_eq_true same⟩)
        have is : IsFieldOf field [.native identity (.field maker field backing)] :=
          ⟨identity, maker, backing, .head _⟩
        cases backing with
        | none => exact ⟨_, is, new, rfl, adds⟩
        | some behind =>
          obtain ⟨function, kind⟩ := behind
          dsimp only at adds
          obtain ⟨handlers, adding, adds⟩ := Except.exists_of_bind_ok adds
          exact ⟨handlers, is, new, adding, adds⟩
    | _ => cases adds
  | _ => cases adds

/-- A handler is added, and then those behind it. -/
theorem addHandlers_cons {index : Nat} {v : Value} {rest : List Value} {schema schema' : Schema}
    (adds : addHandlers exported index (v :: rest) schema = .ok schema') :
    ∃ handlers, addDeclared exported v schema.handlers = .ok handlers
      ∧ addHandlers exported (index + 1) rest { schema with handlers := handlers } = .ok schema' := by
  cases v with
  | native identity n =>
    cases n with
    | handler function kind =>
      rw [addHandlers] at adds
      exact Except.exists_of_bind_ok adds
    | _ => cases adds
  | _ => cases adds

theorem filterMap_cons_toList (v : Value) (rest : List Value) :
    (v :: rest).filterMap declaration?
      = (declaration? v).toList ++ rest.filterMap declaration? := by
  rw [List.filterMap_cons]
  cases declaration? v <;> rfl

/-- The fields and the handlers of a schema after some fields were added. -/
theorem addFields_closed {index : Nat} {values : List Value} {schema schema' : Schema}
    (closed : Closed exported declared schema.handlers)
    (adds : addFields exported index values schema = .ok schema') :
    Closed exported (declared ++ values.filterMap declaration?) schema'.handlers
      ∧ ∀ field ∈ schema'.fields, field ∈ schema.fields ∨ IsFieldOf field values := by
  induction values generalizing index schema declared with
  | nil =>
    cases adds
    rw [List.filterMap_nil, List.append_nil]
    exact ⟨closed, fun _ => .inl⟩
  | cons v rest ih =>
    obtain ⟨field, handlers, ⟨identity, maker, backing, here⟩, -, adding, adds⟩ :=
      addFields_cons adds
    obtain ⟨closed', fields⟩ := ih (closed.addDeclared adding) adds
    rw [filterMap_cons_toList, ← List.append_assoc]
    refine ⟨closed', fun other member => ?_⟩
    rcases fields other member with old | ⟨identity', maker', backing', later⟩
    · rcases List.mem_append.mp old with old | new
      · exact .inl old
      · rw [List.mem_singleton.mp new]
        exact .inr ⟨identity, maker, backing, List.mem_singleton.mp here ▸ List.mem_cons_self⟩
    · exact .inr ⟨identity', maker', backing', .tail _ later⟩

/-- The fields and the handlers of a schema after some handlers were added. -/
theorem addHandlers_closed {index : Nat} {values : List Value} {schema schema' : Schema}
    (closed : Closed exported declared schema.handlers)
    (adds : addHandlers exported index values schema = .ok schema') :
    Closed exported (declared ++ values.filterMap declaration?) schema'.handlers
      ∧ schema'.fields = schema.fields := by
  induction values generalizing index schema declared with
  | nil =>
    cases adds
    rw [List.filterMap_nil, List.append_nil]
    exact ⟨closed, rfl⟩
  | cons v rest ih =>
    obtain ⟨handlers, adding, adds⟩ := addHandlers_cons adds
    obtain ⟨closed', fields⟩ := ih (closed.addDeclared adding) adds
    rw [filterMap_cons_toList, ← List.append_assoc]
    exact ⟨closed', fields⟩

/-- A value that is decoded is a schema of the current version, whose fields are added before its
handlers. -/
theorem ofValue_ok {value : Value} {schema : Schema}
    (decoded : ofValue exported value = .ok schema) :
    ∃ identity fields handlers filled,
      value = .native identity (.schema currentVersion fields handlers)
        ∧ addFields exported 0 fields ⟨currentVersion, [], []⟩ = .ok filled
        ∧ addHandlers exported 0 handlers filled = .ok schema := by
  unfold ofValue at decoded
  split at decoded
  · rename_i identity version fields handlers
    split at decoded
    · cases decoded
    · rename_i same
      obtain rfl : version = currentVersion := Decidable.of_not_not same
      obtain ⟨filled, adding, decoded⟩ := Except.exists_of_bind_ok decoded
      exact ⟨identity, fields, handlers, filled, rfl, adding, decoded⟩
  · cases decoded

/-- A schema that was decoded is closed, and its fields are those of the value. -/
theorem ofValue_closed {value : Value} {schema : Schema}
    (decoded : ofValue exported value = .ok schema) :
    Closed exported (declarations value) schema.handlers
      ∧ ∃ identity version fields handlers,
          value = .native identity (.schema version fields handlers)
            ∧ ∀ field ∈ schema.fields, IsFieldOf field fields := by
  obtain ⟨identity, fields, handlers, filled, rfl, adding, decoded⟩ := ofValue_ok decoded
  obtain ⟨closed, members⟩ := addFields_closed closed_empty adding
  obtain ⟨closed', same⟩ := addHandlers_closed closed decoded
  refine ⟨?_, identity, _, fields, handlers, rfl, fun field member => ?_⟩
  · rw [declarations, List.filterMap_append]
    exact closed'
  · exact (members field (same ▸ member)).resolve_left (List.not_mem_nil)

/-- The declarations of a schema are among what it is made of. -/
theorem parts_of_declaration {value : Value} {declaration : Declaration}
    (member : declaration ∈ declarations value) :
    ∃ v ∈ value.parts, declaration.1 ∈ v.parts := by
  cases value with
  | native identity n =>
    cases n with
    | schema version fields handlers =>
      obtain ⟨v, present, declares⟩ := List.mem_filterMap.mp member
      refine ⟨v, present, ?_⟩
      cases v with
      | native identity n =>
        cases n with
        | field maker field backing =>
          have same : backing = some declaration := declares
          rw [same]
          exact List.mem_singleton_self _
        | handler function kind =>
          cases declares
          exact List.mem_singleton_self _
        | _ => cases declares
      | _ => cases declares
    | _ => cases member
  | _ => cases member

variable {R : Realm} {value : Value} {schema : Schema}

/-- The functions in the table of a decoded schema are among what its value is made of. -/
theorem handler_belongs {name : String} {handler : SchemaHandler} (belongs : value.Belongs R)
    (decoded : ofValue exported value = .ok schema)
    (found : schema.handlers.get? name = some handler) : handler.function.Belongs R := by
  have declared := ((ofValue_closed decoded).1.declared name handler found).1
  obtain ⟨v, part, inside⟩ := parts_of_declaration declared
  exact (belongs.inside v part).inside _ inside

/-- A field names its handler, and the handler has an entry of the kind that the type of the field
implies. -/
theorem entry_of_field {field : SchemaField} {name : String} (belongs : value.Belongs R)
    (decoded : ofValue exported value = .ok schema) (member : field ∈ schema.fields)
    (names : field.handler = some name) :
    ∃ handler, schema.handlers.get? name = some handler
      ∧ HandlerKind.ofFieldType? field.kind = some handler.kind := by
  obtain ⟨closed, identity, version, fields, handlers, rfl, fieldsOf⟩ := ofValue_closed decoded
  obtain ⟨identity', maker, backing, present⟩ := fieldsOf field member
  have part := List.mem_append_left handlers present
  obtain ⟨handlerNamed, kindImplied⟩ :=
    (Value.belongs_native.mp (belongs.inside _ part)).1
  rw [names] at handlerNamed
  obtain ⟨declaration, backed, rfl⟩ := Option.map_eq_some_iff.mp handlerNamed.symm
  rw [backed] at kindImplied
  have declares : declaration ∈ declarations (.native identity (.schema version fields handlers)) :=
    List.mem_filterMap.mpr ⟨_, part, backed⟩
  obtain ⟨handler, found, agrees⟩ := closed.entry declaration declares
  exact ⟨handler, found, kindImplied.symm.trans (congrArg some agrees.symm)⟩

end Schema

namespace SchemaField

variable {name : String} {entry : String × Json}

theorem key_of_nonEmpty {text : String} (member : entry ∈ nonEmpty name text) : entry.1 = name := by
  unfold nonEmpty at member
  split at member
  · cases member
  · rw [List.mem_singleton.mp member]

theorem key_of_nonEmptyList {items : List Json} (member : entry ∈ nonEmptyList name items) :
    entry.1 = name := by
  unfold nonEmptyList at member
  split at member
  · cases member
  · rw [List.mem_singleton.mp member]

theorem of_mem_present {text : Option String} (member : entry ∈ present name text) :
    entry.1 = name ∧ ∃ given, text = some given ∧ entry.2 = .string given := by
  cases text with
  | none => cases member
  | some given =>
    rw [List.mem_singleton.mp member]
    exact ⟨rfl, given, rfl, rfl⟩

/-- What the document of a field gives as the handler is the handler that the field names. -/
theorem handler_of_toJson {field : SchemaField} {given : Json}
    (found : field.toJson.field? "handler" = some given) :
    ∃ text, field.handler = some text ∧ given = .string text := by
  have member := Bindings.mem_of_lookup found
  simp only [List.mem_cons, List.mem_append] at member
  have elsewhere {key : String} (same : "handler" = key) (other : "handler" ≠ key) :
      ∃ text, field.handler = some text ∧ given = .string text :=
    (other same).elim
  rcases member with same | same | ((((((((((name | description) | icon) | default) | options)
    | palette) | source) | handler) | client) | authorization) | scopes)
  · exact elsewhere (Prod.mk.inj same).1 (by decide)
  · exact elsewhere (Prod.mk.inj same).1 (by decide)
  · exact elsewhere (key_of_nonEmpty name) (by decide)
  · exact elsewhere (key_of_nonEmpty description) (by decide)
  · exact elsewhere (key_of_nonEmpty icon) (by decide)
  · exact elsewhere (of_mem_present default).1 (by decide)
  · exact elsewhere (key_of_nonEmptyList options) (by decide)
  · exact elsewhere (key_of_nonEmptyList palette) (by decide)
  · exact elsewhere (of_mem_present source).1 (by decide)
  · exact (of_mem_present handler).2
  · exact elsewhere (of_mem_present client).1 (by decide)
  · exact elsewhere (of_mem_present authorization).1 (by decide)
  · exact elsewhere (key_of_nonEmptyList scopes) (by decide)

end SchemaField

namespace Schema

/-- A schema that was decoded from a value, given what its file exports, has a closed and
unambiguous table of handlers. -/
structure Unambiguous (exported : Bindings Value) (value : Value) (schema : Schema) : Prop where
  /-- A handler that the document of a field names has an entry, of the kind that the type of the
  field implies. -/
  fields : ∀ field ∈ schema.fields, ∀ name,
    field.toJson.field? "handler" = some (.string name) → ∃ handler,
      schema.handlers.get? name = some handler
        ∧ HandlerKind.ofFieldType? field.kind = some handler.kind
  /-- What has an entry is the function that is exported under the name. -/
  functions : ∀ name handler, schema.handlers.get? name = some handler →
    ∃ identity f g, handler.function = .function identity f
      ∧ exported.get? name = some (.function identity g)
  /-- Declarations of one name agree, for each has the kind of the entry. -/
  kinds : ∀ declaration ∈ declarations value, ∃ handler,
    schema.handlers.get? declaration.1.callableName = some handler
      ∧ handler.kind = declaration.2
  /-- What has an entry was declared. -/
  declared : ∀ name handler, schema.handlers.get? name = some handler →
    (handler.function, handler.kind) ∈ declarations value
      ∧ handler.function.callableName = name

theorem exports_of_sameFunction {function : Value} {exported : Option Value}
    (same : sameFunction function exported = true) :
    ∃ identity f g, function = .function identity f
      ∧ exported = some (.function identity g) := by
  unfold sameFunction at same
  split at same
  · rename_i a f b g
    cases of_decide_eq_true same
    exact ⟨a, f, g, rfl, rfl⟩
  · cases same

/-- A schema is unambiguous if it was decoded from a value of a realm. -/
theorem unambiguous_of_belongs {R : Realm} {exported : Bindings Value} {value : Value}
    {schema : Schema} (belongs : value.Belongs R)
    (decoded : ofValue exported value = .ok schema) : schema.Unambiguous exported value := by
  have closed := (ofValue_closed decoded).1
  refine ⟨fun field member name found => ?_, fun name handler found => ?_, closed.entry,
    closed.declared⟩
  · obtain ⟨text, names, same⟩ := SchemaField.handler_of_toJson found
    cases same
    exact entry_of_field belongs decoded member names
  · obtain ⟨declared, named⟩ := closed.declared name handler found
    exact exports_of_sameFunction (named ▸ closed.exported _ declared)

/-- A schema is not decoded if a handler is not exported under its own name, or if two declarations
of a name disagree. -/
theorem refuses_of_conflict {exported : Bindings Value} {value : Value}
    (conflict : (∃ declaration ∈ declarations value,
        sameFunction declaration.1 (exported.get? declaration.1.callableName) = false)
      ∨ ∃ first ∈ declarations value, ∃ second ∈ declarations value,
        first.1.callableName = second.1.callableName ∧ first.2 ≠ second.2) :
    ∃ fault, ofValue exported value = .error fault := by
  cases decoded : ofValue exported value with
  | error fault => exact ⟨fault, rfl⟩
  | ok schema =>
    have closed := (ofValue_closed decoded).1
    rcases conflict with ⟨declaration, member, apart⟩ | ⟨first, here, second, there, same, differ⟩
    · rw [closed.exported declaration member] at apart
      cases apart
    · obtain ⟨handler, found, agrees⟩ := closed.entry first here
      obtain ⟨handler', found', agrees'⟩ := closed.entry second there
      rw [same, found'] at found
      cases found
      exact (differ (agrees.symm.trans agrees')).elim

end Schema

end PixelApplet
