import PixelApplet.Library.Encodings
import PixelApplet.Proofs.Json.TextRoundTrip
import PixelApplet.Proofs.Value.Circles
import PixelApplet.Proofs.Value.Realms

/-!
# Values survive their documents

Encoding a value succeeds exactly if a document can show all that the value reaches, and decoding the
document gives the value again, built anew: with lists in the place of tuples, and dicts in the place
of structs.
-/

namespace PixelApplet

theorem DictCell.map_fst_pairs (cell : DictCell) : cell.pairs.map Prod.fst = cell.keys := by
  rw [pairs, List.map_map]
  rfl

theorem DictCell.map_snd_pairs (cell : DictCell) : cell.pairs.map Prod.snd = cell.values := by
  rw [pairs, List.map_map]
  rfl

/-- What two properties say apart of all that a value is made of, they say together. -/
theorem Value.Throughout.and {parts : Value → List Value} {first second : Value → Prop} {v : Value}
    (holds : Throughout parts first v) (holds' : Throughout parts second v) :
    Throughout parts (fun part => first part ∧ second part) v := by
  induction holds with
  | intro here _ ih =>
    exact .intro ⟨here, holds'.here⟩ fun part member => ih part member (holds'.inside part member)

namespace Heap

/-- A document can show a value, as far as the value itself is concerned. -/
def Displayable (h : Heap) : Value → Prop
  | .dict ref => ∀ key ∈ (h.dict ref).keys, ∃ text, key = .str text
  | .function .. | .builtin .. | .module .. | .native .. => False
  | _ => True

/-- A value holds others at most so many levels deep. -/
def Nests (h : Heap) : (depth : Nat) → Value → Prop
  | 0, v => ∀ w, ¬h.Holds v w
  | depth + 1, v => ∀ w, h.Holds v w → h.Nests depth w

/-- The keys of all dicts and the names in all structs that a value reaches are different. -/
structure Keyed (h : Heap) (v : Value) : Prop where
  dicts : ∀ ref, h.Reaches v (.dict ref) → (h.dict ref).keys.Nodup
  structs : ∀ fields, h.Reaches v (.struct fields) → (fields.map Prod.fst).Nodup

/-- A document shows a value without floats. -/
inductive ShownBy (h : Heap) : Value → Json → Prop where
  | none : ShownBy h .none .null
  | bool (b : Bool) : ShownBy h (.bool b) (.bool b)
  | int (i : Int64) : ShownBy h (.int i) (.int i.toInt)
  | str (text : String) : ShownBy h (.str text) (.string text)
  | list {ref : ListRef} {documents : List Json}
    (items : List.Forall₂ (ShownBy h) (h.list ref).items.toList documents) :
    ShownBy h (.list ref) (.array documents)
  | tuple {items : List Value} {documents : List Json}
    (shown : List.Forall₂ (ShownBy h) items documents) : ShownBy h (.tuple items) (.array documents)
  | dict {ref : DictRef} {fields : List (String × Json)}
    (keys : (h.dict ref).keys = fields.map fun field => .str field.1)
    (values : List.Forall₂ (ShownBy h) (h.dict ref).values (fields.map Prod.snd)) :
    ShownBy h (.dict ref) (.object fields)
  | struct {members : List (String × Value)} {fields : List (String × Json)}
    (names : members.map Prod.fst = fields.map Prod.fst)
    (values : List.Forall₂ (ShownBy h) (members.map Prod.snd) (fields.map Prod.snd)) :
    ShownBy h (.struct members) (.object fields)

/-- A value of another heap is a value built anew: the same texts, words and truth values in the same
order and under the same keys, in lists for lists and tuples, and in dicts for dicts and structs. -/
inductive Renews (h h' : Heap) : Value → Value → Prop where
  | none : Renews h h' .none .none
  | bool (b : Bool) : Renews h h' (.bool b) (.bool b)
  | int (i : Int64) : Renews h h' (.int i) (.int i)
  | str (text : String) : Renews h h' (.str text) (.str text)
  | list {ref ref' : ListRef}
    (items : List.Forall₂ (Renews h h') (h.list ref).items.toList (h'.list ref').items.toList) :
    Renews h h' (.list ref) (.list ref')
  | tuple {items : List Value} {ref' : ListRef}
    (renews : List.Forall₂ (Renews h h') items (h'.list ref').items.toList) :
    Renews h h' (.tuple items) (.list ref')
  | dict {ref ref' : DictRef} (keys : (h'.dict ref').keys = (h.dict ref).keys)
    (values : List.Forall₂ (Renews h h') (h.dict ref).values (h'.dict ref').values) :
    Renews h h' (.dict ref) (.dict ref')
  | struct {members : List (String × Value)} {ref' : DictRef}
    (names : (h'.dict ref').keys = members.map fun member => .str member.1)
    (values : List.Forall₂ (Renews h h') (members.map Prod.snd) (h'.dict ref').values) :
    Renews h h' (.struct members) (.dict ref')

variable {h : Heap}

theorem Nests.deeper {depth depth' : Nat} {v : Value} (nests : h.Nests depth v)
    (most : depth ≤ depth') : h.Nests depth' v := by
  induction depth generalizing v depth' with
  | zero =>
    cases depth' with
    | zero => exact nests
    | succ depth' => exact fun w holds => absurd holds (nests w)
  | succ depth ih =>
    obtain ⟨depth', rfl⟩ := Nat.exists_eq_add_of_lt (Nat.lt_of_succ_le most)
    exact fun w holds => ih (nests w holds) (Nat.le_add_right depth depth')

theorem Nests.reaches {depth : Nat} {v w : Value} (nests : h.Nests depth v)
    (reaches : h.Reaches v w) : h.Nests depth w := by
  induction reaches with
  | here => exact nests
  | inside _ holds ih =>
    cases depth with
    | zero => exact absurd holds (ih _)
    | succ depth => exact Nests.deeper (ih _ holds) (Nat.le_succ depth)

/-- A value that nests so many levels deep at most cannot hold itself. -/
theorem Nests.straight {depth : Nat} {v : Value} (nests : h.Nests depth v) : h.Straight v := by
  intro w reaches circular
  obtain ⟨_, x, holds, back⟩ := circular
  have nestsHere := nests.reaches reaches
  clear reaches nests
  induction depth with
  | zero => exact nestsHere x holds
  | succ depth ih => exact ih ((nestsHere x holds).reaches back)

theorem Keyed.reaches {v w : Value} (keyed : h.Keyed v) (reaches : h.Reaches v w) : h.Keyed w :=
  ⟨fun ref further => keyed.dicts ref (reaches.trans further),
    fun fields further => keyed.structs fields (reaches.trans further)⟩

end Heap

namespace Realm.Guards

variable {R : Realm} {h : Heap} {v w : Value}

theorem belongs_of_reaches (guards : R.Guards h) (belongs : v.Belongs R)
    (reaches : h.Reaches v w) : w.Belongs R := by
  induction reaches with
  | here => exact belongs
  | inside _ holds ih =>
    cases holds with
    | element member => exact guards.lists _ (Value.belongs_list.mp ih) _ member
    | key member => exact ((guards.dicts _ (Value.belongs_dict.mp ih)).all _ member).1
    | value member => exact ((guards.dicts _ (Value.belongs_dict.mp ih)).all _ member).2
    | item member => exact Value.belongs_tuple.mp ih _ member
    | field member => exact (Value.belongs_struct.mp ih).2 _ member

/-- In what programs make, the keys of all dicts and the names in all structs are different. -/
theorem keyed (guards : R.Guards h) (belongs : v.Belongs R) : h.Keyed v where
  dicts _ reaches :=
    (guards.dicts _ (Value.belongs_dict.mp (guards.belongs_of_reaches belongs reaches))).keyed.nodup
  structs _ reaches :=
    (Value.belongs_struct.mp (guards.belongs_of_reaches belongs reaches)).1

end Realm.Guards

namespace Value

variable {h : Heap}

/-! ## What can be encoded -/

section Encoding

variable {encode : Value → Except EncodingFault Json}

theorem exists_encodeItems {shows_ : Value → Json → Prop} (items : List Value)
    (each : ∀ v ∈ items, ∃ document, encode v = .ok document ∧ shows_ v document) :
    ∃ documents, encodeItems encode items = .ok documents
      ∧ List.Forall₂ shows_ items documents := by
  induction items with
  | nil => exact ⟨[], rfl, .nil⟩
  | cons item rest ih =>
    obtain ⟨document, encodes, shown⟩ := each item (.head _)
    obtain ⟨documents, encodesRest, shownRest⟩ := ih fun v member => each v (.tail _ member)
    refine ⟨document :: documents, ?_, .cons shown shownRest⟩
    rw [encodeItems, encodes, encodesRest]
    rfl

theorem exists_encodeEntries {shows_ : Value → Json → Prop} (entries : List (Value × Value))
    (texts : ∀ key ∈ entries.map Prod.fst, ∃ text, key = .str text)
    (each : ∀ v ∈ entries.map Prod.snd, ∃ document, encode v = .ok document ∧ shows_ v document) :
    ∃ fields, encodeEntries encode entries = .ok fields
      ∧ (entries.map Prod.fst = fields.map fun field => .str field.1)
      ∧ List.Forall₂ shows_ (entries.map Prod.snd) (fields.map Prod.snd) := by
  induction entries with
  | nil => exact ⟨[], rfl, rfl, .nil⟩
  | cons entry rest ih =>
    obtain ⟨key, value⟩ := entry
    obtain ⟨text, rfl⟩ := texts key (.head _)
    obtain ⟨document, encodes, shown⟩ := each value (.head _)
    obtain ⟨fields, encodesRest, keys, shownRest⟩ :=
      ih (fun key member => texts key (.tail _ member)) fun v member => each v (.tail _ member)
    refine ⟨(text, document) :: fields, ?_, ?_, .cons shown shownRest⟩
    · rw [encodeEntries, encodes, encodesRest]
      rfl
    · rw [List.map_cons, List.map_cons, keys]

mutual

/-- If all that the lists and dicts in a value hold is encoded as documents that show it, so is the
value. -/
theorem exists_encodeWith (v : Value)
    (displayable : ∀ w, h.Reaches v w → h.Displayable w ∧ ∀ x, w ≠ .float x)
    (each : h.Inside (fun w => ∃ document, encode w = .ok document ∧ h.ShownBy w document) v) :
    ∃ document, encodeWith h encode v = .ok document ∧ h.ShownBy v document := by
  match v with
  | .none => exact ⟨_, rfl, .none⟩
  | .bool b => exact ⟨_, rfl, .bool b⟩
  | .int i => exact ⟨_, rfl, .int i⟩
  | .float x => exact absurd rfl ((displayable _ .here).2 x)
  | .str text => exact ⟨_, rfl, .str text⟩
  | .list ref =>
    obtain ⟨documents, encodes, shown⟩ := exists_encodeItems (h.list ref).items.toList each.here
    exact ⟨.array documents, by rw [encodeWith, encodes]; rfl, .list shown⟩
  | .tuple items =>
    obtain ⟨documents, encodes, shown⟩ := exists_encodeAllWith items
      (fun v member w reaches => displayable w (Heap.Reaches.trans (.inside .here (.item member))
        reaches)) each.inside
    exact ⟨.array documents, by rw [encodeWith, encodes]; rfl, .tuple shown⟩
  | .dict ref =>
    have inside (v : Value) (member : v ∈ (h.dict ref).values) : v ∈ h.contents (.dict ref) := by
      obtain ⟨entry, present, rfl⟩ := List.mem_map.mp member
      exact Heap.value_mem_contents present
    obtain ⟨fields, encodes, keys, shown⟩ := exists_encodeEntries (h.dict ref).pairs
      (by rw [DictCell.map_fst_pairs]; exact (displayable _ .here).1)
      (by rw [DictCell.map_snd_pairs]; exact fun v member => each.here v (inside v member))
    rw [DictCell.map_fst_pairs] at keys
    rw [DictCell.map_snd_pairs] at shown
    exact ⟨.object fields, by rw [encodeWith, encodes]; rfl, .dict keys shown⟩
  | .struct members =>
    obtain ⟨fields, encodes, names, shown⟩ := exists_encodeFieldsWith members
      (fun member present w reaches => displayable w
        (Heap.Reaches.trans (.inside .here (.field present)) reaches))
      fun member present => each.inside _ (List.mem_map_of_mem present)
    exact ⟨.object fields, by rw [encodeWith, encodes]; rfl, .struct names shown⟩
  | .function _ _ | .builtin _ _ | .module _ _ _ | .native _ _ =>
    exact (displayable _ .here).1.elim

theorem exists_encodeAllWith (items : List Value)
    (displayable : ∀ v ∈ items, ∀ w, h.Reaches v w → h.Displayable w ∧ ∀ x, w ≠ .float x)
    (each : ∀ v ∈ items,
      h.Inside (fun w => ∃ document, encode w = .ok document ∧ h.ShownBy w document) v) :
    ∃ documents, encodeAllWith h encode items = .ok documents
      ∧ List.Forall₂ h.ShownBy items documents := by
  match items with
  | [] => exact ⟨[], rfl, .nil⟩
  | item :: rest =>
    obtain ⟨document, encodes, shown⟩ :=
      exists_encodeWith item (displayable item (.head _)) (each item (.head _))
    obtain ⟨documents, encodesRest, shownRest⟩ := exists_encodeAllWith rest
      (fun v member => displayable v (.tail _ member)) fun v member => each v (.tail _ member)
    refine ⟨document :: documents, ?_, .cons shown shownRest⟩
    rw [encodeAllWith, encodes, encodesRest]
    rfl

theorem exists_encodeFieldsWith (members : List (String × Value))
    (displayable : ∀ member ∈ members,
      ∀ w, h.Reaches member.2 w → h.Displayable w ∧ ∀ x, w ≠ .float x)
    (each : ∀ member ∈ members,
      h.Inside (fun w => ∃ document, encode w = .ok document ∧ h.ShownBy w document) member.2) :
    ∃ fields, encodeFieldsWith h encode members = .ok fields
      ∧ members.map Prod.fst = fields.map Prod.fst
      ∧ List.Forall₂ h.ShownBy (members.map Prod.snd) (fields.map Prod.snd) := by
  match members with
  | [] => exact ⟨[], rfl, rfl, .nil⟩
  | (name, value) :: rest =>
    obtain ⟨document, encodes, shown⟩ := exists_encodeWith value
      (displayable (name, value) (.head _)) (each (name, value) (.head _))
    obtain ⟨fields, encodesRest, names, shownRest⟩ := exists_encodeFieldsWith rest
      (fun member present => displayable member (.tail _ present))
      fun member present => each member (.tail _ present)
    refine ⟨(name, document) :: fields, ?_, ?_, .cons shown shownRest⟩
    · rw [encodeFieldsWith, encodes, encodesRest]
      rfl
    · rw [List.map_cons, List.map_cons, names]

end

theorem encodes_item {items : List Value} {documents : List Json} {v : Value}
    (encodes : encodeItems encode items = .ok documents) (member : v ∈ items) :
    ∃ document, encode v = .ok document := by
  induction items generalizing documents with
  | nil => cases member
  | cons item rest ih =>
    rw [encodeItems] at encodes
    obtain ⟨document, encodesItem, others⟩ := Except.exists_of_bind_ok encodes
    obtain ⟨_, encodesRest, _⟩ := Except.exists_of_bind_ok others
    rcases List.mem_cons.mp member with rfl | later
    · exact ⟨document, encodesItem⟩
    · exact ih encodesRest later

theorem encodes_entry {entries : List (Value × Value)} {fields : List (String × Json)}
    {entry : Value × Value} (encodes : encodeEntries encode entries = .ok fields)
    (member : entry ∈ entries) :
    (∃ text, entry.1 = .str text) ∧ ∃ document, encode entry.2 = .ok document := by
  induction entries generalizing fields with
  | nil => cases member
  | cons first rest ih =>
    obtain ⟨key, value⟩ := first
    cases key with
    | str text =>
      rw [encodeEntries] at encodes
      obtain ⟨document, encodesItem, others⟩ := Except.exists_of_bind_ok encodes
      obtain ⟨_, encodesRest, _⟩ := Except.exists_of_bind_ok others
      rcases List.mem_cons.mp member with rfl | later
      · exact ⟨⟨text, rfl⟩, document, encodesItem⟩
      · exact ih encodesRest later
    | _ => cases encodes

theorem encodes_part {items : List Value} {documents : List Json} {v : Value}
    (encodes : encodeAllWith h encode items = .ok documents) (member : v ∈ items) :
    ∃ document, encodeWith h encode v = .ok document := by
  induction items generalizing documents with
  | nil => cases member
  | cons item rest ih =>
    rw [encodeAllWith] at encodes
    obtain ⟨document, encodesItem, others⟩ := Except.exists_of_bind_ok encodes
    obtain ⟨_, encodesRest, _⟩ := Except.exists_of_bind_ok others
    rcases List.mem_cons.mp member with rfl | later
    · exact ⟨document, encodesItem⟩
    · exact ih encodesRest later

theorem encodes_member {members : List (String × Value)} {fields : List (String × Json)}
    {member : String × Value} (encodes : encodeFieldsWith h encode members = .ok fields)
    (present : member ∈ members) : ∃ document, encodeWith h encode member.2 = .ok document := by
  induction members generalizing fields with
  | nil => cases present
  | cons first rest ih =>
    obtain ⟨name, value⟩ := first
    rw [encodeFieldsWith] at encodes
    obtain ⟨document, encodesItem, others⟩ := Except.exists_of_bind_ok encodes
    obtain ⟨_, encodesRest, _⟩ := Except.exists_of_bind_ok others
    rcases List.mem_cons.mp present with rfl | later
    · exact ⟨document, encodesItem⟩
    · exact ih encodesRest later

end Encoding

/-- What an encoded value holds is encoded, too. -/
theorem encodes_of_holds {levels : Nat} {v w : Value} {document : Json}
    (encodes : encodeTo h levels v = .ok document) (holds : h.Holds v w) :
    ∃ levels' document', encodeTo h levels' w = .ok document' := by
  cases levels with
  | zero => cases encodes
  | succ levels =>
    rw [encodeTo] at encodes
    cases holds with
    | element member =>
      obtain ⟨_, encodesItems, _⟩ := Except.exists_of_map_ok encodes
      exact ⟨levels, encodes_item encodesItems member⟩
    | @key ref entry member =>
      obtain ⟨_, encodesEntries, _⟩ := Except.exists_of_map_ok encodes
      obtain ⟨⟨text, same⟩, _⟩ := encodes_entry encodesEntries (List.mem_map_of_mem member)
      rw [show entry.key = .str text from same]
      exact ⟨1, .string text, rfl⟩
    | value member =>
      obtain ⟨_, encodesEntries, _⟩ := Except.exists_of_map_ok encodes
      exact ⟨levels, (encodes_entry encodesEntries (List.mem_map_of_mem member)).2⟩
    | item member =>
      obtain ⟨_, encodesAll, _⟩ := Except.exists_of_map_ok encodes
      exact ⟨levels + 1, encodes_part encodesAll member⟩
    | field member =>
      obtain ⟨_, encodesFields, _⟩ := Except.exists_of_map_ok encodes
      exact ⟨levels + 1, encodes_member encodesFields member⟩

/-- A document can show all that an encoded value reaches. -/
theorem displayable_of_encodes {levels : Nat} {v w : Value} {document : Json}
    (encodes : encodeTo h levels v = .ok document) (reaches : h.Reaches v w) : h.Displayable w := by
  have encodesLast : ∃ levels' document', encodeTo h levels' w = .ok document' := by
    induction reaches with
    | here => exact ⟨levels, document, encodes⟩
    | inside _ holds ih =>
      obtain ⟨_, _, encodesMiddle⟩ := ih
      exact encodes_of_holds encodesMiddle holds
  obtain ⟨levels', document', encodes'⟩ := encodesLast
  cases levels' with
  | zero => cases encodes'
  | succ levels' =>
    rw [encodeTo] at encodes'
    cases w with
    | dict ref =>
      intro key member
      obtain ⟨_, encodesEntries, _⟩ := Except.exists_of_map_ok encodes'
      rw [← DictCell.map_fst_pairs] at member
      obtain ⟨entry, present, rfl⟩ := List.mem_map.mp member
      exact (encodes_entry encodesEntries present).1
    | function | builtin | module | native => cases encodes'
    | _ => trivial

/-- Without floats, a value is encoded exactly if documents can show all that it reaches, and then as
a document that shows it. -/
theorem exists_toJson {v : Value} (straight : h.Straight v)
    (floatFree : ∀ x, ¬h.Reaches v (.float x))
    (displayable : ∀ w, h.Reaches v w → h.Displayable w) :
    ∃ document, v.toJson h = .ok document ∧ h.ShownBy v document := by
  suffices every : ∀ levels (v : Value), h.Within levels v →
      (∀ w, h.Reaches v w → h.Displayable w ∧ ∀ x, w ≠ .float x) →
      ∃ document, encodeTo h levels v = .ok document ∧ h.ShownBy v document by
    refine every _ v straight.within fun w reaches => ⟨displayable w reaches, ?_⟩
    rintro x rfl
    exact floatFree x reaches
  intro levels
  induction levels with
  | zero => exact fun v within => within.elim
  | succ levels ih =>
    intro v within each
    have both := Throughout.and within
      (Heap.throughout_of_reaches (h := h) v fun w reaches => reaches)
    refine exists_encodeWith v each (both.mono fun part known w member => ?_)
    have reaches : h.Reaches v w := .inside known.2 (Heap.holds_of_contents member)
    exact ih w (known.1 w member) fun x further => each x (reaches.trans further)

end Value

namespace Heap

variable {h : Heap}

/-! ## The documents of values -/

theorem Nests.held {depth : Nat} {v w : Value} (nests : h.Nests depth v) (holds : h.Holds v w) :
    ∃ fewer, depth = fewer + 1 ∧ h.Nests fewer w := by
  cases depth with
  | zero => exact absurd holds (nests w)
  | succ depth => exact ⟨depth, rfl, nests w holds⟩

theorem Keyed.held {v w : Value} (keyed : h.Keyed v) (holds : h.Holds v w) : h.Keyed w :=
  keyed.reaches (.inside .here holds)

theorem holds_of_mem_values {ref : DictRef} {v : Value} (member : v ∈ (h.dict ref).values) :
    h.Holds (.dict ref) v := by
  obtain ⟨entry, present, rfl⟩ := List.mem_map.mp member
  exact .value present

theorem holds_of_mem_members {members : List (String × Value)} {v : Value}
    (member : v ∈ members.map Prod.snd) : h.Holds (.struct members) v := by
  obtain ⟨field, present, rfl⟩ := List.mem_map.mp member
  exact .field present

mutual

/-- A document that shows a value nests as deep as the value, and its numbers are words. -/
theorem ShownBy.plain : (document : Json) → ∀ {depth : Nat} {v : Value}, h.ShownBy v document →
    h.Nests depth v → h.Keyed v → document.Plain (depth + 1)
  | .null, _, _, _, _, _ => trivial
  | .bool _, _, _, _, _, _ => trivial
  | .int n, _, _, shown, _, _ => by
    cases shown with
    | int i => exact ⟨i.le_toInt, Int.le_of_lt_add_one i.toInt_lt⟩
  | .float _, _, _, shown, _, _ => nomatch shown
  | .string _, _, _, _, _, _ => trivial
  | .array documents, depth, v, shown, nests, keyed => by
    refine ⟨Nat.succ_pos depth, ?_⟩
    cases shown with
    | list items => exact plainItems documents items fun w member =>
        ⟨keyed.held (.element member), nests.held (.element member)⟩
    | tuple items => exact plainItems documents items fun w member =>
        ⟨keyed.held (.item member), nests.held (.item member)⟩
  | .object fields, depth, v, shown, nests, keyed => by
    refine ⟨Nat.succ_pos depth, ?_, ?_⟩
    · cases shown with
      | @dict ref _ keys values =>
        have distinct := keyed.dicts ref .here
        have inTwoSteps : (fields.map fun field => Value.str field.1)
            = (fields.map Prod.fst).map Value.str := by
          rw [List.map_map]
          rfl
        rw [keys, inTwoSteps] at distinct
        exact List.Nodup.of_map _ distinct
      | struct names values =>
        rw [← names]
        exact keyed.structs _ .here
    · cases shown with
      | dict keys values => exact plainFields fields values fun w member =>
          ⟨keyed.held (holds_of_mem_values member), nests.held (holds_of_mem_values member)⟩
      | struct names values => exact plainFields fields values fun w member =>
          ⟨keyed.held (holds_of_mem_members member), nests.held (holds_of_mem_members member)⟩

theorem plainItems : (documents : List Json) → ∀ {depth : Nat} {items : List Value},
    List.Forall₂ h.ShownBy items documents →
    (∀ v ∈ items, h.Keyed v ∧ ∃ fewer, depth = fewer + 1 ∧ h.Nests fewer v) →
    Json.PlainItems depth documents
  | [], _, _, _, _ => trivial
  | document :: rest, depth, items, shown, each => by
    cases shown with
    | cons first others =>
      obtain ⟨keyed, fewer, rfl, nests⟩ := each _ (.head _)
      exact ⟨ShownBy.plain document first nests keyed,
        plainItems rest others fun v member => each v (.tail _ member)⟩

theorem plainFields : (fields : List (String × Json)) → ∀ {depth : Nat} {items : List Value},
    List.Forall₂ h.ShownBy items (fields.map Prod.snd) →
    (∀ v ∈ items, h.Keyed v ∧ ∃ fewer, depth = fewer + 1 ∧ h.Nests fewer v) →
    Json.PlainFields depth fields
  | [], _, _, _, _ => trivial
  | (name, document) :: rest, depth, items, shown, each => by
    cases shown with
    | cons first others =>
      obtain ⟨keyed, fewer, rfl, nests⟩ := each _ (.head _)
      exact ⟨ShownBy.plain document first nests keyed,
        plainFields rest others fun v member => each v (.tail _ member)⟩

end

end Heap

/-! ## Decoding -/

/-- Names without repetitions become the keys of a dict in their order. -/
theorem DictCell.entries_ofBindings {bindings : Bindings Value}
    (distinct : (bindings.map Prod.fst).Nodup) :
    (DictCell.ofBindings bindings).entries.toList
      = bindings.map fun binding => ⟨.str binding.1, .str binding.1, binding.2⟩ := by
  suffices every : ∀ (rest done : Bindings Value) (cell : DictCell),
      ((done ++ rest).map Prod.fst).Nodup →
      cell.entries.toList = (done.map fun binding => ⟨.str binding.1, .str binding.1, binding.2⟩) →
      (rest.foldl (fun cell binding =>
        cell.insert (.str binding.1) (.str binding.1) binding.2) cell).entries.toList
        = (done ++ rest).map fun binding => ⟨.str binding.1, .str binding.1, binding.2⟩ by
    exact every bindings [] DictCell.empty distinct rfl
  intro rest
  induction rest with
  | nil =>
    intro done cell _ entries
    rw [List.append_nil]
    exact entries
  | cons binding rest ih =>
    intro done cell distinct entries
    have new : cell.position? (.str binding.1) = none := by
      rw [DictCell.position?, Array.findIdx?_eq_none_iff]
      intro entry member
      rw [← Array.mem_toList_iff, entries] at member
      obtain ⟨other, present, rfl⟩ := List.mem_map.mp member
      rw [List.map_append, List.map_cons] at distinct
      have differ := (List.nodup_append.mp distinct).2.2 other.1 (List.mem_map_of_mem present) _
        (.head _)
      simp [HashKey.same, differ]
    have step := ih (done ++ [binding]) (cell.insert (.str binding.1) (.str binding.1) binding.2)
      (by simpa using distinct) (by simp [DictCell.insert, new, entries])
    rw [List.append_assoc] at step
    exact step

/-- What one heap holds stands in another one, too. -/
structure Heap.Grows (h h' : Heap) : Prop where
  listCount : h.lists.size ≤ h'.lists.size
  dictCount : h.dicts.size ≤ h'.dicts.size
  lists : ∀ ref : ListRef, ref.index < h.lists.size → h'.list ref = h.list ref
  dicts : ∀ ref : DictRef, ref.index < h.dicts.size → h'.dict ref = h.dict ref

theorem Heap.Grows.refl (h : Heap) : h.Grows h :=
  ⟨Nat.le_refl _, Nat.le_refl _, fun _ _ => rfl, fun _ _ => rfl⟩

theorem Heap.Grows.trans {a b c : Heap} (first : a.Grows b) (second : b.Grows c) : a.Grows c where
  listCount := Nat.le_trans first.listCount second.listCount
  dictCount := Nat.le_trans first.dictCount second.dictCount
  lists ref present := (second.lists ref (Nat.lt_of_lt_of_le present first.listCount)).trans
    (first.lists ref present)
  dicts ref present := (second.dicts ref (Nat.lt_of_lt_of_le present first.dictCount)).trans
    (first.dicts ref present)

theorem Heap.grows_addList (h : Heap) (cell : ListCell) : h.Grows (h.addList cell) where
  listCount := by simp [addList]
  dictCount := Nat.le_refl _
  lists ref present := by
    rw [list_addList, if_neg]
    rintro rfl
    exact Nat.lt_irrefl _ present
  dicts _ _ := rfl

theorem Heap.grows_addDict (h : Heap) (cell : DictCell) : h.Grows (h.addDict cell) where
  listCount := Nat.le_refl _
  dictCount := by simp [addDict]
  lists _ _ := rfl
  dicts ref present := by
    rw [dict_addDict, if_neg]
    rintro rfl
    exact Nat.lt_irrefl _ present

namespace Json

/-- An action adds to the heap only, and something holds of its result in every later heap that still
has what was added. -/
def Gives {α : Type} (act : Eval α) (lasting : Heap → α → Prop) : Prop :=
  ∀ m, ∃ value h', act m = .ok value { m with heap := h' } ∧ m.heap.Grows h'
    ∧ ∀ later, h'.Grows later → lasting later value

namespace Gives

variable {α β : Type} {lasting : Heap → α → Prop} {lastingNext : Heap → β → Prop}

theorem pure {value : α} (holds : ∀ later, lasting later value) :
    Gives (Pure.pure value) lasting :=
  fun m => ⟨value, m.heap, rfl, .refl _, fun later _ => holds later⟩

theorem bind {act : Eval α} {next : α → Eval β} (gives : Gives act lasting)
    (givesNext : ∀ value, Gives (next value) fun later value' =>
      lasting later value → lastingNext later value') :
    Gives (act >>= next) lastingNext := by
  intro m
  obtain ⟨value, h', ran, grows, holds⟩ := gives m
  obtain ⟨value', h'', ran', grows', holds'⟩ := givesNext value { m with heap := h' }
  refine ⟨value', h'', ?_, grows.trans grows', fun later after =>
    holds' later after (holds later (grows'.trans after))⟩
  show EStateM.bind act next m = _
  unfold EStateM.bind
  rw [ran]
  exact ran'

theorem weaken {act : Eval α} {weaker : Heap → α → Prop} (gives : Gives act lasting)
    (implies : ∀ later value, lasting later value → weaker later value) : Gives act weaker := by
  intro m
  obtain ⟨value, h', ran, grows, holds⟩ := gives m
  exact ⟨value, h', ran, grows, fun later after => implies later value (holds later after)⟩

theorem newList (items : List Value) :
    Gives (Eval.newList items) fun later value =>
      ∃ ref, value = .list ref ∧ (later.list ref).items.toList = items := by
  refine fun m => ⟨_, _, rfl, Heap.grows_addList _ _, fun later grows => ⟨_, rfl, ?_⟩⟩
  rw [grows.lists _ (by simp [Heap.addList, Heap.nextList]), Heap.list_addList, if_pos rfl]

theorem newDict (cell : DictCell) :
    Gives (Eval.newDict cell) fun later value =>
      ∃ ref, value = .dict ref ∧ (later.dict ref).entries = cell.entries := by
  refine fun m => ⟨_, _, rfl, Heap.grows_addDict _ _, fun later grows => ⟨_, rfl, ?_⟩⟩
  rw [grows.dicts _ (by simp [Heap.addDict, Heap.nextDict]), Heap.dict_addDict, if_pos rfl]

end Gives

variable {h : Heap}

theorem wordOrFloat_toInt (i : Int64) : wordOrFloat i.toInt = .int i := by
  have fits : Word.least ≤ i.toInt ∧ i.toInt ≤ Word.greatest :=
    ⟨i.le_toInt, Int.le_of_lt_add_one i.toInt_lt⟩
  rw [wordOrFloat, Word.ofInt?, if_pos fits, Int64.ofInt_toInt]

mutual

/-- A document that shows a value is decoded as the value built anew. -/
theorem gives_toValue : (document : Json) → ∀ {depth : Nat} {v : Value}, h.ShownBy v document →
    document.Plain depth → Gives document.toValue fun later => h.Renews later v
  | .null, _, _, shown, _ => by
    cases shown
    exact .pure fun _ => .none
  | .bool b, _, _, shown, _ => by
    cases shown
    exact .pure fun _ => .bool b
  | .int n, _, _, shown, _ => by
    cases shown with
    | int i =>
      unfold toValue
      rw [wordOrFloat_toInt]
      exact .pure fun _ => .int i
  | .float _, _, _, shown, _ => nomatch shown
  | .string text, _, _, shown, _ => by
    cases shown
    exact .pure fun _ => .str text
  | .array documents, depth, v, shown, plain => by
    unfold toValue
    cases shown with
    | list items =>
      refine (gives_toValues documents items plain.2).bind fun values => ?_
      refine (Gives.newList values).weaken ?_
      rintro later _ ⟨ref, rfl, same⟩ renews
      exact .list (same ▸ renews)
    | tuple items =>
      refine (gives_toValues documents items plain.2).bind fun values => ?_
      refine (Gives.newList values).weaken ?_
      rintro later _ ⟨ref, rfl, same⟩ renews
      exact .tuple (same ▸ renews)
  | .object fields, depth, v, shown, plain => by
    have stored {later : Heap} {ref : DictRef} {bindings : Bindings Value}
        (same : (later.dict ref).entries = (DictCell.ofBindings bindings).entries)
        (names : bindings.map Prod.fst = fields.map Prod.fst) :
        ((later.dict ref).keys = fields.map fun field => .str field.1)
          ∧ (later.dict ref).values = bindings.map Prod.snd := by
      have entries := DictCell.entries_ofBindings (names ▸ plain.2.1)
      have keys : (fields.map fun field => Value.str field.1)
          = (bindings.map Prod.fst).map .str := by
        rw [names, List.map_map]
        rfl
      rw [keys, DictCell.keys, DictCell.values, same, entries, List.map_map, List.map_map,
        List.map_map]
      exact ⟨rfl, rfl⟩
    unfold toValue
    cases shown with
    | dict keys values =>
      refine (gives_toBindings fields values plain.2.2).bind fun bindings => ?_
      refine (Gives.newDict _).weaken ?_
      rintro later _ ⟨ref, rfl, same⟩ ⟨names, renews⟩
      obtain ⟨keys', values'⟩ := stored same names
      exact .dict (keys'.trans keys.symm) (values' ▸ renews)
    | @struct members _ known values =>
      refine (gives_toBindings fields values plain.2.2).bind fun bindings => ?_
      refine (Gives.newDict _).weaken ?_
      rintro later _ ⟨ref, rfl, same⟩ ⟨names, renews⟩
      obtain ⟨keys', values'⟩ := stored same names
      have inTwoSteps : (members.map fun member => Value.str member.1)
          = fields.map fun field => .str field.1 := by
        have mapped := congrArg (List.map Value.str) known
        rw [List.map_map, List.map_map] at mapped
        exact mapped
      exact .struct (keys'.trans inTwoSteps.symm) (values' ▸ renews)

theorem gives_toValues : (documents : List Json) → ∀ {depth : Nat} {items : List Value},
    List.Forall₂ h.ShownBy items documents → PlainItems depth documents →
    Gives (toValues documents) fun later values => List.Forall₂ (h.Renews later) items values
  | [], _, _, shown, _ => by
    cases shown
    exact .pure fun _ => .nil
  | document :: rest, depth, items, shown, plain => by
    cases shown with
    | cons first others =>
      unfold toValues
      refine (gives_toValue document first plain.1).bind fun value => ?_
      refine ((gives_toValues rest others plain.2).bind fun values => .pure ?_)
      exact fun _ renewsRest renews => .cons renews renewsRest

theorem gives_toBindings : (fields : List (String × Json)) → ∀ {depth : Nat} {items : List Value},
    List.Forall₂ h.ShownBy items (fields.map Prod.snd) → PlainFields depth fields →
    Gives (toBindings fields) fun later bindings =>
      bindings.map Prod.fst = fields.map Prod.fst
        ∧ List.Forall₂ (h.Renews later) items (bindings.map Prod.snd)
  | [], _, _, shown, _ => by
    cases shown
    exact .pure fun _ => ⟨rfl, .nil⟩
  | (name, document) :: rest, depth, items, shown, plain => by
    cases shown with
    | cons first others =>
      unfold toBindings
      refine (gives_toValue document first plain.1).bind fun value => ?_
      refine ((gives_toBindings rest others plain.2).bind fun bindings => .pure ?_)
      exact fun _ renewsRest renews =>
        ⟨congrArg (name :: ·) renewsRest.1, .cons renews renewsRest.2⟩

end

end Json

/-! ## Documents of scripts -/

namespace Documents

theorem run_encode (v : Value) (m : Machine) :
    run .encode (.ofList [v]) m
      = (Eval.accept EncodingFault.text (v.toJson m.heap) >>= fun document =>
          pure (.str document.compact)) m :=
  rfl

theorem run_decode (text : String) (m : Machine) :
    run .decode (.ofList [.str text]) m = (readDocument "decode" text >>= Json.toValue) m :=
  rfl

/-- What is encoded is decoded, by whatever machine, as the value built anew. -/
theorem decode_encoded {v : Value} {document : Json} {h : Heap} {depth : Nat}
    (shown : h.ShownBy v document) (nests : h.Nests depth v) (keyed : h.Keyed v)
    (shallow : depth < 127) (later : Machine) :
    ∃ v' h', run .decode (.ofList [.str document.compact]) later
        = .ok v' { later with heap := h' } ∧ later.heap.Grows h' ∧ h.Renews h' v v' := by
  have plain := shown.plain document nests keyed
  obtain ⟨v', h', ran, grows, renews⟩ := Json.gives_toValue document shown plain later
  refine ⟨v', h', ?_, grows, renews h' (.refl h')⟩
  rw [run_decode, readDocument, Json.parse_compact plain (by omega)]
  exact ran

/-- A value without floats that is nested at most a hundred levels deep is encoded exactly if
documents can show all that it reaches, and encoding changes nothing.  What it is encoded as is
decoded, by whatever machine, as the value built anew. -/
theorem encoded_values_are_decoded (m : Machine) {v : Value} (keyed : m.heap.Keyed v)
    (nests : m.heap.Nests 100 v) (floatFree : ∀ x, ¬m.heap.Reaches v (.float x)) :
    ((∃ result m', run .encode (.ofList [v]) m = .ok result m')
        ↔ ∀ w, m.heap.Reaches v w → m.heap.Displayable w)
    ∧ ∀ result m', run .encode (.ofList [v]) m = .ok result m' →
      m' = m ∧ ∀ later : Machine, ∃ v' h',
        run .decode (.ofList [result]) later = .ok v' { later with heap := h' }
          ∧ later.heap.Grows h' ∧ m.heap.Renews h' v v' := by
  have straight := nests.straight
  have encodes (displayable : ∀ w, m.heap.Reaches v w → m.heap.Displayable w) :
      ∃ document, run .encode (.ofList [v]) m = .ok (.str document.compact) m
        ∧ m.heap.ShownBy v document := by
    obtain ⟨document, made, shown⟩ := Value.exists_toJson straight floatFree displayable
    refine ⟨document, ?_, shown⟩
    rw [run_encode, made]
    rfl
  have shows_ {result : Value} {m' : Machine} (ran : run .encode (.ofList [v]) m = .ok result m') :
      ∀ w, m.heap.Reaches v w → m.heap.Displayable w := by
    rw [run_encode] at ran
    cases made : v.toJson m.heap with
    | error fault =>
      rw [made] at ran
      cases ran
    | ok document => exact fun w reaches => Value.displayable_of_encodes made reaches
  constructor
  · constructor
    · rintro ⟨result, m', ran⟩
      exact shows_ ran
    · intro displayable
      obtain ⟨document, ran, _⟩ := encodes displayable
      exact ⟨_, _, ran⟩
  · intro result m' ran
    obtain ⟨document, ran', shown⟩ := encodes (shows_ ran)
    rw [ran'] at ran
    cases ran
    exact ⟨rfl, decode_encoded shown nests keyed (by decide)⟩

/-- A value with the least word, a text, a struct and a dict in it. -/
def mixedValue : Value :=
  .tuple [.int Int64.minValue, .str "\u0001é\"", .struct [("z", .none), ("a", .dict Heap.fonts)]]

theorem entries_fonts : (Heap.initial.dict Heap.fonts).entries.toList
    = Font.names.map fun font => ⟨.str font, .str font, .str font⟩ := by
  have distinct : ((Font.names.map fun font => (font, Value.str font)).map Prod.fst).Nodup := by
    decide
  have entries := DictCell.entries_ofBindings distinct
  rw [List.map_map] at entries
  exact entries

section Mixed

variable {v w : Value}

theorem holds_fonts (holds : Heap.initial.Holds (.dict Heap.fonts) w) : ∃ text, w = .str text := by
  cases holds with
  | key member | value member =>
    rw [entries_fonts] at member
    obtain ⟨font, _, rfl⟩ := List.mem_map.mp member
    exact ⟨font, rfl⟩

/-- The values that are reached in the value with the least word. -/
theorem reached_of_mixedValue (reaches : Heap.initial.Reaches mixedValue v) :
    v = mixedValue ∨ v = .int Int64.minValue
      ∨ v = .struct [("z", .none), ("a", .dict Heap.fonts)] ∨ v = .none ∨ v = .dict Heap.fonts
      ∨ ∃ text, v = .str text := by
  induction reaches with
  | here => exact .inl rfl
  | inside _ holds ih =>
    rcases ih with rfl | rfl | rfl | rfl | rfl | ⟨text, rfl⟩
    · cases holds with
      | item member =>
        simp only [List.mem_cons, List.not_mem_nil, or_false] at member
        rcases member with rfl | rfl | rfl <;> simp
    · cases holds
    · cases holds with
      | field member =>
        simp only [List.mem_cons, List.not_mem_nil, or_false] at member
        rcases member with rfl | rfl <;> simp
    · cases holds
    · simp [holds_fonts holds]
    · cases holds

theorem nests_leaf {depth : Nat} (nothing : ∀ w, ¬Heap.initial.Holds v w) :
    Heap.initial.Nests depth v :=
  Heap.Nests.deeper (show Heap.initial.Nests 0 v from nothing) (Nat.zero_le depth)

theorem nests_mixedValue : Heap.initial.Nests 100 mixedValue := by
  have fonts : Heap.initial.Nests 98 (.dict Heap.fonts) := by
    intro w holds
    obtain ⟨text, rfl⟩ := holds_fonts holds
    exact nests_leaf (by rintro w ⟨⟩)
  intro w holds
  cases holds with
  | item member =>
    simp only [List.mem_cons, List.not_mem_nil, or_false] at member
    rcases member with rfl | rfl | rfl
    · exact nests_leaf (by rintro w ⟨⟩)
    · exact nests_leaf (by rintro w ⟨⟩)
    · intro w holds
      cases holds with
      | field member =>
        simp only [List.mem_cons, List.not_mem_nil, or_false] at member
        rcases member with rfl | rfl
        · exact nests_leaf (by rintro w ⟨⟩)
        · exact fonts

theorem keyed_mixedValue : Heap.initial.Keyed mixedValue := by
  constructor
  · intro ref reaches
    rcases reached_of_mixedValue reaches with same | same | same | same | same | ⟨_, same⟩ <;>
      cases same
    have keys : (Heap.initial.dict Heap.fonts).keys = Font.names.map Value.str := by
      rw [DictCell.keys, entries_fonts, List.map_map]
      rfl
    rw [keys]
    exact List.Nodup.map (fun _ _ => Value.str.inj) (by decide)
  · intro fields reaches
    rcases reached_of_mixedValue reaches with same | same | same | same | same | ⟨_, same⟩ <;>
      cases same
    decide

end Mixed

theorem mixedValue_is_decoded : ∃ result,
    run .encode (.ofList [mixedValue]) (.initial (.under []))
        = .ok result (.initial (.under []))
      ∧ ∀ later : Machine, ∃ v' h', run .decode (.ofList [result]) later
        = .ok v' { later with heap := h' } ∧ Heap.initial.Renews h' mixedValue v' := by
  have floatFree (x : Float) : ¬Heap.initial.Reaches mixedValue (.float x) := by
    intro reaches
    rcases reached_of_mixedValue reaches with same | same | same | same | same | ⟨_, same⟩ <;>
      cases same
  obtain ⟨succeeds, decodes⟩ := encoded_values_are_decoded (.initial (.under []))
    keyed_mixedValue nests_mixedValue floatFree
  have displayable (w : Value) (reaches : Heap.initial.Reaches mixedValue w) :
      Heap.initial.Displayable w := by
    rcases reached_of_mixedValue reaches with rfl | rfl | rfl | rfl | rfl | ⟨_, rfl⟩
    · trivial
    · trivial
    · trivial
    · trivial
    · intro key member
      obtain ⟨entry, present, rfl⟩ := List.mem_map.mp member
      exact holds_fonts (.key present)
    · trivial
  obtain ⟨result, m', ran⟩ := succeeds.mpr displayable
  obtain ⟨rfl, later⟩ := decodes result m' ran
  refine ⟨result, ran, fun machine => ?_⟩
  obtain ⟨v', h', decoded, _, renews⟩ := later machine
  exact ⟨v', h', decoded, renews⟩

end Documents

end PixelApplet
