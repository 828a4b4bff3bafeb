import PixelApplet.Proofs.Value.Circles
import PixelApplet.Proofs.Value.OrderedMaps
import Mathlib.Data.List.Forall2

/-!
# Equality is an equivalence

On values that reach no float and no cell containing itself, equality is an equivalence, which
compares dicts and structs by what is found in them.  The values that can be keys of a dict are
equal exactly if their keys are the same.
-/

namespace PixelApplet

/-- What a proof about a value may assume of the values that it is made of as a piece of data. -/
theorem Value.induction_on_data {property : Value → Prop}
    (step : ∀ v : Value, (∀ part ∈ v.dataParts, property part) → property v) (v : Value) :
    property v :=
  step v fun part _ => induction_on_data step part
termination_by sizeOf v
decreasing_by exact Heap.sizeOf_lt_of_dataParts ‹_›

namespace Heap

/-- A value reaches no float and no list or dict containing itself; the dicts that it reaches find
each entry by its key, and the structs have each name once. -/
structure Orderly (h : Heap) (v : Value) : Prop where
  straight : h.Straight v
  floatFree : ∀ x, ¬h.Reaches v (.float x)
  dicts : ∀ ref, h.Reaches v (.dict ref) → (h.dict ref).Keyed
  structs : ∀ fields, h.Reaches v (.struct fields) → (fields.map Prod.fst).Nodup

/-- No identity is that of a function that one of two values reaches and of a builtin function that
the other one reaches. -/
def ToldApart (h : Heap) (a b : Value) : Prop :=
  ∀ identity f g, ¬(h.Reaches a (.function identity f) ∧ h.Reaches b (.builtin identity g))
    ∧ ¬(h.Reaches a (.builtin identity g) ∧ h.Reaches b (.function identity f))

variable {h : Heap} {v w : Value}

theorem Orderly.inside (orderly : h.Orderly v) (holds : h.Holds v w) : h.Orderly w := by
  have reaches {x : Value} (further : h.Reaches w x) : h.Reaches v x :=
    Reaches.trans (.inside .here holds) further
  exact ⟨fun x further => orderly.straight x (reaches further),
    fun x further => orderly.floatFree x (reaches further),
    fun ref further => orderly.dicts ref (reaches further),
    fun fields further => orderly.structs fields (reaches further)⟩

theorem ToldApart.inside {a b x y : Value} (apart : h.ToldApart a b) (holds : h.Holds a x)
    (holds' : h.Holds b y) : h.ToldApart x y := by
  intro identity f g
  have reaches {w : Value} (further : h.Reaches x w) := Reaches.trans (.inside .here holds) further
  have reaches' {w : Value} (further : h.Reaches y w) :=
    Reaches.trans (.inside .here holds') further
  exact ⟨fun both => (apart identity f g).1 ⟨reaches both.1, reaches' both.2⟩,
    fun both => (apart identity f g).2 ⟨reaches both.1, reaches' both.2⟩⟩

theorem Orderly.part (orderly : h.Orderly v) {part : Value} (member : part ∈ v.dataParts) :
    h.Orderly part :=
  orderly.inside (holds_of_dataParts member)

end Heap

namespace Value

variable {h : Heap}

/-! ## Maps with a name or key for each value -/

section Maps

variable {κ α : Type} {names names' : List κ} {find find' : κ → Option α} {related : α → α → Prop}

/-- Two maps of one size, of which one is covered by the other, relate whatever is asked for. -/
theorem matched_iff (nodup : names.Nodup) (nodup' : names'.Nodup)
    (known : ∀ name, name ∈ names ↔ (find name).isSome)
    (known' : ∀ name, name ∈ names' ↔ (find' name).isSome) :
    (names.length = names'.length
        ∧ ∀ name ∈ names, Option.Rel related (find name) (find' name))
      ↔ ∀ name, Option.Rel related (find name) (find' name) := by
  constructor
  · rintro ⟨length, covers⟩ name
    by_cases present : name ∈ names
    · exact covers name present
    have covered : ∀ name ∈ names, name ∈ names' := fun name member => by
      have some_ := (known name).mp member
      have matched := covers name member
      rw [known']
      cases found : find name <;> cases found' : find' name <;>
        simp [found, found'] at some_ matched ⊢
    have absent : name ∉ names' := fun member =>
      present (((List.subperm_of_subset nodup covered).perm_of_length_le length.ge).mem_iff.mpr
        member)
    rw [known, Option.not_isSome_iff_eq_none] at present
    rw [known', Option.not_isSome_iff_eq_none] at absent
    rw [present, absent]
    exact .none
  · intro matched
    have same (name : κ) : name ∈ names ↔ name ∈ names' := by
      rw [known, known']
      have here := matched name
      cases found : find name <;> cases found' : find' name <;> simp [found, found'] at here ⊢
    exact ⟨((List.perm_ext_iff_of_nodup nodup nodup').mpr same).length_eq,
      fun name _ => matched name⟩

end Maps

/-! ## Equality -/

section Equality

variable {inner : Value → Value → Bool}

theorem mem_names_iff {xs : List (String × Value)} (name : String) :
    name ∈ xs.map Prod.fst ↔ (xs.lookup name).isSome := by
  simp

theorem mem_hashes_iff {cell : DictCell} (hash : HashKey) :
    hash ∈ cell.entries.toList.map DictEntry.hash ↔ (cell.find? hash).isSome := by
  rw [DictCell.find?, ← Array.find?_toList, List.find?_isSome, List.mem_map]
  simp only [HashKey.same_iff]

theorem nodup_hashes {cell : DictCell} (keyed : cell.Keyed) :
    (cell.entries.toList.map DictEntry.hash).Nodup := by
  refine List.pairwise_map.mpr ((List.pairwise_map.mp keyed.different).imp fun apart same => ?_)
  rw [HashKey.same_iff.mpr same] at apart
  cases apart

theorem mem_of_find? {cell : DictCell} {hash : HashKey} {entry : DictEntry}
    (found : cell.find? hash = some entry) : entry ∈ cell.entries.toList := by
  rw [DictCell.find?, ← Array.find?_toList] at found
  exact List.mem_of_find?_eq_some found

/-- Two values are alike, as far as they themselves are concerned: data parts are compared by
`parts` and what cells hold by `cells`.  Dicts and structs are compared by what is found in them, in
whatever order it stands there. -/
inductive Alike (h : Heap) (parts cells : Value → Value → Prop) : Value → Value → Prop where
  | none : Alike h parts cells .none .none
  | bool (b : Bool) : Alike h parts cells (.bool b) (.bool b)
  | int (i : Int64) : Alike h parts cells (.int i) (.int i)
  | str (text : String) : Alike h parts cells (.str text) (.str text)
  | list {a b : ListRef}
    (elements : a = b ∨ List.Forall₂ cells (h.list a).items.toList (h.list b).items.toList) :
    Alike h parts cells (.list a) (.list b)
  | tuple {xs ys : List Value} (items : List.Forall₂ parts xs ys) :
    Alike h parts cells (.tuple xs) (.tuple ys)
  | dict {a b : DictRef}
    (entries : a = b ∨ ∀ hash, Option.Rel (fun x y => cells x.value y.value)
      ((h.dict a).find? hash) ((h.dict b).find? hash)) :
    Alike h parts cells (.dict a) (.dict b)
  | function (identity : Identity) (f g : Function Value) :
    Alike h parts cells (.function identity f) (.function identity g)
  | builtin (identity : Identity) (f g : Builtin Value) :
    Alike h parts cells (.builtin identity f) (.builtin identity g)
  | struct {xs ys : List (String × Value)}
    (fields : ∀ name, Option.Rel parts (xs.lookup name) (ys.lookup name)) :
    Alike h parts cells (.struct xs) (.struct ys)
  | module (identity : Identity) (name name' : String) (members members' : List (String × Value)) :
    Alike h parts cells (.module identity name members) (.module identity name' members')
  | native (identity : Identity) (n n' : Native Value) :
    Alike h parts cells (.native identity n) (.native identity n')

theorem equalAllWith_iff {xs ys : List Value} : equalAllWith h inner xs ys = true
    ↔ List.Forall₂ (fun x y => equalWith h inner x y = true) xs ys := by
  induction xs generalizing ys with
  | nil => cases ys <;> simp [equalAllWith]
  | cons x xs ih => cases ys <;> simp [equalAllWith, ih]

theorem equalItems_iff {xs ys : List Value} :
    (xs.length == ys.length && (xs.zip ys).all fun (x, y) => inner x y) = true
      ↔ List.Forall₂ (fun x y => inner x y = true) xs ys := by
  induction xs generalizing ys with
  | nil => cases ys <;> simp
  | cons x xs ih => cases ys <;> simp [← ih, and_left_comm]

theorem equalWith_list {a b : ListRef} : equalWith h inner (.list a) (.list b) = true
    ↔ a = b ∨ List.Forall₂ (fun x y => inner x y = true) (h.list a).items.toList
      (h.list b).items.toList := by
  rw [← equalItems_iff, equalWith]
  simp

theorem equalFieldsWith_iff {xs ys all : List (String × Value)}
    (found : ∀ field ∈ xs, all.lookup field.1 = some field.2) :
    equalFieldsWith h inner xs ys = true ↔ ∀ name ∈ xs.map Prod.fst,
      Option.Rel (fun x y => equalWith h inner x y = true) (all.lookup name) (ys.lookup name) := by
  induction xs with
  | nil => simp [equalFieldsWith]
  | cons field xs ih =>
    rw [equalFieldsWith, Bool.and_eq_true, ih fun other member => found other (.tail _ member),
      List.map_cons, List.forall_mem_cons, found field (.head _)]
    cases ys.lookup field.1 <;> simp

theorem equalWith_struct {xs ys : List (String × Value)} (nodup : (xs.map Prod.fst).Nodup)
    (nodup' : (ys.map Prod.fst).Nodup) : equalWith h inner (.struct xs) (.struct ys) = true
    ↔ ∀ name, Option.Rel (fun x y => equalWith h inner x y = true) (xs.lookup name)
      (ys.lookup name) := by
  rw [← matched_iff nodup nodup' mem_names_iff mem_names_iff, equalWith, Bool.and_eq_true,
    beq_iff_eq, equalFieldsWith_iff fun _ => Bindings.lookup_of_mem nodup, List.length_map, List.length_map]

theorem equalWith_dict {a b : DictRef} (keyed : (h.dict a).Keyed) (keyed' : (h.dict b).Keyed) :
    equalWith h inner (.dict a) (.dict b) = true
      ↔ a = b ∨ ∀ hash, Option.Rel (fun x y => inner x.value y.value = true)
        ((h.dict a).find? hash) ((h.dict b).find? hash) := by
  rw [← matched_iff (nodup_hashes keyed) (nodup_hashes keyed') mem_hashes_iff mem_hashes_iff,
    equalWith, Bool.or_eq_true, beq_iff_eq, Bool.and_eq_true, beq_iff_eq, ← Array.all_toList,
    List.all_eq_true, List.length_map, List.length_map, List.forall_mem_map]
  refine or_congr Iff.rfl (and_congr Iff.rfl (forall₂_congr fun entry member => ?_))
  rw [keyed.find?_of_mem member]
  cases (h.dict b).find? entry.hash <;> simp

/-- Values without floats are equal exactly if they are alike, down to the values in cells. -/
theorem equalWith_iff {a b : Value} (orderly : h.Orderly a) (orderly' : h.Orderly b) :
    equalWith h inner a b = true
      ↔ Alike h (fun x y => equalWith h inner x y = true) (fun x y => inner x y = true) a b := by
  constructor
  · intro same
    cases a with
    | float x => exact absurd .here (orderly.floatFree x)
    | list a =>
      cases b with
      | list b => exact .list (equalWith_list.mp same)
      | _ => cases same
    | tuple xs =>
      cases b with
      | tuple ys => exact .tuple (equalAllWith_iff.mp same)
      | _ => cases same
    | dict a =>
      cases b with
      | dict b =>
        exact .dict ((equalWith_dict (orderly.dicts a .here) (orderly'.dicts b .here)).mp same)
      | _ => cases same
    | struct xs =>
      cases b with
      | struct ys =>
        exact .struct
          ((equalWith_struct (orderly.structs xs .here) (orderly'.structs ys .here)).mp same)
      | _ => cases same
    | int i =>
      cases b with
      | int j =>
        rw [equalWith, beq_iff_eq] at same
        exact same ▸ .int i
      | float x => exact absurd .here (orderly'.floatFree x)
      | _ => cases same
    | none =>
      cases b with
      | none => exact .none
      | _ => cases same
    | _ =>
      cases b <;> first | cases same | skip
      all_goals
        rw [equalWith, beq_iff_eq] at same
        subst same
        constructor
  · intro alike
    cases alike with
    | none => rfl
    | list elements => exact equalWith_list.mpr elements
    | tuple items => exact equalAllWith_iff.mpr items
    | dict entries =>
      exact (equalWith_dict (orderly.dicts _ .here) (orderly'.dicts _ .here)).mpr entries
    | struct fields =>
      exact (equalWith_struct (orderly.structs _ .here) (orderly'.structs _ .here)).mpr fields
    | _ => rw [equalWith, beq_iff_eq]

theorem forall₂_flip {parts : Value → Value → Prop} {xs ys : List Value}
    (flips : ∀ x ∈ xs, ∀ y ∈ ys, parts x y → parts y x) (all : List.Forall₂ parts xs ys) :
    List.Forall₂ parts ys xs := by
  induction all with
  | nil => exact .nil
  | cons here _ ih =>
    exact .cons (flips _ (.head _) _ (.head _) here)
      (ih fun x member y member' => flips x (.tail _ member) y (.tail _ member'))

theorem forall₂_join {parts : Value → Value → Prop} {xs ys zs : List Value}
    (joins : ∀ x ∈ xs, ∀ y ∈ ys, ∀ z ∈ zs, parts x y → parts y z → parts x z)
    (all : List.Forall₂ parts xs ys) (all' : List.Forall₂ parts ys zs) :
    List.Forall₂ parts xs zs := by
  induction all generalizing zs with
  | nil =>
    cases all'
    exact .nil
  | cons here _ ih =>
    cases all' with
    | cons here' rest' =>
      exact .cons (joins _ (.head _) _ (.head _) _ (.head _) here here')
        (ih (fun x member y member' z member'' =>
          joins x (.tail _ member) y (.tail _ member') z (.tail _ member'')) rest')

section Found

variable {α : Type} {related : α → α → Prop} {x y z : Option α}

theorem rel_refl (same : ∀ a ∈ x, related a a) : Option.Rel related x x := by
  cases x with
  | none => exact .none
  | some a => exact .some (same a rfl)

theorem rel_flip (flips : ∀ a ∈ x, ∀ b ∈ y, related a b → related b a)
    (rel : Option.Rel related x y) : Option.Rel related y x := by
  cases rel with
  | none => exact .none
  | some holds => exact .some (flips _ rfl _ rfl holds)

theorem rel_join (joins : ∀ a ∈ x, ∀ b ∈ y, ∀ c ∈ z, related a b → related b c → related a c)
    (rel : Option.Rel related x y) (rel' : Option.Rel related y z) : Option.Rel related x z := by
  cases rel with
  | none =>
    cases rel'
    exact .none
  | some holds =>
    cases rel' with
    | some holds' => exact .some (joins _ rfl _ rfl _ rfl holds holds')

end Found

theorem mem_dataParts_of_lookup {fields : List (String × Value)} {name : String} {x : Value}
    (found : fields.lookup name = some x) : x ∈ (struct fields).dataParts :=
  List.mem_map.mpr ⟨_, Bindings.mem_of_lookup found, rfl⟩

namespace Alike

variable {parts cells : Value → Value → Prop} {a b c : Value}

theorem refl (orderly : h.Orderly a) (same : ∀ x ∈ a.dataParts, parts x x) :
    Alike h parts cells a a := by
  cases a with
  | float x => exact absurd .here (orderly.floatFree x)
  | list ref => exact .list (.inl rfl)
  | dict ref => exact .dict (.inl rfl)
  | tuple items => exact .tuple (List.forall₂_same.mpr same)
  | struct fields =>
    exact .struct fun name => rel_refl fun x found => same x (mem_dataParts_of_lookup found)
  | _ => constructor

theorem symm (alike : Alike h parts cells a b)
    (flips : ∀ x ∈ a.dataParts, ∀ y ∈ b.dataParts, parts x y → parts y x)
    (flipsCells : ∀ x y, h.Holds a x → h.Holds b y → cells x y → cells y x) :
    Alike h parts cells b a := by
  cases alike with
  | list elements =>
    refine .list (elements.imp Eq.symm fun all => forall₂_flip (fun x member y member' => ?_) all)
    exact flipsCells x y (.element member) (.element member')
  | tuple items => exact .tuple (forall₂_flip flips items)
  | dict entries =>
    refine .dict (entries.imp Eq.symm fun rel hash =>
      rel_flip (fun x found y found' => ?_) (rel hash))
    exact flipsCells _ _ (.value (mem_of_find? found)) (.value (mem_of_find? found'))
  | struct fields =>
    refine .struct fun name => rel_flip (fun x found y found' => ?_) (fields name)
    exact flips x (mem_dataParts_of_lookup found) y (mem_dataParts_of_lookup found')
  | _ => constructor

theorem trans (alike : Alike h parts cells a b) (alike' : Alike h parts cells b c)
    (joins : ∀ x ∈ a.dataParts, ∀ y ∈ b.dataParts, ∀ z ∈ c.dataParts,
      parts x y → parts y z → parts x z)
    (joinsCells : ∀ x y z, h.Holds a x → h.Holds b y → h.Holds c z →
      cells x y → cells y z → cells x z) :
    Alike h parts cells a c := by
  cases alike with
  | list elements =>
    cases alike' with
    | list elements' =>
      obtain rfl | all := elements
      · exact .list elements'
      obtain rfl | all' := elements'
      · exact .list (.inr all)
      exact .list (.inr (forall₂_join (fun x member y member' z member'' =>
        joinsCells x y z (.element member) (.element member') (.element member'')) all all'))
  | dict entries =>
    cases alike' with
    | dict entries' =>
      obtain rfl | rel := entries
      · exact .dict entries'
      obtain rfl | rel' := entries'
      · exact .dict (.inr rel)
      refine .dict (.inr fun hash => rel_join (fun x found y found' z found'' => ?_) (rel hash)
        (rel' hash))
      exact joinsCells _ _ _ (.value (mem_of_find? found)) (.value (mem_of_find? found'))
        (.value (mem_of_find? found''))
  | tuple items =>
    cases alike' with
    | tuple items' => exact .tuple (forall₂_join joins items items')
  | struct fields =>
    cases alike' with
    | struct fields' =>
      refine .struct fun name => rel_join (fun x found y found' z found'' => ?_) (fields name)
        (fields' name)
      exact joins x (mem_dataParts_of_lookup found) y (mem_dataParts_of_lookup found') z
        (mem_dataParts_of_lookup found'')
  | _ =>
    cases alike'
    constructor

end Alike

theorem equalWith_refl {a : Value} (orderly : h.Orderly a) : equalWith h inner a a = true := by
  induction a using induction_on_data with
  | step a ih =>
    exact (equalWith_iff orderly orderly).mpr
      (.refl orderly fun x member => ih x member (orderly.part member))

theorem equalWith_symm {a b : Value} (orderly : h.Orderly a) (orderly' : h.Orderly b)
    (innerSymm : ∀ x y, h.Orderly x → h.Orderly y → inner x y = true → inner y x = true)
    (same : equalWith h inner a b = true) : equalWith h inner b a = true := by
  induction a using induction_on_data generalizing b with
  | step a ih =>
    refine (equalWith_iff orderly' orderly).mpr
      (((equalWith_iff orderly orderly').mp same).symm ?_ ?_)
    · exact fun x member y member' => ih x member (orderly.part member) (orderly'.part member')
    · exact fun x y holds holds' => innerSymm x y (orderly.inside holds) (orderly'.inside holds')

theorem equalWith_trans {a b c : Value} (orderly : h.Orderly a) (orderly' : h.Orderly b)
    (orderly'' : h.Orderly c)
    (innerTrans : ∀ x y z, h.Orderly x → h.Orderly y → h.Orderly z →
      inner x y = true → inner y z = true → inner x z = true)
    (same : equalWith h inner a b = true) (same' : equalWith h inner b c = true) :
    equalWith h inner a c = true := by
  induction a using induction_on_data generalizing b c with
  | step a ih =>
    refine (equalWith_iff orderly orderly'').mpr
      (((equalWith_iff orderly orderly').mp same).trans
        ((equalWith_iff orderly' orderly'').mp same') ?_ ?_)
    · exact fun x member y member' z member'' => ih x member (orderly.part member)
        (orderly'.part member') (orderly''.part member'')
    · exact fun x y z holds holds' holds'' =>
        innerTrans x y z (orderly.inside holds) (orderly'.inside holds') (orderly''.inside holds'')

theorem equalTo_symm {cells : Nat} {a b : Value} (orderly : h.Orderly a) (orderly' : h.Orderly b)
    (same : equalTo h cells a b = true) : equalTo h cells b a = true := by
  induction cells generalizing a b with
  | zero => cases same
  | succ cells ih => exact equalWith_symm orderly orderly' (fun x y => ih) same

theorem equalTo_trans {cells : Nat} {a b c : Value} (orderly : h.Orderly a) (orderly' : h.Orderly b)
    (orderly'' : h.Orderly c) (same : equalTo h cells a b = true)
    (same' : equalTo h cells b c = true) : equalTo h cells a c = true := by
  induction cells generalizing a b c with
  | zero => cases same
  | succ cells ih => exact equalWith_trans orderly orderly' orderly'' (fun x y z => ih) same same'

end Equality

/-! ## Keys -/

section Keys

variable {inner : Value → Value → Bool}

theorem forall₂_of_hashKeys {items : List Value} {keys : List HashKey}
    (hashes : hashKeys items = .ok keys) :
    List.Forall₂ (fun item key => item.hashKey = .ok key) items keys := by
  induction items generalizing keys with
  | nil =>
    cases hashes
    exact .nil
  | cons item items ih =>
    rw [hashKeys] at hashes
    cases hashesItem : item.hashKey with
    | error name =>
      rw [hashesItem] at hashes
      cases hashes
    | ok key =>
      cases hashesRest : hashKeys items with
      | error name =>
        rw [hashesItem, hashesRest] at hashes
        cases hashes
      | ok rest =>
        rw [hashesItem, hashesRest] at hashes
        cases hashes
        exact .cons hashesItem (ih hashesRest)

/-- The values that are found under a key. -/
inductive KeyedAs (h : Heap) : Value → HashKey → Prop where
  | none : KeyedAs h .none .none
  | bool (b : Bool) : KeyedAs h (.bool b) (.bool b)
  | int (i : Int64) : KeyedAs h (.int i) (.int i)
  | str (text : String) : KeyedAs h (.str text) (.str text)
  | tuple {xs : List Value} {keys : List HashKey}
    (hashes : List.Forall₂ (fun x key => x.hashKey = .ok key) xs keys) :
    KeyedAs h (.tuple xs) (.tuple keys)
  | function (identity : Identity) (f : Function Value) :
    KeyedAs h (.function identity f) (.object identity)
  | builtin (identity : Identity) (f : Builtin Value) :
    KeyedAs h (.builtin identity f) (.object identity)

theorem keyedAs_of_hashKey {v : Value} {key : HashKey} (orderly : h.Orderly v)
    (hashes : v.hashKey = .ok key) : KeyedAs h v key := by
  cases v with
  | tuple xs =>
    rw [hashKey] at hashes
    cases made : hashKeys xs with
    | error name =>
      rw [made] at hashes
      cases hashes
    | ok keys =>
      rw [made] at hashes
      cases hashes
      exact .tuple (forall₂_of_hashKeys made)
  | float x => exact absurd .here (orderly.floatFree x)
  | _ => cases hashes <;> constructor

theorem equalAllWith_iff_keys {xs ys : List Value} {keys keys' : List HashKey}
    (each : ∀ x ∈ xs, ∀ y ∈ ys, ∀ key key', x.hashKey = .ok key → y.hashKey = .ok key' →
      (equalWith h inner x y = true ↔ key = key'))
    (hashes : List.Forall₂ (fun x key => x.hashKey = .ok key) xs keys)
    (hashes' : List.Forall₂ (fun y key => y.hashKey = .ok key) ys keys') :
    equalAllWith h inner xs ys = true ↔ keys = keys' := by
  induction hashes generalizing ys keys' with
  | nil => cases hashes' <;> simp [equalAllWith]
  | cons here _ ih =>
    cases hashes' with
    | nil => simp [equalAllWith]
    | cons here' hashes' =>
      have rest :=
        ih (fun x member y member' => each x (.tail _ member) y (.tail _ member')) hashes'
      rw [equalAllWith, Bool.and_eq_true, List.cons.injEq,
        each _ (.head _) _ (.head _) _ _ here here', rest]

/-- Values that can be keys are equal exactly if their keys are the same. -/
theorem equalWith_iff_key {a b : Value} {key key' : HashKey} (orderly : h.Orderly a)
    (orderly' : h.Orderly b) (apart : h.ToldApart a b) (hashes : a.hashKey = .ok key)
    (hashes' : b.hashKey = .ok key') : equalWith h inner a b = true ↔ key = key' := by
  induction a using induction_on_data generalizing b key key' with
  | step a ih =>
    have keyed' := keyedAs_of_hashKey orderly' hashes'
    cases keyedAs_of_hashKey orderly hashes with
    | tuple made =>
      cases keyed' with
      | tuple made' =>
        rw [equalWith, HashKey.tuple.injEq]
        refine equalAllWith_iff_keys (fun x member y member' key key' => ?_) made made'
        exact ih x member (orderly.part member) (orderly'.part member')
          (apart.inside (.item member) (.item member'))
      | _ => exact iff_of_false nofun nofun
    | function identity f =>
      cases keyed' with
      | function identity' g => rw [equalWith, beq_iff_eq, HashKey.object.injEq]
      | builtin identity' g =>
        refine iff_of_false nofun fun same => ?_
        cases same
        exact (apart identity f g).1 ⟨.here, .here⟩
      | _ => exact iff_of_false nofun nofun
    | builtin identity f =>
      cases keyed' with
      | builtin identity' g => rw [equalWith, beq_iff_eq, HashKey.object.injEq]
      | function identity' g =>
        refine iff_of_false nofun fun same => ?_
        cases same
        exact (apart identity g f).2 ⟨.here, .here⟩
      | _ => exact iff_of_false nofun nofun
    | _ => cases keyed' <;> simp [equalWith]

end Keys

end Value

end PixelApplet
