import Mathlib.Data.List.Basic
import PixelApplet.Proofs.Value.Realms

/-!
# Dicts are ordered maps

The pure model of a dict is a map on hash keys, together with the order in which these were first
stored.  Under a hash key stand the key as it was first written and the value; a map carries the
proof that the hash key is that of the key, and that the order lists each hash key once.

The entries of a dict show one such map, and every dict whose entries are found by their keys shows
one.
-/

namespace PixelApplet

namespace HashKey

mutual

theorem eq_of_same : {a b : HashKey} → a.same b = true → a = b
  | none, none, _ => rfl
  | bool a, bool b, same_ | int a, int b, same_ | float a, float b, same_ | str a, str b, same_
  | object a, object b, same_ => by
    rw [same] at same_
    rw [eq_of_beq same_]
  | tuple a, tuple b, same_ => by
    rw [same] at same_
    rw [eq_of_sameAll same_]

theorem eq_of_sameAll : {as bs : List HashKey} → sameAll as bs = true → as = bs
  | [], [], _ => rfl
  | a :: as, b :: bs, same_ => by
    rw [sameAll, Bool.and_eq_true] at same_
    rw [eq_of_same same_.1, eq_of_sameAll same_.2]

end

theorem same_iff {a b : HashKey} : a.same b = true ↔ a = b :=
  ⟨eq_of_same, fun equal => equal ▸ same_refl a⟩

instance : DecidableEq HashKey :=
  fun _ _ => decidable_of_iff _ same_iff

end HashKey

/-- A map on hash keys that knows the order in which they were first stored. -/
structure OrderedMap where
  order : List HashKey
  /-- The key as it was first written, and the value. -/
  stored : HashKey → Option (Value × Value)
  nodup : order.Nodup
  bound : ∀ hash, hash ∈ order ↔ (stored hash).isSome = true
  hashed : ∀ hash entry, stored hash = some entry → entry.1.hashKey = .ok hash

namespace OrderedMap

/-- The map without entries. -/
def empty : OrderedMap :=
  ⟨[], fun _ => none, .nil, by simp, nofun⟩

/-- Stores a value.  What is stored already keeps its key and its place. -/
def set (map : OrderedMap) (hash : HashKey) (key value : Value) (hashes : key.hashKey = .ok hash) :
    OrderedMap where
  order := if hash ∈ map.order then map.order else map.order ++ [hash]
  stored other :=
    if other = hash then some (((map.stored hash).map Prod.fst).getD key, value)
    else map.stored other
  nodup := by
    split
    · exact map.nodup
    · rename_i new
      exact List.nodup_append.mpr ⟨map.nodup, List.pairwise_singleton _ _, by
        rintro other old _ last rfl
        exact new (List.mem_singleton.mp last ▸ old)⟩
  bound other := by
    by_cases here : other = hash
    · subst here
      split <;> simp_all
    · have old := map.bound other
      split <;> simp [here, old]
  hashed other entry found := by
    split at found
    · rename_i here
      subst here
      cases found
      cases old : map.stored other with
      | none => exact hashes
      | some entry => exact map.hashed other entry old
    · exact map.hashed other entry found

/-- Takes out what is stored under a hash key. -/
def erase (map : OrderedMap) (hash : HashKey) : OrderedMap where
  order := map.order.erase hash
  stored other := if other = hash then none else map.stored other
  nodup := map.nodup.erase hash
  bound other := by
    rw [map.nodup.mem_erase_iff, map.bound other]
    by_cases here : other = hash <;> simp [here]
  hashed other entry found := by
    split at found
    · cases found
    · exact map.hashed other entry found

section Changes

variable (map : OrderedMap) (hash other : HashKey)

@[simp] theorem empty_order : empty.order = [] :=
  rfl

@[simp] theorem empty_stored : empty.stored hash = none :=
  rfl

@[simp] theorem set_order {key : Value} (value : Value) (hashes : key.hashKey = .ok hash) :
    (map.set hash key value hashes).order
      = if hash ∈ map.order then map.order else map.order ++ [hash] :=
  rfl

@[simp] theorem set_stored {key : Value} (value : Value) (hashes : key.hashKey = .ok hash) :
    (map.set hash key value hashes).stored other
      = if other = hash then some (((map.stored hash).map Prod.fst).getD key, value)
        else map.stored other :=
  rfl

@[simp] theorem erase_order : (map.erase hash).order = map.order.erase hash :=
  rfl

@[simp] theorem erase_stored :
    (map.erase hash).stored other = if other = hash then none else map.stored other :=
  rfl

end Changes

/-- Keys and values in order. -/
def entries (map : OrderedMap) : List (Value × Value) :=
  map.order.filterMap map.stored

/-- The value under a hash key. -/
def get? (map : OrderedMap) (hash : HashKey) : Option Value :=
  (map.stored hash).map Prod.snd

/-- A map is known by its order and by what it stores. -/
theorem ext {map other : OrderedMap} (order : map.order = other.order)
    (stored : ∀ hash, map.stored hash = other.stored hash) : map = other := by
  obtain ⟨_, _, _, _, _⟩ := map
  obtain ⟨_, _, _, _, _⟩ := other
  cases order
  cases funext stored
  rfl

/-- A map without a hash key is the same after it was taken out. -/
theorem erase_of_not_mem {map : OrderedMap} {hash : HashKey} (new : hash ∉ map.order) :
    map.erase hash = map := by
  refine ext (List.erase_of_not_mem new) fun other => ?_
  rw [erase_stored]
  split
  · rename_i here
    subst here
    exact (Option.not_isSome_iff_eq_none.mp fun known => new ((map.bound other).mpr known)).symm
  · rfl

/-- A hash key is listed if there is a value under it. -/
theorem get?_isSome (map : OrderedMap) (hash : HashKey) :
    (map.get? hash).isSome = true ↔ hash ∈ map.order := by
  rw [get?, Option.isSome_map, map.bound hash]

end OrderedMap

namespace DictCell

/-- The entries of a dict are those of a map, in its order. -/
structure Shows (cell : DictCell) (map : OrderedMap) : Prop where
  order : cell.entries.toList.map DictEntry.hash = map.order
  stored : ∀ entry ∈ cell.entries.toList, map.stored entry.hash = some (entry.key, entry.value)

theorem shows_empty (frozen : Bool) : Shows ⟨#[], frozen⟩ .empty :=
  ⟨rfl, nofun⟩

/-- What is found in a dict is what the map stores. -/
theorem Shows.find? {cell : DictCell} {map : OrderedMap} (shows_ : cell.Shows map)
    (hash : HashKey) :
    (cell.find? hash).map (fun entry => (entry.key, entry.value)) = map.stored hash := by
  unfold DictCell.find?
  rw [← Array.find?_toList]
  cases found : cell.entries.toList.find? fun entry => entry.hash.same hash with
  | some entry =>
    have same := List.find?_some found
    have here : entry.hash = hash := HashKey.eq_of_same same
    rw [← here, shows_.stored entry (List.mem_of_find?_eq_some found)]
    rfl
  | none =>
    cases stored : map.stored hash with
    | none => rfl
    | some entry =>
      have listed := (map.bound hash).mpr (stored ▸ rfl)
      rw [← shows_.order] at listed
      obtain ⟨other, member, here⟩ := List.mem_map.mp listed
      have missing := List.find?_eq_none.mp found other member
      exact absurd (HashKey.same_iff.mpr here) missing

/-- The value found in a dict is that of the map. -/
theorem Shows.get? {cell : DictCell} {map : OrderedMap} (shows_ : cell.Shows map)
    (hash : HashKey) : (cell.find? hash).map DictEntry.value = map.get? hash := by
  rw [OrderedMap.get?, ← shows_.find? hash, Option.map_map]
  rfl

/-- Keys and values of a dict are those of the map, in the same order. -/
theorem Shows.pairs {cell : DictCell} {map : OrderedMap} (shows_ : cell.Shows map) :
    cell.pairs = map.entries := by
  rw [DictCell.pairs, OrderedMap.entries, ← shows_.order, List.filterMap_map,
    ← List.filterMap_eq_map]
  exact List.filterMap_congr fun entry member => (shows_.stored entry member).symm

theorem Shows.keys {cell : DictCell} {map : OrderedMap} (shows_ : cell.Shows map) :
    cell.keys = map.entries.map Prod.fst := by
  rw [← shows_.pairs, DictCell.keys, DictCell.pairs, List.map_map]
  rfl

theorem Shows.values {cell : DictCell} {map : OrderedMap} (shows_ : cell.Shows map) :
    cell.values = map.entries.map Prod.snd := by
  rw [← shows_.pairs, DictCell.values, DictCell.pairs, List.map_map]
  rfl

theorem Shows.size {cell : DictCell} {map : OrderedMap} (shows_ : cell.Shows map) :
    cell.entries.size = map.order.length := by
  rw [← shows_.order, List.length_map, Array.length_toList]

/-- A dict shows one map only. -/
theorem Shows.unique {cell : DictCell} {map other : OrderedMap} (first : cell.Shows map)
    (second : cell.Shows other) : map = other :=
  OrderedMap.ext (first.order.symm.trans second.order) fun hash =>
    (first.find? hash).symm.trans (second.find? hash)

theorem position?_eq (cell : DictCell) (hash : HashKey) :
    cell.position? hash = cell.entries.toList.findIdx? fun entry => entry.hash.same hash := by
  rw [position?, ← List.findIdx?_toArray, cell.entries.toArray_toList]

theorem exists_of_position? {cell : DictCell} {hash : HashKey} {i : Nat}
    (place : cell.position? hash = some i) :
    ∃ entry, cell.entries.toList[i]? = some entry ∧ entry.hash = hash := by
  rw [position?_eq] at place
  obtain ⟨inside, same, _⟩ := List.findIdx?_eq_some_iff_getElem.mp place
  exact ⟨_, List.getElem?_eq_getElem inside, HashKey.eq_of_same same⟩

section Shows

variable {cell : DictCell} {map : OrderedMap} {hash : HashKey}

/-- A hash key has a place if it is listed. -/
theorem Shows.position?_isSome (shows_ : cell.Shows map) (hash : HashKey) :
    (cell.position? hash).isSome = true ↔ hash ∈ map.order := by
  rw [position?_eq, List.findIdx?_isSome, List.any_eq_true, ← shows_.order, List.mem_map]
  exact exists_congr fun entry => and_congr_right fun _ => HashKey.same_iff

/-- Entries of one hash key are at one place. -/
theorem Shows.place_unique (shows_ : cell.Shows map) {i j : Nat} {entry other : DictEntry}
    (first : cell.entries.toList[i]? = some entry) (second : cell.entries.toList[j]? = some other)
    (same : entry.hash = other.hash) : i = j := by
  have nodup : (cell.entries.toList.map DictEntry.hash).Nodup := shows_.order ▸ map.nodup
  refine (List.getElem?_inj ?_ nodup).mp ?_
  · rw [List.length_map]
    exact (List.getElem?_eq_some_iff.mp first).1
  · rw [List.getElem?_map, List.getElem?_map, first, second, Option.map_some, Option.map_some, same]

/-- Storing in a dict stores in the map. -/
theorem Shows.insert (shows_ : cell.Shows map) {key : Value} (hashes : key.hashKey = .ok hash)
    (value : Value) : (cell.insert hash key value).Shows (map.set hash key value hashes) := by
  have listed := shows_.position?_isSome hash
  cases place : cell.position? hash with
  | some i =>
    obtain ⟨entry, at_, here⟩ := exists_of_position? place
    have known : hash ∈ map.order := listed.mp (place ▸ rfl)
    constructor
    · have marks := congrArg (List.map Prod.snd) (marks_insert_of_known key value place)
      simp only [DictCell.marks, List.map_map] at marks
      rw [OrderedMap.set_order, if_pos known, ← shows_.order]
      exact marks
    · intro changed member
      rw [DictCell.insert, place] at member
      dsimp only at member
      rw [Array.toList_modify] at member
      obtain ⟨j, found⟩ := List.mem_iff_getElem?.mp member
      rw [List.getElem?_modify] at found
      obtain ⟨old, there, rfl⟩ := Option.map_eq_some_iff.mp found
      have stored := shows_.stored old (List.mem_of_getElem? there)
      by_cases same : i = j
      · subst same
        cases at_.symm.trans there
        subst here
        simp [stored]
      · have different : old.hash ≠ hash := fun equal =>
          same (shows_.place_unique at_ there (here.trans equal.symm))
        simp [same, different, stored]
  | none =>
    have new : hash ∉ map.order := fun known => by
      have isSome := listed.mpr known
      rw [place] at isSome
      cases isSome
    rw [DictCell.insert, place]
    dsimp only
    constructor
    · rw [Array.toList_push, List.map_append, shows_.order, OrderedMap.set_order, if_neg new]
      rfl
    · intro entry member
      rw [Array.toList_push, List.mem_append, List.mem_singleton] at member
      rcases member with old | rfl
      · have stored := shows_.stored entry old
        have different : entry.hash ≠ hash := by
          rintro rfl
          exact new ((map.bound _).mpr (stored ▸ rfl))
        simp [different, stored]
      · have missing : map.stored hash = none :=
          Option.not_isSome_iff_eq_none.mp fun known => new ((map.bound hash).mpr known)
        simp [missing]

/-- Leaving out the entry at the place of a hash key takes the hash key out of the map. -/
theorem Shows.eraseAt (shows_ : cell.Shows map) {i : Nat} (place : cell.position? hash = some i) :
    (cell.eraseAt i).Shows (map.erase hash) := by
  obtain ⟨entry, at_, here⟩ := exists_of_position? place
  constructor
  · have erased : cell.entries.toList.eraseP (fun entry => entry.hash.same hash)
        = cell.entries.toList.eraseIdx i := by
      rw [List.eraseP_eq_eraseIdx, ← position?_eq, place]
    have same : ((fun other => hash == other) ∘ DictEntry.hash)
        = fun entry => entry.hash.same hash := by
      funext entry
      rw [Function.comp, Bool.eq_iff_iff, beq_iff_eq, HashKey.same_iff, eq_comm]
    rw [DictCell.eraseAt, Array.toList_eraseIdxIfInBounds, OrderedMap.erase_order, ← shows_.order,
      List.erase_eq_eraseP, List.eraseP_map, same, erased]
  · intro other member
    rw [DictCell.eraseAt, Array.toList_eraseIdxIfInBounds,
      List.mem_eraseIdx_iff_getElem?] at member
    obtain ⟨j, elsewhere, there⟩ := member
    have different : other.hash ≠ hash := fun equal =>
      elsewhere (shows_.place_unique there at_ (equal.trans here.symm))
    rw [OrderedMap.erase_stored, if_neg different,
      shows_.stored other (List.mem_of_getElem? there)]

/-- Where a dict has no place for a hash key, its map is the same without it. -/
theorem Shows.erase_of_missing (shows_ : cell.Shows map) (missing : cell.position? hash = none) :
    map.erase hash = map :=
  map.erase_of_not_mem fun known => by
    have isSome := (shows_.position?_isSome hash).mpr known
    rw [missing] at isSome
    cases isSome

/-- The entries of a dict that shows a map are found by their keys, each by one. -/
theorem Shows.keyed (shows_ : cell.Shows map) : cell.Keyed := by
  constructor
  · intro mark member
    obtain ⟨entry, present, rfl⟩ := List.mem_map.mp member
    exact map.hashed _ _ (shows_.stored entry present)
  · have nodup : (cell.entries.toList.map DictEntry.hash).Nodup := shows_.order ▸ map.nodup
    refine List.pairwise_map.mpr ((List.pairwise_map.mp nodup).imp fun different => ?_)
    exact Bool.eq_false_iff.mpr fun same => different (HashKey.eq_of_same same)

/-- What an entry of a keyed dict is found by finds it. -/
theorem Keyed.find?_of_mem (keyed : cell.Keyed) {entry : DictEntry}
    (member : entry ∈ cell.entries.toList) : cell.find? entry.hash = some entry := by
  rw [DictCell.find?, ← Array.find?_toList]
  have different := List.pairwise_map.mp keyed.different
  revert member different
  induction cell.entries.toList with
  | nil => exact fun member => nomatch member
  | cons first rest ih =>
    intro member different
    obtain ⟨apart, differentRest⟩ := List.pairwise_cons.mp different
    rcases List.mem_cons.mp member with rfl | later
    · rw [List.find?_cons, HashKey.same_refl]
    · rw [List.find?_cons, apart entry later]
      exact ih later differentRest

/-- A dict whose entries are found by their keys, each by one, shows a map. -/
theorem Keyed.exists_shows (keyed : cell.Keyed) : ∃ map, cell.Shows map := by
  have nodup : (cell.entries.toList.map DictEntry.hash).Nodup := by
    refine List.pairwise_map.mpr ((List.pairwise_map.mp keyed.different).imp fun apart same => ?_)
    rw [HashKey.same_iff.mpr same] at apart
    cases apart
  have foundIn {hash : HashKey} {entry : DictEntry} (found : cell.find? hash = some entry) :
      entry ∈ cell.entries.toList ∧ entry.hash = hash := by
    rw [DictCell.find?, ← Array.find?_toList] at found
    have same := List.find?_some found
    exact ⟨List.mem_of_find?_eq_some found, HashKey.eq_of_same same⟩
  refine ⟨⟨cell.entries.toList.map DictEntry.hash,
    fun hash => (cell.find? hash).map fun entry => (entry.key, entry.value), nodup,
    fun hash => ?_, fun hash entry found => ?_⟩, rfl, fun entry member => ?_⟩
  · rw [Option.isSome_map, List.mem_map]
    constructor
    · rintro ⟨entry, member, rfl⟩
      rw [keyed.find?_of_mem member]
      rfl
    · intro known
      obtain ⟨entry, found⟩ := Option.isSome_iff_exists.mp known
      exact ⟨entry, foundIn found⟩
  · obtain ⟨stored, known, rfl⟩ := Option.map_eq_some_iff.mp found
    obtain ⟨member, rfl⟩ := foundIn known
    exact keyed.hashes _ (List.mem_map_of_mem member)
  · dsimp only
    rw [keyed.find?_of_mem member]
    rfl

end Shows

end DictCell

end PixelApplet
