import Mathlib.Order.Bounds.Basic
import PixelApplet.Library.TextMethods
import PixelApplet.Library.Universe
import PixelApplet.Proofs.Text.Splitting
import PixelApplet.Proofs.Value.IntegerArithmetic
import PixelApplet.Proofs.Value.Slices

/-!
# Searching texts and slicing them

Where `find` finds a piece, the slice of the piece's length is equal to the piece, and at no earlier
place; where `rfind` finds it, at no later place.  Both give -1 exactly if no slice at any place of
the text is equal to the piece, and then `index` fails and `in` is false.

Places count characters and are machine words, so the lengths of texts must be words.  The end of a
slice need not be one, but where it is not the piece does not stand.
-/

/-! ## Places of a piece in a text

A piece stands at a place of a text if the text goes on with the piece from there.  Searching from
the left finds the least place, searching from the right the greatest one: the mirror image of the
last place is the first one in the mirror image of the text.
-/

namespace PixelApplet.Text

variable {piece text before behind : List Char} {k : Nat}

/-- The places of a piece in a text, among those up to the end of the text. -/
def places (piece text : List Char) : Set Nat :=
  {k | k ≤ text.length ∧ (text.drop k).take piece.length = piece}

theorem mem_places : k ∈ places piece text ↔
    ∃ before behind, text = before ++ piece ++ behind ∧ before.length = k := by
  constructor
  · rintro ⟨inside, same⟩
    refine ⟨text.take k, (text.drop k).drop piece.length, ?_, by simp [inside]⟩
    calc
      text = text.take k ++ text.drop k := (List.take_append_drop k text).symm
      _ = text.take k ++ ((text.drop k).take piece.length ++ (text.drop k).drop piece.length) := by
        rw [List.take_append_drop piece.length]
      _ = text.take k ++ piece ++ (text.drop k).drop piece.length := by
        rw [same, List.append_assoc]
  · rintro ⟨before, behind, rfl, rfl⟩
    simp [places]

/-- A piece that stands at a place ends inside the text. -/
theorem add_length_le_of_mem_places (inside : k ∈ places piece text) :
    k + piece.length ≤ text.length := by
  obtain ⟨before, behind, rfl, rfl⟩ := mem_places.mp inside
  simp

theorem places_nonempty_iff : (places piece text).Nonempty ↔ piece <:+: text := by
  constructor
  · rintro ⟨k, inside⟩
    obtain ⟨before, behind, whole, -⟩ := mem_places.mp inside
    exact ⟨before, behind, whole.symm⟩
  · rintro ⟨before, behind, whole⟩
    exact ⟨before.length, mem_places.mpr ⟨before, behind, whole.symm, rfl⟩⟩

theorem IsFirstCut.isLeast (cut : IsFirstCut piece text before behind) :
    IsLeast (places piece text) before.length := by
  constructor
  · exact mem_places.mpr ⟨before, behind, cut.whole, rfl⟩
  · intro k inside
    obtain ⟨shorter, rest, whole, rfl⟩ := mem_places.mp inside
    exact cut.first shorter rest whole

/-- The first cut of the mirror image is at the last place. -/
theorem IsFirstCut.isGreatest (cut : IsFirstCut piece.reverse text.reverse before behind) :
    IsGreatest (places piece text) behind.length := by
  have whole : text = behind.reverse ++ piece ++ before.reverse := by
    rw [← text.reverse_reverse, cut.whole]
    simp
  constructor
  · exact mem_places.mpr ⟨behind.reverse, before.reverse, whole, List.length_reverse⟩
  · intro k inside
    obtain ⟨front, rest, whole', rfl⟩ := mem_places.mp inside
    have mirrored : text.reverse = rest.reverse ++ piece.reverse ++ front.reverse := by
      rw [whole']
      simp
    have earlier := cut.first _ _ mirrored
    have lengths := congrArg List.length (whole.symm.trans whole')
    simp only [List.length_append, List.length_reverse] at earlier lengths
    omega

theorem isLeast_of_find? (found : find? piece text = some k) : IsLeast (places piece text) k := by
  obtain ⟨⟨before, behind⟩, cut, rfl⟩ := Option.map_eq_some_iff.mp found
  exact (cutFirst?_eq_some_iff.mp cut).isLeast

theorem isGreatest_of_findLast? (found : findLast? piece text = some k) :
    IsGreatest (places piece text) k := by
  obtain ⟨last, mirrored, rfl⟩ := Option.map_eq_some_iff.mp found
  obtain ⟨⟨before, behind⟩, cut, rfl⟩ := Option.map_eq_some_iff.mp mirrored
  simpa using (cutFirst?_eq_some_iff.mp cut).isGreatest

theorem find?_eq_none_iff : find? piece text = none ↔ places piece text = ∅ := by
  rw [find?, Option.map_eq_none_iff, cutFirst?_eq_none_iff, ← places_nonempty_iff,
    Set.not_nonempty_iff_eq_empty]

theorem findLast?_eq_none_iff : findLast? piece text = none ↔ places piece text = ∅ := by
  rw [findLast?, cutLast?, Option.map_eq_none_iff, Option.map_eq_none_iff, cutFirst?_eq_none_iff,
    List.reverse_infix, ← places_nonempty_iff, Set.not_nonempty_iff_eq_empty]

end PixelApplet.Text

namespace PixelApplet

/-! ## Slices in steps of one -/

namespace Value

variable {α : Type} {first count : Nat}

/-- Picking successive elements takes them behind those before them. -/
theorem pick_successive (items : List α) :
    pick items.toArray ((List.range count).map (first + ·)) = (items.drop first).take count := by
  induction count with
  | zero => rfl
  | succ count ih =>
    have last : pick items.toArray [first + count] = (items.drop first)[count]?.toList := by
      cases here : items[first + count]? <;> simp [pick, here]
    rw [List.range_succ, List.map_append, pick, List.filterMap_append, List.take_add_one, ← ih,
      ← last]
    rfl

/-- Places from one inside a sequence on, up to a later one, even if the sequence ends before. -/
theorem slicePlaces_of_inside {length start width : Nat} (inside : start ≤ length) :
    slicePlaces length (some start) (some (start + width)) 1
      = (List.range (min length (start + width) - start)).map (start + ·) := by
  have begins : clampBound length 0 length start = start := by
    unfold clampBound
    split <;> omega
  have ends : clampBound length 0 length (start + width) = (min length (start + width) : Nat) := by
    unfold clampBound
    split <;> omega
  have count : (((min length (start + width) : Nat) : Int) - start + 1 - Int.sign 1).fdiv 1
      = ((min length (start + width) : Nat) : Int) - start := by
    simp
  simp only [slicePlaces, Option.map_some, Option.getD_some, begins, ends, steppedPlaces]
  rw [if_pos (by decide), count]
  have many : (((min length (start + width) : Nat) : Int) - start).toNat
      = min length (start + width) - start := by omega
  rw [many]
  apply List.map_congr_left
  intro k _
  omega

/-- A slice of a text from a place inside it is made of the next characters, as many as there are.
-/
theorem slice_text {text : String} {first stop : Int64} {start width : Nat}
    (begins : first.toInt = start) (ends : stop.toInt = start + width)
    (inside : start ≤ text.length) (h : Heap) :
    (str text).slice h (some (int first)) (some (int stop)) Option.none
      = .ok (.value (.str (String.ofList ((text.toList.drop start).take width)))) := by
  have picked : pick text.toList.toArray
      (slicePlaces text.toList.length (some first.toInt) (some stop.toInt) 1)
        = (text.toList.drop start).take width := by
    rw [begins, ends, String.length_toList, slicePlaces_of_inside inside, pick_successive,
      List.take_eq_take_iff, List.length_drop, String.length_toList]
    omega
  rw [slice_of_bounds (.int _) (.int _) .absent nofun, ← picked]
  rfl

end Value

namespace TextMethods

variable {text piece : String} {place : Int64} {m : Machine}

/-- Whether a text goes on with a piece from a place on, as scripts ask it:
`text[place:place + len(piece)] == piece`. -/
def goesOn (text piece : String) (place : Int64) : Eval Value := do
  let width ← Universe.length (.str piece)
  let stop ← Eval.produce fun h => Value.binary h .add (.int place) width
  let part ← Eval.sliced (.str text) (some (.int place)) (some stop) none
  Eval.produce fun h => Value.binary h .eq part (.str piece)

/-- The places of a text, its end among them, from which it goes on with a piece. -/
def placesOf (m : Machine) (text piece : String) : Set Int64 :=
  {place | 0 ≤ place ∧ place.toInt ≤ text.length ∧ goesOn text piece place m = .ok (.bool true) m}

theorem ofNat_toInt (natural : 0 ≤ place) : Int64.ofNat place.toInt.toNat = place := by
  have natural : 0 ≤ place.toInt := Int64.le_iff_toInt_le.mp natural
  rw [← Int64.ofInt_eq_ofNat, Int.toNat_of_nonneg natural, Int64.ofInt_toInt]

theorem toInt_ofNat {n length : Nat} (fits : Word.Fits length) (small : n ≤ length) :
    (Int64.ofNat n).toInt = n := by
  rw [← Int64.ofInt_eq_ofNat]
  apply Word.toInt_ofInt
  unfold Word.Fits Word.least Word.greatest at *
  omega

theorem ofNat_le_ofNat (fits : Word.Fits text.length) {j k : Nat}
    (found : j ∈ Text.places piece.toList text.toList)
    (found' : k ∈ Text.places piece.toList text.toList) (le : j ≤ k) :
    Int64.ofNat j ≤ Int64.ofNat k := by
  have inside : j ≤ text.length := String.length_toList ▸ found.1
  have inside' : k ≤ text.length := String.length_toList ▸ found'.1
  rw [Int64.le_iff_toInt_le, toInt_ofNat fits inside, toInt_ofNat fits inside']
  exact Int.ofNat_le.mpr le

section Places

variable (fits : Word.Fits text.length) (fitsPiece : Word.Fits piece.length)

include fits fitsPiece

/-- Asking whether a text goes on with a piece is answered by the characters behind the place, if
the end of the slice is a word. -/
theorem goesOn_run {k : Nat} (inside : k ≤ text.length) (m : Machine) :
    goesOn text piece (Int64.ofNat k) m
      = if Word.Fits (k + piece.length) then
          .ok (.bool (String.ofList ((text.toList.drop k).take piece.length) == piece)) m
        else Eval.fail "integer overflow" m := by
  have start : (Int64.ofNat k).toInt = k := toInt_ofNat fits inside
  have width : (Int64.ofNat piece.length).toInt = piece.length := toInt_ofNat fitsPiece le_rfl
  have sum : Eval.MakesExactly ((Int64.ofNat k).toInt + (Int64.ofNat piece.length).toInt)
      (Eval.operateInts .add (Int64.ofNat k) (Int64.ofNat piece.length)) :=
    Eval.operateInts_of_exact fun _ => rfl
  rw [start, width] at sum
  rcases sum m with ⟨stop, ends, added⟩ | ⟨beyond, refused⟩
  · have word : Word.Fits (k + piece.length) := by
      rw [← ends]
      exact Word.fits_toInt stop
    have part : Eval.sliced (.str text) (some (.int (Int64.ofNat k))) (some (.int stop)) none m
        = .ok (.str (String.ofList ((text.toList.drop k).take piece.length))) m :=
      Eval.produce_value (Value.slice_text start ends inside m.heap)
    rw [if_pos word]
    calc
      goesOn text piece (Int64.ofNat k) m
        = Eval.produce (fun h => Value.binary h .eq
            (.str (String.ofList ((text.toList.drop k).take piece.length))) (.str piece)) m :=
          (Eval.bind_ok rfl).trans ((Eval.bind_ok added).trans (Eval.bind_ok part))
      _ = _ := by
          apply Eval.produce_value
          rw [Value.binary, Value.equal, Value.equalTo, Value.equalWith]
  · rw [if_neg beyond]
    exact (Eval.bind_ok rfl).trans (Eval.bind_error refused)

theorem goesOn_answers (place : Int64) (natural : 0 ≤ place) (inside : place.toInt ≤ text.length)
    (word : Word.Fits (place.toInt + piece.length)) :
    ∃ goes, goesOn text piece place m = .ok (.bool goes) m := by
  have natural' : 0 ≤ place.toInt := Int64.le_iff_toInt_le.mp natural
  have asked := goesOn_run (k := place.toInt.toNat) fits fitsPiece (by omega) m
  rw [ofNat_toInt natural, Int.toNat_of_nonneg natural', if_pos word] at asked
  exact ⟨_, asked⟩

/-- The places of which scripts can ask are those of the characters: where the piece stands, its end
is a place of the text and thus a word. -/
theorem mem_placesOf : place ∈ placesOf m text piece ↔
    ∃ k ∈ Text.places piece.toList text.toList, place = Int64.ofNat k := by
  constructor
  · rintro ⟨natural, inside, goes⟩
    have inside : place.toInt.toNat ≤ text.length := by omega
    rw [← ofNat_toInt natural, goesOn_run fits fitsPiece inside] at goes
    split at goes
    · have same : (text.toList.drop place.toInt.toNat).take piece.toList.length = piece.toList := by
        rw [String.length_toList]
        simpa [← String.toList_inj] using goes
      exact ⟨_, ⟨String.length_toList ▸ inside, same⟩, (ofNat_toInt natural).symm⟩
    · cases goes
  · rintro ⟨k, found, rfl⟩
    have inside : k ≤ text.length := String.length_toList ▸ found.1
    have start : (Int64.ofNat k).toInt = k := toInt_ofNat fits inside
    have room : k + piece.length ≤ text.length := Text.add_length_le_of_mem_places found
    have word : Word.Fits (k + piece.length) := by
      unfold Word.Fits Word.least Word.greatest at *
      omega
    refine ⟨?_, by omega, ?_⟩
    · rw [Int64.le_iff_toInt_le, start]
      exact Int.natCast_nonneg k
    · rw [goesOn_run fits fitsPiece inside, if_pos word, ← String.length_toList, found.2]
      simp

theorem placesOf_eq_empty_iff :
    placesOf m text piece = ∅ ↔ Text.places piece.toList text.toList = ∅ := by
  simp only [Set.eq_empty_iff_forall_notMem, mem_placesOf fits fitsPiece]
  constructor
  · intro none_ k inside
    exact none_ _ ⟨k, inside, rfl⟩
  · rintro none_ place ⟨k, inside, rfl⟩
    exact none_ k inside

theorem isLeast_placesOf {k : Nat} (least : IsLeast (Text.places piece.toList text.toList) k) :
    IsLeast (placesOf m text piece) (Int64.ofNat k) := by
  constructor
  · exact (mem_placesOf fits fitsPiece).mpr ⟨k, least.1, rfl⟩
  · intro place inside
    obtain ⟨j, found, rfl⟩ := (mem_placesOf fits fitsPiece).mp inside
    exact ofNat_le_ofNat fits least.1 found (least.2 found)

theorem isGreatest_placesOf {k : Nat}
    (greatest : IsGreatest (Text.places piece.toList text.toList) k) :
    IsGreatest (placesOf m text piece) (Int64.ofNat k) := by
  constructor
  · exact (mem_placesOf fits fitsPiece).mpr ⟨k, greatest.1, rfl⟩
  · intro place inside
    obtain ⟨j, found, rfl⟩ := (mem_placesOf fits fitsPiece).mp inside
    exact ofNat_le_ofNat fits found greatest.1 (greatest.2 found)

end Places

/-! ## Answers -/

/-- What searching a text for a piece answers from the left and from the right, and what these
answers are. -/
structure Searches (m : Machine) (text piece : String) (first last : Int64) : Prop where
  find : run .find text (.ofList [.str piece]) m = .ok (.int first) m
  rfind : run .rfind text (.ofList [.str piece]) m = .ok (.int last) m
  /-- Whether the text goes on with the piece is answered where the end of the slice is a word. -/
  answers : ∀ place : Int64, 0 ≤ place → place.toInt ≤ text.length →
    Word.Fits (place.toInt + piece.length) →
    ∃ goes, goesOn text piece place m = .ok (.bool goes) m
  least : first ≠ -1 → IsLeast (placesOf m text piece) first
  greatest : last ≠ -1 → IsGreatest (placesOf m text piece) last
  first_eq : first = -1 ↔ placesOf m text piece = ∅
  last_eq : last = -1 ↔ placesOf m text piece = ∅
  /-- Asking for the index answers the first place, or fails. -/
  index : run .index text (.ofList [.str piece]) m
    = if first = -1 then Eval.fail "index: substring not found" m else .ok (.int first) m
  /-- The piece is in the text exactly if it is found. -/
  in_ : Eval.produce (fun h => Value.binary h .in_ (.str piece) (.str text)) m
    = .ok (.bool (first ≠ -1)) m

/-- The answer of a search that found something is not the one of a search that did not. -/
theorem ofNat_ne_minusOne (fits : Word.Fits text.length) {k : Nat}
    (found : k ∈ Text.places piece.toList text.toList) : Int64.ofNat k ≠ -1 := by
  intro same
  have inside : k ≤ text.length := String.length_toList ▸ found.1
  have exactly_ : (Int64.ofNat k).toInt = k := toInt_ofNat fits inside
  have minus : (-1 : Int64).toInt = -1 := by decide
  rw [same, minus] at exactly_
  omega

theorem run_index (m : Machine) : run .index text (.ofList [.str piece]) m
    = match Text.find? piece.toList text.toList with
      | some k => .ok (.int (Int64.ofNat k)) m
      | none => Eval.fail "index: substring not found" m := by
  have ran : run .index text (.ofList [.str piece]) m
      = (match Text.find? piece.toList text.toList with
        | some k => pure (.int (Int64.ofNat k))
        | none => Eval.fail "index: substring not found" : Eval Value) m := rfl
  rw [ran]
  cases Text.find? piece.toList text.toList <;> rfl

theorem in_run (m : Machine) :
    Eval.produce (fun h => Value.binary h .in_ (.str piece) (.str text)) m
      = .ok (.bool (Text.find? piece.toList text.toList).isSome) m := by
  apply Eval.produce_value
  rw [Text.find?, Option.isSome_map]
  rfl

theorem searches_of_empty (fits : Word.Fits text.length) (fitsPiece : Word.Fits piece.length)
    (nowhere : Text.places piece.toList text.toList = ∅) : Searches m text piece (-1) (-1) := by
  have found := Text.find?_eq_none_iff.mpr nowhere
  have foundLast := Text.findLast?_eq_none_iff.mpr nowhere
  have none_ : placesOf m text piece = ∅ := (placesOf_eq_empty_iff fits fitsPiece).mpr nowhere
  constructor
  case find => exact congrArg (EStateM.Result.ok · m) (congrArg positionOrMinusOne found)
  case rfind => exact congrArg (EStateM.Result.ok · m) (congrArg positionOrMinusOne foundLast)
  case answers => exact goesOn_answers fits fitsPiece
  case index => rw [run_index, found, if_pos rfl]
  case in_ => rw [in_run, found]; rfl
  all_goals simp [none_]

theorem searches_of_found (fits : Word.Fits text.length) (fitsPiece : Word.Fits piece.length)
    {j k : Nat}
    (found : Text.find? piece.toList text.toList = some j)
    (foundLast : Text.findLast? piece.toList text.toList = some k) :
    Searches m text piece (Int64.ofNat j) (Int64.ofNat k) := by
  have least := Text.isLeast_of_find? found
  have greatest := Text.isGreatest_of_findLast? foundLast
  have first := ofNat_ne_minusOne fits least.1
  have last := ofNat_ne_minusOne fits greatest.1
  have somewhere : placesOf m text piece ≠ ∅ :=
    Set.nonempty_iff_ne_empty.mp ⟨_, (isLeast_placesOf fits fitsPiece least).1⟩
  constructor
  case find => exact congrArg (EStateM.Result.ok · m) (congrArg positionOrMinusOne found)
  case rfind => exact congrArg (EStateM.Result.ok · m) (congrArg positionOrMinusOne foundLast)
  case answers => exact goesOn_answers fits fitsPiece
  case least => exact fun _ => isLeast_placesOf fits fitsPiece least
  case greatest => exact fun _ => isGreatest_placesOf fits fitsPiece greatest
  case index => rw [run_index, found, if_neg first]
  case in_ => rw [in_run, found, decide_eq_true first]; rfl
  all_goals simp [first, last, somewhere]

/-- Searching finds the first and the last place at which a slice of the text is equal to the piece,
for all texts and pieces whose lengths are machine words. -/
theorem searching_agrees_with_slicing (fits : Word.Fits text.length)
    (fitsPiece : Word.Fits piece.length) (m : Machine) :
    ∃ first last, Searches m text piece first last := by
  cases found : Text.find? piece.toList text.toList with
  | none => exact ⟨-1, -1, searches_of_empty fits fitsPiece (Text.find?_eq_none_iff.mp found)⟩
  | some j =>
    obtain ⟨k, foundLast⟩ : ∃ k, Text.findLast? piece.toList text.toList = some k := by
      apply Option.ne_none_iff_exists'.mp
      intro none_
      rw [Text.findLast?_eq_none_iff, ← Text.find?_eq_none_iff, found] at none_
      cases none_
    exact ⟨Int64.ofNat j, Int64.ofNat k, searches_of_found fits fitsPiece found foundLast⟩

/-- Two occurrences that overlap, behind a character of two bytes. -/
theorem searches_overlapping : Word.Fits "éaaa".length ∧ Word.Fits "aa".length
    ∧ Searches (.initial (.under [])) "éaaa" "aa" 1 2 := by
  have fits : Word.Fits "éaaa".length := by decide
  have fitsPiece : Word.Fits "aa".length := by decide
  obtain ⟨first, last, searches⟩ :=
    searching_agrees_with_slicing fits fitsPiece (.initial (.under []))
  have find : run .find "éaaa" (.ofList [.str "aa"]) (.initial (.under []))
      = .ok (.int 1) (.initial (.under [])) := rfl
  have rfind : run .rfind "éaaa" (.ofList [.str "aa"]) (.initial (.under []))
      = .ok (.int 2) (.initial (.under [])) := rfl
  rw [searches.find] at find
  rw [searches.rfind] at rfind
  cases find
  cases rfind
  exact ⟨fits, fitsPiece, searches⟩

end TextMethods

end PixelApplet
