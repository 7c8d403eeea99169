import CellGraph.Proofs.Keys.Written
import CellGraph.Text.LowerCase

/-!
# Sheets that share keys

Two sheets share the keys of their cells for one of two reasons: their names have the same word
characters, or one case folding, since the last name of a folding gives the key of all. Collisions
list the first reason only (`shared_key_iff`). Workbooks keep names apart by their small letters,
which is less than their foldings, so the second reason can occur unannounced
(`shared_key_unannounced`).
-/

namespace CellGraph

namespace SheetKeys

/-! ## Reported collisions -/

/-- Names with one key are spellings of one name. -/
def Harmonious (names : List Text) : Prop :=
  ∀ s ∈ names, ∀ t ∈ names, ofName s = ofName t → Text.foldCase s = Text.foldCase t

theorem Harmonious.append_single {names : List Text} (harmonious : Harmonious names) {name : Text}
    (fits : ∀ s ∈ names, ofName s = ofName name → Text.foldCase s = Text.foldCase name) :
    Harmonious (names ++ [name]) := by
  intro s inNames t inNames' same
  rcases List.mem_append.1 inNames with first | first <;>
    rcases List.mem_append.1 inNames' with second | second
  · exact harmonious s first t second same
  · obtain rfl := List.mem_singleton.1 second
    exact fits s first same
  · obtain rfl := List.mem_singleton.1 first
    exact (fits t second same.symm).symm
  · rw [List.mem_singleton.1 first, List.mem_singleton.1 second]

/-- One name after another is compared with the first of its key; all others agree with that. -/
theorem collisionsAfter_eq_nil {earlier names : List Text} (harmonious : Harmonious earlier) :
    collisionsAfter earlier names = [] ↔ Harmonious (earlier ++ names) := by
  induction names generalizing earlier with
  | nil => simpa [collisionsAfter] using harmonious
  | cons name names ih =>
    have whole : earlier ++ name :: names = (earlier ++ [name]) ++ names := by simp
    rw [collisionsAfter, whole]
    split
    · next first found =>
      have inEarlier := List.mem_of_find?_eq_some found
      have sameKey : ofName first = ofName name := by simpa using List.find?_some found
      split
      · next sameFold =>
        refine ih (harmonious.append_single fun s member same => ?_)
        exact (harmonious s member first inEarlier (same.trans sameKey.symm)).trans sameFold
      · next otherFold =>
        refine ⟨nofun, fun all => absurd ?_ otherFold⟩
        exact all first (by simp [inEarlier]) name (by simp) sameKey
    · next absent =>
      refine ih (harmonious.append_single fun s member same => ?_)
      exact absurd same (by simpa using List.find?_eq_none.1 absent s member)

theorem collisions_eq_nil {k : SheetKeys} : k.collisions = [] ↔ Harmonious k.names :=
  collisionsAfter_eq_nil (by simp [Harmonious])

/-! ## Keys of cells -/

variable {k : SheetKeys} {s t a b : Text}

/-- The key of a known sheet is that of a name with the same case folding. -/
theorem exists_of_find? (known : s ∈ k.names) :
    ∃ n ∈ k.names, Text.foldCase n = Text.foldCase s ∧ k.find? s = some (ofName n) := by
  obtain ⟨key, found⟩ := find?_of_mem known
  obtain ⟨n, first, rfl⟩ := Option.map_eq_some_iff.1 found
  exact ⟨n, List.mem_reverse.1 (List.mem_of_find?_eq_some first),
    by simpa using List.find?_some first, found⟩

/-- The exclamation mark divides a key, so sheet and address can be told from it. -/
theorem ofName_append_inj {m n : Text} :
    ofName m ++ a = ofName n ++ b ↔ ofName m = ofName n ∧ a = b := by
  refine ⟨fun same => ?_, fun ⟨keys, addresses⟩ => by rw [keys, addresses]⟩
  have words : ∀ name : Text, ∀ c ∈ name.filter Text.isWordChar, decide (c ≠ '!') = true := by
    intro name c member
    have word := (List.mem_filter.1 member).2
    rw [decide_eq_true_eq]
    rintro rfl
    exact absurd word (by decide)
  have cut : ∀ name u : Text, (ofName name ++ u).takeWhile (fun c => decide (c ≠ '!')) =
      name.filter Text.isWordChar := by
    intro name u
    rw [ofName, List.append_assoc]
    exact Text.takeWhile_append_stop (words name) (by simp)
  have keys : ofName m = ofName n := by rw [ofName, ofName, ← cut m a, ← cut n b, same]
  rw [keys] at same
  exact ⟨keys, List.append_cancel_left same⟩

theorem eq_of_not_several (single : k.several = false) (inNames : s ∈ k.names)
    (inNames' : t ∈ k.names) : s = t := by
  have few : k.names.length ≤ 1 := by simpa [several] using single
  match names : k.names with
  | [] => simp [names] at inNames
  | [n] =>
    rw [names, List.mem_singleton] at inNames inNames'
    exact inNames.trans inNames'.symm
  | _ :: _ :: _ => simp [names] at few

/-- Two cells have one key exactly if they have one address and their sheets one key. -/
theorem keyAt_inj (inNames : s ∈ k.names) (inNames' : t ∈ k.names) :
    k.keyAt a s = k.keyAt b t ↔ k.find? s = k.find? t ∧ a = b := by
  cases several : k.several with
  | false =>
    obtain rfl := eq_of_not_several several inNames inNames'
    simp [keyAt, several]
  | true =>
    obtain ⟨m, -, -, first⟩ := exists_of_find? inNames
    obtain ⟨n, -, -, second⟩ := exists_of_find? inNames'
    simp [keyAt, several, first, second, ofName_append_inj]

/-- Two sheets have one key exactly if the keys of two sheets clash or their foldings are equal. -/
theorem shared_find?_iff :
    (∃ s ∈ k.names, ∃ t ∈ k.names, s ≠ t ∧ k.find? s = k.find? t) ↔
      ¬ Harmonious k.names ∨
        ∃ s ∈ k.names, ∃ t ∈ k.names, s ≠ t ∧ Text.foldCase s = Text.foldCase t := by
  constructor
  · rintro ⟨s, inNames, t, inNames', other, same⟩
    by_cases fold : Text.foldCase s = Text.foldCase t
    · exact .inr ⟨s, inNames, t, inNames', other, fold⟩
    · obtain ⟨m, known, foldM, first⟩ := exists_of_find? inNames
      obtain ⟨n, known', foldN, second⟩ := exists_of_find? inNames'
      have oneKey : ofName m = ofName n := Option.some.inj (first.symm.trans (same.trans second))
      refine .inl fun harmonious => fold ?_
      rw [← foldM, ← foldN]
      exact harmonious m known n known' oneKey
  · rintro (clash | ⟨s, inNames, t, inNames', other, fold⟩)
    · simp only [Harmonious, not_forall] at clash
      obtain ⟨s, inNames, t, inNames', sameKey, otherFold⟩ := clash
      obtain ⟨m, known, foldM, first⟩ := exists_of_find? inNames
      obtain ⟨n, known', foldN, second⟩ := exists_of_find? inNames'
      -- a sheet whose key is that of another name shares it with that name
      by_cases own : m = s
      · by_cases own' : n = t
        · subst own own'
          refine ⟨m, inNames, n, inNames', ?_, by rw [first, second, sameKey]⟩
          rintro rfl
          exact otherFold rfl
        · exact ⟨n, known', t, inNames', own', find?_congr k foldN⟩
      · exact ⟨m, known, s, inNames, own, find?_congr k foldM⟩
    · exact ⟨s, inNames, t, inNames', other, find?_congr k fold⟩

/-- What is written for the place of a cell: letters, then digits. -/
def IsCoordinate (address : Text) : Prop :=
  ∃ column row, address = column ++ row ∧ column ≠ [] ∧ row ≠ [] ∧
    (∀ c ∈ column, c.isAlpha) ∧ ∀ c ∈ row, c.isDigit

theorem isCoordinate_first : IsCoordinate "A1" :=
  ⟨['A'], ['1'], rfl, by simp, by simp, List.all_eq_true.1 rfl, List.all_eq_true.1 rfl⟩

/-- Two different cells on the sheets of a workbook have one key exactly if a collision is listed
or two of the sheets have names with one case folding. -/
theorem shared_key_iff (k : SheetKeys) :
    (∃ s ∈ k.names, ∃ t ∈ k.names, ∃ a b, IsCoordinate a ∧ IsCoordinate b ∧ (s, a) ≠ (t, b) ∧
      k.keyAt a s = k.keyAt b t) ↔
    k.collisions ≠ [] ∨
      ∃ s ∈ k.names, ∃ t ∈ k.names, s ≠ t ∧ Text.foldCase s = Text.foldCase t := by
  rw [Ne, collisions_eq_nil, ← shared_find?_iff]
  constructor
  · rintro ⟨s, inNames, t, inNames', a, b, -, -, differ, same⟩
    obtain ⟨found, rfl⟩ := (keyAt_inj inNames inNames').1 same
    refine ⟨s, inNames, t, inNames', ?_, found⟩
    rintro rfl
    exact differ rfl
  · rintro ⟨s, inNames, t, inNames', other, found⟩
    refine ⟨s, inNames, t, inNames', "A1", "A1", isCoordinate_first, isCoordinate_first, ?_,
      (keyAt_inj inNames inNames').2 ⟨found, rfl⟩⟩
    exact fun same => other (congrArg Prod.fst same)

/-- Names that differ in small letters and have one case folding: the cells of the two sheets share
their keys, and no collision is listed. -/
theorem shared_key_unannounced :
    (["Straße", "STRASSE"].map fun name : String => Text.lowerCase name).Nodup ∧
      (⟨["Straße", "STRASSE"]⟩ : SheetKeys).collisions = [] ∧
      (⟨["Straße", "STRASSE"]⟩ : SheetKeys).keyAt "A1" "Straße" =
        (⟨["Straße", "STRASSE"]⟩ : SheetKeys).keyAt "A1" "STRASSE" := by
  decide +kernel

end SheetKeys
end CellGraph
