import CellGraph.Proofs.Text.Parts
import CellGraph.Text.Path

/-!
# Paths and their names

A path is told by whether it starts at the root and by its names, so a path in plain form leads
where it did (`resolve_plain`). What is left after steps to parent folders are undone stays as it
is, so the folder of a file is found again one step up from it (`resolve_parent`).
-/

namespace CellGraph.Path

/-! ## Names -/

/-- What may stand between slashes, if it means no folder by itself. -/
structure IsName (n : Text) : Prop where
  ne_nil : n ≠ []
  ne_here : n ≠ ['.']
  noSlash : '/' ∉ n

variable {n path folder current : Text} {absolute : Bool} {before steps : List Text}

theorem isName_of_mem_components (member : n ∈ components path) : IsName n := by
  obtain ⟨part, proper⟩ := List.mem_filter.1 member
  simp only [Bool.and_eq_true, decide_eq_true_eq] at proper
  exact ⟨proper.1, proper.2, Text.not_mem_of_mem_split part⟩

theorem IsName.components_eq (isName : IsName n) : components n = [n] := by
  rw [components, Text.split_of_not_mem isName.noSlash]
  simp [isName.ne_nil, isName.ne_here]

theorem IsName.isAbsolute_eq (isName : IsName n) : isAbsolute n = false := by
  cases n with
  | nil => rfl
  | cons c n =>
    have other : c ≠ '/' := fun same => isName.noSlash (same ▸ List.mem_cons_self)
    simp [isAbsolute, other]

theorem components_append (path below : Text) :
    components (path ++ '/' :: below) = components path ++ components below := by
  simp [components, Text.split_append_separator]

theorem components_join (proper : ∀ n ∈ steps, IsName n) :
    components (Text.join ['/'] steps) = steps := by
  induction steps with
  | nil => rfl
  | cons n steps ih =>
    obtain ⟨first, others⟩ := List.forall_mem_cons.1 proper
    cases steps with
    | nil => exact (congrArg components (List.append_nil n)).trans first.components_eq
    | cons m steps =>
      have cut : Text.join ['/'] (n :: m :: steps) = n ++ '/' :: Text.join ['/'] (m :: steps) := by
        simp [Text.join]
      rw [cut, components_append, first.components_eq, ih others]
      rfl

theorem components_ofComponents (absolute : Bool) (proper : ∀ n ∈ steps, IsName n) :
    components (ofComponents absolute steps) = steps := by
  unfold ofComponents
  split
  · exact (components_append [] _).trans (components_join proper)
  · split
    · next none => rw [none]; rfl
    · exact components_join proper

theorem isAbsolute_ofComponents (absolute : Bool) (proper : ∀ n ∈ steps, IsName n) :
    isAbsolute (ofComponents absolute steps) = absolute := by
  cases absolute with
  | true => rfl
  | false =>
    cases steps with
    | nil => rfl
    | cons n steps =>
      have first := (List.forall_mem_cons.1 proper).1
      obtain ⟨c, t, rfl⟩ := List.exists_cons_of_ne_nil first.ne_nil
      have other := first.isAbsolute_eq
      cases steps <;> simpa [ofComponents, Text.join, isAbsolute] using other

theorem components_plain (path : Text) : components (plain path) = components path :=
  components_ofComponents _ fun _ => isName_of_mem_components

theorem isAbsolute_plain (path : Text) : isAbsolute (plain path) = isAbsolute path :=
  isAbsolute_ofComponents _ fun _ => isName_of_mem_components

/-! ## Paths as seen from a folder -/

theorem isAbsolute_within (folder path : Text) :
    isAbsolute (within folder path) = (isAbsolute path || isAbsolute folder) := by
  by_cases rooted : isAbsolute path
  · simp [within, rooted]
  · cases folder with
    | nil => simp [within, isAbsolute]
    | cons c folder =>
      have below : within (c :: folder) path = c :: (folder ++ '/' :: path) := by
        simp [within, rooted]
      rw [below, Bool.eq_false_iff.2 rooted, Bool.false_or]
      rfl

theorem components_within (folder path : Text) :
    components (within folder path) =
      if isAbsolute path then components path else components folder ++ components path := by
  by_cases rooted : isAbsolute path
  · simp [within, rooted]
  · cases folder with
    | nil => simp [within, rooted, components, Text.split]
    | cons c folder => simp [within, rooted, ← components_append]

/-- The plain form of a path leads where the path does. -/
theorem resolve_plain (folder path : Text) : resolve folder (plain path) = resolve folder path := by
  simp only [resolve, isAbsolute_within, components_within, isAbsolute_plain, components_plain]

/-! ## Steps to parent folders -/

theorem withoutParents_cons (absolute : Bool) (before : List Text) (n : Text) (steps : List Text) :
    withoutParents absolute before (n :: steps) =
      if n = ".." then
        match before with
        | [] => withoutParents absolute (if absolute then [] else [n]) steps
        | last :: others =>
          if last = ".." then withoutParents absolute (n :: before) steps
          else withoutParents absolute others steps
      else withoutParents absolute (n :: before) steps := by
  cases before <;> rfl

theorem withoutParents_append (absolute : Bool) (before steps later : List Text) :
    withoutParents absolute before (steps ++ later) =
      withoutParents absolute (withoutParents absolute before steps).reverse later := by
  induction steps generalizing before with
  | nil => simp [withoutParents]
  | cons n steps ih =>
    rw [List.cons_append, withoutParents_cons, withoutParents_cons]
    split
    · cases before with
      | nil => exact ih _
      | cons last others =>
        dsimp only
        split <;> exact ih _
    · exact ih _

theorem withoutParents_name (forward : n ≠ "..") (before : List Text) :
    withoutParents absolute before [n] = before.reverse ++ [n] := by
  rw [withoutParents_cons, if_neg forward, withoutParents, List.reverse_cons]

/-- A step up undoes the name before it. -/
theorem withoutParents_up (forward : n ≠ "..") (before : List Text) :
    withoutParents absolute before [n, ".."] = before.reverse := by
  rw [withoutParents_cons, if_neg forward, withoutParents_cons, if_pos rfl]
  exact (if_neg forward).trans rfl

theorem mem_of_mem_withoutParents (member : n ∈ withoutParents absolute before steps) :
    n ∈ before ∨ n ∈ steps := by
  induction steps generalizing before with
  | nil => exact .inl (List.mem_reverse.1 member)
  | cons m steps ih =>
    have forward (kept : n ∈ withoutParents absolute (m :: before) steps) :
        n ∈ before ∨ n ∈ m :: steps := by
      rcases ih kept with first | later
      · rcases List.mem_cons.1 first with rfl | old
        · exact .inr List.mem_cons_self
        · exact .inl old
      · exact .inr (List.mem_cons_of_mem _ later)
    rw [withoutParents_cons] at member
    split at member
    · cases before with
      | nil =>
        cases absolute with
        | true => exact .inr (List.mem_cons_of_mem _ ((ih member).resolve_left List.not_mem_nil))
        | false => exact forward member
      | cons last others =>
        dsimp only at member
        split at member
        · exact forward member
        · exact (ih member).imp (List.mem_cons_of_mem _) (List.mem_cons_of_mem _)
    · exact forward member

/-- Whether all steps to parent folders are undone that can be. -/
def Settled (absolute : Bool) (steps : List Text) : Prop :=
  withoutParents absolute [] steps = steps

/-- One more name keeps a path settled, unless it is a step that can be undone. -/
theorem Settled.push (settled : Settled absolute before.reverse)
    (kept : withoutParents absolute before [n] = before.reverse ++ [n]) :
    Settled absolute (n :: before).reverse := by
  rw [Settled, List.reverse_cons, withoutParents_append, settled, List.reverse_reverse, kept]

/-- A folder above a settled one is settled. -/
theorem Settled.pop {last : Text} (settled : Settled absolute (last :: before).reverse)
    (forward : last ≠ "..") : Settled absolute before.reverse := by
  rw [Settled, List.reverse_cons, withoutParents_append, withoutParents_name forward,
    List.reverse_reverse] at settled
  exact List.append_cancel_right settled

theorem settled_withoutParents (settled : Settled absolute before.reverse) (steps : List Text) :
    Settled absolute (withoutParents absolute before steps) := by
  induction steps generalizing before with
  | nil => exact settled
  | cons n steps ih =>
    rw [withoutParents_cons]
    split
    · next up =>
      cases before with
      | nil =>
        cases absolute with
        | true => exact ih settled
        | false => exact ih (settled.push (by simp [withoutParents, up]))
      | cons last others =>
        dsimp only
        split
        · next above => exact ih (settled.push (by simp [withoutParents, up, above]))
        · next forward => exact ih (settled.pop forward)
    · next forward => exact ih (settled.push (withoutParents_name forward _))

/-! ## Files in a folder -/

/-- What leads to a folder, seen from another. -/
def names (current folder : Text) : List Text :=
  withoutParents (isAbsolute (within current folder)) [] (components (within current folder))

theorem isName_of_mem_names {current : Text} (member : n ∈ names current folder) : IsName n :=
  isName_of_mem_components ((mem_of_mem_withoutParents member).resolve_left List.not_mem_nil)

theorem components_resolve (current folder : Text) :
    components (resolve current folder) = names current folder :=
  components_ofComponents _ fun _ => isName_of_mem_names

theorem isAbsolute_resolve (current folder : Text) :
    isAbsolute (resolve current folder) = isAbsolute (within current folder) :=
  isAbsolute_ofComponents _ fun _ => isName_of_mem_names

/-- A file name that does not lead out of its folder. -/
structure IsFileName (n : Text) : Prop extends IsName n where
  forward : n ≠ ".."

theorem isAbsolute_file (isFile : IsFileName n) (current folder : Text) :
    isAbsolute (within current (within folder n)) = isAbsolute (within current folder) := by
  simp only [isAbsolute_within, isFile.isAbsolute_eq, Bool.false_or]

theorem components_file (isFile : IsFileName n) (current folder : Text) :
    components (within current (within folder n)) = components (within current folder) ++ [n] := by
  simp only [components_within, isAbsolute_within, isFile.isAbsolute_eq, isFile.components_eq]
  by_cases rooted : isAbsolute folder <;> simp [rooted]

theorem names_file (isFile : IsFileName n) (current folder : Text) :
    names current (within folder n) = names current folder ++ [n] := by
  unfold names
  rw [isAbsolute_file isFile, components_file isFile, withoutParents_append,
    withoutParents_name isFile.forward, List.reverse_reverse]

/-- One step up from a file is its folder. -/
theorem resolve_parent (isFile : IsFileName n) (current folder : Text) :
    resolve (resolve current (within folder n)) ".." = resolve current folder := by
  have start : Settled (isAbsolute (within current folder)) ([] : List Text).reverse := rfl
  have settled : Settled (isAbsolute (within current folder)) (names current folder) :=
    settled_withoutParents start _
  have up : components ".." = [(".." : Text)] := by decide
  have relative : isAbsolute ".." = false := rfl
  rw [resolve, isAbsolute_within, components_within, relative, components_resolve,
    isAbsolute_resolve, names_file isFile, isAbsolute_file isFile, up, resolve]
  simp only [Bool.false_or, Bool.false_eq_true, if_false]
  rw [List.append_assoc, withoutParents_append, settled]
  exact congrArg (ofComponents _)
    ((withoutParents_up isFile.forward _).trans (List.reverse_reverse _))

/-- What lies behind a path has its names and more. -/
theorem components_of_after? {t : Text} (behind : (Text.after? (path ++ ['/']) t).isSome) :
    ∃ rest, t = path ++ '/' :: rest ∧ components t = components path ++ components rest := by
  unfold Text.after? at behind
  split at behind
  · next head =>
    obtain ⟨rest, rfl⟩ := List.isPrefixOf_iff_prefix.1 head
    refine ⟨rest, by simp, ?_⟩
    rw [List.append_assoc]
    exact components_append path rest
  · cases behind

/-- Nothing in a folder lies below a file in it. -/
theorem after?_file {m : Text} (isFile : IsFileName n) (isFile' : IsFileName m) :
    Text.after? (resolve current (within folder n) ++ ['/']) (resolve current (within folder m)) =
      none := by
  refine Option.not_isSome_iff_eq_none.1 fun below => ?_
  obtain ⟨rest, longer, same⟩ := components_of_after? below
  rw [components_resolve, components_resolve, names_file isFile, names_file isFile',
    List.append_assoc, List.append_cancel_left_eq, List.singleton_append, List.cons.injEq] at same
  rw [same.1] at longer
  have length := congrArg List.length longer
  simp at length

/-- A folder does not lie below a file in it. -/
theorem after?_folder (isFile : IsFileName n) :
    Text.after? (resolve current (within folder n) ++ ['/']) (resolve current folder) = none := by
  refine Option.not_isSome_iff_eq_none.1 fun below => ?_
  obtain ⟨rest, -, same⟩ := components_of_after? below
  rw [components_resolve, components_resolve, names_file isFile] at same
  have length := congrArg List.length same
  simp at length

theorem resolve_file_ne (isFile : IsFileName n) :
    resolve current (within folder n) ≠ resolve current folder := by
  intro same
  have names := congrArg components same
  rw [components_resolve, components_resolve, names_file isFile] at names
  simp at names

/-! ## Names of files -/

theorem noSlash_stem (path : Text) : '/' ∉ stem path := by
  have noSlash : '/' ∉ name path := by
    unfold name
    cases last : (components path).getLast? with
    | none => exact List.not_mem_nil
    | some n => exact (isName_of_mem_components (List.mem_of_getLast? last)).noSlash
  unfold stem
  dsimp only
  split
  · exact noSlash
  · exact fun member => noSlash (List.mem_of_mem_take member)

/-- A name with an ending of some length is that of a file. -/
theorem isFileName_append {ending : Text} (noSlash : '/' ∉ n) (clean : '/' ∉ ending)
    (long : 2 < ending.length) : IsFileName (n ++ ending) := by
  have length : 2 < (n ++ ending).length := by rw [List.length_append]; omega
  refine ⟨⟨?_, ?_, by simp [noSlash, clean]⟩, ?_⟩ <;>
    · intro same
      rw [same] at length
      revert length
      decide

end CellGraph.Path
