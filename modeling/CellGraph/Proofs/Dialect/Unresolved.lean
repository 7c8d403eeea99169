import CellGraph.Proofs.Dialect.Changes

/-!
# What a conversion leaves

Each step of the conversion is about one function. It does not touch the calls of other functions,
it reports its function exactly if a call of it is left, and afterwards it has nothing left to do
(`Step.Leaves`). No later step undoes this, so the report names the functions of which calls are left
in the converted formula (`unresolved_convert`), and to convert that formula changes nothing
(`convert_convert`).
-/

namespace CellGraph

open Node (Tight TightAll surfaces arguments solid textAll callsAll walkAll)
open Percent (FoldedAll)

/-! ## Reports -/

/-- Reports of one function, and behind them those of others. -/
theorem eraseDups_append_of_forall {x : Text} {us vs xs : List Text} (own : ∀ w ∈ us, w = x)
    (others : x ∉ vs) (foreign : x ∉ xs) (ordered : vs.eraseDups = xs.filter (· ∈ vs)) :
    (us ++ vs).eraseDups = (x :: xs).filter (· ∈ us ++ vs) := by
  have rest : xs.filter (· ∈ us ++ vs) = vs.eraseDups := by
    rw [ordered]
    refine List.filter_congr fun w member => ?_
    have differs : w ∉ us := fun inside => foreign (own w inside ▸ member)
    simp [differs]
  cases us with
  | nil => simp [others, ordered]
  | cons w us =>
    obtain rfl := own w (by simp)
    have same : us.filter (fun u => !u == w) = [] := by
      simpa using fun u member => own u (List.mem_cons_of_mem _ member)
    have other : vs.filter (fun v => !v == w) = vs := by
      rw [List.filter_eq_self]
      intro v member
      have differs : v ≠ w := by
        rintro rfl
        exact others member
      simpa using differs
    rw [List.filter_cons_of_pos (by simp), rest, List.cons_append, List.eraseDups_cons,
      List.filter_append, same, other, List.nil_append]

/-! ## Sums -/

namespace Sum

/-- All sums of a formula, by its calls. -/
theorem all_sums {p : List (List Node) → Bool} (sees : ∀ args, p (args.map surfaces) = p args)
    (ns : List Node) : (sums ns).all p ↔
      ∀ c ∈ callsAll ns, Inline.key c.name = name → p (arguments c.args) := by
  simp only [sums, List.all_eq_true, List.mem_filterMap, Node.mem_callsAll]
  constructor
  · rintro all _ ⟨written, args, closed, inside, rfl⟩ same
    have isSum : summands? (.call written args closed) = some (arguments args) := by
      simp [summands?, show Inline.key written = name from same]
    rw [Node.arguments_surfaces, sees]
    exact all _ ⟨_, inside, isSum⟩
  · rintro all summands ⟨n, inside, isSum⟩
    obtain ⟨written, args, closed, rfl, same, rfl⟩ := summands?_eq_some isSum
    have holds := all _ ⟨written, args, closed, inside, rfl⟩ same
    rwa [Node.arguments_surfaces, sees] at holds

/-- Every sum has the dialect's own name and adds references only. -/
def Alike (cs : List Call) : Prop :=
  ∀ c ∈ cs, Inline.key c.name = name → c.name = "sum" ∧ addsReferences (arguments c.args)

/-- Some sum does not add references only, and some sum is not one over a column. -/
def Mixed (cs : List Call) : Prop :=
  (∃ c ∈ cs, Inline.key c.name = name ∧ addsReferences (arguments c.args) = false) ∧
    ∃ c ∈ cs, Inline.key c.name = name ∧ columnRefs? (arguments c.args) = none

theorem addsReferences_eq_false {args : List (List Node)} : addsReferences args = false ↔
    args = [] ∨ ∃ arg ∈ args, ∀ r, solid arg ≠ [.ref r] := by
  have other : ∀ arg, isReference arg = false ↔ ∀ r, solid arg ≠ [.ref r] := by
    intro arg
    unfold isReference Node.sole?
    constructor
    · rintro noReference r single
      rw [single] at noReference
      cases noReference
    · intro differs
      split
      · next r alone =>
        split at alone
        · next single =>
          cases alone
          exact absurd single (differs r)
        · cases alone
      · rfl
  cases args with
  | nil => simp [addsReferences]
  | cons arg args => simp [addsReferences, other, imp_iff_not_or]

end Sum

/-! ## Steps -/

namespace Step

/-- The function that a step is about. -/
def function : Step → Text
  | .percentages => "%"
  | .sumproduct => "SUMPRODUCT"
  | .average => "AVERAGE"
  | .sums => Sum.name
  | .ln => "LN"
  | .pv => "PV"

/-- How a step spells out each call of its function by itself. -/
def speller? : Step → Option Inline.Speller
  | .percentages | .sums => none
  | .sumproduct => some Inline.sumproduct
  | .average => some Inline.average
  | .ln => some Inline.ln
  | .pv => some Inline.pv

variable {step : Step} {spell : Inline.Speller}

theorem run_of_speller (spells : step.speller? = some spell) (ns : List Node) :
    step.run ns = .ok (Inline.inline step.function spell ns) := by
  cases step <;> cases spells <;> rfl

theorem faithful_of_speller (spells : step.speller? = some spell) : spell.Faithful := by
  cases step <;> cases spells
  · exact Inline.faithful_sumproduct
  · exact Inline.faithful_average
  · exact Inline.faithful_ln
  · exact Inline.faithful_pv

theorem function_injective {s t : Step} (same : s.function = t.function) : s = t := by
  cases s <;> cases t <;> first | rfl | exact absurd same (by decide)

theorem function_ne_made (step : Step) : step.function ≠ Inline.made := by
  cases step <;> decide

/-- A call of the function of a step that counts as left over. Sums of references belong to the
dialect. -/
def Remains (step : Step) (c : Call) : Prop :=
  Inline.key c.name = step.function ∧
    (step = .sums → Sum.addsReferences (arguments c.args) = false)

/-- Calls with which a step has nothing left to do. -/
def Done (step : Step) (cs : List Call) : Prop :=
  (∀ spell ∈ step.speller?, ∀ c ∈ cs, Inline.key c.name = step.function →
    spell (arguments c.args) = none) ∧ (step = .sums → Sum.Alike cs ∨ Sum.Mixed cs)

/-- Only the calls of its function count for a step. -/
theorem Done.congr {cs ds : List Call} (done : step.Done cs)
    (same : ∀ c : Call, Inline.key c.name = step.function → (c ∈ ds ↔ c ∈ cs)) : step.Done ds := by
  refine ⟨fun spell spells c member called => done.1 spell spells c ((same c called).1 member)
    called, ?_⟩
  rintro rfl
  rcases done.2 rfl with alike | ⟨⟨b, inFirst, called, others⟩, c, inSecond, again, noColumn⟩
  · exact .inl fun c member called => alike c ((same c called).1 member) called
  · exact .inr ⟨⟨b, (same b called).2 inFirst, called, others⟩,
      c, (same c again).2 inSecond, again, noColumn⟩

theorem Remains.congr {cs ds : List Call}
    (same : ∀ c : Call, Inline.key c.name = step.function → (c ∈ ds ↔ c ∈ cs)) :
    (∃ c ∈ ds, step.Remains c) ↔ ∃ c ∈ cs, step.Remains c :=
  exists_congr fun c => by
    constructor
    · rintro ⟨member, remains⟩
      exact ⟨(same c remains.1).1 member, remains⟩
    · rintro ⟨member, remains⟩
      exact ⟨(same c remains.1).2 member, remains⟩

/-- What a step leaves: the calls of other functions, except for logarithms, and nothing of its own
to do. It reports its function if calls of it remain. -/
structure Leaves (step : Step) (ns : List Node) (e : Expansion) : Prop where
  tight : TightAll .top e.nodes
  others : ∀ c : Call, Inline.key c.name ≠ step.function → Inline.key c.name ≠ Inline.made →
    (c ∈ callsAll e.nodes ↔ c ∈ callsAll ns)
  reports : ∀ w, w ∈ e.unresolved ↔ w = step.function ∧ ∃ c ∈ callsAll e.nodes, step.Remains c
  done : step.Done (callsAll e.nodes)
  folded : FoldedAll ns → FoldedAll e.nodes

variable {ns : List Node}

theorem leaves_of_speller (spells : step.speller? = some spell) (tight : TightAll .top ns) :
    step.Leaves ns (Inline.inline step.function spell ns) := by
  have faithful := faithful_of_speller spells
  have changes : Node.Changes (Inline.expandCall step.function spell) _ _ :=
    Inline.changes_expandCall faithful
  have renders := Node.renders_expandAll changes tight
  have left : ∀ c : Call, Inline.key c.name ≠ Inline.made →
      (c ∈ callsAll (Inline.inline step.function spell ns).nodes ↔
        c ∈ callsAll ns ∧ Inline.spells step.function spell c = false) := fun c other =>
    (renders.calls c other).trans Call.exists_unless
  have own : ∀ c : Call, Inline.key c.name = step.function → Inline.key c.name ≠ Inline.made :=
    fun c called => called ▸ step.function_ne_made
  have noSums : step ≠ .sums := by
    rintro rfl
    cases spells
  refine ⟨(Inline.conserves_inline faithful.conserves tight).tight, fun c foreign other => ?_,
    fun w => ?_, ⟨?_, fun sums => absurd sums noSums⟩, renders.folded⟩
  · simp [left c other, Inline.spells, foreign]
  · rw [Inline.inline, renders.reports]
    constructor
    · rintro ⟨c, member, rfl, called, refused⟩
      have stays := (left c (own c called)).2 ⟨member, by simp [Inline.spells, refused]⟩
      exact ⟨rfl, c, stays, called, fun sums => absurd sums noSums⟩
    · rintro ⟨rfl, c, member, called, -⟩
      obtain ⟨before, stays⟩ := (left c (own c called)).1 member
      exact ⟨c, before, rfl, called, by simpa [Inline.spells, called] using stays⟩
  · rintro _ same c member called
    obtain rfl : spell = _ := Option.some.inj (spells.symm.trans same)
    obtain ⟨-, stays⟩ := (left c (own c called)).1 member
    simpa [Inline.spells, called] using stays

/-! ## Sums in one way or none -/

/-- Where all sums add references only, none remains. -/
theorem not_remains_of_alike {cs : List Call} (alike : Sum.Alike cs) :
    ¬ ∃ c ∈ cs, Step.sums.Remains c := by
  rintro ⟨c, member, called, others⟩
  rw [(alike c member called).2] at others
  cases others rfl

theorem leaves_without_sums (tight : TightAll .top ns)
    (free : ∀ c ∈ callsAll ns, Inline.key c.name ≠ Sum.name) : Step.sums.Leaves ns (.of ns) := by
  have alike : Sum.Alike (callsAll ns) := fun c member called => absurd called (free c member)
  refine ⟨tight, fun _ _ _ => Iff.rfl, fun w => ?_, ⟨by rintro _ ⟨⟩, fun _ => .inl alike⟩, id⟩
  simpa [Expansion.of] using fun _ => not_remains_of_alike alike

theorem leaves_renamed (tight : TightAll .top ns)
    (adds : ∀ c ∈ callsAll ns, Inline.key c.name = Sum.name →
      Sum.addsReferences (arguments c.args)) :
    Step.sums.Leaves ns (Node.expandAll Sum.rename ns) := by
  have renders := Node.renders_expandAll Sum.changes_rename tight
  have kept := (Node.keeps_expandAll Sum.keeping_rename tight).conserves tight
  have alike : Sum.Alike (callsAll (Node.expandAll Sum.rename ns).nodes) := by
    intro c member called
    have own : Inline.key c.name ≠ Inline.made := called ▸ Step.sums.function_ne_made
    obtain ⟨b, before, left⟩ := (renders.calls c own).1 member
    cases left
    by_cases sum : Inline.key b.name = Sum.name
    · simpa [Sum.renamed, sum] using adds b before sum
    · simp [Sum.renamed, sum] at called
  refine ⟨kept.tight, fun c foreign other => ?_, fun w => ?_, ⟨by rintro _ ⟨⟩, fun _ => .inl alike⟩,
    renders.folded⟩
  · rw [renders.calls c other]
    constructor
    · rintro ⟨b, before, left⟩
      cases left
      by_cases sum : Inline.key b.name = Sum.name
      · simp only [Sum.renamed, sum, if_true] at foreign
        exact absurd rfl foreign
      · simpa [Sum.renamed, sum] using before
    · intro member
      exact ⟨c, member, by simp [Sum.renamed, show Inline.key c.name ≠ Sum.name from foreign]⟩
  · rw [renders.reports]
    simpa using fun _ => not_remains_of_alike alike

theorem leaves_spelledOut (tight : TightAll .top ns)
    (columns : ∀ c ∈ callsAll ns, Inline.key c.name = Sum.name →
      (Sum.columnRefs? (arguments c.args)).isSome) :
    Step.sums.Leaves ns (Node.expandAll Sum.spellOut ns) := by
  have renders := Node.renders_expandAll Sum.changes_spellOut tight
  have kept := (Node.keeps_expandAll Sum.keeping_spellOut tight).conserves tight
  have left : ∀ c : Call, Inline.key c.name ≠ Inline.made →
      (c ∈ callsAll (Node.expandAll Sum.spellOut ns).nodes ↔
        c ∈ callsAll ns ∧ Sum.isColumn c = false) := fun c other =>
    (renders.calls c other).trans Call.exists_unless
  have free : ∀ c ∈ callsAll (Node.expandAll Sum.spellOut ns).nodes,
      Inline.key c.name ≠ Sum.name := by
    intro c member called
    have own : Inline.key c.name ≠ Inline.made := called ▸ Step.sums.function_ne_made
    obtain ⟨before, stays⟩ := (left c own).1 member
    simp [Sum.isColumn, called, columns c before called] at stays
  have alike : Sum.Alike (callsAll (Node.expandAll Sum.spellOut ns).nodes) :=
    fun c member called => absurd called (free c member)
  refine ⟨kept.tight, fun c foreign other => ?_, fun w => ?_, ⟨by rintro _ ⟨⟩, fun _ => .inl alike⟩,
    renders.folded⟩
  · simp [left c other, Sum.isColumn, show Inline.key c.name ≠ Sum.name from foreign]
  · rw [renders.reports]
    simpa using fun _ => not_remains_of_alike alike

theorem leaves_mixed (tight : TightAll .top ns) (mixed : Sum.Mixed (callsAll ns)) :
    Step.sums.Leaves ns ⟨ns, [Sum.name]⟩ := by
  refine ⟨tight, fun _ _ _ => Iff.rfl, fun w => ?_, ⟨by rintro _ ⟨⟩, fun _ => .inr mixed⟩, id⟩
  obtain ⟨⟨c, member, called, others⟩, -⟩ := mixed
  rw [List.mem_singleton]
  exact ⟨fun same => ⟨same, c, member, called, fun _ => others⟩, fun both => both.1⟩

/-- All sums are converted in one way, or some sum remains. -/
theorem leaves_sums (tight : TightAll .top ns) : Step.sums.Leaves ns (Sum.inline ns) := by
  have none_left := Sum.all_sums (p := fun _ => false) (fun _ => rfl) ns
  have adds := Sum.all_sums Sum.addsReferences_surfaces ns
  have columns := Sum.all_sums (p := fun args => (Sum.columnRefs? args).isSome)
    (fun args => by rw [Sum.columnRefs?_surfaces]) ns
  unfold Sum.inline
  dsimp only
  split
  · next empty =>
    rw [empty] at none_left
    exact leaves_without_sums tight fun c member called =>
      absurd (none_left.1 rfl c member called) (by decide)
  · split
    · next all => exact leaves_renamed tight (adds.1 all)
    · next notAdds =>
      split
      · next all => exact leaves_spelledOut tight (columns.1 all)
      · next notColumns =>
        simp only [adds, not_forall] at notAdds
        simp only [columns, not_forall] at notColumns
        obtain ⟨b, inFirst, called, others⟩ := notAdds
        obtain ⟨c, inSecond, again, noColumn⟩ := notColumns
        exact leaves_mixed tight ⟨⟨b, inFirst, called, by simpa using others⟩,
          c, inSecond, again, by simpa using noColumn⟩

/-- Every step behind the percentages leaves nothing of its own to do. -/
theorem leaves_run (later : step ≠ .percentages) (tight : TightAll .top ns) {e : Expansion}
    (ran : step.run ns = .ok e) : step.Leaves ns e := by
  cases spells : step.speller? with
  | some spell =>
    rw [run_of_speller spells] at ran
    cases ran
    exact leaves_of_speller spells tight
  | none =>
    cases step with
    | percentages => exact absurd rfl later
    | sums =>
      cases ran
      exact leaves_sums tight
    | _ => cases spells

/-! ## Steps with nothing left to do -/

theorem inline_of_refused (sees : spell.SeesSurfaces)
    (refused : ∀ c ∈ callsAll ns, Inline.key c.name = step.function →
      spell (arguments c.args) = none) :
    (Inline.inline step.function spell ns).nodes = ns := by
  refine Node.nodes_expandAll fun n inside => ?_
  cases n with
  | call written args closed =>
    by_cases called : Inline.key written = step.function
    · have seen := Inline.isSome_surfaces sees args
      have none_text := refused _ (Node.mem_callsAll.2 ⟨_, _, _, inside, rfl⟩) called
      rw [none_text] at seen
      have same : spell (arguments args) = none := by simpa using seen.symm
      simp [Inline.expandCall, called, same, Expansion.refuse]
    · simp [Inline.expandCall, called, Expansion.keep]
  | _ => rfl

theorem inline_of_alike (alike : Sum.Alike (callsAll ns)) : (Sum.inline ns).nodes = ns := by
  have adds := (Sum.all_sums Sum.addsReferences_surfaces ns).2 fun c member called =>
    (alike c member called).2
  simp only [Sum.inline, adds, if_true]
  split
  · rfl
  · refine Node.nodes_expandAll fun n inside => ?_
    cases n with
    | call written args closed =>
      by_cases called : Inline.key written = Sum.name
      · have named : written = "sum" :=
          (alike _ (Node.mem_callsAll.2 ⟨_, _, _, inside, rfl⟩) called).1
        simp only [Sum.rename, called, if_true, Expansion.of]
        rw [named]
      · simp [Sum.rename, called, Expansion.keep]
    | _ => rfl

theorem inline_of_mixed (mixed : Sum.Mixed (callsAll ns)) : (Sum.inline ns).nodes = ns := by
  obtain ⟨⟨b, inFirst, called, others⟩, c, inSecond, again, noColumn⟩ := mixed
  have notAdds : ¬ (Sum.sums ns).all Sum.addsReferences := fun all => by
    have adds := (Sum.all_sums Sum.addsReferences_surfaces ns).1 all b inFirst called
    rw [others] at adds
    cases adds
  have notColumns : ¬ (Sum.sums ns).all fun args => (Sum.columnRefs? args).isSome := fun all => by
    have column := (Sum.all_sums (fun args => by rw [Sum.columnRefs?_surfaces]) ns).1 all c inSecond
      again
    rw [noColumn] at column
    cases column
  simp only [Sum.inline, notAdds, notColumns, Bool.false_eq_true, if_false]
  split <;> rfl

/-- A step that has nothing left to do keeps a formula as it is. -/
theorem run_of_done (later : step ≠ .percentages) (done : step.Done (callsAll ns)) :
    ∃ u, step.run ns = .ok ⟨ns, u⟩ := by
  have kept : ∀ {e : Expansion}, e.nodes = ns →
      ∃ u, (.ok e : Except NumberError Expansion) = .ok ⟨ns, u⟩ := by
    rintro ⟨nodes, u⟩ rfl
    exact ⟨u, rfl⟩
  cases spells : step.speller? with
  | some spell =>
    rw [run_of_speller spells]
    exact kept (inline_of_refused (faithful_of_speller spells).sees (done.1 spell spells))
  | none =>
    cases step with
    | percentages => exact absurd rfl later
    | sums =>
      rcases done.2 rfl with alike | mixed
      · exact kept (inline_of_alike alike)
      · exact kept (inline_of_mixed mixed)
    | _ => cases spells

/-! ## All steps -/

/-- What steps one after another leave. The report has the functions in the order of the steps. -/
structure LeavesAll (steps : List Step) (ns : List Node) (e : Expansion) : Prop where
  tight : TightAll .top e.nodes
  others : ∀ c : Call, (∀ step ∈ steps, Inline.key c.name ≠ step.function) →
    Inline.key c.name ≠ Inline.made → (c ∈ callsAll e.nodes ↔ c ∈ callsAll ns)
  reports : ∀ w, w ∈ e.unresolved ↔
    ∃ step ∈ steps, w = step.function ∧ ∃ c ∈ callsAll e.nodes, step.Remains c
  ordered : e.unresolved.eraseDups = (steps.map function).filter (· ∈ e.unresolved)
  done : ∀ step ∈ steps, step.Done (callsAll e.nodes)
  folded : FoldedAll ns → FoldedAll e.nodes

/-- What a step leaves is not undone by the steps behind it, for these are about other functions. -/
theorem leavesAll_runAll {steps : List Step} (behind : ∀ step ∈ steps, step ≠ .percentages)
    (distinct : (steps.map function).Nodup) {ns : List Node} (tight : TightAll .top ns)
    {e : Expansion} (ran : runAll steps ns = .ok e) : LeavesAll steps ns e := by
  induction steps generalizing ns e with
  | nil =>
    cases ran
    exact ⟨tight, fun _ _ _ => Iff.rfl, by simp [Expansion.of], rfl, by simp, id⟩
  | cons step steps ih =>
    obtain ⟨first, rest, firstRan, restRan, rfl⟩ := runAll_cons_eq_ok.1 ran
    rw [List.map_cons, List.nodup_cons] at distinct
    have here := leaves_run (behind step (by simp)) tight firstRan
    have after := ih (fun s member => behind s (by simp [member])) distinct.2 here.tight restRan
    have foreign : ∀ s ∈ steps, s.function ≠ step.function := fun s member same =>
      distinct.1 (List.mem_map.2 ⟨s, member, same⟩)
    have kept : ∀ c : Call, Inline.key c.name = step.function →
        (c ∈ callsAll rest.nodes ↔ c ∈ callsAll first.nodes) := fun c called =>
      after.others c (fun s member same => foreign s member (same.symm.trans called))
        (called ▸ step.function_ne_made)
    have remains : (∃ c ∈ callsAll rest.nodes, step.Remains c) ↔ _ := Remains.congr kept
    have notAfter : step.function ∉ rest.unresolved := fun reported => by
      obtain ⟨s, member, same, -⟩ := (after.reports _).1 reported
      exact foreign s member same.symm
    refine ⟨after.tight, fun c free other => ?_, fun w => ?_, ?_, ?_,
      fun folded => after.folded (here.folded folded)⟩
    · rw [List.forall_mem_cons] at free
      exact (after.others c free.2 other).trans (here.others c free.1 other)
    · simp only [List.mem_append, here.reports, after.reports, List.exists_mem_cons_iff, remains]
    · exact eraseDups_append_of_forall (fun w member => ((here.reports w).1 member).1) notAfter
        distinct.1 after.ordered
    · exact List.forall_mem_cons.2 ⟨here.done.congr kept, after.done⟩

theorem runAll_of_done {steps : List Step} {ns : List Node}
    (done : ∀ step ∈ steps, step ≠ .percentages ∧ step.Done (callsAll ns)) :
    ∃ u, runAll steps ns = .ok ⟨ns, u⟩ := by
  induction steps with
  | nil => exact ⟨[], rfl⟩
  | cons step steps ih =>
    rw [List.forall_mem_cons] at done
    obtain ⟨u, ran⟩ := run_of_done done.1.1 done.1.2
    obtain ⟨v, others⟩ := ih done.2
    exact ⟨u ++ v, runAll_cons_eq_ok.2 ⟨_, _, ran, others, rfl⟩⟩

end Step

/-! ## The conversion -/

namespace Dialect

open Step (LeavesAll)

/-- A converted formula is the text of what the steps behind the percentages leave of a folded tree,
and the report is theirs. -/
theorem exists_leavesAll_of_convert {formula : Text} {c : Converted}
    (closed : ∀ n ∈ walkAll (Parser.parse formula), n.IsClosed)
    (known : ∀ t ∈ Token.tokens formula, Token.isOther t = false)
    (divided : ∀ q ∈ Node.sequences (Parser.parse formula), q.IsChain Percent.Divided)
    (converted : convert formula = .ok c) : ∃ ns e, FoldedAll ns ∧ LeavesAll Step.later ns e ∧
      c = ⟨textAll e.nodes, e.unresolved.eraseDups⟩ := by
  obtain ⟨_, whole, rfl⟩ := convert_eq_ok.1 converted
  obtain ⟨folded, rest, found, ran, rfl⟩ := convertTree_eq_ok.1 whole
  have tight : TightAll .top (Parser.parse formula) := by
    refine Parser.tight_parse closed known fun q member => (divided q member).imp ?_
    exact fun m n apart both => apart ⟨.inl both.1, both.2⟩
  have foldedTight := (Percent.conserves_foldAll tight divided found).tight
  exact ⟨folded, rest, Percent.foldedAll_of_foldAll found,
    Step.leavesAll_runAll (fun _ => Step.ne_percentages_of_mem_later) (by decide) foldedTight ran,
    rfl⟩

/-- To convert a converted formula changes nothing, neither the formula nor the report. All brackets
of the first formula have to be closed and all its characters known, and no operand may stand
directly behind another or behind a percent sign. -/
theorem convert_convert {formula : Text} {c : Converted}
    (closed : ∀ n ∈ walkAll (Parser.parse formula), n.IsClosed)
    (known : ∀ t ∈ Token.tokens formula, Token.isOther t = false)
    (divided : ∀ q ∈ Node.sequences (Parser.parse formula), q.IsChain Percent.Divided)
    (converted : convert formula = .ok c) : convert c.formula = .ok c := by
  obtain ⟨ns, e, folded, leaves, rfl⟩ := exists_leavesAll_of_convert closed known divided converted
  have read := Parser.parse_textAll_of_tight leaves.tight
  have calls := Node.callsAll_settleAll e.nodes
  have tight := ((Node.keeps_settleAll leaves.tight).conserves leaves.tight).tight
  -- the percentages find nothing, and neither do the steps behind them
  have percentages : Step.run .percentages (Node.settleAll e.nodes) =
      .ok (.of (Node.settleAll e.nodes)) := by
    rw [Step.run, Percent.foldAll_of_folded (leaves.folded folded).settleAll]
    rfl
  have done : ∀ step ∈ Step.later,
      step ≠ .percentages ∧ step.Done (callsAll (Node.settleAll e.nodes)) := by
    intro step member
    rw [calls]
    exact ⟨Step.ne_percentages_of_mem_later member, leaves.done step member⟩
  obtain ⟨u, again⟩ := Step.runAll_of_done done
  have whole : Step.runAll Step.all (Node.settleAll e.nodes) =
      .ok ⟨Node.settleAll e.nodes, [] ++ u⟩ :=
    Except.bind_eq_ok.2 ⟨_, percentages, Except.bind_eq_ok.2 ⟨_, again, rfl⟩⟩
  have second := Step.leavesAll_runAll (fun _ => Step.ne_percentages_of_mem_later) (by decide) tight
    again
  have reports : ∀ w, w ∈ u ↔ w ∈ e.unresolved := by
    intro w
    rw [leaves.reports, second.reports, calls]
  have same : u.eraseDups = e.unresolved.eraseDups := by
    rw [leaves.ordered, second.ordered]
    simp only [reports]
  rw [convert, read, convertTree, whole]
  simp [bind, Except.bind, pure, Except.pure, Node.textAll_settleAll, same]

/-- The second conversion meets a mean of a range without cells, a logarithm without argument and
a sum of which one argument is no reference, and reports them again. -/
theorem convert_convert_left :
    ∃ c, convert "=LN(SUM(B1,Ln()))-average(2%,A2:A1)" = .ok c ∧ convert c.formula = .ok c := by
  have converted : convert "=LN(SUM(B1,Ln()))-average(2%,A2:A1)" = .ok
      ⟨"=(1 / log10(2.71828) * log10(SUM(B1,Ln())))-average(0.02,A2:A1)",
        ["AVERAGE", "SUM", "LN"]⟩ := by
    decide +kernel
  exact ⟨_, converted, convert_convert (by decide +kernel) (by decide +kernel)
    (by decide +kernel) converted⟩

/-- A function is reported exactly if a call of it is left in the converted formula, at any depth
and in any letter case. Of sums only those count that have no argument or one that is no single
reference. No function is reported twice. -/
theorem unresolved_convert {formula : Text} {c : Converted}
    (closed : ∀ n ∈ walkAll (Parser.parse formula), n.IsClosed)
    (known : ∀ t ∈ Token.tokens formula, Token.isOther t = false)
    (divided : ∀ q ∈ Node.sequences (Parser.parse formula), q.IsChain Percent.Divided)
    (converted : convert formula = .ok c) :
    (∀ w ∈ (["SUMPRODUCT", "AVERAGE", "LN", "PV"] : List Text), w ∈ c.unresolved ↔
      ∃ written args closed, .call written args closed ∈ walkAll (Parser.parse c.formula) ∧
        Inline.key written = w) ∧
    (("SUM" : Text) ∈ c.unresolved ↔
      ∃ written args closed, .call written args closed ∈ walkAll (Parser.parse c.formula) ∧
        Inline.key written = "SUM" ∧
        (arguments args = [] ∨ ∃ arg ∈ arguments args, ∀ r, solid arg ≠ [.ref r])) ∧
    c.unresolved.Nodup ∧
    ∀ w ∈ c.unresolved, w ∈ (["SUMPRODUCT", "AVERAGE", "SUM", "LN", "PV"] : List Text) := by
  obtain ⟨ns, e, -, leaves, rfl⟩ := exists_leavesAll_of_convert closed known divided converted
  have read := Parser.parse_textAll_of_tight leaves.tight
  have calls := Node.callsAll_settleAll e.nodes
  have reported : ∀ step ∈ Step.later, step.function ∈ e.unresolved.eraseDups ↔
      ∃ written args closed, .call written args closed ∈ walkAll (Node.settleAll e.nodes) ∧
        Inline.key written = step.function ∧
        (step = .sums → Sum.addsReferences (arguments args) = false) := by
    intro step member
    rw [List.mem_eraseDups, leaves.reports, ← calls]
    constructor
    · rintro ⟨s, -, same, c, member, called, others⟩
      obtain rfl := Step.function_injective same
      obtain ⟨written, args, closed, inside, rfl⟩ := Node.mem_callsAll.1 member
      rw [Node.arguments_surfaces, Sum.addsReferences_surfaces] at others
      exact ⟨written, args, closed, inside, called, others⟩
    · rintro ⟨written, args, closed, inside, called, others⟩
      rw [← Sum.addsReferences_surfaces, ← Node.arguments_surfaces] at others
      exact ⟨step, member, rfl, _, Node.mem_callsAll.2 ⟨_, _, _, inside, rfl⟩, called, others⟩
  have called : ∀ step ∈ Step.later, step ≠ .sums → (step.function ∈ e.unresolved.eraseDups ↔
      ∃ written args closed, .call written args closed ∈ walkAll (Node.settleAll e.nodes) ∧
        Inline.key written = step.function) := by
    intro step member noSums
    simpa only [noSums, false_implies, and_true] using reported step member
  rw [read]
  refine ⟨?_, ?_, ?_, ?_⟩
  · intro w listed
    simp only [List.mem_cons, List.not_mem_nil, or_false] at listed
    rcases listed with rfl | rfl | rfl | rfl
    · exact called .sumproduct (by decide) (by decide)
    · exact called .average (by decide) (by decide)
    · exact called .ln (by decide) (by decide)
    · exact called .pv (by decide) (by decide)
  · have sums := reported .sums (by decide)
    simp only [Sum.addsReferences_eq_false, true_implies] at sums
    exact sums
  · have distinct : (Step.later.map Step.function).Nodup := by decide
    rw [leaves.ordered]
    exact List.Pairwise.filter _ distinct
  · intro w member
    rw [leaves.ordered] at member
    exact (List.mem_filter.1 member).1

theorem unresolved_convert_nested :
    ∃ c, convert "=LN(SUM(B1,Ln()))-average(2%,A2:A1)" = .ok c ∧
      (∀ w ∈ (["SUMPRODUCT", "AVERAGE", "LN", "PV"] : List Text), w ∈ c.unresolved ↔
        ∃ written args closed, .call written args closed ∈ walkAll (Parser.parse c.formula) ∧
          Inline.key written = w) ∧
      (("SUM" : Text) ∈ c.unresolved ↔
        ∃ written args closed, .call written args closed ∈ walkAll (Parser.parse c.formula) ∧
          Inline.key written = "SUM" ∧
          (arguments args = [] ∨ ∃ arg ∈ arguments args, ∀ r, solid arg ≠ [.ref r])) ∧
      c.unresolved.Nodup ∧
      ∀ w ∈ c.unresolved, w ∈ (["SUMPRODUCT", "AVERAGE", "SUM", "LN", "PV"] : List Text) := by
  have converted : convert "=LN(SUM(B1,Ln()))-average(2%,A2:A1)" = .ok
      ⟨"=(1 / log10(2.71828) * log10(SUM(B1,Ln())))-average(0.02,A2:A1)",
        ["AVERAGE", "SUM", "LN"]⟩ := by
    decide +kernel
  exact ⟨_, converted, unresolved_convert (by decide +kernel) (by decide +kernel)
    (by decide +kernel) converted⟩

end Dialect
end CellGraph
