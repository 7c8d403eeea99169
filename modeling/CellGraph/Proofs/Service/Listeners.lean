import CellGraph.Service.App
import Mathlib.Data.List.Nodup

/-!
# The service and its listeners

Requests arrive, listeners read and leave in any order. What a request can do to the service is said
once (`step_request`); from it follows what a step does to the grid that is kept and to the queue of
a listener, and from that what a run does. A listener is known by its number, the number of those
that came before it, and has read or has still to read one message for each workbook converted since
it came (`state_after_run`). How files are loaded plays no part in it.
-/

namespace CellGraph

namespace App

/-- The unread messages of a listener, if it is there. -/
def queue? (a : App) (n : Nat) : Option (List Text) :=
  (a.listeners.find? (·.id = n)).map (·.queue)

/-- The numbers of the listeners that are there. -/
def ids (a : App) : List Nat := a.listeners.map (·.id)

/-- The numbers of listeners grow and have all been given away. -/
structure Sound (a : App) : Prop where
  ordered : a.ids.Pairwise (· < ·)
  below : ∀ n ∈ a.ids, n < a.nextId

variable {a : App}

/-! ## Who is there -/

theorem ids_connect (a : App) : a.connect.1.ids = a.ids ++ [a.nextId] := by
  simp [ids, connect]

theorem ids_disconnect (a : App) (n : Nat) : (a.disconnect n).ids = a.ids.filter (· ≠ n) := by
  simp [ids, disconnect, List.filter_map, Function.comp_def]

theorem ids_broadcast (a : App) (message : Text) : (a.broadcast message).ids = a.ids := by
  simp [ids, broadcast, Function.comp_def]

theorem ids_read (a : App) (n : Nat) : (a.read n).1.ids = a.ids := by
  unfold read
  split
  · simp only [ids, List.map_map]
    refine List.map_congr_left fun l _ => ?_
    simp only [Function.comp_apply]
    split <;> rfl
  · rfl

theorem Sound.nodup (sound : a.Sound) : a.ids.Nodup := sound.ordered.imp Nat.ne_of_lt

theorem Sound.connect (sound : a.Sound) : a.connect.1.Sound where
  ordered := by
    rw [ids_connect, List.pairwise_append]
    refine ⟨sound.ordered, List.pairwise_singleton .., ?_⟩
    intro n member m last
    rw [List.mem_singleton.1 last]
    exact sound.below n member
  below := by
    intro n member
    rw [ids_connect, List.mem_append, List.mem_singleton] at member
    rcases member with earlier | rfl
    · exact Nat.lt_succ_of_lt (sound.below n earlier)
    · exact Nat.lt_succ_self _

theorem Sound.disconnect (sound : a.Sound) (n : Nat) : (a.disconnect n).Sound where
  ordered := by
    rw [ids_disconnect]
    exact sound.ordered.filter _
  below := by
    intro m member
    rw [ids_disconnect] at member
    exact sound.below m (List.mem_filter.1 member).1

/-- What leaves the numbers alone keeps them sound. -/
theorem Sound.congr (sound : a.Sound) {b : App} (same : b.ids = a.ids)
    (next : b.nextId = a.nextId) : b.Sound where
  ordered := by rw [same]; exact sound.ordered
  below := by rw [same, next]; exact sound.below

/-! ## What happens to a queue -/

theorem queue?_eq_none_iff {n : Nat} : a.queue? n = none ↔ n ∉ a.ids := by
  simp [queue?, ids]

theorem Sound.queue?_nextId (sound : a.Sound) : a.queue? a.nextId = none :=
  queue?_eq_none_iff.2 fun member => Nat.lt_irrefl _ (sound.below _ member)

/-- As no number occurs twice, the queue that is found is that of the listener. -/
theorem Sound.queue?_of_mem (sound : a.Sound) {l : Listener} (member : l ∈ a.listeners) :
    a.queue? l.id = some l.queue := by
  cases found : a.listeners.find? (·.id = l.id) with
  | none =>
    have other := List.find?_eq_none.1 found l member
    simp at other
  | some m =>
    have same : m.id = l.id := by simpa using List.find?_some found
    have inside := List.mem_of_find?_eq_some found
    have equal : m = l := List.inj_on_of_nodup_map sound.nodup inside member same
    rw [queue?, found, equal, Option.map_some]

theorem queue?_connect (sound : a.Sound) (n : Nat) :
    a.connect.1.queue? n = if n = a.nextId then some [] else a.queue? n := by
  by_cases new : n = a.nextId
  · have absent := sound.queue?_nextId
    rw [queue?, Option.map_eq_none_iff] at absent
    subst new
    simp [queue?, connect, List.find?_append, absent]
  · have other : a.nextId ≠ n := Ne.symm new
    simp [queue?, connect, List.find?_append, other, new]

theorem queue?_disconnect (a : App) (m n : Nat) :
    (a.disconnect m).queue? n = if m = n then none else a.queue? n := by
  by_cases same : m = n
  · subst same
    rw [if_pos rfl, queue?_eq_none_iff, ids_disconnect]
    simp
  · have kept (l : Listener) : (l.id ≠ m ∧ l.id = n) ↔ l.id = n :=
      and_iff_right_of_imp fun here gone => same (gone.symm.trans here)
    simp [queue?, disconnect, List.find?_filter, kept, same]

theorem queue?_broadcast (a : App) (message : Text) (n : Nat) :
    (a.broadcast message).queue? n = (a.queue? n).map (· ++ [message]) := by
  simp [queue?, broadcast, List.find?_map, Function.comp_def]

theorem read_eq (a : App) (n : Nat) :
    a.read n = match a.queue? n with
      | some (message :: rest) =>
        ({ a with listeners := a.listeners.map fun l =>
            if l.id = n then { l with queue := rest } else l }, some message)
      | _ => (a, none) := rfl

theorem message_read (a : App) (n : Nat) : (a.read n).2 = (a.queue? n).bind List.head? := by
  rw [read_eq]
  split
  · next found => rw [found]; rfl
  · next nothing =>
    cases found : a.queue? n with
    | none => rfl
    | some q =>
      cases q with
      | nil => rfl
      | cons message rest => exact absurd found (nothing message rest)

theorem queue?_read (a : App) (m n : Nat) :
    (a.read m).1.queue? n = if m = n then (a.queue? n).map List.tail else a.queue? n := by
  rw [read_eq]
  split
  · next message rest found =>
    have number (l : Listener) :
        (if l.id = m then { l with queue := rest } else l : Listener).id = l.id := by
      split <;> rfl
    by_cases same : m = n
    · subst same
      obtain ⟨l, first, full⟩ := Option.map_eq_some_iff.1 found
      have here : l.id = m := by simpa using List.find?_some first
      rw [if_pos rfl, found]
      simp only [queue?, List.find?_map, Function.comp_def, number, first, Option.map_some]
      rw [if_pos here]
      rfl
    · rw [if_neg same]
      simp only [queue?, List.find?_map, Function.comp_def, number, Option.map_map]
      cases first : a.listeners.find? (·.id = n) with
      | none => rfl
      | some l =>
        have here : l.id = n := by simpa using List.find?_some first
        have other : l.id ≠ m := fun there => same (there.symm.trans here)
        rw [Option.map_some, Option.map_some, if_neg other]
  · next nothing =>
    split
    · next same =>
      subst same
      cases found : a.queue? m with
      | none => rfl
      | some q =>
        cases q with
        | nil => rfl
        | cons message rest => exact absurd found (nothing message rest)
    · rfl

/-! ## Requests -/

section Requests
variable {F : Type} {path : Text} {u : Upload F}

theorem filter_named (named : u.fileName ≠ []) :
    (some u).filter (·.fileName ≠ []) = some u := by
  simp [named]

variable [Loader F]

theorem handle_convert (route : Route.ofPath? path = some .convert) (named : u.fileName ≠ []) :
    a.handle true path (some u) = a.convert u := by
  rw [handle, route, filter_named named]
  rfl

theorem handle_draw (route : Route.ofPath? path = some .draw) (named : u.fileName ≠ []) :
    a.handle true path (some u) = (a, draw u) := by
  rw [handle, route, filter_named named]
  rfl

theorem handle_view (route : Route.ofPath? path = some .view) (u : Option (Upload F)) :
    a.handle false path u = (a, a.view) := by
  rw [handle, route]
  rfl

theorem handle_listen (route : Route.ofPath? path = some .listen) (u : Option (Upload F)) :
    (a.handle false path u).1 = a.connect.1 := by
  rw [handle, route]
  rfl

/-- Nothing but a request to listen changes the service without a file. -/
theorem handle_get (noListener : Route.ofPath? path ≠ some .listen) (u : Option (Upload F)) :
    (a.handle false path u).1 = a := by
  rw [handle]
  cases route : Route.ofPath? path with
  | none => rfl
  | some r =>
    cases r with
    | listen => exact absurd route noListener
    | _ => rfl

/-- Nothing but a file with a name that is posted to be converted changes the service. -/
theorem handle_post {u : Option (Upload F)}
    (noWorkbook : Route.ofPath? path = some .convert → u.filter (·.fileName ≠ []) = none) :
    (a.handle true path u).1 = a := by
  rw [handle]
  cases route : Route.ofPath? path with
  | none => rfl
  | some r =>
    cases r with
    | convert => rw [noWorkbook route]; rfl
    | draw => cases u.filter (·.fileName ≠ []) <;> rfl
    | _ => rfl

end Requests

end App

/-! ## Files -/

/-- A file that is known by what loading it gives: a workbook with formulas and one with their
results, or a failure. -/
structure KnownFile where
  outcome : Except Failure (Workbook Failure × Workbook Failure)

instance : Loader KnownFile where
  load
    | .file f, results | .path _ (some f), results =>
      f.outcome.map fun w => if results then w.2 else w.1
    | .path path none, _ =>
      .error ⟨.system, "[Errno 2] No such file or directory: " ++ Text.quoted path⟩

/-- A workbook with a word in the first cell of its sheet. -/
def KnownFile.book : KnownFile :=
  let w : Workbook Failure := ⟨[.ofPlaces "S" (Places.empty.put ⟨1, 1⟩ (.value (.text "five")))]⟩
  ⟨.ok (w, w)⟩

/-- A file that is no workbook. -/
def KnownFile.notes : KnownFile := ⟨.error ⟨.badArchive, "File is not a zip file"⟩⟩

/-! ## Steps -/

/-- What can happen to the service: a request, or that a listener reads its next message or leaves. -/
inductive Act (F : Type) where
  | request (posts : Bool) (path : Text) (upload : Option (Upload F))
  | read (n : Nat)
  | leave (n : Nat)

namespace Act

open App (Route)

variable {F : Type}

/-- Whether a listener comes. -/
def connects : Act F → Bool
  | .request false path _ => Route.ofPath? path = some .listen
  | _ => false

/-- Of all that happens, `later` follows the coming of listener `n`: so many came before it. -/
def Since (n : Nat) (acts later : List (Act F)) : Prop :=
  ∃ before act, acts = before ++ act :: later ∧ act.connects ∧ before.countP connects = n

theorem exists_since {n : Nat} {acts : List (Act F)} (came : n < acts.countP connects) :
    ∃ later, Since n acts later := by
  induction acts generalizing n with
  | nil => cases came
  | cons act acts ih =>
    rw [List.countP_cons] at came
    by_cases new : act.connects
    · cases n with
      | zero => exact ⟨acts, [], act, rfl, new, rfl⟩
      | succ n =>
        rw [if_pos new] at came
        obtain ⟨later, before, next, rfl, comes, count⟩ := ih (Nat.lt_of_succ_lt_succ came)
        exact ⟨later, act :: before, next, rfl, comes, by rw [List.countP_cons, count, if_pos new]⟩
    · rw [if_neg new] at came
      obtain ⟨later, before, next, rfl, comes, count⟩ := ih came
      exact ⟨later, act :: before, next, rfl, comes, by rw [List.countP_cons, count, if_neg new]; rfl⟩

variable [Loader F]

/-- The grid of a workbook that is posted to be converted, if it can be. -/
def converts? : Act F → Option Grid
  | .request true path (some u) =>
    if Route.ofPath? path = some .convert ∧ u.fileName ≠ [] then (Conversion.ofFile u.file).toOption
    else none
  | _ => none

/-- The service after a step, and what a listener has read in it. -/
def step (a : App) : Act F → App × List (Nat × Text)
  | .request posts path u => ((a.handle posts path u).1, [])
  | .read n => ((a.read n).1, (a.read n).2.toList.map (n, ·))
  | .leave n => (a.disconnect n, [])

/-- The service after some steps, and what the listeners have read in them, in order. -/
def run (a : App) : List (Act F) → App × List (Nat × Text)
  | [] => (a, [])
  | act :: acts => ((run (act.step a).1 acts).1, (act.step a).2 ++ (run (act.step a).1 acts).2)

/-- A request converts a workbook, brings a listener, or leaves the service as it was. -/
theorem step_request (a : App) (posts : Bool) (path : Text) (u : Option (Upload F)) :
    let act := Act.request posts path u
    (∃ g, act.converts? = some g ∧ act.connects = false ∧
      (act.step a).1 = { a with latest := some g }.broadcast App.reload) ∨
    (act.converts? = none ∧ act.connects ∧ (act.step a).1 = a.connect.1) ∨
    (act.converts? = none ∧ act.connects = false ∧ (act.step a).1 = a) := by
  intro act
  cases posts with
  | false =>
    by_cases route : Route.ofPath? path = some .listen
    · exact .inr (.inl ⟨rfl, by simp [act, connects, route], App.handle_listen route u⟩)
    · exact .inr (.inr ⟨rfl, by simp [act, connects, route], App.handle_get route u⟩)
  | true =>
    cases u with
    | none => exact .inr (.inr ⟨rfl, rfl, App.handle_post fun _ => rfl⟩)
    | some u =>
      by_cases posted : Route.ofPath? path = some .convert ∧ u.fileName ≠ []
      · have changed : (act.step a).1 = (a.convert u).1 :=
          congrArg Prod.fst (App.handle_convert posted.1 posted.2)
        cases made : Conversion.ofFile u.file with
        | error e =>
          refine .inr (.inr ⟨by simp [act, converts?, posted, made, Except.toOption], rfl, ?_⟩)
          rw [changed, App.convert, made]
        | ok g =>
          refine .inl ⟨g, by simp [act, converts?, posted, made, Except.toOption], rfl, ?_⟩
          rw [changed, App.convert, made]
      · refine .inr (.inr ⟨by simp [act, converts?, posted], rfl, App.handle_post fun route => ?_⟩)
        have unnamed : u.fileName = [] := not_not.1 fun named => posted ⟨route, named⟩
        simp [unnamed]

/-! ## What a step does -/

variable {a : App}

/-- Whoever posts a workbook to be converted is told by the status whether it could be. -/
theorem status_convert (a : App) {path : Text} (route : Route.ofPath? path = some .convert)
    (posts : Bool) (u : Option (Upload F)) :
    (a.handle posts path u).2.status = 200 ↔ (request posts path u).converts?.isSome := by
  cases posts with
  | false => simp [App.handle, route, Route.posts, App.explain, converts?]
  | true =>
    cases u with
    | none => simp [App.handle, route, Route.posts, App.explain, converts?]
    | some u =>
      by_cases named : u.fileName ≠ []
      · rw [App.handle_convert route named, App.convert]
        cases made : Conversion.ofFile u.file with
        | ok g => simp [converts?, route, named, made, Except.toOption]
        | error e =>
          have refused : (App.rejection u e).status ≠ 200 := by
            unfold App.rejection
            split <;> simp [App.explain]
          simp [converts?, made, Except.toOption, refused]
      · have unnamed : (some u).filter (·.fileName ≠ []) = none := by simp [not_not.1 named]
        rw [App.handle, route, unnamed]
        simp [Route.posts, App.explain, converts?, named]

theorem latest_step (act : Act F) (a : App) :
    (act.step a).1.latest = act.converts?.or a.latest := by
  cases act with
  | request posts path u =>
    rcases step_request a posts path u with ⟨g, made, -, after⟩ | ⟨none, -, after⟩ | ⟨none, -, after⟩
    · rw [after, made]; rfl
    · rw [after, none]; rfl
    · rw [after, none]; rfl
  | read n =>
    show (a.read n).1.latest = a.latest
    unfold App.read
    split <;> rfl
  | leave n => rfl

theorem nextId_step (act : Act F) (a : App) :
    (act.step a).1.nextId = a.nextId + if act.connects then 1 else 0 := by
  cases act with
  | request posts path u =>
    rcases step_request a posts path u with ⟨g, -, old, after⟩ | ⟨-, new, after⟩ | ⟨-, old, after⟩
    · rw [after, old]; rfl
    · rw [after, new]; rfl
    · rw [after, old]; rfl
  | read n =>
    show (a.read n).1.nextId = a.nextId
    unfold App.read
    split <;> rfl
  | leave n => rfl

theorem sound_step (sound : a.Sound) (act : Act F) : (act.step a).1.Sound := by
  cases act with
  | request posts path u =>
    rcases step_request a posts path u with ⟨g, -, -, after⟩ | ⟨-, -, after⟩ | ⟨-, -, after⟩
    · rw [after]
      exact sound.congr (App.ids_broadcast _ _) rfl
    · rw [after]
      exact sound.connect
    · rw [after]
      exact sound
  | read n => exact sound.congr (App.ids_read a n) (nextId_step (.read n) a)
  | leave n => exact sound.disconnect n

/-- What a listener has read, among what all have. -/
def heard (n : Nat) (log : List (Nat × Text)) : List Text := (log.filter (·.1 = n)).map (·.2)

theorem heard_append (n : Nat) (log later : List (Nat × Text)) :
    heard n (log ++ later) = heard n log ++ heard n later := by
  simp [heard]

theorem heard_read (m n : Nat) (message : Option Text) :
    heard n (message.toList.map (m, ·)) = if m = n then message.toList else [] := by
  cases message with
  | none => simp [heard]
  | some t => by_cases same : m = n <;> simp [heard, same]

/-- A step that a listener does not take to leave moves at most one message from its queue to what
it has read, and adds a message if it converts a workbook. -/
theorem step_present (sound : a.Sound) {n : Nat} {q : List Text} (found : a.queue? n = some q)
    {act : Act F} (stays : act ≠ .leave n) :
    ∃ q', (act.step a).1.queue? n = some q' ∧
      heard n (act.step a).2 ++ q' = q ++ List.replicate act.converts?.toList.length App.reload := by
  cases act with
  | request posts path u =>
    rcases step_request a posts path u with ⟨g, made, -, after⟩ | ⟨none, -, after⟩ | ⟨none, -, after⟩
    · refine ⟨q ++ [App.reload], ?_, ?_⟩
      · rw [after, App.queue?_broadcast]
        exact congrArg (Option.map (· ++ [App.reload])) found
      · rw [made]; rfl
    · refine ⟨q, ?_, ?_⟩
      · have old : n ≠ a.nextId := by
          rintro rfl
          rw [sound.queue?_nextId] at found
          cases found
        rw [after, App.queue?_connect sound, if_neg old, found]
      · rw [none]; exact (List.append_nil q).symm
    · refine ⟨q, ?_, ?_⟩
      · rw [after, found]
      · rw [none]; exact (List.append_nil q).symm
  | read m =>
    have log : heard n ((Act.read m : Act F).step a).2 = if m = n then (a.read m).2.toList else [] :=
      heard_read m n _
    have after := App.queue?_read a m n
    rw [log]
    by_cases same : m = n
    · subst same
      rw [if_pos rfl, found, Option.map_some] at after
      refine ⟨q.tail, after, ?_⟩
      rw [if_pos rfl, App.message_read, found]
      cases q <;> exact (List.append_nil _).symm
    · rw [if_neg same, found] at after
      refine ⟨q, after, ?_⟩
      rw [if_neg same]
      exact (List.append_nil q).symm
  | leave m =>
    have other : m ≠ n := fun same => stays (congrArg Act.leave same)
    have after := App.queue?_disconnect a m n
    rw [if_neg other, found] at after
    exact ⟨q, after, (List.append_nil q).symm⟩

/-- A step brings no listener but the next, and nobody else reads. -/
theorem step_absent (sound : a.Sound) {n : Nat} (absent : a.queue? n = none) {act : Act F}
    (old : act.connects → n ≠ a.nextId) :
    (act.step a).1.queue? n = none ∧ heard n (act.step a).2 = [] := by
  cases act with
  | request posts path u =>
    refine ⟨?_, rfl⟩
    rcases step_request a posts path u with ⟨g, -, -, after⟩ | ⟨-, new, after⟩ | ⟨-, -, after⟩
    · rw [after, App.queue?_broadcast]
      exact congrArg (Option.map (· ++ [App.reload])) absent
    · rw [after, App.queue?_connect sound, if_neg (old new), absent]
    · rw [after, absent]
  | read m =>
    have after := App.queue?_read a m n
    rw [absent, Option.map_none, ite_self] at after
    refine ⟨after, (heard_read m n _).trans ?_⟩
    split
    · next same =>
      subst same
      rw [App.message_read, absent]
      rfl
    · rfl
  | leave m =>
    have after := App.queue?_disconnect a m n
    rw [absent, ite_self] at after
    exact ⟨after, rfl⟩

/-- A listener that comes gets the next number and has nothing to read. -/
theorem step_connects (sound : a.Sound) {act : Act F} (comes : act.connects) :
    (act.step a).1.queue? a.nextId = some [] ∧ (act.step a).2 = [] := by
  cases act with
  | request posts path u =>
    refine ⟨?_, rfl⟩
    rcases step_request a posts path u with ⟨-, -, old, -⟩ | ⟨-, -, after⟩ | ⟨-, old, -⟩
    · rw [old] at comes
      cases comes
    · rw [after, App.queue?_connect sound, if_pos rfl]
    · rw [old] at comes
      cases comes
  | read n => cases comes
  | leave n => cases comes

/-! ## What a run does -/

theorem run_append (a : App) (acts later : List (Act F)) :
    run a (acts ++ later) =
      ((run (run a acts).1 later).1, (run a acts).2 ++ (run (run a acts).1 later).2) := by
  induction acts generalizing a with
  | nil => rfl
  | cons act acts ih => simp [run, ih]

theorem sound_run (sound : a.Sound) (acts : List (Act F)) : (run a acts).1.Sound := by
  induction acts generalizing a with
  | nil => exact sound
  | cons act acts ih => exact ih (sound_step sound act)

theorem nextId_run (a : App) (acts : List (Act F)) :
    (run a acts).1.nextId = a.nextId + acts.countP connects := by
  induction acts generalizing a with
  | nil => rfl
  | cons act acts ih =>
    rw [run, ih, nextId_step, List.countP_cons]
    omega

theorem latest_run (a : App) (acts : List (Act F)) :
    (run a acts).1.latest = (acts.filterMap converts?).getLast?.or a.latest := by
  induction acts generalizing a with
  | nil => rfl
  | cons act acts ih =>
    rw [run, ih, latest_step, List.filterMap_cons]
    cases act.converts? with
    | none => rfl
    | some g =>
      rw [List.getLast?_cons]
      cases (acts.filterMap converts?).getLast? <;> rfl

/-- A listener that stays has read, or has still to read, what it had and one message for each
workbook that was converted. -/
theorem run_present (sound : a.Sound) {n : Nat} {q : List Text} (found : a.queue? n = some q)
    {acts : List (Act F)} (stays : .leave n ∉ acts) :
    ∃ q', (run a acts).1.queue? n = some q' ∧
      heard n (run a acts).2 ++ q' =
        q ++ List.replicate (acts.filterMap converts?).length App.reload := by
  induction acts generalizing a q with
  | nil => exact ⟨q, found, (List.append_nil q).symm⟩
  | cons act acts ih =>
    rw [List.mem_cons, not_or] at stays
    obtain ⟨q₁, first, moved⟩ := step_present sound found (Ne.symm stays.1)
    obtain ⟨q₂, last, rest⟩ := ih (sound_step sound act) first stays.2
    refine ⟨q₂, last, ?_⟩
    have count : ((act :: acts).filterMap converts?).length =
        act.converts?.toList.length + (acts.filterMap converts?).length := by
      rw [List.filterMap_cons]
      cases act.converts? <;> simp [Nat.add_comm]
    rw [run, heard_append, List.append_assoc, rest, ← List.append_assoc, moved, count,
      List.replicate_add, List.append_assoc]

/-- Who is not there and is not to come does not come. -/
theorem run_absent (sound : a.Sound) {n : Nat} (old : n < a.nextId) (absent : a.queue? n = none)
    (acts : List (Act F)) : (run a acts).1.queue? n = none := by
  induction acts generalizing a with
  | nil => exact absent
  | cons act acts ih =>
    have early : act.connects → n ≠ a.nextId := fun _ => Nat.ne_of_lt old
    have after := step_absent sound absent early
    have next := nextId_step act a
    exact ih (sound_step sound act) (by omega) after.1

/-- Who has left does not come back. -/
theorem run_left (sound : a.Sound) {n : Nat} (old : n < a.nextId) {acts : List (Act F)}
    (leaves : .leave n ∈ acts) : (run a acts).1.queue? n = none := by
  induction acts generalizing a with
  | nil => cases leaves
  | cons act acts ih =>
    have next := nextId_step act a
    rcases List.mem_cons.1 leaves with rfl | later
    · refine run_absent (sound_step sound _) (by omega) ?_ acts
      exact (App.queue?_disconnect a n n).trans (if_pos rfl)
    · exact ih (sound_step sound act) (by omega) later

/-- Nobody reads before it has come. -/
theorem heard_before (sound : a.Sound) {n : Nat} {acts : List (Act F)}
    (unborn : a.nextId + acts.countP connects ≤ n) : heard n (run a acts).2 = [] := by
  induction acts generalizing a with
  | nil => rfl
  | cons act acts ih =>
    rw [List.countP_cons] at unborn
    have absent : a.queue? n = none :=
      App.queue?_eq_none_iff.2 fun member => by have := sound.below n member; omega
    have old : act.connects → n ≠ a.nextId := by
      intro new
      rw [if_pos new] at unborn
      omega
    have after := step_absent sound absent old
    have next := nextId_step act a
    rw [run, heard_append, after.2, ih (sound_step sound act) (by omega)]
    rfl

/-! ## The result -/

/-- The service before anything has happened. -/
theorem sound_start (s : Settings) : App.Sound { settings := s } where
  ordered := List.Pairwise.nil
  below := by simp [App.ids]

/-- A listener has read, or has still to read, one message for each workbook that was converted
since it came, unless it has left. -/
theorem queue?_of_since (s : Settings) {n : Nat} {acts later : List (Act F)}
    (since : Since n acts later) :
    let state := run { settings := s } acts
    (.leave n ∈ later → state.1.queue? n = none) ∧
      (.leave n ∉ later → ∃ q, state.1.queue? n = some q ∧
        heard n state.2 ++ q =
          List.replicate (later.filterMap converts?).length App.reload) := by
  obtain ⟨before, act, rfl, comes, count⟩ := since
  have sound := sound_run (sound_start s) before
  have number : (run { settings := s } before).1.nextId = n := by
    rw [nextId_run, count]
    exact Nat.zero_add n
  have silent : heard n (run { settings := s } before).2 = [] := by
    refine heard_before (sound_start s) ?_
    rw [count]
    exact Nat.le_of_eq (Nat.zero_add n)
  have came := step_connects sound comes
  have next := nextId_step act (run { settings := s } before).1
  rw [number] at came next
  rw [if_pos comes] at next
  rw [run_append, run]
  constructor
  · intro leaves
    exact run_left (sound_step sound act) (by omega) leaves
  · intro stays
    obtain ⟨q, found, read⟩ := run_present (sound_step sound act) came.1 stays
    refine ⟨q, found, ?_⟩
    rw [came.2, List.nil_append, heard_append, silent, List.nil_append, read, List.nil_append]

/-- Who is there has come and has not left. -/
theorem exists_since_of_mem (s : Settings) {n : Nat} {acts : List (Act F)}
    (member : n ∈ (run { settings := s } acts).1.ids) :
    ∃ later, Since n acts later ∧ .leave n ∉ later := by
  have given := (sound_run (sound_start s) acts).below n member
  rw [nextId_run] at given
  obtain ⟨later, since⟩ := exists_since (lt_of_lt_of_eq given (Nat.zero_add _))
  refine ⟨later, since, fun leaves => ?_⟩
  exact App.queue?_eq_none_iff.1 ((queue?_of_since s since).1 leaves) member

/-- A step that converts no workbook touches no queue but that of a listener that reads or leaves. -/
theorem mem_listeners_step {act : Act F} (idle : act.converts? = none) {l : Listener}
    (member : l ∈ a.listeners) (noRead : act ≠ .read l.id) (stays : act ≠ .leave l.id) :
    l ∈ (act.step a).1.listeners := by
  cases act with
  | request posts path u =>
    rcases step_request a posts path u with ⟨g, made, -, -⟩ | ⟨-, -, after⟩ | ⟨-, -, after⟩
    · rw [idle] at made
      cases made
    · rw [after]
      exact List.mem_append_left _ member
    · rwa [after]
  | read n =>
    have other : l.id ≠ n := fun same => noRead (congrArg Act.read same.symm)
    show l ∈ (a.read n).1.listeners
    unfold App.read
    split
    · exact List.mem_map.2 ⟨l, member, if_neg other⟩
    · exact member
  | leave n =>
    have other : l.id ≠ n := fun same => stays (congrArg Act.leave same.symm)
    exact List.mem_filter.2 ⟨member, decide_eq_true other⟩

/-- Whatever happens to the service, in any order, and whatever is loaded from the files that are
posted to it: it keeps the grid of the workbook converted last, and has none to show until one is
converted. Its listeners are those that have come and have not left, each once, and each has read,
or has still to read, exactly one message for each workbook converted since it came. A post is told
by its status whether the workbook was converted. A step that converts no workbook, be it that the
workbook is rejected, changes neither the grid nor the queue of any listener but the one that reads
or leaves in it. -/
theorem state_after_run (s : Settings) (acts : List (Act F)) :
    let a := (run { settings := s } acts).1
    let log := (run { settings := s } acts).2
    a.latest = (acts.filterMap converts?).getLast? ∧
    ((a.handle false "/graph" (none : Option (Upload F))).2.status = 404 ↔
      acts.filterMap converts? = []) ∧
    a.ids.Nodup ∧
    (∀ n, n ∈ a.ids ↔ ∃ later, Since n acts later ∧ .leave n ∉ later) ∧
    (∀ l ∈ a.listeners, ∃ later, Since l.id acts later ∧
      heard l.id log ++ l.queue =
        List.replicate (later.filterMap converts?).length App.reload) ∧
    (∀ path, Route.ofPath? path = some .convert → ∀ posts (u : Option (Upload F)),
      ((a.handle posts path u).2.status = 200 ↔ (request posts path u).converts?.isSome)) ∧
    ∀ act : Act F, act.converts? = none →
      (act.step a).1.latest = a.latest ∧
      ∀ l ∈ a.listeners, act ≠ .read l.id → act ≠ .leave l.id → l ∈ (act.step a).1.listeners := by
  intro a log
  have sound : a.Sound := sound_run (sound_start s) acts
  have kept : a.latest = (acts.filterMap converts?).getLast? :=
    (latest_run _ acts).trans (Option.or_none)
  refine ⟨kept, ?_, sound.nodup, ?_, ?_, fun path route => status_convert a route, ?_⟩
  · have route : App.Route.ofPath? "/graph" = some .view := by decide
    rw [App.handle_view route, App.view, kept, ← List.getLast?_eq_none_iff]
    cases (acts.filterMap converts?).getLast? with
    | none => simp [App.explain]
    | some g => simp
  · intro n
    constructor
    · exact exists_since_of_mem s
    · rintro ⟨later, since, stays⟩
      obtain ⟨q, found, -⟩ := (queue?_of_since s since).2 stays
      by_contra absent
      rw [App.queue?_eq_none_iff.2 absent] at found
      cases found
  · intro l member
    obtain ⟨later, since, stays⟩ := exists_since_of_mem s (List.mem_map_of_mem member)
    obtain ⟨q, found, read⟩ := (queue?_of_since s since).2 stays
    have own := sound.queue?_of_mem member
    rw [show a.queue? l.id = some q from found] at own
    cases own
    exact ⟨later, since, read⟩
  · intro act idle
    refine ⟨?_, fun l member noRead stays => mem_listeners_step idle member noRead stays⟩
    rw [latest_step, idle]
    rfl

/-- A listener comes, a file is rejected, a workbook is converted and the message read; another
listener comes, a second workbook is converted, and the other listener leaves. -/
theorem state_after_run_mixed :
    let good : Upload KnownFile := ⟨"book.xlsx", .book⟩
    let bad : Upload KnownFile := ⟨"notes.xlsx", .notes⟩
    let before : List (Act KnownFile) := [.request false "/events" none,
      .request true "/convert" (some bad), .request true "/convert" (some good), .read 0,
      .request false "/events" none, .request true "/convert" (some good)]
    let state := run {} (before ++ [leave 1])
    state.1.listeners = [⟨0, [App.reload]⟩] ∧ heard 0 state.2 = [App.reload] ∧
      (state.1.handle false "/graph" (none : Option (Upload KnownFile))).2.status ≠ 404 ∧
      (request true "/convert" (some bad)).converts? = none ∧
      ((request true "/convert" (some bad)).step state.1).1.latest = state.1.latest := by
  intro good bad before state
  have made : (request true "/convert" (some good)).converts?.isSome := by decide +kernel
  have none : (request true "/convert" (some bad)).converts? = none := by decide +kernel
  obtain ⟨-, shown, -, -, -, -, idle⟩ := state_after_run {} (before ++ [leave 1])
  refine ⟨by decide +kernel, by decide +kernel, ?_, none, (idle _ none).1⟩
  intro missing
  have nothing := shown.1 missing
  obtain ⟨g, some⟩ := Option.isSome_iff_exists.1 made
  have member : g ∈ (before ++ [leave 1]).filterMap converts? :=
    List.mem_filterMap.2 ⟨_, by simp [before], some⟩
  rw [nothing] at member
  cases member

end Act
end CellGraph
