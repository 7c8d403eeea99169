import CellGraph.Proofs.Service.Listeners
import CellGraph.Proofs.Text.Path
import CellGraph.Service.Command

/-!
# What a conversion does to its surroundings

A plan that only shows lines leaves requests, folders and files as they were (`Plan.Tells`), and a
plan that sends nothing does not depend on what would come back (`Plan.Offline`). Every command and
the watcher look at the workbook first; so one that cannot be converted has no effect, and of one
that can the watcher writes what the command writes (`effects_of_conversion`). Which workbooks those
are depends on the loader of the world, and nothing else does.
-/

namespace CellGraph

/-! ## Plans that only show lines -/

/-- Between two traces lines have been shown, and nothing else has been done. -/
structure Trace.OnlyShown (t after : Trace) : Prop where
  requests : after.requests = t.requests
  folders : after.folders = t.folders
  files : after.files = t.files

namespace Trace.OnlyShown
variable {t₁ t₂ t₃ : Trace}

theorem refl (t : Trace) : t.OnlyShown t := ⟨rfl, rfl, rfl⟩

theorem trans (first : t₁.OnlyShown t₂) (second : t₂.OnlyShown t₃) : t₁.OnlyShown t₃ where
  requests := second.requests.trans first.requests
  folders := second.folders.trans first.folders
  files := second.files.trans first.files

end Trace.OnlyShown

namespace Plan
variable {α β : Type} {p : Plan α} {f : α → Plan β}

theorem run_bind (w : World) (t : Trace) (p : Plan α) (f : α → Plan β) :
    (p >>= f).run w t =
      match p.run w t with
      | (after, some a) => (f a).run w after
      | (after, none) => (after, none) := by
  show (p.andThen f).run w t = _
  induction p generalizing t with
  | done a => rfl
  | fail => rfl
  | show_ line next ih => exact ih _
  | complain line next ih => exact ih _
  | load path next ih => exact ih _ _
  | makeFolder path next ih =>
    simp only [andThen, run]
    split
    · rfl
    · exact ih _
  | write path content next ih =>
    simp only [andThen, run]
    split
    · exact ih _
    · rfl
  | send r next ih => exact ih _ _

/-- A plan does nothing but show lines, wherever it is run, and comes to a result. -/
def Tells (p : Plan α) (result : Option α) : Prop :=
  ∀ w t, t.OnlyShown (p.run w t).1 ∧ (p.run w t).2 = result

theorem tells_pure (a : α) : (pure a : Plan α).Tells (some a) := fun _ t => ⟨.refl t, rfl⟩

theorem tells_fail : (fail : Plan α).Tells none := fun _ t => ⟨.refl t, rfl⟩

theorem tells_say (line : Text) : (say line).Tells (some ()) := fun _ _ => ⟨⟨rfl, rfl, rfl⟩, rfl⟩

theorem tells_warn (line : Text) : (warn line).Tells (some ()) := fun _ _ => ⟨⟨rfl, rfl, rfl⟩, rfl⟩

theorem Tells.bind {a : α} {result : Option β} (first : p.Tells (some a))
    (second : (f a).Tells result) : (p >>= f).Tells result := by
  intro w t
  obtain ⟨shown, value⟩ := first w t
  rw [run_bind]
  generalize p.run w t = ended at shown value
  obtain ⟨after, r⟩ := ended
  cases value
  exact ⟨shown.trans (second w after).1, (second w after).2⟩

/-- What is told at the end of a plan changes neither what the plan has done nor whether it comes to
a result. -/
theorem run_bind_tells {b : β} (tells : ∀ a, (f a).Tells (some b)) (w : World) (t : Trace) :
    (p.run w t).1.OnlyShown ((p >>= f).run w t).1 ∧
      ((p >>= f).run w t).2 = (p.run w t).2.map fun _ => b := by
  rw [run_bind]
  rcases p.run w t with ⟨after, _ | a⟩
  · exact ⟨.refl after, rfl⟩
  · exact tells a w after

theorem Tells.forM {l : List β} {f : β → Plan Unit} (each : ∀ b, (f b).Tells (some ())) :
    (l.forM f).Tells (some ()) := by
  induction l with
  | nil => exact tells_pure ()
  | cons b l ih => exact (each b).bind ih

/-! ## Plans that send nothing -/

/-- What becomes of a plan does not depend on what would come back for requests. -/
def Offline (p : Plan α) : Prop :=
  ∀ w reply t, p.run { w with reply := reply } t = p.run w t

theorem offline_pure (a : α) : (pure a : Plan α).Offline := fun _ _ _ => rfl

theorem offline_save (path : Text) (content : FileContent) : (save path content).Offline :=
  fun _ _ _ => rfl

theorem offline_makeFolder (path : Text) : (makeFolder path (.done ())).Offline :=
  fun _ _ _ => rfl

theorem Offline.bind (first : p.Offline) (second : ∀ a, (f a).Offline) : (p >>= f).Offline := by
  intro w reply t
  rw [run_bind, run_bind, first w reply t]
  rcases p.run w t with ⟨after, _ | a⟩
  · rfl
  · exact second a w reply after

theorem Offline.forM {l : List β} {f : β → Plan Unit} (each : ∀ b, (f b).Offline) :
    (l.forM f).Offline := by
  induction l with
  | nil => exact offline_pure ()
  | cons b l ih => exact (each b).bind fun _ => ih

theorem offline_saveOutputs (s : Settings) (folder stem : Text) (g : Grid) :
    (saveOutputs s folder stem g).Offline :=
  (offline_makeFolder _).bind fun _ =>
    (Offline.forM fun _ => offline_save _ _).bind fun _ => offline_pure _

/-! ## Writing the files for a grid -/

/-- If the files are written, their paths are known. -/
theorem snd_run_saveOutputs (w : World) (t : Trace) (s : Settings) (folder stem : Text) (g : Grid) :
    ((saveOutputs s folder stem g).run w t).2 = none ∨
      ((saveOutputs s folder stem g).run w t).2 = some (Outputs.paths folder stem) := by
  unfold saveOutputs
  dsimp only
  rw [run_bind]
  split
  · rw [run_bind]
    split
    · exact .inr rfl
    · exact .inl rfl
  · exact .inl rfl

end Plan

section Writing
variable {w : World} {t : Trace} {folder path : Text}

theorem World.hasFolder_iff : w.hasFolder t path ↔
    path = w.at_ ['.'] ∨ path ∈ t.folders ∨
      ∃ q ∈ w.files.map (·.1) ++ t.folders ++ t.files.map (·.1),
        (Text.after? (path ++ ['/']) q).isSome := by
  unfold World.hasFolder
  rw [Bool.or_eq_true, Bool.or_eq_true, List.any_eq_true, List.contains_iff_mem, decide_eq_true_iff,
    or_assoc]

theorem Trace.mem_putFile {content : FileContent} {files : List (Text × FileContent)} {q : Text}
    (member : q ∈ (putFile path content files).map (·.1)) :
    q = path ∨ q ∈ files.map (·.1) := by
  induction files with
  | nil => exact .inl (by simpa [putFile] using member)
  | cons file files ih =>
    obtain ⟨p, c⟩ := file
    unfold putFile at member
    split at member
    · rcases List.mem_cons.1 member with here | later
      · exact .inl here
      · exact .inr (List.mem_cons_of_mem _ later)
    · rcases List.mem_cons.1 member with here | later
      · exact .inr (here ▸ List.mem_cons_self)
      · exact (ih later).imp id (List.mem_cons_of_mem _)

/-- A path stays free when a folder is made, unless it leads to that folder or above it. -/
theorem World.hasFolder_makeFolder {made : Text} (free : w.hasFolder t path = false)
    (other : path ≠ made) (apart : Text.after? (path ++ ['/']) made = none) :
    w.hasFolder { t with folders := t.folders ++ [made] } path = false := by
  rw [← Bool.not_eq_true, World.hasFolder_iff] at free ⊢
  rintro (here | member | ⟨q, member, below⟩)
  · exact free (.inl here)
  · rcases List.mem_append.1 member with old | new
    · exact free (.inr (.inl old))
    · exact other (List.mem_singleton.1 new)
  · have new : q = made ∨ q ∈ w.files.map (·.1) ++ t.folders ++ t.files.map (·.1) := by
      simp only [List.mem_append, List.mem_singleton] at member ⊢
      tauto
    rcases new with rfl | old
    · rw [apart] at below
      cases below
    · exact free (.inr (.inr ⟨q, old, below⟩))

/-- A path stays free when a file is written that does not lie below it. -/
theorem World.hasFolder_putFile {written : Text} {content : FileContent}
    (free : w.hasFolder t path = false) (apart : Text.after? (path ++ ['/']) written = none) :
    w.hasFolder { t with files := Trace.putFile written content t.files } path = false := by
  rw [← Bool.not_eq_true, World.hasFolder_iff] at free ⊢
  rintro (here | member | ⟨q, member, below⟩)
  · exact free (.inl here)
  · exact free (.inr (.inl member))
  · rcases List.mem_append.1 member with old | new
    · exact free (.inr (.inr ⟨q, List.mem_append_left _ old, below⟩))
    · rcases Trace.mem_putFile new with rfl | old
      · rw [apart] at below
        cases below
      · exact free (.inr (.inr ⟨q, List.mem_append_right _ old, below⟩))

/-- A file in a folder, by a path in plain form. -/
def IsIn (folder path : Text) : Prop :=
  ∃ n, Path.IsFileName n ∧ path = Path.plain (Path.within folder n)

theorem isIn_paths (folder workbook : Text) :
    ∀ output ∈ (Outputs.paths folder (Path.stem workbook)).listed, IsIn folder output.2 := by
  have named (ending : String) (clean : '/' ∉ ending.toList) (long : 2 < ending.toList.length) :
      IsIn folder (Path.plain (Path.within folder (Path.stem workbook ++ ending))) :=
    ⟨_, Path.isFileName_append (Path.noSlash_stem workbook) clean long, rfl⟩
  intro output member
  simp only [Outputs.listed, List.mem_cons, List.not_mem_nil, or_false] at member
  rcases member with rfl | rfl | rfl
  · exact named ".json" (by decide) (by decide)
  · exact named ".js" (by decide) (by decide)
  · exact named ".mmd" (by decide) (by decide)

/-- The files of a trace after some more have been written, given by their paths. -/
def Trace.filesWith (w : World) (t : Trace) (items : List (Text × Text)) :
    List (Text × FileContent) :=
  items.foldl (fun files item => Trace.putFile (w.at_ item.1) (.text item.2) files) t.files

/-- Files can be written into a folder that is there, and not in the place of folders. -/
theorem Plan.run_saves {items : List (Text × Text)}
    (there : w.at_ (Path.plain folder) ∈ t.folders) (inside : ∀ item ∈ items, IsIn folder item.1)
    (free : ∀ item ∈ items, w.hasFolder t (w.at_ item.1) = false) :
    (items.forM fun (path, text) => save path (.text text)).run w t =
      ({ t with files := t.filesWith w items }, some ()) := by
  induction items generalizing t with
  | nil => rfl
  | cons item items ih =>
    obtain ⟨first, others⟩ := List.forall_mem_cons.1 inside
    obtain ⟨freeFirst, freeOthers⟩ := List.forall_mem_cons.1 free
    obtain ⟨n, isFile, same⟩ := first
    have above : Path.resolve (w.at_ item.1) ".." = w.at_ (Path.plain folder) := by
      rw [same, World.at_, World.at_, Path.resolve_plain, Path.resolve_plain,
        Path.resolve_parent isFile]
    have parent : w.hasFolder t (Path.resolve (w.at_ item.1) "..") :=
      World.hasFolder_iff.2 (.inr (.inl (above ▸ there)))
    have written : (save item.1 (.text item.2)).run w t =
        ({ t with files := Trace.putFile (w.at_ item.1) (.text item.2) t.files }, some ()) := by
      show (if _ then _ else _) = _
      rw [parent, freeFirst]
      rfl
    refine (run_bind w t (save item.1 (.text item.2)) _).trans ?_
    rw [written]
    refine ih there others fun other member => ?_
    obtain ⟨m, isFile', same'⟩ := others other member
    refine World.hasFolder_putFile (freeOthers other member) ?_
    rw [same, same', World.at_, World.at_, Path.resolve_plain, Path.resolve_plain]
    exact Path.after?_file isFile' isFile

/-- The files for a grid can be written if their folder can be made and no folder stands in their
place. -/
theorem Plan.run_saveOutputs {workbook : Text} (s : Settings) (g : Grid)
    (clear : w.isBlocked t (w.at_ (Path.plain folder)) = false)
    (free : ∀ output ∈ (Outputs.paths folder (Path.stem workbook)).listed,
      w.hasFolder t (w.at_ output.2) = false) :
    let outputs := Outputs.paths folder (Path.stem workbook)
    (saveOutputs s folder (Path.stem workbook) g).run w t =
      ({ t with
          folders := t.folders ++ [w.at_ (Path.plain folder)]
          files := t.filesWith w (outputs.files s g) }, some outputs) := by
  intro outputs
  have inside (item : Text × Text) (member : item ∈ outputs.files s g) :
      ∃ output ∈ outputs.listed, output.2 = item.1 := by
    simp only [Outputs.files, List.mem_cons, List.not_mem_nil, or_false] at member
    rcases member with rfl | rfl | rfl <;> simp [Outputs.listed]
  have made : (makeFolder (Path.plain folder) (.done ())).run w t =
      ({ t with folders := t.folders ++ [w.at_ (Path.plain folder)] }, some ()) := by
    show (if _ then _ else _) = _
    rw [clear]
    rfl
  have written : ((outputs.files s g).forM fun (path, text) => save path (.text text)).run w
      { t with folders := t.folders ++ [w.at_ (Path.plain folder)] } =
      ({ t with
          folders := t.folders ++ [w.at_ (Path.plain folder)]
          files := t.filesWith w (outputs.files s g) }, some ()) := by
    refine run_saves (List.mem_append_right _ List.mem_cons_self) ?_ ?_
    · intro item member
      obtain ⟨output, listed, same⟩ := inside item member
      exact same ▸ isIn_paths folder workbook output listed
    · intro item member
      obtain ⟨output, listed, same⟩ := inside item member
      obtain ⟨n, isFile, path⟩ := isIn_paths folder workbook output listed
      have place : w.at_ item.1 = Path.resolve w.folder (Path.within folder n) := by
        rw [← same, path, World.at_, Path.resolve_plain]
      have top : w.at_ (Path.plain folder) = Path.resolve w.folder folder := Path.resolve_plain _ _
      refine World.hasFolder_makeFolder (same ▸ free output listed) ?_ ?_
      · rw [place, top]
        exact Path.resolve_file_ne isFile
      · rw [place, top]
        exact Path.after?_folder isFile
  unfold saveOutputs
  dsimp only
  rw [run_bind, made]
  dsimp only
  rw [run_bind, written]
  rfl

end Writing

/-! ## Commands and the watcher -/

/-- The conversion of the workbook at a path. -/
def World.grid (w : World) (path : Text) : Except ConversionError Grid :=
  Conversion.ofBook (w.book path)

/-- What is done about an error: a line is shown if the error is one for the user. -/
def ConversionError.told {α : Type} (e : ConversionError) (line : Text → Plan Unit) (result : α) :
    Plan α :=
  match e.shown? with
  | some message => do
    line message
    return result
  | none => .fail

theorem ConversionError.tells_told {α : Type} (e : ConversionError) {line : Text → Plan Unit}
    (shows : ∀ message, (line message).Tells (some ())) (result : α) :
    (e.told line result).Tells (e.shown?.map fun _ => result) := by
  unfold told
  split
  · next message shown =>
    rw [shown]
    exact (shows message).bind (Plan.tells_pure result)
  · next shown =>
    rw [shown]
    exact Plan.tells_fail

section Conversions
variable {w : World} {t : Trace} {g : Grid} {e : ConversionError}

/-- Whoever needs the grid of a workbook looks at the workbook first. -/
theorem Command.run_withGrid (w : World) (t : Trace) (path : Text) (use : Grid → Plan Ending) :
    (withGrid path use).run w t =
      match w.grid path with
      | .ok g => (use g).run w t
      | .error e => (e.told (fun message => Plan.warn ("❌  " ++ message)) (.exit 1)).run w t := by
  unfold withGrid World.grid
  rw [Plan.run_bind]
  simp only [Plan.grid, Plan.run]
  cases Conversion.ofBook (w.book path) <;> rfl

/-- What is done with the files of a converted workbook that is watched. -/
def Watch.handOver (watch : Watch) (outputs : Outputs) : Plan (Option Outputs) := do
  if watch.notifies then
    match ← Plan.ask (.notify watch.settings (Path.name watch.path)) with
    | .response _ => pure ()
    | .failure why =>
      Plan.say ("❌  API not reachable at " ++ watch.settings.serviceUrl ++ ": " ++ why)
  return some outputs

theorem Watch.run_sync (w : World) (t : Trace) (watch : Watch) :
    watch.sync.run w t =
      match w.grid watch.path with
      | .ok g => (Plan.saveOutputs watch.settings watch.folder (Path.stem watch.path) g >>=
          watch.handOver).run w t
      | .error e => (e.told (fun message =>
          Plan.say ("⚠️  " ++ Path.name watch.path ++ ": " ++ message)) none).run w t := by
  unfold Watch.sync World.grid
  rw [Plan.run_bind]
  simp only [Plan.grid, Plan.run]
  cases Conversion.ofBook (w.book watch.path) <;> rfl

/-- Whether or not the service can be reached, the files stay and the result is where they are. -/
theorem Watch.run_handOver (w : World) (t : Trace) (watch : Watch) (outputs : Outputs) :
    let ended := (watch.handOver outputs).run w t
    ended.1.files = t.files ∧ ended.1.folders = t.folders ∧ ended.2 = some (some outputs) := by
  unfold handOver
  dsimp only
  split
  · rw [Plan.run_bind]
    simp only [Plan.ask, Plan.run]
    split
    · exact ⟨rfl, rfl, rfl⟩
    · exact ⟨rfl, rfl, rfl⟩
  · exact ⟨rfl, rfl, rfl⟩

/-- The workbook that a command converts, if it converts one and ends. -/
def Command.workbook? : Command → Option Text
  | .convert workbook _ | .diagram workbook .. | .push workbook .. => some workbook
  | .help | .watch .. | .serve .. => none

/-- A command that finds a workbook that cannot be converted shows why, and does nothing else. -/
theorem Command.run_of_error {command : Command} {workbook : Text}
    (reads : command.workbook? = some workbook) (failed : w.grid workbook = .error e)
    (s : Settings) (current : Text) (t : Trace) :
    let ended := (command.plan s current).run w t
    t.OnlyShown ended.1 ∧ ended.2 = e.shown?.map fun _ => .exit 1 := by
  have refused (use : Grid → Plan Ending) :
      let ended := (withGrid workbook use).run w t
      t.OnlyShown ended.1 ∧ ended.2 = e.shown?.map fun _ => .exit 1 := by
    dsimp only
    rw [run_withGrid, failed]
    exact e.tells_told (fun _ => Plan.tells_warn _) _ w t
  unfold plan
  cases command with
  | convert workbook' folder => cases reads; exact refused _
  | diagram workbook' page image asLink => cases reads; exact refused _
  | push workbook' space token => cases reads; exact refused _
  | help => cases reads
  | watch workbook' folder notifies => cases reads
  | serve host port => cases reads

theorem Watch.run_of_error {watch : Watch} (failed : w.grid watch.path = .error e) (t : Trace) :
    let ended := watch.sync.run w t
    t.OnlyShown ended.1 ∧ ended.2 = e.shown?.map fun _ => none := by
  dsimp only
  rw [run_sync, failed]
  exact e.tells_told (fun _ => Plan.tells_say _) none w t

/-- A file that cannot be converted leaves the service as it was, and is answered. -/
theorem App.handle_of_error {F : Type} [Loader F] {u : Upload F}
    (failed : Conversion.ofFile u.file = .error e) {path : Text}
    (route : Route.ofPath? path = some .convert ∨ Route.ofPath? path = some .draw) (a : App) :
    (a.handle true path (some u)).1 = a ∧
      (u.fileName ≠ [] →
        (a.handle true path (some u)).2.status = if e.shown?.isSome then 400 else 500) := by
  have answer : (rejection u e).status = if e.shown?.isSome then 400 else 500 := by
    unfold rejection
    cases e.shown? <;> rfl
  by_cases named : u.fileName ≠ []
  · rcases route with route | route
    · rw [handle_convert route named, convert, failed]
      exact ⟨rfl, fun _ => answer⟩
    · rw [handle_draw route named, draw, failed]
      exact ⟨rfl, fun _ => answer⟩
  · refine ⟨handle_post fun _ => ?_, fun present => absurd present named⟩
    simp [not_not.1 named]

/-- The command writes the files for the grid, and then only tells about them. -/
theorem Command.run_convert {workbook : Text} (made : w.grid workbook = .ok g) (s : Settings)
    (current folder : Text) (t : Trace) :
    let saved := (Plan.saveOutputs s folder (Path.stem workbook) g).run w t
    let ended := ((convert workbook folder).plan s current).run w t
    saved.1.OnlyShown ended.1 ∧ ended.2 = saved.2.map fun _ => .exit 0 := by
  unfold plan convertPlan
  dsimp only
  rw [run_withGrid, made]
  refine Plan.run_bind_tells (fun outputs => ?_) w t
  exact (Plan.Tells.forM fun _ => Plan.tells_say _).bind
    ((Plan.Tells.forM fun _ => Plan.tells_warn _).bind (Plan.tells_pure _))

/-- The watcher writes the files for the grid, whatever the service answers. -/
theorem Watch.run_of_ok {watch : Watch} (made : w.grid watch.path = .ok g)
    (reply : Request → Reply) (t : Trace) :
    let saved := (Plan.saveOutputs watch.settings watch.folder (Path.stem watch.path) g).run w t
    let ended := watch.sync.run { w with reply := reply } t
    ended.1.files = saved.1.files ∧ ended.1.folders = saved.1.folders ∧
      ended.2 = saved.2.map some := by
  have same : World.grid { w with reply := reply } watch.path = .ok g := made
  dsimp only
  rw [run_sync, same]
  dsimp only
  rw [Plan.run_bind, Plan.offline_saveOutputs]
  rcases (Plan.saveOutputs _ _ _ g).run w t with ⟨after, _ | outputs⟩
  · exact ⟨rfl, rfl, rfl⟩
  · exact run_handOver { w with reply := reply } after watch outputs

end Conversions

/-- Whatever the loader of a world makes of its files, a workbook that cannot be converted has no
effect, whichever command it is given to with whatever options, whether it is watched or posted: no
request is sent, no folder made and no file written, and the service stays as it was. If the error
is one for the user, the command exits with 1, the watcher has no result and the service answers
400. A workbook that can be converted is written by the watcher as it is by the command, and
whatever comes back from the service the watcher tells where; both do so wherever there is room for
the files. -/
theorem effects_of_conversion (w : World) (t : Trace) :
    (∀ (command : Command) workbook e, command.workbook? = some workbook →
      w.grid workbook = .error e → ∀ s current,
        let ended := (command.plan s current).run w t
        t.OnlyShown ended.1 ∧ ended.2 = e.shown?.map fun _ => .exit 1) ∧
    (∀ (watch : Watch) e, w.grid watch.path = .error e →
      let ended := watch.sync.run w t
      t.OnlyShown ended.1 ∧ ended.2 = e.shown?.map fun _ => none) ∧
    (∀ (u : Upload w.File) e, Conversion.ofFile u.file = .error e → ∀ path,
      App.Route.ofPath? path = some .convert ∨ App.Route.ofPath? path = some .draw → ∀ a : App,
        (a.handle true path (some u)).1 = a ∧
          (u.fileName ≠ [] →
            (a.handle true path (some u)).2.status = if e.shown?.isSome then 400 else 500)) ∧
    ∀ (watch : Watch) g, w.grid watch.path = .ok g → ∀ reply current,
      let outputs := Outputs.paths watch.folder (Path.stem watch.path)
      let synced := watch.sync.run { w with reply := reply } t
      let converted :=
        ((Command.convert watch.path watch.folder).plan watch.settings current).run w t
      synced.1.files = converted.1.files ∧ synced.1.folders = converted.1.folders ∧
      (synced.2 = some (some outputs) ∧ converted.2 = some (.exit 0) ∨
        synced.2 = none ∧ converted.2 = none) ∧
      (w.isBlocked t (w.at_ (Path.plain watch.folder)) = false →
        (∀ output ∈ outputs.listed, w.hasFolder t (w.at_ output.2) = false) →
          synced.2 = some (some outputs) ∧
            synced.1.files = t.filesWith w (outputs.files watch.settings g)) := by
  refine ⟨?_, ?_, ?_, ?_⟩
  · intro command workbook e reads failed s current
    exact Command.run_of_error reads failed s current t
  · intro watch e failed
    exact Watch.run_of_error failed t
  · intro u e failed path route a
    exact App.handle_of_error failed route a
  · intro watch g made reply current
    dsimp only
    obtain ⟨told, ended⟩ := Command.run_convert made watch.settings current watch.folder t
    obtain ⟨files, folders, handed⟩ := Watch.run_of_ok made reply t
    refine ⟨files.trans told.files.symm, folders.trans told.folders.symm, ?_, ?_⟩
    · rcases Plan.snd_run_saveOutputs w t watch.settings watch.folder (Path.stem watch.path) g with
        none | done
      · rw [none] at ended handed
        exact .inr ⟨handed, ended⟩
      · rw [done] at ended handed
        exact .inl ⟨handed, ended⟩
    · intro clear free
      have saved := Plan.run_saveOutputs watch.settings g clear free
      rw [saved] at files handed
      exact ⟨handed, files⟩

/-- A file that is no workbook beside one that is, with a service that cannot be reached. -/
theorem effects_of_conversion_unreachable :
    let w : World := ⟨"/home", [("/home/notes.xlsx", KnownFile.notes),
      ("/home/book.xlsx", KnownFile.book)], fun _ => .response {}⟩
    let watch : Watch := ⟨"/home/book.xlsx", "out", {}, true⟩
    let drawing : Command := .diagram "notes.xlsx" (some "page.html") none false
    let drawn := (drawing.plan {} "/home").run w {}
    let skipped := ({ watch with path := "/home/notes.xlsx" } : Watch).sync.run w {}
    let notes : Upload KnownFile := ⟨"notes.xlsx", .notes⟩
    let answer := (({} : App).handle true "/diagram" (some notes)).2
    let refuse : Request → Reply := fun _ => .failure "refused"
    drawn.2 = some (.exit 1) ∧ skipped.2 = some none ∧ answer.status = 400 ∧
      (watch.sync.run { w with reply := refuse } {}).2 =
        some (some ⟨"out/book.json", "out/book.js", "out/book.mmd"⟩) ∧
      (watch.sync.run { w with reply := refuse } {}).1.files.map (·.1) =
        ["/home/out/book.json".toList, "/home/out/book.js".toList, "/home/out/book.mmd".toList] := by
  intro w watch drawing drawn skipped notes answer refuse
  obtain ⟨commands, watching, posts, converted⟩ := effects_of_conversion w {}
  have broken : w.grid "notes.xlsx" =
      .error (.read (.document "Cannot read workbook: File is not a zip file")) := by decide +kernel
  have broken' : w.grid "/home/notes.xlsx" =
      .error (.read (.document "Cannot read workbook: File is not a zip file")) := by decide +kernel
  have good : (w.grid watch.path).toOption.isSome := by decide +kernel
  obtain ⟨g, made⟩ : ∃ g, w.grid watch.path = .ok g := by
    cases made : w.grid watch.path with
    | ok g => exact ⟨g, rfl⟩
    | error e =>
      rw [made] at good
      cases good
  obtain ⟨-, -, -, written⟩ := converted watch g made refuse "/home"
  obtain ⟨result, files⟩ := written (by decide +kernel) (by decide +kernel)
  have paths : Outputs.paths watch.folder (Path.stem watch.path) =
      ⟨"out/book.json", "out/book.js", "out/book.mmd"⟩ := by decide +kernel
  have json : w.at_ "out/book.json" = "/home/out/book.json".toList := by decide +kernel
  have script : w.at_ "out/book.js" = "/home/out/book.js".toList := by decide +kernel
  have flowchart : w.at_ "out/book.mmd" = "/home/out/book.mmd".toList := by decide +kernel
  rw [paths] at result files
  refine ⟨?_, ?_, ?_, result, ?_⟩
  · exact (commands drawing _ _ rfl broken {} _).2
  · exact (watching { watch with path := "/home/notes.xlsx" } _ broken').2
  · exact (posts notes _ rfl "/diagram" (.inr (by decide)) {}).2 (by decide)
  · rw [files]
    simp only [Trace.filesWith, Outputs.files, List.foldl_cons, List.foldl_nil, json, script,
      flowchart]
    simp [Trace.putFile]

end CellGraph
