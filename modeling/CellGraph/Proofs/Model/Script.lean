import CellGraph.Proofs.Json.Reading
import CellGraph.Service.Plan
import Mathlib.Data.List.Basic

/-!
# Reading scripts

The literals of a script hold no line breaks, and each fixed piece between two of them holds one
and starts as no JSON goes on. So a script is taken apart in one way only (`eq_literals_of_fill`),
and what the literals say is what has been written (`script_reads_back`).
-/

namespace CellGraph

/-- Texts without a separator are found again in front of a piece with that separator. -/
theorem Text.append_inj_of_mem {separator : Char} {piece t u x y : Text}
    (inside : separator ∈ piece) (left : separator ∉ t) (right : separator ∉ u)
    (same : t ++ (piece ++ x) = u ++ (piece ++ y)) : t = u ∧ x = y := by
  obtain ⟨before, after, rfl, absent⟩ := List.eq_append_cons_of_mem inside
  have cut : (t ++ before) ++ separator :: (after ++ x) =
      (u ++ before) ++ separator :: (after ++ y) := by
    simpa using same
  have upTo {v : Text} (free : separator ∉ v) (z : Text) :
      (v ++ separator :: z).takeWhile (· != separator) = v := by
    refine takeWhile_append_stop (fun c member => ?_) (by simp)
    simpa using ne_of_mem_of_not_mem member free
  have front : t ++ before = u ++ before := by
    have taken := congrArg (List.takeWhile (· != separator)) cut
    rwa [upTo (by simp [left, absent]), upTo (by simp [right, absent])] at taken
  rw [front] at cut
  have back := List.append_cancel_left cut
  exact ⟨List.append_cancel_right front, List.append_cancel_left (List.cons.inj back).2⟩

namespace Model

/-- Four texts for the gaps between the fixed pieces of a script. -/
structure Literals where
  tokenKey : Text
  referrer : Text
  payload : Text
  url : Text
  deriving DecidableEq, Repr

namespace Literals

def all (l : Literals) : List Text := [l.tokenKey, l.referrer, l.payload, l.url]

/-- The fixed pieces of a script with texts between them. -/
def fill (l : Literals) : Text :=
  let (a, b, c, d, e) := scriptPieces
  a ++ l.tokenKey ++ b ++ l.referrer ++ c ++ l.payload ++ d ++ l.url ++ e

theorem fill_eq (l : Literals) : l.fill =
    scriptPieces.1 ++ (l.tokenKey ++ (scriptPieces.2.1 ++ (l.referrer ++ (scriptPieces.2.2.1 ++
      (l.payload ++ (scriptPieces.2.2.2.1 ++ (l.url ++ scriptPieces.2.2.2.2))))))) := by
  simp only [fill, List.append_assoc]

end Literals

theorem integral_payload (m : Model) : Json.Integral m.payload := by
  have metrics : ∀ v ∈ m.metrics.map metricJson, Json.Integral v := by
    rw [List.forall_mem_map]
    intro x _
    simp only [metricJson, Json.Integral, Json.IntegralMembers, and_self]
  have estimates : ∀ v ∈ m.estimates.map estimateJson, Json.Integral v := by
    rw [List.forall_mem_map]
    intro x _
    simp only [estimateJson, Json.Integral, Json.IntegralMembers, and_self]
  simp only [payload, Json.Integral, Json.IntegralMembers, and_true]
  exact ⟨Json.integralAll_iff.2 metrics, Json.integralAll_iff.2 estimates⟩

/-! ## Literals -/

theorem blank_spaced : Json.Style.spaced.Blank := Json.Style.blank_of_all (by decide)

theorem blank_tight : Json.Style.tight.Blank := Json.Style.blank_of_all (by decide)

/-- The literals of the script for a model. -/
def literals (m : Model) (s : Settings) : Literals where
  tokenKey := literal s.tokenKey
  referrer := literal s.referrer
  payload := m.payload.text .tight
  url := literal (withoutSlashes s.spacesUrl)

theorem printable_literals (m : Model) (s : Settings) :
    ∀ t ∈ (m.literals s).all, ∀ c ∈ t, Text.Printable c := by
  have string (t : Text) : ∀ c ∈ literal t, Text.Printable c := fun _ =>
    Json.printable_of_mem_stringText
  have oneLine : Json.Style.tight.OneLine :=
    ⟨rfl, Text.forall_of_all (by decide), Text.forall_of_all (by decide)⟩
  have payload := Json.printable_write oneLine m.payload 0 m.integral_payload
  simp only [Literals.all, literals, List.forall_mem_cons]
  exact ⟨string _, string _, payload, string _, by simp⟩

theorem not_mem_literals (m : Model) (s : Settings) : ∀ t ∈ (m.literals s).all, '\n' ∉ t :=
  fun t member broken => absurd (printable_literals m s t member _ broken) (by decide)

theorem read?_literals (m : Model) (s : Settings) :
    (m.literals s).all.map Json.read? =
      [some (.string s.tokenKey), some (.string s.referrer), some m.payload,
        some (.string (withoutSlashes s.spacesUrl))] := by
  have string (t : Text) : Json.read? (literal t) = some (.string t) :=
    Json.read?_text blank_spaced trivial
  have payload := Json.read?_text blank_tight m.integral_payload
  simp only [Literals.all, literals, List.map_cons, List.map_nil, string, payload]

/-! ## Taking a script apart -/

/-- A text that cannot be continued in the way a piece starts can be told from any JSON in front of
that piece, and from any text without line breaks. -/
theorem append_inj_of_closed {piece t t' x y : Text} {c : Char} (starts : piece.head? = some c)
    (breaks : '\n' ∈ piece) (noBreak : '\n' ∉ t)
    (closed : ∀ more, Json.read? (t ++ c :: more) = none)
    (gap : '\n' ∉ t' ∨ (Json.read? t').isSome) (same : t ++ (piece ++ x) = t' ++ (piece ++ y)) :
    t = t' ∧ x = y := by
  rcases List.append_eq_append_iff.1 same with ⟨more, rfl, behind⟩ | ⟨more, rfl, -⟩
  · cases more with
    | nil => exact ⟨(List.append_nil t).symm, List.append_cancel_left behind⟩
    | cons d more =>
      have first : d = c := by
        have heads := congrArg List.head? behind
        rw [List.head?_append, starts] at heads
        simpa using heads.symm
      rcases gap with free | readable
      · exact Text.append_inj_of_mem breaks noBreak free same
      · rw [first, closed more] at readable
        cases readable
  · have free : '\n' ∉ t' := fun inside => noBreak (List.mem_append_left more inside)
    exact Text.append_inj_of_mem breaks noBreak free same

/-- Only the literals of a script fill the gaps between its pieces, among all texts that are JSON
or have no line breaks. -/
theorem eq_literals_of_fill {m : Model} {s : Settings} {l : Literals}
    (gaps : ∀ t ∈ l.all, '\n' ∉ t ∨ (Json.read? t).isSome) (same : (m.literals s).fill = l.fill) :
    l = m.literals s := by
  have noBreak := not_mem_literals m s
  have starts : scriptPieces.2.1.head? = some ')' ∧ scriptPieces.2.2.1.head? = some ',' ∧
      scriptPieces.2.2.2.1.head? = some ')' := by decide +kernel
  have breaks : '\n' ∈ scriptPieces.2.1 ∧ '\n' ∈ scriptPieces.2.2.1 ∧
      '\n' ∈ scriptPieces.2.2.2.1 := by decide +kernel
  have closed (t : Text) {c : Char} (next : c = ')' ∨ c = ',') (more : Text) :
      Json.read? (literal t ++ c :: more) = none :=
    Json.read?_text_append (v := .string t) blank_spaced trivial next more
  simp only [Literals.all, List.forall_mem_cons] at noBreak gaps
  rw [Literals.fill_eq, Literals.fill_eq] at same
  have behind := List.append_cancel_left same
  obtain ⟨key, behind⟩ := append_inj_of_closed starts.1 breaks.1 noBreak.1
    (closed s.tokenKey (.inl rfl)) gaps.1 behind
  obtain ⟨referrer, behind⟩ := append_inj_of_closed starts.2.1 breaks.2.1 noBreak.2.1
    (closed s.referrer (.inr rfl)) gaps.2.1 behind
  obtain ⟨payload, behind⟩ := append_inj_of_closed starts.2.2 breaks.2.2 noBreak.2.2.1
    (Json.read?_text_append blank_tight m.integral_payload (.inl rfl)) gaps.2.2.1 behind
  have url := List.append_cancel_right behind
  cases l
  exact Literals.mk.injEq .. ▸ ⟨key.symm, referrer.symm, payload.symm, url.symm⟩

/-- For every grid, whatever texts its cells and the settings hold: the script is taken apart in
one way into its fixed pieces and four texts that are JSON or have no line breaks; these are
printable ASCII and are read as the token's entry, the referrer, the payload and the address of the
spaces. The file of the payload that is saved beside the script is read as the same payload. -/
theorem script_reads_back (g : Grid) (s : Settings) (folder stem : Text) :
    let m := ofGrid g
    ∃ l : Literals, m.script s = l.fill ∧
      (∀ l' : Literals, (∀ t ∈ l'.all, '\n' ∉ t ∨ (Json.read? t).isSome) →
        m.script s = l'.fill → l' = l) ∧
      (∀ t ∈ l.all, ∀ c ∈ t, Text.Printable c) ∧
      l.all.map Json.read? =
        [some (.string s.tokenKey), some (.string s.referrer), some m.payload,
          some (.string (withoutSlashes s.spacesUrl))] ∧
      ∃ saved, Json.read? saved = some m.payload ∧
        let paths := Outputs.paths folder stem
        Plan.saveOutputs s folder stem g =
          .makeFolder (Path.plain folder) (.write paths.json (.text saved)
            (.write paths.script (.text (m.script s))
              (.write paths.flowchart (.text (Flowchart.ofGrid g ++ ['\n'])) (.done paths)))) := by
  intro m
  have indented : Json.Style.indented.Blank := Json.Style.blank_of_all (by decide)
  exact ⟨m.literals s, rfl, fun l' gaps same => eq_literals_of_fill gaps same,
    printable_literals m s, read?_literals m s, m.payload.text .indented,
    Json.read?_text indented m.integral_payload, rfl⟩

/-- A label that would end its literal and the payload. -/
def hostileGrid : Grid := ⟨[⟨"S!A1", [], "\"\x7d),\n\\u0022", [], 1, 1, []⟩], ["S"]⟩

/-- Texts that would end their literals, one with characters beyond ASCII. -/
def hostileSettings : Settings where
  tokenKey := "\")).token;\n//é😀\u2028"
  referrer := "\\"
  spacesUrl := "https://a//"

def hostileLiterals : Literals where
  tokenKey := "\"\\\")).token;\\n//\\u00e9\\ud83d\\ude00\\u2028\""
  referrer := "\"\\\\\""
  payload := (ofGrid hostileGrid).payload.text .tight
  url := "\"https://a\""

theorem script_reads_back_hostile :
    (ofGrid hostileGrid).script hostileSettings = hostileLiterals.fill ∧
      (∀ t ∈ hostileLiterals.all, '\n' ∉ t) ∧
      hostileLiterals.all.map Json.read? =
        [some (.string "\")).token;\n//é😀\u2028"), some (.string "\\"),
          some (ofGrid hostileGrid).payload, some (.string "https://a")] := by
  have key : literal hostileSettings.tokenKey = hostileLiterals.tokenKey := by decide +kernel
  have referrer : literal hostileSettings.referrer = hostileLiterals.referrer := by decide +kernel
  have address : withoutSlashes hostileSettings.spacesUrl = "https://a" := by decide +kernel
  have url : literal "https://a" = hostileLiterals.url := by decide +kernel
  have written : (ofGrid hostileGrid).literals hostileSettings = hostileLiterals := by
    rw [literals, key, referrer, address, url]
    rfl
  have filled : (ofGrid hostileGrid).script hostileSettings = hostileLiterals.fill := by
    rw [← written]
    rfl
  have noBreak := not_mem_literals (ofGrid hostileGrid) hostileSettings
  rw [written] at noBreak
  obtain ⟨l, -, unique, -, read, -⟩ := script_reads_back hostileGrid hostileSettings [] []
  have same := unique hostileLiterals (fun t member => .inl (noBreak t member)) filled
  rw [← same, address] at read
  exact ⟨filled, noBreak, read⟩

end Model
end CellGraph
