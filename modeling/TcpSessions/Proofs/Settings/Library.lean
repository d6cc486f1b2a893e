import Mathlib.Data.List.Basic
import TcpSessions.Settings.Standard
/-!
# What the library for settings promises

The library that settings rest on is not part of this project. What is relied on is what its
documentation says (`Library.Documented`): values given directly come before the environment, the
environment before the environment file; names are compared without regard to letter case; one of
some texts, or any text, is read as it stands. How integers and truth values are read is left open.
`Library.standard` keeps these promises.
-/
namespace TcpSessions.Settings

variable {α : Type} {name : String} {entries : List (String × α)} {v : α}

/-- Names that differ in letter case at most. -/
def SameName (name name' : String) : Prop := foldCase name = foldCase name'

/-- What the documentation of the library says. -/
structure Library.Documented (lib : Library) : Prop where
  /-- A value is given directly under the name of the variable. -/
  given_exact : ∀ {given name v}, mapped? given name = some v → lib.given? given name = some v
  given_missing : ∀ {given name}, (∀ e ∈ given, ¬SameName e.1 name) → lib.given? given name = none
  /-- If several names differ in letter case only, it is not said which one counts. -/
  variable_found : ∀ {env name}, (∃ e ∈ env, SameName e.1 name) →
    ∃ n v, SameName n name ∧ mapped? env n = some v ∧ lib.envVar? env name = some v
  variable_missing : ∀ {env name}, (∀ e ∈ env, ¬SameName e.1 name) → lib.envVar? env name = none
  entry_found : ∀ {entries name}, (∃ e ∈ entries, SameName e.1 name) →
    ∃ n v, SameName n name ∧ mapped? entries n = some v ∧ lib.entry? entries name = v
  entry_missing : ∀ {entries name}, (∀ e ∈ entries, ¬SameName e.1 name) →
    lib.entry? entries name = none
  raw_given : ∀ {s : Sources} {name v}, lib.given? s.given name = some v →
    lib.raw? s name = some v
  raw_variable : ∀ {s : Sources} {name v}, lib.given? s.given name = none →
    lib.envVar? s.env name = some v → lib.raw? s name = some (.text v)
  raw_entry : ∀ {s : Sources} {name}, lib.given? s.given name = none →
    lib.envVar? s.env name = none → lib.raw? s name = (s.entry? lib name).map Json.text
  choice_eq_ok : ∀ {texts raw text}, lib.choice texts raw = .ok text ↔
    raw = .text text ∧ text ∈ texts
  text_eq_ok : ∀ {raw text}, lib.text raw = .ok text ↔ raw = .text text

/-! ## Mappings -/

theorem mapped?_eq_none : mapped? entries name = none ↔ ∀ e ∈ entries, e.1 ≠ name := by
  unfold mapped?
  rw [List.lookup_eq_none_iff]
  simp only [List.mem_reverse, bne_iff_ne, ne_comm]

theorem mem_of_mapped? (h : mapped? entries name = some v) : (name, v) ∈ entries := by
  obtain ⟨before, after, hsplit, -⟩ := List.lookup_eq_some_iff.1 h
  rw [← List.mem_reverse, hsplit]
  simp

/-! ## The library in use -/

theorem lookupFolded_eq_none :
    lookupFolded name entries = none ↔ ∀ e ∈ entries, ¬SameName e.1 name := by
  simp [lookupFolded, SameName]

/-- What is found in any letter case is the value of one of the names. -/
theorem mapped?_of_lookupFolded (h : lookupFolded name entries = some v) :
    ∃ n, SameName n name ∧ mapped? entries n = some v := by
  obtain ⟨⟨n, v'⟩, he, rfl⟩ := Option.map_eq_some_iff.1 h
  obtain ⟨hname, after, before, hsplit, hafter⟩ := List.find?_eq_some_iff_append.1 he
  have hname : SameName n name := by simpa [SameName] using hname
  refine ⟨n, hname, List.lookup_eq_some_iff.2 ⟨after, before, hsplit, fun e he => ?_⟩⟩
  -- another entry under this very name would have been found first
  refine bne_iff_ne.2 fun h => ?_
  have hother := hafter e he
  rw [← h] at hother
  simp [show foldCase n = foldCase name from hname] at hother

theorem lookupFolded_found (h : ∃ e ∈ entries, SameName e.1 name) :
    ∃ n v, SameName n name ∧ mapped? entries n = some v ∧ lookupFolded name entries = some v := by
  cases hfound : lookupFolded name entries with
  | none =>
    obtain ⟨e, he, hname⟩ := h
    exact absurd hname (lookupFolded_eq_none.1 hfound e he)
  | some v =>
    obtain ⟨n, hname, hv⟩ := mapped?_of_lookupFolded hfound
    exact ⟨n, v, hname, hv, rfl⟩

theorem lookupName_eq_none :
    lookupName name entries = none ↔ ∀ e ∈ entries, ¬SameName e.1 name := by
  unfold lookupName
  cases hexact : mapped? entries name with
  | none => exact lookupFolded_eq_none
  | some v =>
    simp only [Option.orElse_eq_orElse, Option.orElse_some, reduceCtorEq, false_iff]
    exact fun h => h (name, v) (mem_of_mapped? hexact) rfl

theorem readListed_eq_ok {texts : List String} {raw : Json} {text : String} :
    readListed texts raw = .ok text ↔ raw = .text text ∧ text ∈ texts := by
  cases raw with
  | text s =>
    by_cases h : s ∈ texts
    · simp only [readListed, h, if_true, Except.ok.injEq, Json.text.injEq]
      exact ⟨fun he => ⟨he, he ▸ h⟩, fun he => he.1⟩
    · simp only [readListed, h, if_false, reduceCtorEq, Json.text.injEq, false_iff]
      exact fun he => h (he.1 ▸ he.2)
  | _ => simp [readListed]

theorem readText_eq_ok {raw : Json} {text : String} :
    readText raw = .ok text ↔ raw = .text text := by
  cases raw <;> simp [readText]

theorem Library.standard_documented : Library.standard.Documented where
  given_exact := by
    intro given name v h
    show lookupName name given = some v
    rw [lookupName, h]
    rfl
  given_missing := lookupName_eq_none.2
  variable_found := lookupFolded_found
  variable_missing := lookupFolded_eq_none.2
  entry_found := by
    intro entries name h
    obtain ⟨n, v, hname, hv, hfound⟩ := lookupFolded_found h
    exact ⟨n, v, hname, hv, congrArg Option.join hfound⟩
  entry_missing := fun h => congrArg Option.join (lookupFolded_eq_none.2 h)
  raw_given := by
    intro s name v h
    show (lookupName name s.given <|> _) = some v
    rw [show lookupName name s.given = some v from h]
    rfl
  raw_variable := by
    intro s name v hgiven h
    show (lookupName name s.given <|> (lookupFolded name s.env).map Json.text <|> _) = _
    rw [show lookupName name s.given = none from hgiven,
      show lookupFolded name s.env = some v from h]
    rfl
  raw_entry := by
    intro s name hgiven henv
    show (lookupName name s.given <|> (lookupFolded name s.env).map Json.text <|> _) = _
    rw [show lookupName name s.given = none from hgiven,
      show lookupFolded name s.env = none from henv]
    rfl
  choice_eq_ok := readListed_eq_ok
  text_eq_ok := readText_eq_ok

end TcpSessions.Settings
