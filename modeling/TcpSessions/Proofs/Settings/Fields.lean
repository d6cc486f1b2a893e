import TcpSessions.Proofs.Settings.Library
import TcpSessions.Settings.Sources
/-!
# Settings, field by field

With a library that keeps its promises the sources say of each field which raw value decides it
(`Sources.Decides`): that of the first source that has one. The settings can be made if each of
these values is acceptable for its own field, and hold what each stands for; otherwise there is one
issue for every field whose value is not. No field has a say in another one
(`Settings.decided_field_by_field`).
-/
namespace TcpSessions.Settings

variable {lib : Library} {s s' : Sources} {t : Settings} {f : Field} {raw : Option Json}
variable {issues : List Issue}

/-! ## What a raw value stands for -/

/-- The type of a field's values. -/
abbrev Field.Value : Field → Type
  | defaultPort => Int
  | addressFamily => FamilyChoice
  | oobInline => Bool
  | managedLabel => String

/-- The value of a field. -/
def value (t : Settings) : (f : Field) → f.Value
  | .defaultPort => t.defaultPort
  | .addressFamily => t.addressFamily
  | .oobInline => t.oobInline
  | .managedLabel => t.managedLabel

/-- A raw value is acceptable for a field and stands for one of its values: an integer from 1 to
65535, one of the families by its name, a truth value, a text. Integers and truth values are what
the library takes for them. -/
def Field.Reads (lib : Library) : (f : Field) → Json → f.Value → Prop
  | .defaultPort, raw, n => lib.integer raw = .ok n ∧ 1 ≤ n ∧ n ≤ 65535
  | .addressFamily, raw, c => raw = .text c.name
  | .oobInline, raw, b => lib.boolean raw = .ok b
  | .managedLabel, raw, s => raw = .text s

/-- The value that a field has by its raw value, or without one by default. -/
def Field.Takes (lib : Library) (f : Field) : Option Json → f.Value → Prop
  | some raw, v => f.Reads lib raw v
  | none, v => v = ({} : Settings).value f

/-- The reading of a field's raw values. -/
def Field.reading (lib : Library) : (f : Field) → Json → Except Defect f.Value
  | .defaultPort => readPort lib
  | .addressFamily => readFamily lib
  | .oobInline => lib.boolean
  | .managedLabel => lib.text

/-- A field read from its raw value, if it has one. -/
def Field.read (lib : Library) (f : Field) (raw : Option Json) : Except Defect f.Value :=
  readField (f.reading lib) (({} : Settings).value f) raw

theorem readPort_eq_ok {raw : Json} {n : Int} :
    readPort lib raw = .ok n ↔ lib.integer raw = .ok n ∧ 1 ≤ n ∧ n ≤ 65535 := by
  unfold readPort
  cases lib.integer raw with
  | error d => simp
  | ok m =>
    dsimp only
    split
    · simp only [reduceCtorEq, Except.ok.injEq, false_iff]
      omega
    · split
      · simp only [reduceCtorEq, Except.ok.injEq, false_iff]
        omega
      · simp only [Except.ok.injEq]
        omega

theorem FamilyChoice.ofName?_name (c : FamilyChoice) : FamilyChoice.ofName? c.name = some c := by
  cases c <;> decide

theorem readFamily_eq_ok (hlib : lib.Documented) {raw : Json} {c : FamilyChoice} :
    readFamily lib raw = .ok c ↔ raw = .text c.name := by
  unfold readFamily
  constructor
  · intro h
    split at h
    · cases h
    · rename_i name hchoice
      obtain ⟨rfl, hname⟩ := hlib.choice_eq_ok.1 hchoice
      obtain ⟨c', -, rfl⟩ := List.mem_map.1 hname
      rw [FamilyChoice.ofName?_name] at h
      rw [Except.ok.inj h]
  · rintro rfl
    have hname : c.name ∈ FamilyChoice.all.map FamilyChoice.name :=
      List.mem_map_of_mem (by cases c <;> decide)
    rw [hlib.choice_eq_ok.2 ⟨rfl, hname⟩]
    simp only [FamilyChoice.ofName?_name, Option.elim_some]

/-- The reading of a field accepts what is acceptable. -/
theorem Field.read_eq_ok (hlib : lib.Documented) {v : f.Value} :
    f.read lib raw = .ok v ↔ f.Takes lib raw v := by
  cases raw with
  | none => exact ⟨fun h => (Except.ok.inj h).symm, fun h => congrArg Except.ok h.symm⟩
  | some j =>
    cases f with
    | defaultPort => exact readPort_eq_ok
    | addressFamily => exact readFamily_eq_ok hlib
    | oobInline => exact Iff.rfl
    | managedLabel => exact hlib.text_eq_ok

theorem Field.exists_takes_iff (hlib : lib.Documented) :
    (∃ v, f.Takes lib raw v) ↔ ∀ d, f.read lib raw ≠ .error d := by
  cases hread : f.read lib raw with
  | ok v => exact ⟨fun _ _ => by simp, fun _ => ⟨v, (read_eq_ok hlib).1 hread⟩⟩
  | error d =>
    refine ⟨fun ⟨v, hv⟩ => ?_, fun h => absurd rfl (h d)⟩
    rw [(read_eq_ok hlib).2 hv] at hread
    cases hread

/-! ## All fields together -/

/-- The issues of all fields, each read from its own raw value. -/
def issuesOf (lib : Library) (s : Sources) : List Issue :=
  Field.all.filterMap fun f => issue? f (f.read lib (lib.raw? s f.variable))

theorem ofSources_eq_ok :
    ofSources lib s = .ok t ↔ ∀ f : Field, f.read lib (lib.raw? s f.variable) = .ok (t.value f) := by
  constructor
  · intro h f
    unfold ofSources at h
    dsimp only at h
    split at h
    · rename_i hport hfamily hurgent hlabel
      obtain rfl := Except.ok.inj h
      cases f with
      | defaultPort => exact hport
      | addressFamily => exact hfamily
      | oobInline => exact hurgent
      | managedLabel => exact hlabel
    · cases h
  · intro h
    have hport : readField (readPort lib) telnetPort (lib.raw? s Field.defaultPort.variable) =
        .ok t.defaultPort := h .defaultPort
    have hfamily : readField (readFamily lib) .inet (lib.raw? s Field.addressFamily.variable) =
        .ok t.addressFamily := h .addressFamily
    have hurgent : readField lib.boolean true (lib.raw? s Field.oobInline.variable) =
        .ok t.oobInline := h .oobInline
    have hlabel : readField lib.text Listing.managedLabel (lib.raw? s Field.managedLabel.variable) =
        .ok t.managedLabel := h .managedLabel
    unfold ofSources
    simp only [hport, hfamily, hurgent, hlabel]

theorem ofSources_eq_error (h : ofSources lib s = .error issues) : issues = issuesOf lib s := by
  unfold ofSources at h
  dsimp only at h
  split at h
  · cases h
  · rw [← Except.error.inj h]
    simp only [issuesOf, List.filterMap_eq_flatMap_toList, Field.all, List.flatMap_cons,
      List.flatMap_nil, List.append_nil, List.append_assoc]
    rfl

theorem issue?_eq_some {β : Type} {g : Field} {read : Except Defect β} {i : Issue} :
    issue? g read = some i ↔ g = i.field ∧ read = .error i.defect := by
  cases read with
  | ok v => simp [issue?]
  | error d => cases i; simp [issue?]

theorem mem_issuesOf {i : Issue} :
    i ∈ issuesOf lib s ↔ i.field.read lib (lib.raw? s i.field.variable) = .error i.defect := by
  unfold issuesOf
  rw [List.mem_filterMap]
  constructor
  · rintro ⟨g, -, h⟩
    obtain ⟨rfl, hread⟩ := issue?_eq_some.1 h
    exact hread
  · intro hread
    exact ⟨i.field, by cases i.field <;> decide, issue?_eq_some.2 ⟨rfl, hread⟩⟩

/-- Issues come in the order in which the fields are declared, one for a field at most. -/
theorem fields_issuesOf (lib : Library) (s : Sources) :
    ((issuesOf lib s).map Issue.field).Sublist Field.all := by
  unfold issuesOf
  induction Field.all with
  | nil => exact .slnil
  | cons f fs ih =>
    rw [List.filterMap_cons]
    split
    · exact ih.cons f
    · rename_i i hi
      obtain ⟨rfl, -⟩ := issue?_eq_some.1 hi
      exact ih.cons_cons _

/-! ## Where raw values come from -/

/-- A name is that of a field's variable, in any letter case. -/
def Field.Named (f : Field) (name : String) : Prop := SameName name f.variable

/-- Which raw value decides a field: that of the first source that has one for it. These are the
values given directly, the environment, and the environment file, in which a name may have no value.
If there is none the default decides. -/
inductive Sources.Decides (lib : Library) (s : Sources) (f : Field) : Option Json → Prop
  | given {v : Json} (h : mapped? s.given f.variable = some v) : Decides lib s f (some v)
  | environment {n v : String} (hgiven : mapped? s.given f.variable = none) (hname : f.Named n)
    (h : mapped? s.env n = some v) : Decides lib s f (some (.text v))
  | fileEntry {text n : String} {v : Option String} (hgiven : mapped? s.given f.variable = none)
    (henv : ∀ n, f.Named n → mapped? s.env n = none) (hfile : s.envFile = some text)
    (hname : f.Named n) (h : mapped? (lib.entries s.env text) n = some v) :
    Decides lib s f (v.map .text)
  | default (hgiven : mapped? s.given f.variable = none)
    (henv : ∀ n, f.Named n → mapped? s.env n = none)
    (hfile : ∀ text, s.envFile = some text → ∀ n, f.Named n →
      mapped? (lib.entries s.env text) n = none) : Decides lib s f none

/-- Whatever is given directly for a field is given under the exact name of its variable. -/
def Sources.ByName (s : Sources) : Prop := ∀ e ∈ s.given, ∀ f : Field, f.Named e.1 → e.1 = f.variable

/-- A source has no two names for a field. -/
def Field.Once {α : Type} (f : Field) (entries : List (String × α)) : Prop :=
  ∀ {n n' v v'}, f.Named n → f.Named n' → mapped? entries n = some v →
    mapped? entries n' = some v' → n = n'

/-- Neither the environment nor the environment file has two names for a field. -/
structure Sources.Unambiguous (lib : Library) (s : Sources) (f : Field) : Prop where
  env : f.Once s.env
  file : ∀ text, s.envFile = some text → f.Once (lib.entries s.env text)

theorem mapped?_eq_none_of_missing {α : Type} {entries : List (String × α)}
    (h : ∀ e ∈ entries, ¬f.Named e.1) {n : String} (hn : f.Named n) : mapped? entries n = none := by
  refine mapped?_eq_none.2 fun e he hname => h e he ?_
  rw [hname]
  exact hn

section

variable (hlib : lib.Documented)

include hlib

/-- What is given directly for a field, if all that is given is given by name. -/
theorem given?_eq (hs : s.ByName) : lib.given? s.given f.variable = mapped? s.given f.variable := by
  cases hv : mapped? s.given f.variable with
  | some v => exact hlib.given_exact hv
  | none =>
    refine hlib.given_missing fun e he hname => ?_
    exact mapped?_eq_none.1 hv e he (hs e he f hname)

/-- The raw value of a field decides it. -/
theorem decides_raw? (hs : s.ByName) (f : Field) : s.Decides lib f (lib.raw? s f.variable) := by
  have hgiven := given?_eq hlib hs (f := f)
  cases hv : mapped? s.given f.variable with
  | some v =>
    rw [hlib.raw_given (hgiven.trans hv)]
    exact .given hv
  | none =>
    rw [hv] at hgiven
    by_cases henv : ∃ e ∈ s.env, f.Named e.1
    · obtain ⟨n, v, hname, hmapped, hfound⟩ := hlib.variable_found henv
      rw [hlib.raw_variable hgiven hfound]
      exact .environment hv hname hmapped
    have henv : ∀ e ∈ s.env, ¬f.Named e.1 := fun e he hname => henv ⟨e, he, hname⟩
    rw [hlib.raw_entry hgiven (hlib.variable_missing henv)]
    have hnone : ∀ n, f.Named n → mapped? s.env n = none :=
      fun n hn => mapped?_eq_none_of_missing henv hn
    unfold Sources.entry?
    cases hfile : s.envFile with
    | none => exact .default hv hnone fun text htext => by rw [hfile] at htext; cases htext
    | some text =>
      rw [Option.bind_some]
      by_cases hentry : ∃ e ∈ lib.entries s.env text, f.Named e.1
      · obtain ⟨n, v, hname, hmapped, hfound⟩ := hlib.entry_found hentry
        rw [hfound]
        exact .fileEntry hv hnone hfile hname hmapped
      · have hentry : ∀ e ∈ lib.entries s.env text, ¬f.Named e.1 :=
          fun e he hname => hentry ⟨e, he, hname⟩
        rw [hlib.entry_missing hentry]
        refine .default hv hnone fun text' htext n hn => ?_
        obtain rfl := Option.some.inj (hfile.symm.trans htext)
        exact mapped?_eq_none_of_missing hentry hn

end

/-- Where no source has two names for a field, one raw value decides it. -/
theorem Sources.Decides.eq {raw' : Option Json} (hone : s.Unambiguous lib f)
    (h : s.Decides lib f raw) (h' : s.Decides lib f raw') : raw = raw' := by
  cases h with
  | given h =>
    cases h' with
    | given h' => rw [← h, ← h']
    | environment hgiven | fileEntry hgiven | default hgiven =>
      rw [h] at hgiven
      cases hgiven
  | environment hgiven hname h =>
    cases h' with
    | given h' =>
      rw [h'] at hgiven
      cases hgiven
    | environment _ hname' h' =>
      obtain rfl := hone.env hname hname' h h'
      rw [Option.some.inj (h.symm.trans h')]
    | fileEntry _ henv | default _ henv =>
      rw [henv _ hname] at h
      cases h
  | fileEntry hgiven henv hfile hname h =>
    cases h' with
    | given h' =>
      rw [h'] at hgiven
      cases hgiven
    | environment _ hname' h' =>
      rw [henv _ hname'] at h'
      cases h'
    | fileEntry _ _ hfile' hname' h' =>
      obtain rfl := Option.some.inj (hfile.symm.trans hfile')
      obtain rfl := hone.file _ hfile hname hname' h h'
      rw [Option.some.inj (h.symm.trans h')]
    | default _ _ hfile' =>
      rw [hfile' _ hfile _ hname] at h
      cases h
  | default hgiven henv hfile =>
    cases h' with
    | given h' =>
      rw [h'] at hgiven
      cases hgiven
    | environment _ hname' h' =>
      rw [henv _ hname'] at h'
      cases h'
    | fileEntry _ _ hfile' hname' h' =>
      rw [hfile _ hfile' _ hname'] at h'
      cases h'
    | default => rfl

/-! ## No field has a say in another one -/

/-- Two results say the same of a field: the same value if there is one, the same issue if there
is one. -/
def SaySame (f : Field) : Except (List Issue) Settings → Except (List Issue) Settings → Prop
  | .ok t, .ok u => t.value f = u.value f
  | .ok _, .error issues | .error issues, .ok _ => ∀ i ∈ issues, i.field ≠ f
  | .error issues, .error issues' => ∀ d, ⟨f, d⟩ ∈ issues ↔ ⟨f, d⟩ ∈ issues'

theorem not_mem_of_read_ok {v : f.Value} (h : f.read lib (lib.raw? s f.variable) = .ok v) :
    ∀ i ∈ issuesOf lib s, i.field ≠ f := by
  rintro i hi rfl
  rw [mem_issuesOf, h] at hi
  cases hi

/-- Results say the same of a field if its raw value is the same. -/
theorem saySame_of_raw (h : lib.raw? s' f.variable = lib.raw? s f.variable) :
    SaySame f (ofSources lib s) (ofSources lib s') := by
  cases ht : ofSources lib s with
  | ok t =>
    have hread := ofSources_eq_ok.1 ht f
    cases hu : ofSources lib s' with
    | ok u =>
      have hread' := ofSources_eq_ok.1 hu f
      rw [h, hread] at hread'
      exact Except.ok.inj hread'
    | error issues' =>
      rw [ofSources_eq_error hu]
      rw [← h] at hread
      exact not_mem_of_read_ok hread
  | error issues =>
    rw [ofSources_eq_error ht]
    cases hu : ofSources lib s' with
    | ok u =>
      have hread' := ofSources_eq_ok.1 hu f
      rw [h] at hread'
      exact not_mem_of_read_ok hread'
    | error issues' =>
      rw [ofSources_eq_error hu]
      intro d
      rw [mem_issuesOf, mem_issuesOf, h]

/-- The second sources are like the first ones down to one that has a value for a field. -/
inductive Sources.SameDownTo (f : Field) (s s' : Sources) : Prop
  | given (hgiven : s'.given = s.given) (h : ∃ v, mapped? s.given f.variable = some v) :
    SameDownTo f s s'
  | environment (hgiven : s'.given = s.given) (henv : s'.env = s.env)
    (h : ∃ e ∈ s.env, f.Named e.1) : SameDownTo f s s'

/-- What stands below a source that has a value does not matter. -/
theorem Sources.SameDownTo.raw?_eq (hlib : lib.Documented) (h : SameDownTo f s s') :
    lib.raw? s' f.variable = lib.raw? s f.variable := by
  cases h with
  | given hgiven h =>
    obtain ⟨v, hv⟩ := h
    rw [hlib.raw_given (hlib.given_exact hv),
      hlib.raw_given (hlib.given_exact ((congrArg (mapped? · f.variable) hgiven).trans hv))]
  | environment hgiven henv h =>
    obtain ⟨n, v, -, -, hfound⟩ := hlib.variable_found h
    have hfound' : lib.envVar? s'.env f.variable = some v := henv ▸ hfound
    cases hfirst : lib.given? s.given f.variable with
    | some v => rw [hlib.raw_given hfirst, hlib.raw_given (hgiven ▸ hfirst)]
    | none => rw [hlib.raw_variable hfirst hfound, hlib.raw_variable (hgiven ▸ hfirst) hfound']

/-- With a library as it is documented one raw value decides each field, that of the first source
that has one. The settings can be made if each of these is acceptable for its field, and then hold
the values that they stand for; otherwise there is one issue for each field whose raw value is not,
in the order of declaration. What is said of a field depends on its own raw value only, and so on
nothing that stands below the first source that has one. -/
theorem decided_field_by_field (lib : Library) (hlib : lib.Documented) (s : Sources) :
    (s.ByName → ∀ f, s.Decides lib f (lib.raw? s f.variable) ∧
      (s.Unambiguous lib f → ∀ raw, s.Decides lib f raw → raw = lib.raw? s f.variable)) ∧
    ((∃ t, ofSources lib s = .ok t) ↔ ∀ f : Field, ∃ v, f.Takes lib (lib.raw? s f.variable) v) ∧
    (∀ t, ofSources lib s = .ok t →
      ∀ f : Field, f.Takes lib (lib.raw? s f.variable) (t.value f)) ∧
    (∀ issues, ofSources lib s = .error issues →
      (issues.map Issue.field).Sublist Field.all ∧
      ∀ f : Field, f ∈ issues.map Issue.field ↔ ¬∃ v, f.Takes lib (lib.raw? s f.variable) v) ∧
    (∀ s' f, lib.raw? s' f.variable = lib.raw? s f.variable →
      SaySame f (ofSources lib s) (ofSources lib s')) ∧
    (∀ s' f, Sources.SameDownTo f s s' → SaySame f (ofSources lib s) (ofSources lib s')) := by
  refine ⟨fun hs f => ?_, ⟨?_, ?_⟩, ?_, ?_, fun s' f => saySame_of_raw,
    fun s' f h => saySame_of_raw (h.raw?_eq hlib)⟩
  · have hraw := decides_raw? hlib hs f
    exact ⟨hraw, fun hone raw h => h.eq hone hraw⟩
  · rintro ⟨t, ht⟩ f
    exact ⟨t.value f, (Field.read_eq_ok hlib).1 (ofSources_eq_ok.1 ht f)⟩
  · intro h
    obtain ⟨port, hport⟩ := h .defaultPort
    obtain ⟨family, hfamily⟩ := h .addressFamily
    obtain ⟨urgent, hurgent⟩ := h .oobInline
    obtain ⟨label, hlabel⟩ := h .managedLabel
    refine ⟨⟨port, family, urgent, label⟩,
      ofSources_eq_ok.2 fun f => (Field.read_eq_ok hlib).2 ?_⟩
    cases f with
    | defaultPort => exact hport
    | addressFamily => exact hfamily
    | oobInline => exact hurgent
    | managedLabel => exact hlabel
  · exact fun t ht f => (Field.read_eq_ok hlib).1 (ofSources_eq_ok.1 ht f)
  · intro issues h
    rw [ofSources_eq_error h]
    refine ⟨fields_issuesOf lib s, fun f => ?_⟩
    rw [Field.exists_takes_iff hlib, List.mem_map]
    constructor
    · rintro ⟨i, hi, rfl⟩ h
      exact h i.defect (mem_issuesOf.1 hi)
    · intro h
      obtain ⟨d, hd⟩ := not_forall_not.1 h
      exact ⟨⟨f, d⟩, mem_issuesOf.2 hd, rfl⟩

/-- A port that is given directly hides one in the environment that could not be read, and a family
that is none stands beside it. -/
theorem decided_field_by_field_hidden :
    let lib := Library.standard
    let s : Sources := ⟨[("ZTCP_DEFAULT_PORT", .integer 2121)], [], none⟩
    let s' : Sources :=
      ⟨[("ZTCP_DEFAULT_PORT", .integer 2121)],
        [("ztcp_default_port", "telnet"), ("Ztcp_Address_Family", "unix")], none⟩
    SaySame .defaultPort (ofSources lib s) (ofSources lib s') ∧
      ofSources lib s = .ok { defaultPort := 2121 } ∧
      ofSources lib s' = .error [⟨.addressFamily, .notAChoice⟩] := by
  intro lib s s'
  obtain ⟨-, -, -, -, -, hhidden⟩ := decided_field_by_field lib Library.standard_documented s
  have hsame : Sources.SameDownTo .defaultPort s s' := .given rfl ⟨.integer 2121, rfl⟩
  exact ⟨hhidden s' .defaultPort hsame, by decide +kernel, by decide +kernel⟩

end TcpSessions.Settings
