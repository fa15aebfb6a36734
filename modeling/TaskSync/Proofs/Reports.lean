import TaskSync.Proofs.Checks

/-!
# What is reported

A configuration that is refused is refused with the places of its faults. One
fault can pass unnoticed: nobody misses the address of the database as long as
another setting has a value of the wrong kind.
-/

namespace TaskSync

/-! ## Places -/

/-- A setting, or an entry of its list. -/
structure Spot where
  setting : Setting
  entry : Option Nat
deriving DecidableEq

def Spot.name : Spot → String
  | ⟨setting, none⟩ => setting.name
  | ⟨setting, some i⟩ => setting.name ++ "." ++ toString i

def Setting.all : List Setting :=
  [.listen, .storage, .dataDir, .databaseUrl, .allowClientIds, .createClients, .snapshotVersions,
    .snapshotDays, .versionRetention, .maxBodyBytes, .logLevel, .logPretty]

theorem Setting.mem_all (setting : Setting) : setting ∈ all := by
  cases setting <;> decide

theorem Setting.name_has_no_point (s : Setting) : s.name.toList.all (· ≠ '.') = true := by
  cases s <;> decide

theorem Setting.name_injective {s s' : Setting} (same : s.name.toList = s'.name.toList) :
    s = s' := by
  have apart : ∀ s ∈ all, ∀ s' ∈ all, s.name.toList = s'.name.toList → s = s' := by decide
  exact apart s (mem_all s) s' (mem_all s') same

namespace Spot

theorem toList_name (spot : Spot) : spot.name.toList =
    spot.setting.name.toList ++
      match spot.entry with
      | none => []
      | some i => '.' :: Nat.toDigits 10 i := by
  rcases spot with ⟨setting, _ | i⟩ <;> simp [name]

theorem name_injective {spot spot' : Spot} (same : spot.name = spot'.name) : spot = spot' := by
  have setting (spot : Spot) :
      spot.name.toList.takeWhile (· ≠ '.') = spot.setting.name.toList := by
    rw [toList_name,
      List.takeWhile_append_of_pos (List.all_eq_true.mp spot.setting.name_has_no_point)]
    split <;> simp
  have one : spot.setting = spot'.setting := by
    apply Setting.name_injective
    rw [← setting, ← setting, same]
  have letters := congrArg String.toList same
  rw [toList_name, toList_name, one, List.append_cancel_left_eq] at letters
  rcases spot with ⟨s, _ | i⟩ <;> rcases spot' with ⟨s', _ | j⟩ <;> simp only at one letters
  · rw [one]
  · cases letters
  · cases letters
  · have digits := (List.cons.inj letters).2
    have number : i = j := by
      rw [← Nat.ofDigitChars_ten_toDigits (n := i), digits, Nat.ofDigitChars_ten_toDigits]
    rw [one, number]

end Spot

/-! ## Faults -/

/-- The rule for the text of a setting, or for an entry of its list. -/
def Setting.Allows : Setting → String → Prop
  | listen, entry => (Address.read? entry).isSome = true
  | storage, text => text ∈ ["sqlite", "postgres", "memory"]
  | dataDir, text | databaseUrl, text => text ≠ ""
  | allowClientIds, entry => (Uuid.read? entry).isSome = true
  | createClients, text | logPretty, text => ∃ on, Config.Switch.read text = .set on
  | snapshotVersions, text | snapshotDays, text | maxBodyBytes, text => (Number.read text).IsCount
  | versionRetention, text => text ∈ ["keep-all", "prune-on-snapshot"]
  | logLevel, text => text ∈ ["trace", "debug", "info", "warn", "error", "fatal", "silent"]

/-- The kind of text that a setting takes: one of its choices, or a number of any size. -/
def Setting.Suits : Setting → String → Prop
  | storage, text => storage.Allows text
  | versionRetention, text => versionRetention.Allows text
  | logLevel, text => logLevel.Allows text
  | snapshotVersions, text | snapshotDays, text | maxBodyBytes, text => Number.read text ≠ .nan
  | _, _ => True

theorem Setting.suits_of_allows {s : Setting} {text : String} (allowed : s.Allows text) :
    s.Suits text := by
  cases s with
  | storage | versionRetention | logLevel => exact allowed
  | snapshotVersions | snapshotDays | maxBodyBytes => exact Number.IsCount.ne_nan allowed
  | _ => trivial

namespace Config

/-- Where what is given for a setting breaks its own rule. -/
inductive Breaks (sources : Sources) : Spot → Prop
  | text {setting : Setting} {text : String} (form : setting.form = .text)
      (given : sources.text? setting = some text) (refused : ¬ setting.Allows text) :
      Breaks sources ⟨setting, none⟩
  | entry {setting : Setting} {entries : List String} {i : Nat} {entry : String}
      (form : setting.form = .list) (given : sources.list? setting = some entries)
      (place : entries[i]? = some entry) (refused : ¬ setting.Allows entry) :
      Breaks sources ⟨setting, some i⟩
  | noEntry (given : sources.list? .listen = some []) : Breaks sources ⟨.listen, none⟩
  | switch {setting : Setting} {text : String} (form : setting.form = .switch)
      (given : sources.switch? setting = some (.unclear text)) : Breaks sources ⟨setting, none⟩

/-- The store is on a database server, and no address is given for it. -/
def MissesUrl (sources : Sources) : Prop :=
  sources.text? .storage = some "postgres" ∧ sources.text? .databaseUrl = none

/-- Where something is wrong with what is given. -/
def Faulty (sources : Sources) (spot : Spot) : Prop :=
  Breaks sources spot ∨ spot = ⟨.databaseUrl, none⟩ ∧ MissesUrl sources

/-- A setting has a value of the wrong kind. -/
inductive Useless (sources : Sources) : Setting → Prop
  | text {setting : Setting} {text : String} (form : setting.form = .text)
      (given : sources.text? setting = some text) (wrong : ¬ setting.Suits text) :
      Useless sources setting
  | switch {setting : Setting} {text : String} (form : setting.form = .switch)
      (given : sources.switch? setting = some (.unclear text)) : Useless sources setting

theorem Useless.breaks {sources : Sources} {setting : Setting}
    (useless : Useless sources setting) : Breaks sources ⟨setting, none⟩ := by
  cases useless with
  | text form given wrong => exact .text form given (mt Setting.suits_of_allows wrong)
  | switch form given => exact .switch form given

section

variable {sources : Sources} {setting : Setting} {entry : Option Nat}

theorem breaks_text_iff (form : setting.form = .text) : Breaks sources ⟨setting, entry⟩ ↔
    entry = none ∧ ∃ text, sources.text? setting = some text ∧ ¬ setting.Allows text := by
  constructor
  · intro breaks
    cases breaks with
    | text _ given refused => exact ⟨rfl, _, given, refused⟩
    | entry other | switch other => rw [form] at other; cases other
    | noEntry => cases form
  · rintro ⟨rfl, text, given, refused⟩
    exact .text form given refused

theorem breaks_switch_iff (form : setting.form = .switch) : Breaks sources ⟨setting, entry⟩ ↔
    entry = none ∧ ∃ text, sources.switch? setting = some (.unclear text) := by
  constructor
  · intro breaks
    cases breaks with
    | switch _ given => exact ⟨rfl, _, given⟩
    | entry other | text other => rw [form] at other; cases other
    | noEntry => cases form
  · rintro ⟨rfl, text, given⟩
    exact .switch form given

theorem breaks_list_iff (form : setting.form = .list) : Breaks sources ⟨setting, entry⟩ ↔
    (entry = none ∧ setting = .listen ∧ sources.list? .listen = some []) ∨
      ∃ i value, entry = some i ∧ ((sources.list? setting).getD [])[i]? = some value ∧
        ¬ setting.Allows value := by
  constructor
  · intro breaks
    cases breaks with
    | entry _ given place refused =>
      refine .inr ⟨_, _, rfl, ?_, refused⟩
      rwa [given]
    | noEntry given => exact .inl ⟨rfl, rfl, given⟩
    | text other | switch other => rw [form] at other; cases other
  · rintro (⟨rfl, rfl, given⟩ | ⟨i, value, rfl, place, refused⟩)
    · exact .noEntry given
    · cases given : sources.list? setting with
      | none => simp [given] at place
      | some entries =>
        rw [given] at place
        exact .entry form given place refused

theorem useless_text_iff (form : setting.form = .text) : Useless sources setting ↔
    ∃ text, sources.text? setting = some text ∧ ¬ setting.Suits text := by
  constructor
  · intro useless
    cases useless with
    | text _ given wrong => exact ⟨_, given, wrong⟩
    | switch other => rw [form] at other; cases other
  · rintro ⟨text, given, wrong⟩
    exact .text form given wrong

theorem useless_switch_iff (form : setting.form = .switch) : Useless sources setting ↔
    ∃ text, sources.switch? setting = some (.unclear text) := by
  constructor
  · intro useless
    cases useless with
    | switch _ given => exact ⟨_, given⟩
    | text other => rw [form] at other; cases other
  · rintro ⟨text, given⟩
    exact .switch form given

theorem not_useless_list (form : setting.form = .list) : ¬ Useless sources setting := by
  intro useless
  cases useless with
  | text other | switch other => rw [form] at other; cases other

end

/-! ## Verdicts -/

open Checked (good)

/-- A check of some settings names the places where they break a rule, tells whether their values
are of the right kind, and has a value if it names nothing. -/
structure Judges {α : Type} (sources : Sources) (settings : List Setting) (checked : Checked α) :
    Prop where
  names : ∀ place, place ∈ checked.flaws.map Flaw.place ↔
    ∃ setting ∈ settings, ∃ entry, Breaks sources ⟨setting, entry⟩ ∧
      place = Spot.name ⟨setting, entry⟩
  usable : checked.usable = false ↔ ∃ setting ∈ settings, Useless sources setting
  complete : checked.flaws = [] → ∃ value, checked = good value

namespace Judges

variable {α β : Type} {sources : Sources} {settings others : List Setting}

theorem map {checked : Checked α} (judges : Judges sources settings checked) (f : α → β) :
    Judges sources settings (checked.map f) := by
  constructor
  · simpa using judges.names
  · simpa using judges.usable
  · intro none
    rw [Checked.flaws_map] at none
    obtain ⟨value, same⟩ := judges.complete none
    exact ⟨f value, by rw [same]; rfl⟩

theorem and {f : Checked (α → β)} {x : Checked α} (first : Judges sources settings f)
    (second : Judges sources others x) : Judges sources (settings ++ others) (f.and x) := by
  constructor
  · intro place
    rw [Checked.flaws_and, List.map_append, List.mem_append, first.names, second.names]
    simp only [List.mem_append, or_and_right, exists_or]
  · rw [Checked.usable_and, Bool.and_eq_false_iff, first.usable, second.usable]
    simp only [List.mem_append, or_and_right, exists_or]
  · intro none
    rw [Checked.flaws_and, List.append_eq_nil_iff] at none
    obtain ⟨g, hg⟩ := first.complete none.1
    obtain ⟨value, hvalue⟩ := second.complete none.2
    exact ⟨g value, by rw [hg, hvalue]; rfl⟩

variable {setting : Setting}

section Text

variable (form : setting.form = .text)
include form

theorem of_text {checked : Checked α}
    (names : ∀ place, place ∈ checked.flaws.map Flaw.place ↔
      (∃ text, sources.text? setting = some text ∧ ¬ setting.Allows text) ∧ place = setting.name)
    (usable : checked.usable = false ↔
      ∃ text, sources.text? setting = some text ∧ ¬ setting.Suits text)
    (complete : checked.flaws = [] → ∃ value, checked = good value) :
    Judges sources [setting] checked := by
  constructor
  · intro place
    simp only [names, List.mem_singleton, exists_eq_left, breaks_text_iff form, and_assoc,
      Spot.name]
  · simpa [useless_text_iff form] using usable
  · exact complete

theorem choice {choices : List (String × α)} {default : α}
    (rule : ∀ text, setting.Allows text ↔ text ∈ choices.map (·.1))
    (kind : ∀ text, setting.Suits text ↔ setting.Allows text) :
    Judges sources [setting] (checkChoice setting choices default (sources.text? setting)) := by
  cases given : sources.text? setting with
  | none => apply of_text form <;> simp [checkChoice, given, Checked.flaws, Checked.usable]
  | some text =>
    cases found : choices.find? (·.1 = text) with
    | none =>
      have refused : ¬ setting.Allows text := by
        rw [rule, List.mem_map]
        rintro ⟨choice, listed, same⟩
        exact List.find?_eq_none.mp found choice listed (by simpa using same)
      apply of_text form <;>
        simp [checkChoice, given, found, refused, kind, Checked.unusable, Checked.flaws,
          Checked.usable]
    | some choice =>
      have allowed : setting.Allows text := by
        rw [rule, List.mem_map]
        exact ⟨choice, List.mem_of_find?_eq_some found, by simpa using List.find?_some found⟩
      apply of_text form <;>
        simp [checkChoice, given, found, allowed, kind, Checked.flaws, Checked.usable]

theorem text {use : String → α} {default : α} (rule : ∀ text, setting.Allows text ↔ text ≠ "")
    (kind : ∀ text, setting.Suits text) :
    Judges sources [setting] (checkText setting use default (sources.text? setting)) := by
  cases given : sources.text? setting with
  | none => apply of_text form <;> simp [checkText, given, Checked.flaws, Checked.usable]
  | some text =>
    by_cases empty : text = ""
    · subst empty
      apply of_text form <;>
        simp [checkText, given, rule, kind, Checked.broken, Checked.flaws, Checked.usable]
    · apply of_text form <;>
        simp [checkText, given, rule, kind, empty, Checked.flaws, Checked.usable]

theorem count {default : Number} (rule : ∀ text, setting.Allows text ↔ (Number.read text).IsCount)
    (kind : ∀ text, setting.Suits text ↔ Number.read text ≠ .nan) :
    Judges sources [setting] (checkCount setting default (sources.text? setting)) := by
  cases given : sources.text? setting with
  | none => apply of_text form <;> simp [checkCount, given, Checked.flaws, Checked.usable]
  | some text =>
    have isNaN : (Number.read text).isNaN = true ↔ Number.read text = .nan := by
      cases Number.read text <;> simp [Number.isNaN]
    by_cases none : Number.read text = .nan
    · have refused : ¬ Number.nan.IsCount := fun count => count.ne_nan rfl
      apply of_text form <;>
        simp [checkCount, given, rule, kind, none, refused, Number.isNaN, Checked.unusable,
          Checked.flaws, Checked.usable]
    · cases whole : (Number.read text).isInteger <;>
        cases positive : Number.lt 0 (Number.read text) <;>
        apply of_text form <;>
        simp [checkCount, given, rule, kind, Number.isCount_iff, none, isNaN, whole, positive,
          Checked.ofRules, Checked.flaws, Checked.usable]

end Text

theorem switch {default : Bool} (form : setting.form = .switch) :
    Judges sources [setting] (checkSwitch setting default (sources.switch? setting)) := by
  constructor
  · intro place
    simp only [List.mem_singleton, exists_eq_left, breaks_switch_iff form, and_assoc, Spot.name]
    rcases given : sources.switch? setting with _ | ⟨on | text⟩ <;>
      simp [checkSwitch, Checked.unusable, Checked.flaws]
  · simp only [List.mem_singleton, exists_eq_left, useless_switch_iff form]
    rcases given : sources.switch? setting with _ | ⟨on | text⟩ <;>
      simp [checkSwitch, Checked.unusable, Checked.usable]
  · rcases given : sources.switch? setting with _ | ⟨on | text⟩ <;>
      simp [checkSwitch, Checked.unusable, Checked.flaws]

section Entries

variable {read : String → Option α} {message : String → String} {place : String}

theorem places_list {entries : List String} {start : Nat} :
    place ∈ (Checked.list (readEntry setting read message) start entries).flaws.map Flaw.place ↔
      ∃ i value, entries[i]? = some value ∧ read value = none ∧
        place = setting.name ++ "." ++ toString (start + i) := by
  induction entries generalizing start with
  | nil => simp [Checked.list, Checked.flaws]
  | cons entry rest ih =>
    have first : place ∈ (readEntry setting read message start entry).flaws.map Flaw.place ↔
        read entry = none ∧ place = setting.name ++ "." ++ toString start := by
      unfold readEntry
      cases read entry <;> simp [Checked.broken, Checked.flaws]
    rw [Checked.list, Checked.flaws_and, Checked.flaws_map, List.map_append, List.mem_append, first,
      ih]
    constructor
    · rintro (⟨none, rfl⟩ | ⟨i, value, at_i, none, rfl⟩)
      · exact ⟨0, entry, rfl, none, rfl⟩
      · exact ⟨i + 1, value, at_i, none, by rw [Nat.add_right_comm, Nat.add_assoc]⟩
    · rintro ⟨_ | i, value, at_i, none, rfl⟩
      · obtain rfl := Option.some.inj at_i
        exact .inl ⟨none, rfl⟩
      · exact .inr ⟨i, value, at_i, none, by rw [Nat.add_right_comm, Nat.add_assoc]⟩

theorem usable_list {entries : List String} {start : Nat} :
    (Checked.list (readEntry setting read message) start entries).usable = true := by
  induction entries generalizing start with
  | nil => rfl
  | cons entry rest ih =>
    rw [Checked.list, Checked.usable_and, Checked.usable_map, ih, readEntry]
    cases read entry <;> rfl

theorem complete_list {entries : List String} {start : Nat}
    (none : (Checked.list (readEntry setting read message) start entries).flaws = []) :
    ∃ values, Checked.list (readEntry setting read message) start entries = good values := by
  induction entries generalizing start with
  | nil => exact ⟨[], rfl⟩
  | cons entry rest ih =>
    rw [Checked.list, Checked.flaws_and, Checked.flaws_map, List.append_eq_nil_iff] at none
    obtain ⟨values, more⟩ := ih none.2
    have first : ∃ value, readEntry setting read message start entry = good value := by
      have first := none.1
      unfold readEntry at first ⊢
      cases given : read entry with
      | none => simp [given, Checked.broken, Checked.flaws] at first
      | some value => exact ⟨value, rfl⟩
    obtain ⟨value, first⟩ := first
    exact ⟨value :: values, by rw [Checked.list, first, more]; rfl⟩

theorem of_list (form : setting.form = .list) {entries : List String}
    (given : (sources.list? setting).getD [] = entries)
    (filled : ¬ (setting = .listen ∧ sources.list? .listen = some []))
    (rule : ∀ value, setting.Allows value ↔ read value ≠ none) :
    Judges sources [setting] (Checked.list (readEntry setting read message) 0 entries) := by
  constructor
  · intro place
    simp only [places_list, List.mem_singleton, exists_eq_left, breaks_list_iff form, given, rule,
      Nat.zero_add, filled, and_false, false_or, not_not]
    constructor
    · rintro ⟨i, value, at_i, none, rfl⟩
      exact ⟨some i, ⟨i, value, rfl, at_i, none⟩, rfl⟩
    · rintro ⟨_, ⟨i, value, rfl, at_i, none⟩, rfl⟩
      exact ⟨i, value, at_i, none, rfl⟩
  · simp [usable_list, not_useless_list form]
  · exact complete_list

end Entries

theorem ids : Judges sources [.allowClientIds] (checkIds (sources.list? .allowClientIds)) := by
  rw [checkIds_eq]
  refine of_list rfl rfl (by simp) fun value => ?_
  simp [Setting.Allows, Option.isSome_iff_ne_none]

theorem listen : Judges sources [.listen] (checkListen (sources.list? .listen)) := by
  have form : Setting.listen.form = .list := rfl
  have rule (value : String) : Setting.listen.Allows value ↔ Address.read? value ≠ none := by
    simp [Setting.Allows, Option.isSome_iff_ne_none]
  rcases given : sources.list? .listen with _ | ⟨_ | ⟨entry, rest⟩⟩
  · constructor
    · simp [checkListen, Checked.flaws, breaks_list_iff form, given]
    · simp [checkListen, Checked.usable, not_useless_list form]
    · simp [checkListen]
  · constructor
    · simp [checkListen, Checked.broken, Checked.flaws, breaks_list_iff form, given, Spot.name]
    · simp [checkListen, Checked.broken, Checked.usable, not_useless_list form]
    · simp [checkListen, Checked.broken, Checked.flaws]
  · rw [checkListen_cons]
    exact of_list form (by rw [given]; rfl) (by simp [given]) rule

end Judges

/-! ## All settings -/

section

variable (sources : Sources)

theorem judges_fields : ∃ fields : Checked Config,
    check sources = fields.alsoFlawed (missingUrl sources) ∧ Judges sources Setting.all fields := by
  have storage : Judges sources [.storage]
      (checkChoice .storage storageChoices .sqlite (sources.text? .storage)) :=
    .choice rfl (fun _ => .rfl) fun _ => .rfl
  have dataDir : Judges sources [.dataDir]
      (checkText .dataDir id "./data" (sources.text? .dataDir)) :=
    .text rfl (fun _ => .rfl) fun _ => trivial
  have databaseUrl : Judges sources [.databaseUrl]
      (checkText .databaseUrl some none (sources.text? .databaseUrl)) :=
    .text rfl (fun _ => .rfl) fun _ => trivial
  have count (setting : Setting) (default : Number)
      (number : setting ∈ [.snapshotVersions, .snapshotDays, .maxBodyBytes]) :
      Judges sources [setting] (checkCount setting default (sources.text? setting)) := by
    simp only [List.mem_cons, List.not_mem_nil, or_false] at number
    rcases number with rfl | rfl | rfl <;> exact .count rfl (fun _ => .rfl) fun _ => .rfl
  have retention : Judges sources [.versionRetention]
      (checkChoice .versionRetention retentionChoices .keepAll (sources.text? .versionRetention)) :=
    .choice rfl (fun _ => .rfl) fun _ => .rfl
  have logLevel : Judges sources [.logLevel]
      (checkChoice .logLevel levelChoices .info (sources.text? .logLevel)) :=
    .choice rfl (fun _ => .rfl) fun _ => .rfl
  exact ⟨_, rfl, (Judges.listen.map Config.mk).and storage |>.and dataDir |>.and databaseUrl
    |>.and .ids |>.and (.switch rfl) |>.and (count .snapshotVersions 100 (by decide))
    |>.and (count .snapshotDays 14 (by decide)) |>.and retention
    |>.and (count .maxBodyBytes Http.defaultMaxBody (by decide)) |>.and logLevel
    |>.and (.switch rfl)⟩

theorem mem_missingUrl (place : String) : place ∈ (missingUrl sources).map Flaw.place ↔
    sources.text? .storage = some "postgres" ∧ (sources.text? .databaseUrl).getD "" = "" ∧
      place = Spot.name ⟨.databaseUrl, none⟩ := by
  unfold missingUrl
  dsimp only
  split
  · next missed => simp [missed.1, missed.2, StorageKind.name, Spot.name]
  · next missed =>
    rw [not_and] at missed
    simp only [List.map_nil, List.not_mem_nil, false_iff, not_and]
    intro storage url
    exact absurd url (missed storage)

end

/-! ## Reports -/

/-- The address of the database is missed, but nobody looks for it. -/
def Unnoticed (sources : Sources) (spot : Spot) : Prop :=
  spot = ⟨.databaseUrl, none⟩ ∧ MissesUrl sources ∧ ∃ setting, Useless sources setting

/-- Flaws that name every fault but an unnoticed one, and nothing else. -/
structure Report (sources : Sources) (flaws : List Flaw) : Prop where
  named : ∀ spot : Spot, spot.name ∈ flaws.map Flaw.place ↔
    Faulty sources spot ∧ ¬ Unnoticed sources spot
  only : ∀ flaw ∈ flaws, ∃ spot : Spot, flaw.place = spot.name
  message : (LoadError.invalid flaws).message = "Invalid configuration: " ++
    "; ".intercalate (flaws.map fun flaw => flaw.place ++ ": " ++ flaw.message)

variable {sources : Sources}

theorem Breaks.noticed {spot : Spot} (breaks : Breaks sources spot) : ¬ Unnoticed sources spot := by
  rintro ⟨rfl, ⟨-, absent⟩, -⟩
  obtain ⟨-, text, given, -⟩ := (breaks_text_iff rfl).mp breaks
  rw [absent] at given
  cases given

theorem Judges.named {α : Type} {checked : Checked α} (judges : Judges sources Setting.all checked)
    (spot : Spot) : spot.name ∈ checked.flaws.map Flaw.place ↔ Breaks sources spot := by
  rw [judges.names]
  constructor
  · rintro ⟨setting, -, entry, breaks, same⟩
    rwa [Spot.name_injective same]
  · intro breaks
    exact ⟨spot.setting, Setting.mem_all _, spot.entry, breaks, rfl⟩

theorem report_check (sources : Sources) : Report sources (check sources).flaws := by
  obtain ⟨fields, whole, judges⟩ := judges_fields sources
  have places (place : String) : place ∈ (check sources).flaws.map Flaw.place ↔
      place ∈ fields.flaws.map Flaw.place ∨
        (¬ ∃ setting, Useless sources setting) ∧ place ∈ (missingUrl sources).map Flaw.place := by
    have usable : fields.usable = true ↔ ¬ ∃ setting, Useless sources setting := by
      rw [← Bool.not_eq_false, judges.usable]
      simp [Setting.mem_all]
    rw [whole, Checked.flaws_alsoFlawed, List.map_append, List.mem_append, ← usable]
    cases fields.usable <;> simp
  constructor
  · intro spot
    rw [places, judges.named, mem_missingUrl]
    constructor
    · rintro (breaks | ⟨usable, pooled, url, same⟩)
      · exact ⟨.inl breaks, breaks.noticed⟩
      · obtain rfl := Spot.name_injective same
        refine ⟨?_, fun unnoticed => usable unnoticed.2.2⟩
        cases given : sources.text? .databaseUrl with
        | none => exact .inr ⟨rfl, pooled, given⟩
        | some text =>
          rw [given, Option.getD_some] at url
          exact .inl (.text rfl given fun filled => filled url)
    · rintro ⟨breaks | ⟨rfl, misses⟩, noticed⟩
      · exact .inl breaks
      · refine .inr ⟨fun useless => noticed ⟨rfl, misses, useless⟩, misses.1, ?_, rfl⟩
        rw [misses.2]
        rfl
  · intro flaw hflaw
    rcases (places flaw.place).mp (List.mem_map_of_mem hflaw) with named | ⟨-, named⟩
    · obtain ⟨setting, -, entry, -, same⟩ := (judges.names _).mp named
      exact ⟨_, same⟩
    · exact ⟨_, ((mem_missingUrl sources _).mp named).2.2⟩
  · rfl

theorem check_eq_flawed_iff {flaws : List Flaw} :
    (∃ usable, check sources = .flawed flaws usable) ↔
      (check sources).flaws = flaws ∧ flaws ≠ [] := by
  obtain ⟨fields, whole, judges⟩ := judges_fields sources
  constructor
  · rintro ⟨usable, refused⟩
    refine ⟨by rw [refused]; rfl, ?_⟩
    rintro rfl
    have none : fields.flaws = [] ∧ (if fields.usable then missingUrl sources else []) = [] := by
      rw [← List.append_eq_nil_iff, ← Checked.flaws_alsoFlawed, ← whole, refused]
      rfl
    obtain ⟨config, passed⟩ := judges.complete none.1
    have missing : missingUrl sources = [] := by simpa [passed, Checked.usable] using none.2
    rw [whole, Checked.alsoFlawed_eq_good_iff.mpr ⟨passed, missing⟩] at refused
    cases refused
  · rintro ⟨same, filled⟩
    cases verdict : check sources with
    | good config =>
      rw [verdict] at same
      exact absurd same.symm filled
    | flawed found usable =>
      rw [verdict] at same
      exact ⟨usable, congrArg (Checked.flawed · usable) same⟩

/-- **Every fault is reported.** A configuration is refused exactly if something is wrong with what
is given, and the refusal names all of that and nothing else. One fault alone can be left out: a
missing address of the database, if a setting has a value of the wrong kind. -/
theorem faults_reported {words : List String} {environment : Environment} {flags : List Given}
    (reads : CommandLine.read words = .ok flags) :
    ((∃ flaws, load words environment = .error (.invalid flaws)) ↔
      ∃ spot, Faulty ⟨flags, environment⟩ spot) ∧
    ∀ flaws, load words environment = .error (.invalid flaws) →
      Report ⟨flags, environment⟩ flaws := by
  have report := report_check ⟨flags, environment⟩
  simp only [load_eq_invalid_iff reads, check_eq_flawed_iff]
  constructor
  · constructor
    · rintro ⟨flaws, rfl, filled⟩
      obtain ⟨flaw, hflaw⟩ := List.exists_mem_of_ne_nil _ filled
      obtain ⟨spot, same⟩ := report.only flaw hflaw
      have named : spot.name ∈ (check ⟨flags, environment⟩).flaws.map Flaw.place :=
        same ▸ List.mem_map_of_mem hflaw
      exact ⟨spot, ((report.named spot).mp named).1⟩
    · rintro ⟨spot, faulty⟩
      -- If the fault itself is left out, the value of the wrong kind is named.
      have named : ∃ spot : Spot,
          spot.name ∈ (check ⟨flags, environment⟩).flaws.map Flaw.place := by
        by_cases noticed : Unnoticed ⟨flags, environment⟩ spot
        · obtain ⟨-, -, setting, useless⟩ := noticed
          have breaks := useless.breaks
          exact ⟨_, (report.named _).mpr ⟨.inl breaks, breaks.noticed⟩⟩
        · exact ⟨spot, (report.named spot).mpr ⟨faulty, noticed⟩⟩
      obtain ⟨spot, named⟩ := named
      refine ⟨_, rfl, ?_⟩
      intro none
      rw [none] at named
      cases named
  · rintro flaws ⟨rfl, -⟩
    exact report

/-- Two entries that are no addresses, an empty text, a number that breaks two rules, and a database
server without an address. -/
def faultyWords : List String := ["--data-dir=", "--snapshot-days=-0.5"]

def faultyEnvironment : Environment :=
  [("LISTEN", "nowhere, [::1]:80, a:b"), ("STORAGE", "postgres")]

theorem faults_reported_together :
    ∃ flags flaws, CommandLine.read faultyWords = .ok flags ∧
      load faultyWords faultyEnvironment = .error (.invalid flaws) ∧
      flaws.map Flaw.place =
        ["listen.0", "listen.2", "dataDir", "snapshotDays", "snapshotDays", "databaseUrl"] ∧
      Report ⟨flags, faultyEnvironment⟩ flaws ∧ ∃ spot, Faulty ⟨flags, faultyEnvironment⟩ spot := by
  have reads : CommandLine.read faultyWords =
      .ok [.text .dataDir "", .text .snapshotDays "-0.5"] := by
    decide +kernel
  have refused : load faultyWords faultyEnvironment = .error (.invalid
      [⟨"listen.0", "expected HOST:PORT, got \"nowhere\""⟩,
        ⟨"listen.2", "expected HOST:PORT, got \"a:b\""⟩,
        ⟨"dataDir", "String must contain at least 1 character(s)"⟩,
        ⟨"snapshotDays", "Expected integer, received float"⟩,
        ⟨"snapshotDays", "Number must be greater than 0"⟩,
        ⟨"databaseUrl", "is required when storage is postgres"⟩]) := by
    decide +kernel
  exact ⟨_, _, reads, refused, rfl, (faults_reported reads).2 _ refused,
    (faults_reported reads).1.mp ⟨_, refused⟩⟩

def withoutUrl : Environment := [("STORAGE", "postgres"), ("CREATE_CLIENTS", "maybe")]

/-- Two faults of which one is named. -/
theorem missing_url_left_out :
    load [] withoutUrl =
        .error (.invalid [⟨"createClients", "Expected boolean, received string"⟩]) ∧
      Faulty ⟨[], withoutUrl⟩ ⟨.databaseUrl, none⟩ ∧
      ¬ ∀ flaws, load [] withoutUrl = .error (.invalid flaws) →
        ∀ spot, Faulty ⟨[], withoutUrl⟩ spot → Spot.name spot ∈ flaws.map Flaw.place := by
  have refused : load [] withoutUrl =
      .error (.invalid [⟨"createClients", "Expected boolean, received string"⟩]) := by
    decide +kernel
  have faulty : Faulty ⟨[], withoutUrl⟩ ⟨.databaseUrl, none⟩ := .inr ⟨rfl, by decide, by decide⟩
  refine ⟨refused, faulty, fun named => ?_⟩
  exact absurd (named _ refused _ faulty) (by decide)

end Config

end TaskSync
