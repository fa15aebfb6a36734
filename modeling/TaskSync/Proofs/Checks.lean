import Mathlib.Algebra.Order.Ring.Rat
import Mathlib.Data.List.Forall2
import Mathlib.Data.Rat.Lemmas
import TaskSync.Config.Basic

/-!
# What the checks let through

A configuration is loaded if every setting passes its own check and no rule about
several settings is broken. What passes a check is said once for each check.
-/

namespace TaskSync

/-! ## Settings -/

/-- How a setting is given: as a text, as a list of entries, or turned on or off. -/
inductive Setting.Form where
  | text
  | list
  | switch
deriving DecidableEq

def Setting.form : Setting → Form
  | listen | allowClientIds => .list
  | createClients | logPretty => .switch
  | _ => .text

/-! ## Parts -/

theorem exists_related {α β : Type} {R : α → β → Prop} {as : List α} {bs : List β}
    (related : List.Forall₂ R as bs) {a : α} (member : a ∈ as) : ∃ b ∈ bs, R a b := by
  induction related with
  | nil => cases member
  | @cons first b as bs own rest ih =>
    rcases List.mem_cons.mp member with rfl | later
    · exact ⟨b, List.mem_cons_self, own⟩
    · obtain ⟨b', found, related⟩ := ih later
      exact ⟨b', List.mem_cons_of_mem _ found, related⟩

namespace Checked

variable {α β : Type}

theorem map_eq_good_iff {f : α → β} {x : Checked α} {b : β} :
    x.map f = good b ↔ ∃ a, x = good a ∧ f a = b := by
  cases x <;> simp [map]

theorem and_eq_good_iff {f : Checked (α → β)} {x : Checked α} {b : β} :
    f.and x = good b ↔ ∃ g a, f = good g ∧ x = good a ∧ g a = b := by
  cases f <;> cases x <;> simp [Checked.and]

theorem ofRules_eq_good_iff {a b : α} {flaws : List Flaw} :
    ofRules a flaws = good b ↔ flaws = [] ∧ a = b := by
  unfold ofRules
  cases flaws <;> simp

theorem alsoFlawed_eq_good_iff {x : Checked α} {more : List Flaw} {a : α} :
    x.alsoFlawed more = good a ↔ x = good a ∧ more = [] := by
  cases x with
  | good value =>
    rw [alsoFlawed, ofRules_eq_good_iff, good.injEq]
    exact and_comm
  | flawed flaws usable => simp [alsoFlawed]

end Checked

namespace Config

open Checked (good)

/-! ## Entries -/

/-- An entry of a list is read, or reported with its position. -/
def readEntry {α : Type} (setting : Setting) (read : String → Option α) (message : String → String)
    (i : Nat) (entry : String) : Checked α :=
  match read entry with
  | some value => good value
  | none => .broken (setting.name ++ "." ++ toString i) (message entry)

section

variable {α : Type} {setting : Setting} {read : String → Option α} {message : String → String}

theorem readEntry_eq_good_iff {i : Nat} {entry : String} {value : α} :
    readEntry setting read message i entry = good value ↔ read entry = some value := by
  unfold readEntry
  cases read entry <;> simp [Checked.broken]

theorem list_eq_good_iff {entries : List String} {start : Nat} {values : List α} :
    Checked.list (readEntry setting read message) start entries = good values ↔
      List.Forall₂ (fun entry value => read entry = some value) entries values := by
  induction entries generalizing start values with
  | nil =>
    rw [Checked.list, List.forall₂_nil_left_iff, Checked.good.injEq]
    exact eq_comm
  | cons entry rest ih =>
    simp only [Checked.list, Checked.and_eq_good_iff, Checked.map_eq_good_iff,
      readEntry_eq_good_iff, ih, List.forall₂_cons_left_iff]
    constructor
    · rintro ⟨_, more, ⟨value, reads, rfl⟩, rest, rfl⟩
      exact ⟨value, more, reads, rest, rfl⟩
    · rintro ⟨value, more, reads, rest, rfl⟩
      exact ⟨_, more, ⟨value, reads, rfl⟩, rest, rfl⟩

end

theorem checkListen_cons (entry : String) (rest : List String) :
    checkListen (some (entry :: rest)) =
      Checked.list (readEntry .listen Address.read? fun entry =>
        "expected HOST:PORT, got \"" ++ entry ++ "\"") 0 (entry :: rest) := by
  unfold checkListen
  dsimp only
  congr 1
  funext i entry
  unfold readEntry
  cases Address.read? entry <;> rfl

theorem checkIds_eq (entries : Option (List String)) :
    checkIds entries =
      Checked.list (readEntry .allowClientIds Uuid.read? fun _ => "must be a UUID") 0
        (entries.getD []) := by
  unfold checkIds
  congr 1
  funext i entry
  unfold readEntry
  cases Uuid.read? entry <;> rfl

theorem checkListen_eq_good_iff {entries : Option (List String)} {addresses : List Address} :
    checkListen entries = good addresses ↔ entries ≠ some [] ∧
      List.Forall₂ (fun entry address => Address.read? entry = some address)
        (entries.getD ["localhost:8080"]) addresses := by
  cases entries with
  | none =>
    have default : Address.read? "localhost:8080" = some ⟨"localhost", 8080⟩ := by decide +kernel
    simp [checkListen, default, List.forall₂_cons_left_iff, eq_comm]
  | some entries =>
    cases entries with
    | nil => simp [checkListen, Checked.broken]
    | cons entry rest =>
      rw [checkListen_cons, list_eq_good_iff]
      simp

theorem checkIds_eq_good_iff {entries : Option (List String)} {ids : List String} :
    checkIds entries = good ids ↔
      List.Forall₂ (fun entry id => Uuid.read? entry = some id) (entries.getD []) ids := by
  rw [checkIds_eq, list_eq_good_iff]

/-! ## Texts and numbers -/

section

variable {α : Type} {setting : Setting} {text : Option String}

theorem checkChoice_eq_good_iff {choices : List (String × α)} {default value : α} :
    checkChoice setting choices default text = good value ↔
      text = none ∧ default = value ∨
        ∃ name, text = some name ∧ (choices.find? (·.1 = name)).map (·.2) = some value := by
  unfold checkChoice
  cases text with
  | none => simp
  | some name =>
    rcases found : choices.find? (·.1 = name) with _ | ⟨_, choice⟩ <;>
      simp [found, Checked.unusable]

theorem checkText_eq_good_iff {use : String → α} {default value : α} :
    checkText setting use default text = good value ↔
      text = none ∧ default = value ∨ ∃ given, text = some given ∧ given ≠ "" ∧ use given = value := by
  unfold checkText
  split <;> simp_all [Checked.broken]

end

end Config

def Number.IsCount (n : Number) : Prop := ∃ k : Nat, 0 < k ∧ n = ofNat k

theorem Number.IsCount.ne_nan {n : Number} (count : n.IsCount) : n ≠ nan := by
  obtain ⟨k, -, rfl⟩ := count
  nofun

theorem Number.isCount_iff {n : Number} :
    n.IsCount ↔ n.isInteger = true ∧ Number.lt 0 n = true := by
  unfold IsCount
  constructor
  · rintro ⟨k, positive, rfl⟩
    have below : Number.le (ofNat 0) (ofNat k) = true ∧ Number.le (ofNat k) (ofNat 0) = false := by
      rw [le_ofNat, le_ofNat]
      simp [Nat.pos_iff_ne_zero.mp positive]
    exact ⟨by simp [isInteger], by simp [lt, OfNat.ofNat, below]⟩
  · rintro ⟨whole, positive⟩
    cases n with
    | nan | infinity => simp [isInteger, toInt?] at whole
    | finite q =>
      have whole : q.den = 1 := by
        by_contra fraction
        simp [isInteger, toInt?, fraction] at whole
      have positive : 0 < q := by
        simp only [lt, OfNat.ofNat, ofNat, le, Bool.and_eq_true, Bool.not_eq_true'] at positive
        simpa using positive.2
      refine ⟨q.num.toNat, by simpa using positive, ?_⟩
      have num : ((q.num.toNat : Nat) : Int) = q.num := Int.toNat_of_nonneg (by simpa using positive.le)
      rw [ofNat, finite.injEq]
      calc q = (q.num : Rat) := (Rat.coe_int_num_of_den_eq_one whole).symm
        _ = ((q.num.toNat : Nat) : Rat) := by rw [← num]; rfl

namespace Config

open Checked (good)

theorem checkCount_eq_good_iff {setting : Setting} {default n : Number} {text : Option String} :
    checkCount setting default text = good n ↔
      text = none ∧ default = n ∨
        ∃ given, text = some given ∧ (Number.read given).IsCount ∧ Number.read given = n := by
  cases text with
  | none => simp [checkCount]
  | some given =>
    simp only [Option.some.injEq, reduceCtorEq, false_and, false_or, exists_eq_left',
      Number.isCount_iff, checkCount]
    split
    · next none =>
      have fraction : (Number.read given).isInteger = false := by
        cases h : Number.read given <;> simp_all [Number.isNaN, Number.isInteger, Number.toInt?]
      simp [Checked.unusable, fraction]
    · rw [Checked.ofRules_eq_good_iff, List.append_eq_nil_iff]
      simp

/-! ## All settings -/

theorem check_congr {sources sources' : Sources}
    (texts : ∀ s : Setting, s.form = .text → sources.text? s = sources'.text? s)
    (lists : ∀ s : Setting, s.form = .list → sources.list? s = sources'.list? s)
    (switches : ∀ s : Setting, s.form = .switch → sources.switch? s = sources'.switch? s) :
    check sources = check sources' := by
  unfold check missingUrl
  rw [lists .listen rfl, lists .allowClientIds rfl, switches .createClients rfl,
    switches .logPretty rfl, texts .storage rfl, texts .dataDir rfl, texts .databaseUrl rfl,
    texts .snapshotVersions rfl, texts .snapshotDays rfl, texts .versionRetention rfl,
    texts .maxBodyBytes rfl, texts .logLevel rfl]

/-- Every setting passes its check with a value of the configuration, and no address is missing. -/
structure Yields (sources : Sources) (config : Config) : Prop where
  listen : checkListen (sources.list? .listen) = good config.listen
  storage : checkChoice .storage storageChoices .sqlite (sources.text? .storage) =
    good config.storage
  dataDir : checkText .dataDir id "./data" (sources.text? .dataDir) = good config.dataDir
  databaseUrl : checkText .databaseUrl some none (sources.text? .databaseUrl) =
    good config.databaseUrl
  allowClientIds : checkIds (sources.list? .allowClientIds) = good config.allowClientIds
  createClients : checkSwitch .createClients true (sources.switch? .createClients) =
    good config.createClients
  snapshotVersions : checkCount .snapshotVersions 100 (sources.text? .snapshotVersions) =
    good config.snapshotVersions
  snapshotDays : checkCount .snapshotDays 14 (sources.text? .snapshotDays) =
    good config.snapshotDays
  retention : checkChoice .versionRetention retentionChoices .keepAll
    (sources.text? .versionRetention) = good config.retention
  maxBodyBytes : checkCount .maxBodyBytes Http.defaultMaxBody (sources.text? .maxBodyBytes) =
    good config.maxBodyBytes
  logLevel : checkChoice .logLevel levelChoices .info (sources.text? .logLevel) =
    good config.logLevel
  logPretty : checkSwitch .logPretty false (sources.switch? .logPretty) = good config.logPretty
  url : missingUrl sources = []

theorem check_eq_good_iff {sources : Sources} {config : Config} :
    check sources = good config ↔ Yields sources config := by
  constructor
  · intro passed
    obtain ⟨first12, url⟩ := Checked.alsoFlawed_eq_good_iff.mp passed
    obtain ⟨_, _, first11, logPretty, rfl⟩ := Checked.and_eq_good_iff.mp first12
    obtain ⟨_, _, first10, logLevel, rfl⟩ := Checked.and_eq_good_iff.mp first11
    obtain ⟨_, _, first9, maxBodyBytes, rfl⟩ := Checked.and_eq_good_iff.mp first10
    obtain ⟨_, _, first8, retention, rfl⟩ := Checked.and_eq_good_iff.mp first9
    obtain ⟨_, _, first7, snapshotDays, rfl⟩ := Checked.and_eq_good_iff.mp first8
    obtain ⟨_, _, first6, snapshotVersions, rfl⟩ := Checked.and_eq_good_iff.mp first7
    obtain ⟨_, _, first5, createClients, rfl⟩ := Checked.and_eq_good_iff.mp first6
    obtain ⟨_, _, first4, allowClientIds, rfl⟩ := Checked.and_eq_good_iff.mp first5
    obtain ⟨_, _, first3, databaseUrl, rfl⟩ := Checked.and_eq_good_iff.mp first4
    obtain ⟨_, _, first2, dataDir, rfl⟩ := Checked.and_eq_good_iff.mp first3
    obtain ⟨_, _, first1, storage, rfl⟩ := Checked.and_eq_good_iff.mp first2
    obtain ⟨_, listen, rfl⟩ := Checked.map_eq_good_iff.mp first1
    exact ⟨listen, storage, dataDir, databaseUrl, allowClientIds, createClients, snapshotVersions,
      snapshotDays, retention, maxBodyBytes, logLevel, logPretty, url⟩
  · rintro ⟨listen, storage, dataDir, databaseUrl, allowClientIds, createClients, snapshotVersions,
      snapshotDays, retention, maxBodyBytes, logLevel, logPretty, url⟩
    unfold check
    rw [listen, storage, dataDir, databaseUrl, allowClientIds, createClients, snapshotVersions,
      snapshotDays, retention, maxBodyBytes, logLevel, logPretty, url]
    rfl

/-! ## Loading -/

section

variable {words : List String} {environment : Environment} {flags : List Given}

theorem load_eq_ok_iff {config : Config} : load words environment = .ok config ↔
    ∃ flags, CommandLine.read words = .ok flags ∧ Yields ⟨flags, environment⟩ config := by
  unfold load
  cases CommandLine.read words with
  | error error => simp
  | ok flags =>
    simp only [Except.ok.injEq, exists_eq_left', ← check_eq_good_iff]
    cases check ⟨flags, environment⟩ <;> simp

variable (reads : CommandLine.read words = .ok flags)
include reads

theorem load_of_read : load words environment =
    match check ⟨flags, environment⟩ with
    | .good config => .ok config
    | .flawed flaws _ => .error (.invalid flaws) := by
  cases verdict : check ⟨flags, environment⟩ <;> simp [load, reads, verdict]

theorem load_eq_invalid_iff {flaws : List Flaw} :
    load words environment = .error (.invalid flaws) ↔
      ∃ usable, check ⟨flags, environment⟩ = .flawed flaws usable := by
  rw [load_of_read reads]
  cases check ⟨flags, environment⟩ <;> simp

end

end Config

end TaskSync
