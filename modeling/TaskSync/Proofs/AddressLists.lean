import TaskSync.Proofs.Addresses
import TaskSync.Proofs.Precedence
import TaskSync.Proofs.Reports

/-!
# Addresses in a list

A list of addresses that is written down is read back: with or without brackets
around the hosts, with blanks around the entries, and with blank entries in
between. The brackets and the blanks do not come back.
-/

namespace TaskSync

/-! ## Entries -/

namespace Text

section

variable {p : Char → Bool} {before core after : List Char}

theorem strip_around (blank : ∀ c ∈ before ++ after, p c = true)
    (first : ∀ c ∈ core.head?, p c = false) (last : ∀ c ∈ core.getLast?, p c = false) :
    strip p (before ++ core ++ after) = core := by
  rw [List.forall_mem_append] at blank
  have front : (before ++ core ++ after).dropWhile p = (core ++ after).dropWhile p := by
    rw [List.append_assoc, List.dropWhile_append_of_pos blank.1]
  have back : ∀ c ∈ after.reverse, p c = true := by simpa using blank.2
  unfold strip
  rw [front]
  cases core with
  | nil => simp [List.dropWhile_eq_nil_iff.mpr blank.2]
  | cons c core =>
    have own : p c = false := first c rfl
    rw [List.cons_append, List.dropWhile_cons_of_neg (by simp [own]), ← List.cons_append,
      List.reverse_append, List.dropWhile_append_of_pos back]
    have plain := strip_eq_self first last
    rwa [strip, List.dropWhile_cons_of_neg (by simp [own])] at plain

end

theorem entries_of_single {cs : List Char} (single : ',' ∉ cs) : entries (String.ofList cs) =
    if strip isBlank cs = [] then [] else [String.ofList (strip isBlank cs)] := by
  unfold entries
  rw [String.toList_ofList, fields_eq_self single]
  by_cases blank : strip isBlank cs = []
  · simp [blank]
  · simp [blank, String.ofList_eq_empty_iff]

end Text

namespace Address

/-- An address that can be written in a list. Its host has no comma and no blank in it, and is not
in brackets itself. -/
@[mk_iff]
structure IsWritable (address : Address) : Prop where
  filled : address.host ≠ ""
  plain : ∀ c ∈ address.host.toList, c ≠ ',' ∧ Text.isBlank c = false ∧ Text.endsLine c = false
  bare : ¬ (address.host.toList.head? = some '[' ∧ address.host.toList.getLast? = some ']')
  bound : address.port ≤ 65535

/-- The characters of the host are checked one by one. -/
instance (address : Address) : Decidable address.IsWritable :=
  decidable_of_iff (address.host ≠ "" ∧
      (address.host.toList.all fun c =>
        c ≠ ',' ∧ Text.isBlank c = false ∧ Text.endsLine c = false) = true ∧
      ¬ (address.host.toList.head? = some '[' ∧ address.host.toList.getLast? = some ']') ∧
      address.port ≤ 65535) (by
    simp only [isWritable_iff, List.all_eq_true, decide_eq_true_eq])

/-- The host as it is written, with or without brackets. -/
def writtenHost (address : Address) (bracketed : Bool) : List Char :=
  if bracketed then '[' :: (address.host.toList ++ [']']) else address.host.toList

/-- The address as it is written, with its port in decimal. -/
def written (address : Address) (bracketed : Bool) : List Char :=
  address.writtenHost bracketed ++ ':' :: Nat.toDigits 10 address.port

section

variable {address : Address} (writable : address.IsWritable) (bracketed : Bool)

theorem isDigit_port {c : Char} (hc : c ∈ Nat.toDigits 10 address.port) : c.isDigit = true :=
  Nat.isDigit_of_mem_toDigits (by omega) (by omega) hc

include writable

theorem writtenHost_ne_nil : address.writtenHost bracketed ≠ [] := by
  have filled := writable.filled
  unfold writtenHost
  cases bracketed with
  | true => simp
  | false => simpa using filled

theorem unbracket_writtenHost : unbracket (address.writtenHost bracketed) = address.host.toList := by
  unfold writtenHost
  cases bracketed with
  | true => exact unbracket_of_isBracketed ⟨rfl, fun c hc => (writable.plain c hc).2.2⟩
  | false =>
    refine unbracket_eq_self ?_
    rintro inner ⟨host, -⟩
    apply writable.bare
    rw [if_neg (by decide)] at host
    rw [host]
    exact ⟨rfl, @List.getLast?_concat _ ('[' :: inner) ']'⟩

theorem read?_written : read? (String.ofList (address.written bracketed)) = some address := by
  have split : (String.ofList (address.written bracketed)).toList =
      address.writtenHost bracketed ++ ':' :: Nat.toDigits 10 address.port := by
    rw [String.toList_ofList]
    rfl
  have last : ':' ∉ Nat.toDigits 10 address.port :=
    fun colon => absurd (isDigit_port colon) (by decide)
  have port : readPort? (Nat.toDigits 10 address.port) = some address.port := by
    rw [readPort?_digits (fun c => isDigit_port) Nat.toDigits_ne_nil]
    exact ⟨Nat.ofDigitChars_ten_toDigits, writable.bound⟩
  have filled : (address.writtenHost bracketed).isEmpty = false := by
    simpa using writtenHost_ne_nil writable bracketed
  rw [read?_of_split split last, filled, port, unbracket_writtenHost writable, String.ofList_toList]
  rfl

theorem plain_of_writtenHost {c : Char} (hc : c ∈ address.writtenHost bracketed) :
    c ≠ ',' ∧ Text.isBlank c = false := by
  unfold writtenHost at hc
  cases bracketed with
  | true =>
    simp only [if_true, List.mem_cons, List.mem_append, List.not_mem_nil, or_false] at hc
    rcases hc with rfl | inside | rfl
    · decide
    · exact ⟨(writable.plain c inside).1, (writable.plain c inside).2.1⟩
    · decide
  | false => exact ⟨(writable.plain c hc).1, (writable.plain c hc).2.1⟩

theorem plain_of_written {c : Char} (hc : c ∈ address.written bracketed) :
    c ≠ ',' ∧ Text.isBlank c = false := by
  rcases List.mem_append.mp hc with host | port
  · exact plain_of_writtenHost writable bracketed host
  · rcases List.mem_cons.mp port with rfl | digit
    · decide
    · have digit := isDigit_port digit
      refine ⟨?_, Number.isBlank_of_isDigit digit⟩
      rintro rfl
      exact absurd digit (by decide)

end

/-- An entry in a list of addresses: an address with or without brackets, or none, and the blanks
around it. -/
structure Entry where
  address? : Option Address
  bracketed : Bool := false
  before : List Char := []
  after : List Char := []
  writable : ∀ address ∈ address?, address.IsWritable
  blank : ∀ c ∈ before ++ after, Text.isBlank c = true

namespace Entry

def core (entry : Entry) : List Char :=
  match entry.address? with
  | some address => address.written entry.bracketed
  | none => []

def text (entry : Entry) : String := String.ofList (entry.before ++ entry.core ++ entry.after)

theorem plain_of_core {entry : Entry} {c : Char} (hc : c ∈ entry.core) :
    c ≠ ',' ∧ Text.isBlank c = false := by
  unfold core at hc
  split at hc
  · next address found => exact plain_of_written (entry.writable address found) _ hc
  · cases hc

theorem entries_text (entry : Entry) : Text.entries entry.text =
    (entry.address?.map fun address =>
      String.ofList (address.written entry.bracketed)).toList := by
  have single : ',' ∉ entry.before ++ entry.core ++ entry.after := by
    intro comma
    simp only [List.mem_append] at comma
    rcases comma with (before | inside) | after
    · exact absurd (entry.blank _ (List.mem_append_left _ before)) (by decide)
    · exact (plain_of_core inside).1 rfl
    · exact absurd (entry.blank _ (List.mem_append_right _ after)) (by decide)
  have stripped : Text.strip Text.isBlank (entry.before ++ entry.core ++ entry.after) = entry.core :=
    Text.strip_around entry.blank (fun c hc => (plain_of_core (List.mem_of_mem_head? hc)).2)
      fun c hc => (plain_of_core (List.mem_of_getLast? hc)).2
  rw [text, Text.entries_of_single single, stripped, core]
  cases entry.address? with
  | none => rfl
  | some address => simp [written]

end Entry

def listed (entries : List Entry) : List Address := entries.filterMap (·.address?)

/-- The list as it is written, with commas between its entries. -/
def writtenList (entries : List Entry) : String := ",".intercalate (entries.map Entry.text)

theorem read?_writtenList (entries : List Entry) :
    List.Forall₂ (fun entry address => read? entry = some address)
      (Text.entries (writtenList entries)) (listed entries) := by
  unfold writtenList listed
  rw [Text.entries_intercalate]
  induction entries with
  | nil => exact .nil
  | cons entry rest ih =>
    rw [List.map_cons, List.flatMap_cons, Entry.entries_text]
    cases found : entry.address? with
    | none => simpa [found] using ih
    | some address =>
      have read := read?_written (entry.writable address found) entry.bracketed
      simpa [found] using ⟨read, ih⟩

end Address

/-! ## Words -/

theorem CommandLine.read_word {flag : Flag} (known : flag ∈ Flag.all)
    (valued : flag.takesValue = true) (text : String) {words : List String} {flags : List Given}
    (reads : read words = .ok flags) :
    read (flag.word text :: words) = .ok (.text flag.setting text :: flags) := by
  unfold read at reads ⊢
  rw [readWords_word known valued]
  cases rest : readWords none false words with
  | error error =>
    rw [rest] at reads
    cases reads
  | ok reading =>
    rw [rest] at reads
    obtain ⟨given, strays⟩ := reading
    simp only [Except.map, bind, Except.bind, Reading.addGiven] at reads ⊢
    split at reads
    · cases reads
    · split at reads
      · obtain rfl := Except.ok.inj reads
        rfl
      · cases reads

/-! ## Settings -/

namespace Config

open Checked (good)

/-- A setting is given by one text: by the only flag of it, or by its variable if it has no flag. -/
def Sources.Tells (sources : Sources) (setting : Setting) (text : String) : Prop :=
  sources.flagTexts setting = [text] ∨
    sources.flagTexts setting = [] ∧ sources.environment? setting = some text

theorem Sources.Tells.list? {sources : Sources} {setting : Setting} {text : String}
    (tells : sources.Tells setting text) : sources.list? setting = some (Text.entries text) := by
  unfold Sources.list?
  rcases tells with flag | ⟨none, value⟩
  · rw [flag]
    simp
  · rw [none, value]
    rfl

section

variable {sources : Sources} {addresses : List Address}

theorem not_breaks_listen {entries : List String} (given : sources.list? .listen = some entries)
    (filled : entries ≠ [])
    (read : List.Forall₂ (fun entry address => Address.read? entry = some address) entries addresses)
    {spot : Spot} (listen : spot.setting = .listen) : ¬ Breaks sources spot := by
  obtain ⟨setting, entry⟩ := spot
  change setting = .listen at listen
  subst listen
  rw [breaks_list_iff rfl, given]
  rintro (⟨-, -, none⟩ | ⟨i, value, -, place, refused⟩)
  · exact filled (Option.some.inj none)
  · obtain ⟨address, -, found⟩ := exists_related read (List.mem_of_getElem? place)
    exact refused (by simp [Setting.Allows, found])

theorem check_of_faultless (faultless : ∀ spot, ¬ Faulty sources spot) :
    ∃ config, check sources = good config := by
  cases verdict : check sources with
  | good config => exact ⟨config, rfl⟩
  | flawed flaws usable =>
    obtain ⟨same, filled⟩ := check_eq_flawed_iff.mp ⟨usable, verdict⟩
    have report := report_check sources
    obtain ⟨flaw, hflaw⟩ := List.exists_mem_of_ne_nil _ (same ▸ filled)
    obtain ⟨spot, named⟩ := report.only flaw hflaw
    have mentioned : spot.name ∈ (check sources).flaws.map Flaw.place :=
      named ▸ List.mem_map_of_mem hflaw
    exact absurd ((report.named spot).mp mentioned).1 (faultless spot)

theorem faultless_of_flaws (none : (check sources).flaws = []) (spot : Spot) :
    ¬ Faulty sources spot := by
  have report := report_check sources
  have silent (spot : Spot) : Faulty sources spot → Unnoticed sources spot := by
    intro faulty
    by_contra noticed
    have named := (report.named spot).mpr ⟨faulty, noticed⟩
    rw [none] at named
    cases named
  intro faulty
  -- What would be unnoticed is so because of a value of the wrong kind, which is not.
  obtain ⟨-, -, setting, useless⟩ := silent spot faulty
  exact useless.breaks.noticed (silent _ (.inl useless.breaks))

end

/-- **Addresses in a list.** A list of addresses that is written down, as the text of the flag or of
the variable, is loaded as that list if nothing is wrong with any other setting. -/
theorem listens_as_written (entries : List Address.Entry) (filled : Address.listed entries ≠ []) :
    (∀ words environment flags, CommandLine.read words = .ok flags →
      Sources.Tells ⟨flags, environment⟩ .listen (Address.writtenList entries) →
      (∀ spot, Faulty ⟨flags, environment⟩ spot → spot.setting = .listen) →
        ∃ config, load words environment = .ok config ∧ config.listen = Address.listed entries) ∧
    ∀ words flags, CommandLine.read words = .ok flags →
      CommandLine.read (("--listen=" ++ Address.writtenList entries) :: words) =
        .ok (.text .listen (Address.writtenList entries) :: flags) := by
  have read := Address.read?_writtenList entries
  have some : Text.entries (Address.writtenList entries) ≠ [] := by
    intro none
    rw [none, List.forall₂_nil_left_iff] at read
    exact filled read
  constructor
  · intro words environment flags reads tells others
    have given := tells.list?
    have faultless : ∀ spot, ¬ Faulty ⟨flags, environment⟩ spot := by
      intro spot faulty
      have listen := others spot faulty
      rcases faulty with breaks | ⟨rfl, -⟩
      · exact not_breaks_listen given some read listen breaks
      · cases listen
    obtain ⟨config, passed⟩ := check_of_faultless faultless
    refine ⟨config, by rw [load_of_read reads, passed], ?_⟩
    have yields := (check_eq_good_iff.mp passed).listen
    have own : checkListen (.some (Text.entries (Address.writtenList entries))) =
        good (Address.listed entries) :=
      checkListen_eq_good_iff.mpr ⟨fun none => some (Option.some.inj none), read⟩
    rw [given, own] at yields
    exact (Checked.good.inj yields).symm
  · intro words flags reads
    have known : listenFlag ∈ Flag.all := by decide
    exact CommandLine.read_word known rfl _ reads

/-- A host with colons in brackets, a blank entry, and a host that begins with a bracket. -/
def mixedEntries : List Address.Entry :=
  [{ address? := some ⟨"::1", 9001⟩
     bracketed := true
     before := [' ']
     after := ['\t', '\u00a0']
     writable := by
       rintro _ ⟨⟩
       decide
     blank := List.all_eq_true.mp (by decide) },
   { address? := none
     before := ['\u3000']
     writable := nofun
     blank := List.all_eq_true.mp (by decide) },
   { address? := some ⟨"[a:b", 65535⟩
     writable := by
       rintro _ ⟨⟩
       decide
     blank := List.all_eq_true.mp (by decide) }]

theorem listens_as_written_mixed :
    Address.writtenList mixedEntries = " [::1]:9001\t\u00a0,\u3000,[a:b:65535" ∧
      Address.listed mixedEntries = [⟨"::1", 9001⟩, ⟨"[a:b", 65535⟩] ∧
      Address.listed mixedEntries ≠ [] ∧
      (∃ config, load [] [("LISTEN", Address.writtenList mixedEntries)] = .ok config ∧
        config.listen = Address.listed mixedEntries) ∧
      ∃ config, load ["--listen=" ++ Address.writtenList mixedEntries, "-d", "."]
          [("LISTEN", "none")] = .ok config ∧
        config.listen = Address.listed mixedEntries := by
  have written : Address.writtenList mixedEntries = " [::1]:9001\t\u00a0,\u3000,[a:b:65535" := by
    decide +kernel
  have filled : Address.listed mixedEntries ≠ [] := by decide
  obtain ⟨loads, reads⟩ := listens_as_written mixedEntries filled
  have value := reads ["-d", "."] [.text .dataDir "."] (by decide +kernel)
  refine ⟨written, by decide, filled, ?_, ?_⟩
  · refine loads [] [("LISTEN", Address.writtenList mixedEntries)] [] rfl (.inr ⟨rfl, rfl⟩) ?_
    rw [written]
    exact fun spot faulty => absurd faulty (faultless_of_flaws (by decide +kernel) spot)
  · refine loads _ [("LISTEN", "none")] _ value (.inl rfl) ?_
    rw [written]
    exact fun spot faulty => absurd faulty (faultless_of_flaws (by decide +kernel) spot)

end Config

end TaskSync
