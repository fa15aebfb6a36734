import TaskSync.Proofs.Addresses
import TaskSync.Proofs.Folding
import TaskSync.Proofs.Gate
import TaskSync.Startup

/-!
# Ready to start

What the rest of the server relies on in a configuration. All of it holds of
every configuration that is loaded, whatever the texts are that its settings come
from. So a store is opened for it: no setting that a store needs is missing.
-/

namespace TaskSync

/-! ## Ids -/

namespace Uuid

/-- An id as it is kept: five groups of hexadecimal digits, with no capitals. -/
def IsKept (id : String) : Prop :=
  (Text.fields '-' id.toList).map List.length = [8, 4, 4, 4, 12] ∧
    ∀ c ∈ id.toList, c = '-' ∨ c.isDigit = true ∨ 'a' ≤ c ∧ c ≤ 'f'

theorem isUpper_of_hex {c : Char} (hex : 'A' ≤ c ∧ c ≤ 'F') : c.isUpper = true := by
  have first : 'A'.toNat = 65 := rfl
  have last : 'F'.toNat = 70 := rfl
  simp only [Char.le_def, UInt32.le_iff_toNat_le, Char.toNat_val] at hex
  rw [isUpper_iff]
  omega

variable {entry id : String} (reads : read? entry = some id)
include reads

theorem isKept_of_read : IsKept id := by
  have again := read?_self reads
  unfold read? at again
  split at again
  · next uuid =>
    rw [isUuid, Bool.and_eq_true, beq_iff_eq, List.all_eq_true] at uuid
    refine ⟨uuid.1, fun c hc => ?_⟩
    rcases @Text.mem_fields '-' _ _ hc with rfl | ⟨piece, hpiece, inside⟩
    · exact .inl rfl
    · have hex := List.all_eq_true.mp (uuid.2 piece hpiece) c inside
      simp only [isHexDigit, Bool.or_eq_true, Bool.and_eq_true, decide_eq_true_eq] at hex
      rcases hex with (digit | letter) | capital
      · exact .inr (.inl digit)
      · exact .inr (.inr letter)
      · -- The id is its own lower case, which no text with a capital is.
        have same : id.toList.map Char.toLower = id.toList.map fun c => c := by
          rw [List.map_id', ← String.toList_ofList (l := id.toList.map Char.toLower),
            Option.some.inj again]
        have moved := forall_capitals (p := fun c => c.toLower ≠ c) (by decide +kernel)
          (isUpper_of_hex capital)
        exact absurd (List.map_inj_left.mp same c hc) moved
  · cases again

theorem trim_of_read : Text.trim entry = entry := by
  have filled : ∀ c ∈ entry.toList, Text.isBlank c = false := by
    intro c hc
    have plain := Http.isPlain_of_read reads hc
    exact Http.forall_ascii (p := fun c => Http.isPlain c = true → Text.isBlank c = false)
      (by decide +kernel) (Http.toNat_lt_of_isPlain plain) plain
  unfold Text.trim
  rw [Text.strip_eq_self (fun c hc => filled c (List.mem_of_head? hc))
    fun c hc => filled c (List.mem_of_getLast? hc), String.ofList_toList]

end Uuid

namespace Http.Allowlist

theorem mem_ofList_kept {ids : List String} (kept : ∀ id ∈ ids, Uuid.read? id = some id)
    {client : String} : client ∈ (ofList ids).ids ↔ client ∈ ids := by
  have same : ∀ id ∈ ids, Text.lower (Text.trim id) = id := by
    intro id hid
    rw [Uuid.trim_of_read (kept id hid), lower_of_read (kept id hid)]
  rw [mem_ofList]
  constructor
  · rintro ⟨-, id, hid, rfl⟩
    rwa [same id hid]
  · intro listed
    refine ⟨?_, client, listed, same client listed⟩
    rintro rfl
    exact ne_nil_of_read (kept "" listed) rfl

end Http.Allowlist

/-! ## What is relied on -/

namespace Startup

/-- The store that a configuration asks for, with what it needs. -/
def Opened.Serves (config : Config) : Opened → Prop
  | memory => config.storage = .memory
  | embedded dataDir => config.storage = .sqlite ∧ dataDir = config.dataDir
  | pooled options =>
    config.storage = .postgres ∧ config.databaseUrl = some options.connectionString

end Startup

namespace Config

/-- A server can be started with a configuration. -/
structure IsReady (config : Config) : Prop where
  listens : config.listen ≠ []
  ports : ∀ address ∈ config.listen, address.port ≤ 65535
  snapshotVersions : config.snapshotVersions.IsCount
  snapshotDays : config.snapshotDays.IsCount
  maxBodyBytes : config.maxBodyBytes.IsCount
  kept : ∀ id ∈ config.allowClientIds, Uuid.IsKept id
  /-- The list that is searched at every request has the entries of the configuration. -/
  listed : ∀ client, client ∈ (app config).allowlist.ids ↔ client ∈ config.allowClientIds
  /-- Everybody is let in only if nobody is listed. -/
  openMode : (∀ headers, (app config).allowlist.admits headers = true) ↔
    config.allowClientIds = []
  dataDir : config.dataDir ≠ ""
  databaseUrl : config.storage = .postgres → ∃ url, config.databaseUrl = some url ∧ url ≠ ""
  opens : ∃ opened, Startup.openStore config.storage (some config.dataDir) config.databaseUrl =
    .ok opened ∧ opened.Serves config

section

variable {words : List String} {environment : Environment} {sources : Sources} {config : Config}

theorem isCount_of_check {setting : Setting} {default n : Number} {text : Option String}
    (count : default.IsCount) (checked : checkCount setting default text = .good n) :
    n.IsCount := by
  rcases checkCount_eq_good_iff.mp checked with ⟨-, rfl⟩ | ⟨given, -, count, rfl⟩
  · exact count
  · exact count

namespace Yields

variable (yields : Yields sources config)
include yields

theorem listens : config.listen ≠ [] := by
  obtain ⟨some, taken⟩ := checkListen_eq_good_iff.mp yields.listen
  intro none
  rw [none, List.forall₂_nil_right_iff] at taken
  cases given : sources.list? .listen with
  | none => simp [given] at taken
  | some entries =>
    rw [given] at some taken
    exact some (congrArg _ taken)

theorem port_le {address : Address} (listed : address ∈ config.listen) : address.port ≤ 65535 := by
  obtain ⟨-, taken⟩ := checkListen_eq_good_iff.mp yields.listen
  obtain ⟨entry, -, read⟩ := exists_related taken.flip listed
  obtain ⟨host, port, takes⟩ := Address.read?_eq_some_iff.mp read
  exact takes.bound

theorem read_self {id : String} (listed : id ∈ config.allowClientIds) :
    Uuid.read? id = some id := by
  obtain ⟨entry, -, read⟩ :=
    exists_related (checkIds_eq_good_iff.mp yields.allowClientIds).flip listed
  exact Uuid.read?_self read

theorem dataDir_ne : config.dataDir ≠ "" := by
  rcases checkText_eq_good_iff.mp yields.dataDir with ⟨-, same⟩ | ⟨given, -, filled, same⟩
  · rw [← same]
    decide
  · rwa [← same]

theorem postgres_named (pooled : config.storage = .postgres) :
    sources.text? .storage = some StorageKind.postgres.name := by
  have names : ∀ choice ∈ storageChoices, choice.2 = .postgres → choice.1 = "postgres" := by decide
  rcases checkChoice_eq_good_iff.mp yields.storage with ⟨-, same⟩ | ⟨name, given, chosen⟩
  · rw [pooled] at same
    cases same
  · obtain ⟨choice, found, same⟩ := Option.map_eq_some_iff.mp chosen
    have named : choice.1 = name := by simpa using List.find?_some found
    rw [given, ← named, names choice (List.mem_of_find?_eq_some found) (same.trans pooled)]
    rfl

theorem url_of_postgres (pooled : config.storage = .postgres) :
    ∃ url, config.databaseUrl = some url ∧ url ≠ "" := by
  rcases checkText_eq_good_iff.mp yields.databaseUrl with ⟨none, -⟩ | ⟨url, -, filled, same⟩
  · have missing := yields.url
    simp [missingUrl, yields.postgres_named pooled, none] at missing
  · exact ⟨url, same.symm, filled⟩

theorem opens : ∃ opened,
    Startup.openStore config.storage (some config.dataDir) config.databaseUrl = .ok opened ∧
      opened.Serves config := by
  unfold Startup.openStore
  cases kind : config.storage with
  | memory => exact ⟨.memory, rfl, kind⟩
  | sqlite =>
    refine ⟨.embedded config.dataDir, ?_, kind, rfl⟩
    simp [Option.filter_some, yields.dataDir_ne]
  | postgres =>
    obtain ⟨url, given, filled⟩ := yields.url_of_postgres kind
    have connects : ∃ options, Store.Pooled.options { connectionString := config.databaseUrl } =
        .ok options ∧ options.connectionString = url := by
      simp [Store.Pooled.options, given, Option.filter_some, filled]
    obtain ⟨options, opened, same⟩ := connects
    exact ⟨.pooled options, by rw [opened]; rfl, kind, given.trans (congrArg some same.symm)⟩

end Yields

end

theorem openMode_iff (kept : ∀ id ∈ config.allowClientIds, Uuid.read? id = some id) :
    (∀ headers, (app config).allowlist.admits headers = true) ↔ config.allowClientIds = [] := by
  constructor
  · intro everybody
    -- No listed id is as short as this one.
    let stranger : Http.Request := ⟨"GET", "/", ⟨[("x-client-id", "-")]⟩, .absent⟩
    by_contra listed
    have unlisted : "-" ∉ (app config).allowlist.ids := by
      intro found
      have read := kept "-" ((Http.Allowlist.mem_ofList_kept kept).mp found)
      exact absurd read (by decide)
    obtain ⟨id, hid⟩ := List.exists_mem_of_ne_nil _ listed
    have filled := List.ne_nil_of_mem ((Http.Allowlist.mem_ofList_kept kept).mpr hid)
    have refused : (app config).allowlist.admits stranger.headers = false :=
      Http.Allowlist.admits_eq_false_iff.mpr ⟨filled, "-", by decide +kernel, unlisted⟩
    cases (everybody stranger.headers).symm.trans refused
  · intro none headers
    simp [app, none, Http.Allowlist.ofList, Http.Allowlist.admits]

/-- **Ready to start.** A configuration that is loaded is one that the server can be started with. -/
theorem ready_of_load (loaded : load words environment = .ok config) : IsReady config := by
  obtain ⟨flags, -, yields⟩ := load_eq_ok_iff.mp loaded
  have kept : ∀ id ∈ config.allowClientIds, Uuid.read? id = some id := fun id => yields.read_self
  exact {
    listens := yields.listens
    ports := fun address => yields.port_le
    snapshotVersions := isCount_of_check ⟨100, by omega, rfl⟩ yields.snapshotVersions
    snapshotDays := isCount_of_check ⟨14, by omega, rfl⟩ yields.snapshotDays
    maxBodyBytes := isCount_of_check ⟨104857600, by omega, rfl⟩ yields.maxBodyBytes
    kept := fun id hid => Uuid.isKept_of_read (kept id hid)
    listed := fun client => Http.Allowlist.mem_ofList_kept kept
    openMode := openMode_iff kept
    dataDir := yields.dataDir_ne
    databaseUrl := yields.url_of_postgres
    opens := yields.opens }

/-- Numbers in other notations, an id in capitals, and a database server. -/
def demanding : Environment :=
  [("SNAPSHOT_VERSIONS", "0x10"), ("MAX_BODY_BYTES", " 1e3 "), ("STORAGE", "postgres"),
    ("ALLOWED_CLIENT_IDS", ", AAAAAAAA-AAAA-4AAA-8AAA-AAAAAAAAAAAA"), ("DATABASE_URL", "db")]

theorem ready_of_load_demanding :
    ∃ config, load ["--listen", "[::]:0", "-d", "."] demanding = .ok config ∧
      config.snapshotVersions = 16 ∧ config.maxBodyBytes = 1000 ∧
      config.allowClientIds = ["aaaaaaaa-aaaa-4aaa-8aaa-aaaaaaaaaaaa"] ∧
      config.databaseUrl = some "db" ∧ IsReady config := by
  have loaded : load ["--listen", "[::]:0", "-d", "."] demanding = .ok
      ⟨[⟨"::", 0⟩], .postgres, ".", some "db", ["aaaaaaaa-aaaa-4aaa-8aaa-aaaaaaaaaaaa"], true, 16, 14,
        .keepAll, 1000, .info, false⟩ := by
    decide +kernel
  exact ⟨_, loaded, rfl, rfl, rfl, rfl, ready_of_load loaded⟩

end Config

end TaskSync
