import TaskSync.Proofs.Checks
import TaskSync.Proofs.Decimals

/-!
# Where the server listens

Which texts are taken for an address, and which address they are taken for. A
text that says HOST:PORT is taken for what it says. Two more are taken for
an address: an empty pair of brackets stands for a host without a name, and a
port may be any text that reads as a whole number, a blank one included.
-/

namespace TaskSync

namespace Address

/-! ## The last colon -/

section

variable {cs host port : List Char}

theorem splitLast?_append (last : ':' ∉ port) :
    splitLast? (host ++ ':' :: port) = some (host, port) := by
  have plain : ∀ c ∈ port.reverse, decide (c ≠ ':') = true := by
    intro c hc
    rw [decide_eq_true_eq]
    rintro rfl
    exact last (List.mem_reverse.mp hc)
  have backwards : (host ++ ':' :: port).reverse = port.reverse ++ ':' :: host.reverse := by simp
  unfold splitLast?
  rw [backwards, List.dropWhile_append_of_pos plain, List.takeWhile_append_of_pos plain]
  simp

theorem splitLast?_eq_none (none : ':' ∉ cs) : splitLast? cs = .none := by
  have plain : cs.reverse.dropWhile (· ≠ ':') = [] := by
    rw [List.dropWhile_eq_nil_iff]
    intro c hc
    rw [decide_eq_true_eq]
    rintro rfl
    exact none (List.mem_reverse.mp hc)
  unfold splitLast?
  rw [plain]

theorem exists_last (colon : ':' ∈ cs) : ∃ host port, cs = host ++ ':' :: port ∧ ':' ∉ port := by
  obtain ⟨port, host, split, last⟩ := List.eq_append_cons_of_mem (List.mem_reverse.mpr colon)
  refine ⟨host.reverse, port.reverse, ?_, by rwa [List.mem_reverse]⟩
  rw [← List.reverse_reverse cs, split]
  simp

end

/-! ## Brackets -/

section

variable {cs inner : List Char}

/-- Brackets around one line. -/
def IsBracketed (cs inner : List Char) : Prop :=
  cs = '[' :: (inner ++ [']']) ∧ ∀ c ∈ inner, Text.endsLine c = false

theorem unbracket_of_isBracketed (bracketed : IsBracketed cs inner) : unbracket cs = inner := by
  obtain ⟨rfl, oneLine⟩ := bracketed
  have oneLine : inner.any Text.endsLine = false := by simpa using oneLine
  simp [unbracket, oneLine]

theorem unbracket_eq_self (plain : ∀ inner, ¬ IsBracketed cs inner) : unbracket cs = cs := by
  unfold unbracket
  split
  · next rest =>
    rw [if_neg]
    rw [Bool.and_eq_true, decide_eq_true_eq]
    rintro ⟨closed, oneLine⟩
    apply plain rest.dropLast
    constructor
    · rw [List.dropLast_append_getLast? _ closed]
    · simpa using oneLine
  · rfl

theorem unbracket_eq_nil_iff : unbracket cs = [] ↔ cs = [] ∨ cs = ['[', ']'] := by
  constructor
  · intro none
    by_cases bracketed : ∃ inner, IsBracketed cs inner
    · obtain ⟨inner, bracketed⟩ := bracketed
      rw [unbracket_of_isBracketed bracketed] at none
      subst none
      exact .inr bracketed.1
    · rw [unbracket_eq_self (not_exists.mp bracketed)] at none
      exact .inl none
  · rintro (rfl | rfl) <;> rfl

end

end Address

/-! ## The port -/

namespace Number

theorem read_blank {cs : List Char} (blank : ∀ c ∈ cs, Text.isBlank c = true) :
    read (String.ofList cs) = 0 := by
  have none : Text.strip Text.isBlank cs = [] := by
    unfold Text.strip
    rw [List.dropWhile_eq_nil_iff.mpr blank]
    rfl
  unfold read
  rw [String.toList_ofList, none]
  rfl

end Number

namespace Address

open Number (round)

theorem readPort?_eq_some_iff {cs : List Char} {port : Nat} : readPort? cs = some port ↔
    (Number.read (String.ofList cs)).toInt? = some (port : Int) ∧ port ≤ 65535 := by
  unfold readPort?
  cases (Number.read (String.ofList cs)).toInt? with
  | none => simp
  | some number =>
    dsimp only
    split
    · next range =>
      simp only [Option.some.injEq]
      omega
    · next range =>
      simp only [reduceCtorEq, Option.some.injEq, false_iff, not_and]
      omega

theorem readPort?_digits {cs : List Char} {port : Nat} (digits : ∀ c ∈ cs, c.isDigit = true)
    (filled : cs ≠ []) :
    readPort? cs = some port ↔ Nat.ofDigitChars 10 cs 0 = port ∧ port ≤ 65535 := by
  rw [readPort?_eq_some_iff, Number.read_digits digits filled]
  generalize Nat.ofDigitChars 10 cs 0 = n
  by_cases safe : n < 2 ^ 53
  · rw [Number.ofDecimal_natCast safe, Number.toInt?_finite]
    exact and_congr_left fun _ => by norm_cast
  · -- A number that is too large to be exact is not rounded down to a port.
    have far : ∀ port : Nat, (round n).toInt? = some (port : Int) → 2 ^ 53 ≤ port := by
      intro port reads
      have above : (2 : Rat) ^ 53 ≤ n := by exact_mod_cast not_lt.mp safe
      rcases Number.le_round above with rounded | ⟨r, rounded, hr⟩
      · rw [rounded] at reads
        cases reads
      · rw [rounded, Number.toInt?_finite] at reads
        rw [reads] at hr
        exact_mod_cast hr
    rw [Number.ofDecimal_eq_round (by omega)]
    constructor
    · rintro ⟨reads, small⟩
      have large := far port reads
      omega
    · rintro ⟨rfl, small⟩
      omega

/-! ## The whole text -/

/-- A text is taken for an address by the host before its last colon and the number behind it. -/
structure Takes (text : String) (address : Address) (host port : List Char) : Prop where
  split : text.toList = host ++ ':' :: port
  last : ':' ∉ port
  filled : host ≠ []
  host : address.host = String.ofList (unbracket host)
  number : (Number.read (String.ofList port)).toInt? = some (address.port : Int)
  bound : address.port ≤ 65535

/-- A text says HOST:PORT: a host that has a name, which may stand in brackets, and a decimal. -/
structure Spells (text : String) (address : Address) (host port : List Char) : Prop where
  split : text.toList = host ++ ':' :: port
  named : unbracket host ≠ []
  host : address.host = String.ofList (unbracket host)
  filled : port ≠ []
  digits : ∀ c ∈ port, c.isDigit = true
  value : address.port = Nat.ofDigitChars 10 port 0
  bound : address.port ≤ 65535

/-- What a text lacks that is taken for no address. -/
inductive Lacks (text : String) : Prop
  | colon (none : ':' ∉ text.toList)
  | host {port : List Char} (split : text.toList = ':' :: port) (last : ':' ∉ port)
  | port {host port : List Char} (split : text.toList = host ++ ':' :: port) (last : ':' ∉ port)
      (none : ∀ n : Nat, n ≤ 65535 → (Number.read (String.ofList port)).toInt? ≠ some (n : Int))

section

variable {text : String} {address : Address} {host port : List Char}

theorem read?_of_split (split : text.toList = host ++ ':' :: port) (last : ':' ∉ port) :
    read? text = if host.isEmpty then none
      else (readPort? port).map fun port => ⟨String.ofList (unbracket host), port⟩ := by
  unfold read?
  rw [split, splitLast?_append last]

theorem read?_eq_some_iff :
    read? text = some address ↔ ∃ host port, Takes text address host port := by
  constructor
  · intro reads
    by_cases colon : ':' ∈ text.toList
    · obtain ⟨host, port, split, last⟩ := exists_last colon
      rw [read?_of_split split last] at reads
      split at reads
      · cases reads
      · next filled =>
        obtain ⟨value, found, rfl⟩ := Option.map_eq_some_iff.mp reads
        obtain ⟨number, bound⟩ := readPort?_eq_some_iff.mp found
        exact ⟨host, port, split, last, by simpa using filled, rfl, number, bound⟩
    · rw [read?, splitLast?_eq_none colon] at reads
      cases reads
  · rintro ⟨host, port, takes⟩
    have reads := readPort?_eq_some_iff.mpr ⟨takes.number, takes.bound⟩
    rw [read?_of_split takes.split takes.last, if_neg (by simpa using takes.filled), reads,
      Option.map_some, ← takes.host]

theorem read?_eq_none_iff : read? text = none ↔ Lacks text := by
  constructor
  · intro reads
    by_cases colon : ':' ∈ text.toList
    · obtain ⟨host, port, split, last⟩ := exists_last colon
      rw [read?_of_split split last] at reads
      split at reads
      · next empty =>
        obtain rfl := List.isEmpty_iff.mp empty
        exact .host split last
      · refine .port split last fun n bound number => ?_
        rw [readPort?_eq_some_iff.mpr ⟨number, bound⟩] at reads
        cases reads
    · exact .colon colon
  · intro lacks
    rw [Option.eq_none_iff_forall_ne_some]
    intro address reads
    obtain ⟨host, port, takes⟩ := read?_eq_some_iff.mp reads
    cases lacks with
    | colon none =>
      apply none
      rw [takes.split]
      simp
    | @host port' split last =>
      have unnamed : text.toList = [] ++ ':' :: port' := split
      rw [read?_of_split unnamed last] at reads
      cases reads
    | @port host' port' split last none =>
      have same : some (host, port) = some (host', port') := by
        rw [← splitLast?_append takes.last, ← takes.split, split, splitLast?_append last]
      obtain ⟨rfl, rfl⟩ := Prod.mk.inj (Option.some.inj same)
      exact none _ takes.bound takes.number

theorem Takes.spells_iff (takes : Takes text address host port) :
    Spells text address host port ↔
      host ≠ ['[', ']'] ∧ port ≠ [] ∧ ∀ c ∈ port, c.isDigit = true := by
  constructor
  · intro spells
    refine ⟨fun empty => spells.named (unbracket_eq_nil_iff.mpr (.inr empty)), spells.filled,
      spells.digits⟩
  · rintro ⟨named, filled, digits⟩
    have read := readPort?_eq_some_iff.mpr ⟨takes.number, takes.bound⟩
    have value := ((readPort?_digits digits filled).mp read).1
    refine ⟨takes.split, ?_, takes.host, filled, digits, value.symm, takes.bound⟩
    rw [ne_eq, unbracket_eq_nil_iff, not_or]
    exact ⟨takes.filled, named⟩

theorem Takes.host_eq_empty_iff (takes : Takes text address host port) :
    address.host = "" ↔ host = ['[', ']'] := by
  rw [takes.host, String.ofList_eq_empty_iff, unbracket_eq_nil_iff]
  exact or_iff_right takes.filled

theorem Takes.port_of_blank (takes : Takes text address host port)
    (blank : ∀ c ∈ port, Text.isBlank c = true) : address.port = 0 := by
  have zero := takes.number
  rw [Number.read_blank blank, show (0 : Number) = .ofNat 0 from rfl, Number.toInt?_ofNat] at zero
  have zero := Option.some.inj zero
  omega

end

/-- How an address comes from a text. It may be another one than HOST:PORT says, or the text may
not say HOST:PORT, only if the host is an empty pair of brackets or the port is no decimal. -/
def ComesFrom (address : Address) (text : String) : Prop :=
  ∃ host port, Takes text address host port ∧
    (Spells text address host port ↔
      host ≠ ['[', ']'] ∧ port ≠ [] ∧ ∀ c ∈ port, c.isDigit = true) ∧
    (address.host = "" ↔ host = ['[', ']']) ∧
    ((∀ c ∈ port, Text.isBlank c = true) → address.port = 0)

end Address

namespace Config

/-- The texts of the addresses to listen on. -/
def listenTexts (sources : Sources) : List String :=
  (sources.list? .listen).getD ["localhost:8080"]

/-- **Where the server listens.** Every address of a configuration comes from a text: the host
before its last colon and the number behind it. With a text that lacks one of them, nothing is
loaded. -/
theorem listens_as_told (words : List String) (environment : Environment) :
    (∀ config, load words environment = .ok config →
      ∃ flags, CommandLine.read words = .ok flags ∧
        List.Forall₂ (fun text address => Address.ComesFrom address text)
          (listenTexts ⟨flags, environment⟩) config.listen) ∧
    ∀ flags, CommandLine.read words = .ok flags →
      (∃ text ∈ listenTexts ⟨flags, environment⟩, Address.Lacks text) →
        ∃ flaws, load words environment = .error (.invalid flaws) := by
  constructor
  · intro config loaded
    obtain ⟨flags, reads, yields⟩ := load_eq_ok_iff.mp loaded
    obtain ⟨-, taken⟩ := checkListen_eq_good_iff.mp yields.listen
    refine ⟨flags, reads, taken.imp fun text address read => ?_⟩
    obtain ⟨host, port, takes⟩ := Address.read?_eq_some_iff.mp read
    exact ⟨host, port, takes, takes.spells_iff, takes.host_eq_empty_iff, takes.port_of_blank⟩
  · rintro flags reads ⟨text, given, lacks⟩
    cases verdict : check ⟨flags, environment⟩ with
    | flawed flaws usable => exact ⟨flaws, (load_eq_invalid_iff reads).mpr ⟨usable, verdict⟩⟩
    | good config =>
      obtain ⟨-, taken⟩ := checkListen_eq_good_iff.mp (check_eq_good_iff.mp verdict).listen
      obtain ⟨address, -, read⟩ := exists_related taken given
      rw [Address.read?_eq_none_iff.mpr lacks] at read
      cases read

/-- A host in brackets, and a port in another notation. -/
def inBrackets : Environment := [("LISTEN", "[::1]:9001, h:0x50")]

theorem listens_as_told_brackets :
    (∃ config, load [] inBrackets = .ok config ∧ config.listen = [⟨"::1", 9001⟩, ⟨"h", 80⟩] ∧
      ∃ flags, CommandLine.read [] = .ok flags ∧
        List.Forall₂ (fun text address => Address.ComesFrom address text)
          (listenTexts ⟨flags, inBrackets⟩) config.listen) ∧
    (CommandLine.read ["-l", "8080"] = .ok [.text .listen "8080"] ∧ Address.Lacks "8080" ∧
      ∃ flaws, load ["-l", "8080"] inBrackets = .error (.invalid flaws)) := by
  have loaded : load [] inBrackets = .ok
      ⟨[⟨"::1", 9001⟩, ⟨"h", 80⟩], .sqlite, "./data", none, [], true, 100, 14, .keepAll,
        Http.defaultMaxBody, .info, false⟩ := by
    decide +kernel
  have reads : CommandLine.read ["-l", "8080"] = .ok [.text .listen "8080"] := by decide +kernel
  have lacks : Address.Lacks "8080" := .colon (by decide)
  exact ⟨⟨_, loaded, rfl, (listens_as_told [] inBrackets).1 _ loaded⟩, reads, lacks,
    (listens_as_told ["-l", "8080"] inBrackets).2 _ reads ⟨"8080", by decide, lacks⟩⟩

def withoutPort : Environment := [("LISTEN", "localhost:,[]:80")]

/-- A text without a port is taken for port 0, and a host without a name for one. -/
theorem listens_without_port :
    ∃ config, load [] withoutPort = .ok config ∧
      config.listen = [⟨"localhost", 0⟩, ⟨"", 80⟩] ∧
      listenTexts ⟨[], withoutPort⟩ = ["localhost:", "[]:80"] ∧
      (¬ ∃ host port, Address.Spells "localhost:" ⟨"localhost", 0⟩ host port) ∧
      ¬ ∃ host port, Address.Spells "[]:80" ⟨"", 80⟩ host port := by
  have loaded : load [] withoutPort = .ok
      ⟨[⟨"localhost", 0⟩, ⟨"", 80⟩], .sqlite, "./data", none, [], true, 100, 14, .keepAll,
        Http.defaultMaxBody, .info, false⟩ := by
    decide +kernel
  refine ⟨_, loaded, rfl, by decide, ?_, ?_⟩
  · rintro ⟨host, port, spells⟩
    have last := congrArg List.getLast? spells.split
    rw [List.getLast?_append_of_ne_nil _ (by simp), List.getLast?_cons_of_ne_nil spells.filled] at last
    have digit := spells.digits ':' (List.mem_of_getLast? (last.symm.trans (by decide)))
    exact absurd digit (by decide)
  · rintro ⟨host, port, spells⟩
    apply spells.named
    have empty := spells.host
    rw [eq_comm, String.ofList_eq_empty_iff] at empty
    exact empty

end Config

end TaskSync
