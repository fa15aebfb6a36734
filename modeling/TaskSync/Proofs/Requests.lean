import Mathlib.Data.List.TakeWhile
import TaskSync.Http.App

/-!
# Requests in plain writing

What the engine is asked for a request. A request whose path has nothing to
resolve or to unescape is read as it is written, whatever the case of its ids.
-/

namespace TaskSync

namespace Http

/-! ## Plain characters -/

def isPlain (c : Char) : Bool := c.isAlphanum || c = '-'

theorem isAlphanum_iff {c : Char} : c.isAlphanum = true ↔
    65 ≤ c.toNat ∧ c.toNat ≤ 90 ∨ 97 ≤ c.toNat ∧ c.toNat ≤ 122 ∨ 48 ≤ c.toNat ∧ c.toNat ≤ 57 := by
  have ranges : c.isAlphanum = (decide (65 ≤ c.val ∧ c.val ≤ 90) ||
    (decide (97 ≤ c.val) && decide (c.val ≤ 122)) ||
      (decide (48 ≤ c.val) && decide (c.val ≤ 57))) := rfl
  simp [ranges, UInt32.le_iff_toNat_le, or_assoc]

theorem toNat_lt_of_isPlain {c : Char} (plain : isPlain c) : c.toNat < 128 := by
  rw [isPlain, Bool.or_eq_true, decide_eq_true_eq, isAlphanum_iff] at plain
  rcases plain with (h | h | h) | rfl
  · omega
  · omega
  · omega
  · decide

theorem forall_ascii {p : Char → Prop} (h : ∀ n < 128, p (Char.ofNat n)) {c : Char}
    (lt : c.toNat < 128) : p c := by
  rw [← Char.ofNat_toNat c]
  exact h _ lt

theorem isPlain_facts {c : Char} (plain : isPlain c) :
    Target.isEscaped c = false ∧ c ∉ ['.', '%', '/'] :=
  forall_ascii (p := fun c => isPlain c = true → Target.isEscaped c = false ∧ c ∉ ['.', '%', '/'])
    (by decide +kernel) (toNat_lt_of_isPlain plain) plain

def isWritten (c : Char) : Bool := isPlain c || c = '/'

theorem isWritten_facts {c : Char} (written : isWritten c) :
    (Target.isControl c || c = ' ') = false ∧ ['\t', '\n', '\r'].contains c = false ∧
      (if Target.isSlash c then '/' else c) = c ∧ Target.startsQuery c = false ∧ c ≠ '%' := by
  rw [isWritten, Bool.or_eq_true, decide_eq_true_eq] at written
  rcases written with plain | rfl
  · exact forall_ascii (p := fun c => isPlain c = true →
      (Target.isControl c || c = ' ') = false ∧ ['\t', '\n', '\r'].contains c = false ∧
        (if Target.isSlash c then '/' else c) = c ∧ Target.startsQuery c = false ∧ c ≠ '%')
      (by decide +kernel) (toNat_lt_of_isPlain plain) plain
  · decide

theorem isPlain_of_isHexDigit {c : Char} (hex : Uuid.isHexDigit c) : isPlain c := by
  rw [isPlain, Bool.or_eq_true, isAlphanum_iff]
  simp only [Uuid.isHexDigit, Char.isDigit, Bool.or_eq_true, Bool.and_eq_true, decide_eq_true_eq,
    UInt32.le_iff_toNat_le, ge_iff_le, Char.toNat_val, Char.le_def] at hex
  have f : 'f'.toNat = 102 := rfl
  have F : 'F'.toNat = 70 := rfl
  have a : 'a'.toNat = 97 := rfl
  have A : 'A'.toNat = 65 := rfl
  have zero : '0'.toNat = 48 := rfl
  have nine : '9'.toNat = 57 := rfl
  omega

/-! ## Plain paths -/

/-- A path of segments, each after a slash. -/
def pathOf (segments : List (List Char)) : List Char := segments.flatMap ('/' :: ·)

theorem fields_pathOf {segments : List (List Char)}
    (none : ∀ segment ∈ segments, '/' ∉ segment) {first : List Char} (hfirst : '/' ∉ first) :
    Text.fields '/' (first ++ pathOf segments) = first :: segments := by
  induction segments generalizing first with
  | nil => rw [pathOf, List.flatMap_nil, List.append_nil, Text.fields_eq_self hfirst]
  | cons segment segments ih =>
    rw [pathOf, List.flatMap_cons, List.cons_append, Text.fields_append hfirst]
    exact congrArg _ (ih (fun s hs => none s (List.mem_cons_of_mem _ hs))
      (none segment List.mem_cons_self))

section

variable {cs : List Char} (written : ∀ c ∈ cs, isWritten c)
include written

theorem clean_eq_self : Target.clean cs = cs := by
  have tail : cs.reverse.dropWhile (fun c => Target.isControl c || c = ' ') = cs.reverse := by
    rw [List.dropWhile_eq_self_iff]
    intro hl
    rw [Bool.not_eq_true]
    exact (isWritten_facts (written _ (List.mem_reverse.mp (List.getElem_mem hl)))).1
  rw [Target.clean, tail, List.reverse_reverse, List.filter_eq_self]
  intro c hc
  rw [(isWritten_facts (written c hc)).2.1]
  rfl

theorem pathPart_eq_self (slash : ∀ c ∈ cs.head?, c = '/') : Target.pathPart cs = cs := by
  have host : cs.dropWhile (fun c => !Target.isSlash c && !Target.startsQuery c) = cs := by
    cases cs with
    | nil => rfl
    | cons c cs =>
      obtain rfl := slash c rfl
      rfl
  have query : cs.takeWhile (fun c => !Target.startsQuery c) = cs := by
    rw [List.takeWhile_eq_self_iff]
    intro c hc
    rw [(isWritten_facts (written c hc)).2.2.2.1]
    rfl
  rw [Target.pathPart, host, query]
  refine (List.map_congr_left fun c hc => ?_).trans (List.map_id' cs)
  exact (isWritten_facts (written c hc)).2.2.1

end

theorem escape_eq_self {chosen : Char → Bool} {cs : List Char} (none : ∀ c ∈ cs, chosen c = false) :
    escape chosen cs = cs := by
  induction cs with
  | nil => rfl
  | cons c cs ih =>
    rw [List.forall_mem_cons] at none
    have rest : escape chosen cs = cs := ih none.2
    rw [escape] at rest ⊢
    rw [List.flatMap_cons, rest, none.1]
    rfl

theorem plainDots_eq_self {cs : List Char} (none : '%' ∉ cs) : Target.plainDots cs = cs := by
  induction cs with
  | nil => rfl
  | cons c cs ih =>
    rw [List.mem_cons, not_or] at none
    rw [Target.plainDots, ih none.2]
    rintro e rest rfl
    exact absurd rfl none.1

theorem doublePercent_eq_self {cs : List Char} (none : '%' ∉ cs) :
    Target.doublePercent cs = cs := by
  induction cs with
  | nil => rfl
  | cons c cs ih =>
    rw [List.mem_cons, not_or] at none
    rw [Target.doublePercent, ih none.2]
    rintro rest rfl
    exact absurd rfl none.1

theorem unescape_eq_self {kept : Char → Bool} {cs : List Char} (none : '%' ∉ cs) :
    unescape kept cs = cs := by
  have settled : Escape.settle kept [] = [] := by
    rw [Escape.settle, Escape.readRun]
    rfl
  rw [unescape]
  induction cs with
  | nil => rw [Escape.readAfter, settled]
  | cons c cs ih =>
    rw [List.mem_cons, not_or] at none
    rw [Escape.readAfter, settled, ih none.2, List.nil_append]
    rintro high low rest rfl
    exact absurd rfl none.1

theorem follow_eq_self {segments : List (List Char)} (done : List (List Char))
    (plain : ∀ segment ∈ segments, '%' ∉ segment ∧ '.' ∉ segment) :
    Target.follow done segments = done.reverse ++ segments := by
  induction segments generalizing done with
  | nil => rw [Target.follow, List.append_nil]
  | cons segment segments ih =>
    rw [List.forall_mem_cons] at plain
    obtain ⟨⟨percent, dot⟩, rest⟩ := plain
    have up : Target.isUp segment = false := by
      rw [Target.isUp, plainDots_eq_self percent, decide_eq_false_iff_not]
      rintro rfl
      simp at dot
    have here : Target.isHere segment = false := by
      rw [Target.isHere, plainDots_eq_self percent, decide_eq_false_iff_not]
      rintro rfl
      simp at dot
    rw [Target.follow]
    simp only [up, here, Bool.false_eq_true, if_false]
    rw [ih _ rest, List.reverse_cons, List.append_assoc, List.singleton_append]

section

variable {segments : List (List Char)} (plain : ∀ segment ∈ segments, ∀ c ∈ segment, isPlain c)
include plain

theorem isWritten_pathOf : ∀ c ∈ pathOf segments, isWritten c := by
  intro c hc
  obtain ⟨segment, hsegment, hc⟩ := List.mem_flatMap.mp hc
  rw [isWritten, Bool.or_eq_true, decide_eq_true_eq]
  rcases List.mem_cons.mp hc with rfl | hc
  · exact .inr rfl
  · exact .inl (plain segment hsegment c hc)

theorem segments_pathOf : Route.segments (pathOf segments) = [] :: segments := by
  have free : ∀ segment ∈ segments, '/' ∉ segment := fun segment hs h =>
    (isPlain_facts (plain segment hs _ h)).2 (by decide)
  exact fields_pathOf free List.not_mem_nil

theorem normalize_pathOf (some : segments ≠ []) :
    Target.normalize (pathOf segments) = pathOf segments := by
  obtain ⟨first, rest, rfl⟩ := List.exists_cons_of_ne_nil some
  have free : ∀ segment ∈ first :: rest, '/' ∉ segment := fun segment hs h =>
    (isPlain_facts (plain segment hs _ h)).2 (by decide)
  have settled : ∀ segment ∈ first :: rest, '%' ∉ segment ∧ '.' ∉ segment := fun segment hs =>
    ⟨fun h => (isPlain_facts (plain segment hs _ h)).2 (by decide),
      fun h => (isPlain_facts (plain segment hs _ h)).2 (by decide)⟩
  have fields : Text.fields '/' (pathOf (first :: rest)).tail = first :: rest :=
    fields_pathOf (fun s hs => free s (List.mem_cons_of_mem _ hs)) (free first List.mem_cons_self)
  rw [Target.normalize, fields, follow_eq_self [] settled, pathOf, List.flatMap_def,
    List.flatMap_def]
  refine congrArg _ (List.map_congr_left fun segment hs => congrArg _ ?_)
  exact escape_eq_self fun c hc => (isPlain_facts (plain segment hs c hc)).1

theorem path_eq_self {target : String} (some : segments ≠ [])
    (htarget : target.toList = pathOf segments) : Target.path target = pathOf segments := by
  have written := isWritten_pathOf plain
  have percent : '%' ∉ pathOf segments := fun h =>
    (isWritten_facts (written _ h)).2.2.2.2 rfl
  have slash : ∀ c ∈ (pathOf segments).head?, c = '/' := by
    obtain ⟨first, rest, rfl⟩ := List.exists_cons_of_ne_nil some
    rintro c ⟨rfl⟩
    rfl
  rw [Target.path, htarget, clean_eq_self written, pathPart_eq_self written slash,
    normalize_pathOf plain some, doublePercent_eq_self percent, unescape_eq_self percent]

end

/-! ## Ids -/

theorem isPlain_of_read {s id : String} (reads : Uuid.read? s = some id) {c : Char}
    (hc : c ∈ s.toList) : isPlain c := by
  have uuid : Uuid.isUuid s.toList = true := by
    by_contra h
    rw [Uuid.read?, if_neg h] at reads
    cases reads
  rw [Uuid.isUuid, Bool.and_eq_true, List.all_eq_true] at uuid
  rcases @Text.mem_fields '-' _ _ hc with rfl | ⟨piece, hpiece, hc⟩
  · decide
  · exact isPlain_of_isHexDigit (List.all_eq_true.mp (uuid.2 piece hpiece) c hc)

theorem ne_nil_of_read {s id : String} (reads : Uuid.read? s = some id) : s.toList ≠ [] := by
  intro empty
  rw [Uuid.read?, empty] at reads
  cases reads

theorem lowerFrom_plain {cs : List Char} (plain : ∀ c ∈ cs, isPlain c) (before : List Char) :
    Text.lowerFrom before cs = cs.map Char.toLower := by
  induction cs generalizing before with
  | nil => rfl
  | cons c cs ih =>
    rw [List.forall_mem_cons] at plain
    obtain ⟨dotted, sigma, lower⟩ := forall_ascii (p := fun c => isPlain c = true →
      c ≠ '\u0130' ∧ c ≠ '\u03a3' ∧ Text.lowerChar c = c.toLower) (by decide +kernel)
      (toNat_lt_of_isPlain plain.1) plain.1
    rw [Text.lowerFrom, ih plain.2, Text.lowerAt, if_neg dotted, if_neg sigma, lower]
    rfl

theorem lower_of_read {s id : String} (reads : Uuid.read? s = some id) : Text.lower s = id := by
  rw [Text.lower, lowerFrom_plain fun c hc => isPlain_of_read reads hc]
  rw [Uuid.read?] at reads
  split at reads
  · exact Option.some.inj reads
  · cases reads

/-! ## What plain requests ask -/

theorem Route.isGuarded_of_protocol {method : String} {path : List Char} {endpoint : Endpoint}
    (leads : Route.find? method path = some (.protocol endpoint)) :
    Route.isGuarded path = true := by
  unfold Route.find? at leads
  unfold Route.isGuarded
  split at leads
  · split at leads <;> cases leads
  · next root folder rest segments =>
    rw [segments]
    split at leads
    · next names => exact decide_eq_true names.1
    · cases leads
  · cases leads

theorem Route.find?_pathOf (method name : String) {version : List Char}
    (plain : ∀ segment ∈ ["v1".toList, "client".toList, name.toList, version],
      ∀ c ∈ segment, isPlain c) :
    Route.find? method (pathOf ["v1".toList, "client".toList, name.toList, version]) =
      (Route.versioned? method name version).map .protocol := by
  rw [Route.find?, segments_pathOf plain]
  simp only [String.ofList_toList, and_self, if_true, Route.endpoint?]

/-- A request names a client in its header and a version at the end of its path. -/
structure Request.Names (request : Request) (method name client version : String) : Prop where
  verb : request.verb = method
  target : ∃ text, request.target = "/v1/client/" ++ name ++ "/" ++ text ∧
    Uuid.read? text = some version
  header : ∃ text, request.headers.filled? "x-client-id" = some text ∧
    Uuid.read? text = some client

namespace Request.Names

variable {request : Request} {method name client version : String}
  (names : request.Names method name client version)
include names

theorem readClient : Command.readClient request.headers = .ok client := by
  obtain ⟨text, given, reads⟩ := names.header
  rw [Command.readClient, given]
  simp only [reads]

theorem admits {allowlist : Allowlist} (permitted : allowlist.ids = [] ∨ client ∈ allowlist.ids) :
    allowlist.admits request.headers = true := by
  obtain ⟨text, given, reads⟩ := names.header
  rw [Allowlist.admits, given]
  rcases permitted with empty | listed
  · rw [empty]
    rfl
  · simp [lower_of_read reads, listed]

theorem route (get : method ≠ "HEAD") (plain : name.toList.all isPlain) :
    ∃ text : List Char, text ≠ [] ∧ Uuid.read? (Route.parameter text) = some version ∧
      (App.destination request).route = (Route.versioned? method name text).map .protocol := by
  obtain ⟨text, target, reads⟩ := names.target
  have segments : ∀ segment ∈ ["v1".toList, "client".toList, name.toList, text.toList],
      ∀ c ∈ segment, isPlain c := by
    simp only [List.forall_mem_cons]
    exact ⟨List.all_eq_true.mp (by decide), List.all_eq_true.mp (by decide),
      List.all_eq_true.mp plain, fun c hc => isPlain_of_read reads hc, nofun⟩
  have path : Target.path request.target = _ :=
    path_eq_self segments (List.cons_ne_nil _ _) (by rw [target]; simp [pathOf])
  refine ⟨text.toList, ne_nil_of_read reads, ?_, ?_⟩
  · rw [Route.parameter, unescape_eq_self, String.ofList_toList, reads]
    exact fun h => (isPlain_facts (isPlain_of_read reads h)).2 (by decide)
  · rw [App.destination, names.verb, path, if_neg get, Route.find?_pathOf _ _ segments]

end Request.Names

/-- A request has a body that is not empty, and does not say that it is of another type. -/
structure Request.Carries (request : Request) (mediaType : String) (bytes : Bytes) : Prop where
  type : ∀ given ∈ request.headers.filled? "content-type",
    occursIn mediaType.toList given.toList = true
  body : request.body.bytes = bytes
  filled : bytes ≠ []

theorem occursIn_self (part : List Char) : occursIn part part = true := by
  cases part with
  | nil => rfl
  | cons c part => simp [occursIn]

theorem Request.Carries.readBody {request : Request} {mediaType what : String} {bytes : Bytes}
    (carries : request.Carries mediaType bytes) :
    Command.readBody mediaType what request = .ok bytes := by
  have type : occursIn mediaType.toList
      ((request.headers.filled? "content-type").getD mediaType).toList = true := by
    cases given : request.headers.filled? "content-type" with
    | none => exact occursIn_self _
    | some given' => exact carries.type given' given
  have filled := carries.filled
  simp [Command.readBody, type, carries.body, filled]

theorem toOption_bind {ε α β : Type} {x : Except ε α} {f : α → Except ε β} {b : β} :
    (x >>= f).toOption = some b ↔ ∃ a, x = .ok a ∧ (f a).toOption = some b := by
  cases x with
  | error e => exact iff_of_false nofun (fun ⟨_, h, _⟩ => nomatch h)
  | ok a => exact ⟨fun h => ⟨a, rfl, h⟩, fun ⟨_, h, hb⟩ => Except.ok.inj h ▸ hb⟩

theorem toOption_pure {ε α : Type} {a b : α} :
    (pure a : Except ε α).toOption = some b ↔ a = b :=
  Option.some_inj

theorem body_of_readBody {request : Request} {mediaType what : String} {bytes : Bytes}
    (reads : Command.readBody mediaType what request = .ok bytes) : bytes = request.body.bytes := by
  simp only [Command.readBody] at reads
  split at reads
  · cases reads
  · split at reads
    · cases reads
    · exact (Except.ok.inj reads).symm

/-- The client that a request names, in lower case. -/
def Request.client? (request : Request) : Option String :=
  (request.headers.filled? "x-client-id").map Text.lower

namespace Command

variable {request : Request}

theorem client_of_readClient {client : String}
    (reads : readClient request.headers = .ok client) : request.client? = some client := by
  unfold readClient at reads
  unfold Request.client?
  split at reads
  · cases reads
  · next value given =>
    split at reads
    · cases reads
    · next id read =>
      rw [given, Option.map_some, lower_of_read read, Except.ok.inj reads]

theorem read_of_readVersion {place value version : String}
    (reads : readVersion place value = .ok version) : Uuid.read? value = some version := by
  unfold readVersion at reads
  split at reads
  · cases reads
  · next id read => rw [read, Except.ok.inj reads]

/-- What a command of a client says, by the endpoint and the request that it was read from. -/
inductive Means (request : Request) (client : String) : Endpoint → Command → Prop where
  | addVersion {given parent : String} (names : Uuid.read? given = some parent) :
      Means request client (.addVersion given) (.addVersion client parent request.body.bytes)
  | getChildVersion {given parent : String} (names : Uuid.read? given = some parent) :
      Means request client (.getChildVersion given) (.getChildVersion client parent)
  | addSnapshot {given version : String} (names : Uuid.read? given = some version) :
      Means request client (.addSnapshot given) (.addSnapshot client version request.body.bytes)
  | getSnapshot : Means request client .getSnapshot (.getSnapshot client)

theorem means_of_read {endpoint : Endpoint} {command : Command}
    (reads : (Command.read request endpoint).toOption = some command) :
    ∃ client, readClient request.headers = .ok client ∧
      Means request client endpoint command := by
  cases endpoint with
  | addVersion given =>
    simp only [Command.read, toOption_bind, toOption_pure] at reads
    obtain ⟨client, named, parent, names, bytes, body, rfl⟩ := reads
    rw [body_of_readBody body]
    exact ⟨client, named, .addVersion (read_of_readVersion names)⟩
  | getChildVersion given =>
    simp only [Command.read, toOption_bind, toOption_pure] at reads
    obtain ⟨client, named, parent, names, rfl⟩ := reads
    exact ⟨client, named, .getChildVersion (read_of_readVersion names)⟩
  | addSnapshot given =>
    simp only [Command.read, toOption_bind, toOption_pure] at reads
    obtain ⟨client, named, version, names, bytes, body, rfl⟩ := reads
    rw [body_of_readBody body]
    exact ⟨client, named, .addSnapshot (read_of_readVersion names)⟩
  | getSnapshot =>
    simp only [Command.read, toOption_bind, toOption_pure] at reads
    obtain ⟨client, named, rfl⟩ := reads
    exact ⟨client, named, .getSnapshot⟩

end Command

namespace App

variable {app : App} {request : Request}

/-- What the engine is asked for a request that is admitted, not too long, and well formed. -/
def asksAt (app : App) (request : Request) (goal : Destination) : Option Command :=
  match goal.route with
  | some (.protocol endpoint) =>
    if app.allowlist.admits request.headers && !exceeds app.maxBody request then
      (Command.read request endpoint).toOption
    else none
  | _ => none

def asks (app : App) (request : Request) : Option Command :=
  app.asksAt request (destination request)

theorem isGuarded_destination {endpoint : Endpoint}
    (leads : (destination request).route = some (.protocol endpoint)) :
    Route.isGuarded (destination request).path = true := by
  simp only [destination] at leads ⊢
  exact Route.isGuarded_of_protocol leads

def Permits (app : App) (client : String) : Prop :=
  app.allowlist.ids = [] ∨ client ∈ app.allowlist.ids

/-- Requests in plain writing, of clients that are permitted, ask what they say. -/
structure Reads (app : App) : Prop where
  getChildVersion : ∀ request client parent, app.Permits client →
    exceeds app.maxBody request = false →
      request.Names "GET" "get-child-version" client parent →
        app.asks request = some (.getChildVersion client parent)
  addVersion : ∀ request client parent segment, app.Permits client →
    exceeds app.maxBody request = false → request.Names "POST" "add-version" client parent →
      request.Carries segmentType segment →
        app.asks request = some (.addVersion client parent segment)
  addSnapshot : ∀ request client version data, app.Permits client →
    exceeds app.maxBody request = false → request.Names "POST" "add-snapshot" client version →
      request.Carries snapshotType data →
        app.asks request = some (.addSnapshot client version data)

theorem asks_of_names {method name client version : String} {endpoint : String → Endpoint}
    (permitted : app.Permits client) (short : exceeds app.maxBody request = false)
    (names : request.Names method name client version) (get : method ≠ "HEAD")
    (plain : name.toList.all isPlain)
    (leads : ∀ text, text ≠ [] →
      Route.versioned? method name text = some (endpoint (Route.parameter text))) :
    ∃ given, Uuid.read? given = some version ∧
      app.asks request = (Command.read request (endpoint given)).toOption := by
  obtain ⟨text, filled, reads, route⟩ := names.route get plain
  rw [leads text filled] at route
  refine ⟨_, reads, ?_⟩
  rw [asks, asksAt, route, names.admits permitted, short]
  rfl

theorem reads (app : App) : app.Reads where
  getChildVersion := by
    intro request client parent permitted short names
    obtain ⟨given, reads, asks⟩ := @asks_of_names _ _ _ _ _ _ .getChildVersion permitted short names
      (by decide) (by decide) fun text filled => by simp [Route.versioned?, filled]
    rw [asks]
    simp only [Command.read, names.readClient, Command.readVersion, reads]
    rfl
  addVersion := by
    intro request client parent segment permitted short names carries
    obtain ⟨given, reads, asks⟩ := @asks_of_names _ _ _ _ _ _ .addVersion permitted short names
      (by decide) (by decide) fun text filled => by simp [Route.versioned?, filled]
    rw [asks]
    simp only [Command.read, names.readClient, Command.readVersion, reads, carries.readBody]
    rfl
  addSnapshot := by
    intro request client version data permitted short names carries
    obtain ⟨given, reads, asks⟩ := @asks_of_names _ _ _ _ _ _ .addSnapshot permitted short names
      (by decide) (by decide) fun text filled => by simp [Route.versioned?, filled]
    rw [asks]
    simp only [Command.read, names.readClient, Command.readVersion, reads, carries.readBody]
    rfl

theorem means_of_asks {command : Command} (asked : app.asks request = some command) :
    ∃ endpoint client, (destination request).route = some (.protocol endpoint) ∧
      Command.readClient request.headers = .ok client ∧
        Command.Means request client endpoint command := by
  unfold asks asksAt at asked
  split at asked
  · next endpoint route =>
    split at asked
    · obtain ⟨client, named, means⟩ := Command.means_of_read asked
      exact ⟨endpoint, client, route, named, means⟩
    · cases asked
  · cases asked

theorem bytes_of_addVersion {client parent : String} {segment : Bytes}
    (asked : app.asks request = some (.addVersion client parent segment)) :
    segment = request.body.bytes := by
  obtain ⟨endpoint, client, -, -, means⟩ := means_of_asks asked
  cases means
  rfl

end App

end Http

end TaskSync
