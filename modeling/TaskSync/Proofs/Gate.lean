import TaskSync.Proofs.Separation
import TaskSync.Proofs.Traffic

/-!
# Who is let in

A request that names a client who is not on the list is turned away before
anything is asked for it. All that is asked for others is about the client that
the list was searched for, so that nothing is ever stored for anybody else.
-/

namespace TaskSync

namespace Text

theorem lower_eq_empty_iff {s : String} : lower s = "" ↔ s = "" := by
  unfold lower
  rw [String.ofList_eq_empty_iff]
  constructor
  · intro none
    cases h : s.toList with
    | nil => simpa using h
    | cons c cs =>
      rw [h, lowerFrom] at none
      unfold lowerAt at none
      split at none
      · simp at none
      · split at none
        · split at none <;> simp at none
        · simp at none
  · rintro rfl
    rfl

end Text

namespace Http

/-! ## The list -/

namespace Allowlist

theorem mem_ofList {entries : List String} {client : String} :
    client ∈ (ofList entries).ids ↔
      client ≠ "" ∧ ∃ entry ∈ entries, Text.lower (Text.trim entry) = client := by
  simp only [ofList, List.mem_eraseDups, List.mem_filter, List.mem_map, decide_eq_true_eq]
  exact and_comm

theorem ofList_eq_nil_iff {entries : List String} :
    (ofList entries).ids = [] ↔ ∀ entry ∈ entries, Text.trim entry = "" := by
  rw [List.eq_nil_iff_forall_not_mem]
  constructor
  · intro none entry hentry
    by_contra filled
    refine none _ (mem_ofList.mpr ⟨?_, entry, hentry, rfl⟩)
    rwa [ne_eq, Text.lower_eq_empty_iff]
  · intro blank client hclient
    obtain ⟨filled, entry, hentry, rfl⟩ := mem_ofList.mp hclient
    rw [blank entry hentry] at filled
    exact filled rfl

theorem admits_eq_false_iff {list : Allowlist} {request : Request} :
    list.admits request.headers = false ↔
      list.ids ≠ [] ∧ ∃ client, request.client? = some client ∧ client ∉ list.ids := by
  unfold admits Request.client?
  cases request.headers.filled? "x-client-id" with
  | none => simp
  | some value => simp

end Allowlist

/-! ## The path -/

/-- The path of a request is below that of the protocol. -/
def Request.IsProtocol (request : Request) : Prop :=
  "/v1/".toList <+: (App.destination request).path

instance (request : Request) : Decidable request.IsProtocol :=
  inferInstanceAs (Decidable (_ <+: _))

theorem Route.segments_protocol {path : List Char} (below : "/v1/".toList <+: path) :
    ∃ rest, segments path = [] :: ['v', '1'] :: rest := by
  obtain ⟨rest, rfl⟩ := below
  refine ⟨Text.fields '/' rest, ?_⟩
  simp [segments, Text.fields]

namespace Request.IsProtocol

variable {request : Request}

theorem isGuarded (below : request.IsProtocol) :
    Route.isGuarded (App.destination request).path = true := by
  obtain ⟨rest, segments⟩ := Route.segments_protocol below
  unfold Route.isGuarded
  rw [segments]
  rfl

theorem not_banner (below : request.IsProtocol) :
    (App.destination request).route ≠ some .banner := by
  obtain ⟨rest, segments⟩ := Route.segments_protocol below
  simp only [App.destination, Route.find?] at segments ⊢
  rw [segments]
  split <;> simp_all

end Request.IsProtocol

/-! ## What is answered -/

def forbidden : Response := .plain 403 "Forbidden: Client ID not in allowlist"

def Response.IsForbidden (response : Response) : Prop :=
  response.status = forbidden.status ∧ response.content = forbidden.content

namespace App

/-- The conversation with who is not on the list. Of the application it takes nothing. -/
def turnAway (request : Request) : Conversation Response := do
  let goal := destination request
  let response ← logged request goal (pure forbidden)
  return { response with headOnly := goal.method = "HEAD" }

theorem respond_eq_turnAway (app : App) {request : Request} (below : request.IsProtocol)
    (kept : app.allowlist.admits request.headers = false) :
    app.respond request = turnAway request := by
  have guarded : app.guarded request (destination request) = pure forbidden := by
    rw [App.guarded, below.isGuarded, kept]
    rfl
  unfold respond turnAway
  dsimp only
  rw [guarded]

end App

end Http

theorem Scenario.Answers.not_forbidden {result : Result} {response : Http.Response}
    (answers : Answers result response) : ¬ response.IsForbidden := by
  rintro ⟨status, content⟩
  cases answers with
  | added answer =>
    rcases answer with ⟨version, urgency⟩ | head
    · cases urgency <;> cases status
    · cases status
  | child answer | found answer => cases answer <;> cases status
  | stored | broken => cases status
  | unknown => simp [Http.forbidden, Http.Response.plain] at content

namespace Leads

open Http

section

variable {σ α β : Type} {step : σ → (question : Ask) → question.Answer → σ → Prop} {s : σ}

theorem always {post : α → σ → Prop} (h : ∀ value after, post value after) (d : Conversation α) :
    Leads step post d s := by
  induction d generalizing s with
  | done value => exact done (h value s)
  | ask question next ih => exact bind (ask fun answer after _ => ih answer)

theorem turnAway (ignores : IgnoresAsides step) (request : Request) :
    Leads step (fun response _ => response.IsForbidden) (App.turnAway request) s := by
  have inner : Leads step (fun response _ => response = forbidden)
      (pure forbidden : Conversation Response) s := done rfl
  refine bind ((logged ignores inner).mono ?_)
  rintro _ after ⟨sent, id, rfl, rfl⟩
  exact done ⟨rfl, rfl⟩

theorem settle_not_forbidden (ignores : IgnoresAsides step) (app : App) (command : Command)
    (method path : String) :
    Leads step (fun response _ => ¬ response.IsForbidden) (app.settle command method path) s :=
  settle ignores method path
    (always (fun _ _ _ answers => answers.not_forbidden) _)

theorem respond_admitted (ignores : IgnoresAsides step) (app : App) {request : Request}
    (admitted : app.allowlist.admits request.headers = true) :
    Leads step (fun response _ => ¬ response.IsForbidden) (app.respond request) s := by
  have serve (goal : App.Destination) :
      Leads step (fun response _ => ¬ response.IsForbidden) (app.serve request goal) s := by
    unfold App.serve
    split
    · exact done nofun
    · exact done nofun
    · split
      · exact done nofun
      · exact settle_not_forbidden ignores app _ _ _
  have inner (goal : App.Destination) :
      Leads step (fun response _ => ¬ response.IsForbidden) (app.guarded request goal) s := by
    unfold App.guarded
    rw [admitted]
    split
    · exact serve goal
    · simp only [Bool.not_true, Bool.false_eq_true, if_false]
      split
      · exact done nofun
      · exact serve goal
  refine bind ((logged ignores (inner _)).mono ?_)
  rintro _ after ⟨sent, id, allowed, rfl⟩
  exact done allowed

end

end Leads

/-! ## Who is asked about -/

namespace Scenario

open Store
open Http (App Command Response)

theorem Attempts.about {engine : Engine} {command : Command} {calls : List Placed}
    {result : Result} (attempts : Attempts engine command calls result) :
    ∀ p ∈ calls, p.call.client = command.client :=
  attempts.forall_calls (P := fun c => c.client = command.client) rfl (fun _ => rfl)
    fun _ own => own.about

def About (client : String) (said : List Told) : Prop :=
  ∀ told ∈ said, ∀ c, told.question = .store c → c.client = client

theorem About.of_placed {client : String} {said : List Told}
    (about : ∀ p ∈ placed said, p.call.client = client) : About client said := by
  rintro ⟨question, answer⟩ hmem c rfl
  exact about ⟨c, answer⟩ (List.mem_filterMap.mpr ⟨_, hmem, rfl⟩)

theorem settle_hears (app : App) (command : Command) (method path : String)
    {post : Response → List Told → Prop}
    (h : ∀ result said response, Concluded app.engine command result said →
      Answers result response → post response (heard said)) :
    Leads Hears post (app.settle command method path) [] := by
  refine Leads.settle Hears.ignoresAsides method path ?_
  change Leads Hears _ _ (heard [])
  refine Leads.hears ((Attempting.carryOut app.engine command).mono ?_)
  exact fun result said concluded response => h result said response concluded

theorem settle_about (app : App) (command : Command) (method path : String) :
    Leads Hears (fun _ known => About command.client known) (app.settle command method path)
      [] := by
  refine settle_hears app command method path fun result said response concluded _ => ?_
  refine About.of_placed ?_
  rw [placed_heard]
  exact concluded.attempts.about

/-- What is asked of the store for a request is about the client of its command. -/
structure Attends (app : App) (request : Http.Request) (response : Response) (known : List Told) :
    Prop where
  about : ∀ told ∈ known, ∀ c, told.question = .store c →
    ∃ command, app.asks request = some command ∧ c.client = command.client
  success : response.status = 200 → (App.destination request).route = some .banner ∨
    ∃ command, app.asks request = some command

theorem respond_attends (app : App) (request : Http.Request) :
    Leads Hears (Attends app request) (app.respond request) [] := by
  have inner := Leads.respond Hears.ignoresAsides app request (Attends app request)
    (fun none response _ banner => ⟨List.forall_mem_nil _, fun ok => .inl (banner ok)⟩)
    fun command method path asked => (settle_about app command method path).mono
      fun response known about => ⟨fun told hmem c hc => ⟨command, asked, about told hmem c hc⟩,
        fun _ => .inr ⟨command, asked⟩⟩
  refine inner.mono ?_
  rintro _ known ⟨response, id?, ⟨about, success⟩, rfl⟩
  exact ⟨about, success⟩

/-! ## Runs of requests -/

namespace Traffic

variable {start : Backing} {conversations : List (Conversation Response)}

theorem view_eq {β : Type} (view : Backing → β) (moments : List Moment)
    (kept : ∀ e ∈ (run start conversations moments).log.history, ∀ b time,
      view (b.call 0 time e.call).2 = view b) :
    view (run start conversations moments).store = view start := by
  induction moments using List.reverseRecOn with
  | nil => rfl
  | append_singleton moments moment ih =>
    rw [run_snoc] at kept ⊢
    rcases (run start conversations moments).turn_cases moment with same | ⟨question, _, -, more⟩
    · rw [same] at kept ⊢
      exact ih kept
    · rw [more, Log.history_append, List.forall_mem_append] at kept
      rw [more, ← ih kept.1]
      cases question with
      | store c =>
        have last := kept.2 _ (List.mem_singleton_self _)
        unfold Moment.answer
        cases moment.outage with
        | none => exact last _ moment.time
        | some failure => rfl
      | freshId | now | stopwatch | note => rfl

theorem only_eq (moments : List Moment) {client : String}
    (none : ∀ e ∈ (run start conversations moments).log.history, e.call.client ≠ client) :
    (run start conversations moments).store.only client = start.only client :=
  view_eq (·.only client) moments fun e he b time =>
    (Backing.call_within 0 time e.call).others b client (none e he).symm

end Traffic

section

variable {start : Backing} {app : App} {requests : List Http.Request} {i : Nat}
  {request : Http.Request}

/-- Requests that are served by one application, in turns. -/
def served (app : App) (start : Backing) (requests : List Http.Request) (moments : List Moment) :
    Traffic Response :=
  Traffic.run start (requests.map app.respond) moments

theorem served_leads {post : Response → List Told → Prop} (hi : requests[i]? = some request)
    (p : Leads Hears post (app.respond request) []) (moments : List Moment)
    {d : Conversation Response}
    (hd : (served app start requests moments).conversations[i]? = some d) :
    Leads Speaks (fun response said => post response (heard said)) d
      ((served app start requests moments).log.of i) := by
  refine Traffic.hears ?_ p moments hd
  rw [List.getElem?_map, hi, Option.map_some]

theorem served_done {post : Response → List Told → Prop} (hi : requests[i]? = some request)
    (p : Leads Hears post (app.respond request) []) {moments : List Moment} {response : Response}
    (done : (served app start requests moments).Done i response) :
    post response (heard ((served app start requests moments).log.of i)) :=
  (served_leads hi p moments done).of_done

theorem served_heard {P : Told → Prop} (hi : requests[i]? = some request)
    (p : Leads Hears (fun _ known => ∀ told ∈ known, P told) (app.respond request) [])
    (moments : List Moment) :
    ∀ told ∈ heard ((served app start requests moments).log.of i), P told := by
  have present : i < (served app start requests moments).conversations.length := by
    rw [served, Traffic.length_conversations, List.length_map]
    exact (List.getElem?_eq_some_iff.mp hi).1
  obtain ⟨response, later, all⟩ :=
    (served_leads hi p moments (List.getElem?_eq_getElem present)).goesOn
  rw [heard_append] at all
  exact fun told hmem => all told (List.mem_append_left _ hmem)

theorem served_silent (nothing : app.asks request = none) (hi : requests[i]? = some request)
    (moments : List Moment) :
    ∀ told ∈ (served app start requests moments).log.of i, ∀ c, told.question ≠ .store c := by
  intro told hmem c hc
  have known : told ∈ heard ((served app start requests moments).log.of i) :=
    List.mem_filter.mpr ⟨hmem, by rw [hc]; rfl⟩
  have attends := (respond_attends app request).mono fun _ _ (attends : Attends ..) => attends.about
  obtain ⟨command, asked, -⟩ := served_heard hi attends moments told known c hc
  rw [nothing] at asked
  cases asked

theorem served_about (moments : List Moment) {e : Answered}
    (he : e ∈ (served app start requests moments).log.history) :
    ∃ request ∈ requests, ∃ command, app.asks request = some command ∧
      e.call.client = command.client := by
  obtain ⟨⟨i, time, question, answer⟩, hmem, hcall⟩ := List.mem_filterMap.mp he
  have hlt := Traffic.request_lt moments hmem
  rw [List.length_map] at hlt
  cases question with
  | store c =>
    obtain rfl := Option.some.inj hcall
    have told : (⟨.store c, answer⟩ : Told) ∈
        heard ((served app start requests moments).log.of i) :=
      List.mem_filter.mpr ⟨List.mem_filterMap.mpr ⟨_, hmem, if_pos rfl⟩, rfl⟩
    have attends := (respond_attends app requests[i]).mono
      fun _ _ (attends : Attends ..) => attends.about
    obtain ⟨command, asked, about⟩ :=
      served_heard (List.getElem?_eq_getElem hlt) attends moments _ told c rfl
    exact ⟨_, List.getElem_mem hlt, command, asked, about⟩
  | freshId | now | stopwatch | note => cases hcall

end

/-! ## Nobody else -/

theorem listed_of_asks {app : App} {request : Http.Request} {command : Command}
    (asked : app.asks request = some command) :
    request.client? = some command.client ∧
      (app.allowlist.ids ≠ [] → command.client ∈ app.allowlist.ids) := by
  obtain ⟨endpoint, client, route, reads, means⟩ := App.means_of_asks asked
  have named := Command.client_of_readClient reads
  have owner : command.client = client := by
    cases means <;> rfl
  rw [owner]
  refine ⟨named, fun filled => ?_⟩
  by_contra unlisted
  have kept := Http.Allowlist.admits_eq_false_iff.mpr ⟨filled, client, named, unlisted⟩
  unfold App.asks App.asksAt at asked
  simp [route, kept] at asked

/-- Whether a client is on a list as it was given: blanks around an entry do not count, nor does
the case of letters. -/
def Lists (entries : List String) (client : String) : Prop :=
  ∃ entry ∈ entries, Text.lower (Text.trim entry) = client

def Filled (entries : List String) : Prop := ∃ entry ∈ entries, Text.trim entry ≠ ""

/-- What a list of clients does in a run of requests. -/
structure Guards (entries : List String) (start : Backing) (app : App)
    (requests : List Http.Request) (t : Traffic Response) : Prop where
  /-- Who is not on the list is turned away. -/
  outsider : Filled entries → ∀ i request client, requests[i]? = some request →
    request.IsProtocol → request.client? = some client → ¬ Lists entries client →
      ∀ response, t.Done i response → response.IsForbidden
  /-- Nothing is done for such a request: the store is not asked, and no engine is needed. -/
  unheard : Filled entries → ∀ i request client, requests[i]? = some request →
    request.IsProtocol → request.client? = some client → ¬ Lists entries client →
      (∀ told ∈ t.log.of i, ∀ c, told.question ≠ .store c) ∧
        ∀ other : App, other.allowlist = app.allowlist → other.respond request = app.respond request
  nameless : ∀ i request, requests[i]? = some request → request.client? = none →
    ∀ told ∈ t.log.of i, ∀ c, told.question ≠ .store c
  /-- Nothing is stored for who is not on the list. -/
  stored : Filled entries → ∀ client, ¬ Lists entries client →
    t.store.only client = start ∧ t.store.row? client = none
  success : Filled entries → ∀ i request response, requests[i]? = some request →
    request.IsProtocol → t.Done i response → response.status = 200 →
      ∃ client, request.client? = some client ∧ Lists entries client
  /-- Who is on the list is not kept out. -/
  member : ∀ i request value response, requests[i]? = some request →
    request.headers.get? "x-client-id" = some value → Lists entries (Text.lower value) →
      t.Done i response → ¬ response.IsForbidden
  /-- Without entries the list keeps nobody out. -/
  everybody : ¬ Filled entries → ∀ i request response, requests[i]? = some request →
    t.Done i response → ¬ response.IsForbidden

section

variable {entries : List String} {engine : Engine} {maxBody : Number} {request : Http.Request}
  {client : String}

theorem filled_iff : (Http.Allowlist.ofList entries).ids ≠ [] ↔ Filled entries := by
  rw [ne_eq, Http.Allowlist.ofList_eq_nil_iff, Filled]
  simp

theorem listed_of_mem (listed : client ∈ (Http.Allowlist.ofList entries).ids) :
    Lists entries client :=
  (Http.Allowlist.mem_ofList.mp listed).2

theorem kept_of_unlisted (filled : Filled entries) (named : request.client? = some client)
    (unlisted : ¬ Lists entries client) :
    (Http.Allowlist.ofList entries).admits request.headers = false :=
  Http.Allowlist.admits_eq_false_iff.mpr
    ⟨filled_iff.mpr filled, client, named, fun listed => unlisted (listed_of_mem listed)⟩

theorem admits_listed {value : String}
    (given : request.headers.get? "x-client-id" = some value)
    (listed : Lists entries (Text.lower value)) :
    (Http.Allowlist.ofList entries).admits request.headers = true := by
  rw [← Bool.not_eq_false, Http.Allowlist.admits_eq_false_iff]
  rintro ⟨-, client, named, unlisted⟩
  refine unlisted (Http.Allowlist.mem_ofList.mpr ?_)
  obtain ⟨found, hfound, rfl⟩ := Option.map_eq_some_iff.mp named
  obtain ⟨same, filled⟩ := Option.filter_eq_some_iff.mp hfound
  obtain rfl := Option.some.inj (given.symm.trans same)
  refine ⟨?_, listed⟩
  rw [ne_eq, Text.lower_eq_empty_iff]
  simpa using filled

end

theorem Backing.IsNew.only {start : Backing} (new : start.IsNew) (client : String) :
    start.only client = start := by
  cases new <;> rfl

/-- **Nobody else.** Through all requests that one application serves in turns from a new store,
whoever is not on its list of clients is turned away, and nothing is asked of the store or kept in
it for any such client. Whoever is on the list is never told to be kept out. -/
theorem allowlist_confines {start : Backing} (new : start.IsNew) (engine : Engine)
    (maxBody : Number) (entries : List String) (requests : List Http.Request)
    (moments : List Moment) :
    Guards entries start ⟨engine, .ofList entries, maxBody⟩ requests
      (served ⟨engine, .ofList entries, maxBody⟩ start requests moments) := by
  have listed {request : Http.Request} {command : Command} (filled : Filled entries)
      (asked : App.asks ⟨engine, .ofList entries, maxBody⟩ request = some command) :
      request.client? = some command.client ∧ Lists entries command.client := by
    obtain ⟨named, mem⟩ := listed_of_asks asked
    exact ⟨named, listed_of_mem (mem (filled_iff.mpr filled))⟩
  have turned {request : Http.Request} {client : String} (filled : Filled entries)
      (below : request.IsProtocol) (named : request.client? = some client)
      (unlisted : ¬ Lists entries client) (app : App) (list : app.allowlist = .ofList entries) :
      app.respond request = App.turnAway request := by
    refine App.respond_eq_turnAway app below ?_
    rw [list]
    exact kept_of_unlisted filled named unlisted
  have silent {request : Http.Request}
      (nothing : ∀ client, request.client? = some client →
        Filled entries ∧ ¬ Lists entries client) :
      App.asks ⟨engine, .ofList entries, maxBody⟩ request = none := by
    by_contra some
    obtain ⟨command, asked⟩ := Option.ne_none_iff_exists'.mp some
    obtain ⟨filled, unlisted⟩ := nothing _ (listed_of_asks asked).1
    exact unlisted (listed filled asked).2
  constructor
  case outsider =>
    intro filled i request client hi below named unlisted response done
    have p := Leads.turnAway Hears.ignoresAsides (s := []) request
    rw [← turned filled below named unlisted ⟨engine, .ofList entries, maxBody⟩ rfl] at p
    exact served_done hi p done
  case unheard =>
    intro filled i request client hi below named unlisted
    have turned := turned filled below named unlisted
    refine ⟨served_silent (silent fun owner hnamed => ?_) hi moments, fun other list => ?_⟩
    · cases named.symm.trans hnamed
      exact ⟨filled, unlisted⟩
    · rw [turned other list]
      exact (turned ⟨engine, .ofList entries, maxBody⟩ rfl).symm
  case nameless =>
    intro i request hi unnamed
    refine served_silent (silent fun client named => ?_) hi moments
    rw [unnamed] at named
    cases named
  case stored =>
    intro filled client unlisted
    have only : (served ⟨engine, .ofList entries, maxBody⟩ start requests moments).store.only
        client = start := by
      refine (Traffic.only_eq moments ?_).trans (new.only client)
      rintro e he rfl
      obtain ⟨request, -, command, asked, about⟩ := served_about moments he
      rw [about] at unlisted
      exact unlisted (listed filled asked).2
    refine ⟨only, ?_⟩
    rw [← Backing.row?_only, only]
    exact new.row? client
  case success =>
    intro filled i request response hi below done ok
    have attends := served_done hi (respond_attends _ request) done
    rcases attends.success ok with banner | ⟨command, asked⟩
    · exact absurd banner below.not_banner
    · obtain ⟨named, listed⟩ := listed filled asked
      exact ⟨_, named, listed⟩
  case member =>
    intro i request value response hi given listed done
    have admitted := admits_listed given listed
    exact served_done hi (Leads.respond_admitted Hears.ignoresAsides _ admitted) done
  case everybody =>
    intro blank i request response hi done
    have admits : (Http.Allowlist.ofList entries).admits request.headers = true := by
      rw [← Bool.not_eq_false, Http.Allowlist.admits_eq_false_iff, filled_iff]
      exact fun kept => blank kept.1
    exact served_done hi (Leads.respond_admitted Hears.ignoresAsides _ admits) done

/-- A list with blanks and capitals, and with an entry that is none. -/
def guestList : List String := [" AAAAAAAA-AAAA-4AAA-8AAA-AAAAAAAAAAAA ", "  "]

/-- Two clients ask for their snapshots, the first of which is on the list. -/
def guests : List Http.Request :=
  ["aaaaaaaa-aaaa-4aaa-8aaa-aaaaaaaaaaaa", "bbbbbbbb-bbbb-4bbb-8bbb-bbbbbbbbbbbb"].map
    fun client =>
      { method := "GET", target := "/v1/client/snapshot", headers := ⟨[("x-client-id", client)]⟩ }

/-- Both requests go on in turns, until both are answered. -/
def guestMoments : List Moment :=
  (List.replicate 9 [⟨⟨0, 1, "r"⟩, none⟩, ⟨⟨1, 1, "s"⟩, none⟩]).flatten

theorem allowlist_confines_guests :
    (Backing.memory .empty).IsNew ∧
      (guests.map fun request => (App.asks ⟨{}, .ofList guestList, 100⟩ request).isSome) =
        [true, false] ∧
      Guards guestList (.memory .empty) ⟨{}, .ofList guestList, 100⟩ guests
        (served ⟨{}, .ofList guestList, 100⟩ (.memory .empty) guests guestMoments) :=
  ⟨.memory, by decide +kernel, allowlist_confines .memory {} 100 guestList guests guestMoments⟩

end Scenario

end TaskSync
