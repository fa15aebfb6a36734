import TaskSync.Proofs.Uploads

/-!
# What a body is said to be

A request may say of which media type its body is. If what it says has not got
the type of its endpoint in it anywhere, the request is refused before anything
is asked for it. Otherwise it counts as saying just that type, whatever else it
says, and so does a request that says nothing.
-/

namespace TaskSync

/-! ## Texts -/

theorem Text.strip_isInfix (p : Char → Bool) (cs : List Char) : strip p cs <:+: cs := by
  have front : cs.dropWhile p <:+ cs := List.dropWhile_suffix p
  have back : (cs.dropWhile p).reverse.dropWhile p <:+ (cs.dropWhile p).reverse :=
    List.dropWhile_suffix p
  unfold strip
  rw [← List.reverse_prefix, List.reverse_reverse] at back
  exact back.isInfix.trans front.isInfix

namespace Http

theorem occursIn_iff {part cs : List Char} : occursIn part cs = true ↔ part <:+: cs := by
  induction cs with
  | nil => simp [occursIn]
  | cons c cs ih => simp [occursIn, ih, List.infix_cons_iff]

/-- A media type occurs in what a header says. -/
def Mentions (value type : String) : Prop := type.toList <:+: value.toList

instance (value type : String) : Decidable (Mentions value type) :=
  decidable_of_iff _ occursIn_iff

/-- The media type that a header says: what stands before the first semicolon, without the blanks
around it. -/
def mediaType (value : String) : String :=
  Text.trim (String.ofList (value.toList.takeWhile (· ≠ ';')))

/-- What a header says is let pass for a media type if it is nothing, or mentions the type. -/
def Passes (value type : String) : Prop := value = "" ∨ Mentions value type

instance (value type : String) : Decidable (Passes value type) :=
  inferInstanceAs (Decidable (_ ∨ _))

theorem mentions_mediaType (value : String) : Mentions value (mediaType value) := by
  unfold Mentions mediaType Text.trim
  rw [String.toList_ofList, String.toList_ofList]
  have front : value.toList.takeWhile (· ≠ ';') <+: value.toList := List.takeWhile_prefix _
  exact (Text.strip_isInfix _ _).trans front.isInfix

/-! ## Requests -/

/-- The type of the bodies that an endpoint takes, if it takes any. -/
def Endpoint.bodyType? : Endpoint → Option String
  | addVersion _ => some segmentType
  | addSnapshot _ => some snapshotType
  | getChildVersion _ | getSnapshot => none

section

variable {request : Request} {endpoint : Endpoint} {own value : String}

theorem Headers.filled?_of_get? {headers : Headers} {name : String}
    (given : headers.get? name = some value) (filled : value ≠ "") :
    headers.filled? name = some value := by
  unfold filled?
  rw [given, Option.filter_some, if_pos (by simpa using filled)]

theorem readBody_foreign (given : request.headers.get? "content-type" = some value)
    (foreign : ¬ Passes value own) (what : String) :
    Command.readBody own what request = .error "Invalid content type" := by
  obtain ⟨filled, foreign⟩ := not_or.mp foreign
  have absent : occursIn own.toList value.toList = false := by
    rw [← Bool.not_eq_true, occursIn_iff]
    exact foreign
  unfold Command.readBody
  rw [Headers.filled?_of_get? given filled]
  simp [absent]

theorem read_foreign (body : endpoint.bodyType? = some own)
    (given : request.headers.get? "content-type" = some value) (foreign : ¬ Passes value own) :
    ∃ refusal, Command.read request endpoint = .error refusal := by
  cases reads : Command.read request endpoint with
  | error refusal => exact ⟨refusal, rfl⟩
  | ok command =>
    have reads : (Command.read request endpoint).toOption = some command := by
      rw [reads]
      rfl
    have refused := readBody_foreign given foreign
    cases endpoint with
    | addVersion given | addSnapshot given =>
      obtain rfl := Option.some.inj body
      simp only [Command.read, toOption_bind] at reads
      obtain ⟨client, -, version, -, bytes, taken, -⟩ := reads
      rw [refused] at taken
      cases taken
    | getChildVersion given | getSnapshot => cases body

end

/-! ## Refusals -/

/-- The answer to a request that is not well formed. Who is kept out is told only that, and so is who
sends too much. -/
def App.refusal (app : App) (request : Request) (text : String) : Response :=
  if !app.allowlist.admits request.headers then
    .plain 403 "Forbidden: Client ID not in allowlist"
  else if exceeds app.maxBody request then .plain 400 "Request body too large"
  else .plain 400 text

theorem App.refusal_status (app : App) (request : Request) (text : String) :
    (app.refusal request text).status = if app.allowlist.admits request.headers then 400 else 403 := by
  unfold refusal
  cases app.allowlist.admits request.headers with
  | false => rfl
  | true => cases exceeds app.maxBody request <;> rfl

theorem App.guarded_refused {app : App} {request : Request} {endpoint : Endpoint} {text : String}
    (route : (destination request).route = some (.protocol endpoint))
    (refused : Command.read request endpoint = .error text) :
    app.guarded request (destination request) = pure (app.refusal request text) := by
  unfold guarded serve refusal
  rw [isGuarded_destination route, route]
  simp only [refused]
  cases app.allowlist.admits request.headers with
  | false => rfl
  | true => cases exceeds app.maxBody request <;> rfl

/-! ## Another header -/

/-- The headers with a header given anew. -/
def Headers.put (headers : Headers) (name value : String) : Headers :=
  ⟨(name, value) :: headers.entries.filter (·.1 ≠ name)⟩

theorem Headers.get?_put (headers : Headers) (name value other : String) :
    (headers.put name value).get? other =
      if other = name then some value else headers.get? other := by
  unfold put get?
  by_cases same : other = name
  · simp [same]
  · have skipped : (name = other) = False := eq_false (Ne.symm same)
    simp only [List.find?_cons, skipped, decide_false, List.find?_filter, if_neg same]
    congr 2
    funext entry
    by_cases here : entry.1 = other
    · simp [here, same]
    · simp [here]

/-- A request that says its body to be of a media type. -/
def Request.typed (request : Request) (type : String) : Request :=
  { request with headers := request.headers.put "content-type" type }

section

variable (request : Request) (own : String)

theorem get?_typed {name : String} (other : name ≠ "content-type") :
    (request.typed own).headers.get? name = request.headers.get? name := by
  unfold Request.typed
  rw [Headers.get?_put, if_neg other]

theorem filled?_typed {name : String} (other : name ≠ "content-type") :
    (request.typed own).headers.filled? name = request.headers.filled? name := by
  rw [Headers.filled?, Headers.filled?, get?_typed request own other]

theorem destination_typed : App.destination (request.typed own) = App.destination request := rfl

theorem admits_typed (list : Allowlist) :
    list.admits (request.typed own).headers = list.admits request.headers := by
  rw [Allowlist.admits, Allowlist.admits, filled?_typed request own (by decide)]

theorem exceeds_typed (limit : Number) : exceeds limit (request.typed own) = exceeds limit request := by
  have announced : announcedLength? (request.typed own).headers =
      announcedLength? request.headers := by
    unfold announcedLength?
    rw [get?_typed request own (by decide), get?_typed request own (by decide)]
  unfold exceeds
  rw [announced]
  rfl

theorem readClient_typed : Command.readClient (request.typed own).headers =
    Command.readClient request.headers := by
  rw [Command.readClient, Command.readClient, filled?_typed request own (by decide)]

end

section

variable {request : Request} {own value : String}
  (given : request.headers.get? "content-type" = some value)
  (passes : Passes value own)
include given passes

theorem readBody_typed (what : String) :
    Command.readBody own what (request.typed own) = Command.readBody own what request := by
  have said : (request.typed own).headers.get? "content-type" = some own := by
    unfold Request.typed
    rw [Headers.get?_put, if_pos rfl]
  have named : occursIn own.toList
      (((request.typed own).headers.filled? "content-type").getD own).toList = true := by
    rw [Headers.filled?, said, Option.filter_some]
    split <;> exact occursIn_self _
  have mentioned : occursIn own.toList
      ((request.headers.filled? "content-type").getD own).toList = true := by
    by_cases filled : value = ""
    · rw [Headers.filled?, given, filled]
      exact occursIn_self _
    · rw [Headers.filled?_of_get? given filled]
      exact occursIn_iff.mpr (passes.resolve_left filled)
  unfold Command.readBody
  simp only [named, mentioned]
  rfl

theorem read_typed {endpoint : Endpoint} (body : endpoint.bodyType? = some own) :
    Command.read (request.typed own) endpoint = Command.read request endpoint := by
  have taken := readBody_typed given passes
  cases endpoint with
  | addVersion given | addSnapshot given =>
    obtain rfl := Option.some.inj body
    simp only [Command.read, readClient_typed, taken]
  | getChildVersion given | getSnapshot => cases body

theorem respond_typed {app : App} {endpoint : Endpoint}
    (route : (App.destination request).route = some (.protocol endpoint))
    (body : endpoint.bodyType? = some own) :
    app.respond (request.typed own) = app.respond request := by
  refine App.respond_congr rfl ?_ ?_
  · rw [App.requestId?, App.requestId?, get?_typed request own (by decide)]
  · unfold App.guarded App.serve
    rw [destination_typed, route]
    simp only [admits_typed, exceeds_typed, read_typed given passes body]

end

end Http

namespace Scenario

open Store
open Http (App Response)

/-! ## Runs -/

theorem Log.told_mem_snoc (log : Log) (s : Spoken) : s.told ∈ of (log ++ [s]) s.request := by
  have last : s ∈ log ++ [s] := List.mem_append_right _ (List.mem_singleton_self s)
  exact List.mem_filterMap.mpr ⟨s, last, if_pos rfl⟩

/-- A request for which nothing is done, alone or among others. -/
structure TurnedDown (app : App) (request : Http.Request) : Prop where
  unasked : app.asks request = none
  /-- It does not matter which engine there is. -/
  anyEngine : ∀ engine, { app with engine }.respond request = app.respond request
  /-- Whatever is answered around it, no store is called and the request is refused. -/
  silent : ∀ around : Surroundings, placed (converse around (app.respond request) []).2 = [] ∧
    (converse around (app.respond request) []).1.status =
      if app.allowlist.admits request.headers then 400 else 403
  /-- Its turns leave the store as it is. -/
  still : ∀ start requests moments moment, requests[moment.request]? = some request →
    (served app start requests (moments ++ [moment])).store =
      (served app start requests moments).store
  answer : ∀ start requests moments i response, requests[i]? = some request →
    (served app start requests moments).Done i response →
    response.status = if app.allowlist.admits request.headers then 400 else 403

section

variable {app : App} {request : Http.Request} {endpoint : Http.Endpoint} {own value text : String}

theorem served_still {requests : List Http.Request} {start : Backing} {moment : Moment}
    (nothing : app.asks request = none) (hi : requests[moment.request]? = some request)
    (moments : List Moment) :
    (served app start requests (moments ++ [moment])).store =
      (served app start requests moments).store := by
  have silent : ∀ told ∈ (served app start requests (moments ++ [moment])).log.of moment.request,
      ∀ c, told.question ≠ .store c := served_silent nothing hi _
  unfold served at silent ⊢
  rw [Traffic.run_snoc] at silent ⊢
  rcases (Traffic.run start (requests.map app.respond) moments).turn_cases moment with
    same | ⟨question, next, -, more⟩
  · rw [same]
  · rw [more] at silent ⊢
    cases question with
    | store c => exact absurd rfl (silent _ (Log.told_mem_snoc _ _) c)
    | freshId | now | stopwatch | note => rfl

theorem asks_refused (route : (App.destination request).route = some (.protocol endpoint))
    (refused : Http.Command.read request endpoint = .error text) : app.asks request = none := by
  unfold App.asks App.asksAt
  rw [route]
  dsimp only
  rw [refused]
  split <;> rfl

theorem turned_down (route : (App.destination request).route = some (.protocol endpoint))
    (refused : Http.Command.read request endpoint = .error text) : TurnedDown app request := by
  have nothing : app.asks request = none := asks_refused route refused
  have guarded : app.guarded request (App.destination request) =
      pure (app.refusal request text) := App.guarded_refused route refused
  have leads : Leads Hears _ (app.respond request) (heard []) :=
    Leads.respond_refused guarded
  constructor
  case unasked => exact nothing
  case anyEngine =>
    intro engine
    refine App.respond_congr rfl rfl ?_
    rw [guarded, App.guarded_refused route refused]
    rfl
  case silent =>
    intro around
    obtain ⟨status, unheard⟩ := (Leads.speaks leads).converse around
    refine ⟨?_, status.trans (app.refusal_status request text)⟩
    rw [← placed_heard, unheard]
    rfl
  case still =>
    intro start requests moments moment hi
    exact served_still nothing hi moments
  case answer =>
    intro start requests moments i response hi done
    exact (served_done hi leads done).1.trans (app.refusal_status request text)

/-- **What a body is said to be.** If the type of the endpoint is not mentioned, nothing is done for
the request. Otherwise the request is handled just as one that says this type alone, whatever media
type it says. -/
theorem typed_as_mentioned (route : (App.destination request).route = some (.protocol endpoint))
    (body : endpoint.bodyType? = some own)
    (given : request.headers.get? "content-type" = some value) :
    (¬ Http.Passes value own → Http.mediaType value ≠ own ∧ TurnedDown app request) ∧
      (Http.Passes value own → app.respond (request.typed own) = app.respond request) := by
  constructor
  · intro foreign
    obtain ⟨refusal, refused⟩ := Http.read_foreign body given foreign
    refine ⟨?_, turned_down route refused⟩
    rintro rfl
    exact foreign (.inr (Http.mentions_mediaType value))
  · intro passes
    exact Http.respond_typed given passes route body

end

theorem typed_as_mentioned_snapshot :
    (App.destination (inOnePiece.typed Http.snapshotType)).route =
        some (.protocol (.addVersion nilId)) ∧
      ¬ Http.Passes Http.snapshotType Http.segmentType ∧
      Http.mediaType Http.snapshotType ≠ Http.segmentType ∧
      TurnedDown {} (inOnePiece.typed Http.snapshotType) := by
  have route : (App.destination (inOnePiece.typed Http.snapshotType)).route =
      some (.protocol (.addVersion nilId)) := by decide +kernel
  have foreign : ¬ Http.Passes Http.snapshotType Http.segmentType := by decide +kernel
  have given : (inOnePiece.typed Http.snapshotType).headers.get? "content-type" =
      some Http.snapshotType := by decide +kernel
  exact ⟨route, foreign, (typed_as_mentioned route rfl given).1 foreign⟩

/-- A text that mentions the type of a version in a parameter. -/
def textOnceVersion : Http.Request :=
  inOnePiece.typed "text/plain; was=application/vnd.taskchampion.history-segment"

/-- It is stored as a version. -/
theorem text_stored_as_version :
    let answered := ((({} : App).respond textOnceVersion).run World.respond).run
      { backing := .memory .empty }
    (App.destination textOnceVersion).route = some (.protocol (.addVersion nilId)) ∧
      (textOnceVersion.headers.get? "content-type").map Http.mediaType = some "text/plain" ∧
      "text/plain" ≠ Http.segmentType ∧
      answered.1.status = 200 ∧ .content [1, 2, 3] ∈ answered.2.backing.parts := by
  decide +kernel

end Scenario

end TaskSync
